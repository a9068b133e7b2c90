import Mathlib.Algebra.BigOperators.Ring.List
import Tropek.Engine.Totals
import Tropek.Library.Joins
import Tropek.Presentation.Recordings
import Tropek.Presentation.Trends

namespace Tropek
namespace Presentation

open Library Engine Store ReEvaluation

/-!
# Stacked trend scores

A trend point has a score in percent: the score of its indicator row over the total
weight, times a hundred and rounded to two decimals.  The charts stack these scores, and
the comment at the query says that they stack to 100% when all indicators pass.

The total weight is summed over all indicator rows of the evaluation, also those of
informational objectives, which the score of the evaluation leaves out.  And only metrics
with a stored value have a point.  So the percentages stack to the score of the evaluation
when the informational weight is zero and nothing that scored lacks its value; and, where
some weight counts at all, when nothing scored.
-/

/-! ## One scoring -/

/-- The indicator rows and the score of the evaluation come from one scoring by the
version. -/
structure WrittenByScoring (sloDef : SLODefinition) (evaluation : SLOEvaluation) : Prop where
  scoring : Exists fun slo => Exists fun metrics => Exists fun baselines =>
    Exists fun comparedIds => Exists fun evalResult =>
      buildSloModel sloDef = .ok slo ∧
        evaluate slo metrics baselines comparedIds = .ok evalResult ∧
        evaluation.indicatorRows.rows =
          buildIndicatorRows sloDef evalResult.indicatorResults ∧
        evaluation.score = some evalResult.score

def rowWeighing (evaluation : SLOEvaluation) : Worker.Weighing :=
  evaluation.indicatorRows.rows.map fun row => (row.objective.weight, row.status)

def exactScore (evaluation : SLOEvaluation) : ℚ :=
  if (rowWeighing evaluation).counted = 0 then 100
  else 100 * (rowWeighing evaluation).earned / (rowWeighing evaluation).counted

structure RowOf (scored : SLOObjectiveRow) (outcome : IndicatorStatus)
    (row : IndicatorResultRow) : Prop where
  objective : row.objective = scored
  status : row.status = outcome
  score : row.score = Worker.Weighing.earnedBy (scored.weight, outcome)
  info : outcome = .info ↔ scored.passThreshold = []

theorem rowOf_of_scored {sloDef : SLODefinition} {metrics baselines : Dict (Option ℚ)}
    (distinct : sloDef.DistinctMetrics) {objectives : List SLOObjectiveRow}
    (listed : forall objective, objective ∈ objectives -> objective ∈ sloDef.objectives.rows)
    {scored : List (ObjectiveResult × IndicatorResult)}
    (related : List.Forall₂ (fun obj pair => evaluateObjective metrics baselines obj = .ok pair)
      (objectives.map SLOObjectiveRow.toModel) scored) :
    List.Forall₂ (fun objective row =>
        RowOf objective (Worker.objectiveStatus metrics baselines objective.toModel) row)
      objectives (buildIndicatorRows sloDef (scored.map Prod.snd)) := by
  induction objectives generalizing scored with
  | nil =>
      cases related
      exact List.Forall₂.nil
  | cons objective rest ih =>
      cases related with
      | @cons _ pair _ others first remaining =>
          have later := ih
            (fun other member => listed other (List.mem_cons_of_mem _ member)) remaining
          have metric : pair.2.metric = objective.sli := (evaluateObjective_eq_ok first).1
          have looked : objectiveLookup sloDef pair.2.metric = some objective := by
            rw [metric]
            exact objectiveLookup_of_distinct distinct (listed objective List.mem_cons_self)
          rcases Worker.objectiveStatus_of_scored first with ⟨isStatus, sameScore⟩
          have sameStatus := (evaluateObjective_eq_ok first).2.2.1
          have info : Worker.objectiveStatus metrics baselines objective.toModel = .info ↔
              objective.passThreshold = [] := by
            rcases Fallible.bind_eq_ok.mp first with ⟨result, outcome, _⟩
            unfold Worker.objectiveStatus
            rw [outcome]
            exact scoreObjective_info outcome
          have built : Exists fun row => buildIndicatorRow sloDef pair.2 = some row ∧
              row.objective = objective ∧ row.status = pair.2.status ∧
              row.score = pair.2.score := by
            unfold buildIndicatorRow
            rw [looked]
            exact ⟨_, rfl, rfl, rfl, rfl⟩
          rcases built with ⟨row, isRow, isObjective, rowStatus, rowScore⟩
          have rows : buildIndicatorRows sloDef ((pair :: others).map Prod.snd) =
              row :: buildIndicatorRows sloDef (others.map Prod.snd) := by
            unfold buildIndicatorRows
            rw [List.map_cons, List.filterMap_cons_some isRow]
          rw [rows]
          refine List.Forall₂.cons ⟨isObjective, ?_, ?_, info⟩ later
          · rw [rowStatus, sameStatus, isStatus]
            rfl
          · rw [rowScore, sameScore, isStatus]
            exact (Worker.earnedBy_eq _ _).symm

section Scoring

variable {sloDef : SLODefinition} {evaluation : SLOEvaluation}

theorem WrittenByScoring.rows (written : WrittenByScoring sloDef evaluation) :
    Exists fun status : SLOObjectiveRow -> IndicatorStatus =>
      sloDef.DistinctMetrics ∧
        List.Forall₂ (fun objective row => RowOf objective (status objective) row)
          sloDef.objectives.rows evaluation.indicatorRows.rows ∧
        evaluation.score = some (Worker.Weighing.percentage
          (sloDef.objectives.rows.map fun objective => (objective.weight, status objective))) := by
  rcases written.scoring with
    ⟨slo, metrics, baselines, comparedIds, evalResult, built, evaluated, rows, score⟩
  have model := (buildSlo_eq_ok built).1
  have named := evaluate_metrics evaluated
  rw [model, List.map_map] at named
  have distinct : sloDef.DistinctMetrics := by
    have nodup := evaluation.indicatorRows.nodup
    rw [rows] at nodup
    exact distinct_of_inserted named nodup
  refine ⟨fun objective => Worker.objectiveStatus metrics baselines objective.toModel, distinct,
    ?_, ?_⟩
  · rcases evaluate_eq_ok evaluated with ⟨scored, related, _, _, indicators, _⟩
    rw [rows, indicators]
    rw [model] at related
    exact rowOf_of_scored distinct (fun _ => id) related
  · rw [score, Worker.evaluate_score evaluated]
    unfold Worker.weigh
    rw [model, List.map_map]
    rfl

structure ScoredRow (row : IndicatorResultRow) : Prop where
  score : row.score = Worker.Weighing.earnedBy (row.objective.weight, row.status)
  info : row.status = .info ↔ row.objective.passThreshold = []
  nonneg : 0 ≤ row.objective.weight

theorem earnedBy_nonneg {weight : Int} (nonneg : 0 ≤ weight) (status : IndicatorStatus) :
    0 ≤ Worker.Weighing.earnedBy (weight, status) ∧
      Worker.Weighing.earnedBy (weight, status) ≤ weight := by
  have cast : (0 : ℚ) ≤ weight := by exact_mod_cast nonneg
  cases status <;> simp only [Worker.Weighing.earnedBy] <;> constructor <;> linarith

theorem WrittenByScoring.scoredRow (written : WrittenByScoring sloDef evaluation)
    (nonneg : forall objective, objective ∈ sloDef.objectives.rows -> 0 ≤ objective.weight)
    {row : IndicatorResultRow} (member : row ∈ evaluation.indicatorRows.rows) : ScoredRow row := by
  rcases written.rows with ⟨status, _, related, _⟩
  rcases KeyedTable.mem_related related.flip member with ⟨objective, listed, isRow⟩
  refine ⟨?_, ?_, ?_⟩
  · rw [isRow.score, isRow.objective, isRow.status]
  · rw [isRow.objective, isRow.status]
    exact isRow.info
  · rw [isRow.objective]
    exact nonneg objective listed

theorem WrittenByScoring.score (written : WrittenByScoring sloDef evaluation) :
    evaluation.score = some (roundTwoPlaces (exactScore evaluation)) := by
  rcases written.rows with ⟨status, _, related, score⟩
  have same : rowWeighing evaluation =
      sloDef.objectives.rows.map fun objective => (objective.weight, status objective) := by
    unfold rowWeighing
    refine Latest.map_eq_of_related (related.flip.imp fun row objective isRow => ?_)
    rw [isRow.objective, isRow.status]
  rw [score, <- same]
  rfl

theorem WrittenByScoring.metrics_nodup (written : WrittenByScoring sloDef evaluation) :
    (metricsOf evaluation).Nodup := by
  rcases written.rows with ⟨status, distinct, related, _⟩
  have same : metricsOf evaluation = sloDef.objectives.rows.map (·.sli) := by
    unfold metricsOf
    refine Latest.map_eq_of_related (related.flip.imp fun row objective isRow => ?_)
    rw [isRow.objective]
  rw [same]
  exact distinct

end Scoring

/-! ## The shares of an evaluation -/

def share (row : TrendRow) : ℚ :=
  if totalWeight row.evaluation = 0 then 0
  else row.indicator.score / totalWeight row.evaluation * 100

def pointShares (tables : TrendTables) (evaluation : SLOEvaluation) : List ℚ :=
  (joinEvaluation tables.toTables evaluation).map share

theorem trendPointOf_score (lookup : List (ChangePointKey × ChangePointRow))
    (sloName metricName : String) (row : TrendRow) :
    (trendPointOf lookup sloName metricName row).score = roundTwoPlaces (share row) := by
  unfold trendPointOf share
  dsimp only
  split
  · decide +kernel
  · rfl

def hasStoredValue (tables : TrendTables) (evaluation : SLOEvaluation) (row : IndicatorResultRow) :
    Bool :=
  (tables.sliValues.filter (·.sloEvaluationId = evaluation.id)).any fun sliValue =>
    row.objective.sli = sliValue.metricName

section Shares

variable {tables : TrendTables} {evaluation : SLOEvaluation}

theorem joined_once (evaluation : SLOEvaluation) (keys : (tables.sliValues.map SLIValue.key).Nodup)
    (row : IndicatorResultRow) :
    (tables.sliValues.filter (·.sloEvaluationId = evaluation.id)).countP
      (fun sliValue => row.objective.sli = sliValue.metricName) ≤ 1 := by
  have counted := List.nodup_iff_count_le_one.mp keys (evaluation.id, row.objective.sli)
  rw [List.count_eq_countP, List.countP_map] at counted
  rw [List.countP_filter]
  refine le_trans (le_of_eq (List.countP_congr fun sliValue _ => ?_)) counted
  simp only [Bool.and_eq_true, decide_eq_true_eq, Function.comp_apply, beq_iff_eq, SLIValue.key,
    Prod.mk.injEq]
  constructor
  · rintro ⟨metric, id⟩
    exact ⟨id, metric.symm⟩
  · rintro ⟨id, metric⟩
    exact ⟨metric.symm, id⟩

/-- The shares sum to the scores of the rows with a stored value, over the total
weight. -/
theorem pointShares_sum (evaluation : SLOEvaluation)
    (keys : (tables.sliValues.map SLIValue.key).Nodup) :
    (pointShares tables evaluation).sum =
      if totalWeight evaluation = 0 then 0
      else ((evaluation.indicatorRows.rows.filter (hasStoredValue tables evaluation)).map
        (·.score)).sum / totalWeight evaluation * 100 := by
  have once := Joins.sum_join_once evaluation.indicatorRows.rows
    (fun (sliValue : SLIValue) row => decide (row.objective.sli = sliValue.metricName))
    (fun row _ => joined_once evaluation keys row) (·.score)
  have scores : ((joinEvaluation tables.toTables evaluation).map (·.indicator.score)) =
      ((tables.sliValues.filter (·.sloEvaluationId = evaluation.id)).flatMap fun sliValue =>
        evaluation.indicatorRows.rows.filter (·.objective.sli = sliValue.metricName)).map
          (·.score) := by
    unfold joinEvaluation
    rw [List.map_flatMap, List.map_flatMap]
    refine List.flatMap_congr fun sliValue _ => ?_
    rw [List.map_map]
    rfl
  by_cases weightless : totalWeight evaluation = 0
  · rw [if_pos weightless]
    apply List.sum_eq_zero
    intro value member
    rcases List.mem_map.mp member with ⟨row, joined, same⟩
    rw [<- same, share, joinEvaluation_evaluation joined, if_pos weightless]
  · rw [if_neg weightless]
    have each : pointShares tables evaluation =
        (joinEvaluation tables.toTables evaluation).map fun row : TrendRow =>
          row.indicator.score * (1 / (totalWeight evaluation : ℚ) * 100) := by
      refine List.map_congr_left fun row joined => ?_
      rw [share, joinEvaluation_evaluation joined, if_neg weightless]
      ring
    rw [each, List.sum_map_mul_right, scores, once]
    unfold hasStoredValue
    ring

end Shares

/-! ## The scores that are shown -/

/-- The scores of an evaluation in the trends of its metrics, one metric after the
other. -/
def singleScores (tables : TrendTables) (request : TrendRequest) (evaluation : SLOEvaluation) :
    List ℚ :=
  (metricsOf evaluation).flatMap fun metric =>
    ((getTrendByAssetSlo tables request metric).filter (·.evalId = evaluation.id)).map (·.score)

/-- The scores of an evaluation in the batched trends, after earlier reads of the same
state. -/
def batchedScores (tables : TrendTables) (events : List TrendCacheEvent) (request : TrendRequest)
    (evaluation : SLOEvaluation) : List ℚ :=
  (metricsOf evaluation).flatMap fun metric =>
    ((((getSloTrends tables (cacheAfter tables events) request).1.lookup metric).getD []).filter
      (·.evalId = evaluation.id)).map (·.score)

section Shown

variable {tables : TrendTables} {events : List TrendCacheEvent} {request : TrendRequest}
  {evaluation : SLOEvaluation}

theorem joined_of_range (stored : evaluation ∈ tables.evaluations.rows)
    (inRange : inTrendRange request evaluation = true) (metric : String) :
    ((tables.evaluations.rows.filter (inTrendRange request)).flatMap
        (joinMetric tables metric)).filter (·.evaluation.id = evaluation.id) =
      joinMetric tables metric evaluation := by
  have ofEvaluation : forall other row, row ∈ joinMetric tables metric other ->
      row.evaluation = other := by
    intro other row member
    rw [joinMetric_eq] at member
    exact joinEvaluation_evaluation (List.mem_of_mem_filter member)
  have only : (tables.evaluations.rows.filter fun other => other.id = evaluation.id) =
      [evaluation] := by
    rw [KeyedTable.filter_key, KeyedTable.find_of_mem stored]
    rfl
  have alone : (tables.evaluations.rows.filter fun other =>
      inTrendRange request other && other.id = evaluation.id) = [evaluation] := by
    rw [<- List.filter_filter, only, List.filter_cons_of_pos inRange]
    rfl
  have narrowed : ((tables.evaluations.rows.filter (inTrendRange request)).flatMap
      (joinMetric tables metric)).filter (·.evaluation.id = evaluation.id) =
        (tables.evaluations.rows.filter fun other =>
          inTrendRange request other && other.id = evaluation.id).flatMap
            (joinMetric tables metric) := by
    apply filter_flatMap_filter
    · intro other narrower
      rw [Bool.and_eq_true, decide_eq_true_eq] at narrower
      refine ⟨narrower.1, List.filter_eq_self.mpr fun row member => ?_⟩
      rw [ofEvaluation other row member]
      exact decide_eq_true narrower.2
    · intro other chosen narrower
      rw [chosen, Bool.true_and, decide_eq_false_iff_not] at narrower
      refine List.filter_eq_nil_iff.mpr fun row member selected => narrower ?_
      rw [ofEvaluation other row member] at selected
      exact of_decide_eq_true selected
  rw [narrowed, alone, List.flatMap_cons, List.flatMap_nil, List.append_nil]

theorem metricScores_perm (stored : evaluation ∈ tables.evaluations.rows)
    (inRange : inTrendRange request evaluation = true) (metric : String) :
    (((getTrendByAssetSlo tables request metric).filter (·.evalId = evaluation.id)).map
        (·.score)).Perm
      (((joinEvaluation tables.toTables evaluation).filter
        (·.sliValue.metricName = metric)).map fun row => roundTwoPlaces (share row)) := by
  have sorted := ((Latest.sortBy_perm rowKey
    ((tables.evaluations.rows.filter (inTrendRange request)).flatMap
      (joinMetric tables metric))).filter (·.evaluation.id = evaluation.id)).map fun row =>
        roundTwoPlaces (share row)
  rw [joined_of_range stored inRange, joinMetric_eq] at sorted
  refine List.Perm.trans (List.Perm.of_eq ?_) sorted
  unfold getTrendByAssetSlo getTrendByDomain
  dsimp only
  rw [List.filter_map, List.map_map]
  exact List.map_congr_left fun row _ => trendPointOf_score _ _ _ row

theorem allMetrics_perm (distinct : (metricsOf evaluation).Nodup) :
    ((metricsOf evaluation).flatMap fun metric =>
      ((joinEvaluation tables.toTables evaluation).filter (·.sliValue.metricName = metric)).map
        fun row => roundTwoPlaces (share row)).Perm
      ((pointShares tables evaluation).map roundTwoPlaces) := by
  have covered : forall row, row ∈ joinEvaluation tables.toTables evaluation ->
      row.sliValue.metricName ∈ metricsOf evaluation := by
    intro row member
    rcases List.mem_flatMap.mp member with ⟨sliValue, _, member⟩
    rcases List.mem_map.mp member with ⟨indicator, selected, same⟩
    rcases List.mem_filter.mp selected with ⟨inside, metric⟩
    rw [decide_eq_true_eq] at metric
    rw [<- same, <- metric]
    exact List.mem_map_of_mem inside
  have parts := (Joins.perm_byKey (fun row : TrendRow => row.sliValue.metricName) distinct
    covered).map fun row => roundTwoPlaces (share row)
  rw [List.map_flatMap] at parts
  unfold pointShares
  rw [List.map_map]
  exact parts

theorem singleScores_perm (stored : evaluation ∈ tables.evaluations.rows)
    (inRange : inTrendRange request evaluation = true) (distinct : (metricsOf evaluation).Nodup) :
    (singleScores tables request evaluation).Perm
      ((pointShares tables evaluation).map roundTwoPlaces) :=
  (List.Perm.flatMap_left _ fun metric _ => metricScores_perm stored inRange metric).trans
    (allMetrics_perm distinct)

theorem batchedScores_perm (events : List TrendCacheEvent) (stored : evaluation ∈ tables.evaluations.rows)
    (inRange : inTrendRange request evaluation = true) (distinct : (metricsOf evaluation).Nodup) :
    (batchedScores tables events request evaluation).Perm
      ((pointShares tables evaluation).map roundTwoPlaces) := by
  refine List.Perm.trans (List.Perm.flatMap_left _ fun metric _ => ?_)
    (singleScores_perm stored inRange distinct)
  exact ((sameTrend_of_coherent (cacheAfter_coherent tables events) request metric).points.filter
    _).map _

end Shown

/-! ## Stacking -/

/-- The trend scores of an evaluation stack to its own score.  The points of both endpoints
have the shares, each rounded to two decimals; the shares sum to the score before it is
rounded; and so the scores that are shown miss it by their rounding only. -/
structure Stacks (tables : TrendTables) (events : List TrendCacheEvent) (request : TrendRequest)
    (evaluation : SLOEvaluation) : Prop where
  single : (singleScores tables request evaluation).Perm
    ((pointShares tables evaluation).map roundTwoPlaces)
  batched : (batchedScores tables events request evaluation).Perm
    ((pointShares tables evaluation).map roundTwoPlaces)
  own : evaluation.score = some (roundTwoPlaces (exactScore evaluation))
  exact : (pointShares tables evaluation).sum = exactScore evaluation
  shown : |(singleScores tables request evaluation).sum - roundTwoPlaces (exactScore evaluation)| ≤
    ((singleScores tables request evaluation).length + 1) / 200
  full : (forall row, row ∈ evaluation.indicatorRows.rows -> row.objective.passThreshold ≠ [] ->
    row.status = .pass) -> (pointShares tables evaluation).sum = 100

/-- Some weight counts, and either nothing scored, or informational objectives have no
weight and every row that scored has its value stored. -/
def StacksWhen (tables : TrendTables) (evaluation : SLOEvaluation) : Prop :=
  0 < (rowWeighing evaluation).counted ∧
    ((forall row, row ∈ evaluation.indicatorRows.rows -> row.score = 0) ∨
      ((rowWeighing evaluation).informational = 0 ∧
        forall row, row ∈ evaluation.indicatorRows.rows -> row.score ≠ 0 ->
          hasStoredValue tables evaluation row = true))

theorem sum_rounded_near (shares : List ℚ) :
    |(shares.map roundTwoPlaces).sum - shares.sum| ≤ shares.length / 200 := by
  induction shares with
  | nil => simp
  | cons share rest ih =>
      have here := roundTwoPlaces_near share
      rw [abs_le] at here ih ⊢
      simp only [List.map_cons, List.sum_cons, List.length_cons, Nat.cast_add, Nat.cast_one]
      constructor <;> linarith [here.1, here.2, ih.1, ih.2]

/-- Shares of a larger total make up the percentage of a smaller one only when there is
nothing to share, or nothing is missing and the totals are the same. -/
theorem share_eq_percentage {kept earned : ℚ} {counted informational : Int} (nonneg : 0 ≤ kept)
    (part : kept ≤ earned) (bounded : earned ≤ counted) (informational_nonneg : 0 ≤ informational) :
    ((if counted + informational = 0 then (0 : ℚ)
        else kept / ((counted + informational : Int) : ℚ) * 100) =
      if counted = 0 then 100 else 100 * earned / counted) ↔
      0 < counted ∧ (earned = 0 ∨ (informational = 0 ∧ kept = earned)) := by
  have countedNonneg : (0 : ℚ) ≤ counted := by linarith
  by_cases weightless : counted = 0
  · have nothing : kept = 0 := by
      rw [weightless] at bounded
      push_cast at bounded
      linarith
    rw [if_pos weightless, nothing, zero_div, zero_mul, ite_self, weightless]
    norm_num
  · have positive : 0 < counted := lt_of_le_of_ne (by exact_mod_cast countedNonneg) (Ne.symm weightless)
    have countedPositive : (0 : ℚ) < counted := by exact_mod_cast positive
    have extraNonneg : (0 : ℚ) ≤ informational := by exact_mod_cast informational_nonneg
    have totalPositive : (0 : ℚ) < counted + informational := by linarith
    rw [if_neg weightless, if_neg (by omega)]
    push_cast
    have cross : kept / (counted + informational) * 100 = 100 * earned / counted ↔
        kept * counted = earned * (counted + informational) := by
      rw [div_mul_eq_mul_div, div_eq_div_iff totalPositive.ne' countedPositive.ne']
      constructor <;> intro same <;> linarith
    rw [cross]
    constructor
    · intro same
      refine ⟨positive, ?_⟩
      by_cases nothing : earned = 0
      · exact Or.inl nothing
      · have earnedPositive : 0 < earned := lt_of_le_of_ne (by linarith) (Ne.symm nothing)
        have atMost : kept * counted ≤ earned * counted :=
          mul_le_mul_of_nonneg_right part countedNonneg
        have extra : earned * informational = 0 := by
          have more : 0 ≤ earned * informational := mul_nonneg earnedPositive.le extraNonneg
          linarith [mul_add earned (counted : ℚ) informational]
        have none : (informational : ℚ) = 0 :=
          (mul_eq_zero.mp extra).resolve_left nothing
        refine Or.inr ⟨by exact_mod_cast none, ?_⟩
        rw [none, add_zero] at same
        exact mul_right_cancel₀ countedPositive.ne' same
    · rintro ⟨_, nothing | ⟨none, whole⟩⟩
      · have alsoNothing : kept = 0 := by linarith
        rw [nothing, alsoNothing, zero_mul, zero_mul]
      · rw [none, whole]
        push_cast
        ring

section Weights

variable {evaluation : SLOEvaluation}
  (scored : forall row, row ∈ evaluation.indicatorRows.rows -> ScoredRow row)

include scored

theorem earned_eq_sum :
    (rowWeighing evaluation).earned = (evaluation.indicatorRows.rows.map (·.score)).sum := by
  unfold Worker.Weighing.earned rowWeighing
  rw [List.map_map]
  refine congrArg List.sum (List.map_congr_left fun row member => ?_)
  exact (scored row member).score.symm

theorem weights_nonneg :
    0 ≤ (rowWeighing evaluation).informational ∧
      (rowWeighing evaluation).earned ≤ (rowWeighing evaluation).counted := by
  unfold rowWeighing Worker.Weighing.informational Worker.Weighing.counted Worker.Weighing.earned
  generalize evaluation.indicatorRows.rows = rows at scored
  induction rows with
  | nil => simp
  | cons row rest ih =>
      rcases ih (fun other member => scored other (List.mem_cons_of_mem _ member))
        with ⟨informational, bounded⟩
      have here := scored row List.mem_cons_self
      have earns := earnedBy_nonneg here.nonneg row.status
      simp only [List.map_cons, List.sum_cons, List.filter_cons]
      by_cases info : row.status = .info
      · have nothing : Worker.Weighing.earnedBy (row.objective.weight, row.status) = 0 := by
          rw [info]
          rfl
        simp only [info, decide_true, if_true, ne_eq, not_true_eq_false, decide_false,
          Bool.false_eq_true, if_false, List.map_cons, List.sum_cons]
        rw [info] at nothing
        exact ⟨add_nonneg here.nonneg informational, by rw [nothing, zero_add]; exact bounded⟩
      · simp only [info, decide_false, Bool.false_eq_true, if_false, ne_eq, not_false_eq_true,
          decide_true, if_true, List.map_cons, List.sum_cons, Int.cast_add]
        exact ⟨informational, add_le_add earns.2 bounded⟩

theorem earned_of_pass (pass : forall row, row ∈ evaluation.indicatorRows.rows ->
    row.objective.passThreshold ≠ [] -> row.status = .pass) :
    (rowWeighing evaluation).earned = (rowWeighing evaluation).counted := by
  unfold rowWeighing Worker.Weighing.counted Worker.Weighing.earned
  generalize evaluation.indicatorRows.rows = rows at scored pass
  induction rows with
  | nil => simp
  | cons row rest ih =>
      have others := ih
        (fun other member => scored other (List.mem_cons_of_mem _ member))
        (fun other member => pass other (List.mem_cons_of_mem _ member))
      have here := scored row List.mem_cons_self
      simp only [List.map_cons, List.sum_cons, List.filter_cons, others]
      by_cases info : row.status = .info
      · simp [info, Worker.Weighing.earnedBy]
      · have passes := pass row List.mem_cons_self fun empty => info (here.info.mpr empty)
        simp [passes, Worker.Weighing.earnedBy]

end Weights

theorem totalWeight_eq (evaluation : SLOEvaluation) :
    totalWeight evaluation =
      (rowWeighing evaluation).counted + (rowWeighing evaluation).informational := by
  rw [Worker.counted_add_informational]
  unfold totalWeight rowWeighing
  rw [List.map_map]
  rfl

/-- The trend scores of an evaluation that was written by one scoring stack to its own
score exactly when some weight counts and either nothing scored, or no informational
objective has weight and every row that scored has its value stored. -/
theorem trend_scores_stack_iff {tables : TrendTables} {request : TrendRequest}
    {evaluation : SLOEvaluation} {sloDef : SLODefinition}
    (stored : evaluation ∈ tables.evaluations.rows)
    (inRange : inTrendRange request evaluation = true)
    (keys : (tables.sliValues.map SLIValue.key).Nodup)
    (written : WrittenByScoring sloDef evaluation)
    (nonneg : forall objective, objective ∈ sloDef.objectives.rows -> 0 ≤ objective.weight)
    (events : List TrendCacheEvent) :
    Stacks tables events request evaluation ↔ StacksWhen tables evaluation := by
  have scored : forall row, row ∈ evaluation.indicatorRows.rows -> ScoredRow row :=
    fun row member => written.scoredRow nonneg member
  have scoreNonneg : forall row, row ∈ evaluation.indicatorRows.rows -> 0 ≤ row.score := by
    intro row member
    rw [(scored row member).score]
    exact (earnedBy_nonneg (scored row member).nonneg row.status).1
  have single := singleScores_perm stored inRange written.metrics_nodup
  have batched := batchedScores_perm events stored inRange written.metrics_nodup
  have sum := pointShares_sum evaluation keys
  rw [totalWeight_eq] at sum
  have compared := share_eq_percentage
    (Joins.sum_nonneg fun row member => scoreNonneg row (List.mem_of_mem_filter member))
    (Joins.sum_filter_le scoreNonneg (hasStoredValue tables evaluation))
    ((earned_eq_sum scored).symm.le.trans (weights_nonneg scored).2) (weights_nonneg scored).1
  rw [<- sum, Joins.sum_eq_zero_iff scoreNonneg,
    Joins.sum_filter_eq_iff scoreNonneg (hasStoredValue tables evaluation),
    <- earned_eq_sum scored] at compared
  constructor
  · intro stacked
    exact compared.mp stacked.exact
  · intro condition
    have exact : (pointShares tables evaluation).sum = exactScore evaluation :=
      compared.mpr condition
    refine ⟨single, batched, written.score, exact, ?_, ?_⟩
    · have shares := sum_rounded_near (pointShares tables evaluation)
      have own := roundTwoPlaces_near (exactScore evaluation)
      rw [single.sum_eq, single.length_eq, List.length_map]
      rw [exact, abs_le] at shares
      rw [abs_le] at own ⊢
      constructor <;> linarith [shares.1, shares.2, own.1, own.2]
    · intro pass
      have counted : ((rowWeighing evaluation).counted : ℚ) ≠ 0 := by
        exact_mod_cast condition.1.ne'
      rw [exact, exactScore, if_neg condition.1.ne', earned_of_pass scored pass,
        mul_div_assoc, div_self counted, mul_one]

/-! ## Latency, errors and a gauge

The gauge on the processor is informational.  Without weight it stands beside a latency
that passes and errors that warn; with the weight one, beside the latency alone.
-/

namespace Gauge

def latency : SLOObjectiveRow :=
  { id := 1, sli := "latency", passThreshold := ["<=50"] }

def cpu (weighed : Bool) : SLOObjectiveRow :=
  { id := 2, sli := "cpu", weight := if weighed then 1 else 0 }

def errors : SLOObjectiveRow :=
  { id := 3, sli := "errors", passThreshold := ["<1"], warningThreshold := ["<5"], weight := 3 }

def definition (weighed : Bool) : SLODefinition :=
  { name := "checkout", version := 1
    objectives :=
      ⟨if weighed then [latency, cpu true] else [latency, cpu false, errors],
        by cases weighed <;> decide⟩ }

def metrics : Dict (Option ℚ) :=
  (((∅ : Dict (Option ℚ)).insert "latency" (some 40)).insert "cpu" (some 10)).insert "errors"
    (some 2)

def latencyResult : IndicatorResult :=
  { metric := "latency", displayName := "", value := some 40, comparedValue := none
    status := .pass, score := 1, weight := 1, keySli := false
    passTargets := [⟨"<=50", 50, false⟩], warningTargets := none
    changeAbsolute := none, changeRelativePct := none }

def cpuResult (weighed : Bool) : IndicatorResult :=
  { metric := "cpu", displayName := "", value := some 10, comparedValue := none
    status := .info, score := 0, weight := if weighed then 1 else 0, keySli := false
    passTargets := [], warningTargets := none
    changeAbsolute := none, changeRelativePct := none }

def errorsResult : IndicatorResult :=
  { metric := "errors", displayName := "", value := some 2, comparedValue := none
    status := .warning, score := 3 / 2, weight := 3, keySli := false
    passTargets := [⟨"<1", 1, true⟩], warningTargets := some [⟨"<5", 5, false⟩]
    changeAbsolute := none, changeRelativePct := none }

def result (weighed : Bool) : EvaluationResult :=
  { result := if weighed then .pass else .fail
    score := if weighed then 100 else 125 / 2
    indicatorResults :=
      if weighed then [latencyResult, cpuResult true]
      else [latencyResult, cpuResult false, errorsResult]
    comparedEvaluationIds := [] }

def evaluation (weighed : Bool) : SLOEvaluation :=
  { id := 1, evaluationId := 1, evaluationName := "hourly", assetId := 1, periodStart := 0
    periodEnd := 3600000000, result := some (if weighed then .pass else .fail)
    score := some (if weighed then 100 else 125 / 2), sloName := "checkout"
    sloVersion := some 1, status := .completed
    indicatorRows := ⟨buildIndicatorRows (definition weighed) (result weighed).indicatorResults,
      by cases weighed <;> decide +kernel⟩ }

def tables (weighed : Bool) : TrendTables :=
  { evaluations := KeyedTable.empty.insert (evaluation weighed) rfl, runs := .empty
    sloDefinitions := .empty, sliDefinitions := .empty, dataSources := .empty, assets := .empty
    sliValues := buildSliRows 1 (result weighed).indicatorResults }

def request : TrendRequest :=
  { assetId := 1, sloName := "checkout", fromTs := 0 }

def slo (weighed : Bool) : SLO :=
  { objectives := (definition weighed).objectives.rows.map (·.toModel)
    nonempty := by cases weighed <;> exact List.cons_ne_nil _ _
    comparison := {}, totalScore := {} }

theorem written (weighed : Bool) : WrittenByScoring (definition weighed) (evaluation weighed) := by
  refine ⟨slo weighed, metrics, ∅, [], result weighed, ?_, ?_, rfl, rfl⟩
  · cases weighed <;> rfl
  · cases weighed <;> decide +kernel

end Gauge

theorem trend_scores_stack_without_gauge :
    singleScores (Gauge.tables false) Gauge.request (Gauge.evaluation false) = [25, 0, 75 / 2] ∧
      Stacks (Gauge.tables false) [.read Gauge.request] Gauge.request (Gauge.evaluation false) :=
  ⟨by decide +kernel,
    (trend_scores_stack_iff (by simp [Gauge.tables, KeyedTable.insert, KeyedTable.empty])
      (by decide +kernel) (by decide +kernel) (Gauge.written false) (by decide +kernel) _).mpr
      (by
        refine ⟨by decide +kernel, Or.inr ⟨by decide +kernel, ?_⟩⟩
        decide +kernel)⟩

/-- Everything that is scored passes, and the scores that are shown sum to 50. -/
theorem gauge_halves_the_stack :
    WrittenByScoring (Gauge.definition true) (Gauge.evaluation true) ∧
      singleScores (Gauge.tables true) Gauge.request (Gauge.evaluation true) = [50, 0] ∧
      batchedScores (Gauge.tables true) [] Gauge.request (Gauge.evaluation true) = [50, 0] ∧
      (Gauge.evaluation true).score = some 100 ∧
      ¬ Stacks (Gauge.tables true) [] Gauge.request (Gauge.evaluation true) := by
  have shown : singleScores (Gauge.tables true) Gauge.request (Gauge.evaluation true) = [50, 0] := by
    decide +kernel
  refine ⟨Gauge.written true, shown, by decide +kernel, rfl, ?_⟩
  intro stacked
  have near := stacked.shown
  have own : roundTwoPlaces (exactScore (Gauge.evaluation true)) = 100 := by decide +kernel
  rw [shown, own] at near
  norm_num [abs_of_neg] at near

end Presentation
end Tropek
