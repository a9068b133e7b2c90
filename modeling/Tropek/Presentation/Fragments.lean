import Mathlib.Data.String.Basic
import Tropek.Library.Fallible
import Tropek.Library.Latest
import Tropek.Store.Rows

namespace Tropek
namespace Presentation

open Library Engine Store KeyedTable

/-!
# Fragments

The heatmap shows one column for each completed run and the trends show one point
for each metric of an evaluation.  Both are built from the rows of that run or
evaluation alone, which is why the fragments can be cached one by one.

Notes and change points are not part of what is cached.  They are overlaid on the
response at read time.
-/

/-- The fidelity of an aggregated metric, as `job_stats` keeps it. -/
structure SliMetadata where
  mode : String
  expectedSamples : Int
  actualSamples : Int
  missingPct : ℚ
  chunksFailed : Int
deriving DecidableEq, Repr

structure SLIValue where
  sloEvaluationId : Nat
  metricName : String
  value : ℚ
deriving DecidableEq, Repr

/-- The database with the columns that only the presentation reads: two of the
evaluations and one of the objectives, by their identifiers. -/
structure Tables extends Database where
  invalidationNote : Nat -> Option String := fun _ => none
  sliMetadata : Nat -> Dict SliMetadata := fun _ => ∅
  tabGroup : Nat -> Option String := fun _ => none
  sliValues : List SLIValue := []

structure HeatmapMetric where
  name : String
  displayName : String
deriving DecidableEq

inductive CellResult where
  | invalidated
  | status (status : IndicatorStatus)
deriving DecidableEq

structure ChangePointMarker where
  direction : String
  changeRelativePct : Option ℚ
  transition : Option String
  changeAbsolute : Option ℚ
deriving DecidableEq

structure HeatmapCellGrouped where
  evaluationId : Nat
  sloEvaluationId : Nat
  periodStart : Instant
  metric : String
  displayName : String
  result : CellResult
  score : ℚ
  value : Option ℚ
  comparedValue : Option ℚ
  changeAbsolute : Option ℚ
  changeRelativePct : Option ℚ
  weight : Int
  keySli : Bool
  passTargets : Option (List CriteriaTarget)
  warningTargets : Option (List CriteriaTarget)
  tabGroup : Option String
  aggregation : Option String
  changePoint : Option ChangePointMarker := none
deriving DecidableEq

inductive SummaryResult where
  | none
  | invalidated
  | result (value : ResultValue)
deriving DecidableEq

structure HeatmapSummaryCell where
  evaluationId : Nat
  periodStart : Instant
  result : SummaryResult
  score : ℚ
  totalScorePassThreshold : Option ℚ := none
  totalScoreWarningThreshold : Option ℚ := none
  sliMetadata : Option (Dict SliMetadata) := none
  sloVersion : Option Int := none
  sliVersion : Option Int := none
  invalidated : Bool := false
  invalidationNote : Option String := none
deriving DecidableEq

structure EvaluationColumn where
  evaluationId : Nat
  periodStart : Instant
  periodEnd : Instant
  evalName : String
  hasNotes : Bool
deriving DecidableEq

structure HeatmapColumnSloFragment where
  sloName : String
  metrics : List HeatmapMetric
  cells : List HeatmapCellGrouped
  summary : HeatmapSummaryCell
deriving DecidableEq

structure HeatmapColumnFragment where
  evaluationRunId : Nat
  column : EvaluationColumn
  perSlo : List HeatmapColumnSloFragment
  compositeSummary : HeatmapSummaryCell
deriving DecidableEq

/-- The targets of a criteria list.  An objective without criteria has none. -/
def resolveTargets (criteria : List String) (value comparedValue : Option ℚ) :
    Except EngineError (Option (List CriteriaTarget)) :=
  if criteria = [] then .ok none else (buildTargets criteria value comparedValue).map some

def shownName (objective : SLOObjectiveRow) : String :=
  if objective.displayName = "" then objective.sli else objective.displayName

def buildCell (tables : Tables) (run : EvaluationRun) (sloEval : SLOEvaluation)
    (row : IndicatorResultRow) : Except EngineError HeatmapCellGrouped := do
  let passTargets <- resolveTargets row.objective.passThreshold row.value row.comparedValue
  let warningTargets <- resolveTargets row.objective.warningThreshold row.value row.comparedValue
  return {
    evaluationId := run.id
    sloEvaluationId := sloEval.id
    periodStart := run.periodStart
    metric := row.objective.sli
    displayName := shownName row.objective
    result := if sloEval.invalidated then .invalidated else .status row.status
    score := row.score
    value := row.value
    comparedValue := row.comparedValue
    changeAbsolute := row.changeAbsolute
    changeRelativePct := row.changeRelativePct
    weight := row.objective.weight
    keySli := row.objective.keySli
    passTargets
    warningTargets
    tabGroup := tables.tabGroup row.objective.id
    aggregation := ((tables.sliMetadata sloEval.id).lookup row.objective.sli).map (·.mode) }

/-- The metrics of the cells in order, each with the name it is first shown under. -/
def columnMetrics (rows : List IndicatorResultRow) : List HeatmapMetric :=
  rows.foldl (fun metrics row =>
    if metrics.any (·.name = row.objective.sli) then metrics
    else metrics ++ [{ name := row.objective.sli, displayName := shownName row.objective }]) []

/-- `achieved / total * 100`, rounded, or zero when there are no points. -/
def pointsScore (achievedPoints totalPoints : Option Int) : ℚ :=
  match totalPoints, achievedPoints with
  | some total, some achieved =>
      if total = 0 then 0 else roundTwoPlaces ((achieved : ℚ) / total * 100)
  | _, _ => 0

def sloSummaryResult (sloEval : SLOEvaluation) : SummaryResult :=
  if sloEval.invalidated then .invalidated else sloEval.result.elim .none .result

def buildSloFragment (tables : Tables) (run : EvaluationRun) (sloEval : SLOEvaluation) :
    Except EngineError HeatmapColumnSloFragment := do
  let cells <- sloEval.indicatorRows.rows.mapM (buildCell tables run sloEval)
  let sliMetadata := tables.sliMetadata sloEval.id
  return {
    sloName := sloEval.sloName
    metrics := columnMetrics sloEval.indicatorRows.rows
    cells
    summary := {
      evaluationId := run.id
      periodStart := run.periodStart
      result := sloSummaryResult sloEval
      score := pointsScore sloEval.achievedPoints sloEval.totalPoints
      totalScorePassThreshold := sloEval.jobStats.totalScorePassThreshold
      totalScoreWarningThreshold := sloEval.jobStats.totalScoreWarningThreshold
      sliMetadata := if sliMetadata.keys = [] then none else some sliMetadata
      sloVersion := sloEval.sloVersion
      sliVersion := sloEval.sliVersion
      invalidated := sloEval.invalidated
      invalidationNote := tables.invalidationNote sloEval.id } }

def sloEvaluationsOf (tables : Tables) (runId : Nat) : List SLOEvaluation :=
  tables.evaluations.rows.filter (·.evaluationId = runId)

def buildCompositeSummaryForRun (run : EvaluationRun) (sloEvaluations : List SLOEvaluation) :
    HeatmapSummaryCell :=
  { evaluationId := run.id
    periodStart := run.periodStart
    result :=
      if sloEvaluations.any (·.invalidated) then .invalidated else run.result.elim .none .result
    score := pointsScore run.achievedPoints run.totalPoints }

def buildColumnFragment (tables : Tables) (run : EvaluationRun) (hasNotes : Bool) :
    Except EngineError HeatmapColumnFragment := do
  let sloEvaluations := sloEvaluationsOf tables run.id
  let perSlo <- sloEvaluations.mapM (buildSloFragment tables run)
  return {
    evaluationRunId := run.id
    column := {
      evaluationId := run.id
      periodStart := run.periodStart
      periodEnd := run.periodEnd
      evalName := run.evalName
      hasNotes }
    perSlo
    compositeSummary := buildCompositeSummaryForRun run sloEvaluations }

structure HeatmapRequest where
  assetId : Nat
  evaluationName : List String := []
  fromTs : Option Instant := none
  toTs : Option Instant := none
  cache : Bool := true

/-- The completed runs of the window, the newest first.  Without a window there are
at most a hundred. -/
def listRunsForHeatmap (tables : Tables) (request : HeatmapRequest) : List EvaluationRun :=
  let runs := Latest.newestFirst EvaluationRun.periodStart (tables.runs.rows.filter fun run =>
    run.assetId = request.assetId && run.status = .completed &&
      (request.evaluationName = [] || request.evaluationName.contains run.evalName) &&
      request.fromTs.all (· ≤ run.periodStart) && request.toTs.all (run.periodStart ≤ ·))
  if request.fromTs.isNone && request.toTs.isNone then runs.take 100 else runs

def getGroupedMetricHeatmap (tables : Tables) (assetId : Nat) (runIdFilter : List Nat) :
    List EvaluationRun :=
  Latest.newestFirst EvaluationRun.periodStart (tables.runs.rows.filter fun run =>
    run.assetId = assetId && run.status = .completed && runIdFilter.contains run.id)

structure TrendFragmentPoint where
  metric : String
  value : ℚ
  score : ℚ
  result : IndicatorStatus
  baseline : Option ℚ
  targets : IndicatorTargets
deriving DecidableEq

structure TrendColumnFragment where
  sloEvaluationId : Nat
  sloName : String
  periodStart : Instant
  periodEnd : Instant
  evaluationName : String
  points : List TrendFragmentPoint
deriving DecidableEq

structure TrendRow where
  evaluation : SLOEvaluation
  sliValue : SLIValue
  indicator : IndicatorResultRow

def joinEvaluation (tables : Tables) (evaluation : SLOEvaluation) : List TrendRow :=
  (tables.sliValues.filter (·.sloEvaluationId = evaluation.id)).flatMap fun sliValue =>
    (evaluation.indicatorRows.rows.filter (·.objective.sli = sliValue.metricName)).map
      fun indicator => { evaluation, sliValue, indicator }

def trendJoin (tables : Tables) (assetId : Nat) (sloEvaluationIds : List Nat) : List TrendRow :=
  (tables.evaluations.rows.filter fun evaluation =>
    evaluation.assetId = assetId && sloEvaluationIds.contains evaluation.id).flatMap
      (joinEvaluation tables)

/-- `ORDER BY period_start, metric_name`. -/
def trendRowBefore (first second : TrendRow) : Prop :=
  first.evaluation.periodStart < second.evaluation.periodStart ∨
    (first.evaluation.periodStart = second.evaluation.periodStart ∧
      first.sliValue.metricName ≤ second.sliValue.metricName)

instance : DecidableRel trendRowBefore := fun _ _ => inferInstanceAs (Decidable (_ ∨ _))

def trendRows (tables : Tables) (assetId : Nat) (sloEvaluationIds : List Nat) : List TrendRow :=
  (trendJoin tables assetId sloEvaluationIds).insertionSort trendRowBefore

/-- The weight of all objectives that an evaluation has an indicator row for. -/
def totalWeight (evaluation : SLOEvaluation) : Int :=
  (evaluation.indicatorRows.rows.map (·.objective.weight)).sum

def buildTrendPoint (totalWeight : Int) (row : TrendRow) : TrendFragmentPoint :=
  { metric := row.sliValue.metricName
    value := row.sliValue.value
    score :=
      if totalWeight = 0 then 0 else roundTwoPlaces (row.indicator.score / totalWeight * 100)
    result := row.indicator.status
    baseline := row.indicator.comparedValue
    targets := row.indicator.targets }

def buildTrendFragment (sloName : String) : List TrendRow -> Option TrendColumnFragment
  | [] => none
  | first :: rest => some {
      sloEvaluationId := first.evaluation.id
      sloName
      periodStart := first.evaluation.periodStart
      periodEnd := first.evaluation.periodEnd
      evaluationName := first.evaluation.evaluationName
      points := (first :: rest).map (buildTrendPoint (totalWeight first.evaluation)) }

def getTrendFragmentRows (tables : Tables) (assetId : Nat) (sloName : String)
    (sloEvaluationIds : List Nat) : List TrendColumnFragment :=
  let rows := trendRows tables assetId sloEvaluationIds
  (rows.map (·.evaluation.id)).eraseDups.filterMap fun id =>
    buildTrendFragment sloName (rows.filter (·.evaluation.id = id))

structure TrendRequest where
  assetId : Nat
  sloName : String
  fromTs : Instant
  toTs : Option Instant := none
  cache : Bool := true

def listSloEvaluationIdsForTrend (tables : Tables) (request : TrendRequest) : List Nat :=
  (Latest.oldestFirst SLOEvaluation.periodStart (tables.evaluations.rows.filter fun row =>
    row.assetId = request.assetId && row.sloName = request.sloName && !row.invalidated &&
      row.result.isSome && request.fromTs ≤ row.periodStart &&
      request.toTs.all (row.periodStart ≤ ·))).map (·.id)

def columnFragment (tables : Tables) (runId : Nat) : Option HeatmapColumnFragment :=
  (tables.runs.find runId).bind fun run =>
    if run.status = .completed then (buildColumnFragment tables run false).toOption else none

/-- The fragment of an evaluation, when it is the only one that is asked for. -/
def trendFragment (tables : Tables) (sloEvaluationId : Nat) : Option TrendColumnFragment :=
  (tables.evaluations.find sloEvaluationId).bind fun evaluation =>
    buildTrendFragment evaluation.sloName (trendRows tables evaluation.assetId [sloEvaluationId])

instance : IsTrans TrendRow trendRowBefore :=
  ⟨fun first second third earlier later => by
    rcases earlier with before | ⟨same, name⟩
    · rcases later with after | ⟨alsoSame, _⟩
      · exact Or.inl (lt_trans before after)
      · exact Or.inl (alsoSame ▸ before)
    · rcases later with after | ⟨alsoSame, alsoName⟩
      · exact Or.inl (same ▸ after)
      · exact Or.inr ⟨same.trans alsoSame, le_trans name alsoName⟩⟩

instance : Std.Total trendRowBefore :=
  ⟨fun first second => by
    rcases lt_trichotomy first.evaluation.periodStart second.evaluation.periodStart with
      before | same | after
    · exact Or.inl (Or.inl before)
    · rcases le_total first.sliValue.metricName second.sliValue.metricName with name | name
      · exact Or.inl (Or.inr ⟨same, name⟩)
      · exact Or.inr (Or.inr ⟨same.symm, name⟩)
    · exact Or.inr (Or.inl after)⟩

variable {assetId : Nat} {ids : List Nat} {tables : Tables} {fragment : HeatmapColumnFragment}
  {run : EvaluationRun}

theorem mem_trendRows {row : TrendRow} (member : row ∈ trendRows tables assetId ids) :
    row.evaluation ∈ tables.evaluations.rows ∧ row.evaluation.assetId = assetId ∧
      row.evaluation.id ∈ ids := by
  have joined := (List.mem_insertionSort _).mp member
  rcases List.mem_flatMap.mp joined with ⟨evaluation, selected, joined⟩
  rcases List.mem_flatMap.mp joined with ⟨sliValue, _, joined⟩
  rcases List.mem_map.mp joined with ⟨indicator, _, same⟩
  rcases List.mem_filter.mp selected with ⟨stored, chosen⟩
  simp only [Bool.and_eq_true, decide_eq_true_eq, List.contains_iff_mem] at chosen
  rw [<- same]
  exact ⟨stored, chosen⟩

theorem joinEvaluation_evaluation {evaluation : SLOEvaluation} {row : TrendRow}
    (member : row ∈ joinEvaluation tables evaluation) : row.evaluation = evaluation := by
  rcases List.mem_flatMap.mp member with ⟨sliValue, _, joined⟩
  rcases List.mem_map.mp joined with ⟨indicator, _, same⟩
  rw [<- same]

/-- Selecting among what chosen rows expand to, when the selection takes all or nothing
of each. -/
theorem filter_flatMap_filter {Row Item : Type} (rows : List Row) (chosen narrower : Row -> Bool)
    (expand : Row -> List Item) (wanted : Item -> Bool)
    (wholly : forall row, narrower row = true ->
      chosen row = true ∧ (expand row).filter wanted = expand row)
    (not : forall row, chosen row = true -> narrower row = false ->
      (expand row).filter wanted = []) :
    ((rows.filter chosen).flatMap expand).filter wanted =
      (rows.filter narrower).flatMap expand := by
  induction rows with
  | nil => rfl
  | cons row rest ih =>
      cases isNarrower : narrower row with
      | true =>
          rcases wholly row isNarrower with ⟨isChosen, whole⟩
          rw [List.filter_cons_of_pos isChosen, List.filter_cons_of_pos isNarrower,
            List.flatMap_cons, List.flatMap_cons, List.filter_append, whole, ih]
      | false =>
          rw [List.filter_cons_of_neg (Bool.eq_false_iff.mp isNarrower)]
          cases isChosen : chosen row with
          | true =>
              rw [List.filter_cons_of_pos isChosen, List.flatMap_cons, List.filter_append,
                not row isChosen isNarrower, List.nil_append, ih]
          | false =>
              rw [List.filter_cons_of_neg (Bool.eq_false_iff.mp isChosen), ih]

theorem filter_trendRows {id : Nat} (member : id ∈ ids) :
    (trendRows tables assetId ids).filter (·.evaluation.id = id) =
      trendRows tables assetId [id] := by
  unfold trendRows
  rw [Latest.filter_insertionSort]
  congr 1
  apply filter_flatMap_filter
  · intro evaluation narrower
    simp only [Bool.and_eq_true, decide_eq_true_eq, List.contains_iff_mem,
      List.mem_singleton] at narrower ⊢
    refine ⟨⟨narrower.1, narrower.2 ▸ member⟩, List.filter_eq_self.mpr fun row joined => ?_⟩
    rw [joinEvaluation_evaluation joined]
    exact decide_eq_true narrower.2
  · intro evaluation chosen narrower
    simp only [Bool.and_eq_true, decide_eq_true_eq, List.contains_iff_mem] at chosen
    simp only [chosen.1, decide_true, Bool.true_and, List.contains_iff_mem, List.mem_singleton,
      Bool.eq_false_iff, Ne] at narrower
    refine List.filter_eq_nil_iff.mpr fun row joined selected => narrower ?_
    rw [joinEvaluation_evaluation joined] at selected
    exact of_decide_eq_true selected

theorem getTrendFragmentRows_eq {sloName : String} {fragment : TrendColumnFragment}
    (built : fragment ∈ getTrendFragmentRows tables assetId sloName ids) :
    fragment.sloEvaluationId ∈ ids ∧
      (Exists fun evaluation =>
        tables.evaluations.find fragment.sloEvaluationId = some evaluation ∧
          evaluation.assetId = assetId) ∧
      buildTrendFragment sloName (trendRows tables assetId [fragment.sloEvaluationId]) =
        some fragment := by
  rcases List.mem_filterMap.mp built with ⟨id, _, build⟩
  cases rows : (trendRows tables assetId ids).filter (·.evaluation.id = id) with
  | nil =>
      rw [rows] at build
      cases build
  | cons first rest =>
      have inside : first ∈ (trendRows tables assetId ids).filter (·.evaluation.id = id) := by
        rw [rows]
        exact List.mem_cons_self
      rcases List.mem_filter.mp inside with ⟨member, selected⟩
      rw [decide_eq_true_eq] at selected
      rcases mem_trendRows member with ⟨stored, asset, asked⟩
      have isId : fragment.sloEvaluationId = id := by
        rw [rows] at build
        cases build
        exact selected
      rw [isId]
      refine ⟨selected ▸ asked, ⟨first.evaluation, ?_, asset⟩, ?_⟩
      · rw [<- selected]
        exact find_of_mem stored
      · rw [<- filter_trendRows (selected ▸ asked)]
        exact build

theorem buildColumnFragment_runId {hasNotes : Bool}
    (built : buildColumnFragment tables run hasNotes = .ok fragment) :
    fragment.evaluationRunId = run.id := by
  rcases Fallible.bind_eq_ok.mp built with ⟨_, _, same⟩
  cases same
  rfl

theorem columnFragment_of_build {runIds : List Nat}
    (member : run ∈ getGroupedMetricHeatmap tables assetId runIds)
    (built : buildColumnFragment tables run false = .ok fragment) :
    columnFragment tables fragment.evaluationRunId = some fragment ∧ run.id ∈ runIds := by
  have selected := List.mem_filter.mp ((Latest.mem_newestFirst EvaluationRun.periodStart).mp member)
  simp only [Bool.and_eq_true, decide_eq_true_eq, List.contains_iff_mem] at selected
  rcases selected with ⟨stored, ⟨_, completed⟩, asked⟩
  refine ⟨?_, asked⟩
  unfold columnFragment
  rw [buildColumnFragment_runId built, find_of_mem stored, Option.bind_some,
    if_pos completed, built]
  rfl

end Presentation
end Tropek
