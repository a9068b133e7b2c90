import Mathlib.Data.List.Induction
import Tropek.ReEvaluation.Service

namespace Tropek
namespace ReEvaluation

open Library Engine Store Fallible

/-!
# What re-scoring reads and writes

Re-scoring one evaluation reads its measured values, the history of its series
up to the columns that select baselines, and the values that those baselines
measured for the objectives of the version.  Two databases that agree on this
re-score the evaluation alike.

What it writes keeps all of it except the result, as long as no evaluation has
measured a metric twice.
-/

theorem getValue_metrics (rows : List IndicatorResultRow) (metric : String) :
    getValue (metricsFromIndicatorRows rows) metric =
      (rows.reverse.find? fun row => row.objective.sli = metric).bind (·.value) := by
  induction rows using List.reverseRecOn with
  | nil => rfl
  | append_singleton rest last ih =>
      have inserted : metricsFromIndicatorRows (rest ++ [last]) =
          (metricsFromIndicatorRows rest).insert last.objective.sli last.value := by
        unfold metricsFromIndicatorRows
        rw [List.foldl_append]
        rfl
      rw [inserted, List.reverse_append, List.reverse_singleton, List.singleton_append,
        List.find?_cons]
      unfold getValue at ih ⊢
      by_cases same : last.objective.sli = metric
      · rw [<- same, AList.lookup_insert]
        simp
      · rw [AList.lookup_insert_ne (Ne.symm same), ih]
        simp [same]

variable {rows : List IndicatorResultRow} {ev other : SLOEvaluation} {window : Window}
  {baselines others : List SLOEvaluation}

theorem getValue_metrics_eq {metric : String} {value : Option ℚ}
    (all : forall row, row ∈ rows -> row.objective.sli = metric -> row.value = value)
    (measured : metric ∈ rows.map (·.objective.sli)) :
    getValue (metricsFromIndicatorRows rows) metric = value := by
  rcases List.mem_map.mp measured with ⟨witness, member, same⟩
  rw [getValue_metrics]
  cases found : rows.reverse.find? fun row => row.objective.sli = metric with
  | none =>
      have refused := List.find?_eq_none.mp found witness (List.mem_reverse.mpr member)
      exact absurd (decide_eq_true same) refused
  | some row =>
      have inside := List.mem_reverse.mp (List.mem_of_find?_eq_some found)
      have selected := List.find?_some found
      simp only [decide_eq_true_eq] at selected
      exact all row inside selected

theorem getValue_metrics_none {metric : String} (absent : metric ∉ rows.map (·.objective.sli)) :
    getValue (metricsFromIndicatorRows rows) metric = none := by
  rw [getValue_metrics]
  cases found : rows.reverse.find? fun row => row.objective.sli = metric with
  | none => rfl
  | some row =>
      have inside := List.mem_reverse.mp (List.mem_of_find?_eq_some found)
      have selected := List.find?_some found
      simp only [decide_eq_true_eq] at selected
      exact absurd (List.mem_map.mpr ⟨row, inside, selected⟩) absent

def MeasuresOnce (ev : SLOEvaluation) : Prop :=
  (ev.indicatorRows.rows.map (·.objective.sli)).Nodup

instance (ev : SLOEvaluation) : Decidable (MeasuresOnce ev) :=
  inferInstanceAs (Decidable (ev.indicatorRows.rows.map (·.objective.sli)).Nodup)

/-- What an evaluation contributes to a baseline is the value that re-scoring it
would read. -/
theorem valuesOf_measured (once : MeasuresOnce ev) (metric : String) :
    valuesOf metric (measuredValues ev) =
      (getValue (metricsFromIndicatorRows ev.indicatorRows.rows) metric).toList := by
  unfold MeasuresOnce at once
  unfold measuredValues
  generalize ev.indicatorRows.rows = rows at once ⊢
  induction rows with
  | nil => rfl
  | cons head rest ih =>
      rw [List.map_cons, List.nodup_cons] at once
      have later := ih once.2
      unfold valuesOf at later ⊢
      rw [List.map_cons, List.filterMap_cons, later]
      by_cases here : head.objective.sli = metric
      · have absent : metric ∉ rest.map (·.objective.sli) := here ▸ once.1
        have value : getValue (metricsFromIndicatorRows (head :: rest)) metric = head.value := by
          refine getValue_metrics_eq (fun row member same => ?_) (List.mem_cons.mpr (Or.inl here.symm))
          rcases List.mem_cons.mp member with isHead | isLater
          · rw [isHead]
          · exact absurd (List.mem_map.mpr ⟨row, isLater, same⟩) absent
        rw [value, getValue_metrics_none absent]
        cases found : head.value with
        | none => simp
        | some number => simp [here]
      · have value : getValue (metricsFromIndicatorRows (head :: rest)) metric =
            getValue (metricsFromIndicatorRows rest) metric := by
          rw [getValue_metrics, getValue_metrics, List.reverse_cons, List.find?_append]
          simp [here]
        rw [value]
        simp [here]

/-- A row of a window and another version of it that re-scoring cannot tell
apart as a baseline. -/
structure ReadsAlike (window : Window) (first second : SLOEvaluation) : Prop where
  history : first.SameHistory second
  included : first.SameSeries window.assetId window.sloName ->
    includesResult window.sloModel.comparison.includeResultWithScore second.result =
      includesResult window.sloModel.comparison.includeResultWithScore first.result
  values : first.SameSeries window.assetId window.sloName ->
    forall obj, obj ∈ window.sloModel.objectives ->
      valuesOf obj.sli (measuredValues second) = valuesOf obj.sli (measuredValues first)

theorem ReadsAlike.refl (window : Window) (row : SLOEvaluation) : ReadsAlike window row row :=
  ⟨.refl row, fun _ => rfl, fun _ _ _ => rfl⟩

theorem ReadsAlike.trans {first second third : SLOEvaluation} (one : ReadsAlike window first second)
    (two : ReadsAlike window second third) : ReadsAlike window first third := by
  refine ⟨one.history.trans two.history, fun series => ?_, fun series obj member => ?_⟩
  · exact (two.included ((one.history.series _ _).mpr series)).trans (one.included series)
  · exact (two.values ((one.history.series _ _).mpr series) obj member).trans
      (one.values series obj member)

structure ScoredAlike (window : Window) (first second : SLOEvaluation) : Prop where
  history : first.SameHistory second
  metrics : forall obj, obj ∈ window.sloModel.objectives ->
    getValue (metricsFromIndicatorRows second.indicatorRows.rows) obj.sli =
      getValue (metricsFromIndicatorRows first.indicatorRows.rows) obj.sli

theorem mem_getReevalBaselines {table : Evaluations} {assetId : Nat} {sloName : String}
    {before : Instant} {mode : IncludeResultWithScore} {limit : Int} {range : Option (Int × Int)}
    {ids : Option (List Nat)} {skipPin : Bool} {row : SLOEvaluation}
    (selected : getReevalBaselines table assetId sloName before mode limit range ids skipPin =
      some baselines)
    (member : row ∈ baselines) :
    row ∈ table.rows ∧ row.SameSeries assetId sloName ∧ row.periodStart < before := by
  unfold getReevalBaselines latestRows at selected
  split at selected
  · cases selected
  · cases selected
    have inside := Latest.mem_of_mem_latest SLOEvaluation.periodStart member
    rcases List.mem_filter.mp inside with ⟨inTable, accepted⟩
    simp only [baseBaselineQuery, Bool.and_eq_true, decide_eq_true_eq] at accepted
    exact ⟨inTable, accepted.1.1.1.1.1.1.1.1, accepted.1.1.1.1.1.1.1.2⟩

theorem resolveSliVersionRange_congr {first second : Database}
    (sameSli : second.sliDefinitions = first.sliDefinitions) (sliName : Option String)
    (sliVersion : Option Int) :
    resolveSliVersionRange second sliName sliVersion =
      resolveSliVersionRange first sliName sliVersion := by
  unfold resolveSliVersionRange
  rw [sameSli]

theorem valuesOf_related {metric : SLOObjective} (member : metric ∈ window.sloModel.objectives)
    (series : forall row, row ∈ baselines -> row.SameSeries window.assetId window.sloName)
    (alike : List.Forall₂ (ReadsAlike window) baselines others) :
    valuesOf metric.sli (others.flatMap measuredValues) =
      valuesOf metric.sli (baselines.flatMap measuredValues) := by
  rw [valuesOf_flatMap, valuesOf_flatMap]
  induction alike with
  | nil => rfl
  | cons here _ ih =>
      rw [List.forall_mem_cons] at series
      rw [List.flatMap_cons, List.flatMap_cons, here.values series.1 metric member,
        ih series.2]

/-- Scoring against baselines is an evaluation on the values of the indicator rows
and on the aggregated values of the baselines. -/
theorem scoreAgainst_eq (window : Window) (ev : SLOEvaluation) (baselineEvals : List SLOEvaluation) :
    Exists fun baselines =>
      scoreAgainst window ev baselineEvals =
        (evaluate window.sloModel (metricsFromIndicatorRows ev.indicatorRows.rows) baselines
          (baselineEvals.map (·.id))).mapError .engine ∧
        forall metric, getValue baselines metric =
          (aggregateValues (valuesOf metric (baselineEvals.flatMap measuredValues))
            window.sloModel.comparison.aggregateFunction).toOption := by
  rcases computeBaselines_ok baselineEvals window.sloModel.comparison.aggregateFunction with
    ⟨baselines, computed, values⟩
  refine ⟨baselines, ?_, values⟩
  unfold scoreAgainst
  rw [computed]
  rfl

theorem scoreAgainst_alike {baselineEvals : List SLOEvaluation}
    (scored : ScoredAlike window ev other)
    (series : forall row, row ∈ baselineEvals -> row.SameSeries window.assetId window.sloName)
    (alike : List.Forall₂ (ReadsAlike window) baselineEvals others) :
    scoreAgainst window other others = scoreAgainst window ev baselineEvals := by
  have sameIds : baselineEvals.map (·.id) = others.map (·.id) :=
    Latest.map_eq_of_related (alike.imp fun _ _ here => here.history.id.symm)
  rcases scoreAgainst_eq window ev baselineEvals with ⟨baselines, evaluated, values⟩
  rcases scoreAgainst_eq window other others with ⟨otherBaselines, otherEvaluated, otherValues⟩
  have sameBaselines : forall obj, obj ∈ window.sloModel.objectives ->
      getValue otherBaselines obj.sli = getValue baselines obj.sli := by
    intro obj member
    rw [otherValues, values, valuesOf_related member series alike]
  rw [otherEvaluated, evaluated, evaluate_congr _ scored.metrics sameBaselines, sameIds]

/-- Alike databases re-score an evaluation to the same result, with the same
score and the same indicator results, compared with the same evaluations. -/
theorem rescore_alike {first second : Database}
    (sameSli : second.sliDefinitions = first.sliDefinitions)
    (alike : List.Forall₂ (ReadsAlike window) first.evaluations.rows second.evaluations.rows)
    (scored : ScoredAlike window ev other) (defaultRange : Option (Int × Int))
    (eligibleIds : List Nat) :
    rescore window defaultRange second eligibleIds other =
      rescore window defaultRange first eligibleIds ev := by
  have sameRange := resolveSliVersionRange_congr sameSli ev.sliName ev.sliVersion
  have selected := getReevalBaselines_related (fun _ _ here => here.history)
    (fun _ _ here => here.included) alike ev.periodStart
    window.sloModel.comparison.numberOfComparisonResults
    ((resolveSliVersionRange first ev.sliName ev.sliVersion).or defaultRange)
    (restriction eligibleIds) window.skipPin
  unfold rescore Window.baselines
  rw [scored.history.sliName, scored.history.sliVersion, scored.history.periodStart, sameRange]
  dsimp only
  generalize firstIs : getReevalBaselines first.evaluations _ _ _ _ _ _ _ _ = firstFound at selected ⊢
  generalize getReevalBaselines second.evaluations _ _ _ _ _ _ _ _ = secondFound at selected ⊢
  cases selected with
  | none => rfl
  | some rowByRow =>
      exact scoreAgainst_alike scored
        (fun row member => (mem_getReevalBaselines firstIs member).2.1) rowByRow

def rescoredRow (item : ReEvalResultItem) (now : Instant) (indicatorRows : IndicatorRows)
    (row : SLOEvaluation) : SLOEvaluation :=
  (setReEvaluated item now row).setIndicatorRows indicatorRows

theorem rescoredRow_history (item : ReEvalResultItem) (now : Instant)
    (indicatorRows : IndicatorRows) (row : SLOEvaluation) :
    row.SameHistory (rescoredRow item now indicatorRows row) :=
  ⟨rfl, rfl, rfl, rfl, rfl, rfl, rfl, rfl, rfl, rfl, rfl, rfl⟩

theorem Window.objectives (window : Window) :
    window.sloModel.objectives = window.sloDef.objectives.rows.map SLOObjectiveRow.toModel :=
  (buildSlo_eq_ok window.built).1

theorem Window.objectives_nonempty (window : Window) : window.sloDef.objectives.rows ≠ [] := by
  intro empty
  have nonempty := window.sloModel.nonempty
  rw [window.objectives, empty] at nonempty
  exact nonempty rfl

theorem Window.metrics (window : Window) :
    window.sloModel.objectives.map (·.sli) = window.sloDef.objectives.rows.map (·.sli) := by
  rw [window.objectives, List.map_map]
  rfl

section Writing

variable {window : Window} {defaultRange : Option (Int × Int)} {db : Database}
  {eligibleIds : List Nat} {ev : SLOEvaluation} {evalResult : EvaluationResult}

theorem rescore_eq_ok
    (rescored : rescore window defaultRange db eligibleIds ev = .ok evalResult) :
    Exists fun baselines => Exists fun comparedIds =>
      evaluate window.sloModel (metricsFromIndicatorRows ev.indicatorRows.rows) baselines
        comparedIds = .ok evalResult := by
  rcases bind_eq_ok.mp rescored with ⟨baselineEvals, _, rescored⟩
  rcases scoreAgainst_eq window ev baselineEvals with ⟨baselines, same, _⟩
  rw [same] at rescored
  exact ⟨baselines, _, mapError_eq_ok rescored⟩

section Evaluated

variable {metrics baselines : Dict (Option ℚ)} {comparedIds : List Nat}

section

variable (evaluated : evaluate window.sloModel metrics baselines comparedIds = .ok evalResult)

include evaluated

theorem evaluated_metrics :
    evalResult.indicatorResults.map (·.metric) =
      window.sloDef.objectives.rows.map (·.sli) := by
  rw [evaluate_metrics evaluated, window.metrics]

theorem evaluatedRows_metrics :
    (buildIndicatorRows window.sloDef evalResult.indicatorResults).map (·.objective.sli) =
      window.sloDef.objectives.rows.map (·.sli) := by
  have objectives := buildIndicatorRows_objectives (evaluated_metrics evaluated)
  rw [<- scoredObjectives_metrics window.sloDef, <- objectives, List.map_map]
  rfl

theorem evaluatedRows_value {row : IndicatorResultRow}
    (member : row ∈ buildIndicatorRows window.sloDef evalResult.indicatorResults) :
    row.value = getValue metrics row.objective.sli := by
  rcases List.mem_filterMap.mp member with ⟨indicator, inside, built⟩
  unfold buildIndicatorRow at built
  rcases Option.map_eq_some_iff.mp built with ⟨objective, looked, same⟩
  rw [<- same]
  change indicator.value = getValue _ objective.sli
  rw [(objectiveLookup_mem looked).2, evaluate_values evaluated indicator inside]

/-- Re-scoring a rewritten evaluation reads the old value of every metric that
the version scores, and no value for any other. -/
theorem evaluatedRows_getValue (metric : String) :
    getValue (metricsFromIndicatorRows
        (buildIndicatorRows window.sloDef evalResult.indicatorResults)) metric =
      if metric ∈ window.sloDef.objectives.rows.map (·.sli) then getValue metrics metric
      else none := by
  have rowMetrics := evaluatedRows_metrics evaluated
  by_cases scored : metric ∈ window.sloDef.objectives.rows.map (·.sli)
  · rw [if_pos scored]
    refine getValue_metrics_eq (fun row member same => ?_) (rowMetrics ▸ scored)
    rw [evaluatedRows_value evaluated member, same]
  · rw [if_neg scored]
    exact getValue_metrics_none (rowMetrics ▸ scored)

end

end Evaluated

theorem rescore_metrics
    (rescored : rescore window defaultRange db eligibleIds ev = .ok evalResult) :
    evalResult.indicatorResults.map (·.metric) =
      window.sloDef.objectives.rows.map (·.sli) := by
  rcases rescore_eq_ok rescored with ⟨baselines, comparedIds, evaluated⟩
  exact evaluated_metrics evaluated

theorem rescoredRow_id (item : ReEvalResultItem) (now : Instant) (indicatorRows : IndicatorRows)
    (row : SLOEvaluation) : (rescoredRow item now indicatorRows row).id = row.id :=
  rfl

/-- The write is one update of one row, with the rows of the version inserted
into an empty table. -/
theorem persistReevalResult_of_metrics (now : Instant)
    (metrics : evalResult.indicatorResults.map (·.metric) =
      window.sloDef.objectives.rows.map (·.sli))
    (current : Database) :
    persistReevalResult window now current ev evalResult =
      orRaise .database
        ((bulkInsert .empty (buildIndicatorRows window.sloDef evalResult.indicatorResults)).map
          fun indicatorRows => { current with
            evaluations := current.evaluations.update ev.id
              (rescoredRow (resultItem window ev evalResult) now indicatorRows)
              (rescoredRow_id (resultItem window ev evalResult) now indicatorRows) }) := by
  have someResult : evalResult.indicatorResults ≠ [] := by
    intro empty
    rw [empty] at metrics
    exact window.objectives_nonempty (List.map_eq_nil_iff.mp metrics.symm)
  have replaced : ¬ (evalResult.indicatorResults = [] ∨ window.sloDef.objectives.rows = []) :=
    fun either => either.elim someResult window.objectives_nonempty
  unfold persistReevalResult replaceIndicatorRows updateEvaluationRow
  dsimp only
  rw [if_neg replaced, Option.map_map]
  refine congrArg _ (Option.map_congr fun indicatorRows _ => ?_)
  exact congrArg (fun evaluations => { current with evaluations })
    (KeyedTable.update_update current.evaluations ev.id _ _ _ _ _)

theorem persistReevalResult_isOk (now : Instant)
    (rescored : rescore window defaultRange db eligibleIds ev = .ok evalResult)
    (current : Database) :
    (persistReevalResult window now current ev evalResult).isOk = true ↔
      window.sloDef.DistinctMetrics := by
  have metrics := rescore_metrics rescored
  rw [<- bulkInsert_scored_isSome metrics, persistReevalResult_of_metrics now metrics]
  cases bulkInsert .empty (buildIndicatorRows window.sloDef evalResult.indicatorResults) with
  | none => exact ⟨fun impossible => impossible, fun impossible => impossible⟩
  | some indicatorRows => exact ⟨fun _ => rfl, fun _ => rfl⟩

/-- A successful write changes one row, to one whose indicator rows are those of
the version. -/
theorem persistReevalResult_eq_ok {now : Instant} {current next : Database}
    (rescored : rescore window defaultRange db eligibleIds ev = .ok evalResult)
    (persisted : persistReevalResult window now current ev evalResult = .ok next) :
    Exists fun indicatorRows : IndicatorRows =>
      indicatorRows.rows = buildIndicatorRows window.sloDef evalResult.indicatorResults ∧
        next = { current with
          evaluations := current.evaluations.update ev.id
            (rescoredRow (resultItem window ev evalResult) now indicatorRows)
            (rescoredRow_id (resultItem window ev evalResult) now indicatorRows) } := by
  rw [persistReevalResult_of_metrics now (rescore_metrics rescored), orRaise_eq_ok]
    at persisted
  rcases Option.map_eq_some_iff.mp persisted with ⟨indicatorRows, inserted, same⟩
  exact ⟨indicatorRows, bulkInsert_rows inserted, same.symm⟩

/-- A rewritten row reads like the old one as a baseline, when the filter on the
result does not tell its two results apart. -/
theorem rescoredRow_readsAlike {baselines : Dict (Option ℚ)} {comparedIds : List Nat}
    {item : ReEvalResultItem} {now : Instant} {indicatorRows : IndicatorRows}
    (distinct : window.sloDef.DistinctMetrics) (once : MeasuresOnce ev)
    (evaluated : evaluate window.sloModel (metricsFromIndicatorRows ev.indicatorRows.rows)
      baselines comparedIds = .ok evalResult)
    (rows : indicatorRows.rows = buildIndicatorRows window.sloDef evalResult.indicatorResults)
    (included : includesResult window.sloModel.comparison.includeResultWithScore
        (some item.newResult) =
      includesResult window.sloModel.comparison.includeResultWithScore ev.result) :
    ReadsAlike window ev (rescoredRow item now indicatorRows ev) := by
  refine ⟨rescoredRow_history _ _ _ _, fun _ => included, fun _ obj member => ?_⟩
  have scored : obj.sli ∈ window.sloDef.objectives.rows.map (·.sli) := by
    rw [<- window.metrics]
    exact List.mem_map_of_mem member
  have newOnce : MeasuresOnce (rescoredRow item now indicatorRows ev) := by
    change (indicatorRows.rows.map (·.objective.sli)).Nodup
    rw [rows, evaluatedRows_metrics evaluated]
    exact distinct
  rw [valuesOf_measured newOnce, valuesOf_measured once]
  change (getValue (metricsFromIndicatorRows indicatorRows.rows) obj.sli).toList = _
  rw [rows, evaluatedRows_getValue evaluated, if_pos scored]

end Writing

end ReEvaluation
end Tropek
