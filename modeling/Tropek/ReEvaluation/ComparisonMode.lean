import Tropek.ReEvaluation.Service
import Tropek.Worker.Execution

namespace Tropek
namespace ReEvaluation

open Library Engine Store KeyedTable

/-!
# Single and several results

The comparison block of an SLO says how many earlier evaluations make up its
baseline: `compare_with` is `single_result` or `several_results`, and
`number_of_comparison_results` is a number that the authoring guide gives a
meaning for `several_results` only.

The engine validates `compare_with` and nothing reads it afterwards.  Both the
worker and the re-evaluator take as many evaluations as the number says.  So a
block for a single result gets what it says only when the number is one, which
the default of three is not.

An evaluation is eligible when the condition of the query admits it: the asset
and SLO, the period before the evaluation, the filter on the result, the active
pin, the series for the worker and the SLI versions for the re-evaluator.
-/

def documentedNumber (comparison : SLOComparison) : Int :=
  match comparison.compareWith with
  | .singleResult => 1
  | .severalResults => comparison.numberOfComparisonResults

/-- The value of a metric in a selection of evaluations, where these do not
disagree.  There is none when none of them has measured it. -/
def ValueIn (selected : List SLOEvaluation) (metric : String) : Option ℚ -> Prop
  | none => valuesOf metric (selected.flatMap measuredValues) = []
  | some value =>
      valuesOf metric (selected.flatMap measuredValues) ≠ [] ∧
        forall measured, measured ∈ valuesOf metric (selected.flatMap measuredValues) ->
          measured = value

/-- The baselines are those that the comparison block describes.  A single
result is taken as it is, several results are aggregated. -/
def Honours (comparison : SLOComparison) (eligible : List SLOEvaluation)
    (baselines : Dict (Option ℚ)) : Prop :=
  Exists fun selected =>
    Latest.MostRecent SLOEvaluation.periodStart (documentedNumber comparison).toNat eligible
        selected ∧
      match comparison.compareWith with
      | .singleResult => forall metric value, ValueIn selected metric value ->
          getValue baselines metric = value
      | .severalResults => forall metric, getValue baselines metric =
          (aggregateValues (valuesOf metric (selected.flatMap measuredValues))
            comparison.aggregateFunction).toOption

def eligibleForEvaluation (table : Evaluations) (mode : IncludeResultWithScore)
    (evaluation : Worker.EvaluationSnapshot) (evaluationName : String) : List SLOEvaluation :=
  table.rows.filter fun row =>
    baseBaselineQuery evaluation.assetId evaluation.sloName evaluation.periodStart mode
        (some evaluationName) row &&
      pinAllows (activePinStart table evaluation.assetId evaluation.sloName) row

def Window.eligible (window : Window) (table : Evaluations) (periodStartBefore : Instant)
    (sliRange : Option (Int × Int)) (restrictToIds : Option (List Nat)) : List SLOEvaluation :=
  table.rows.filter fun row =>
    baseBaselineQuery window.assetId window.sloName periodStartBefore
        window.sloModel.comparison.includeResultWithScore none row &&
      inVersionRange sliRange row &&
      (match restrictToIds with
        | none => true
        | some ids => ids.contains row.id) &&
      (window.skipPin || pinAllows (activePinStart table window.assetId window.sloName) row)

def Window.resolveBaselines (window : Window) (table : Evaluations) (periodStartBefore : Instant)
    (sliRange : Option (Int × Int)) (restrictToIds : Option (List Nat)) :
    Except ReEvalError (Dict (Option ℚ) × List Nat) := do
  let baselineEvals <- window.baselines table periodStartBefore sliRange restrictToIds
  (computeBaselines baselineEvals window.sloModel.comparison.aggregateFunction).mapError .engine

/-- Every worker that scores an SLO with this block uses the documented
baselines. -/
def WorkerHonours (comparison : SLOComparison) : Prop :=
  forall (table : Evaluations) (slo : SLO) (evaluation : Worker.EvaluationSnapshot)
    (evaluationName : String), slo.comparison = comparison ->
      Exists fun baselines => Exists fun comparedIds =>
        Worker.resolveBaselines table slo evaluation evaluationName =
            .ok (baselines, comparedIds) ∧
          Honours comparison (eligibleForEvaluation table comparison.includeResultWithScore
            evaluation evaluationName) baselines

/-- Every re-evaluation of an SLO with this block uses the documented baselines.
It has some, unless the block asks for a negative number of results, which the
database refuses. -/
def ReEvaluatorHonours (comparison : SLOComparison) : Prop :=
  forall (window : Window) (table : Evaluations) (periodStartBefore : Instant)
    (sliRange : Option (Int × Int)) (restrictToIds : Option (List Nat)),
    window.sloModel.comparison = comparison ->
      (0 ≤ documentedNumber comparison ->
        (window.resolveBaselines table periodStartBefore sliRange restrictToIds).isOk = true) ∧
      forall baselines comparedIds,
        window.resolveBaselines table periodStartBefore sliRange restrictToIds =
            .ok (baselines, comparedIds) ->
          Honours comparison (window.eligible table periodStartBefore sliRange restrictToIds)
            baselines

theorem aggregateValues_same {values : List ℚ} {value : ℚ} (nonempty : values ≠ [])
    (same : forall measured, measured ∈ values -> measured = value)
    (function : AggregateFunction) : aggregateValues values function = .ok value := by
  have replicated : values.insertionSort (· ≤ ·) = List.replicate values.length value := by
    apply List.eq_replicate_iff.mpr
    refine ⟨List.length_insertionSort _ values, ?_⟩
    intro measured member
    exact same measured ((List.mem_insertionSort _).mp member)
  have positive : 0 < values.length := List.length_pos_iff.mpr nonempty
  have index : forall pct, percentile (List.replicate values.length value) pct = .ok value := by
    intro pct
    have inside : min (values.length * pct / 100) (values.length - 1) < values.length := by omega
    simp [percentile, inside]
  unfold aggregateValues
  rw [if_neg nonempty, replicated]
  cases function with
  | avg =>
      have denominator : (values.length : ℚ) ≠ 0 := by
        exact_mod_cast positive.ne'
      simp only [List.sum_replicate, List.length_replicate, nsmul_eq_mul]
      rw [mul_comm, mul_div_assoc, div_self denominator, mul_one]
  | p50 => exact index 50
  | p90 => exact index 90
  | p95 => exact index 95
  | p99 => exact index 99

/-- What the code computes from the latest evaluations is what the block
describes, when the number that limits the query is the documented one. -/
theorem honours_of_latest {comparison : SLOComparison} {eligible : List SLOEvaluation}
    {baselines : Dict (Option ℚ)} {limit : Nat}
    (documented : limit = (documentedNumber comparison).toNat)
    (aggregated : forall metric, getValue baselines metric =
      (aggregateValues (valuesOf metric
        ((Latest.latest SLOEvaluation.periodStart limit eligible).flatMap measuredValues))
        comparison.aggregateFunction).toOption) :
    Honours comparison eligible baselines := by
  subst documented
  refine ⟨_, Latest.latest_mostRecent _ _ _, ?_⟩
  cases mode : comparison.compareWith with
  | severalResults => exact aggregated
  | singleResult =>
      intro metric value measured
      rw [aggregated metric]
      cases value with
      | none =>
          have unmeasured : valuesOf metric ((Latest.latest SLOEvaluation.periodStart
              (documentedNumber comparison).toNat eligible).flatMap measuredValues) = [] := measured
          rw [unmeasured]
          rfl
      | some value =>
          rw [aggregateValues_same measured.1 measured.2]
          rfl

/-- The worker's baselines aggregate the latest eligible evaluations, as many as
the number says and none when it is not positive. -/
theorem workerBaselines_ok (table : Evaluations) (slo : SLO)
    (evaluation : Worker.EvaluationSnapshot) (evaluationName : String) :
    Exists fun baselines => Exists fun comparedIds =>
      Worker.resolveBaselines table slo evaluation evaluationName =
          .ok (baselines, comparedIds) ∧
        forall metric, getValue baselines metric =
          (aggregateValues (valuesOf metric ((Latest.latest SLOEvaluation.periodStart
            slo.comparison.numberOfComparisonResults.toNat
            (eligibleForEvaluation table slo.comparison.includeResultWithScore evaluation
              evaluationName)).flatMap measuredValues))
            slo.comparison.aggregateFunction).toOption := by
  unfold Worker.resolveBaselines
  by_cases unread : slo.comparison.numberOfComparisonResults ≤ 0
  · rw [if_pos unread, Int.toNat_of_nonpos unread]
    exact ⟨∅, [], rfl, fun _ => rfl⟩
  · have positive : ¬ slo.comparison.numberOfComparisonResults < 0 := by omega
    have selected : getEvaluationBaselines table evaluation.assetId evaluation.sloName
        evaluation.periodStart slo.comparison.includeResultWithScore
        slo.comparison.numberOfComparisonResults (some evaluationName) =
        some (Latest.latest SLOEvaluation.periodStart
          slo.comparison.numberOfComparisonResults.toNat
          (eligibleForEvaluation table slo.comparison.includeResultWithScore evaluation
            evaluationName)) := by
      unfold getEvaluationBaselines latestRows
      rw [if_neg positive]
      rfl
    rcases computeBaselines_ok (Latest.latest SLOEvaluation.periodStart
      slo.comparison.numberOfComparisonResults.toNat
      (eligibleForEvaluation table slo.comparison.includeResultWithScore evaluation
        evaluationName)) slo.comparison.aggregateFunction with ⟨baselines, computed, values⟩
    rw [if_neg unread, selected]
    dsimp only
    rw [computed]
    exact ⟨baselines, _, rfl, values⟩

/-- The re-evaluator's baselines aggregate the latest eligible evaluations, as
many as the number says. -/
theorem windowBaselines_ok (window : Window) (table : Evaluations) (periodStartBefore : Instant)
    (sliRange : Option (Int × Int)) (restrictToIds : Option (List Nat))
    (countable : 0 ≤ window.sloModel.comparison.numberOfComparisonResults) :
    Exists fun baselines => Exists fun comparedIds =>
      window.resolveBaselines table periodStartBefore sliRange restrictToIds =
          .ok (baselines, comparedIds) ∧
        forall metric, getValue baselines metric =
          (aggregateValues (valuesOf metric ((Latest.latest SLOEvaluation.periodStart
            window.sloModel.comparison.numberOfComparisonResults.toNat
            (window.eligible table periodStartBefore sliRange restrictToIds)).flatMap
              measuredValues)) window.sloModel.comparison.aggregateFunction).toOption := by
  rcases computeBaselines_ok (Latest.latest SLOEvaluation.periodStart
    window.sloModel.comparison.numberOfComparisonResults.toNat
    (window.eligible table periodStartBefore sliRange restrictToIds))
    window.sloModel.comparison.aggregateFunction with ⟨baselines, computed, values⟩
  have selected : window.baselines table periodStartBefore sliRange restrictToIds =
      .ok (Latest.latest SLOEvaluation.periodStart
        window.sloModel.comparison.numberOfComparisonResults.toNat
        (window.eligible table periodStartBefore sliRange restrictToIds)) := by
    unfold Window.baselines getReevalBaselines latestRows
    rw [if_neg (not_lt.mpr countable)]
    rfl
  have resolved : window.resolveBaselines table periodStartBefore sliRange restrictToIds =
      (computeBaselines (Latest.latest SLOEvaluation.periodStart
        window.sloModel.comparison.numberOfComparisonResults.toNat
        (window.eligible table periodStartBefore sliRange restrictToIds))
        window.sloModel.comparison.aggregateFunction).mapError .engine := by
    unfold Window.resolveBaselines
    rw [selected]
    rfl
  rw [resolved, computed]
  exact ⟨baselines, _, rfl, values⟩

theorem windowBaselines_refused (window : Window) (table : Evaluations)
    (periodStartBefore : Instant) (sliRange : Option (Int × Int))
    (restrictToIds : Option (List Nat))
    (negative : window.sloModel.comparison.numberOfComparisonResults < 0) :
    window.resolveBaselines table periodStartBefore sliRange restrictToIds =
      .error .database := by
  unfold Window.resolveBaselines Window.baselines getReevalBaselines latestRows
  rw [if_pos negative]
  rfl

/-! ## A latency that halved

Two evaluations of one series: the older one has measured 40, the latest one 20.
-/

namespace Halved

def measuredRow (value : ℚ) : IndicatorResultRow :=
  { Sample.failedRow value with
    status := .pass, score := 1, targets := { pass := [⟨"<=50", 50, false⟩], warn := none } }

def passedEvaluation (id : Nat) (periodStart : Instant) (value : ℚ) : SLOEvaluation :=
  { Sample.failedEvaluation id periodStart value with
    result := some .pass, score := some 100, achievedPoints := some 1
    indicatorRows := empty.insert (measuredRow value) rfl }

def older : SLOEvaluation :=
  passedEvaluation 10 0 40

def latest : SLOEvaluation :=
  passedEvaluation 11 3600000000 20

def history : Evaluations :=
  (empty.insert older rfl).insert latest rfl

def evaluation : Worker.EvaluationSnapshot :=
  { evalId := 12, parentRunId := 12, sloName := "checkout", sloVersion := some 1, sliName := none
    sliVersion := none, dataSourceName := none, evaluationName := "hourly"
    periodStart := 7200000000, periodEnd := 10800000000, assetSnapshot := {}, assetId := 1
    vars := ∅, compareTo := none }

def includeText : IncludeResultWithScore -> String
  | .all => "all"
  | .passOrWarn => "pass_or_warn"
  | .pass => "pass"

def definition (comparison : SLOComparison) : SLODefinition :=
  { Sample.firstVersion with
    comparison := {
      compareWith := some "single_result"
      numberOfComparisonResults := some comparison.numberOfComparisonResults
      includeResultWithScore := some (includeText comparison.includeResultWithScore)
      aggregateFunction := some comparison.aggregateFunction } }

def slo (comparison : SLOComparison) : SLO :=
  { objectives := [Sample.fixedObjective.toModel], nonempty := by simp
    comparison, totalScore := {} }

theorem built {comparison : SLOComparison} (mode : comparison.compareWith = .singleResult) :
    buildSloModel (definition comparison) = .ok (slo comparison) := by
  rcases comparison with ⟨compareWith, number, included, function⟩
  cases mode
  cases included <;> rfl

def window {comparison : SLOComparison} (mode : comparison.compareWith = .singleResult) : Window :=
  { assetId := 1, sloName := "checkout", sloDef := definition comparison
    sloModel := slo comparison, built := built mode, fromDate := 0, skipPin := false }

theorem eligible_worker (mode : IncludeResultWithScore) :
    eligibleForEvaluation history mode evaluation "hourly" = [older, latest] := by
  cases mode <;> rfl

theorem eligible_window {comparison : SLOComparison}
    (mode : comparison.compareWith = .singleResult) :
    (window mode).eligible history 7200000000 none none = [older, latest] := by
  rcases comparison with ⟨compareWith, number, included, function⟩
  cases included <;> rfl

theorem documented {comparison : SLOComparison} (mode : comparison.compareWith = .singleResult)
    {baselines : Dict (Option ℚ)} (honours : Honours comparison [older, latest] baselines) :
    getValue baselines "latency" = some 20 := by
  rcases honours with ⟨selected, recent, values⟩
  rw [documentedNumber, mode] at recent
  rw [mode] at values
  have newer : forall other, other ∈ [older, latest] -> other ≠ latest ->
      other.periodStart < latest.periodStart := by
    intro other member different
    rcases List.mem_pair.mp member with same | same
    · rw [same]
      decide
    · exact absurd same different
  have single := recent.eq_singleton _ (by simp) newer
  rw [single] at values
  refine values "latency" (some 20) ⟨by decide +kernel, ?_⟩
  intro measured member
  have measurements : valuesOf "latency" ([latest].flatMap measuredValues) = [20] := by
    decide +kernel
  rw [measurements] at member
  exact List.mem_singleton.mp member

theorem aggregated {limit : Nat} (notOne : limit ≠ 1) (function : AggregateFunction) :
    (aggregateValues (valuesOf "latency"
      ((Latest.latest SLOEvaluation.periodStart limit [older, latest]).flatMap measuredValues))
      function).toOption ≠ some 20 := by
  rcases limit with _ | _ | more
  · cases function <;> decide +kernel
  · exact absurd rfl notOne
  · have both : Latest.latest SLOEvaluation.periodStart (more + 2) [older, latest] =
        Latest.latest SLOEvaluation.periodStart 2 [older, latest] := by
      have two : (Latest.newestFirst SLOEvaluation.periodStart [older, latest]).length = 2 := by
        unfold Latest.newestFirst
        rw [List.length_insertionSort]
        rfl
      unfold Latest.latest
      rw [List.take_of_length_le (by omega), List.take_of_length_le (by omega)]
    rw [both]
    cases function <;> decide +kernel

end Halved

theorem number_documented {comparison : SLOComparison}
    (documented : comparison.compareWith = .severalResults ∨
      comparison.numberOfComparisonResults = 1) :
    comparison.numberOfComparisonResults = documentedNumber comparison := by
  unfold documentedNumber
  cases mode : comparison.compareWith with
  | severalResults => rfl
  | singleResult =>
      rw [mode] at documented
      exact documented.resolve_left fun impossible => by cases impossible

theorem worker_honours_iff (comparison : SLOComparison) :
    WorkerHonours comparison ↔
      comparison.compareWith = .severalResults ∨ comparison.numberOfComparisonResults = 1 := by
  constructor
  · intro honoured
    cases mode : comparison.compareWith with
    | severalResults => exact Or.inl rfl
    | singleResult =>
        refine Or.inr ?_
        rcases honoured Halved.history (Halved.slo comparison) Halved.evaluation "hourly" rfl with
          ⟨baselines, comparedIds, resolved, honours⟩
        rw [Halved.eligible_worker] at honours
        rcases workerBaselines_ok Halved.history (Halved.slo comparison) Halved.evaluation
          "hourly" with ⟨computed, computedIds, sameResolved, aggregated⟩
        rw [sameResolved] at resolved
        cases resolved
        have value := aggregated "latency"
        rw [Halved.eligible_worker, Halved.documented mode honours] at value
        by_contra other
        refine Halved.aggregated ?_ _ value.symm
        change comparison.numberOfComparisonResults.toNat ≠ 1
        omega
  · intro documented table slo evaluation evaluationName same
    subst same
    rcases workerBaselines_ok table slo evaluation evaluationName with
      ⟨baselines, comparedIds, resolved, aggregated⟩
    refine ⟨baselines, comparedIds, resolved, honours_of_latest ?_ aggregated⟩
    rw [number_documented documented]

theorem reEvaluator_honours_iff (comparison : SLOComparison) :
    ReEvaluatorHonours comparison ↔
      comparison.compareWith = .severalResults ∨ comparison.numberOfComparisonResults = 1 := by
  constructor
  · intro honoured
    cases mode : comparison.compareWith with
    | severalResults => exact Or.inl rfl
    | singleResult =>
        refine Or.inr ?_
        rcases honoured (Halved.window mode) Halved.history 7200000000 none none rfl with
          ⟨succeeds, honours⟩
        have accepted := succeeds (by simp [documentedNumber, mode])
        by_cases negative : comparison.numberOfComparisonResults < 0
        · rw [windowBaselines_refused (Halved.window mode) _ _ _ _ negative] at accepted
          cases accepted
        · rcases windowBaselines_ok (Halved.window mode) Halved.history 7200000000 none none
            (not_lt.mp negative) with ⟨baselines, comparedIds, resolved, aggregated⟩
          have documented := honours baselines comparedIds resolved
          rw [Halved.eligible_window] at documented
          have value := aggregated "latency"
          rw [Halved.eligible_window, Halved.documented mode documented] at value
          by_contra other
          refine Halved.aggregated ?_ _ value.symm
          change comparison.numberOfComparisonResults.toNat ≠ 1
          omega
  · intro documented window table periodStartBefore sliRange restrictToIds same
    subst same
    have limits : window.sloModel.comparison.numberOfComparisonResults =
        documentedNumber window.sloModel.comparison := number_documented documented
    constructor
    · intro countable
      rw [<- limits] at countable
      rcases windowBaselines_ok window table periodStartBefore sliRange restrictToIds countable with
        ⟨baselines, comparedIds, resolved, _⟩
      rw [resolved]
      rfl
    · intro baselines comparedIds resolved
      by_cases negative : window.sloModel.comparison.numberOfComparisonResults < 0
      · rw [windowBaselines_refused window _ _ _ _ negative] at resolved
        cases resolved
      · rcases windowBaselines_ok window table periodStartBefore sliRange restrictToIds
          (not_lt.mp negative) with ⟨computed, computedIds, sameResolved, aggregated⟩
        rw [sameResolved] at resolved
        cases resolved
        exact honours_of_latest (by rw [limits]) aggregated

/-- Both readers take the documented number of results exactly when the block
asks for several results, or the number is one anyway. -/
theorem comparison_mode_iff (comparison : SLOComparison) :
    WorkerHonours comparison ∧ ReEvaluatorHonours comparison ↔
      comparison.compareWith = .severalResults ∨ comparison.numberOfComparisonResults = 1 := by
  rw [worker_honours_iff, reEvaluator_honours_iff, and_self_iff]

/-- The default block asks for a single result and aggregates three: of the two
evaluations of the history it takes both, and neither reader has the latest value
20 for its baseline. -/
theorem default_comparison_averages :
    ¬ WorkerHonours {} ∧ ¬ ReEvaluatorHonours {} ∧
      ((Worker.resolveBaselines Halved.history (Halved.slo {}) Halved.evaluation
        "hourly").toOption.map fun answer => getValue answer.1 "latency") = some (some 30) := by
  refine ⟨?_, ?_, by decide +kernel⟩
  · rw [worker_honours_iff]
    decide
  · rw [reEvaluator_honours_iff]
    decide

end ReEvaluation
end Tropek
