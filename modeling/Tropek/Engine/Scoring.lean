import Tropek.Engine.Criteria
import Tropek.Library.Fallible

namespace Tropek
namespace Engine

open Library Fallible

/-!
# SLO models and scoring

The engine scores each objective of an SLO on its own and then combines the
scores into one outcome.  `buildSlo` is where a stored definition becomes a
validated model: the registry does not check the two enumerated comparison
fields, nor that there is an objective at all, so a definition that it accepted
can still be refused here.
-/

inductive CompareWith where
  | singleResult
  | severalResults
deriving DecidableEq, Repr

def CompareWith.ofString : String -> Option CompareWith
  | "single_result" => some .singleResult
  | "several_results" => some .severalResults
  | _ => none

inductive IncludeResultWithScore where
  | all
  | passOrWarn
  | pass
deriving DecidableEq, Repr

def IncludeResultWithScore.ofString : String -> Option IncludeResultWithScore
  | "all" => some .all
  | "pass_or_warn" => some .passOrWarn
  | "pass" => some .pass
  | _ => none

structure SLOObjective where
  sli : String
  displayName : String := ""
  passThreshold : List String := []
  warningThreshold : List String := []
  weight : Int := 1
  keySli : Bool := false
deriving DecidableEq, Repr

structure SLOComparison where
  compareWith : CompareWith := .singleResult
  numberOfComparisonResults : Int := 3
  includeResultWithScore : IncludeResultWithScore := .all
  aggregateFunction : AggregateFunction := .avg
deriving DecidableEq, Repr

structure SLOTotalScore where
  passThreshold : ℚ := 90
  warningThreshold : ℚ := 75
deriving DecidableEq, Repr

/-- A validated SLO.  It has at least one objective, because `buildSlo` refuses
the empty list. -/
structure SLO where
  objectives : List SLOObjective
  nonempty : objectives ≠ []
  comparison : SLOComparison
  totalScore : SLOTotalScore
deriving DecidableEq, Repr

/-- The comparison block as it is stored: every key may be absent, and the two
enumerated fields are free text. -/
structure StoredComparison where
  compareWith : Option String := none
  numberOfComparisonResults : Option Int := none
  includeResultWithScore : Option String := none
  aggregateFunction : Option AggregateFunction := none
deriving DecidableEq, Repr

def enumField {α : Type} (ofString : String -> Option α) (default : α) :
    Option String -> Option α
  | none => some default
  | some text => ofString text

/-- `SLOComparison.model_validate`. -/
def StoredComparison.validate (stored : StoredComparison) : Except EngineError SLOComparison :=
  match enumField CompareWith.ofString .singleResult stored.compareWith,
      enumField IncludeResultWithScore.ofString .all stored.includeResultWithScore with
  | some compareWith, some includeResultWithScore =>
      .ok { compareWith, includeResultWithScore,
            numberOfComparisonResults := stored.numberOfComparisonResults.getD 3,
            aggregateFunction := stored.aggregateFunction.getD .avg }
  | none, some _ => .error (.invalidSloStructure ["compare_with"])
  | some _, none => .error (.invalidSloStructure ["include_result_with_score"])
  | none, none => .error (.invalidSloStructure ["compare_with", "include_result_with_score"])

/-- Build the validated model, or raise as `build_slo` does. -/
def buildSlo (objectives : List SLOObjective) (passThreshold warningThreshold : ℚ)
    (comparison : StoredComparison) : Except EngineError SLO :=
  if empty : objectives = [] then .error .emptyObjectives
  else do
    let comparison <- comparison.validate
    return { objectives, nonempty := empty, comparison,
             totalScore := { passThreshold, warningThreshold } }

theorem buildSlo_eq_ok {objectives : List SLOObjective} {passThreshold warningThreshold : ℚ}
    {comparison : StoredComparison} {slo : SLO}
    (built : buildSlo objectives passThreshold warningThreshold comparison = .ok slo) :
    slo.objectives = objectives ∧ comparison.validate = .ok slo.comparison ∧
      slo.totalScore = { passThreshold, warningThreshold } := by
  unfold buildSlo at built
  by_cases empty : objectives = []
  · rw [dif_pos empty] at built
    cases built
  · rw [dif_neg empty] at built
    rcases bind_eq_ok.mp built with ⟨validated, accepted, same⟩
    cases same
    exact ⟨rfl, accepted, rfl⟩

/-- A model is built exactly from a nonempty list of objectives and a
comparison block whose enumerated fields are known words. -/
theorem buildSlo_isOk (objectives : List SLOObjective) (passThreshold warningThreshold : ℚ)
    (comparison : StoredComparison) :
    (buildSlo objectives passThreshold warningThreshold comparison).isOk = true ↔
      objectives ≠ [] ∧ comparison.validate.isOk = true := by
  unfold buildSlo
  by_cases empty : objectives = []
  · rw [dif_pos empty]
    exact ⟨fun impossible => absurd impossible Bool.false_ne_true,
      fun both => absurd empty both.1⟩
  · rw [dif_neg empty]
    constructor
    · intro built
      rcases bind_isOk.mp built with ⟨validated, accepted, _⟩
      exact ⟨empty, (isOk_iff _).mpr ⟨validated, accepted⟩⟩
    · rintro ⟨_, accepted⟩
      rcases (isOk_iff _).mp accepted with ⟨validated, accepted⟩
      exact bind_isOk.mpr ⟨validated, accepted, rfl⟩

inductive IndicatorStatus where
  | pass
  | warning
  | fail
  | info
  | error
deriving DecidableEq, Repr

structure ObjectiveResult where
  objective : SLOObjective
  status : IndicatorStatus
  score : ℚ
  contributesToScore : Bool
  keySliFailed : Bool
deriving DecidableEq, Repr

/-- A criteria list read as a conjunction.  Parsing stops at the first
criterion that does not hold. -/
def evaluateCriteriaBlock (criteriaList : List String) (value : ℚ) (baseline : Option ℚ) :
    Except EngineError Bool :=
  match criteriaList with
  | [] => .ok true
  | raw :: rest => do
      let criteria <- parseCriteriaString raw
      if evaluateCriteria criteria value baseline then evaluateCriteriaBlock rest value baseline
      else return false

/-- `warning_threshold and _evaluate_criteria_block(...)`: without warning
criteria the objective never warns. -/
def warns (objective : SLOObjective) (value : ℚ) (baseline : Option ℚ) :
    Except EngineError Bool :=
  if objective.warningThreshold = [] then .ok false
  else evaluateCriteriaBlock objective.warningThreshold value baseline

/-- Score one objective.  Without pass criteria the objective is informational;
with them, a missing value is an error and fails a key SLI. -/
def scoreObjective (objective : SLOObjective) (value baseline : Option ℚ) :
    Except EngineError ObjectiveResult :=
  if objective.passThreshold = [] then
    .ok { objective, status := .info, score := 0, contributesToScore := false,
          keySliFailed := false }
  else
    match value with
    | none =>
        .ok { objective, status := .error, score := 0, contributesToScore := true,
              keySliFailed := objective.keySli }
    | some value => do
        let passed <- evaluateCriteriaBlock objective.passThreshold value baseline
        if passed then
          return { objective, status := .pass, score := objective.weight,
                   contributesToScore := true, keySliFailed := false }
        else
          let warned <- warns objective value baseline
          if warned then
            return { objective, status := .warning, score := 1 / 2 * objective.weight,
                     contributesToScore := true, keySliFailed := false }
          else
            return { objective, status := .fail, score := 0, contributesToScore := true,
                     keySliFailed := objective.keySli }

def ObjectiveResult.ofStatus (objective : SLOObjective) (status : IndicatorStatus) :
    ObjectiveResult :=
  { objective, status
    score :=
      match status with
      | .pass => objective.weight
      | .warning => 1 / 2 * objective.weight
      | _ => 0
    contributesToScore := status ≠ .info
    keySliFailed := (status = .error || status = .fail) && objective.keySli }

theorem evaluateCriteriaBlock_isOk {criteriaList : List String}
    (accepted : forall raw, raw ∈ criteriaList -> parses raw = true) (value : ℚ)
    (baseline : Option ℚ) : (evaluateCriteriaBlock criteriaList value baseline).isOk = true := by
  induction criteriaList with
  | nil => rfl
  | cons raw rest ih =>
      rcases parseCriteriaString_of_parses (accepted raw List.mem_cons_self) with ⟨criteria, parsed⟩
      rw [evaluateCriteriaBlock, bind_isOk]
      refine ⟨criteria, parsed, ?_⟩
      by_cases satisfied : evaluateCriteria criteria value baseline = true
      · simp only [satisfied, if_true]
        exact ih fun raw member => accepted raw (List.mem_cons_of_mem _ member)
      · simp only [satisfied, Bool.false_eq_true, if_false]
        rfl

theorem warns_isOk {objective : SLOObjective}
    (accepted : forall raw, raw ∈ objective.warningThreshold -> parses raw = true) (value : ℚ)
    (baseline : Option ℚ) : (warns objective value baseline).isOk = true := by
  unfold warns
  by_cases absent : objective.warningThreshold = []
  · rw [if_pos absent]
    rfl
  · rw [if_neg absent]
    exact evaluateCriteriaBlock_isOk accepted value baseline

theorem scoreObjective_isOk {objective : SLOObjective}
    (passAccepted : forall raw, raw ∈ objective.passThreshold -> parses raw = true)
    (warningAccepted : forall raw, raw ∈ objective.warningThreshold -> parses raw = true)
    (value baseline : Option ℚ) : (scoreObjective objective value baseline).isOk = true := by
  unfold scoreObjective
  by_cases informational : objective.passThreshold = []
  · rw [if_pos informational]
    rfl
  · rw [if_neg informational]
    cases value with
    | none => rfl
    | some value =>
        refine bind_isOk.mpr ?_
        rcases (isOk_iff _).mp (evaluateCriteriaBlock_isOk passAccepted value baseline)
          with ⟨passed, evaluated⟩
        refine ⟨passed, evaluated, ?_⟩
        cases passed with
        | true => rfl
        | false =>
            refine bind_isOk.mpr ?_
            rcases (isOk_iff _).mp (warns_isOk warningAccepted value baseline)
              with ⟨warned, evaluated⟩
            refine ⟨warned, evaluated, ?_⟩
            cases warned <;> rfl

theorem scoreObjective_eq_ofStatus {objective : SLOObjective} {value baseline : Option ℚ}
    {result : ObjectiveResult} (scored : scoreObjective objective value baseline = .ok result) :
    result = .ofStatus objective result.status := by
  unfold scoreObjective at scored
  by_cases informational : objective.passThreshold = []
  · rw [if_pos informational] at scored
    cases scored
    rfl
  · rw [if_neg informational] at scored
    cases value with
    | none =>
        cases scored
        simp [ObjectiveResult.ofStatus]
    | some value =>
        rcases bind_eq_ok.mp scored with ⟨passed, _, scored⟩
        cases passed with
        | true =>
            cases scored
            rfl
        | false =>
            rcases bind_eq_ok.mp scored with ⟨warned, _, scored⟩
            cases warned <;> cases scored <;> simp [ObjectiveResult.ofStatus]

inductive EvaluationOutcome where
  | pass
  | warning
  | fail
deriving DecidableEq, Repr

structure TotalScore where
  result : EvaluationOutcome
  score : ℚ
deriving DecidableEq, Repr

/-- Combine the objective results.  An SLO whose objectives are all
informational passes with the full score, and a failed key SLI vetoes. -/
def calculateTotalScore (results : List ObjectiveResult) (totalScore : SLOTotalScore) :
    TotalScore :=
  let maximum := ((results.filter (·.contributesToScore)).map (·.objective.weight)).sum
  if maximum = 0 then { result := .pass, score := 100 }
  else
    let achieved := (results.map (·.score)).sum
    let pct := 100 * achieved / maximum
    if results.any (·.keySliFailed) then { result := .fail, score := pct }
    else if totalScore.passThreshold ≤ pct then { result := .pass, score := pct }
    else if totalScore.warningThreshold ≤ pct then { result := .warning, score := pct }
    else { result := .fail, score := pct }

def roundHalfEven (value : ℚ) : Int :=
  let below := value.floor
  let excess := value - below
  if excess < 1 / 2 then below
  else if 1 / 2 < excess then below + 1
  else if below % 2 = 0 then below
  else below + 1

/-- `round(value, 2)`. -/
def roundTwoPlaces (value : ℚ) : ℚ :=
  roundHalfEven (value * 100) / 100

example : (roundHalfEven (1 / 2), roundHalfEven (3 / 2), roundTwoPlaces (200 / 3)) =
    (0, 2, 6667 / 100) := by decide +kernel

end Engine
end Tropek
