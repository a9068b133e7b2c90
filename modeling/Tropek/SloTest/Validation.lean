import Tropek.SloTest.Service
import Tropek.Worker.Verdicts

namespace Tropek
namespace SloTest

open Library Engine Registry Worker Fallible

/-!
# Validation without saving

`validate_slo` builds the model of a request body and then looks at every criteria
string and at both thresholds.  A body it reports as valid never makes an evaluation
raise.  It does not look at the weights, and the bounds of the score hold for the
bodies whose contributing weights are not negative.
-/

structure SLOValidateRequest where
  objectives : List SLOObjectiveIn
  totalScorePassThreshold : ℚ := 90
  totalScoreWarningThreshold : ℚ := 75
  comparison : StoredComparison := {}

/-- An entry of the answer to a validation.  `raised`: the text of an exception of the
engine; `outOfRange`: `must be 0-100`. -/
inductive ValidationMessage where
  | raised (error : EngineError)
  | outOfRange
deriving DecidableEq, Repr

structure SLOValidationError where
  field : String
  message : ValidationMessage
deriving DecidableEq, Repr

structure SLOValidationResult where
  valid : Bool
  errors : List SLOValidationError
  objectives : Option (List SLOObjectiveIn) := none

/-- The errors of one criteria list, each under the field that it was given. -/
def criteriaErrors (field : String) (criteriaList : List String) : List SLOValidationError :=
  criteriaList.filterMap fun raw =>
    match (parseCriteriaString raw : Except EngineError ParsedCriteria) with
    | .ok _ => none
    | .error failure => some { field, message := .raised failure }

def objectiveErrors (entry : SLOObjective × Nat) : List SLOValidationError :=
  criteriaErrors s!"objectives[{entry.2}].pass_threshold" entry.1.passThreshold ++
    criteriaErrors s!"objectives[{entry.2}].warning_threshold" entry.1.warningThreshold

def thresholdErrors (field : String) (threshold : ℚ) : List SLOValidationError :=
  if 0 ≤ threshold ∧ threshold ≤ 100 then [] else [{ field, message := .outOfRange }]

def sloErrors (slo : SLO) : List SLOValidationError :=
  slo.objectives.zipIdx.flatMap objectiveErrors ++
    thresholdErrors "total_score_pass_threshold" slo.totalScore.passThreshold ++
    thresholdErrors "total_score_warning_threshold" slo.totalScore.warningThreshold

/-- `build_slo` on the request body. -/
def SLOValidateRequest.build (body : SLOValidateRequest) : Except EngineError SLO :=
  buildSlo (body.objectives.map dumpObjective) body.totalScorePassThreshold
    body.totalScoreWarningThreshold body.comparison

def validateSlo (body : SLOValidateRequest) : SLOValidationResult :=
  if body.objectives.isEmpty then
    { valid := false
      errors := [{ field := "objectives", message := .raised .emptyObjectives }] }
  else
    match body.build with
    | .error failure =>
        { valid := false, errors := [{ field := "objectives", message := .raised failure }] }
    | .ok slo =>
        if sloErrors slo ≠ [] then { valid := false, errors := sloErrors slo }
        else { valid := true, errors := [], objectives := some body.objectives }

theorem criteriaErrors_eq_nil (field : String) (criteriaList : List String) :
    criteriaErrors field criteriaList = [] ↔ forall raw, raw ∈ criteriaList -> parses raw = true := by
  unfold criteriaErrors
  rw [List.filterMap_eq_nil_iff]
  refine forall_congr' fun raw => imp_congr_right fun _ => ?_
  unfold parses
  cases (parseCriteriaString raw : Except EngineError ParsedCriteria) with
  | ok criteria => simp [Except.isOk, Except.toBool]
  | error failure => simp [Except.isOk, Except.toBool]

theorem objectiveErrors_eq_nil (entry : SLOObjective × Nat) :
    objectiveErrors entry = [] ↔ entry.1.CriteriaParse := by
  unfold objectiveErrors SLOObjective.CriteriaParse
  rw [List.append_eq_nil_iff, criteriaErrors_eq_nil, criteriaErrors_eq_nil, List.forall_mem_append]

theorem thresholdErrors_eq_nil (field : String) (threshold : ℚ) :
    thresholdErrors field threshold = [] ↔ 0 ≤ threshold ∧ threshold ≤ 100 := by
  unfold thresholdErrors
  by_cases inside : 0 ≤ threshold ∧ threshold ≤ 100
  · simp [inside]
  · rw [if_neg inside]
    simp [inside]

theorem sloErrors_eq_nil (slo : SLO) :
    sloErrors slo = [] ↔ (forall obj, obj ∈ slo.objectives -> obj.CriteriaParse) ∧
      (0 ≤ slo.totalScore.passThreshold ∧ slo.totalScore.passThreshold ≤ 100) ∧
      0 ≤ slo.totalScore.warningThreshold ∧ slo.totalScore.warningThreshold ≤ 100 := by
  have objectives : slo.objectives.zipIdx.flatMap objectiveErrors = [] ↔
      forall obj, obj ∈ slo.objectives -> obj.CriteriaParse := by
    rw [List.flatMap_eq_nil_iff]
    constructor
    · intro clean obj member
      rcases List.mem_iff_getElem?.mp member with ⟨index, here⟩
      exact (objectiveErrors_eq_nil (obj, index)).mp
        (clean _ (List.mk_mem_zipIdx_iff_getElem?.mpr here))
    · intro parse entry member
      exact (objectiveErrors_eq_nil entry).mpr (parse entry.1 (List.fst_mem_of_mem_zipIdx member))
  unfold sloErrors
  rw [List.append_eq_nil_iff, List.append_eq_nil_iff, objectives, thresholdErrors_eq_nil,
    thresholdErrors_eq_nil, and_assoc]

theorem validateSlo_valid (body : SLOValidateRequest) :
    (validateSlo body).valid = true ↔
      Exists fun slo => body.build = .ok slo ∧ sloErrors slo = [] := by
  unfold validateSlo
  by_cases empty : body.objectives.isEmpty = true
  · have none : body.objectives = [] := List.isEmpty_iff.mp empty
    rw [if_pos empty]
    constructor
    · intro impossible
      cases impossible
    · rintro ⟨slo, built, _⟩
      have objectives := (buildSlo_eq_ok built).1
      rw [none] at objectives
      exact absurd objectives slo.nonempty
  · rw [if_neg empty]
    cases built : body.build with
    | error failure => simp
    | ok slo => by_cases clean : sloErrors slo = [] <;> simp [clean]

section Valid

variable {slo : SLO} {metrics baselines : Dict (Option ℚ)} {ids : List Nat}
  {result : EvaluationResult}

section

variable (evaluated : evaluate slo metrics baselines ids = .ok result)

include evaluated

theorem weigh_nonnegative
    (weights : forall obj, obj ∈ slo.objectives -> obj.passThreshold ≠ [] -> 0 ≤ obj.weight) :
    (weigh slo metrics baselines).Nonnegative := by
  intro entry member contributes
  rcases List.mem_map.mp member with ⟨obj, inside, same⟩
  rw [<- same] at contributes ⊢
  exact weights obj inside (mt (objectiveStatus_info evaluated inside).mpr contributes)

theorem lostBy_le_weigh
    (weights : forall obj, obj ∈ slo.objectives -> obj.passThreshold ≠ [] -> 0 ≤ obj.weight)
    {obj : SLOObjective} (member : obj ∈ slo.objectives) :
    Weighing.lostBy (obj.weight, objectiveStatus metrics baselines obj) ≤
      (weigh slo metrics baselines).lost :=
  lostBy_le_lost (weigh_nonnegative evaluated weights) (List.mem_map_of_mem member)

theorem lost_of_passing
    (passing : forall obj, obj ∈ slo.objectives -> obj.passThreshold ≠ [] ->
      objectiveStatus metrics baselines obj = .pass) :
    (weigh slo metrics baselines).lost = 0 := by
  rw [lost_eq_sum]
  apply List.sum_eq_zero
  intro loss member
  rcases List.mem_map.mp member with ⟨entry, inside, same⟩
  rcases List.mem_map.mp inside with ⟨obj, inside, equal⟩
  rw [<- same, <- equal]
  by_cases informational : obj.passThreshold = []
  · rw [(objectiveStatus_info evaluated inside).mpr informational]
    rfl
  · rw [passing obj inside informational]
    rfl

/-- An objective with pass criteria that does not pass loses at least one half of its
weight. -/
theorem half_le_lostBy {obj : SLOObjective} (member : obj ∈ slo.objectives)
    (criteria : obj.passThreshold ≠ []) (weight : 0 ≤ obj.weight)
    (unpassed : objectiveStatus metrics baselines obj ≠ .pass) :
    1 / 2 * (obj.weight : ℚ) ≤
      Weighing.lostBy (obj.weight, objectiveStatus metrics baselines obj) := by
  have contributes := mt (objectiveStatus_info evaluated member).mp criteria
  have weight' : (0 : ℚ) ≤ obj.weight := by exact_mod_cast weight
  cases status : objectiveStatus metrics baselines obj with
  | pass => exact absurd status unpassed
  | info => exact absurd status contributes
  | warning => exact le_refl _
  | fail =>
      simp only [Weighing.lostBy]
      linarith
  | error =>
      simp only [Weighing.lostBy]
      linarith

end

end Valid

/-- A valid body never makes an evaluation raise.  With weights that are not negative
its score is a percentage, and full exactly when no more than one part in twenty
thousand of the contributing weight is lost; so it is full when everything passes,
and only then as far as every weight shows in two decimals. -/
theorem valid_score {body : SLOValidateRequest} (valid : (validateSlo body).valid = true)
    (metrics baselines : Dict (Option ℚ)) (ids : List Nat) :
    Exists fun slo => Exists fun result =>
      body.build = .ok slo ∧ evaluate slo metrics baselines ids = .ok result ∧
        ((forall obj, obj ∈ slo.objectives -> obj.passThreshold ≠ [] -> 0 ≤ obj.weight) ->
          0 ≤ result.score ∧ result.score ≤ 100 ∧
          (result.score = 100 ↔
            20000 * (weigh slo metrics baselines).lost ≤ contributingWeight slo) ∧
          ((forall obj, obj ∈ slo.objectives -> obj.passThreshold ≠ [] ->
            objectiveStatus metrics baselines obj = .pass) -> result.score = 100) ∧
          (forall obj, obj ∈ slo.objectives ->
            objectiveStatus metrics baselines obj = .fail ∨
              objectiveStatus metrics baselines obj = .error ->
            contributingWeight slo < 20000 * obj.weight -> result.score < 100) ∧
          ((forall obj, obj ∈ slo.objectives -> obj.passThreshold ≠ [] ->
            contributingWeight slo < 10000 * obj.weight) ->
            (result.score = 100 ↔ forall obj, obj ∈ slo.objectives -> obj.passThreshold ≠ [] ->
              objectiveStatus metrics baselines obj = .pass))) := by
  rcases (validateSlo_valid body).mp valid with ⟨slo, built, clean⟩
  rcases (isOk_iff _).mp ((evaluate_isOk slo metrics baselines ids).mpr
    ((sloErrors_eq_nil slo).mp clean).1) with ⟨result, evaluated⟩
  refine ⟨slo, result, built, evaluated, fun weights => ?_⟩
  have nonnegative := weigh_nonnegative evaluated weights
  have bounds := percentage_bounds nonnegative
  have full := percentage_full_iff nonnegative
  have counted := counted_nonneg nonnegative
  rw [<- evaluate_score evaluated] at bounds full
  rw [counted_weigh evaluated] at full counted
  have passed : (forall obj, obj ∈ slo.objectives -> obj.passThreshold ≠ [] ->
      objectiveStatus metrics baselines obj = .pass) -> result.score = 100 := by
    intro passing
    rw [full, lost_of_passing evaluated passing, mul_zero]
    exact counted
  refine ⟨bounds.1, bounds.2, full, passed, ?_, ?_⟩
  · intro obj member failed visible
    apply lt_of_le_of_ne bounds.2
    intro same
    have hidden := full.mp same
    have part := lostBy_le_weigh evaluated weights member
    have visible' : (contributingWeight slo : ℚ) < 20000 * obj.weight := by exact_mod_cast visible
    have whole : (obj.weight : ℚ) =
        Weighing.lostBy (obj.weight, objectiveStatus metrics baselines obj) := by
      rcases failed with failed | failed <;> simp [failed, Weighing.lostBy]
    linarith
  · intro visible
    refine ⟨?_, passed⟩
    intro same obj member criteria
    by_contra unpassed
    have hidden := full.mp same
    have part := lostBy_le_weigh evaluated weights member
    have half := half_le_lostBy evaluated member criteria (weights obj member criteria) unpassed
    have visible' : (contributingWeight slo : ℚ) < 10000 * obj.weight := by
      exact_mod_cast visible obj member criteria
    linarith

def Sample.weightless : SLOValidateRequest :=
  { objectives := [{ sli := "latency", passThreshold := ["<=100"] },
      { sli := "requests", passThreshold := ["<=1"], weight := 0 }] }

theorem weightless_body_scores :
    Exists fun slo => Exists fun result =>
      Sample.weightless.build = .ok slo ∧ evaluate slo Sample.throughput ∅ [] = .ok result ∧
        result.score ≤ 100 := by
  have valid : (validateSlo Sample.weightless).valid = true := by decide +kernel
  rcases valid_score valid Sample.throughput ∅ [] with
    ⟨slo, result, built, evaluated, scores⟩
  refine ⟨slo, result, built, evaluated, (scores ?_).2.1⟩
  have weights : Sample.weightless.build.toOption.all (fun slo =>
      decide (forall obj, obj ∈ slo.objectives -> obj.passThreshold ≠ [] -> 0 ≤ obj.weight)) =
      true := by
    decide +kernel
  rw [built] at weights
  exact of_decide_eq_true weights

/-- The body is valid, a contributing objective fails and the score is full. -/
theorem weightless_failure_full :
    Exists fun slo => Exists fun result => Exists fun obj =>
      (validateSlo Sample.weightless).valid = true ∧ Sample.weightless.build = .ok slo ∧
        evaluate slo Sample.throughput ∅ [] = .ok result ∧ obj ∈ slo.objectives ∧
        obj.passThreshold ≠ [] ∧ objectiveStatus Sample.throughput ∅ obj = .fail ∧
        result.score = 100 := by
  have ran : (Sample.weightless.build.toOption.bind fun slo =>
      (evaluate slo Sample.throughput ∅ []).toOption.filter fun result =>
        decide (result.score = 100 ∧ Exists fun obj => obj ∈ slo.objectives ∧
          obj.passThreshold ≠ [] ∧ objectiveStatus Sample.throughput ∅ obj = .fail)).isSome =
      true := by
    decide +kernel
  rcases Option.isSome_iff_exists.mp ran with ⟨result, ran⟩
  rcases Option.bind_eq_some_iff.mp ran with ⟨slo, built, ran⟩
  rcases Option.filter_eq_some_iff.mp ran with ⟨evaluated, facts⟩
  rcases of_decide_eq_true facts with ⟨full, obj, member, criteria, failed⟩
  exact ⟨slo, result, obj, by decide +kernel, toOption_eq_some.mp built,
    toOption_eq_some.mp evaluated, member, criteria, failed, full⟩

end SloTest
end Tropek
