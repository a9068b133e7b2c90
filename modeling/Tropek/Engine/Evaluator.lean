import Mathlib.Data.List.AList
import Tropek.Engine.Scoring

namespace Tropek
namespace Engine

open Library Fallible

/-!
# Evaluating an SLO

`evaluate` scores every objective on its metric value and its baseline, keeps a
result per indicator, and combines the scores.  It is a function of the values
that it looks up for its own objectives, which is what the comparisons between
scoring and re-scoring rest on.
-/

abbrev Dict (V : Type) := AList fun _ : String => V

/-- `d.get(key)` for a dictionary whose values may themselves be null. -/
def getValue (values : Dict (Option ℚ)) (key : String) : Option ℚ :=
  (values.lookup key).join

structure CriteriaTarget where
  criteria : String
  targetValue : ℚ
  violated : Bool
deriving DecidableEq, Repr

structure IndicatorResult where
  metric : String
  displayName : String
  value : Option ℚ
  comparedValue : Option ℚ
  status : IndicatorStatus
  score : ℚ
  weight : Int
  keySli : Bool
  passTargets : List CriteriaTarget
  warningTargets : Option (List CriteriaTarget)
  changeAbsolute : Option ℚ
  changeRelativePct : Option ℚ
deriving DecidableEq, Repr

structure EvaluationResult where
  result : EvaluationOutcome
  score : ℚ
  indicatorResults : List IndicatorResult
  comparedEvaluationIds : List Nat
deriving DecidableEq, Repr

def buildTarget (value baseline : Option ℚ) (raw : String) : Except EngineError CriteriaTarget := do
  let criteria <- parseCriteriaString raw
  return {
    criteria := raw
    targetValue := criteria.computeTargetValue baseline
    violated := value.elim true fun value => !evaluateCriteria criteria value baseline }

/-- The targets of a criteria list.  Unlike `evaluateCriteriaBlock` this parses
every criterion, whether or not an earlier one holds. -/
def buildTargets (criteriaList : List String) (value baseline : Option ℚ) :
    Except EngineError (List CriteriaTarget) :=
  criteriaList.mapM (buildTarget value baseline)

def changeAbsolute (value baseline : Option ℚ) : Option ℚ := do
  let value <- value
  let baseline <- baseline
  return value - baseline

def changeRelativePct (value baseline : Option ℚ) : Option ℚ := do
  let value <- value
  let baseline <- baseline
  if baseline = 0 then none else return (value / baseline - 1) * 100

def evaluateObjective (metrics baselines : Dict (Option ℚ)) (obj : SLOObjective) :
    Except EngineError (ObjectiveResult × IndicatorResult) := do
  let value := getValue metrics obj.sli
  let baseline := getValue baselines obj.sli
  let objResult <- scoreObjective obj value baseline
  let passTargets <- buildTargets obj.passThreshold value baseline
  let warningTargets <- buildTargets obj.warningThreshold value baseline
  return (objResult, {
    metric := obj.sli
    displayName := obj.displayName
    value
    comparedValue := baseline
    status := objResult.status
    score := objResult.score
    weight := obj.weight
    keySli := obj.keySli
    passTargets
    warningTargets := if obj.warningThreshold = [] then none else some warningTargets
    changeAbsolute := changeAbsolute value baseline
    changeRelativePct := changeRelativePct value baseline })

def evaluate (slo : SLO) (metrics baselines : Dict (Option ℚ))
    (comparedEvaluationIds : List Nat) : Except EngineError EvaluationResult := do
  let scored <- slo.objectives.mapM (evaluateObjective metrics baselines)
  let total := calculateTotalScore (scored.map Prod.fst) slo.totalScore
  return { result := total.result, score := roundTwoPlaces total.score,
           indicatorResults := scored.map Prod.snd, comparedEvaluationIds }

def SLOObjective.CriteriaParse (obj : SLOObjective) : Prop :=
  forall raw, raw ∈ obj.passThreshold ++ obj.warningThreshold -> parses raw = true

instance (obj : SLOObjective) : Decidable obj.CriteriaParse :=
  inferInstanceAs (Decidable (forall raw, raw ∈ obj.passThreshold ++ obj.warningThreshold ->
    parses raw = true))

theorem buildTargets_isOk (criteriaList : List String) (value baseline : Option ℚ) :
    (buildTargets criteriaList value baseline).isOk = true ↔
      forall raw, raw ∈ criteriaList -> parses raw = true := by
  unfold buildTargets
  rw [mapM_isOk]
  refine forall_congr' fun raw => imp_congr_right fun _ => ?_
  unfold buildTarget parses
  cases (parseCriteriaString raw : Except EngineError ParsedCriteria) with
  | error failure => exact Iff.rfl
  | ok criteria => exact ⟨fun _ => rfl, fun _ => rfl⟩

theorem evaluateObjective_isOk (metrics baselines : Dict (Option ℚ)) (obj : SLOObjective) :
    (evaluateObjective metrics baselines obj).isOk = true ↔ obj.CriteriaParse := by
  unfold evaluateObjective SLOObjective.CriteriaParse
  rw [List.forall_mem_append]
  constructor
  · intro evaluated
    rcases bind_isOk.mp evaluated with ⟨objResult, _, evaluated⟩
    rcases bind_isOk.mp evaluated with ⟨passTargets, passBuilt, evaluated⟩
    rcases bind_isOk.mp evaluated with ⟨warningTargets, warningBuilt, _⟩
    exact ⟨(buildTargets_isOk _ _ _).mp ((isOk_iff _).mpr ⟨_, passBuilt⟩),
      (buildTargets_isOk _ _ _).mp ((isOk_iff _).mpr ⟨_, warningBuilt⟩)⟩
  · rintro ⟨passAccepted, warningAccepted⟩
    rcases (isOk_iff _).mp (scoreObjective_isOk passAccepted warningAccepted
      (getValue metrics obj.sli) (getValue baselines obj.sli)) with ⟨objResult, scored⟩
    rcases (isOk_iff _).mp ((buildTargets_isOk _ (getValue metrics obj.sli)
      (getValue baselines obj.sli)).mpr passAccepted) with ⟨passTargets, passBuilt⟩
    rcases (isOk_iff _).mp ((buildTargets_isOk _ (getValue metrics obj.sli)
      (getValue baselines obj.sli)).mpr warningAccepted) with ⟨warningTargets, warningBuilt⟩
    refine bind_isOk.mpr ⟨objResult, scored, ?_⟩
    refine bind_isOk.mpr ⟨passTargets, passBuilt, ?_⟩
    exact bind_isOk.mpr ⟨warningTargets, warningBuilt, rfl⟩

theorem evaluate_isOk (slo : SLO) (metrics baselines : Dict (Option ℚ)) (ids : List Nat) :
    (evaluate slo metrics baselines ids).isOk = true ↔
      forall obj, obj ∈ slo.objectives -> obj.CriteriaParse := by
  have looped : (evaluate slo metrics baselines ids).isOk =
      (slo.objectives.mapM (evaluateObjective metrics baselines)).isOk := by
    unfold evaluate
    cases slo.objectives.mapM (evaluateObjective metrics baselines) <;> rfl
  rw [looped, mapM_isOk]
  exact forall_congr' fun obj => imp_congr_right fun _ => evaluateObjective_isOk _ _ obj

variable {result : EvaluationResult} {slo : SLO} {baselines metrics : Dict (Option ℚ)}
  {ids : List Nat}

theorem evaluate_eq_ok (evaluated : evaluate slo metrics baselines ids = .ok result) :
    Exists fun scored : List (ObjectiveResult × IndicatorResult) =>
      List.Forall₂ (fun obj pair => evaluateObjective metrics baselines obj = .ok pair)
        slo.objectives scored ∧
      result.result = (calculateTotalScore (scored.map Prod.fst) slo.totalScore).result ∧
      result.score =
        roundTwoPlaces (calculateTotalScore (scored.map Prod.fst) slo.totalScore).score ∧
      result.indicatorResults = scored.map Prod.snd ∧ result.comparedEvaluationIds = ids := by
  rcases bind_eq_ok.mp evaluated with ⟨scored, looped, same⟩
  cases same
  exact ⟨scored, mapM_eq_ok.mp looped, rfl, rfl, rfl, rfl⟩

theorem evaluateObjective_eq_ok {obj : SLOObjective} {pair : ObjectiveResult × IndicatorResult}
    (evaluated : evaluateObjective metrics baselines obj = .ok pair) :
    pair.2.metric = obj.sli ∧ pair.2.value = getValue metrics obj.sli ∧
      pair.2.status = pair.1.status ∧ pair.2.score = pair.1.score ∧
      pair.1 = .ofStatus obj pair.2.status := by
  rcases bind_eq_ok.mp evaluated with ⟨objResult, scored, evaluated⟩
  rcases bind_eq_ok.mp evaluated with ⟨passTargets, _, evaluated⟩
  rcases bind_eq_ok.mp evaluated with ⟨warningTargets, _, same⟩
  cases same
  exact ⟨rfl, rfl, rfl, rfl, scoreObjective_eq_ofStatus scored⟩

theorem evaluate_metrics (evaluated : evaluate slo metrics baselines ids = .ok result) :
    result.indicatorResults.map (·.metric) = slo.objectives.map (·.sli) := by
  rcases evaluate_eq_ok evaluated with ⟨scored, related, -, -, same, -⟩
  rw [same, List.map_map]
  clear same
  generalize slo.objectives = objectives at related ⊢
  induction related with
  | nil => rfl
  | cons first others ih =>
      simp only [List.map_cons, Function.comp_apply, (evaluateObjective_eq_ok first).1]
      exact congrArg _ ih

theorem evaluate_values (evaluated : evaluate slo metrics baselines ids = .ok result)
    (indicator : IndicatorResult) (member : indicator ∈ result.indicatorResults) :
    indicator.value = getValue metrics indicator.metric := by
  rcases evaluate_eq_ok evaluated with ⟨scored, related, -, -, same, -⟩
  rw [same] at member
  clear same
  generalize slo.objectives = objectives at related
  induction related with
  | nil => exact absurd member List.not_mem_nil
  | cons first others ih =>
      rcases List.mem_cons.mp member with here | later
      · rcases evaluateObjective_eq_ok first with ⟨metric, value, _⟩
        rw [here, metric, value]
      · exact ih later

/-- The evaluation depends on its dictionaries through the metrics of its own
objectives only. -/
theorem evaluate_congr {metrics' baselines' : Dict (Option ℚ)} (ids : List Nat)
    (sameMetrics : forall obj, obj ∈ slo.objectives ->
      getValue metrics obj.sli = getValue metrics' obj.sli)
    (sameBaselines : forall obj, obj ∈ slo.objectives ->
      getValue baselines obj.sli = getValue baselines' obj.sli) :
    evaluate slo metrics baselines ids = evaluate slo metrics' baselines' ids := by
  have sameLoop : slo.objectives.mapM (evaluateObjective metrics baselines) =
      slo.objectives.mapM (evaluateObjective metrics' baselines') := by
    refine mapM_congr fun obj member => ?_
    unfold evaluateObjective
    rw [sameMetrics obj member, sameBaselines obj member]
  unfold evaluate
  rw [sameLoop]

end Engine
end Tropek
