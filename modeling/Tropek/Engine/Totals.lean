import Mathlib.Algebra.Order.BigOperators.Group.List
import Mathlib.Tactic.Linarith
import Mathlib.Tactic.GCongr
import Tropek.Engine.Evaluator

namespace Tropek
namespace Engine

open Library Fallible

/-!
# Total scores compared

The total score of a list of objective results depends on three quantities: the
weight that contributes, the score that is achieved and whether a key SLI vetoes.
Two lists are compared through these three.  A list that is rearranged, or that
gains or loses informational objectives, keeps all of them; a list in which some
status improves keeps the first, raises the second and can only lift the veto.
-/

def maximumScore (results : List ObjectiveResult) : Int :=
  ((results.filter (·.contributesToScore)).map (·.objective.weight)).sum

def achievedScore (results : List ObjectiveResult) : ℚ :=
  (results.map (·.score)).sum

def vetoed (results : List ObjectiveResult) : Bool :=
  results.any (·.keySliFailed)

def outcomeOf (totalScore : SLOTotalScore) (veto : Bool) (pct : ℚ) : EvaluationOutcome :=
  if veto then .fail
  else if totalScore.passThreshold ≤ pct then .pass
  else if totalScore.warningThreshold ≤ pct then .warning
  else .fail

theorem calculateTotalScore_eq (results : List ObjectiveResult) (totalScore : SLOTotalScore) :
    calculateTotalScore results totalScore =
      if maximumScore results = 0 then { result := .pass, score := 100 }
      else
        { result := outcomeOf totalScore (vetoed results)
            (100 * achievedScore results / maximumScore results)
          score := 100 * achievedScore results / maximumScore results } := by
  unfold calculateTotalScore outcomeOf maximumScore achievedScore vetoed
  dsimp only
  split_ifs <;> rfl

theorem calculateTotalScore_congr {first second : List ObjectiveResult}
    (totalScore : SLOTotalScore) (maximum : maximumScore first = maximumScore second)
    (achieved : achievedScore first = achievedScore second)
    (veto : vetoed first = vetoed second) :
    calculateTotalScore first totalScore = calculateTotalScore second totalScore := by
  rw [calculateTotalScore_eq, calculateTotalScore_eq, maximum, achieved, veto]

def ObjectiveResult.Scored (result : ObjectiveResult) : Prop :=
  Exists fun value => Exists fun baseline =>
    scoreObjective result.objective value baseline = .ok result

theorem scoreObjective_info {objective : SLOObjective} {value baseline : Option ℚ}
    {result : ObjectiveResult} (scored : scoreObjective objective value baseline = .ok result) :
    result.status = .info ↔ objective.passThreshold = [] := by
  unfold scoreObjective at scored
  by_cases informational : objective.passThreshold = []
  · rw [if_pos informational] at scored
    cases scored
    simp [informational]
  · rw [if_neg informational] at scored
    cases value with
    | none =>
        cases scored
        simp [informational]
    | some value =>
        rcases bind_eq_ok.mp scored with ⟨passed, _, scored⟩
        cases passed with
        | true =>
            cases scored
            simp [informational]
        | false =>
            rcases bind_eq_ok.mp scored with ⟨warned, _, scored⟩
            cases warned <;> cases scored <;> simp [informational]

namespace ObjectiveResult

variable {result : ObjectiveResult}

theorem Scored.eq_ofStatus (scored : result.Scored) :
    result = .ofStatus result.objective result.status := by
  rcases scored with ⟨value, baseline, scored⟩
  exact scoreObjective_eq_ofStatus scored

theorem Scored.info_iff (scored : result.Scored) :
    result.status = .info ↔ result.objective.passThreshold = [] := by
  rcases scored with ⟨value, baseline, scored⟩
  exact scoreObjective_info scored

theorem Scored.contributes_iff (scored : result.Scored) :
    result.contributesToScore = true ↔ result.objective.passThreshold ≠ [] := by
  have contributes : result.contributesToScore = decide (result.status ≠ .info) :=
    congrArg (·.contributesToScore) scored.eq_ofStatus
  rw [contributes, decide_eq_true_eq]
  exact not_congr scored.info_iff

def hasCriteria (result : ObjectiveResult) : Bool :=
  result.objective.passThreshold ≠ []

theorem Scored.hasCriteria_eq (scored : result.Scored) :
    result.hasCriteria = result.contributesToScore := by
  apply Bool.eq_iff_iff.mpr
  rw [scored.contributes_iff]
  simp [hasCriteria]

theorem Scored.idle (scored : result.Scored) (informational : result.hasCriteria = false) :
    result.score = 0 ∧ result.keySliFailed = false := by
  have status : result.status = .info := by
    apply scored.info_iff.mpr
    simpa [hasCriteria] using informational
  rw [scored.eq_ofStatus, status]
  exact ⟨rfl, by simp [ofStatus]⟩

end ObjectiveResult

section Informational

variable {results : List ObjectiveResult}

section

variable (scored : forall result, result ∈ results -> result.Scored)

include scored

theorem maximumScore_hasCriteria :
    maximumScore (results.filter (·.hasCriteria)) = maximumScore results := by
  have same : (results.filter (·.hasCriteria)).filter (·.contributesToScore) =
      results.filter (·.contributesToScore) := by
    rw [List.filter_filter]
    apply List.filter_congr
    intro result member
    rw [(scored result member).hasCriteria_eq, Bool.and_self]
  unfold maximumScore
  rw [same]

theorem achievedScore_hasCriteria :
    achievedScore (results.filter (·.hasCriteria)) = achievedScore results := by
  induction results with
  | nil => rfl
  | cons result rest ih =>
      have others := ih fun other member =>
        scored other (List.mem_cons_of_mem _ member)
      simp only [achievedScore, List.map_cons, List.sum_cons] at others ⊢
      cases criteria : result.hasCriteria with
      | true => simp [criteria, others]
      | false => simp [criteria, others, ((scored result List.mem_cons_self).idle criteria).1]

theorem vetoed_hasCriteria : vetoed (results.filter (·.hasCriteria)) = vetoed results := by
  induction results with
  | nil => rfl
  | cons result rest ih =>
      have others := ih fun other member =>
        scored other (List.mem_cons_of_mem _ member)
      simp only [vetoed, List.any_cons] at others ⊢
      cases criteria : result.hasCriteria with
      | true => simp [criteria, others]
      | false => simp [criteria, others, ((scored result List.mem_cons_self).idle criteria).2]

theorem calculateTotalScore_hasCriteria (totalScore : SLOTotalScore) :
    calculateTotalScore (results.filter (·.hasCriteria)) totalScore =
      calculateTotalScore results totalScore :=
  calculateTotalScore_congr totalScore (maximumScore_hasCriteria scored)
    (achievedScore_hasCriteria scored) (vetoed_hasCriteria scored)

end

end Informational

theorem calculateTotalScore_perm {first second : List ObjectiveResult}
    (rearranged : first.Perm second) (totalScore : SLOTotalScore) :
    calculateTotalScore first totalScore = calculateTotalScore second totalScore := by
  apply calculateTotalScore_congr
  · exact ((rearranged.filter _).map _).sum_eq
  · exact (rearranged.map _).sum_eq
  · exact rearranged.any_eq

theorem roundHalfEven_near (value : ℚ) : |value - roundHalfEven value| ≤ 1 / 2 := by
  have lower : ((value.floor : Int) : ℚ) ≤ value := Int.floor_le value
  have upper : value < (value.floor : Int) + 1 := Int.lt_floor_add_one value
  unfold roundHalfEven
  rw [abs_le]
  dsimp only
  split_ifs <;> push_cast <;> constructor <;> linarith

theorem roundHalfEven_mono {first second : ℚ} (below : first ≤ second) :
    roundHalfEven first ≤ roundHalfEven second := by
  by_contra above
  have apart : (roundHalfEven second : ℚ) + 1 ≤ roundHalfEven first := by
    exact_mod_cast not_le.mp above
  have firstNear := abs_le.mp (roundHalfEven_near first)
  have secondNear := abs_le.mp (roundHalfEven_near second)
  have same : first = second := by linarith
  rw [same] at above
  exact above (le_refl _)

theorem roundTwoPlaces_near (value : ℚ) : |roundTwoPlaces value - value| ≤ 1 / 200 := by
  have near := abs_le.mp (roundHalfEven_near (value * 100))
  unfold roundTwoPlaces
  rw [abs_le]
  constructor <;> linarith

theorem roundTwoPlaces_mono {first second : ℚ} (below : first ≤ second) :
    roundTwoPlaces first ≤ roundTwoPlaces second := by
  have scaled : first * 100 ≤ second * 100 := by linarith
  have rounded : (roundHalfEven (first * 100) : ℚ) ≤ roundHalfEven (second * 100) := by
    exact_mod_cast roundHalfEven_mono scaled
  unfold roundTwoPlaces
  linarith

/-- Failed and erroneous objectives rank alike, below warned and passed ones. -/
def IndicatorStatus.rank : IndicatorStatus -> Nat
  | .pass => 2
  | .warning => 1
  | _ => 0

def EvaluationOutcome.rank : EvaluationOutcome -> Nat
  | .pass => 2
  | .warning => 1
  | .fail => 0

/-- The same weight, key flag and kind of objective, with a status that is no
worse. -/
structure ObjectiveResult.Improves (before after : ObjectiveResult) : Prop where
  weight : after.objective.weight = before.objective.weight
  keySli : after.objective.keySli = before.objective.keySli
  criteria : after.hasCriteria = before.hasCriteria
  status : before.status.rank ≤ after.status.rank

structure TotalScore.NoWorse (before after : TotalScore) : Prop where
  score : before.score ≤ after.score
  result : before.result.rank ≤ after.result.rank

theorem outcomeOf_mono (totalScore : SLOTotalScore) {veto veto' : Bool} {pct pct' : ℚ}
    (lifted : veto' = true -> veto = true) (raised : pct ≤ pct') :
    (outcomeOf totalScore veto pct).rank ≤ (outcomeOf totalScore veto' pct').rank := by
  unfold outcomeOf
  by_cases vetoing : veto = true
  · simp [vetoing, EvaluationOutcome.rank]
  · have lifted' : veto' = false := Bool.eq_false_iff.mpr (mt lifted vetoing)
    rw [if_neg vetoing, lifted', if_neg Bool.false_ne_true]
    by_cases passes : totalScore.passThreshold ≤ pct
    · rw [if_pos passes, if_pos (passes.trans raised)]
    · rw [if_neg passes]
      by_cases warned : totalScore.warningThreshold ≤ pct
      · rw [if_pos warned, if_pos (warned.trans raised)]
        split <;> simp [EvaluationOutcome.rank]
      · rw [if_neg warned]
        exact Nat.zero_le _

theorem ofStatus_score_mono {before after : SLOObjective} {status status' : IndicatorStatus}
    (weight : after.weight = before.weight) (nonnegative : 0 ≤ before.weight)
    (better : status.rank ≤ status'.rank) :
    (ObjectiveResult.ofStatus before status).score ≤
      (ObjectiveResult.ofStatus after status').score := by
  have nonnegative' : (0 : ℚ) ≤ before.weight := by exact_mod_cast nonnegative
  cases status <;> cases status' <;>
    simp [ObjectiveResult.ofStatus, IndicatorStatus.rank, weight] at better ⊢ <;> linarith

section Improvement

variable {before after : List ObjectiveResult}

section

variable {first second : ObjectiveResult} (improved : first.Improves second) (scored : first.Scored)
  (scored' : second.Scored)

include improved scored scored'

theorem Improves.score_le (nonnegative : 0 ≤ first.objective.weight) :
    first.score ≤ second.score := by
  rw [scored.eq_ofStatus, scored'.eq_ofStatus]
  exact ofStatus_score_mono improved.weight nonnegative improved.status

theorem Improves.veto (failed : second.keySliFailed = true) : first.keySliFailed = true := by
  have criteria : second.hasCriteria = true := by
    by_contra informational
    have idle := scored'.idle (Bool.eq_false_iff.mpr informational)
    rw [idle.2] at failed
    exact Bool.false_ne_true failed
  have contributes : first.status ≠ .info := by
    rw [improved.criteria] at criteria
    apply mt scored.info_iff.mp
    simpa [ObjectiveResult.hasCriteria] using criteria
  have better := improved.status
  rw [scored.eq_ofStatus]
  rw [scored'.eq_ofStatus] at failed
  simp only [ObjectiveResult.ofStatus, Bool.and_eq_true, Bool.or_eq_true,
    decide_eq_true_eq] at failed ⊢
  refine ⟨?_, improved.keySli ▸ failed.2⟩
  cases status : first.status <;> rcases failed.1 with failed | failed <;>
    simp_all [IndicatorStatus.rank]

end

section

variable (improved : List.Forall₂ ObjectiveResult.Improves before after)
  (scored : forall result, result ∈ before -> result.Scored)
  (scored' : forall result, result ∈ after -> result.Scored)

include improved scored scored'

theorem maximumScore_improved : maximumScore after = maximumScore before := by
  rw [<- maximumScore_hasCriteria scored, <- maximumScore_hasCriteria scored']
  have contributing : forall results : List ObjectiveResult,
      (forall result, result ∈ results -> result.Scored) ->
        maximumScore (results.filter (·.hasCriteria)) =
          ((results.filter (·.hasCriteria)).map (·.objective.weight)).sum := by
    intro results scored
    unfold maximumScore
    rw [List.filter_filter]
    apply congrArg fun kept : List ObjectiveResult => (kept.map (·.objective.weight)).sum
    apply List.filter_congr
    intro result member
    rw [(scored result member).hasCriteria_eq, Bool.and_self]
  rw [contributing before scored, contributing after scored']
  clear scored scored' contributing
  induction improved with
  | nil => rfl
  | @cons first second firsts seconds head rest ih =>
      cases criteria : first.hasCriteria with
      | true => simp [head.criteria, criteria, head.weight, ih]
      | false => simp [head.criteria, criteria, ih]

theorem achievedScore_improved
    (nonnegative : forall result, result ∈ before -> 0 ≤ result.objective.weight) :
    achievedScore before ≤ achievedScore after := by
  induction improved with
  | nil => exact le_refl _
  | @cons first second firsts seconds head rest ih =>
      rw [List.forall_mem_cons] at scored scored' nonnegative
      have here := Improves.score_le head scored.1 scored'.1 nonnegative.1
      have others := ih scored.2 scored'.2 nonnegative.2
      simp only [achievedScore, List.map_cons, List.sum_cons] at others ⊢
      exact add_le_add here others

theorem vetoed_improved (veto : vetoed after = true) : vetoed before = true := by
  induction improved with
  | nil => exact veto
  | @cons first second firsts seconds head rest ih =>
      rw [List.forall_mem_cons] at scored scored'
      unfold vetoed at veto ih ⊢
      rw [List.any_cons, Bool.or_eq_true] at veto ⊢
      rcases veto with here | later
      · exact Or.inl (Improves.veto head scored.1 scored'.1 here)
      · exact Or.inr (ih scored.2 scored'.2 later)

end

theorem maximumScore_nonneg
    (nonnegative : forall result, result ∈ before -> 0 ≤ result.objective.weight) :
    0 ≤ maximumScore before := by
  apply List.sum_nonneg
  intro weight member
  rcases List.mem_map.mp member with ⟨result, kept, same⟩
  rw [<- same]
  exact nonnegative result (List.mem_of_mem_filter kept)

theorem calculateTotalScore_improved
    (improved : List.Forall₂ ObjectiveResult.Improves before after)
    (scored : forall result, result ∈ before -> result.Scored)
    (scored' : forall result, result ∈ after -> result.Scored)
    (nonnegative : forall result, result ∈ before -> 0 ≤ result.objective.weight)
    (totalScore : SLOTotalScore) :
    (calculateTotalScore before totalScore).NoWorse (calculateTotalScore after totalScore) := by
  rw [calculateTotalScore_eq, calculateTotalScore_eq, maximumScore_improved improved scored scored']
  by_cases nothing : maximumScore before = 0
  · rw [if_pos nothing, if_pos nothing]
    exact ⟨le_refl _, le_refl _⟩
  · rw [if_neg nothing, if_neg nothing]
    have weighty : (0 : ℚ) ≤ maximumScore before := by
      exact_mod_cast maximumScore_nonneg nonnegative
    have raised : 100 * achievedScore before / maximumScore before ≤
        100 * achievedScore after / maximumScore before := by
      have achieved := achievedScore_improved improved scored scored' nonnegative
      gcongr
    exact ⟨raised, outcomeOf_mono totalScore (vetoed_improved improved scored scored') raised⟩

end Improvement

end Engine
end Tropek
