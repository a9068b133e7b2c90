import Tropek.Engine.Totals
import Tropek.Worker.Points

namespace Tropek
namespace Worker

open Library Engine Store Registry Fallible

/-!
# Verdicts

What the result and the score of an evaluation say about the objectives behind
them.  A failed key SLI fails the evaluation as long as some weight is left to
divide by.  The result compares the exact percentage with the thresholds while the
score is rounded before it is stored, so a stored verdict can be read off the
stored score unless a threshold lies between the two.
-/

def scorings (slo : SLO) (metrics baselines : Dict (Option ℚ)) : List ObjectiveResult :=
  slo.objectives.map fun obj => .ofStatus obj (objectiveStatus metrics baselines obj)

section Total

variable {slo : SLO} {metrics baselines : Dict (Option ℚ)} {ids : List Nat}
  {result : EvaluationResult}

section

variable (evaluated : evaluate slo metrics baselines ids = .ok result)

include evaluated

theorem evaluate_total :
    result.result = (calculateTotalScore (scorings slo metrics baselines) slo.totalScore).result ∧
      result.score = roundTwoPlaces
        (calculateTotalScore (scorings slo metrics baselines) slo.totalScore).score := by
  rcases evaluate_eq_ok evaluated with ⟨scored, related, outcome, score, -, -⟩
  rw [scored_eq_ofStatus related] at outcome score
  exact ⟨outcome, score⟩

theorem scoreObjective_of_evaluate {obj : SLOObjective} (member : obj ∈ slo.objectives) :
    scoreObjective obj (getValue metrics obj.sli) (getValue baselines obj.sli) =
      .ok (.ofStatus obj (objectiveStatus metrics baselines obj)) := by
  have parse := (evaluate_isOk slo metrics baselines ids).mp
    ((isOk_iff _).mpr ⟨result, evaluated⟩) obj member
  rw [SLOObjective.CriteriaParse, List.forall_mem_append] at parse
  rcases (isOk_iff _).mp (scoreObjective_isOk parse.1 parse.2 (getValue metrics obj.sli)
    (getValue baselines obj.sli)) with ⟨scored, outcome⟩
  have form := scoreObjective_eq_ofStatus outcome
  have status : objectiveStatus metrics baselines obj = scored.status := by
    unfold objectiveStatus
    rw [outcome]
  rw [outcome, status, <- form]

theorem scorings_scored :
    forall scoring, scoring ∈ scorings slo metrics baselines -> scoring.Scored := by
  intro scoring member
  rcases List.mem_map.mp member with ⟨obj, inside, same⟩
  rw [<- same]
  exact ⟨_, _, scoreObjective_of_evaluate evaluated inside⟩

theorem objectiveStatus_info {obj : SLOObjective} (member : obj ∈ slo.objectives) :
    objectiveStatus metrics baselines obj = .info ↔ obj.passThreshold = [] :=
  scoreObjective_info (scoreObjective_of_evaluate evaluated member)

end

def contributingWeight (slo : SLO) : Int :=
  ((slo.objectives.filter (·.passThreshold ≠ [])).map (·.weight)).sum

theorem maximumScore_scorings (evaluated : evaluate slo metrics baselines ids = .ok result) :
    maximumScore (scorings slo metrics baselines) = contributingWeight slo := by
  unfold maximumScore contributingWeight scorings
  rw [List.filter_map, List.map_map]
  have same : slo.objectives.filter ((·.contributesToScore) ∘ fun obj =>
      ObjectiveResult.ofStatus obj (objectiveStatus metrics baselines obj)) =
      slo.objectives.filter (·.passThreshold ≠ []) := by
    apply List.filter_congr
    intro obj member
    have informational := objectiveStatus_info evaluated member
    simp only [Function.comp_apply, ObjectiveResult.ofStatus]
    exact decide_eq_decide.mpr (not_congr informational)
  rw [same]
  rfl

end Total

/-- An evaluation with a failed key SLI fails exactly when the objectives with pass
criteria have weight.  The objective itself has some, because it failed. -/
theorem evaluate_fail_iff {slo : SLO} {metrics baselines : Dict (Option ℚ)} {ids : List Nat}
    {result : EvaluationResult} {obj : SLOObjective}
    (evaluated : evaluate slo metrics baselines ids = .ok result)
    (member : obj ∈ slo.objectives) (key : obj.keySli = true)
    (failed : objectiveStatus metrics baselines obj = .fail ∨
      objectiveStatus metrics baselines obj = .error) :
    result.result = .fail ↔ contributingWeight slo ≠ 0 := by
  have veto : vetoed (scorings slo metrics baselines) = true := by
    apply List.any_eq_true.mpr
    refine ⟨_, List.mem_map_of_mem member, ?_⟩
    rcases failed with failed | failed <;> simp [ObjectiveResult.ofStatus, failed, key]
  rw [(evaluate_total evaluated).1, calculateTotalScore_eq, maximumScore_scorings evaluated, veto]
  by_cases nothing : contributingWeight slo = 0
  · simp [nothing]
  · simp [nothing, outcomeOf]

def Sample.gate (weight : Int) : SLO :=
  { objectives := [{ sli := "errors", passThreshold := ["<1"], weight, keySli := true }]
    nonempty := List.cons_ne_nil _ _, comparison := {}, totalScore := {} }

def Sample.errors : Dict (Option ℚ) :=
  (∅ : Dict (Option ℚ)).insert "errors" (some 5)

theorem failed_gate_fails :
    Exists fun result => evaluate (Sample.gate 1) Sample.errors ∅ [] = .ok result ∧
      (result.result = .fail ↔ contributingWeight (Sample.gate 1) ≠ 0) := by
  have ran : (evaluate (Sample.gate 1) Sample.errors ∅ []).isOk = true := by decide +kernel
  rcases (isOk_iff _).mp ran with ⟨result, evaluated⟩
  exact ⟨result, evaluated, evaluate_fail_iff evaluated List.mem_cons_self rfl
    (Or.inl (by decide +kernel))⟩

/-- The gate fails and the evaluation passes with the full score. -/
theorem weightless_gate_passes :
    Exists fun result => Exists fun obj =>
      evaluate (Sample.gate 0) Sample.errors ∅ [] = .ok result ∧
        obj ∈ (Sample.gate 0).objectives ∧ obj.keySli = true ∧ obj.passThreshold ≠ [] ∧
        objectiveStatus Sample.errors ∅ obj = .fail ∧ result.result = .pass ∧
        result.score = 100 := by
  have ran : (evaluate (Sample.gate 0) Sample.errors ∅ []).toOption.any (fun result =>
      decide (result.result = .pass ∧ result.score = 100)) = true := by
    decide +kernel
  rcases (Option.any_eq_true _ _).mp ran with ⟨result, evaluated, verdict⟩
  exact ⟨result, _, toOption_eq_some.mp evaluated, List.mem_cons_self, rfl,
    List.cons_ne_nil _ _, by decide +kernel, of_decide_eq_true verdict⟩

def Weighing.exact (weighing : Weighing) : ℚ :=
  if weighing.counted = 0 then 100 else 100 * weighing.earned / weighing.counted

theorem percentage_eq (weighing : Weighing) :
    weighing.percentage = roundTwoPlaces weighing.exact :=
  rfl

structure Explains (totalScore : SLOTotalScore) (score : ℚ) (result : EvaluationOutcome) :
    Prop where
  pass : result = .pass ↔ totalScore.passThreshold ≤ score
  warning : result = .warning ↔
    score < totalScore.passThreshold ∧ totalScore.warningThreshold ≤ score
  fail : result = .fail ↔
    score < totalScore.passThreshold ∧ score < totalScore.warningThreshold

def Separates (threshold first second : ℚ) : Prop :=
  ¬ (threshold ≤ first ↔ threshold ≤ second)

theorem outcomeOf_explains (totalScore : SLOTotalScore) (pct : ℚ) :
    Explains totalScore pct (outcomeOf totalScore false pct) := by
  unfold outcomeOf
  rw [if_neg Bool.false_ne_true]
  by_cases passes : totalScore.passThreshold ≤ pct
  · rw [if_pos passes]
    constructor <;> simp [passes]
  · rw [if_neg passes]
    by_cases warned : totalScore.warningThreshold ≤ pct
    · rw [if_pos warned]
      constructor <;> simp [passes, warned, not_le.mp passes]
    · rw [if_neg warned]
      constructor <;> simp [passes, warned, not_le.mp passes, not_le.mp warned]

/-- A result that one score explains is explained by another one exactly when no
threshold lies between them. -/
theorem Explains.iff_not_separates {totalScore : SLOTotalScore} {first second : ℚ}
    {result : EvaluationOutcome}
    (ordered : totalScore.warningThreshold ≤ totalScore.passThreshold)
    (explains : Explains totalScore first result) :
    Explains totalScore second result ↔
      ¬ Separates totalScore.passThreshold first second ∧
        ¬ Separates totalScore.warningThreshold first second := by
  unfold Separates
  rw [not_not, not_not]
  constructor
  · intro explains'
    have pass := explains.pass.symm.trans explains'.pass
    refine ⟨pass, ?_⟩
    have fail := explains.fail.symm.trans explains'.fail
    rw [<- not_le, <- not_le, <- not_le, <- not_le] at fail
    constructor
    · intro reached
      by_contra missed
      exact (fail.mpr ⟨fun passes => missed (ordered.trans passes), missed⟩).2 reached
    · intro reached
      by_contra missed
      exact (fail.mp ⟨fun passes => missed (ordered.trans passes), missed⟩).2 reached
  · rintro ⟨pass, warning⟩
    have below : first < totalScore.passThreshold ↔ second < totalScore.passThreshold := by
      rw [<- not_le, <- not_le, pass]
    have under : first < totalScore.warningThreshold ↔ second < totalScore.warningThreshold := by
      rw [<- not_le, <- not_le, warning]
    constructor
    · rw [explains.pass, pass]
    · rw [explains.warning, below, warning]
    · rw [explains.fail, below, under]

section Stored

variable {slo : SLO} {metrics baselines : Dict (Option ℚ)} {ids : List Nat}
  {result : EvaluationResult}

section

variable (evaluated : evaluate slo metrics baselines ids = .ok result)

include evaluated

theorem counted_weigh : (weigh slo metrics baselines).counted = contributingWeight slo := by
  rw [<- maximumScore_scorings evaluated]
  exact (maximum_eq slo.objectives (objectiveStatus metrics baselines)).symm

theorem evaluate_explains (upper : slo.totalScore.passThreshold ≤ 100)
    (ordered : slo.totalScore.warningThreshold ≤ slo.totalScore.passThreshold)
    (noVeto : forall obj, obj ∈ slo.objectives -> obj.keySli = true ->
      objectiveStatus metrics baselines obj ≠ .fail ∧
      objectiveStatus metrics baselines obj ≠ .error) :
    Explains slo.totalScore (weigh slo metrics baselines).exact result.result := by
  have veto : vetoed (scorings slo metrics baselines) = false := by
    apply List.any_eq_false.mpr
    intro scoring member
    rcases List.mem_map.mp member with ⟨obj, inside, same⟩
    rw [<- same]
    cases key : obj.keySli with
    | true => simp [ObjectiveResult.ofStatus, noVeto obj inside key]
    | false => simp [ObjectiveResult.ofStatus, key]
  have earned : achievedScore (scorings slo metrics baselines) =
      (weigh slo metrics baselines).earned :=
    earned_eq slo.objectives (objectiveStatus metrics baselines)
  rw [(evaluate_total evaluated).1, calculateTotalScore_eq, maximumScore_scorings evaluated, veto,
    earned]
  unfold Weighing.exact
  rw [counted_weigh evaluated]
  by_cases nothing : contributingWeight slo = 0
  · rw [if_pos nothing, if_pos nothing]
    have warned := ordered.trans upper
    constructor <;> simp [upper, warned]
  · rw [if_neg nothing, if_neg nothing]
    exact outcomeOf_explains slo.totalScore _

end

end Stored

/-- The stored result is explained by the exact percentage.  The stored score is within
half a hundredth of it, and explains the result too unless a threshold lies between
the two. -/
theorem writeResults_explains {db next : Database} {snapshot : EvaluationSnapshot}
    {sloDef : SLODefinition} {slo : SLO} {metrics baselines : Dict (Option ℚ)} {ids : List Nat}
    {fetchResult : FetchAndEvaluateResult} {row : SLOEvaluation}
    (model : buildSloModel sloDef = .ok slo)
    (evaluated : evaluate slo metrics baselines ids = .ok fetchResult.evalResult)
    (written : writeResults db snapshot sloDef fetchResult = some next)
    (stored : next.evaluations.find snapshot.evalId = some row)
    (ordered : slo.totalScore.warningThreshold ≤ slo.totalScore.passThreshold)
    (upper : slo.totalScore.passThreshold ≤ 100)
    (noVeto : forall obj, obj ∈ slo.objectives -> obj.keySli = true ->
      objectiveStatus metrics baselines obj ≠ .fail ∧
        objectiveStatus metrics baselines obj ≠ .error) :
    Exists fun score => Exists fun outcome =>
      row.score = some score ∧ row.result = some (.ofOutcome outcome) ∧
        row.jobStats.totalScorePassThreshold = some slo.totalScore.passThreshold ∧
        row.jobStats.totalScoreWarningThreshold = some slo.totalScore.warningThreshold ∧
        |score - (weigh slo metrics baselines).exact| ≤ 1 / 200 ∧
        Explains slo.totalScore (weigh slo metrics baselines).exact outcome ∧
        (Explains slo.totalScore score outcome ↔
          ¬ Separates slo.totalScore.passThreshold (weigh slo metrics baselines).exact score ∧
            ¬ Separates slo.totalScore.warningThreshold (weigh slo metrics baselines).exact
              score) := by
  rcases writeResults_row written stored with ⟨before, indicatorRows, _, same⟩
  have thresholds : slo.totalScore =
      ⟨sloDef.totalScorePassThreshold, sloDef.totalScoreWarningThreshold⟩ :=
    (buildSlo_eq_ok model).2.2
  have explains := evaluate_explains evaluated upper ordered noVeto
  have near : |fetchResult.evalResult.score - (weigh slo metrics baselines).exact| ≤ 1 / 200 := by
    rw [evaluate_score evaluated]
    exact roundTwoPlaces_near _
  refine ⟨fetchResult.evalResult.score, fetchResult.evalResult.result, ?_, ?_, ?_, ?_, near,
    explains, explains.iff_not_separates ordered⟩
  · rw [same]
    cases indicatorRows <;> rfl
  · rw [same]
    cases indicatorRows <;> rfl
  · rw [same, thresholds]
    cases indicatorRows <;> rfl
  · rw [same, thresholds]
    cases indicatorRows <;> rfl

/-- Two metrics, of which the lighter one fails: the exact percentage is 89.996. -/
def Sample.narrow : SLODefinitionCreate :=
  { name := "catalog"
    objectives := [{ sli := "latency", passThreshold := ["<=100"], weight := 89996 },
      { sli := "requests", passThreshold := ["<=1"], weight := 10004 }] }

theorem counted_objectives_explained :
    Exists fun db => Exists fun evaluation => Exists fun row => Exists fun score =>
      Exists fun outcome =>
        createPending Sample.database (Sample.params 1) 20 = some db ∧
          db.evaluations.find 20 = some evaluation ∧
          Sample.scoredRow db evaluation Sample.sloDefinition Sample.throughput = some row ∧
          row.score = some score ∧ row.result = some (.ofOutcome outcome) ∧
          Explains { passThreshold := 90, warningThreshold := 75 } score outcome := by
  have ran : ((createPending Sample.database (Sample.params 1) 20).bind fun db =>
      (db.evaluations.find 20).bind fun evaluation =>
        Sample.scoredRow db evaluation Sample.sloDefinition Sample.throughput).isSome = true := by
    decide +kernel
  have facts : (buildSloModel Sample.sloDefinition).toOption.all (fun slo =>
      decide (slo.totalScore = { passThreshold := 90, warningThreshold := 75 } ∧
        (weigh slo Sample.throughput ∅).exact = 100 ∧
        forall obj, obj ∈ slo.objectives ->
          objectiveStatus Sample.throughput ∅ obj ≠ .fail ∧
            objectiveStatus Sample.throughput ∅ obj ≠ .error)) = true := by
    decide +kernel
  rcases Option.isSome_iff_exists.mp ran with ⟨row, ran⟩
  rcases Option.bind_eq_some_iff.mp ran with ⟨db, created, ran⟩
  rcases Option.bind_eq_some_iff.mp ran with ⟨evaluation, found, scored⟩
  rcases Sample.scoredRow_eq_some scored with ⟨slo, fetchResult, next, model, evaluated, written,
    stored⟩
  rw [model] at facts
  rcases of_decide_eq_true facts with ⟨thresholds, exact, passing⟩
  rcases writeResults_explains model evaluated written stored (by rw [thresholds]; norm_num)
    (by rw [thresholds]; norm_num) (fun obj member _ => passing obj member) with
    ⟨score, outcome, scoreIs, outcomeIs, -, -, near, -, explained⟩
  rw [exact, thresholds] at explained
  rw [exact, abs_le] at near
  refine ⟨db, evaluation, row, score, outcome, created, found, scored, scoreIs, outcomeIs,
    explained.mpr ?_⟩
  unfold Separates
  constructor <;> rw [not_not] <;> constructor <;> intro _ <;> linarith [near.1]

/-- The stored score reaches the stored pass threshold, and the stored result is a
warning. -/
theorem narrow_verdict_unexplained :
    Exists fun db => Exists fun sloDef => Exists fun pending => Exists fun evaluation =>
      Exists fun row =>
        createSloDefinition Sample.database Sample.narrow 2 = .ok db ∧
          db.sloDefinitions.find ("catalog", 1) = some sloDef ∧
          createPending db Sample.catalogParams 20 = some pending ∧
          pending.evaluations.find 20 = some evaluation ∧
          Sample.scoredRow pending evaluation sloDef Sample.throughput = some row ∧
          row.score = some 90 ∧ row.jobStats.totalScorePassThreshold = some 90 ∧
          row.jobStats.totalScoreWarningThreshold = some 75 ∧ row.result = some .warning := by
  have ran : ((createSloDefinition Sample.database Sample.narrow 2).toOption.bind fun db =>
      (db.sloDefinitions.find ("catalog", 1)).bind fun sloDef =>
        (createPending db Sample.catalogParams 20).bind fun pending =>
          (pending.evaluations.find 20).bind fun evaluation =>
            (Sample.scoredRow pending evaluation sloDef Sample.throughput).filter fun row =>
              decide (row.score = some 90 ∧ row.jobStats.totalScorePassThreshold = some 90 ∧
                row.jobStats.totalScoreWarningThreshold = some 75 ∧
                row.result = some .warning)).isSome = true := by
    decide +kernel
  rcases Option.isSome_iff_exists.mp ran with ⟨row, ran⟩
  rcases Option.bind_eq_some_iff.mp ran with ⟨db, accepted, ran⟩
  rcases Option.bind_eq_some_iff.mp ran with ⟨sloDef, defined, ran⟩
  rcases Option.bind_eq_some_iff.mp ran with ⟨pending, created, ran⟩
  rcases Option.bind_eq_some_iff.mp ran with ⟨evaluation, found, ran⟩
  rcases Option.filter_eq_some_iff.mp ran with ⟨scored, values⟩
  exact ⟨db, sloDef, pending, evaluation, row, toOption_eq_some.mp accepted, defined,
    created, found, scored, of_decide_eq_true values⟩

/-- A warned objective loses one half of its weight and a failed one all of it. -/
def Weighing.lostBy : Int × IndicatorStatus -> ℚ
  | (_, .pass) => 0
  | (_, .info) => 0
  | (weight, .warning) => 1 / 2 * weight
  | (weight, _) => weight

theorem lost_eq_sum (weighing : Weighing) :
    weighing.lost = (weighing.map Weighing.lostBy).sum := by
  unfold Weighing.lost Weighing.counted Weighing.earned
  induction weighing with
  | nil => simp
  | cons entry rest ih =>
      rcases entry with ⟨weight, status⟩
      rw [List.map_cons, List.map_cons, List.sum_cons, List.sum_cons, <- ih]
      cases status <;> simp [Weighing.earnedBy, Weighing.lostBy] <;> ring

def Weighing.Nonnegative (weighing : Weighing) : Prop :=
  forall entry, entry ∈ weighing -> entry.2 ≠ .info -> 0 ≤ entry.1

section Nonnegative

variable {weighing : Weighing}

section

variable (nonnegative : weighing.Nonnegative)

include nonnegative

theorem lostBy_nonneg {entry : Int × IndicatorStatus} (member : entry ∈ weighing) :
    0 ≤ Weighing.lostBy entry := by
  have weight := nonnegative entry member
  rcases entry with ⟨weight, status⟩
  cases status <;> simp [Weighing.lostBy] at weight ⊢ <;> assumption

theorem earnedBy_nonneg {entry : Int × IndicatorStatus} (member : entry ∈ weighing) :
    0 ≤ Weighing.earnedBy entry := by
  have weight := nonnegative entry member
  rcases entry with ⟨weight, status⟩
  cases status <;> simp [Weighing.earnedBy] at weight ⊢ <;> assumption

theorem lost_nonneg : 0 ≤ weighing.lost := by
  rw [lost_eq_sum]
  apply List.sum_nonneg
  intro loss member
  rcases List.mem_map.mp member with ⟨entry, inside, same⟩
  rw [<- same]
  exact lostBy_nonneg nonnegative inside

theorem earned_nonneg : 0 ≤ weighing.earned := by
  apply List.sum_nonneg
  intro gain member
  rcases List.mem_map.mp member with ⟨entry, inside, same⟩
  rw [<- same]
  exact earnedBy_nonneg nonnegative inside

theorem lostBy_le_lost {entry : Int × IndicatorStatus} (member : entry ∈ weighing) :
    Weighing.lostBy entry ≤ weighing.lost := by
  rw [lost_eq_sum]
  apply List.single_le_sum
  · intro loss member
    rcases List.mem_map.mp member with ⟨other, inside, same⟩
    rw [<- same]
    exact lostBy_nonneg nonnegative inside
  · exact List.mem_map_of_mem member

theorem counted_nonneg : (0 : ℚ) ≤ weighing.counted := by
  have split : (weighing.counted : ℚ) = weighing.lost + weighing.earned := by
    unfold Weighing.lost
    ring
  rw [split]
  exact add_nonneg (lost_nonneg nonnegative) (earned_nonneg nonnegative)

theorem percentage_bounds : 0 ≤ weighing.percentage ∧ weighing.percentage ≤ 100 := by
  have zero : roundTwoPlaces 0 = 0 := by decide +kernel
  have full : roundTwoPlaces 100 = 100 := (roundTwoPlaces_eq_full 100).mpr (by norm_num)
  have bounds : 0 ≤ weighing.exact ∧ weighing.exact ≤ 100 := by
    unfold Weighing.exact
    by_cases nothing : weighing.counted = 0
    · rw [if_pos nothing]
      norm_num
    · have some : (0 : ℚ) < weighing.counted :=
        lt_of_le_of_ne (counted_nonneg nonnegative) (by exact_mod_cast Ne.symm nothing)
      have earned := earned_nonneg nonnegative
      have lost := lost_nonneg nonnegative
      unfold Weighing.lost at lost
      rw [if_neg nothing, div_le_iff₀ some]
      exact ⟨by positivity, by linarith⟩
  rw [percentage_eq]
  have lower := roundTwoPlaces_mono bounds.1
  have upper := roundTwoPlaces_mono bounds.2
  rw [zero] at lower
  rw [full] at upper
  exact ⟨lower, upper⟩

/-- The percentage is full exactly when no more than one part in twenty thousand is
lost. -/
theorem percentage_full_iff :
    weighing.percentage = 100 ↔ 20000 * weighing.lost ≤ weighing.counted := by
  have lost := lost_nonneg nonnegative
  have counted := counted_nonneg nonnegative
  by_cases nothing : weighing.counted = 0
  · have earned := earned_nonneg nonnegative
    have full : weighing.percentage = 100 := by
      rw [percentage_eq, Weighing.exact, if_pos nothing]
      exact (roundTwoPlaces_eq_full 100).mpr (by norm_num)
    have none : weighing.lost = 0 := by
      apply le_antisymm _ lost
      unfold Weighing.lost
      rw [nothing, Int.cast_zero]
      linarith
    simp [full, none, nothing]
  · rw [percentage_full nothing, abs_of_nonneg lost, abs_of_nonneg counted]

end

end Nonnegative

/-- Up to their order and to informational objectives, the second results are those of
the same objectives with statuses that are no worse. -/
def Betters (before after : List ObjectiveResult) : Prop :=
  Exists fun middle => (before.filter (·.hasCriteria)).Perm middle ∧
    List.Forall₂ ObjectiveResult.Improves middle (after.filter (·.hasCriteria))

theorem calculateTotalScore_betters {before after : List ObjectiveResult}
    (betters : Betters before after)
    (scored : forall result, result ∈ before -> result.Scored)
    (scored' : forall result, result ∈ after -> result.Scored)
    (nonnegative : forall result, result ∈ before -> result.hasCriteria = true ->
      0 ≤ result.objective.weight) (totalScore : SLOTotalScore) :
    (calculateTotalScore before totalScore).NoWorse (calculateTotalScore after totalScore) := by
  rcases betters with ⟨middle, rearranged, improved⟩
  rw [<- calculateTotalScore_hasCriteria scored, <- calculateTotalScore_hasCriteria scored',
    calculateTotalScore_perm rearranged]
  apply calculateTotalScore_improved improved
  · intro result member
    exact scored result (List.mem_of_mem_filter (rearranged.symm.subset member))
  · intro result member
    exact scored' result (List.mem_of_mem_filter member)
  · intro result member
    rcases List.mem_filter.mp (rearranged.symm.subset member) with ⟨inside, criteria⟩
    exact nonnegative result inside criteria

/-- The total score and the result are no worse after any statuses improve, the same
after the objectives are rearranged, and the same whatever informational objectives
are there; and so are the score and the result of whole evaluations. -/
theorem totalScore_monotone_orderFree (totalScore : SLOTotalScore) :
    (forall before after : List ObjectiveResult,
      (forall result, result ∈ before -> result.Scored) ->
      (forall result, result ∈ after -> result.Scored) ->
      (forall result, result ∈ before -> 0 ≤ result.objective.weight) ->
      List.Forall₂ ObjectiveResult.Improves before after ->
      (calculateTotalScore before totalScore).NoWorse (calculateTotalScore after totalScore)) ∧
    (forall first second : List ObjectiveResult, first.Perm second ->
      calculateTotalScore first totalScore = calculateTotalScore second totalScore) ∧
    (forall first second : List ObjectiveResult,
      (forall result, result ∈ first -> result.Scored) ->
      (forall result, result ∈ second -> result.Scored) ->
      first.filter (·.hasCriteria) = second.filter (·.hasCriteria) ->
      calculateTotalScore first totalScore = calculateTotalScore second totalScore) ∧
    (forall (slo slo' : SLO) (metrics metrics' baselines baselines' : Dict (Option ℚ))
      (ids ids' : List Nat) (result result' : EvaluationResult),
      slo.totalScore = totalScore -> slo'.totalScore = totalScore ->
      (forall obj, obj ∈ slo.objectives -> 0 ≤ obj.weight) ->
      evaluate slo metrics baselines ids = .ok result ->
      evaluate slo' metrics' baselines' ids' = .ok result' ->
      Betters (scorings slo metrics baselines) (scorings slo' metrics' baselines') ->
      result.score ≤ result'.score ∧ result.result.rank ≤ result'.result.rank) := by
  refine ⟨?_, ?_, ?_, ?_⟩
  · intro before after scored scored' nonnegative improved
    exact calculateTotalScore_improved improved scored scored' nonnegative totalScore
  · intro first second rearranged
    exact calculateTotalScore_perm rearranged totalScore
  · intro first second scored scored' same
    rw [<- calculateTotalScore_hasCriteria scored, <- calculateTotalScore_hasCriteria scored', same]
  · intro slo slo' metrics metrics' baselines baselines' ids ids' result result' same same'
      nonnegative evaluated evaluated' betters
    have noWorse := calculateTotalScore_betters betters (scorings_scored evaluated)
      (scorings_scored evaluated') (by
        intro scoring member _
        rcases List.mem_map.mp member with ⟨obj, inside, equal⟩
        rw [<- equal]
        exact nonnegative obj inside) totalScore
    have first := evaluate_total evaluated
    have second := evaluate_total evaluated'
    rw [same] at first
    rw [same'] at second
    rw [first.1, first.2, second.1, second.2]
    exact ⟨roundTwoPlaces_mono noWorse.score, noWorse.result⟩

/-- A gate on the errors, an objective on the latency, and a metric that is only shown. -/
def Sample.service : SLO :=
  { objectives :=
      [{ sli := "errors", passThreshold := ["<1"], keySli := true },
        { sli := "latency", passThreshold := ["<=100"], weight := 2 }, { sli := "requests" }]
    nonempty := List.cons_ne_nil _ _, comparison := {}, totalScore := {} }

def Sample.reordered : SLO :=
  { objectives :=
      [{ sli := "latency", passThreshold := ["<=100"], weight := 2 },
        { sli := "errors", passThreshold := ["<1"], keySli := true }]
    nonempty := List.cons_ne_nil _ _, comparison := {}, totalScore := {} }

def Sample.measured (errors : ℚ) : Dict (Option ℚ) :=
  ((∅ : Dict (Option ℚ)).insert "errors" (some errors)).insert "latency" (some 40)

theorem fewer_errors_noWorse :
    Exists fun result => Exists fun result' =>
      evaluate Sample.service (Sample.measured 5) ∅ [] = .ok result ∧
        evaluate Sample.reordered (Sample.measured 0) ∅ [] = .ok result' ∧
        (calculateTotalScore (scorings Sample.service (Sample.measured 5) ∅) {}).NoWorse
          (calculateTotalScore (scorings Sample.service (Sample.measured 0) ∅) {}) ∧
        calculateTotalScore (scorings Sample.service (Sample.measured 5) ∅).reverse {} =
          calculateTotalScore (scorings Sample.service (Sample.measured 5) ∅) {} ∧
        calculateTotalScore (scorings Sample.reordered (Sample.measured 5) ∅).reverse {} =
          calculateTotalScore (scorings Sample.service (Sample.measured 5) ∅) {} ∧
        result.score ≤ result'.score ∧ result.result.rank ≤ result'.result.rank := by
  have ran : forall slo errors, slo = Sample.service ∨ slo = Sample.reordered ->
      errors = 0 ∨ errors = 5 ->
      Exists fun result => evaluate slo (Sample.measured errors) ∅ [] = .ok result := by
    rintro _ _ (rfl | rfl) (rfl | rfl) <;> exact (isOk_iff _).mp (by decide +kernel)
  rcases ran Sample.service 5 (Or.inl rfl) (Or.inr rfl) with ⟨result, evaluated⟩
  rcases ran Sample.service 0 (Or.inl rfl) (Or.inl rfl) with ⟨_, calm⟩
  rcases ran Sample.reordered 0 (Or.inr rfl) (Or.inl rfl) with ⟨result', evaluated'⟩
  rcases ran Sample.reordered 5 (Or.inr rfl) (Or.inr rfl) with ⟨_, stormy⟩
  rcases totalScore_monotone_orderFree {} with ⟨improved, rearranged, informational, whole⟩
  have reverse := scorings_scored stormy
  refine ⟨result, result', evaluated, evaluated', ?_, ?_, ?_, ?_⟩
  · refine improved _ _ (scorings_scored evaluated) (scorings_scored calm) (by decide +kernel) ?_
    exact .cons ⟨rfl, rfl, rfl, by decide +kernel⟩ (.cons ⟨rfl, rfl, rfl, by decide +kernel⟩
      (.cons ⟨rfl, rfl, rfl, by decide +kernel⟩ .nil))
  · exact rearranged _ _ (List.reverse_perm _)
  · refine informational _ _ (fun entry member => reverse entry (List.mem_reverse.mp member))
      (scorings_scored evaluated) (by decide +kernel)
  · refine whole _ _ _ _ _ _ _ _ _ _ rfl rfl (by decide +kernel) evaluated evaluated' ?_
    refine ⟨_, (List.reverse_perm _).symm, ?_⟩
    exact .cons ⟨rfl, rfl, rfl, by decide +kernel⟩ (.cons ⟨rfl, rfl, rfl, by decide +kernel⟩ .nil)

end Worker
end Tropek
