import Mathlib.Tactic.Linarith
import Mathlib.Tactic.Ring
import Mathlib.Tactic.FieldSimp
import Tropek.Engine.Totals
import Tropek.Worker.JobOutcome

namespace Tropek
namespace Worker

open Library Engine Store Registry Fallible

/-!
# Points beside the score

Phase 3a stores two points columns beside the score of an evaluation and computes
them on its own: the achieved points round the score of every objective, and the
total points add up the weights of all objectives.  The score divides by the
weight of the objectives that contribute.  The two agree as long as no
informational objective carries weight and the halves of the warned weights round
to their sum.
-/

theorem roundHalfEven_of_floor {value : ℚ} {below : Int} (lower : (below : ℚ) ≤ value)
    (upper : value < below + 1) :
    roundHalfEven value =
      if value - below < 1 / 2 then below
      else if 1 / 2 < value - below then below + 1
      else if below % 2 = 0 then below
      else below + 1 := by
  have same : value.floor = below := Int.floor_eq_iff.mpr ⟨lower, upper⟩
  unfold roundHalfEven
  rw [same]

theorem roundHalfEven_intCast (value : Int) : roundHalfEven value = value := by
  have lower : (value : ℚ) ≤ (value : ℚ) := le_refl _
  rw [roundHalfEven_of_floor lower (by linarith), sub_self]
  exact if_pos (by norm_num)

theorem roundHalfEven_eq_even {value : ℚ} {target : Int} (even : target % 2 = 0) :
    roundHalfEven value = target ↔ |value - target| ≤ 1 / 2 := by
  have lower := Int.floor_le value
  have upper := Int.lt_floor_add_one value
  rw [roundHalfEven_of_floor lower upper, abs_le]
  generalize ⌊value⌋ = below at lower upper
  rcases lt_trichotomy (value - below) (1 / 2) with small | half | large
  · rw [if_pos small]
    constructor
    · intro same
      rw [<- same]
      constructor <;> linarith
    · rintro ⟨above, under⟩
      have first : (target : ℚ) < below + 1 := by linarith
      have second : (below : ℚ) < target + 1 := by linarith
      have first' : target < below + 1 := by exact_mod_cast first
      have second' : below < target + 1 := by exact_mod_cast second
      omega
  · rw [if_neg (by linarith), if_neg (by linarith)]
    constructor
    · intro same
      by_cases evenBelow : below % 2 = 0
      · rw [if_pos evenBelow] at same
        rw [<- same]
        constructor <;> linarith
      · rw [if_neg evenBelow] at same
        rw [<- same]
        push_cast
        constructor <;> linarith
    · rintro ⟨above, under⟩
      have first : (target : ℚ) ≤ below + 1 := by linarith
      have second : (below : ℚ) ≤ target := by linarith
      have first' : target ≤ below + 1 := by exact_mod_cast first
      have second' : below ≤ target := by exact_mod_cast second
      by_cases evenBelow : below % 2 = 0
      · rw [if_pos evenBelow]
        omega
      · rw [if_neg evenBelow]
        omega
  · rw [if_neg (by linarith), if_pos large]
    constructor
    · intro same
      rw [<- same]
      push_cast
      constructor <;> linarith
    · rintro ⟨above, under⟩
      have first : (target : ℚ) < below + 2 := by linarith
      have second : (below : ℚ) < target := by linarith
      have first' : target < below + 2 := by exact_mod_cast first
      have second' : below < target := by exact_mod_cast second
      omega

def halfRounding (weight : Int) : ℚ :=
  if weight % 4 = 1 then -1 / 2 else if weight % 4 = 3 then 1 / 2 else 0

theorem roundHalfEven_half (weight : Int) :
    (roundHalfEven (1 / 2 * weight) : ℚ) = 1 / 2 * weight + halfRounding weight := by
  rcases Int.even_or_odd' weight with ⟨half, even | odd⟩
  · have same : (1 / 2 * weight : ℚ) = (half : Int) := by
      rw [even]
      push_cast
      ring
    have untouched : halfRounding weight = 0 := by
      unfold halfRounding
      rw [if_neg (by omega), if_neg (by omega)]
    rw [untouched, same, roundHalfEven_intCast, add_zero]
  · have same : (1 / 2 * weight : ℚ) - half = 1 / 2 := by
      rw [odd]
      push_cast
      ring
    have lower : (half : ℚ) ≤ 1 / 2 * weight := by linarith
    rw [roundHalfEven_of_floor lower (by linarith), same,
      if_neg (lt_irrefl _), if_neg (lt_irrefl _)]
    unfold halfRounding
    by_cases evenHalf : half % 2 = 0
    · rw [if_pos evenHalf, if_pos (by omega)]
      linarith
    · rw [if_neg evenHalf, if_neg (by omega), if_pos (by omega)]
      push_cast
      linarith

/-- How an objective comes out on the metric value and the baseline of its
metric. -/
def objectiveStatus (metrics baselines : Dict (Option ℚ)) (obj : SLOObjective) : IndicatorStatus :=
  match scoreObjective obj (getValue metrics obj.sli) (getValue baselines obj.sli) with
  | .ok result => result.status
  | .error _ => .error

abbrev Weighing := List (Int × IndicatorStatus)

def weigh (slo : SLO) (metrics baselines : Dict (Option ℚ)) : Weighing :=
  slo.objectives.map fun obj => (obj.weight, objectiveStatus metrics baselines obj)

namespace Weighing

def counted (weighing : Weighing) : Int :=
  ((weighing.filter fun entry => entry.2 ≠ .info).map Prod.fst).sum

def informational (weighing : Weighing) : Int :=
  ((weighing.filter fun entry => entry.2 = .info).map Prod.fst).sum

def earnedBy : Int × IndicatorStatus -> ℚ
  | (weight, .pass) => weight
  | (weight, .warning) => 1 / 2 * weight
  | _ => 0

def earned (weighing : Weighing) : ℚ :=
  (weighing.map earnedBy).sum

def rounding (weighing : Weighing) : ℚ :=
  ((weighing.filter fun entry => entry.2 = .warning).map fun entry => halfRounding entry.1).sum

def lost (weighing : Weighing) : ℚ :=
  weighing.counted - weighing.earned

/-- The earned part of the counted weight in percent, to two decimals.  Where no
weight counts the percentage is full. -/
def percentage (weighing : Weighing) : ℚ :=
  roundTwoPlaces (if weighing.counted = 0 then 100 else 100 * weighing.earned / weighing.counted)

/-- The percentage is the same with the informational weight and the rounding as
without them, and full with them exactly when it is full without. -/
def Unmoved (weighing : Weighing) : Prop :=
  (0 < weighing.counted + weighing.informational ->
    roundTwoPlaces (100 * (weighing.earned + weighing.rounding) /
      (weighing.counted + weighing.informational)) = weighing.percentage) ∧
  (weighing.earned + weighing.rounding = weighing.counted + weighing.informational ↔
    weighing.percentage = 100)

def Balanced (weighing : Weighing) : Prop :=
  weighing.informational = 0 ∧ weighing.rounding = 0

def LossShows (weighing : Weighing) : Prop :=
  weighing.lost = 0 ∨ (weighing.counted ≠ 0 ∧ |(weighing.counted : ℚ)| < 20000 * |weighing.lost|)

/-- What the informational weight and the rounding add moves the earned part of the
weight by one hundredth of a percent at most. -/
def Close (weighing : Weighing) : Prop :=
  weighing.counted ≠ 0 -> 0 < weighing.counted + weighing.informational ->
    10000 * |weighing.rounding * weighing.counted - weighing.earned * weighing.informational| ≤
      |(weighing.counted : ℚ)| * (weighing.counted + weighing.informational)

end Weighing

variable {baselines metrics : Dict (Option ℚ)} {result : EvaluationResult} {slo : SLO}
  {sloDef : SLODefinition} {db : Database} {fetchResult : FetchAndEvaluateResult}
  {row : SLOEvaluation} {snapshot : EvaluationSnapshot}

theorem objectiveStatus_of_scored {obj : SLOObjective} {pair : ObjectiveResult × IndicatorResult}
    (scored : evaluateObjective metrics baselines obj = .ok pair) :
    pair.1 = .ofStatus obj (objectiveStatus metrics baselines obj) ∧ pair.2.score = pair.1.score := by
  rcases bind_eq_ok.mp scored with ⟨objResult, outcome, scored⟩
  rcases bind_eq_ok.mp scored with ⟨passTargets, _, scored⟩
  rcases bind_eq_ok.mp scored with ⟨warningTargets, _, same⟩
  cases same
  refine ⟨?_, rfl⟩
  unfold objectiveStatus
  rw [outcome]
  exact scoreObjective_eq_ofStatus outcome

theorem earnedBy_eq (obj : SLOObjective) (status : IndicatorStatus) :
    Weighing.earnedBy (obj.weight, status) = (ObjectiveResult.ofStatus obj status).score := by
  cases status <;> rfl

theorem roundHalfEven_earnedBy (weight : Int) (status : IndicatorStatus) :
    (roundHalfEven (Weighing.earnedBy (weight, status)) : ℚ) =
      Weighing.earnedBy (weight, status) + Weighing.rounding [(weight, status)] := by
  have zero : roundHalfEven 0 = 0 := roundHalfEven_intCast 0
  cases status with
  | pass => simp [Weighing.earnedBy, Weighing.rounding, roundHalfEven_intCast]
  | warning => simpa [Weighing.earnedBy, Weighing.rounding] using roundHalfEven_half weight
  | fail => simp [Weighing.earnedBy, Weighing.rounding, zero]
  | info => simp [Weighing.earnedBy, Weighing.rounding, zero]
  | error => simp [Weighing.earnedBy, Weighing.rounding, zero]

theorem rounding_cons (entry : Int × IndicatorStatus) (rest : Weighing) :
    Weighing.rounding (entry :: rest) = Weighing.rounding [entry] + Weighing.rounding rest := by
  unfold Weighing.rounding
  by_cases warned : entry.2 = .warning
  · simp [warned]
  · simp [warned]

theorem counted_add_informational (weighing : Weighing) :
    weighing.counted + weighing.informational = (weighing.map Prod.fst).sum := by
  unfold Weighing.counted Weighing.informational
  induction weighing with
  | nil => rfl
  | cons entry rest ih =>
      rw [List.map_cons, List.sum_cons, <- ih]
      by_cases informational : entry.2 = .info
      · simp [informational]
        ring
      · simp [informational]
        ring

section Sums

variable {metrics baselines : Dict (Option ℚ)} {objectives : List SLOObjective}
  {scored : List (ObjectiveResult × IndicatorResult)}

section

variable
  (related : List.Forall₂ (fun obj pair => evaluateObjective metrics baselines obj = .ok pair)
    objectives scored)

include related

theorem scored_eq_ofStatus :
    scored.map Prod.fst = objectives.map fun obj =>
      ObjectiveResult.ofStatus obj (objectiveStatus metrics baselines obj) := by
  induction related with
  | nil => rfl
  | cons first others ih =>
      rw [List.map_cons, List.map_cons, ih, (objectiveStatus_of_scored first).1]

theorem achieved_eq :
    ((((scored.map Prod.snd).map (roundHalfEven ·.score)).sum : Int) : ℚ) =
      Weighing.earned (objectives.map fun obj => (obj.weight, objectiveStatus metrics baselines obj)) +
        Weighing.rounding
          (objectives.map fun obj => (obj.weight, objectiveStatus metrics baselines obj)) := by
  induction related with
  | nil => simp [Weighing.earned, Weighing.rounding]
  | @cons obj pair objectives scored first others ih =>
      rcases objectiveStatus_of_scored first with ⟨status, sameScore⟩
      have head := roundHalfEven_earnedBy obj.weight (objectiveStatus metrics baselines obj)
      have tail := rounding_cons (obj.weight, objectiveStatus metrics baselines obj)
        (objectives.map fun obj => (obj.weight, objectiveStatus metrics baselines obj))
      simp only [List.map_cons, List.sum_cons, Int.cast_add, ih, sameScore, status,
        <- earnedBy_eq, head, tail]
      simp only [Weighing.earned, List.map_cons, List.sum_cons]
      ring

end

end Sums

theorem maximum_eq (objectives : List SLOObjective) (status : SLOObjective -> IndicatorStatus) :
    (((objectives.map fun obj => ObjectiveResult.ofStatus obj (status obj)).filter
      (·.contributesToScore)).map (·.objective.weight)).sum =
      Weighing.counted (objectives.map fun obj => (obj.weight, status obj)) := by
  unfold Weighing.counted
  induction objectives with
  | nil => rfl
  | cons obj rest ih =>
      by_cases informational : status obj = .info
      · simpa [informational, ObjectiveResult.ofStatus] using ih
      · simpa [informational, ObjectiveResult.ofStatus] using ih

theorem earned_eq (objectives : List SLOObjective) (status : SLOObjective -> IndicatorStatus) :
    ((objectives.map fun obj => ObjectiveResult.ofStatus obj (status obj)).map (·.score)).sum =
      Weighing.earned (objectives.map fun obj => (obj.weight, status obj)) := by
  unfold Weighing.earned
  rw [List.map_map, List.map_map]
  refine congrArg List.sum (List.map_congr_left fun obj _ => ?_)
  exact (earnedBy_eq obj (status obj)).symm

variable {ids : List Nat} {weighing : Weighing} {next : Database}

theorem evaluate_score (evaluated : evaluate slo metrics baselines ids = .ok result) :
    result.score = (weigh slo metrics baselines).percentage := by
  rcases evaluate_eq_ok evaluated with ⟨scored, related, -, score, -, -⟩
  rw [score, scored_eq_ofStatus related]
  unfold Weighing.percentage calculateTotalScore weigh
  rw [maximum_eq, earned_eq]
  by_cases none : Weighing.counted
      (slo.objectives.map fun obj => (obj.weight, objectiveStatus metrics baselines obj)) = 0
  · rw [if_pos none, if_pos none]
  · rw [if_neg none, if_neg none]
    dsimp only
    congr 1
    split
    · rfl
    · split
      · rfl
      · split <;> rfl

theorem evaluate_achieved (evaluated : evaluate slo metrics baselines ids = .ok result) :
    (((result.indicatorResults.map (roundHalfEven ·.score)).sum : Int) : ℚ) =
      (weigh slo metrics baselines).earned + (weigh slo metrics baselines).rounding := by
  rcases evaluate_eq_ok evaluated with ⟨scored, related, -, -, indicators, -⟩
  rw [indicators]
  exact achieved_eq related

theorem weigh_total (model : buildSloModel sloDef = .ok slo) (metrics baselines : Dict (Option ℚ)) :
    (sloDef.objectives.rows.map (·.weight)).sum =
      (weigh slo metrics baselines).counted + (weigh slo metrics baselines).informational := by
  rw [counted_add_informational]
  unfold weigh
  rw [(buildSlo_eq_ok model).1, List.map_map, List.map_map]
  rfl

theorem roundTwoPlaces_eq_full (value : ℚ) :
    roundTwoPlaces value = 100 ↔ |value - 100| ≤ 1 / 200 := by
  have scaled : roundTwoPlaces value = 100 ↔ roundHalfEven (value * 100) = 10000 := by
    unfold roundTwoPlaces
    rw [div_eq_iff (by norm_num)]
    norm_num
    norm_cast
  rw [scaled, roundHalfEven_eq_even (by norm_num), abs_le, abs_le]
  push_cast
  constructor
  · rintro ⟨lower, upper⟩
    constructor <;> linarith
  · rintro ⟨lower, upper⟩
    constructor <;> linarith

theorem percentage_full (some : weighing.counted ≠ 0) :
    weighing.percentage = 100 ↔ 20000 * |weighing.lost| ≤ |(weighing.counted : ℚ)| := by
  have nonzero : (weighing.counted : ℚ) ≠ 0 := by exact_mod_cast some
  have positive : 0 < |(weighing.counted : ℚ)| := abs_pos.mpr nonzero
  have shortfall : 100 * weighing.earned / weighing.counted - 100 =
      -(100 * weighing.lost / weighing.counted) := by
    unfold Weighing.lost
    field_simp
    ring
  unfold Weighing.percentage
  rw [if_neg some, roundTwoPlaces_eq_full, shortfall, abs_neg, abs_div, abs_mul, div_le_iff₀ positive]
  rw [show |(100 : ℚ)| = 100 by norm_num]
  constructor <;> intro bound <;> linarith

/-- Without informational weight and without rounding the two agree exactly when
a loss shows. -/
theorem unmoved_of_balanced (balanced : weighing.Balanced) :
    weighing.Unmoved ↔ weighing.LossShows := by
  rcases balanced with ⟨informational, rounding⟩
  have nothing : weighing.earned = weighing.counted ↔ weighing.lost = 0 := by
    unfold Weighing.lost
    rw [sub_eq_zero, eq_comm]
  unfold Weighing.Unmoved Weighing.LossShows
  rw [informational, rounding, add_zero, add_zero, Int.cast_zero, add_zero, nothing]
  by_cases none : weighing.counted = 0
  · have full : weighing.percentage = 100 := by
      unfold Weighing.percentage
      rw [if_pos none, roundTwoPlaces_eq_full]
      norm_num
    constructor
    · rintro ⟨_, same⟩
      exact Or.inl (same.mpr full)
    · rintro (zero | ⟨some, _⟩)
      · exact ⟨fun positive => absurd none positive.ne', fun _ => full, fun _ => zero⟩
      · exact absurd none some
  · have same : 0 < weighing.counted ->
        roundTwoPlaces (100 * weighing.earned / weighing.counted) = weighing.percentage := by
      intro _
      unfold Weighing.percentage
      rw [if_neg none]
    rw [percentage_full none]
    constructor
    · rintro ⟨_, visible⟩
      by_cases zero : weighing.lost = 0
      · exact Or.inl zero
      · exact Or.inr ⟨none, not_le.mp fun hidden => zero (visible.mpr hidden)⟩
    · rintro (zero | ⟨_, visible⟩)
      · refine ⟨same, fun _ => ?_, fun _ => zero⟩
        rw [zero, abs_zero, mul_zero]
        exact abs_nonneg _
      · refine ⟨same, fun zero => ?_, fun hidden => absurd hidden (not_le.mpr visible)⟩
        rw [zero, abs_zero, mul_zero]
        exact abs_nonneg _

theorem close_of_unmoved (unmoved : weighing.Unmoved) : weighing.Close := by
  intro some positive
  have nonzero : (weighing.counted : ℚ) ≠ 0 := by exact_mod_cast some
  have positive' : (0 : ℚ) < weighing.counted + weighing.informational := by exact_mod_cast positive
  have same := unmoved.1 positive
  unfold Weighing.percentage at same
  rw [if_neg some] at same
  have first := abs_le.mp (roundTwoPlaces_near (100 * (weighing.earned + weighing.rounding) /
    (weighing.counted + weighing.informational)))
  have second := abs_le.mp (roundTwoPlaces_near (100 * weighing.earned / weighing.counted))
  have near : |100 * (weighing.earned + weighing.rounding) /
      (weighing.counted + weighing.informational) - 100 * weighing.earned / weighing.counted| ≤
      1 / 100 := by
    rw [abs_le]
    constructor <;> linarith
  have moved : 100 * (weighing.earned + weighing.rounding) /
      (weighing.counted + weighing.informational) - 100 * weighing.earned / weighing.counted =
      100 * (weighing.rounding * weighing.counted - weighing.earned * weighing.informational) /
        (weighing.counted * (weighing.counted + weighing.informational)) := by
    field_simp
    ring
  have scale : 0 < |(weighing.counted : ℚ)| * (weighing.counted + weighing.informational) :=
    mul_pos (abs_pos.mpr nonzero) positive'
  rw [moved, abs_div, abs_mul, abs_mul, abs_of_pos positive', div_le_iff₀ scale,
    show |(100 : ℚ)| = 100 by norm_num] at near
  linarith

/-- The stored points, in percent, are the stored score, and they are complete
exactly when the score is full. -/
def PointsAgree (row : SLOEvaluation) : Prop :=
  Exists fun score => Exists fun achieved => Exists fun total =>
    row.score = some score ∧ row.achievedPoints = some achieved ∧ row.totalPoints = some total ∧
      (0 < total -> roundTwoPlaces (100 * achieved / total) = score) ∧
      (achieved = total ↔ score = 100)

section

variable (written : writeResults db snapshot sloDef fetchResult = some next)
  (stored : next.evaluations.find snapshot.evalId = some row)

include written stored

theorem writeResults_row :
    Exists fun before => Exists fun indicatorRows =>
      db.evaluations.find snapshot.evalId = some before ∧
        row = (RowChange.completed (completedValues snapshot sloDef fetchResult)
          indicatorRows).apply before := by
  rw [writeResults_eq] at written
  rcases Option.map_eq_some_iff.mp written with ⟨write, completed, same⟩
  rw [<- same] at stored
  change (applyWrite (some write) db.evaluations).find snapshot.evalId = some row at stored
  rw [find_applyWrite] at stored
  rcases Option.map_eq_some_iff.mp stored with ⟨before, found, after⟩
  have target : write.evalId = snapshot.evalId ∧ Exists fun indicatorRows =>
      write.change = .completed (completedValues snapshot sloDef fetchResult) indicatorRows := by
    unfold completedWrite at completed
    dsimp only at completed
    split at completed
    · cases completed
      exact ⟨rfl, _, rfl⟩
    · rw [found] at completed
      rcases Option.map_eq_some_iff.mp completed with ⟨indicatorRows, _, same⟩
      cases same
      exact ⟨rfl, _, rfl⟩
  rcases target with ⟨targeted, indicatorRows, change⟩
  refine ⟨before, indicatorRows, found, ?_⟩
  rw [<- after]
  unfold rowAfter
  dsimp only
  rw [targeted, if_pos (KeyedTable.find_key found), change]

theorem writeResults_stores :
    row.score = some fetchResult.evalResult.score ∧
      row.achievedPoints =
        some (fetchResult.evalResult.indicatorResults.map (roundHalfEven ·.score)).sum ∧
      row.totalPoints = some (sloDef.objectives.rows.map (·.weight)).sum := by
  rcases writeResults_row written stored with ⟨before, indicatorRows, _, same⟩
  rw [same]
  cases indicatorRows <;> exact ⟨rfl, rfl, rfl⟩

end

theorem pointsAgree_iff_unmoved (model : buildSloModel sloDef = .ok slo)
    (evaluated : evaluate slo metrics baselines ids = .ok fetchResult.evalResult)
    (written : writeResults db snapshot sloDef fetchResult = some next)
    (stored : next.evaluations.find snapshot.evalId = some row) :
    PointsAgree row ↔ (weigh slo metrics baselines).Unmoved := by
  rcases writeResults_stores written stored with ⟨score, achieved, total⟩
  have achievedIs := evaluate_achieved evaluated
  have totalIs := weigh_total model metrics baselines
  have totalIs' : (((sloDef.objectives.rows.map (·.weight)).sum : Int) : ℚ) =
      (weigh slo metrics baselines).counted + (weigh slo metrics baselines).informational := by
    exact_mod_cast totalIs
  rw [evaluate_score evaluated] at score
  unfold Weighing.Unmoved
  rw [<- achievedIs, <- totalIs', <- totalIs, Int.cast_inj]
  constructor
  · rintro ⟨_, _, _, sameScore, sameAchieved, sameTotal, agree⟩
    cases Option.some.inj (score.symm.trans sameScore)
    cases Option.some.inj (achieved.symm.trans sameAchieved)
    cases Option.some.inj (total.symm.trans sameTotal)
    exact agree
  · intro agree
    exact ⟨_, _, _, score, achieved, total, agree⟩

/-- Without informational weight and with halves that round to their sum, points and
score of a stored evaluation agree exactly when nothing is lost or the loss shows in
two decimals.  They never agree where the informational weight and the rounding move
the earned part of the weight by more than one hundredth of a percent. -/
theorem writeResults_points {db next : Database} {snapshot : EvaluationSnapshot}
    {sloDef : SLODefinition} {slo : SLO} {metrics baselines : Dict (Option ℚ)} {ids : List Nat}
    {fetchResult : FetchAndEvaluateResult} {row : SLOEvaluation}
    (model : buildSloModel sloDef = .ok slo)
    (evaluated : evaluate slo metrics baselines ids = .ok fetchResult.evalResult)
    (written : writeResults db snapshot sloDef fetchResult = some next)
    (stored : next.evaluations.find snapshot.evalId = some row) :
    ((weigh slo metrics baselines).Balanced ->
      (PointsAgree row ↔ (weigh slo metrics baselines).LossShows)) ∧
    (PointsAgree row -> (weigh slo metrics baselines).Close) := by
  have agree := pointsAgree_iff_unmoved model evaluated written stored
  constructor
  · intro balanced
    exact agree.trans (unmoved_of_balanced balanced)
  · intro both
    exact close_of_unmoved (agree.mp both)

/-- The row that phase 3a leaves for an evaluation of one version, scored without
baselines. -/
def Sample.scoredRow (db : Database) (evaluation : SLOEvaluation) (sloDef : SLODefinition)
    (metrics : Dict (Option ℚ)) : Option SLOEvaluation := do
  let slo <- (buildSloModel sloDef).toOption
  let evalResult <- (evaluate slo metrics ∅ []).toOption
  let next <- writeResults db (snapshotOf db evaluation) sloDef
    { evalResult, metricsFetched := metrics, fetchErrors := ∅, baselines := ∅, comparedEvalIds := [] }
  next.evaluations.find evaluation.id

theorem Sample.scoredRow_eq_some {evaluation : SLOEvaluation}
    (scored : Sample.scoredRow db evaluation sloDef metrics = some row) :
    Exists fun slo => Exists fun fetchResult : FetchAndEvaluateResult => Exists fun next =>
      buildSloModel sloDef = .ok slo ∧ evaluate slo metrics ∅ [] = .ok fetchResult.evalResult ∧
        writeResults db (snapshotOf db evaluation) sloDef fetchResult = some next ∧
        next.evaluations.find (snapshotOf db evaluation).evalId = some row := by
  rcases Option.bind_eq_some_iff.mp scored with ⟨slo, model, scored⟩
  rcases Option.bind_eq_some_iff.mp scored with ⟨evalResult, evaluated, scored⟩
  rcases Option.bind_eq_some_iff.mp scored with ⟨next, written, stored⟩
  exact ⟨slo, _, next, toOption_eq_some.mp model, toOption_eq_some.mp evaluated,
    written, stored⟩

def Sample.throughput : Dict (Option ℚ) :=
  ((∅ : Dict (Option ℚ)).insert "latency" (some 40)).insert "requests" (some 7)

def Sample.catalog : SLODefinitionCreate :=
  { name := "catalog"
    objectives := [{ sli := "latency", passThreshold := ["<=100"] }, { sli := "requests" }] }

def Sample.catalogParams : EvalCreateParams :=
  { evaluationId := 2, evaluationName := "hourly", periodStart := 0, periodEnd := 3600000000,
    assetId := 1, sloName := "catalog", sloVersion := some 1 }

theorem counted_objectives_agree :
    Exists fun db => Exists fun evaluation => Exists fun row =>
      createPending Sample.database (Sample.params 1) 20 = some db ∧
        db.evaluations.find 20 = some evaluation ∧
        Sample.scoredRow db evaluation Sample.sloDefinition Sample.throughput = some row ∧
        PointsAgree row := by
  have ran : ((createPending Sample.database (Sample.params 1) 20).bind fun db =>
      (db.evaluations.find 20).bind fun evaluation =>
        Sample.scoredRow db evaluation Sample.sloDefinition Sample.throughput).isSome = true := by
    decide +kernel
  have balanced : (buildSloModel Sample.sloDefinition).toOption.all (fun slo =>
      decide ((weigh slo Sample.throughput ∅).informational = 0 ∧
        (weigh slo Sample.throughput ∅).rounding = 0 ∧
        (weigh slo Sample.throughput ∅).lost = 0)) = true := by
    decide +kernel
  rcases Option.isSome_iff_exists.mp ran with ⟨row, ran⟩
  rcases Option.bind_eq_some_iff.mp ran with ⟨db, created, ran⟩
  rcases Option.bind_eq_some_iff.mp ran with ⟨evaluation, found, scored⟩
  rcases Sample.scoredRow_eq_some scored with ⟨slo, fetchResult, next, model, evaluated, written,
    stored⟩
  refine ⟨db, evaluation, row, created, found, scored, ?_⟩
  rw [model] at balanced
  have facts := of_decide_eq_true balanced
  exact ((writeResults_points model evaluated written stored).1 ⟨facts.1, facts.2.1⟩).mpr
    (Or.inl facts.2.2)

/-- The registry accepts an SLO with an informational objective.  Its evaluation
has the full score and one of two points. -/
theorem informational_objective_disagrees :
    Exists fun db => Exists fun sloDef => Exists fun pending => Exists fun evaluation =>
      Exists fun row =>
        createSloDefinition Sample.database Sample.catalog 2 = .ok db ∧
          db.sloDefinitions.find ("catalog", 1) = some sloDef ∧
          createPending db Sample.catalogParams 20 = some pending ∧
          pending.evaluations.find 20 = some evaluation ∧
          Sample.scoredRow pending evaluation sloDef Sample.throughput = some row ∧
          ¬ PointsAgree row := by
  have ran : ((createSloDefinition Sample.database Sample.catalog 2).toOption.bind fun db =>
      (db.sloDefinitions.find ("catalog", 1)).bind fun sloDef =>
        (createPending db Sample.catalogParams 20).bind fun pending =>
          (pending.evaluations.find 20).bind fun evaluation =>
            (Sample.scoredRow pending evaluation sloDef Sample.throughput).map fun row =>
              (row.score, row.achievedPoints, row.totalPoints)) =
      some (some 100, some 1, some 2) := by
    decide +kernel
  rcases Option.bind_eq_some_iff.mp ran with ⟨db, accepted, ran⟩
  rcases Option.bind_eq_some_iff.mp ran with ⟨sloDef, defined, ran⟩
  rcases Option.bind_eq_some_iff.mp ran with ⟨pending, created, ran⟩
  rcases Option.bind_eq_some_iff.mp ran with ⟨evaluation, found, ran⟩
  rcases Option.map_eq_some_iff.mp ran with ⟨row, scored, values⟩
  refine ⟨db, sloDef, pending, evaluation, row, toOption_eq_some.mp accepted, defined,
    created, found, scored, ?_⟩
  rintro ⟨score, achieved, total, scoreIs, achievedIs, totalIs, _, complete⟩
  have score' : row.score = some 100 := congrArg Prod.fst values
  have achieved' : row.achievedPoints = some 1 := congrArg (fun value => value.2.1) values
  have total' : row.totalPoints = some 2 := congrArg (fun value => value.2.2) values
  cases Option.some.inj (score'.symm.trans scoreIs)
  cases Option.some.inj (achieved'.symm.trans achievedIs)
  cases Option.some.inj (total'.symm.trans totalIs)
  exact absurd (complete.mpr rfl) (by decide)

end Worker
end Tropek
