import Tropek.ChangePoints.Persistence

namespace Tropek
namespace ChangePoints

open Library Engine Store Worker KeyedTable

/-!
# Recording the same detections again

Every evaluation of a series detects its change points again, so the write phase meets
the same candidates many times.  A candidate that was found or recorded by one run is
found by the next one.  A candidate that continued the regime of the most recent change
point is not: the run may record a newer change point afterwards, and the next run
compares the candidate with that one.

The candidates that no stored change point is close to are thinned by the regime rule,
from the most recent stored change point on.  A run records the ones that are kept.
-/

def PersistContext.isFree (context : PersistContext) (stored : List ChangePoint)
    (candidate : ChangePointResult) : Bool :=
  stored.all fun changePoint => !(context.around candidate).contains changePoint.periodStart

/-- The candidates that depart from the regime of the change point before them, where
that is at first the most recent stored one. -/
def PersistContext.departing (context : PersistContext) (t : Tables)
    (detected : List ChangePointResult) : List ChangePointResult :=
  Thinning.kept ChangePoint.periodStart context.row ChangePoint.continuedBy
    (getLatestChangePoint t context.lookup)
    (detected.filter (context.isFree (t.visible context.lookup)))

/-- The most recent of the stored change points and the departing candidates. -/
def PersistContext.lastRegime (context : PersistContext) (t : Tables)
    (detected : List ChangePointResult) : Option ChangePoint :=
  Thinning.final ChangePoint.periodStart context.row ChangePoint.continuedBy
    (getLatestChangePoint t context.lookup)
    (detected.filter (context.isFree (t.visible context.lookup)))

theorem PersistContext.isFree_iff {context : PersistContext} {stored : List ChangePoint}
    {candidate : ChangePointResult} :
    context.isFree stored candidate = true ↔
      forall changePoint, changePoint ∈ stored ->
        changePoint.periodStart ∉ context.around candidate := by
  unfold PersistContext.isFree
  simp only [List.all_eq_true, Bool.not_eq_true', List.contains_eq_mem, decide_eq_false_iff_not]

section Run

variable {context : PersistContext} {t next : Tables} {batchTimestamps : List Instant}
  {detected : List ChangePointResult}

section

variable (recordedIn : t.indicatorSeries context.indicatorResultId = some context.comparisonName)

include recordedIn

theorem PersistContext.matches_row (candidate : ChangePointResult) :
    t.matches context.lookup (context.row candidate) = true :=
  (Tables.matches_iff rfl).mpr ⟨rfl, rfl, rfl, recordedIn⟩

/-- Between two insertions a run sees the change points that were there before it, and
its own rows at the timestamps of the batch.  It records the departing candidates. -/
theorem persistFrom_eq_some {stored : List ChangePoint}
    (onSeries : forall candidate, candidate ∈ detected -> candidate.LiesOn context.series)
    (older : forall changePoint, changePoint ∈ stored -> changePoint ∈ t.visible context.lookup ∧
      changePoint.periodStart ∉ batchTimestamps)
    (origin : forall changePoint, changePoint ∈ t.visible context.lookup -> changePoint ∈ stored ∨
      changePoint.periodStart ∈ batchTimestamps)
    (ran : persistFrom context t batchTimestamps detected = some next) :
    next = t.setChangePoints (t.changePoints ++
      (Thinning.kept ChangePoint.periodStart context.row ChangePoint.continuedBy
        (getLatestChangePoint t context.lookup)
        (detected.filter (context.isFree stored))).map context.row) := by
  induction detected generalizing t batchTimestamps with
  | nil =>
      cases ran
      rw [List.filter_nil, Thinning.kept, List.map_nil, List.append_nil]
      rfl
  | cons candidate rest ih =>
      rw [List.forall_mem_cons] at onSeries
      have turns := persistFrom_cons ran
      have existing : hasExisting context t batchTimestamps candidate =
          !context.isFree stored candidate := by
        rw [Bool.eq_iff_iff, hasExisting_iff, Bool.not_eq_true', <- Bool.not_eq_true,
          PersistContext.isFree_iff]
        push Not
        constructor
        · rintro ⟨changePoint, visible, around, outside⟩
          exact ⟨changePoint, (origin changePoint visible).resolve_right outside, around⟩
        · rintro ⟨changePoint, inside, around⟩
          exact ⟨changePoint, (older changePoint inside).1, around, (older changePoint inside).2⟩
      rw [existing, Bool.not_eq_true', Bool.not_eq_false'] at turns
      rcases turns with ⟨skipped, ran⟩ | ⟨isFree, departs, _, ran⟩
      · have others := ih recordedIn onSeries.2 older origin ran
        rw [others]
        cases isFree : context.isFree stored candidate with
        | false => rw [List.filter_cons_of_neg (by rw [isFree]; exact Bool.false_ne_true)]
        | true =>
            have suppressed := skipped.resolve_left (by rw [isFree]; exact Bool.noConfusion)
            rw [List.filter_cons_of_pos isFree, Thinning.kept_cons_of_passesOver suppressed]
      · have found := context.matches_row recordedIn candidate
        have visible := Tables.visible_append found
        have notHere : forall changePoint, changePoint ∈ stored ->
            changePoint.periodStart ≠ candidate.timestamp := by
          intro changePoint inside same
          refine PersistContext.isFree_iff.mp isFree changePoint inside ?_
          rw [same]
          exact mem_timestampsAround onSeries.1
        have stillOlder : forall changePoint, changePoint ∈ stored ->
            changePoint ∈ (t.setChangePoints
                (t.changePoints ++ [context.row candidate])).visible context.lookup ∧
              changePoint.periodStart ∉ candidate.timestamp :: batchTimestamps := by
          intro changePoint inside
          rw [visible]
          refine ⟨List.mem_append_left _ (older changePoint inside).1, fun member => ?_⟩
          exact (List.mem_cons.mp member).elim (notHere changePoint inside)
            (older changePoint inside).2
        have stillOrigin : forall changePoint,
            changePoint ∈ (t.setChangePoints
              (t.changePoints ++ [context.row candidate])).visible context.lookup ->
            changePoint ∈ stored ∨
              changePoint.periodStart ∈ candidate.timestamp :: batchTimestamps := by
          intro changePoint inside
          rw [visible, List.mem_append, List.mem_singleton] at inside
          rw [List.mem_cons]
          rcases inside with before | same
          · exact (origin changePoint before).imp_right Or.inr
          · exact Or.inr (Or.inl (congrArg ChangePoint.periodStart same))
        have recordedStill : (t.setChangePoints
            (t.changePoints ++ [context.row candidate])).indicatorSeries context.indicatorResultId =
              some context.comparisonName := recordedIn
        have others := ih recordedStill onSeries.2 stillOlder stillOrigin ran
        rw [others, List.filter_cons_of_pos isFree, Thinning.kept_cons_of_departs departs,
          getLatestChangePoint_append found, List.map_cons, Tables.setChangePoints_changePoints,
          List.append_assoc]
        rfl

theorem persistChangePoints_eq_some
    (onSeries : forall candidate, candidate ∈ detected -> candidate.LiesOn context.series)
    (ran : persistChangePoints context t detected = some next) :
    next = t.setChangePoints
      (t.changePoints ++ (context.departing t detected).map context.row) :=
  persistFrom_eq_some recordedIn onSeries
    (fun _ inside => ⟨inside, List.not_mem_nil⟩) (fun _ inside => Or.inl inside) ran

end

theorem persistFrom_eq_self_iff :
    persistFrom context t batchTimestamps detected = some t ↔
      forall candidate, candidate ∈ detected ->
        hasExisting context t batchTimestamps candidate = true ∨
          isSuppressed context t candidate = true := by
  induction detected with
  | nil => exact ⟨fun _ _ member => absurd member List.not_mem_nil, fun _ => rfl⟩
  | cons candidate rest ih =>
      rw [List.forall_mem_cons, <- ih]
      constructor
      · intro ran
        rcases persistFrom_cons ran with skips | ⟨_, _, _, ran⟩
        · exact skips
        · rcases persistFrom_appends ran with ⟨rows, same⟩
          have longer := congrArg (fun tables : Tables => tables.changePoints.length) same
          simp only [Tables.setChangePoints_changePoints, List.length_append,
            List.length_singleton] at longer
          omega
      · rintro ⟨skipped, ran⟩
        unfold persistFrom
        by_cases existing : hasExisting context t batchTimestamps candidate = true
        · rw [if_pos existing]
          exact ran
        · rw [if_neg existing, if_pos (skipped.resolve_left existing)]
          exact ran

end Run

section Again

variable {context : PersistContext} {t stored : Tables} {detected : List ChangePointResult}

section

variable (recordedIn : t.indicatorSeries context.indicatorResultId = some context.comparisonName)
  (items : List ChangePointResult)

include recordedIn items

theorem Tables.visible_append_rows :
    (t.setChangePoints (t.changePoints ++ items.map context.row)).visible context.lookup =
      t.visible context.lookup ++ items.map context.row := by
  have found : forall row, row ∈ items.map context.row -> t.matches context.lookup row = true := by
    intro row member
    rcases List.mem_map.mp member with ⟨candidate, _, same⟩
    exact same ▸ context.matches_row recordedIn candidate
  unfold Tables.visible
  rw [Tables.matches_setChangePoints, Tables.setChangePoints_changePoints, List.filter_append,
    List.filter_eq_self.mpr found]

theorem getLatestChangePoint_append_rows :
    getLatestChangePoint (t.setChangePoints (t.changePoints ++ items.map context.row))
        context.lookup =
      items.foldl (Thinning.advance ChangePoint.periodStart context.row)
        (getLatestChangePoint t context.lookup) := by
  induction items generalizing t with
  | nil =>
      rw [List.map_nil, List.append_nil]
      rfl
  | cons candidate rest ih =>
      have found := context.matches_row recordedIn candidate
      have later := ih (t := t.setChangePoints
        (t.changePoints ++ [context.row candidate])) recordedIn
      rw [getLatestChangePoint_append found, Tables.setChangePoints_changePoints,
        List.append_assoc] at later
      exact later

end

/-- Every candidate that no stored change point is close to is close to a departing
candidate, or continues the regime in which the candidates end. -/
def PersistContext.Settles (context : PersistContext) (t : Tables)
    (detected : List ChangePointResult) : Prop :=
  forall candidate, candidate ∈ detected.filter (context.isFree (t.visible context.lookup)) ->
    (Exists fun other => other ∈ context.departing t detected ∧
      other.timestamp ∈ context.around candidate) ∨
    (context.lastRegime t detected).any (fun changePoint => changePoint.continuedBy candidate) = true

instance (context : PersistContext) (t : Tables) (detected : List ChangePointResult) :
    Decidable (context.Settles t detected) :=
  inferInstanceAs (Decidable (forall candidate,
    candidate ∈ detected.filter (context.isFree (t.visible context.lookup)) -> _ ∨ _))

/-- A second run with the same candidates inserts nothing exactly when the candidates
settle. -/
theorem persistChangePoints_again_iff
    (recordedIn : t.indicatorSeries context.indicatorResultId = some context.comparisonName)
    (onSeries : forall candidate, candidate ∈ detected -> candidate.LiesOn context.series)
    (ran : persistChangePoints context t detected = some stored) :
    persistChangePoints context stored detected = some stored ↔ context.Settles t detected := by
  have isStored := persistChangePoints_eq_some recordedIn onSeries ran
  have visible : stored.visible context.lookup =
      t.visible context.lookup ++ (context.departing t detected).map context.row := by
    rw [isStored, Tables.visible_append_rows recordedIn]
  have latest : getLatestChangePoint stored context.lookup = context.lastRegime t detected := by
    rw [isStored, getLatestChangePoint_append_rows recordedIn]
    rfl
  have existing : forall candidate, hasExisting context stored [] candidate = true ↔
      context.isFree (t.visible context.lookup) candidate = false ∨
        Exists fun other => other ∈ context.departing t detected ∧
          other.timestamp ∈ context.around candidate := by
    intro candidate
    rw [hasExisting_iff, visible, <- Bool.not_eq_true, PersistContext.isFree_iff]
    push Not
    constructor
    · rintro ⟨changePoint, inside, around, _⟩
      rcases List.mem_append.mp inside with older | newer
      · exact Or.inl ⟨changePoint, older, around⟩
      · rcases List.mem_map.mp newer with ⟨other, member, same⟩
        subst same
        exact Or.inr ⟨other, member, around⟩
    · rintro (⟨changePoint, older, around⟩ | ⟨other, member, around⟩)
      · exact ⟨changePoint, List.mem_append_left _ older, around, List.not_mem_nil⟩
      · exact ⟨context.row other, List.mem_append_right _ (List.mem_map_of_mem member), around,
          List.not_mem_nil⟩
  unfold persistChangePoints PersistContext.Settles
  rw [persistFrom_eq_self_iff]
  refine forall_congr' fun candidate => ?_
  rw [existing, List.mem_filter, isSuppressed, latest]
  cases context.isFree (t.visible context.lookup) candidate with
  | false => simp
  | true => simp

end Again

/-! ## A shift that is passed over

The queue of a mailbox grew in the third hour, and that change point is stored.  The
detector finds two more shifts: one that stays in the noise band of the stored one, and
a recovery in the tenth hour.
-/

namespace Sample

def hour (number : Nat) : Instant :=
  number * 3600000000

def evaluation : SLOEvaluation :=
  { id := 70, evaluationId := 71, evaluationName := "steady", assetId := 7, periodStart := hour 12,
    periodEnd := hour 13, sloName := "mailbox", sloVersion := some 1, status := .completed }

def run : EvaluationRun :=
  { id := 71, assetId := 7, evalName := "steady", periodStart := hour 12, periodEnd := hour 13 }

def shift (position : Nat) (direction : Direction) (mean : ℚ) : ChangePointResult :=
  { position, timestamp := hour position, detector := "e_divisive", direction,
    changeRelativePct := none, changeAbsolute := 0, pvalue := 0, preSegmentMean := 0,
    postSegmentMean := mean, postSegmentStd := 5, transition := none }

def database : Database :=
  { evaluations := empty.insert evaluation rfl
    runs := empty.insert run rfl
    sloDefinitions := .empty
    sliDefinitions := .empty
    dataSources := .empty
    assets := .empty }

def context : PersistContext :=
  { snapshot := snapshotOf database evaluation
    comparisonName := "steady"
    metricName := "queue-depth"
    indicatorResultId := 1
    series := {
      values := List.replicate 13 0
      timestamps := (List.range 13).map hour
      periodEnds := (List.range 13).map fun number => some (hour (number + 1))
      evaluationRunIds := List.replicate 13 71 } }

def tables : Tables :=
  { database with
    indicatorKeys := empty.insert { id := 1, sloEvaluationId := 70, sloObjectiveId := 1 } rfl
    changePoints := [context.row (shift 2 .regression 100)] }

def detected : List ChangePointResult :=
  [shift 6 .regression 104, shift 9 .improvement 40]

def settled : List ChangePointResult :=
  [shift 8 .regression 104, shift 9 .improvement 40]

end Sample

/-- A run on the sample that records one change point. -/
theorem persistChangePoints_again_sample :
    Exists fun stored =>
      persistChangePoints Sample.context Sample.tables Sample.settled = some stored ∧
        (persistChangePoints Sample.context stored Sample.settled = some stored ↔
          Sample.context.Settles Sample.tables Sample.settled) ∧
        Sample.context.Settles Sample.tables Sample.settled := by
  have ran : (persistChangePoints Sample.context Sample.tables Sample.settled).isSome = true := by
    decide +kernel
  have settles : Sample.context.Settles Sample.tables Sample.settled := by decide +kernel
  rcases Option.isSome_iff_exists.mp ran with ⟨stored, isStored⟩
  exact ⟨stored, isStored,
    persistChangePoints_again_iff (by decide +kernel) (by decide +kernel) isStored, settles⟩

/-- The shift that the first run passes over is recorded by the second one, which
compares it with the recovery. -/
theorem passed_over_shift_recorded_again :
    Exists fun stored =>
      persistChangePoints Sample.context Sample.tables Sample.detected = some stored ∧
        Exists fun again =>
          persistChangePoints Sample.context stored Sample.detected = some again ∧
            stored.changePoints.map ChangePoint.periodStart = [Sample.hour 2, Sample.hour 9] ∧
            again.changePoints.map ChangePoint.periodStart =
              [Sample.hour 2, Sample.hour 9, Sample.hour 6] := by
  have ran : ((persistChangePoints Sample.context Sample.tables Sample.detected).bind fun stored =>
      (persistChangePoints Sample.context stored Sample.detected).map fun again =>
        (stored.changePoints.map ChangePoint.periodStart,
          again.changePoints.map ChangePoint.periodStart)) =
      some ([Sample.hour 2, Sample.hour 9], [Sample.hour 2, Sample.hour 9, Sample.hour 6]) := by
    decide +kernel
  rcases Option.bind_eq_some_iff.mp ran with ⟨stored, first, ran⟩
  rcases Option.map_eq_some_iff.mp ran with ⟨again, second, same⟩
  exact ⟨stored, first, again, second, congrArg Prod.fst same, congrArg Prod.snd same⟩

end ChangePoints
end Tropek
