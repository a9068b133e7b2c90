import Tropek.ChangePoints.Detection
import Tropek.Library.Thinning

namespace Tropek
namespace ChangePoints

open Library Engine Store Worker

/-!
# Recording change points

The write phase goes through the detected candidates of each metric.  A candidate is
skipped when a change point is stored within one position of it, or when it continues
the regime of the most recent stored change point.  Both lookups find a change point
through its indicator row: they join it to the evaluation and to the run, and compare
the name of the run.

The rows of the database leave out the primary keys of indicator results.  They are a
table of their own here, since a change point references one.
-/

/-- The primary key of an indicator row, with the unique key that the row has in the
database. -/
structure IndicatorKey where
  id : Nat
  sloEvaluationId : Nat
  sloObjectiveId : Nat
deriving DecidableEq, Repr

abbrev IndicatorKeys := KeyedTable IndicatorKey.id

/-- A row of `change_points`, without the columns of the triage. -/
structure ChangePoint where
  indicatorResultId : Option Nat
  evaluationRunId : Option Nat
  foundByEvaluationId : Option Nat
  assetId : Nat
  sloName : String
  metricName : String
  periodStart : Instant
  periodEnd : Option Instant
  detector : String
  direction : Direction
  changeRelativePct : Option ℚ
  changeAbsolute : ℚ
  pvalue : ℚ
  preSegmentMean : ℚ
  postSegmentMean : ℚ
  postSegmentStd : ℚ
  transition : Option Transition
deriving DecidableEq

structure Tables extends Database where
  indicatorKeys : IndicatorKeys := .empty
  changePoints : List ChangePoint := []

def Tables.setChangePoints (t : Tables) (changePoints : List ChangePoint) : Tables :=
  { t with changePoints }

/-- What a lookup asks for: the columns of the identity index, and the series. -/
structure Lookup where
  assetId : Nat
  sloName : String
  metricName : String
  evaluationName : Option String := none
deriving DecidableEq

/-- The name of the run that the indicator row of a change point belongs to. -/
def Tables.indicatorSeries (t : Tables) (indicatorResultId : Nat) : Option String := do
  let key <- t.indicatorKeys.find indicatorResultId
  let evaluation <- t.evaluations.find key.sloEvaluationId
  let run <- t.runs.find evaluation.evaluationId
  return run.evalName

def Tables.matches (t : Tables) (lookup : Lookup) (changePoint : ChangePoint) : Bool :=
  changePoint.assetId = lookup.assetId && changePoint.sloName = lookup.sloName &&
    changePoint.metricName = lookup.metricName &&
    lookup.evaluationName.all fun name =>
      changePoint.indicatorResultId.bind t.indicatorSeries = some name

def Tables.visible (t : Tables) (lookup : Lookup) : List ChangePoint :=
  t.changePoints.filter (t.matches lookup)

def hasNearbyChangePoint (t : Tables) (lookup : Lookup) (nearbyTimestamps : List Instant) : Bool :=
  (t.visible lookup).any fun changePoint => nearbyTimestamps.contains changePoint.periodStart

def getLatestChangePoint (t : Tables) (lookup : Lookup) : Option ChangePoint :=
  Latest.newest ChangePoint.periodStart (t.visible lookup)

/-- Insert a row.  The foreign keys refuse a reference to a row that is not there. -/
def insertChangePoint (t : Tables) (changePoint : ChangePoint) : Option Tables :=
  if changePoint.indicatorResultId.all (fun id => (t.indicatorKeys.find id).isSome) &&
      changePoint.evaluationRunId.all (fun id => (t.runs.find id).isSome) &&
      changePoint.foundByEvaluationId.all (fun id => (t.runs.find id).isSome) then
    some (t.setChangePoints (t.changePoints ++ [changePoint]))
  else none

def regimeStdMultiplier : ℚ := 2

/-- Whether the new mean falls within the noise band of the previous regime. -/
def sameRegime (previousMean previousStd currentMean : ℚ) : Bool :=
  if previousStd ≤ 0 then previousMean = currentMean
  else |currentMean - previousMean| < regimeStdMultiplier * previousStd

/-- A candidate has the direction of a change point and stays in its regime. -/
def ChangePoint.continuedBy (previousCp : ChangePoint) (candidate : ChangePointResult) : Bool :=
  previousCp.direction = candidate.direction &&
    sameRegime previousCp.postSegmentMean previousCp.postSegmentStd candidate.postSegmentMean

def timestampsAround (timestamps : List Instant) (position : Nat) : List Instant :=
  (timestamps.take (position + 2)).drop (position - 1)

/-- What `_persist_change_points` is called with, besides the candidates. -/
structure PersistContext where
  snapshot : EvaluationSnapshot
  comparisonName : String
  metricName : String
  indicatorResultId : Nat
  series : MetricSeries

def PersistContext.lookup (context : PersistContext) : Lookup :=
  { assetId := context.snapshot.assetId, sloName := context.snapshot.sloName,
    metricName := context.metricName, evaluationName := some context.comparisonName }

def PersistContext.around (context : PersistContext) (candidate : ChangePointResult) :
    List Instant :=
  timestampsAround context.series.timestamps candidate.position

def PersistContext.row (context : PersistContext) (candidate : ChangePointResult) : ChangePoint :=
  { indicatorResultId := some context.indicatorResultId
    evaluationRunId := some
      (context.series.evaluationRunIds[candidate.position]?.getD context.snapshot.parentRunId)
    foundByEvaluationId := some context.snapshot.parentRunId
    assetId := context.snapshot.assetId
    sloName := context.snapshot.sloName
    metricName := context.metricName
    periodStart := candidate.timestamp
    periodEnd :=
      context.series.periodEnds[candidate.position]?.getD (some context.snapshot.periodEnd)
    detector := candidate.detector
    direction := candidate.direction
    changeRelativePct := candidate.changeRelativePct
    changeAbsolute := candidate.changeAbsolute
    pvalue := candidate.pvalue
    preSegmentMean := candidate.preSegmentMean
    postSegmentMean := candidate.postSegmentMean
    postSegmentStd := candidate.postSegmentStd
    transition := candidate.transition }

/-- A change point is stored within one position, apart from those at the timestamps of
this batch. -/
def hasExisting (context : PersistContext) (t : Tables) (batchTimestamps : List Instant)
    (candidate : ChangePointResult) : Bool :=
  let nearbyTimestamps := (context.around candidate).filter fun timestamp =>
    !batchTimestamps.contains timestamp
  !nearbyTimestamps.isEmpty && hasNearbyChangePoint t context.lookup nearbyTimestamps

def isSuppressed (context : PersistContext) (t : Tables) (candidate : ChangePointResult) : Bool :=
  (getLatestChangePoint t context.lookup).any fun previousCp => previousCp.continuedBy candidate

/-- The loop over the candidates.  The timestamps of the rows that it has inserted are
those of the batch. -/
def persistFrom (context : PersistContext) (t : Tables) (batchTimestamps : List Instant) :
    List ChangePointResult -> Option Tables
  | [] => some t
  | candidate :: rest =>
      if hasExisting context t batchTimestamps candidate then
        persistFrom context t batchTimestamps rest
      else if isSuppressed context t candidate then persistFrom context t batchTimestamps rest
      else
        match insertChangePoint t (context.row candidate) with
        | none => none
        | some next => persistFrom context next (candidate.timestamp :: batchTimestamps) rest

def persistChangePoints (context : PersistContext) (t : Tables)
    (detected : List ChangePointResult) : Option Tables :=
  persistFrom context t [] detected

@[simp] theorem Tables.setChangePoints_changePoints (t : Tables) (changePoints : List ChangePoint) :
    (t.setChangePoints changePoints).changePoints = changePoints :=
  rfl

@[simp] theorem Tables.matches_setChangePoints (t : Tables) (changePoints : List ChangePoint) :
    (t.setChangePoints changePoints).matches = t.matches :=
  rfl

variable {t next : Tables} {lookup : Lookup} {changePoint : ChangePoint} {context : PersistContext}
  {batchTimestamps : List Instant} {candidate : ChangePointResult}
  {detected : List ChangePointResult}

theorem Tables.matches_iff {name : String} (named : lookup.evaluationName = some name) :
    t.matches lookup changePoint = true ↔
      changePoint.assetId = lookup.assetId ∧ changePoint.sloName = lookup.sloName ∧
        changePoint.metricName = lookup.metricName ∧
        changePoint.indicatorResultId.bind t.indicatorSeries = some name := by
  unfold Tables.matches
  rw [named]
  simp only [Bool.and_eq_true, decide_eq_true_eq, Option.all_some, and_assoc]

theorem hasNearbyChangePoint_iff {nearbyTimestamps : List Instant} :
    hasNearbyChangePoint t lookup nearbyTimestamps = true ↔
      Exists fun changePoint => changePoint ∈ t.visible lookup ∧
        changePoint.periodStart ∈ nearbyTimestamps := by
  unfold hasNearbyChangePoint
  simp only [List.any_eq_true, List.contains_iff_mem]

theorem insertChangePoint_eq_some (inserted : insertChangePoint t changePoint = some next) :
    next = t.setChangePoints (t.changePoints ++ [changePoint]) := by
  unfold insertChangePoint at inserted
  split at inserted
  · exact (Option.some.inj inserted).symm
  · cases inserted

theorem Tables.visible_append (found : t.matches lookup changePoint = true) :
    (t.setChangePoints (t.changePoints ++ [changePoint])).visible lookup =
      t.visible lookup ++ [changePoint] := by
  unfold Tables.visible
  rw [Tables.matches_setChangePoints, Tables.setChangePoints_changePoints, List.filter_append,
    List.filter_cons_of_pos found, List.filter_nil]

theorem getLatestChangePoint_append (found : t.matches lookup changePoint = true) :
    getLatestChangePoint (t.setChangePoints (t.changePoints ++ [changePoint])) lookup =
      Thinning.advance ChangePoint.periodStart id (getLatestChangePoint t lookup) changePoint := by
  unfold getLatestChangePoint
  rw [Tables.visible_append found, Latest.newest_append]

theorem hasExisting_iff :
    hasExisting context t batchTimestamps candidate = true ↔
      Exists fun changePoint => changePoint ∈ t.visible context.lookup ∧
        changePoint.periodStart ∈ context.around candidate ∧
        changePoint.periodStart ∉ batchTimestamps := by
  unfold hasExisting
  dsimp only
  rw [Bool.and_eq_true, hasNearbyChangePoint_iff]
  constructor
  · rintro ⟨_, changePoint, visible, nearby⟩
    rcases List.mem_filter.mp nearby with ⟨around, outside⟩
    refine ⟨changePoint, visible, around, ?_⟩
    simpa using outside
  · rintro ⟨changePoint, visible, around, outside⟩
    have nearby : changePoint.periodStart ∈ (context.around candidate).filter fun timestamp =>
        !batchTimestamps.contains timestamp :=
      List.mem_filter.mpr ⟨around, by simpa using outside⟩
    refine ⟨?_, changePoint, visible, nearby⟩
    rw [Bool.not_eq_true', List.isEmpty_eq_false_iff]
    exact List.ne_nil_of_mem nearby

theorem persistFrom_cons {rest : List ChangePointResult}
    (ran : persistFrom context t batchTimestamps (candidate :: rest) = some next) :
    ((hasExisting context t batchTimestamps candidate = true ∨
          isSuppressed context t candidate = true) ∧
        persistFrom context t batchTimestamps rest = some next) ∨
      (hasExisting context t batchTimestamps candidate = false ∧
        isSuppressed context t candidate = false ∧
        insertChangePoint t (context.row candidate) =
          some (t.setChangePoints (t.changePoints ++ [context.row candidate])) ∧
        persistFrom context (t.setChangePoints (t.changePoints ++ [context.row candidate]))
          (candidate.timestamp :: batchTimestamps) rest = some next) := by
  unfold persistFrom at ran
  cases existing : hasExisting context t batchTimestamps candidate with
  | true =>
      rw [existing] at ran
      exact Or.inl ⟨Or.inl rfl, ran⟩
  | false =>
      rw [existing] at ran
      cases suppressed : isSuppressed context t candidate with
      | true =>
          rw [suppressed] at ran
          exact Or.inl ⟨Or.inr rfl, ran⟩
      | false =>
          rw [suppressed] at ran
          cases inserted : insertChangePoint t (context.row candidate) with
          | none =>
              rw [inserted] at ran
              cases ran
          | some middle =>
              rw [inserted] at ran
              have isMiddle := insertChangePoint_eq_some inserted
              subst isMiddle
              exact Or.inr ⟨rfl, rfl, rfl, ran⟩

theorem persistFrom_appends (ran : persistFrom context t batchTimestamps detected = some next) :
    Exists fun rows => next = t.setChangePoints (t.changePoints ++ rows) := by
  induction detected generalizing t batchTimestamps with
  | nil =>
      cases ran
      exact ⟨[], by rw [List.append_nil]; rfl⟩
  | cons candidate rest ih =>
      rcases persistFrom_cons ran with ⟨_, ran⟩ | ⟨_, _, _, ran⟩
      · exact ih ran
      · rcases ih ran with ⟨rows, same⟩
        refine ⟨context.row candidate :: rows, ?_⟩
        rw [same, Tables.setChangePoints_changePoints, List.append_assoc]
        rfl

theorem mem_persistFrom (ran : persistFrom context t batchTimestamps detected = some next)
    (member : changePoint ∈ next.changePoints) :
    changePoint ∈ t.changePoints ∨ Exists fun candidate => candidate ∈ detected ∧
      changePoint = context.row candidate := by
  induction detected generalizing t batchTimestamps with
  | nil =>
      cases ran
      exact Or.inl member
  | cons candidate rest ih =>
      rcases persistFrom_cons ran with ⟨_, ran⟩ | ⟨_, _, _, ran⟩
      · rcases ih ran with before | ⟨other, inRest, same⟩
        · exact Or.inl before
        · exact Or.inr ⟨other, List.mem_cons_of_mem _ inRest, same⟩
      · rcases ih ran with before | ⟨other, inRest, same⟩
        · rcases List.mem_append.mp before with older | inserted
          · exact Or.inl older
          · exact Or.inr ⟨candidate, List.mem_cons_self, List.mem_singleton.mp inserted⟩
        · exact Or.inr ⟨other, List.mem_cons_of_mem _ inRest, same⟩

theorem mem_timestampsAround {timestamps : List Instant} {position : Nat} {timestamp : Instant}
    (found : timestamps[position]? = some timestamp) :
    timestamp ∈ timestampsAround timestamps position := by
  unfold timestampsAround
  refine List.mem_iff_getElem?.mpr ⟨position - (position - 1), ?_⟩
  rw [List.getElem?_drop, Nat.add_sub_cancel' (Nat.sub_le position 1),
    List.getElem?_take_of_lt (by omega), found]

end ChangePoints
end Tropek
