import Tropek.Engine.Variables
import Tropek.Library.KeyedTable
import Tropek.Library.Tracks

namespace Tropek
namespace Timeline

open Library Engine KeyedTable

/-!
# Span derivation

The metadata of an asset is pushed in snapshots: each one names a source, gives
values for some paths and closes others.  The derivation walks the snapshots in
order and turns them into spans, one track for each source and path.

An open span is kept in a table under its source and path.  The table keeps the
order of insertion, as a dictionary does.
-/

abbrev LabelPath := List String

structure SnapshotWithEntries where
  source : String
  observedAt : Instant
  values : List (LabelPath × String)
  closures : List LabelPath
deriving DecidableEq, Repr

/-- Why a span ends.  `stillOpen`: the reason `open`. -/
inductive EndReason where
  | valueChange
  | closed
  | stillOpen
deriving DecidableEq, Repr

structure RawSpan where
  source : String
  labelPath : LabelPath
  value : String
  start : Instant
  stop : Option Instant
  endReason : EndReason
deriving DecidableEq, Repr

structure OpenSpan where
  source : String
  labelPath : LabelPath
  value : String
  spanStart : Instant
deriving DecidableEq, Repr

def OpenSpan.key (openSpan : OpenSpan) : String × LabelPath :=
  (openSpan.source, openSpan.labelPath)

abbrev OpenSpanMap := KeyedTable OpenSpan.key

structure Walk where
  openSpans : OpenSpanMap := .empty
  emitted : List RawSpan := []

def isPrefix (leading full : LabelPath) : Bool :=
  leading.length ≤ full.length && full.take leading.length = leading

theorem isPrefix_iff {leading full : LabelPath} :
    isPrefix leading full = true ↔ List.IsPrefix leading full := by
  unfold isPrefix
  rw [Bool.and_eq_true, decide_eq_true_eq, decide_eq_true_eq, List.prefix_iff_eq_take]
  constructor
  · exact fun both => both.2.symm
  · intro same
    have bound := congrArg List.length same
    rw [List.length_take] at bound
    exact ⟨by omega, same.symm⟩

def OpenSpan.emit (openSpan : OpenSpan) (stop : Option Instant) (endReason : EndReason) : RawSpan :=
  { source := openSpan.source, labelPath := openSpan.labelPath, value := openSpan.value,
    start := openSpan.spanStart, stop, endReason }

def OpenSpan.reopen (value : String) (observedAt : Instant) (openSpan : OpenSpan) : OpenSpan :=
  { openSpan with value, spanStart := observedAt }

theorem OpenSpan.reopen_key (value : String) (observedAt : Instant) (openSpan : OpenSpan) :
    (openSpan.reopen value observedAt).key = openSpan.key :=
  rfl

def applyValue (walk : Walk) (source : String) (path : LabelPath) (value : String)
    (observedAt : Instant) : Walk :=
  let opened : OpenSpan := { source, labelPath := path, value, spanStart := observedAt }
  match found : walk.openSpans.find opened.key with
  | none => { walk with openSpans := walk.openSpans.insert opened found }
  | some existing =>
      if existing.value = value then walk
      else
        { openSpans := walk.openSpans.update opened.key (OpenSpan.reopen value observedAt)
            (OpenSpan.reopen_key value observedAt)
          emitted := walk.emitted ++ [existing.emit (some observedAt) .valueChange] }

/-- Close the span of a path and those of every path below it, for one source. -/
def closeCascade (walk : Walk) (source : String) (ancestor : LabelPath) (closedAt : Instant) :
    Walk :=
  let closing := fun openSpan : OpenSpan =>
    openSpan.source = source && isPrefix ancestor openSpan.labelPath
  { openSpans := walk.openSpans.deleteWhere closing
    emitted := walk.emitted ++
      (walk.openSpans.rows.filter closing).map fun openSpan => openSpan.emit (some closedAt) .closed }

def applySnapshot (walk : Walk) (snapshot : SnapshotWithEntries) : Walk :=
  let walk := snapshot.closures.foldl (fun walk path =>
    closeCascade walk snapshot.source path snapshot.observedAt) walk
  snapshot.values.foldl (fun walk entry =>
    applyValue walk snapshot.source entry.1 entry.2 snapshot.observedAt) walk

def finalizeOpenSpans (walk : Walk) : List RawSpan :=
  walk.emitted ++ walk.openSpans.rows.map fun openSpan => openSpan.emit none .stillOpen

def deriveRawSpans (snapshots : List SnapshotWithEntries) : List RawSpan :=
  finalizeOpenSpans (snapshots.foldl applySnapshot {})

/-- `datetime.max`, the last microsecond of the year 9999. -/
def datetimeMax : Instant := 253402300799999999

example : isoformat datetimeMax = "9999-12-31T23:59:59.999999+00:00" := by decide +kernel

/-- The snapshots of one asset as the repository loads them, in order of
observation.  No timestamp lies after the last one there is. -/
structure SnapshotLog where
  snapshots : List SnapshotWithEntries
  sorted : snapshots.Pairwise fun first second => first.observedAt ≤ second.observedAt
  representable : forall snapshot, snapshot ∈ snapshots -> snapshot.observedAt ≤ datetimeMax

def RawSpan.OfTrack (source : String) (path : LabelPath) (span : RawSpan) : Prop :=
  span.source = source ∧ span.labelPath = path

instance (source : String) (path : LabelPath) (span : RawSpan) :
    Decidable (span.OfTrack source path) :=
  inferInstanceAs (Decidable (span.source = source ∧ span.labelPath = path))

def RawSpan.toSpan (span : RawSpan) : Tracks.Span String :=
  ⟨span.value, span.start, span.stop⟩

def trackSpans (source : String) (path : LabelPath) (spans : List RawSpan) :
    List (Tracks.Span String) :=
  (spans.filter fun span => span.OfTrack source path).map RawSpan.toSpan

def Walk.track (walk : Walk) (source : String) (path : LabelPath) : Tracks.Recorder String where
  finished := trackSpans source path walk.emitted
  current := (walk.openSpans.find (source, path)).map fun openSpan =>
    (openSpan.value, openSpan.spanStart)

def SnapshotWithEntries.observationsOf (source : String) (path : LabelPath)
    (snapshot : SnapshotWithEntries) : List (Tracks.Observation String) :=
  if snapshot.source = source then
    (snapshot.closures.filter fun closed => isPrefix closed path).map
        (fun _ => ⟨snapshot.observedAt, none⟩) ++
      (snapshot.values.filter fun entry => entry.1 = path).map
        fun entry => ⟨snapshot.observedAt, some entry.2⟩
  else []

/-- The emitted spans of one source and path, with their reasons, and the open one. -/
structure TrackRecord where
  emitted : List RawSpan := []
  current : Option OpenSpan := none

def TrackRecord.observe (source : String) (path : LabelPath) (record : TrackRecord)
    (observation : Tracks.Observation String) : TrackRecord :=
  match observation.value, record.current with
  | none, none => record
  | none, some existing =>
      { emitted := record.emitted ++ [existing.emit (some observation.time) .closed] }
  | some value, none =>
      { record with
        current := some { source, labelPath := path, value, spanStart := observation.time } }
  | some value, some existing =>
      if existing.value = value then record
      else
        { emitted := record.emitted ++ [existing.emit (some observation.time) .valueChange]
          current := some (existing.reopen value observation.time) }

def TrackRecord.spans (record : TrackRecord) : List RawSpan :=
  record.emitted ++ record.current.toList.map fun openSpan => openSpan.emit none .stillOpen

def Walk.record (walk : Walk) (source : String) (path : LabelPath) : TrackRecord where
  emitted := walk.emitted.filter fun span => span.OfTrack source path
  current := walk.openSpans.find (source, path)

@[simp] theorem emit_ofTrack (openSpan : OpenSpan) (stop : Option Instant) (reason : EndReason)
    (source : String) (path : LabelPath) :
    (openSpan.emit stop reason).OfTrack source path ↔ openSpan.key = (source, path) := by
  rw [OpenSpan.key, Prod.mk.injEq]
  exact Iff.rfl

theorem filter_emit_rows (table : OpenSpanMap) (condition : OpenSpan -> Bool) (source : String)
    (path : LabelPath) (stop : Option Instant) (reason : EndReason) :
    (((table.rows.filter condition).map (·.emit stop reason)).filter
        fun span => span.OfTrack source path) =
      ((table.find (source, path)).filter condition).toList.map (·.emit stop reason) := by
  have selected : (((table.rows.filter condition).map (·.emit stop reason)).filter
      fun span => span.OfTrack source path) =
        (((table.rows.filter fun row => row.key = (source, path)).filter condition).map
          (·.emit stop reason)) := by
    rw [List.filter_map, List.filter_filter, List.filter_filter]
    congr 1
    apply List.filter_congr
    intro openSpan _
    simp [Bool.and_comm]
  rw [selected, filter_key]
  cases table.find (source, path) with
  | none => rfl
  | some openSpan =>
      rw [Option.toList_some, Option.filter_some, List.filter_cons]
      cases condition openSpan <;> rfl

theorem applyValue_record (walk : Walk) (source changed : String) (path changedPath : LabelPath)
    (value : String) (observedAt : Instant) :
    (applyValue walk changed changedPath value observedAt).record source path =
      if changed = source ∧ changedPath = path then
        (walk.record source path).observe source path ⟨observedAt, some value⟩
      else walk.record source path := by
  have sameKey : (source, path) = (changed, changedPath) ↔ changed = source ∧ changedPath = path := by
    rw [Prod.mk.injEq, eq_comm, @eq_comm _ path]
  unfold applyValue
  dsimp only
  split
  · rename_i absent
    change walk.openSpans.find (changed, changedPath) = none at absent
    unfold Walk.record
    dsimp only
    rw [find_insert]
    by_cases here : changed = source ∧ changedPath = path
    · rcases here with ⟨rfl, rfl⟩
      simp [OpenSpan.key, TrackRecord.observe, absent]
    · simp only [OpenSpan.key, sameKey, here, if_false]
  · rename_i existing found
    change walk.openSpans.find (changed, changedPath) = some existing at found
    have isKey : existing.key = (changed, changedPath) := find_key found
    by_cases here : changed = source ∧ changedPath = path
    · rcases here with ⟨rfl, rfl⟩
      by_cases repeated : existing.value = value
      · simp [Walk.record, TrackRecord.observe, found, repeated]
      · have ofTrack : existing.source = changed ∧ existing.labelPath = changedPath := by
          simpa [OpenSpan.key] using isKey
        simp [Walk.record, TrackRecord.observe, found, repeated, find_update, ofTrack,
          OpenSpan.key]
    · by_cases repeated : existing.value = value
      · simp only [repeated, if_true, here, if_false]
      · have other : ¬ (changed, changedPath) = (source, path) := fun same => here (sameKey.mp same.symm)
        rw [if_neg repeated, if_neg here]
        unfold Walk.record
        dsimp only
        rw [find_update, List.filter_append]
        simp only [OpenSpan.key, sameKey, here, if_false, List.filter_cons, emit_ofTrack]
        rw [<- OpenSpan.key, isKey]
        simp [other]

theorem closeCascade_record (walk : Walk) (source closed : String) (path ancestor : LabelPath)
    (closedAt : Instant) :
    (closeCascade walk closed ancestor closedAt).record source path =
      if closed = source ∧ isPrefix ancestor path then
        (walk.record source path).observe source path ⟨closedAt, none⟩
      else walk.record source path := by
  unfold closeCascade Walk.record
  dsimp only
  rw [List.filter_append, filter_emit_rows, find_deleteWhere]
  cases found : walk.openSpans.find (source, path) with
  | none => simp [TrackRecord.observe]
  | some openSpan =>
      have isKey := find_key found
      have isSource : openSpan.source = source := congrArg Prod.fst isKey
      have isPath : openSpan.labelPath = path := congrArg Prod.snd isKey
      simp only [Option.filter_some, isSource, isPath]
      by_cases here : closed = source ∧ isPrefix ancestor path = true
      · rcases here with ⟨rfl, below⟩
        simp [below, TrackRecord.observe]
      · have kept : (decide (source = closed) && isPrefix ancestor path) = false := by
          rw [Bool.and_eq_false_iff, decide_eq_false_iff_not, <- Bool.not_eq_true]
          rcases not_and_or.mp here with other | outside
          · exact Or.inl (Ne.symm other)
          · exact Or.inr outside
        simp [kept, here]

theorem closures_record (walk : Walk) (source closed : String) (path : LabelPath)
    (closures : List LabelPath) (closedAt : Instant) :
    (closures.foldl (fun walk ancestor => closeCascade walk closed ancestor closedAt) walk).record
        source path =
      if closed = source then
        ((closures.filter fun ancestor => isPrefix ancestor path).map
          fun _ => (⟨closedAt, none⟩ : Tracks.Observation String)).foldl
            (TrackRecord.observe source path) (walk.record source path)
      else walk.record source path := by
  induction closures generalizing walk with
  | nil => simp
  | cons ancestor rest ih =>
      rw [List.foldl_cons, ih, closeCascade_record]
      by_cases same : closed = source
      · by_cases below : isPrefix ancestor path = true
        · simp only [same, below, and_self, if_true, List.filter_cons, List.map_cons,
            List.foldl_cons]
        · simp only [same, below, and_false, if_false, if_true, List.filter_cons,
            Bool.false_eq_true]
      · simp only [same, false_and, if_false]

theorem values_record (walk : Walk) (source changed : String) (path : LabelPath)
    (values : List (LabelPath × String)) (observedAt : Instant) :
    (values.foldl (fun walk entry => applyValue walk changed entry.1 entry.2 observedAt) walk).record
        source path =
      if changed = source then
        ((values.filter fun entry => entry.1 = path).map
          fun entry => (⟨observedAt, some entry.2⟩ : Tracks.Observation String)).foldl
            (TrackRecord.observe source path) (walk.record source path)
      else walk.record source path := by
  induction values generalizing walk with
  | nil => simp
  | cons entry rest ih =>
      rw [List.foldl_cons, ih, applyValue_record]
      by_cases same : changed = source
      · by_cases here : entry.1 = path
        · simp only [same, here, and_self, if_true, List.filter_cons, decide_true, List.map_cons,
            List.foldl_cons]
        · simp only [same, here, and_false, if_false, if_true, List.filter_cons, decide_false,
            Bool.false_eq_true]
      · simp only [same, false_and, if_false]

theorem applySnapshot_record (walk : Walk) (snapshot : SnapshotWithEntries) (source : String)
    (path : LabelPath) :
    (applySnapshot walk snapshot).record source path =
      (snapshot.observationsOf source path).foldl (TrackRecord.observe source path)
        (walk.record source path) := by
  unfold applySnapshot SnapshotWithEntries.observationsOf
  dsimp only
  rw [values_record, closures_record]
  by_cases same : snapshot.source = source
  · simp only [same, if_true, List.foldl_append]
  · simp only [same, if_false, List.foldl_nil]

def observations (snapshots : List SnapshotWithEntries) (source : String) (path : LabelPath) :
    List (Tracks.Observation String) :=
  snapshots.flatMap (SnapshotWithEntries.observationsOf source path)

theorem walked_record (snapshots : List SnapshotWithEntries) (source : String) (path : LabelPath)
    (walk : Walk) :
    (snapshots.foldl applySnapshot walk).record source path =
      (observations snapshots source path).foldl (TrackRecord.observe source path)
        (walk.record source path) := by
  unfold observations
  induction snapshots generalizing walk with
  | nil => rfl
  | cons snapshot rest ih =>
      rw [List.foldl_cons, ih, applySnapshot_record, List.flatMap_cons,
        List.foldl_append]

theorem deriveRawSpans_filter (snapshots : List SnapshotWithEntries) (source : String)
    (path : LabelPath) :
    ((deriveRawSpans snapshots).filter fun span => span.OfTrack source path) =
      ((observations snapshots source path).foldl (TrackRecord.observe source path) {}).spans := by
  have walked := walked_record snapshots source path {}
  have empty : Walk.record {} source path = {} := rfl
  rw [empty] at walked
  rw [<- walked]
  unfold deriveRawSpans finalizeOpenSpans TrackRecord.spans
  generalize snapshots.foldl applySnapshot {} = walk
  have all := filter_emit_rows walk.openSpans (fun _ => true) source path none .stillOpen
  rw [List.filter_true] at all
  rw [List.filter_append, all]
  unfold Walk.record
  cases walk.openSpans.find (source, path) <;> rfl

def TrackRecord.toRecorder (record : TrackRecord) : Tracks.Recorder String where
  finished := record.emitted.map RawSpan.toSpan
  current := record.current.map fun openSpan => (openSpan.value, openSpan.spanStart)

theorem toRecorder_observe (source : String) (path : LabelPath) (record : TrackRecord)
    (observation : Tracks.Observation String) :
    (record.observe source path observation).toRecorder = record.toRecorder.observe observation := by
  rcases observation with ⟨time, value⟩
  rcases record with ⟨emitted, current⟩
  cases value with
  | none =>
      cases current with
      | none => simp [TrackRecord.observe, TrackRecord.toRecorder, Tracks.Recorder.observe,
          Tracks.Recorder.close]
      | some existing => simp [TrackRecord.observe, TrackRecord.toRecorder, Tracks.Recorder.observe,
          Tracks.Recorder.close, OpenSpan.emit, RawSpan.toSpan]
  | some value =>
      cases current with
      | none => simp [TrackRecord.observe, TrackRecord.toRecorder, Tracks.Recorder.observe,
          Tracks.Recorder.start]
      | some existing =>
          by_cases repeated : existing.value = value
          · simp [TrackRecord.observe, TrackRecord.toRecorder, Tracks.Recorder.observe, repeated]
          · simp [TrackRecord.observe, TrackRecord.toRecorder, Tracks.Recorder.observe, repeated,
              Tracks.Recorder.close, Tracks.Recorder.start, OpenSpan.emit, OpenSpan.reopen,
              RawSpan.toSpan]

theorem toRecorder_spans (record : TrackRecord) :
    record.spans.map RawSpan.toSpan = record.toRecorder.spans := by
  rcases record with ⟨emitted, current⟩
  cases current <;> simp [TrackRecord.spans, TrackRecord.toRecorder, Tracks.Recorder.spans,
    OpenSpan.emit, RawSpan.toSpan]

theorem walked_track (snapshots : List SnapshotWithEntries) (source : String) (path : LabelPath) :
    (snapshots.foldl applySnapshot {}).track source path =
      Tracks.record (observations snapshots source path) := by
  have folded : forall (all : List (Tracks.Observation String)) (record : TrackRecord),
      (all.foldl (TrackRecord.observe source path) record).toRecorder =
        all.foldl Tracks.Recorder.observe record.toRecorder := by
    intro all
    induction all with
    | nil => exact fun _ => rfl
    | cons observation rest ih =>
        intro record
        rw [List.foldl_cons, ih, toRecorder_observe, List.foldl_cons]
  change ((snapshots.foldl applySnapshot {}).record source path).toRecorder = _
  rw [walked_record, folded]
  rfl

theorem deriveRawSpans_track (snapshots : List SnapshotWithEntries) (source : String)
    (path : LabelPath) :
    trackSpans source path (deriveRawSpans snapshots) =
      (Tracks.record (observations snapshots source path)).spans := by
  have empty : Walk.record {} source path = {} := rfl
  rw [<- walked_track]
  change _ = ((snapshots.foldl applySnapshot {}).record source path).toRecorder.spans
  rw [walked_record, empty, <- toRecorder_spans, <- deriveRawSpans_filter]
  rfl

def currentAfter (source : String) (path : LabelPath) (current : Option String)
    (snapshot : SnapshotWithEntries) : Option String :=
  if snapshot.source = source then
    let current := snapshot.closures.foldl (fun current closed =>
      if isPrefix closed path then none else current) current
    snapshot.values.foldl (fun current entry =>
      if entry.1 = path then some entry.2 else current) current
  else current

/-- The value in effect at an instant: the snapshots observed by then, applied in
order to the current value of the path. -/
def replay (snapshots : List SnapshotWithEntries) (source : String) (path : LabelPath)
    (time : Instant) : Option String :=
  (snapshots.filter (·.observedAt ≤ time)).foldl (currentAfter source path) none

theorem currentAfter_eq (source : String) (path : LabelPath) (current : Option String)
    (snapshot : SnapshotWithEntries) :
    currentAfter source path current snapshot =
      Tracks.after current (snapshot.observationsOf source path) := by
  have closures : forall (closures : List LabelPath) (current : Option String),
      closures.foldl (fun current closed => if isPrefix closed path then none else current) current =
        Tracks.after current ((closures.filter fun closed => isPrefix closed path).map
          fun _ => ⟨snapshot.observedAt, none⟩) := by
    intro closures
    induction closures with
    | nil => exact fun _ => rfl
    | cons closed rest ih =>
        intro current
        rw [List.foldl_cons, ih, List.filter_cons]
        by_cases below : isPrefix closed path = true
        · rw [if_pos below, if_pos below]
          rfl
        · rw [if_neg below, if_neg below]
  have values : forall (values : List (LabelPath × String)) (current : Option String),
      values.foldl (fun current entry => if entry.1 = path then some entry.2 else current) current =
        Tracks.after current ((values.filter fun entry => entry.1 = path).map
          fun entry => ⟨snapshot.observedAt, some entry.2⟩) := by
    intro values
    induction values with
    | nil => exact fun _ => rfl
    | cons entry rest ih =>
        intro current
        rw [List.foldl_cons, ih, List.filter_cons]
        by_cases here : entry.1 = path
        · simp only [here, if_true, decide_true]
          rfl
        · simp only [here, if_false, decide_false, Bool.false_eq_true]
  unfold currentAfter SnapshotWithEntries.observationsOf
  split
  · dsimp only
    rw [values, closures]
    unfold Tracks.after
    rw [List.foldl_append]
  · rfl

theorem time_observationsOf {source : String} {path : LabelPath} {snapshot : SnapshotWithEntries}
    {observation : Tracks.Observation String}
    (member : observation ∈ snapshot.observationsOf source path) :
    observation.time = snapshot.observedAt := by
  unfold SnapshotWithEntries.observationsOf at member
  split at member
  · rcases List.mem_append.mp member with closed | valued
    · rcases List.mem_map.mp closed with ⟨_, _, same⟩
      rw [<- same]
    · rcases List.mem_map.mp valued with ⟨_, _, same⟩
      rw [<- same]
  · exact absurd member List.not_mem_nil

theorem replay_eq (snapshots : List SnapshotWithEntries) (source : String) (path : LabelPath)
    (time : Instant) :
    replay snapshots source path time =
      Tracks.valueAt (observations snapshots source path) time := by
  have folded : forall (kept : List SnapshotWithEntries) (current : Option String),
      kept.foldl (currentAfter source path) current =
        Tracks.after current (observations kept source path) := by
    intro kept
    induction kept with
    | nil => exact fun _ => rfl
    | cons snapshot rest ih =>
        intro current
        rw [List.foldl_cons, ih, currentAfter_eq]
        unfold observations Tracks.after
        rw [List.flatMap_cons, List.foldl_append]
  unfold replay Tracks.valueAt
  rw [folded]
  congr 1
  unfold observations
  induction snapshots with
  | nil => rfl
  | cons snapshot rest ih =>
      rw [List.flatMap_cons, List.filter_append, <- ih, List.filter_cons]
      by_cases early : snapshot.observedAt ≤ time
      · have all : ((snapshot.observationsOf source path).filter (·.time ≤ time)) =
            snapshot.observationsOf source path := by
          refine List.filter_eq_self.mpr fun observation member => ?_
          rw [time_observationsOf member]
          exact decide_eq_true early
        rw [all, if_pos (decide_eq_true early), List.flatMap_cons]
      · have none : ((snapshot.observationsOf source path).filter (·.time ≤ time)) = [] := by
          refine List.filter_eq_nil_iff.mpr fun observation member => ?_
          rw [time_observationsOf member, decide_eq_true_eq]
          exact early
        rw [none, List.nil_append, if_neg (by simpa using early)]

theorem observations_chronological (log : SnapshotLog) (source : String) (path : LabelPath) :
    Tracks.Chronological (observations log.snapshots source path) := by
  unfold Tracks.Chronological observations
  refine List.pairwise_flatMap.mpr ⟨fun snapshot _ => ?_, log.sorted.imp fun {first second} early => ?_⟩
  · refine List.Pairwise.imp_of_mem (fun {first second} isFirst isSecond _ => ?_)
      (List.pairwise_of_forall fun _ _ => trivial)
    rw [time_observationsOf isFirst, time_observationsOf isSecond]
  · intro earlier isEarlier later isLater
    rw [time_observationsOf isEarlier, time_observationsOf isLater]
    exact early

def RawSpan.InEffect (span : RawSpan) (time : Instant) : Prop :=
  span.start ≤ time ∧ (forall stop, span.stop = some stop -> time < stop)

theorem shows_trackSpans (source : String) (path : LabelPath) (spans : List RawSpan)
    (time : Instant) (value : String) :
    Tracks.Shows (trackSpans source path spans) time value ↔
      Exists fun span => span ∈ spans ∧ span.OfTrack source path ∧ span.value = value ∧
        span.InEffect time := by
  unfold Tracks.Shows trackSpans
  simp only [List.mem_map, List.mem_filter, decide_eq_true_eq]
  constructor
  · rintro ⟨_, ⟨span, ⟨member, ofTrack⟩, rfl⟩, same, covered⟩
    exact ⟨span, member, ofTrack, same, covered⟩
  · rintro ⟨span, member, ofTrack, same, covered⟩
    exact ⟨_, ⟨span, ⟨member, ofTrack⟩, rfl⟩, same, covered⟩

/-- The spans that the derivation returns for a source and path show at every
instant the value that the snapshots observed by then leave in effect, and they
are in order and disjoint. -/
theorem deriveRawSpans_replays (log : SnapshotLog) (source : String) (path : LabelPath) :
    (forall time value, replay log.snapshots source path time = some value ↔
      Exists fun span => span ∈ deriveRawSpans log.snapshots ∧ span.OfTrack source path ∧
        span.value = value ∧ span.InEffect time) ∧
      ((deriveRawSpans log.snapshots).filter fun span => span.OfTrack source path).Pairwise
        fun first second => first.start ≤ second.start ∧
          forall time, first.InEffect time -> ¬ second.InEffect time := by
  have chronological := observations_chronological log source path
  have tracked := deriveRawSpans_track log.snapshots source path
  constructor
  · intro time value
    rw [replay_eq, <- Tracks.shows_record chronological, <- tracked, shows_trackSpans]
  · have starts := Tracks.record_starts chronological
    have ordered := Tracks.record_ordered chronological
    rw [<- tracked] at starts ordered
    unfold trackSpans at starts ordered
    rw [List.pairwise_map] at starts ordered
    refine (List.Pairwise.and starts ordered).imp fun {first second} here => ?_
    exact ⟨here.1, fun time inFirst => here.2.disjoint inFirst⟩

theorem deriveRawSpans_length (log : SnapshotLog) {span : RawSpan}
    (member : span ∈ deriveRawSpans log.snapshots) {stop : Instant} (ends : span.stop = some stop) :
    span.start ≤ stop := by
  have tracked := deriveRawSpans_track log.snapshots span.source span.labelPath
  have inTrack : span.toSpan ∈ trackSpans span.source span.labelPath (deriveRawSpans log.snapshots) :=
    List.mem_map_of_mem (List.mem_filter.mpr ⟨member, decide_eq_true ⟨rfl, rfl⟩⟩)
  rw [tracked] at inTrack
  exact Tracks.record_length (observations_chronological log _ _) inTrack ends

end Timeline
end Tropek
