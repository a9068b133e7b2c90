import Tropek.Library.Latest
import Tropek.Store.Rows
import Tropek.Timeline.ConflictResolution
import Tropek.Timeline.Rendering

namespace Tropek
namespace Timeline

open Library Engine KeyedTable

/-!
# The timeline of a window

A request names an asset and a window.  The snapshots of the asset up to the end
of the window are loaded, from the first one on, and the four stages turn them
into the rows and items of the response.
-/

structure TimelineResponse where
  groups : List TimelineGroup
  items : List TimelineItem
deriving DecidableEq, Repr

def buildTimelineResponse (snapshots : List SnapshotWithEntries) (windowFrom windowTo : Instant) :
    TimelineResponse :=
  let rawSpans := deriveRawSpans snapshots
  let resolved := resolveMultiSourceConflicts rawSpans
  let clipped := clipSpans resolved windowFrom windowTo
  { groups := buildGroupsWire clipped, items := buildItemsWire clipped }

structure AssetMetaSnapshot where
  id : Nat
  assetId : Nat
  source : String
  observedAt : Instant
  values : List (LabelPath × String)
  closures : List LabelPath
  representable : observedAt ≤ datetimeMax

structure MetaStore where
  assets : KeyedTable Store.Asset.id
  snapshots : KeyedTable AssetMetaSnapshot.id

/-- The order `observed_at ASC, id ASC`. -/
def AssetMetaSnapshot.place (snapshot : AssetMetaSnapshot) : Instant ×ₗ Nat :=
  toLex (snapshot.observedAt, snapshot.id)

def AssetMetaSnapshot.entries (snapshot : AssetMetaSnapshot) : SnapshotWithEntries :=
  { source := snapshot.source, observedAt := snapshot.observedAt, values := snapshot.values,
    closures := snapshot.closures }

def loadRows (store : MetaStore) (assetId : Nat) (lastInstant : Instant) : List AssetMetaSnapshot :=
  (store.snapshots.rows.filter fun snapshot =>
      snapshot.assetId = assetId && snapshot.observedAt ≤ lastInstant).insertionSort
    fun first second => first.place ≤ second.place

instance place_trans : IsTrans AssetMetaSnapshot fun first second => first.place ≤ second.place :=
  ⟨fun _ _ _ => le_trans⟩

instance place_total : Std.Total fun first second : AssetMetaSnapshot => first.place ≤ second.place :=
  ⟨fun first second => le_total first.place second.place⟩

theorem loadRows_sorted (store : MetaStore) (assetId : Nat) (lastInstant : Instant) :
    (loadRows store assetId lastInstant).Pairwise fun first second =>
      first.observedAt ≤ second.observedAt := by
  refine (List.pairwise_insertionSort _ _).imp fun {first second} placed => ?_
  rcases (Prod.Lex.toLex_le_toLex).mp placed with earlier | ⟨same, _⟩
  · exact earlier.le
  · exact same.le

def loadSnapshotsForDerivation (store : MetaStore) (assetId : Nat) (lastInstant : Instant) :
    SnapshotLog where
  snapshots := (loadRows store assetId lastInstant).map AssetMetaSnapshot.entries
  sorted := List.pairwise_map.mpr (loadRows_sorted store assetId lastInstant)
  representable := by
    intro snapshot member
    rcases List.mem_map.mp member with ⟨row, _, rfl⟩
    exact row.representable

inductive TimelineError where
  | notFound (entity : String) (identifier : Nat)
deriving DecidableEq, Repr

def getTimeline (store : MetaStore) (assetId : Nat) (windowFrom windowTo : Instant) :
    Except TimelineError TimelineResponse :=
  if (store.assets.find assetId).isNone then .error (.notFound "asset" assetId)
  else
    let log := loadSnapshotsForDerivation store assetId windowTo
    .ok (buildTimelineResponse log.snapshots windowFrom windowTo)

section Response

variable (log : SnapshotLog)

theorem kept_unique {path : LabelPath} {first second : String}
    (isFirst : Kept log.snapshots path first) (isSecond : Kept log.snapshots path second) :
    first = second := by
  rw [kept_iff_winning] at isFirst isSecond
  rw [isFirst] at isSecond
  exact Option.some.inj isSecond

theorem mem_resolved {span : RawSpan} :
    span ∈ resolveMultiSourceConflicts (deriveRawSpans log.snapshots) ↔
      span ∈ deriveRawSpans log.snapshots ∧ Kept log.snapshots span.labelPath span.source := by
  have resolved := resolve_ofPath (deriveRawSpans log.snapshots) span.labelPath
  have inPath : span ∈ resolveMultiSourceConflicts (deriveRawSpans log.snapshots) ↔
      span ∈ ofPath span.labelPath (resolveMultiSourceConflicts (deriveRawSpans log.snapshots)) := by
    unfold ofPath
    rw [List.mem_filter, decide_eq_true_eq]
    exact (and_iff_left rfl).symm
  rw [inPath, resolved, kept_iff_winning, List.mem_filter, decide_eq_true_eq]
  unfold ofPath
  rw [List.mem_filter, decide_eq_true_eq]
  simp only [and_true]

variable {log}

/-- The instants of the window at which a row shows a value are those at which the
value is in effect for the source that is kept. -/
theorem items_show {windowFrom windowTo time : Instant} {path : LabelPath} {value : String} :
    (Exists fun item => item ∈ itemsOf path (buildTimelineResponse log.snapshots windowFrom
        windowTo).items ∧ item.content = value ∧ item.Covers time) ↔
      windowFrom ≤ time ∧ time < windowTo ∧
        Exists fun source => Kept log.snapshots path source ∧
          replay log.snapshots source path time = some value := by
  constructor
  · rintro ⟨item, member, content, covers⟩
    rcases mem_itemsOf member with ⟨clipped, inside, isPath, isContent, _, isStart, isStop⟩
    rcases mem_clipSpans.mp inside with ⟨span, remains, kept⟩
    rcases clipOneSpan_eq_some kept with ⟨_, _, _, samePath, sameValue, _, _⟩
    rcases (mem_resolved log).mp remains with ⟨derived, winner⟩
    have covered := (clipOneSpan_covers span time).mp
      ⟨clipped, kept, isStart ▸ covers.1, isStop ▸ covers.2⟩
    have spanPath : span.labelPath = path := samePath.symm.trans isPath
    have spanValue : span.value = value := sameValue.symm.trans (isContent.symm.trans content)
    refine ⟨covered.1, covered.2.1, span.source, spanPath ▸ winner, ?_⟩
    exact ((deriveRawSpans_replays log span.source path).1 time value).mpr
      ⟨span, derived, ⟨rfl, spanPath⟩, spanValue, covered.2.2⟩
  · rintro ⟨inWindow, beforeEnd, source, winner, effective⟩
    rcases ((deriveRawSpans_replays log source path).1 time value).mp effective with
      ⟨span, derived, ⟨isSource, isPath⟩, isValue, inEffect⟩
    rcases (clipOneSpan_covers span time).mpr ⟨inWindow, beforeEnd, inEffect⟩ with
      ⟨clipped, kept, begun, notEnded⟩
    rcases clipOneSpan_eq_some kept with ⟨_, _, _, samePath, sameValue, _, _⟩
    have remains : span ∈ resolveMultiSourceConflicts (deriveRawSpans log.snapshots) :=
      (mem_resolved log).mpr ⟨derived, by rw [isSource, isPath]; exact winner⟩
    have inside : clipped ∈ clipSpans (resolveMultiSourceConflicts (deriveRawSpans log.snapshots))
        windowFrom windowTo := mem_clipSpans.mpr ⟨span, remains, kept⟩
    rcases exists_item inside (samePath.trans isPath) with ⟨item, member, content, isStart, isStop⟩
    refine ⟨item, member, content.trans (sameValue.trans isValue), ?_, ?_⟩
    · rw [isStart]
      exact begun
    · rw [isStop]
      exact notEnded

theorem items_disjoint (windowFrom windowTo : Instant) (path : LabelPath) :
    (itemsOf path (buildTimelineResponse log.snapshots windowFrom windowTo).items).Pairwise
      fun first second => forall time, first.Covers time -> ¬ second.Covers time := by
  refine itemsOf_pairwise ?_
  unfold clipSpans
  have clippedOfPath : ((resolveMultiSourceConflicts (deriveRawSpans log.snapshots)).filterMap
        (clipOneSpan windowFrom windowTo)).filter (fun clipped => clipped.labelPath = path) =
      (ofPath path (resolveMultiSourceConflicts (deriveRawSpans log.snapshots))).filterMap
        (clipOneSpan windowFrom windowTo) := by
    unfold ofPath
    rw [List.filter_filterMap, List.filterMap_filter]
    refine List.filterMap_congr fun span _ => ?_
    cases kept : clipOneSpan windowFrom windowTo span with
    | none => simp
    | some clipped =>
        rcases clipOneSpan_eq_some kept with ⟨_, _, _, samePath, _, _, _⟩
        rw [Option.filter_some, samePath]
  rw [clippedOfPath]
  cases winning : winningSource (deriveRawSpans log.snapshots) path with
  | none =>
      rw [resolve_ofPath, winning]
      simp
  | some source =>
      rw [((kept_iff_winning log path source).mpr winning).2]
      refine List.Pairwise.filterMap _ (fun first second apart firstClipped isFirst secondClipped
        isSecond index other time inFirst inSecond => ?_)
        (deriveRawSpans_replays log source path).2
      have firstCovers := (clipOneSpan_covers first time).mp ⟨firstClipped, isFirst, inFirst⟩
      have secondCovers := (clipOneSpan_covers second time).mp ⟨secondClipped, isSecond, inSecond⟩
      exact apart.2 time firstCovers.2.2 secondCovers.2.2

/-- The row of a path has items of one source, the one that is kept.  They lie in
the window, do not overlap, and show at every instant of the window the value
that is in effect for the source. -/
theorem buildTimelineResponse_row (log : SnapshotLog) {windowFrom windowTo : Instant}
    (ordered : windowFrom < windowTo) (path : LabelPath) :
    (forall item, item ∈ itemsOf path
        (buildTimelineResponse log.snapshots windowFrom windowTo).items ->
      Kept log.snapshots path item.source ∧
        windowFrom ≤ item.start ∧ item.start ≤ item.stop ∧ item.stop ≤ windowTo) ∧
      (forall first second, Kept log.snapshots path first -> Kept log.snapshots path second ->
        first = second) ∧
      (itemsOf path (buildTimelineResponse log.snapshots windowFrom windowTo).items).Pairwise
        (fun first second => forall time, first.Covers time -> ¬ second.Covers time) ∧
      forall time value, (Exists fun item => item ∈ itemsOf path
          (buildTimelineResponse log.snapshots windowFrom windowTo).items ∧
            item.content = value ∧ item.Covers time) ↔
        windowFrom ≤ time ∧ time < windowTo ∧
          Exists fun source => Kept log.snapshots path source ∧
            replay log.snapshots source path time = some value := by
  refine ⟨fun item member => ?_, fun _ _ => kept_unique log, items_disjoint _ _ _,
    fun _ _ => items_show⟩
  rcases mem_itemsOf member with ⟨clipped, inside, isPath, _, isSource, isStart, isStop⟩
  rcases mem_clipSpans.mp inside with ⟨span, remains, kept⟩
  rcases clipOneSpan_eq_some kept with ⟨_, _, sameSource, samePath, _, _, _⟩
  rcases (mem_resolved log).mp remains with ⟨derived, winner⟩
  have bounds := clipOneSpan_bounds ordered (fun _ => deriveRawSpans_length log derived) kept
  rw [isSource, sameSource, <- isPath, samePath, isStart, isStop]
  exact ⟨winner, bounds⟩

end Response

/-- A row that shows the value of a closed source and, later, that of an open
one. -/
theorem buildTimelineResponse_row_sample :
    (0 : Instant) < 10 ∧
      forall item, item ∈ itemsOf ["app"] (buildTimelineResponse Sample.log.snapshots 0 10).items ->
        Kept Sample.log.snapshots ["app"] item.source ∧
          0 ≤ item.start ∧ item.start ≤ item.stop ∧ item.stop ≤ 10 :=
  ⟨by decide, (buildTimelineResponse_row Sample.log (by decide) ["app"]).1⟩

/-- The response to the request shows the value at the instant, in the row of the
path. -/
def ShowsAt (response : Except TimelineError TimelineResponse) (path : LabelPath)
    (time : Instant) (value : String) : Prop :=
  Exists fun shown => response = .ok shown ∧
    Exists fun item => item ∈ itemsOf path shown.items ∧ item.content = value ∧ item.Covers time

section Longer

variable (store : MetaStore) (assetId : Nat)

theorem loadRows_filter {firstTo secondTo : Instant} (longer : firstTo ≤ secondTo) :
    loadRows store assetId firstTo =
      (loadRows store assetId secondTo).filter fun snapshot => snapshot.observedAt ≤ firstTo := by
  unfold loadRows
  rw [Latest.filter_insertionSort, List.filter_filter]
  congr 1
  refine List.filter_congr fun snapshot _ => ?_
  by_cases early : snapshot.observedAt ≤ firstTo
  · simp [early, le_trans early longer]
  · simp [early]

theorem replay_longer {firstTo secondTo time : Instant} (longer : firstTo ≤ secondTo)
    (early : time < firstTo) (source : String) (path : LabelPath) :
    replay (loadSnapshotsForDerivation store assetId firstTo).snapshots source path time =
      replay (loadSnapshotsForDerivation store assetId secondTo).snapshots source path time := by
  unfold replay
  congr 1
  unfold loadSnapshotsForDerivation
  dsimp only
  rw [loadRows_filter store assetId longer, List.filter_map, List.filter_map, List.filter_filter]
  congr 1
  refine List.filter_congr fun snapshot _ => ?_
  by_cases observed : snapshot.observedAt ≤ time
  · simp [AssetMetaSnapshot.entries, observed, le_trans observed early.le]
  · simp [AssetMetaSnapshot.entries, observed]

theorem showsAt_iff {windowFrom windowTo time : Instant} (inWindow : windowFrom ≤ time)
    (beforeEnd : time < windowTo) (path : LabelPath) (value : String) :
    ShowsAt (getTimeline store assetId windowFrom windowTo) path time value ↔
      (store.assets.find assetId).isSome ∧ Exists fun source =>
        Kept (loadSnapshotsForDerivation store assetId windowTo).snapshots path source ∧
          replay (loadSnapshotsForDerivation store assetId windowTo).snapshots source path time =
            some value := by
  have shown : (Exists fun item => item ∈ itemsOf path (buildTimelineResponse
        (loadSnapshotsForDerivation store assetId windowTo).snapshots windowFrom windowTo).items ∧
          item.content = value ∧ item.Covers time) ↔ _ := items_show
  unfold ShowsAt getTimeline
  cases found : store.assets.find assetId with
  | none => simp
  | some asset =>
      simp only [Option.isNone_some, Bool.false_eq_true, if_false, Option.isSome_some, true_and]
      constructor
      · rintro ⟨response, same, here⟩
        rw [<- Except.ok.inj same] at here
        exact (shown.mp here).2.2
      · exact fun here => ⟨_, rfl, shown.mpr ⟨inWindow, beforeEnd, here⟩⟩

theorem reports_of_replay {log : SnapshotLog} {source value : String} {path : LabelPath}
    {time : Instant} (effective : replay log.snapshots source path time = some value) :
    Reports log.snapshots path source := by
  rcases ((deriveRawSpans_replays log source path).1 time value).mp effective with
    ⟨span, derived, ofTrack, _⟩
  exact (reports_iff log path source).mpr ⟨span, derived, ofTrack⟩

/-- A longer window shows the same in the row of a path, up to the end of the
shorter one, exactly when the source that wins the path in the longer window had
the same values there as the source that wins it in the shorter one. -/
theorem getTimeline_longer {windowFrom firstTo secondTo : Instant} (longer : firstTo ≤ secondTo)
    (path : LabelPath) :
    (forall time value, windowFrom ≤ time -> time < firstTo ->
      (ShowsAt (getTimeline store assetId windowFrom secondTo) path time value ↔
        ShowsAt (getTimeline store assetId windowFrom firstTo) path time value)) ↔
      (store.assets.find assetId).isSome -> forall first second,
        Kept (loadSnapshotsForDerivation store assetId firstTo).snapshots path first ->
        Kept (loadSnapshotsForDerivation store assetId secondTo).snapshots path second ->
        forall time, windowFrom ≤ time -> time < firstTo ->
          replay (loadSnapshotsForDerivation store assetId secondTo).snapshots second path time =
            replay (loadSnapshotsForDerivation store assetId secondTo).snapshots first path time := by
  constructor
  · intro agree present first second keptFirst keptSecond time inWindow early
    refine Option.ext fun value => ?_
    have here := agree time value inWindow early
    rw [showsAt_iff store assetId inWindow early,
      showsAt_iff store assetId inWindow (lt_of_lt_of_le early longer), and_iff_right present,
      and_iff_right present] at here
    constructor
    · intro effective
      rcases here.mp ⟨second, keptSecond, effective⟩ with ⟨other, keptOther, shown⟩
      rw [kept_unique _ keptOther keptFirst, replay_longer store assetId longer early] at shown
      exact shown
    · intro effective
      rw [<- replay_longer store assetId longer early] at effective
      rcases here.mpr ⟨first, keptFirst, effective⟩ with ⟨other, keptOther, shown⟩
      rw [kept_unique _ keptOther keptSecond] at shown
      exact shown
  · intro same time value inWindow early
    rw [showsAt_iff store assetId inWindow early,
      showsAt_iff store assetId inWindow (lt_of_lt_of_le early longer)]
    refine and_congr_right fun present => ?_
    constructor
    · rintro ⟨second, keptSecond, effective⟩
      have earlier := effective
      rw [<- replay_longer store assetId longer early] at earlier
      rcases ((kept_outranks _ path).1.mpr ⟨second, reports_of_replay earlier⟩) with
        ⟨first, keptFirst⟩
      refine ⟨first, keptFirst, ?_⟩
      rw [replay_longer store assetId longer early,
        <- same present first second keptFirst keptSecond time inWindow early]
      exact effective
    · rintro ⟨first, keptFirst, effective⟩
      rw [replay_longer store assetId longer early] at effective
      rcases ((kept_outranks _ path).1.mpr ⟨first, reports_of_replay effective⟩) with
        ⟨second, keptSecond⟩
      refine ⟨second, keptSecond, ?_⟩
      rw [same present first second keptFirst keptSecond time inWindow early]
      exact effective

end Longer

namespace Sample

def firstSnapshot : AssetMetaSnapshot :=
  { id := 1, assetId := 1, source := "alpha", observedAt := 0, values := [(["app"], "1")],
    closures := [], representable := by decide }

def secondSnapshot : AssetMetaSnapshot :=
  { id := 2, assetId := 1, source := "beta", observedAt := 10, values := [(["app"], "2")],
    closures := [], representable := by decide }

def store : MetaStore :=
  { assets := empty.insert { id := 1, name := "gateway" } rfl
    snapshots := (empty.insert firstSnapshot rfl).insert secondSnapshot rfl }

end Sample

/-- What the shorter window shows is gone from the longer one. -/
theorem getTimeline_rewritten :
    ¬ forall (store : MetaStore) (assetId : Nat) (windowFrom firstTo secondTo : Instant),
      windowFrom < firstTo -> firstTo ≤ secondTo -> forall path time value,
        windowFrom ≤ time -> time < firstTo ->
          (ShowsAt (getTimeline store assetId windowFrom secondTo) path time value ↔
            ShowsAt (getTimeline store assetId windowFrom firstTo) path time value) := by
  intro claimed
  have agree := claimed Sample.store 1 0 5 20 (by decide) (by decide) ["app"] 0 "1" (by decide)
    (by decide)
  rw [showsAt_iff _ _ (by decide) (by decide), showsAt_iff _ _ (by decide) (by decide)] at agree
  have shown : replay (loadSnapshotsForDerivation Sample.store 1 5).snapshots "alpha" ["app"] 0 =
      some "1" := by decide +kernel
  have keptFirst : Kept (loadSnapshotsForDerivation Sample.store 1 5).snapshots ["app"] "alpha" := by
    unfold Kept
    decide +kernel
  have keptSecond : Kept (loadSnapshotsForDerivation Sample.store 1 20).snapshots ["app"] "beta" := by
    unfold Kept
    decide +kernel
  have absent : replay (loadSnapshotsForDerivation Sample.store 1 20).snapshots "beta" ["app"] 0 =
      none := by decide +kernel
  rcases (agree.mpr ⟨by decide, "alpha", keptFirst, shown⟩).2 with ⟨source, kept, effective⟩
  rw [kept_unique _ kept keptSecond, absent] at effective
  cases effective

/-- The longer window shows the same as long as the later source has not been
observed. -/
theorem getTimeline_longer_sample :
    (5 : Instant) ≤ 8 ∧
      forall time value, 0 ≤ time -> time < 5 ->
        (ShowsAt (getTimeline Sample.store 1 0 8) ["app"] time value ↔
          ShowsAt (getTimeline Sample.store 1 0 5) ["app"] time value) := by
  refine ⟨by decide, (getTimeline_longer Sample.store 1 (by decide) ["app"]).mpr ?_⟩
  intro _ first second keptFirst keptSecond time _ _
  have isFirst : Kept (loadSnapshotsForDerivation Sample.store 1 5).snapshots ["app"] "alpha" := by
    unfold Kept
    decide +kernel
  have isSecond : Kept (loadSnapshotsForDerivation Sample.store 1 8).snapshots ["app"] "alpha" := by
    unfold Kept
    decide +kernel
  rw [kept_unique _ keptFirst isFirst, kept_unique _ keptSecond isSecond]

end Timeline
end Tropek
