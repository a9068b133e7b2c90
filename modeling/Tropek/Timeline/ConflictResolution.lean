import Mathlib.Data.String.Basic
import Tropek.Timeline.Derivation

namespace Tropek
namespace Timeline

open Library Engine KeyedTable

/-!
# Conflict resolution

When several sources have reported a path, the timeline shows one of them.  The
winner is chosen by the ends of the derived spans: a span that is still open
counts as current at the last instant there is, and equal ends leave the choice
to the names of the sources.  The spans of the losers are dropped.

The warning about a conflict is left out.
-/

def sentinelOpenEnd : Instant := datetimeMax

structure PathGroup where
  labelPath : LabelPath
  spans : List RawSpan

def PathGroup.add (span : RawSpan) (group : PathGroup) : PathGroup :=
  { group with spans := group.spans ++ [span] }

theorem PathGroup.add_labelPath (span : RawSpan) (group : PathGroup) :
    (group.add span).labelPath = group.labelPath :=
  rfl

def groupSpansByPath (spans : List RawSpan) : KeyedTable PathGroup.labelPath :=
  spans.foldl (fun groups span =>
    groups.upsert { labelPath := span.labelPath, spans := [span] } (PathGroup.add span)
      (PathGroup.add_labelPath span)) .empty

structure SourceLatest where
  source : String
  observedAt : Instant
deriving DecidableEq, Repr

def SourceLatest.advance (observedAt : Instant) (known : SourceLatest) : SourceLatest :=
  if known.observedAt < observedAt then { known with observedAt } else known

theorem SourceLatest.advance_source (observedAt : Instant) (known : SourceLatest) :
    (known.advance observedAt).source = known.source := by
  unfold SourceLatest.advance
  split <;> rfl

def RawSpan.observedAt (span : RawSpan) : Instant :=
  span.stop.getD sentinelOpenEnd

def computeLatestObservationPerSource (pathSpans : List RawSpan) :
    KeyedTable SourceLatest.source :=
  pathSpans.foldl (fun latest span =>
    latest.upsert { source := span.source, observedAt := span.observedAt }
      (SourceLatest.advance span.observedAt) (SourceLatest.advance_source span.observedAt)) .empty

def SourceLatest.Below (first second : SourceLatest) : Prop :=
  first.observedAt < second.observedAt ∨
    first.observedAt = second.observedAt ∧ first.source < second.source

instance (first second : SourceLatest) : Decidable (first.Below second) :=
  inferInstanceAs (Decidable (_ ∨ _))

def SourceLatest.better (best : Option SourceLatest) (other : SourceLatest) : Option SourceLatest :=
  match best with
  | none => some other
  | some known => if known.Below other then some other else some known

def pickWinningSource (sourcesLatest : List SourceLatest) : Option String :=
  (sourcesLatest.foldl SourceLatest.better none).map (·.source)

def resolveGroup (group : PathGroup) : List RawSpan :=
  let sourcesLatest := (computeLatestObservationPerSource group.spans).rows
  if sourcesLatest.length = 1 then group.spans
  else
    match pickWinningSource sourcesLatest with
    | none => []
    | some winner => group.spans.filter fun span => span.source = winner

def resolveMultiSourceConflicts (spans : List RawSpan) : List RawSpan :=
  (groupSpansByPath spans).rows.flatMap resolveGroup

def ofPath (path : LabelPath) (spans : List RawSpan) : List RawSpan :=
  spans.filter fun span => span.labelPath = path

def winningSource (spans : List RawSpan) (path : LabelPath) : Option String :=
  pickWinningSource (computeLatestObservationPerSource (ofPath path spans)).rows

theorem find_groupSpansByPath (spans : List RawSpan) (path : LabelPath) :
    (groupSpansByPath spans).find path =
      if ofPath path spans = [] then none
      else some { labelPath := path, spans := ofPath path spans } := by
  have grouped : forall members : List RawSpan, (forall span, span ∈ members -> span.labelPath = path) ->
      members.foldl (fun found span => some ((found.map (PathGroup.add span)).getD
        { labelPath := span.labelPath, spans := [span] })) none =
        if members = [] then none else some { labelPath := path, spans := members } := by
    intro members
    induction members using List.reverseRecOn with
    | nil => exact fun _ => rfl
    | append_singleton rest last ih =>
        intro all
        have before := ih
          fun span member => all span (List.mem_append_left _ member)
        rw [List.foldl_append, before, if_neg (List.append_ne_nil_of_right_ne_nil _ (List.cons_ne_nil _ _))]
        have lastPath := all last (List.mem_append_right _ List.mem_cons_self)
        by_cases empty : rest = []
        · rw [if_pos empty, empty, List.foldl_cons, lastPath]
          rfl
        · rw [if_neg empty]
          rfl
  unfold groupSpansByPath
  rw [find_upserts, find_empty]
  exact grouped _ fun span member => of_decide_eq_true (List.mem_filter.mp member).2

theorem mem_groupSpansByPath {spans : List RawSpan} {group : PathGroup}
    (member : group ∈ (groupSpansByPath spans).rows) :
    group.spans = ofPath group.labelPath spans := by
  have found := find_of_mem member
  rw [find_groupSpansByPath] at found
  split at found
  · cases found
  · rw [<- Option.some.inj found]

theorem find_latest (pathSpans : List RawSpan) (source : String) :
    ((computeLatestObservationPerSource pathSpans).find source).map (·.observedAt) =
      ((pathSpans.filter fun span => span.source = source).map RawSpan.observedAt).foldl
        Tracks.later none := by
  unfold computeLatestObservationPerSource
  rw [find_upserts, find_empty]
  change Option.map _ ((pathSpans.filter fun span => span.source = source).foldl _ none) = _
  generalize (pathSpans.filter fun span => span.source = source) = members
  induction members using List.reverseRecOn with
  | nil => rfl
  | append_singleton rest last ih =>
      rw [List.foldl_append, List.map_append, List.foldl_append, <- ih]
      generalize rest.foldl _ none = found
      cases found with
      | none => rfl
      | some known =>
          simp only [List.foldl_cons, List.foldl_nil, List.map_cons, List.map_nil, Option.map_some,
            Option.getD_some, Tracks.later, SourceLatest.advance]
          split <;> rfl

theorem mem_latest_source (pathSpans : List RawSpan) (source : String) :
    (Exists fun known => known ∈ (computeLatestObservationPerSource pathSpans).rows ∧
      known.source = source) ↔
      Exists fun span => span ∈ pathSpans ∧ span.source = source := by
  have listed := find_latest pathSpans source
  constructor
  · rintro ⟨known, member, rfl⟩
    rw [find_of_mem member] at listed
    by_contra absent
    have empty : (pathSpans.filter fun span => span.source = known.source) = [] := by
      refine List.filter_eq_nil_iff.mpr fun span inside same => absent ⟨span, inside, ?_⟩
      exact of_decide_eq_true same
    rw [empty] at listed
    cases listed
  · rintro ⟨span, member, same⟩
    cases found : (computeLatestObservationPerSource pathSpans).find source with
    | some known => exact ⟨known, find_mem found, find_key found⟩
    | none =>
        rw [found] at listed
        have inside : span ∈ pathSpans.filter fun span => span.source = source :=
          List.mem_filter.mpr ⟨member, decide_eq_true same⟩
        rcases List.exists_cons_of_ne_nil (List.ne_nil_of_mem inside) with ⟨head, rest, split⟩
        rw [split] at listed
        have reached : forall (times : List Int) (known : Int),
            times.foldl Tracks.later (some known) ≠ none := by
          intro times
          induction times with
          | nil => exact fun _ => Option.some_ne_none _
          | cons time rest ih =>
              intro known
              rw [List.foldl_cons]
              unfold Tracks.later
              dsimp only
              split <;> exact ih _
        exact absurd listed.symm (reached _ _)

theorem SourceLatest.Below.trans {first second third : SourceLatest} (one : first.Below second)
    (two : second.Below third) : first.Below third := by
  rcases one with earlier | ⟨same, less⟩
  · rcases two with later | ⟨equal, _⟩
    · exact Or.inl (lt_trans earlier later)
    · exact Or.inl (equal ▸ earlier)
  · rcases two with later | ⟨equal, greater⟩
    · exact Or.inl (same ▸ later)
    · exact Or.inr ⟨same.trans equal, lt_trans less greater⟩

theorem SourceLatest.below_of_not {first second : SourceLatest}
    (different : second.source ≠ first.source) (notBelow : ¬ first.Below second) :
    second.Below first := by
  rcases lt_trichotomy first.observedAt second.observedAt with earlier | same | later
  · exact absurd (Or.inl earlier) notBelow
  · rcases lt_or_gt_of_ne different with less | greater
    · exact Or.inr ⟨same.symm, less⟩
    · exact absurd (Or.inr ⟨same, greater⟩) notBelow
  · exact Or.inl later

theorem foldl_better (entries : List SourceLatest) :
    match entries.foldl SourceLatest.better none with
    | none => entries = []
    | some best => best ∈ entries ∧ forall other, other ∈ entries -> ¬ best.Below other := by
  induction entries using List.reverseRecOn with
  | nil => rfl
  | append_singleton rest last ih =>
      have irreflexive : ¬ last.Below last := by
        rintro (earlier | ⟨_, less⟩)
        · exact lt_irrefl _ earlier
        · exact lt_irrefl _ less
      have inLast : last ∈ rest ++ [last] := List.mem_append_right _ List.mem_cons_self
      rw [List.foldl_append]
      cases found : rest.foldl SourceLatest.better none with
      | none =>
          rw [found] at ih
          refine ⟨inLast, fun other member => ?_⟩
          rw [ih, List.nil_append, List.mem_singleton] at member
          rw [member]
          exact irreflexive
      | some best =>
          rw [found] at ih
          rcases ih with ⟨inside, greatest⟩
          simp only [List.foldl_cons, List.foldl_nil, SourceLatest.better]
          by_cases below : best.Below last
          · rw [if_pos below]
            refine ⟨inLast, fun other member => ?_⟩
            rcases List.mem_append.mp member with old | new
            · exact fun above => greatest other old (below.trans above)
            · rw [List.mem_singleton.mp new]
              exact irreflexive
          · rw [if_neg below]
            refine ⟨List.mem_append_left _ inside, fun other member => ?_⟩
            rcases List.mem_append.mp member with old | new
            · exact greatest other old
            · rw [List.mem_singleton.mp new]
              exact below

theorem pickWinningSource_eq_some (latest : KeyedTable SourceLatest.source) (winner : String) :
    pickWinningSource latest.rows = some winner ↔
      Exists fun known => latest.find winner = some known ∧
        forall other, other ∈ latest.rows -> other.source ≠ winner -> other.Below known := by
  have picked := foldl_better latest.rows
  unfold pickWinningSource
  cases found : latest.rows.foldl SourceLatest.better none with
  | none =>
      rw [found] at picked
      refine ⟨(fun impossible => nomatch impossible), ?_⟩
      rintro ⟨known, isKnown, _⟩
      have member := find_mem isKnown
      rw [picked] at member
      exact absurd member List.not_mem_nil
  | some best =>
      rw [found] at picked
      rcases picked with ⟨inside, greatest⟩
      rw [Option.map_some, Option.some.injEq]
      constructor
      · rintro rfl
        refine ⟨best, find_of_mem inside, fun other member different => ?_⟩
        exact SourceLatest.below_of_not different (greatest other member)
      · rintro ⟨known, isKnown, above⟩
        by_contra different
        exact greatest known (find_mem isKnown) (above best inside different)

theorem pickWinningSource_eq_none {entries : List SourceLatest}
    (picked : pickWinningSource entries = none) : entries = [] := by
  have kept := foldl_better entries
  unfold pickWinningSource at picked
  rw [Option.map_eq_none_iff.mp picked] at kept
  exact kept

theorem resolveGroup_eq (group : PathGroup) :
    resolveGroup group = group.spans.filter fun span =>
      pickWinningSource (computeLatestObservationPerSource group.spans).rows = some span.source := by
  unfold resolveGroup
  dsimp only
  split
  · rename_i single
    rcases List.length_eq_one_iff.mp single with ⟨only, isOnly⟩
    have picked : pickWinningSource (computeLatestObservationPerSource group.spans).rows =
        some only.source := by
      rw [isOnly]
      rfl
    rw [picked]
    refine (List.filter_eq_self.mpr fun span member => decide_eq_true ?_).symm
    rcases (mem_latest_source group.spans span.source).mpr ⟨span, member, rfl⟩ with
      ⟨known, inside, same⟩
    rw [isOnly, List.mem_singleton] at inside
    rw [<- same, inside]
  · cases pickWinningSource (computeLatestObservationPerSource group.spans).rows with
    | none => simp
    | some winner =>
        refine List.filter_congr fun span _ => decide_eq_decide.mpr ?_
        rw [Option.some.injEq]
        exact eq_comm

theorem resolve_ofPath (spans : List RawSpan) (path : LabelPath) :
    ofPath path (resolveMultiSourceConflicts spans) =
      (ofPath path spans).filter fun span => winningSource spans path = some span.source := by
  have resolved : forall group, group ∈ (groupSpansByPath spans).rows ->
      ofPath path (resolveGroup group) =
        if group.labelPath = path then resolveGroup group else [] := by
    intro group member
    have isGroup := mem_groupSpansByPath member
    have ofGroup : forall span, span ∈ resolveGroup group -> span.labelPath = group.labelPath := by
      intro span inside
      rw [resolveGroup_eq, isGroup] at inside
      exact of_decide_eq_true (List.mem_filter.mp (List.mem_filter.mp inside).1).2
    unfold ofPath
    by_cases same : group.labelPath = path
    · rw [if_pos same]
      refine List.filter_eq_self.mpr fun span inside => decide_eq_true ?_
      exact (ofGroup span inside).trans same
    · rw [if_neg same]
      refine List.filter_eq_nil_iff.mpr fun span inside isPath => same ?_
      exact (ofGroup span inside).symm.trans (of_decide_eq_true isPath)
  have found := filter_key (groupSpansByPath spans) path
  have gathered : ofPath path (resolveMultiSourceConflicts spans) =
      ((groupSpansByPath spans).rows.filter fun group => group.labelPath = path).flatMap
        resolveGroup := by
    unfold resolveMultiSourceConflicts
    generalize (groupSpansByPath spans).rows = groups at resolved
    induction groups with
    | nil => rfl
    | cons group rest ih =>
        have here := resolved group List.mem_cons_self
        have later := ih fun other inside =>
          resolved other (List.mem_cons_of_mem _ inside)
        unfold ofPath at here later ⊢
        rw [List.flatMap_cons, List.filter_append, here, later, List.filter_cons]
        by_cases same : group.labelPath = path
        · simp only [same, if_true, decide_true, List.flatMap_cons]
        · simp only [same, if_false, decide_false, Bool.false_eq_true, List.nil_append]
  rw [gathered, found, find_groupSpansByPath]
  unfold winningSource
  by_cases empty : ofPath path spans = []
  · rw [if_pos empty, empty]
    rfl
  · rw [if_neg empty, Option.toList_some, List.flatMap_singleton, resolveGroup_eq]

def Reports (snapshots : List SnapshotWithEntries) (path : LabelPath) (source : String) : Prop :=
  Exists fun snapshot => snapshot ∈ snapshots ∧ snapshot.source = source ∧
    Exists fun value => (path, value) ∈ snapshot.values

def currentValue (snapshots : List SnapshotWithEntries) (source : String) (path : LabelPath) :
    Option String :=
  snapshots.foldl (currentAfter source path) none

/-- The time of the latest snapshot in which the source gave the path a value or
ended the one that it had. -/
def latestObservation (snapshots : List SnapshotWithEntries) (source : String)
    (path : LabelPath) : Option Instant :=
  Tracks.lastSeen (observations snapshots source path)

/-- How current a source is for a path: a source with a value in effect is as
current as can be. -/
def recency (snapshots : List SnapshotWithEntries) (path : LabelPath) (source : String) :
    Option Instant :=
  if (currentValue snapshots source path).isSome then some sentinelOpenEnd
  else latestObservation snapshots source path

/-- One source is more recent than another one, or equally recent with the greater
name. -/
def Outranks (recency : String -> Option Instant) (source other : String) : Prop :=
  Exists fun time => Exists fun otherTime =>
    recency source = some time ∧ recency other = some otherTime ∧
      (otherTime < time ∨ otherTime = time ∧ other < source)

/-- The resolution keeps the spans of the source, and no others, for the path. -/
def Kept (snapshots : List SnapshotWithEntries) (path : LabelPath) (source : String) : Prop :=
  let spans := deriveRawSpans snapshots
  ofPath path (resolveMultiSourceConflicts spans) ≠ [] ∧
    ofPath path (resolveMultiSourceConflicts spans) =
      spans.filter fun span => span.OfTrack source path

theorem currentValue_eq (snapshots : List SnapshotWithEntries) (source : String)
    (path : LabelPath) :
    currentValue snapshots source path =
      Tracks.after none (observations snapshots source path) := by
  have folded : forall current : Option String,
      snapshots.foldl (currentAfter source path) current =
        Tracks.after current (observations snapshots source path) := by
    induction snapshots with
    | nil => exact fun _ => rfl
    | cons snapshot rest ih =>
        intro current
        rw [List.foldl_cons, ih, currentAfter_eq]
        unfold observations Tracks.after
        rw [List.flatMap_cons, List.foldl_append]
  exact folded none

theorem ofPath_source (spans : List RawSpan) (path : LabelPath) (source : String) :
    ((ofPath path spans).filter fun span => span.source = source) =
      spans.filter fun span => span.OfTrack source path := by
  unfold ofPath
  rw [List.filter_filter]
  refine List.filter_congr fun span _ => ?_
  rw [<- Bool.decide_and]
  rfl

theorem find_latest_derived (log : SnapshotLog) (path : LabelPath) (source : String) :
    ((computeLatestObservationPerSource (ofPath path (deriveRawSpans log.snapshots))).find
        source).map (·.observedAt) = recency log.snapshots path source := by
  have early : forall observation, observation ∈ observations log.snapshots source path ->
      observation.time ≤ sentinelOpenEnd := by
    intro observation member
    rcases List.mem_flatMap.mp member with ⟨snapshot, inside, observed⟩
    rw [time_observationsOf observed]
    exact log.representable snapshot inside
  have latest := Tracks.latest_finish (observations_chronological log source path) early
  rw [<- deriveRawSpans_track] at latest
  unfold trackSpans at latest
  rw [List.map_map] at latest
  rw [find_latest, ofPath_source]
  unfold recency latestObservation
  rw [currentValue_eq]
  exact latest

theorem reports_iff (log : SnapshotLog) (path : LabelPath) (source : String) :
    Reports log.snapshots path source ↔
      Exists fun span => span ∈ deriveRawSpans log.snapshots ∧ span.OfTrack source path := by
  have tracked := deriveRawSpans_track log.snapshots source path
  have spansEmpty := Tracks.record_spans_eq_nil (observations log.snapshots source path)
  rw [<- tracked] at spansEmpty
  constructor
  · rintro ⟨snapshot, member, isSource, value, valued⟩
    have nonempty : trackSpans source path (deriveRawSpans log.snapshots) ≠ [] := by
      intro empty
      have observed : (⟨snapshot.observedAt, some value⟩ : Tracks.Observation String) ∈
          observations log.snapshots source path := by
        refine List.mem_flatMap.mpr ⟨snapshot, member, ?_⟩
        unfold SnapshotWithEntries.observationsOf
        rw [if_pos isSource]
        refine List.mem_append_right _ (List.mem_map.mpr ⟨(path, value), ?_, rfl⟩)
        exact List.mem_filter.mpr ⟨valued, decide_eq_true rfl⟩
      cases spansEmpty.mp empty _ observed
    rcases List.exists_mem_of_ne_nil _ nonempty with ⟨_, tracked⟩
    rcases List.mem_map.mp tracked with ⟨span, selected, _⟩
    rcases List.mem_filter.mp selected with ⟨inside, ofTrack⟩
    exact ⟨span, inside, of_decide_eq_true ofTrack⟩
  · rintro ⟨span, member, ofTrack⟩
    by_contra silent
    have empty : trackSpans source path (deriveRawSpans log.snapshots) = [] := by
      refine spansEmpty.mpr fun observation observed => ?_
      rcases List.mem_flatMap.mp observed with ⟨snapshot, inside, here⟩
      unfold SnapshotWithEntries.observationsOf at here
      split at here
      · rename_i isSource
        rcases List.mem_append.mp here with closed | valued
        · rcases List.mem_map.mp closed with ⟨_, _, same⟩
          rw [<- same]
        · rcases List.mem_map.mp valued with ⟨entry, selected, _⟩
          rcases List.mem_filter.mp selected with ⟨given, isPath⟩
          refine absurd ⟨snapshot, inside, isSource, entry.2, ?_⟩ silent
          rw [<- of_decide_eq_true isPath]
          exact given
      · exact absurd here List.not_mem_nil
    unfold trackSpans at empty
    have selected : span ∈ (deriveRawSpans log.snapshots).filter fun span => span.OfTrack source path :=
      List.mem_filter.mpr ⟨member, decide_eq_true ofTrack⟩
    rw [List.map_eq_nil_iff.mp empty] at selected
    exact List.not_mem_nil selected

theorem winningSource_iff (log : SnapshotLog) (path : LabelPath) (source : String) :
    winningSource (deriveRawSpans log.snapshots) path = some source ↔
      Reports log.snapshots path source ∧
        forall other, Reports log.snapshots path other -> other ≠ source ->
          Outranks (recency log.snapshots path) source other := by
  have recent := find_latest_derived log path
  have listed : forall other, Reports log.snapshots path other ↔
      Exists fun known => known ∈ (computeLatestObservationPerSource
        (ofPath path (deriveRawSpans log.snapshots))).rows ∧ known.source = other := by
    intro other
    rw [mem_latest_source, reports_iff]
    constructor
    · rintro ⟨span, member, isSource, isPath⟩
      exact ⟨span, List.mem_filter.mpr ⟨member, decide_eq_true isPath⟩, isSource⟩
    · rintro ⟨span, member, isSource⟩
      rcases List.mem_filter.mp member with ⟨inside, isPath⟩
      exact ⟨span, inside, isSource, of_decide_eq_true isPath⟩
  unfold winningSource
  generalize computeLatestObservationPerSource (ofPath path (deriveRawSpans log.snapshots)) = latest
    at recent listed ⊢
  have entry : forall known, known ∈ latest.rows ->
      recency log.snapshots path known.source = some known.observedAt := by
    intro known member
    rw [<- recent, find_of_mem member]
    rfl
  rw [pickWinningSource_eq_some]
  constructor
  · rintro ⟨known, found, greatest⟩
    have member := find_mem found
    have isSource := find_key found
    refine ⟨(listed source).mpr ⟨known, member, isSource⟩, fun other reports different => ?_⟩
    rcases (listed other).mp reports with ⟨otherKnown, inside, isOther⟩
    have below := greatest otherKnown inside fun same => different (isOther ▸ same)
    refine ⟨known.observedAt, otherKnown.observedAt, ?_, ?_, ?_⟩
    · rw [<- isSource]
      exact entry known member
    · rw [<- isOther]
      exact entry otherKnown inside
    · rw [<- isSource, <- isOther]
      exact below
  · rintro ⟨reports, outranks⟩
    rcases (listed source).mp reports with ⟨known, member, isSource⟩
    refine ⟨known, isSource ▸ find_of_mem member, fun other inside different => ?_⟩
    rcases outranks other.source ((listed other.source).mpr ⟨other, inside, rfl⟩) different with
      ⟨time, otherTime, isTime, isOtherTime, above⟩
    rw [<- isSource, entry known member] at isTime
    rw [entry other inside] at isOtherTime
    unfold SourceLatest.Below
    rw [Option.some.inj isTime, Option.some.inj isOtherTime, isSource]
    exact above

theorem kept_iff_winning (log : SnapshotLog) (path : LabelPath) (source : String) :
    Kept log.snapshots path source ↔
      winningSource (deriveRawSpans log.snapshots) path = some source := by
  unfold Kept
  dsimp only
  rw [resolve_ofPath]
  constructor
  · rintro ⟨nonempty, same⟩
    rcases List.exists_mem_of_ne_nil _ nonempty with ⟨span, member⟩
    have ofTrack := same ▸ member
    rcases (of_decide_eq_true (List.mem_filter.mp ofTrack).2 : span.OfTrack source path) with
      ⟨isSource, _⟩
    rw [of_decide_eq_true (List.mem_filter.mp member).2, isSource]
  · intro winning
    have kept : ((ofPath path (deriveRawSpans log.snapshots)).filter fun span =>
        winningSource (deriveRawSpans log.snapshots) path = some span.source) =
          (deriveRawSpans log.snapshots).filter fun span => span.OfTrack source path := by
      rw [<- ofPath_source, winning]
      refine List.filter_congr fun span _ => decide_eq_decide.mpr ?_
      rw [Option.some.injEq]
      exact eq_comm
    refine ⟨?_, kept⟩
    rw [kept]
    have reports := ((winningSource_iff log path source).mp winning).1
    rcases (reports_iff log path source).mp reports with ⟨span, member, ofTrack⟩
    exact List.ne_nil_of_mem (List.mem_filter.mpr ⟨member, decide_eq_true ofTrack⟩)

/-- Some source is kept for every path that is reported, and the source kept
outranks every other one that reports the path. -/
theorem kept_outranks (log : SnapshotLog) (path : LabelPath) :
    ((Exists fun source => Kept log.snapshots path source) ↔
      Exists fun source => Reports log.snapshots path source) ∧
      forall source, Kept log.snapshots path source ↔
        Reports log.snapshots path source ∧
          forall other, Reports log.snapshots path other -> other ≠ source ->
            Outranks (recency log.snapshots path) source other := by
  constructor
  · constructor
    · rintro ⟨source, kept⟩
      exact ⟨source, ((winningSource_iff log path source).mp
        ((kept_iff_winning log path source).mp kept)).1⟩
    · rintro ⟨source, reports⟩
      rcases (reports_iff log path source).mp reports with ⟨span, member, _, isPath⟩
      have listed : Exists fun known => known ∈ (computeLatestObservationPerSource
          (ofPath path (deriveRawSpans log.snapshots))).rows ∧ known.source = span.source :=
        (mem_latest_source _ _).mpr
          ⟨span, List.mem_filter.mpr ⟨member, decide_eq_true isPath⟩, rfl⟩
      cases winning : winningSource (deriveRawSpans log.snapshots) path with
      | some winner => exact ⟨winner, (kept_iff_winning log path winner).mpr winning⟩
      | none =>
          rcases listed with ⟨known, inside, _⟩
          rw [pickWinningSource_eq_none winning] at inside
          exact absurd inside List.not_mem_nil
  · intro source
    rw [kept_iff_winning, winningSource_iff]

namespace Sample

/-- One source gives a value once.  The other one gives a later value and closes
it later still. -/
def log : SnapshotLog where
  snapshots := [
    { source := "alpha", observedAt := 0, values := [(["app"], "1")], closures := [] },
    { source := "beta", observedAt := 1, values := [(["app"], "2")], closures := [] },
    { source := "beta", observedAt := 5, values := [], closures := [["app"]] }]
  sorted := by decide
  representable := by decide

end Sample

/-- The source that was observed last is not the one that is kept. -/
theorem kept_not_latest :
    ¬ forall (log : SnapshotLog) (path : LabelPath) (source : String),
      Kept log.snapshots path source -> forall other, Reports log.snapshots path other ->
        other ≠ source -> Outranks (latestObservation log.snapshots · path) source other := by
  intro claimed
  have kept : Kept Sample.log.snapshots ["app"] "alpha" := by
    unfold Kept
    decide +kernel
  have reports : Reports Sample.log.snapshots ["app"] "beta" :=
    ⟨_, List.mem_cons_of_mem _ List.mem_cons_self, rfl, "2", List.mem_cons_self⟩
  rcases claimed Sample.log ["app"] "alpha" kept "beta" reports (by decide) with
    ⟨time, otherTime, isTime, isOtherTime, above⟩
  have first : latestObservation Sample.log.snapshots "alpha" ["app"] = some 0 := by decide +kernel
  have second : latestObservation Sample.log.snapshots "beta" ["app"] = some 5 := by decide +kernel
  cases first.symm.trans isTime
  cases second.symm.trans isOtherTime
  rcases above with later | ⟨same, _⟩
  · exact absurd later (by decide)
  · exact absurd same (by decide)

end Timeline
end Tropek
