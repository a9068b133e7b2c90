import Mathlib.Data.List.Count
import Mathlib.Data.List.Nodup
import Tropek.Timeline.Derivation

namespace Tropek
namespace Timeline

open Library Engine

/-!
# Which orders the derivation sees

All sources share one table of open spans, and a closure reaches every open span below it.
Even so a track is only touched by the snapshots of its own source, in their order, and in
each of them by whether something above it is closed and by the one value given for it.

So the order of closures, the order of values and the way in which the snapshots of
different sources alternate do not matter: the derived spans are the same, each as often.
Only the order in which the spans are emitted changes.
-/

structure Rearranged (first second : SnapshotWithEntries) : Prop where
  source : first.source = second.source
  observedAt : first.observedAt = second.observedAt
  closures : first.closures.Perm second.closures
  values : first.values.Perm second.values

def SnapshotWithEntries.Unambiguous (snapshot : SnapshotWithEntries) : Prop :=
  (snapshot.values.map Prod.fst).Nodup

instance (snapshot : SnapshotWithEntries) : Decidable snapshot.Unambiguous :=
  inferInstanceAs (Decidable (snapshot.values.map Prod.fst).Nodup)

/-- The snapshots of each source are the same, in the same order, up to the order of their
closures and values. -/
def Reinterleaved (first second : List SnapshotWithEntries) : Prop :=
  forall source, List.Forall₂ Rearranged (first.filter fun snapshot => snapshot.source = source)
    (second.filter fun snapshot => snapshot.source = source)

theorem filter_perm_eq {Item Key : Type} [DecidableEq Key] {key : Item -> Key}
    {first second : List Item} (same : first.Perm second) (once : (first.map key).Nodup)
    (wanted : Key) :
    (first.filter fun item => key item = wanted) = second.filter fun item => key item = wanted := by
  have kept := same.filter fun item => decide (key item = wanted)
  have isKey : forall item, item ∈ (first.filter fun item => key item = wanted) -> key item = wanted :=
    fun item member => of_decide_eq_true (List.mem_filter.mp member).2
  have distinct : ((first.filter fun item => key item = wanted).map key).Nodup :=
    (List.filter_sublist.map key).nodup once
  cases found : first.filter fun item => key item = wanted with
  | nil =>
      rw [found] at kept
      exact (List.nil_perm.mp kept).symm
  | cons item rest =>
      cases rest with
      | nil =>
          rw [found] at kept
          exact List.singleton_perm.mp kept
      | cons other rest =>
          rw [found] at distinct isKey
          have one := isKey item List.mem_cons_self
          have two := isKey other (List.mem_cons_of_mem _ List.mem_cons_self)
          simp [one, two] at distinct

theorem observationsOf_rearranged {first second : SnapshotWithEntries}
    (rearranged : Rearranged first second) (unambiguous : first.Unambiguous) (source : String)
    (path : LabelPath) : first.observationsOf source path = second.observationsOf source path := by
  have values := filter_perm_eq rearranged.values unambiguous path
  have closures := (rearranged.closures.filter fun closed => isPrefix closed path).length_eq
  unfold SnapshotWithEntries.observationsOf
  rw [rearranged.source, rearranged.observedAt, values, List.map_const', List.map_const', closures]

theorem observations_filter (snapshots : List SnapshotWithEntries) (source : String)
    (path : LabelPath) :
    observations snapshots source path =
      observations (snapshots.filter fun snapshot => snapshot.source = source) source path := by
  unfold observations
  induction snapshots with
  | nil => rfl
  | cons snapshot rest ih =>
      rw [List.flatMap_cons, ih, List.filter_cons]
      by_cases same : snapshot.source = source
      · simp [same]
      · simp [same, SnapshotWithEntries.observationsOf]

theorem observations_rearranged {first second : List SnapshotWithEntries}
    (rearranged : List.Forall₂ Rearranged first second)
    (unambiguous : forall snapshot, snapshot ∈ first -> snapshot.Unambiguous) (source : String)
    (path : LabelPath) : observations first source path = observations second source path := by
  unfold observations
  induction rearranged with
  | nil => rfl
  | cons here _ ih =>
      rw [List.flatMap_cons, List.flatMap_cons,
        observationsOf_rearranged here (unambiguous _ List.mem_cons_self),
        ih fun snapshot member => unambiguous snapshot (List.mem_cons_of_mem _ member)]

theorem observations_reinterleaved {first second : List SnapshotWithEntries}
    (reinterleaved : Reinterleaved first second)
    (unambiguous : forall snapshot, snapshot ∈ first -> snapshot.Unambiguous) (source : String)
    (path : LabelPath) : observations first source path = observations second source path := by
  rw [observations_filter first, observations_filter second]
  apply observations_rearranged (reinterleaved source)
  intro snapshot member
  exact unambiguous snapshot (List.mem_of_mem_filter member)

/-- Closures and values in another order, and snapshots of different sources alternating in
another way, lead to the same spans. -/
theorem deriveRawSpans_reinterleaved (first second : List SnapshotWithEntries)
    (unambiguous : forall snapshot, snapshot ∈ first -> snapshot.Unambiguous)
    (reinterleaved : Reinterleaved first second) :
    (deriveRawSpans first).Perm (deriveRawSpans second) := by
  rw [List.perm_iff_count]
  intro span
  have counted : forall spans : List RawSpan, (spans.filter fun other =>
      other.OfTrack span.source span.labelPath).count span = spans.count span :=
    fun _ => List.count_filter (decide_eq_true ⟨rfl, rfl⟩)
  have sameTrack : ((deriveRawSpans first).filter fun other =>
      other.OfTrack span.source span.labelPath) =
      (deriveRawSpans second).filter fun other => other.OfTrack span.source span.labelPath := by
    rw [deriveRawSpans_filter, deriveRawSpans_filter,
      observations_reinterleaved reinterleaved unambiguous]
  calc (deriveRawSpans first).count span
      = ((deriveRawSpans first).filter fun other =>
          other.OfTrack span.source span.labelPath).count span := (counted _).symm
    _ = ((deriveRawSpans second).filter fun other =>
          other.OfTrack span.source span.labelPath).count span := by rw [sameTrack]
    _ = (deriveRawSpans second).count span := counted _

/-- Two sources at the same time: one closes an ancestor with a value below it, after it has
given that value before. -/
def scanned : List SnapshotWithEntries :=
  [{ source := "scan", observedAt := 0, values := [(["os", "name"], "linux"), (["cpu"], "8")],
     closures := [] },
   { source := "cmdb", observedAt := 5, values := [(["os", "name"], "bsd")], closures := [] },
   { source := "scan", observedAt := 5, values := [(["os", "name"], "linux"), (["cpu"], "16")],
     closures := [["os"], ["disk"]] }]

def scannedOtherwise : List SnapshotWithEntries :=
  [{ source := "scan", observedAt := 0, values := [(["cpu"], "8"), (["os", "name"], "linux")],
     closures := [] },
   { source := "scan", observedAt := 5, values := [(["cpu"], "16"), (["os", "name"], "linux")],
     closures := [["disk"], ["os"]] },
   { source := "cmdb", observedAt := 5, values := [(["os", "name"], "bsd")], closures := [] }]

theorem scanned_reinterleaved : Reinterleaved scanned scannedOtherwise := by
  intro source
  by_cases scan : "scan" = source
  · subst scan
    refine .cons ⟨rfl, rfl, .nil, .swap _ _ _⟩ (.cons ⟨rfl, rfl, .swap _ _ _, .swap _ _ _⟩ .nil)
  · by_cases cmdb : "cmdb" = source
    · subst cmdb
      exact .cons ⟨rfl, rfl, .nil, .refl _⟩ .nil
    · simp [scanned, scannedOtherwise, scan, cmdb]

/-- The spans come in another order, and each as often as before. -/
theorem scanned_spans :
    deriveRawSpans scanned ≠ deriveRawSpans scannedOtherwise ∧
      (deriveRawSpans scanned).Perm (deriveRawSpans scannedOtherwise) := by
  constructor
  · decide +kernel
  · exact deriveRawSpans_reinterleaved scanned scannedOtherwise (by decide +kernel)
      scanned_reinterleaved

end Timeline
end Tropek
