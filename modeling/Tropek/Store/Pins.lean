import Tropek.Store.BaselineRepository

namespace Tropek
namespace Store

open Library Engine

/-!
# Invalidation and baseline pins

The statements behind the actions that take evaluations out of the baselines and
back, and that move the baseline floor of an asset and SLO.  A pin is two
statements: the active pins of the series are taken off, and then the chosen
evaluation is pinned.  Nothing in the schema keeps two pins apart.
-/

def SLOEvaluation.setInvalidated (invalidated : Bool) (row : SLOEvaluation) : SLOEvaluation :=
  { row with invalidated }

def SLOEvaluation.setPinned (now : Instant) (row : SLOEvaluation) : SLOEvaluation :=
  { row with baselinePinnedAt := some now, baselineUnpinnedAt := none }

def SLOEvaluation.setUnpinned (now : Instant) (row : SLOEvaluation) : SLOEvaluation :=
  { row with baselineUnpinnedAt := some now }

theorem SLOEvaluation.setInvalidated_id (invalidated : Bool) (row : SLOEvaluation) :
    (row.setInvalidated invalidated).id = row.id :=
  rfl

theorem SLOEvaluation.setPinned_id (now : Instant) (row : SLOEvaluation) :
    (row.setPinned now).id = row.id :=
  rfl

theorem SLOEvaluation.setUnpinned_id (now : Instant) (row : SLOEvaluation) :
    (row.setUnpinned now).id = row.id :=
  rfl

@[simp] theorem SLOEvaluation.setPinned_isPinned (now : Instant) (row : SLOEvaluation) :
    (row.setPinned now).isPinned = true :=
  rfl

@[simp] theorem SLOEvaluation.setUnpinned_isPinned (now : Instant) (row : SLOEvaluation) :
    (row.setUnpinned now).isPinned = false := by
  simp [SLOEvaluation.setUnpinned, SLOEvaluation.isPinned]

def invalidate (table : Evaluations) (evalId : Nat) : Evaluations :=
  table.update evalId (SLOEvaluation.setInvalidated true) (SLOEvaluation.setInvalidated_id true)

def restore (table : Evaluations) (evalId : Nat) : Evaluations :=
  table.update evalId (SLOEvaluation.setInvalidated false) (SLOEvaluation.setInvalidated_id false)

def invalidateMany (table : Evaluations) (evalIds : List Nat) : Evaluations :=
  table.updateWhere (fun row => evalIds.contains row.id) (SLOEvaluation.setInvalidated true)
    (SLOEvaluation.setInvalidated_id true)

def restoreMany (table : Evaluations) (evalIds : List Nat) : Evaluations :=
  table.updateWhere (fun row => evalIds.contains row.id) (SLOEvaluation.setInvalidated false)
    (SLOEvaluation.setInvalidated_id false)

def unpinWhere (table : Evaluations) (condition : SLOEvaluation -> Bool) (now : Instant) :
    Evaluations :=
  table.updateWhere (fun row => condition row && row.isPinned) (SLOEvaluation.setUnpinned now)
    (SLOEvaluation.setUnpinned_id now)

def pinWhere (table : Evaluations) (condition : SLOEvaluation -> Bool) (now : Instant) :
    Evaluations :=
  table.updateWhere condition (SLOEvaluation.setPinned now) (SLOEvaluation.setPinned_id now)

/-- The rows whose active pin `pin_baseline` takes off: those of the series of the
evaluation, unless its SLO name is empty, which counts as absent. -/
def inPinnedSeries (ev row : SLOEvaluation) : Bool :=
  ev.sloName ≠ "" && row.SameSeries ev.assetId ev.sloName

def pinBaseline (table : Evaluations) (evalId : Nat) (now : Instant) : Evaluations :=
  match table.find evalId with
  | none => table
  | some ev => pinWhere (unpinWhere table (inPinnedSeries ev) now) (fun row => row.id = evalId) now

def unpinBaseline (table : Evaluations) (evalId : Nat) (now : Instant) : Evaluations :=
  table.update evalId (SLOEvaluation.setUnpinned now) (SLOEvaluation.setUnpinned_id now)

def keepNewest (kept : List SLOEvaluation) (row : SLOEvaluation) : List SLOEvaluation :=
  match kept.find? fun current => current.SameSeries row.assetId row.sloName with
  | none => kept ++ [row]
  | some current =>
      if current.periodStart < row.periodStart then
        kept.map fun other => if other.SameSeries row.assetId row.sloName then row else other
      else kept

def pinEligible (table : Evaluations) (evalIds : List Nat) : List SLOEvaluation :=
  table.rows.filter fun row => evalIds.contains row.id && row.status = .completed && !row.invalidated

def newestPerGroup (rows : List SLOEvaluation) : List SLOEvaluation :=
  rows.foldl keepNewest []

def inAffectedGroup (table : Evaluations) (pinIds : List Nat) (row : SLOEvaluation) : Bool :=
  table.rows.any fun chosen => pinIds.contains chosen.id && row.SameSeries chosen.assetId chosen.sloName

def pinBaselineMany (table : Evaluations) (evalIds : List Nat) (now : Instant) : Evaluations :=
  let pinIds := (newestPerGroup (pinEligible table evalIds)).map (·.id)
  pinWhere (unpinWhere table (inAffectedGroup table pinIds) now) (fun row => pinIds.contains row.id) now

def unpinBaselineMany (table : Evaluations) (evalIds : List Nat) (now : Instant) : Evaluations :=
  table.updateWhere (fun row => evalIds.contains row.id) (SLOEvaluation.setUnpinned now)
    (SLOEvaluation.setUnpinned_id now)

variable {kept : List SLOEvaluation} {row : SLOEvaluation} {table : Evaluations}

theorem keepNewest_pairwise (row : SLOEvaluation)
    (apart : kept.Pairwise fun first second => ¬ second.SameSeries first.assetId first.sloName) :
    (keepNewest kept row).Pairwise
      fun first second => ¬ second.SameSeries first.assetId first.sloName := by
  unfold keepNewest
  cases found : kept.find? fun current => current.SameSeries row.assetId row.sloName with
  | none =>
      refine List.pairwise_append.mpr ⟨apart, List.pairwise_singleton _ _, ?_⟩
      intro first member second isRow series
      rw [List.mem_singleton.mp isRow] at series
      have refused := List.find?_eq_none.mp found first member
      exact refused (decide_eq_true ⟨series.1.symm, series.2.symm⟩)
  | some current =>
      dsimp only
      split
      · rw [List.pairwise_map]
        refine apart.imp fun {first second} different => ?_
        by_cases firstSame : first.SameSeries row.assetId row.sloName
        · have secondOther : ¬ second.SameSeries row.assetId row.sloName := by
            intro secondSame
            exact different ⟨secondSame.1.trans firstSame.1.symm, secondSame.2.trans firstSame.2.symm⟩
          rw [if_pos firstSame, if_neg secondOther]
          exact secondOther
        · rw [if_neg firstSame]
          by_cases secondSame : second.SameSeries row.assetId row.sloName
          · rw [if_pos secondSame]
            exact fun series => firstSame ⟨series.1.symm, series.2.symm⟩
          · rw [if_neg secondSame]
            exact different
      · exact apart

theorem newestPerGroup_pairwise (rows : List SLOEvaluation) :
    (newestPerGroup rows).Pairwise
      fun first second => ¬ second.SameSeries first.assetId first.sloName := by
  have kept : forall (rest kept : List SLOEvaluation),
      (kept.Pairwise fun first second => ¬ second.SameSeries first.assetId first.sloName) ->
        (rest.foldl keepNewest kept).Pairwise
          fun first second => ¬ second.SameSeries first.assetId first.sloName := by
    intro rest
    induction rest with
    | nil => exact fun _ apart => apart
    | cons head rest ih =>
        exact fun kept apart => ih _ (keepNewest_pairwise head apart)
  exact kept rows [] List.Pairwise.nil

theorem mem_keepNewest {other : SLOEvaluation} (member : other ∈ keepNewest kept row) :
    other ∈ kept ∨ other = row := by
  unfold keepNewest at member
  split at member
  · exact (List.mem_append.mp member).imp id List.mem_singleton.mp
  · split at member
    · rcases List.mem_map.mp member with ⟨old, inside, same⟩
      split at same
      · exact Or.inr same.symm
      · exact Or.inl (same ▸ inside)
    · exact Or.inl member

theorem mem_newestPerGroup {rows : List SLOEvaluation} (member : row ∈ newestPerGroup rows) :
    row ∈ rows := by
  have kept : forall (rest kept : List SLOEvaluation) (row : SLOEvaluation),
      row ∈ rest.foldl keepNewest kept -> row ∈ kept ∨ row ∈ rest := by
    intro rest
    induction rest with
    | nil => exact fun _ _ member => Or.inl member
    | cons head rest ih =>
        intro kept row member
        rcases ih _ row member with inside | later
        · rcases mem_keepNewest inside with old | isHead
          · exact Or.inl old
          · exact Or.inr (isHead ▸ List.mem_cons_self)
        · exact Or.inr (List.mem_cons_of_mem _ later)
  exact (kept rows [] row member).resolve_left List.not_mem_nil

def Apart (table : Evaluations) (evalIds : List Nat) : Prop :=
  forall first, first ∈ table.rows -> forall second, second ∈ table.rows ->
    first.id ∈ evalIds -> second.id ∈ evalIds ->
    second.SameSeries first.assetId first.sloName -> first.id = second.id

theorem newestPerGroup_apart (table : Evaluations) (evalIds : List Nat) :
    Apart table ((newestPerGroup (pinEligible table evalIds)).map (·.id)) := by
  have inNewest : forall row, row ∈ table.rows ->
      row.id ∈ (newestPerGroup (pinEligible table evalIds)).map (·.id) ->
        row ∈ newestPerGroup (pinEligible table evalIds) := by
    intro row member chosen
    rcases List.mem_map.mp chosen with ⟨other, newest, same⟩
    have eligible := (List.mem_filter.mp (mem_newestPerGroup newest)).1
    exact KeyedTable.eq_of_key eligible member same ▸ newest
  intro first firstIn second secondIn firstChosen secondChosen series
  by_contra different
  have symmetric : Std.Symm fun first second : SLOEvaluation =>
      ¬ second.SameSeries first.assetId first.sloName :=
    ⟨fun _ _ apart back => apart ⟨back.1.symm, back.2.symm⟩⟩
  exact (newestPerGroup_pairwise (pinEligible table evalIds)).forall
    (inNewest first firstIn firstChosen) (inNewest second secondIn secondChosen)
    (fun same => different (congrArg _ same)) series

def AtMostOnePin (table : Evaluations) : Prop :=
  forall first, first ∈ table.rows -> forall second, second ∈ table.rows ->
    first.isPinned = true -> second.isPinned = true ->
    second.SameSeries first.assetId first.sloName -> first.id = second.id

instance (table : Evaluations) : Decidable (AtMostOnePin table) :=
  inferInstanceAs (Decidable (forall first, first ∈ table.rows -> forall second, second ∈ table.rows ->
    first.isPinned = true -> second.isPinned = true ->
    second.SameSeries first.assetId first.sloName -> first.id = second.id))

structure SameEvaluation (before row : SLOEvaluation) : Prop where
  id : row.id = before.id
  assetId : row.assetId = before.assetId
  sloName : row.sloName = before.sloName

/-- A change pins the chosen evaluations and takes others off.  At most one is pinned
afterwards when the chosen ones are of different assets or SLOs, and every pin next to
a chosen one is itself chosen or taken off. -/
theorem atMostOnePin_of_old {first second : Evaluations} (chosen taken : SLOEvaluation -> Prop)
    (once : AtMostOnePin first)
    (old : forall row, row ∈ second.rows -> row.isPinned = true ->
      Exists fun before => before ∈ first.rows ∧ SameEvaluation before row ∧
        (chosen before ∨ (before.isPinned = true ∧ ¬ taken before)))
    (apart : forall one, one ∈ first.rows -> forall two, two ∈ first.rows -> chosen one ->
      chosen two -> two.SameSeries one.assetId one.sloName -> one.id = two.id)
    (covers : forall one, one ∈ first.rows -> chosen one -> forall row, row ∈ first.rows ->
      row.isPinned = true -> row.SameSeries one.assetId one.sloName -> chosen row ∨ taken row) :
    AtMostOnePin second := by
  have alsoChosen : forall one two, one ∈ first.rows -> two ∈ first.rows -> chosen one ->
      two.isPinned = true ∧ ¬ taken two -> two.SameSeries one.assetId one.sloName -> chosen two := by
    intro one two oneIn twoIn isChosen stays series
    exact (covers one oneIn isChosen two twoIn stays.1 series).resolve_right stays.2
  intro newOne newOneIn newTwo newTwoIn onePinned twoPinned series
  rcases old newOne newOneIn onePinned with ⟨one, oneIn, sameOne, oneCase⟩
  rcases old newTwo newTwoIn twoPinned with ⟨two, twoIn, sameTwo, twoCase⟩
  unfold SLOEvaluation.SameSeries at series
  rw [sameOne.assetId, sameOne.sloName, sameTwo.assetId, sameTwo.sloName] at series
  rw [sameOne.id, sameTwo.id]
  have back : one.SameSeries two.assetId two.sloName := ⟨series.1.symm, series.2.symm⟩
  rcases oneCase with oneChosen | oneStays
  · rcases twoCase with twoChosen | twoStays
    · exact apart one oneIn two twoIn oneChosen twoChosen series
    · have twoChosen := alsoChosen one two oneIn twoIn oneChosen twoStays series
      exact apart one oneIn two twoIn oneChosen twoChosen series
  · rcases twoCase with twoChosen | twoStays
    · have oneChosen := alsoChosen two one twoIn oneIn twoChosen oneStays back
      exact apart one oneIn two twoIn oneChosen twoChosen series
    · exact once one oneIn two twoIn oneStays.1 twoStays.1 series

def activePins (table : Evaluations) (assetId : Nat) (sloName : String) : List SLOEvaluation :=
  table.rows.filter fun row => row.SameSeries assetId sloName && row.isPinned

theorem mem_activePins {assetId : Nat} {sloName : String} :
    row ∈ activePins table assetId sloName ↔
      row ∈ table.rows ∧ row.SameSeries assetId sloName ∧ row.isPinned = true := by
  unfold activePins
  rw [List.mem_filter, Bool.and_eq_true, decide_eq_true_eq]

theorem activePins_of_atMostOne (once : AtMostOnePin table) (assetId : Nat) (sloName : String) :
    activePins table assetId sloName = [] ∨
      Exists fun ev => activePins table assetId sloName = [ev] := by
  cases found : activePins table assetId sloName with
  | nil => exact Or.inl rfl
  | cons first rest =>
      cases rest with
      | nil => exact Or.inr ⟨first, rfl⟩
      | cons second rest =>
          have distinct : ((activePins table assetId sloName).map SLOEvaluation.id).Nodup :=
            (List.filter_sublist.map SLOEvaluation.id).nodup table.nodup
          rw [found, List.map_cons, List.map_cons, List.nodup_cons] at distinct
          have one : first ∈ activePins table assetId sloName := found ▸ List.mem_cons_self
          have two : second ∈ activePins table assetId sloName :=
            found ▸ List.mem_cons_of_mem _ List.mem_cons_self
          rcases mem_activePins.mp one with ⟨firstIn, firstSeries, firstPinned⟩
          rcases mem_activePins.mp two with ⟨secondIn, secondSeries, secondPinned⟩
          have same := once first firstIn second secondIn firstPinned secondPinned
            ⟨secondSeries.1.trans firstSeries.1.symm, secondSeries.2.trans firstSeries.2.symm⟩
          exact absurd (same ▸ List.mem_cons_self) distinct.1

theorem getActivePin_eq (table : Evaluations) (assetId : Nat) (sloName : String) :
    getActivePin table assetId sloName =
      match activePins table assetId sloName with
      | [] => some none
      | [row] => some (some (row.periodStart, row.id))
      | _ => none :=
  rfl

theorem getActivePin_of_atMostOne (once : AtMostOnePin table) (assetId : Nat) (sloName : String) :
    getActivePin table assetId sloName ≠ none := by
  rw [getActivePin_eq]
  rcases activePins_of_atMostOne once assetId sloName with empty | ⟨ev, single⟩
  · rw [empty]
    exact Option.some_ne_none _
  · rw [single]
    exact Option.some_ne_none _

end Store
end Tropek
