import Mathlib.Data.List.Find
import Mathlib.Data.Rat.Defs
import Mathlib.Tactic.Linarith
import Mathlib.Tactic.NormNum
import Tropek.Library.FirstFit

namespace Tropek
namespace Ui

open Library

/-!
# The rows of the note labels

The labels of the notes stand above a chart in at most three rows.  They are placed from
left to right by the points that they belong to, each in the first row in which it has
room behind the last label.

A label is centred at its point, so a wide label may begin before an earlier narrow one.
First fit then takes more rows than are needed.
-/

def minLabelGapPx : ℚ :=
  2

def maxRows : Nat :=
  3

def gridLeftPx : ℚ :=
  56

def gridRightPx : ℚ :=
  16

def labelEdgeInsetPx : ℚ :=
  2

structure PackItem where
  pixelX : ℚ
  labelWidth : ℚ
deriving DecidableEq, Repr

def pixelXForIndex (index numPoints : Nat) (chartWidth : ℚ) : ℚ :=
  if numPoints ≤ 1 then gridLeftPx
  else gridLeftPx + index * max (chartWidth - gridLeftPx - gridRightPx) 1 / (numPoints - 1 : Nat)

def clampLabelX (pixelX labelWidth chartWidth : ℚ) : ℚ :=
  let halfLabel := labelWidth / 2
  let minX := halfLabel + labelEdgeInsetPx
  let maxX := max (chartWidth - halfLabel - labelEdgeInsetPx) minX
  min (max pixelX minX) maxX

def preparePills (numPoints : Nat) (chartWidth : ℚ) (labelWidths : List (Nat × ℚ)) :
    List PackItem :=
  labelWidths.map fun label =>
    { pixelX := clampLabelX (pixelXForIndex label.1 numPoints chartWidth) label.2 chartWidth
      labelWidth := label.2 }

def PackItem.leftEdge (item : PackItem) : ℚ :=
  item.pixelX - item.labelWidth / 2

def PackItem.rightEdge (item : PackItem) : ℚ :=
  item.pixelX + item.labelWidth / 2

/-- `leftEdge - lastRight >= MIN_LABEL_GAP_PX`, where an empty row ends at minus infinity. -/
def hasRoom (item : PackItem) (lastRight : Option ℚ) : Bool :=
  lastRight.all fun right => minLabelGapPx ≤ item.leftEdge - right

def placeRow (item : PackItem) (lastRightByRow : List (Option ℚ)) : Option Nat :=
  (List.range lastRightByRow.length).find? fun row =>
    hasRoom item (lastRightByRow.getD row none)

def tryPackLoop (lastRightByRow : List (Option ℚ)) : List PackItem -> Option (List Nat)
  | [] => some []
  | item :: rest =>
      (placeRow item lastRightByRow).bind fun row =>
        (tryPackLoop (lastRightByRow.set row (some item.rightEdge)) rest).map (row :: ·)

def tryPack (items : List PackItem) (rowCount : Nat) : Option (List Nat) :=
  tryPackLoop (List.replicate rowCount none) items

def alternatingRows (items : List PackItem) : List Nat :=
  (List.range items.length).map (· % maxRows)

def packRows (items : List PackItem) : List Nat :=
  ((List.range maxRows).findSome? fun rows => tryPack items (rows + 1)).getD (alternatingRows items)

def Follows (first second : PackItem) : Prop :=
  minLabelGapPx ≤ second.leftEdge - first.rightEdge

instance : DecidableRel Follows := fun first second =>
  inferInstanceAs (Decidable (minLabelGapPx ≤ second.leftEdge - first.rightEdge))

def Apart (first second : PackItem) : Prop :=
  Follows first second ∨ Follows second first

instance : DecidableRel Apart := fun first second =>
  inferInstanceAs (Decidable (Follows first second ∨ Follows second first))

structure Fits (items : List PackItem) (rows : List Nat) (rowCount : Nat) : Prop where
  length : rows.length = items.length
  bound : forall row, row ∈ rows -> row < rowCount
  apart : (items.zip rows).Pairwise fun first second =>
    first.2 = second.2 -> Apart first.1 second.1

def Least (items : List PackItem) (rowCount : Nat) : Prop :=
  forall rows count, Fits items rows count -> rowCount ≤ count

def Optimal (items : List PackItem) (rows : List Nat) : Prop :=
  Exists fun rowCount => Fits items rows rowCount ∧ Least items rowCount

def Feasible (items : List PackItem) : Prop :=
  Exists fun rows => Fits items rows maxRows

abbrev Stacked (items : List PackItem) (rows : List Nat) (rowCount : Nat) : Prop :=
  FirstFit.Stacked Follows rowCount [] items rows

variable {rowCount : Nat} {items : List PackItem} {rows : List Nat}
  {earlier : List (PackItem × Nat)} {lastRightByRow : List (Option ℚ)}

theorem Fits.mono {more : Nat} (fits : Fits items rows rowCount) (atMost : rowCount ≤ more) :
    Fits items rows more :=
  ⟨fits.length, fun row member => (fits.bound row member).trans_le atMost, fits.apart⟩

theorem stacked_bound {row : Nat} (stacked : Stacked items rows rowCount) (member : row ∈ rows) :
    row < rowCount := by
  have listed : row ∈ (items.zip rows).map Prod.snd := by
    rwa [List.map_snd_zip stacked.length.le]
  rcases List.mem_map.mp listed with ⟨entry, inside, rfl⟩
  rcases List.append_of_mem inside with ⟨before, after, split⟩
  exact (stacked.rests before entry after split).bound

theorem stacked_fits (stacked : Stacked items rows rowCount) : Fits items rows rowCount :=
  ⟨stacked.length, fun _ member => stacked_bound stacked member,
    (stacked.pairwise Follows).imp fun follows same => Or.inl (follows same)⟩

theorem stacked_of_bound {fewer : Nat} (stacked : Stacked items rows rowCount)
    (bound : forall row, row ∈ rows -> row < fewer) : Stacked items rows fewer := by
  refine ⟨stacked.length, fun before entry after split => ?_⟩
  have rests := stacked.rests before entry after split
  have member : entry ∈ items.zip rows := split ▸ List.mem_append_right _ List.mem_cons_self
  exact ⟨bound _ (List.of_mem_zip member).2, rests.above, rests.blocked⟩

structure Tracks (lastRightByRow : List (Option ℚ)) (earlier : List (PackItem × Nat)) : Prop where
  room : forall item row, row < lastRightByRow.length ->
    hasRoom item (lastRightByRow.getD row none) = FirstFit.rowFree Follows earlier item row

theorem tracks_empty (rowCount : Nat) : Tracks (List.replicate rowCount none) [] := by
  constructor
  intro item row inRange
  rw [List.length_replicate] at inRange
  simp [FirstFit.rowFree, hasRoom, inRange]

theorem Follows.trans {first second third : PackItem} (nonneg : 0 ≤ second.labelWidth)
    (earlier : Follows first second) (later : Follows second third) : Follows first third := by
  unfold Follows PackItem.leftEdge PackItem.rightEdge minLabelGapPx at *
  linarith

theorem hasRoom_some (item : PackItem) (placed : PackItem) :
    hasRoom item (some placed.rightEdge) = decide (Follows placed item) := rfl

theorem Tracks.place (tracks : Tracks lastRightByRow earlier) {placed : PackItem}
    (nonneg : 0 ≤ placed.labelWidth) {row : Nat} (inRange : row < lastRightByRow.length)
    (free : FirstFit.rowFree Follows earlier placed row = true) :
    Tracks (lastRightByRow.set row (some placed.rightEdge)) (earlier ++ [(placed, row)]) := by
  constructor
  intro item other otherInRange
  rw [List.length_set] at otherInRange
  have grown : FirstFit.rowFree Follows (earlier ++ [(placed, row)]) item other =
      (FirstFit.rowFree Follows earlier item other &&
        (decide (row ≠ other) || decide (Follows placed item))) := by
    unfold FirstFit.rowFree
    rw [List.all_append]
    simp
  rw [grown]
  by_cases same : row = other
  · subst same
    rw [List.getD_eq_getElem?_getD, List.getElem?_set_self inRange, Option.getD_some, hasRoom_some]
    rw [decide_eq_false (not_not.mpr rfl), Bool.false_or, Bool.eq_iff_iff, Bool.and_eq_true]
    refine ⟨fun follows => ⟨?_, follows⟩, And.right⟩
    rw [FirstFit.rowFree_iff] at free ⊢
    exact fun before member inRow =>
      (free before member inRow).trans nonneg (of_decide_eq_true follows)
  · rw [List.getD_eq_getElem?_getD, List.getElem?_set_ne same, <- List.getD_eq_getElem?_getD,
      tracks.room item other otherInRange]
    simp [same]

theorem tryPackLoop_eq_pack (nonneg : forall item, item ∈ items -> 0 ≤ item.labelWidth)
    (tracks : Tracks lastRightByRow earlier) :
    tryPackLoop lastRightByRow items =
      FirstFit.pack Follows lastRightByRow.length earlier items := by
  induction items generalizing lastRightByRow earlier with
  | nil => rfl
  | cons item rest ih =>
      have samePlace : placeRow item lastRightByRow =
          FirstFit.place Follows lastRightByRow.length earlier item := by
        unfold placeRow FirstFit.place
        refine List.find?_congr fun row member => ?_
        exact tracks.room item row (List.mem_range.mp member)
      unfold tryPackLoop FirstFit.pack
      rw [samePlace]
      cases placed : FirstFit.place Follows lastRightByRow.length earlier item with
      | none => rfl
      | some row =>
          have rests := (FirstFit.place_eq_some Follows).mp placed
          have free := (FirstFit.rowFree_iff Follows).mpr rests.above
          have later := ih
            (fun other member => nonneg other (List.mem_cons_of_mem _ member))
            (tracks.place (nonneg item List.mem_cons_self) rests.bound free)
          rw [List.length_set] at later
          rw [Option.bind_some, Option.bind_some, later]

section Packing

variable {items : List PackItem} (nonneg : forall item, item ∈ items -> 0 ≤ item.labelWidth)

include nonneg

theorem tryPack_eq_pack (rowCount : Nat) :
    tryPack items rowCount = FirstFit.pack Follows rowCount [] items := by
  unfold tryPack
  rw [tryPackLoop_eq_pack nonneg (tracks_empty rowCount), List.length_replicate]

theorem tryPack_eq_some {rowCount : Nat} {rows : List Nat} :
    tryPack items rowCount = some rows ↔ Stacked items rows rowCount := by
  rw [tryPack_eq_pack nonneg, FirstFit.pack_eq_some]

theorem packRows_cases :
    (Exists fun rowCount => 0 < rowCount ∧ rowCount ≤ maxRows ∧
        Stacked items (packRows items) rowCount ∧
        forall fewer rows, 0 < fewer -> fewer < rowCount -> ¬ Stacked items rows fewer) ∨
      (packRows items = alternatingRows items ∧
        forall rowCount rows, 0 < rowCount -> rowCount ≤ maxRows -> ¬ Stacked items rows rowCount) := by
  unfold packRows
  cases found : (List.range maxRows).findSome? fun rows => tryPack items (rows + 1) with
  | none =>
      refine Or.inr ⟨rfl, fun rowCount rows positive atMost stacked => ?_⟩
      have failed := List.findSome?_eq_none_iff.mp found (rowCount - 1)
        (List.mem_range.mpr (by omega))
      rw [Nat.sub_add_cancel positive, (tryPack_eq_some nonneg).mpr stacked] at failed
      cases failed
  | some rows =>
      rcases List.findSome?_eq_some_iff.mp found with ⟨before, count, after, split, here, failed⟩
      have isCount : before = List.range count ∧ count < maxRows := by
        have lengths := congrArg List.length split
        have inRange : before.length < (List.range maxRows).length := by
          rw [split, List.length_append, List.length_cons]
          omega
        have isCount : (List.range maxRows)[before.length]? = some count := by
          rw [split]
          simp
        rw [List.length_range] at inRange
        rw [List.getElem?_range inRange, Option.some.injEq] at isCount
        refine ⟨?_, isCount ▸ inRange⟩
        have prefixes := congrArg (List.take before.length) split
        rw [List.take_left, List.take_range, min_eq_left inRange.le, isCount] at prefixes
        exact prefixes.symm
      refine Or.inl ⟨count + 1, Nat.succ_pos _, isCount.2, (tryPack_eq_some nonneg).mp here, ?_⟩
      intro fewer other positive less stacked
      have member : fewer - 1 ∈ before := by
        rw [isCount.1]
        exact List.mem_range.mpr (by omega)
      have none := failed (fewer - 1) member
      rw [Nat.sub_add_cancel positive, (tryPack_eq_some nonneg).mpr stacked] at none
      cases none

omit nonneg in
theorem alternating_uses_all
    (none : forall rows, ¬ Stacked items rows maxRows) : 2 ∈ alternatingRows items := by
  have many : maxRows < items.length := by
    by_contra few
    have enough : ([] : List (PackItem × Nat)).length + items.length ≤ maxRows := by
      rw [List.length_nil, Nat.zero_add]
      exact not_lt.mp few
    rcases Option.isSome_iff_exists.mp (FirstFit.pack_isSome Follows enough) with ⟨rows, packed⟩
    exact none rows ((FirstFit.pack_eq_some Follows).mp packed)
  have inRange : 2 < items.length := by
    change 3 < items.length at many
    omega
  exact List.mem_map.mpr ⟨2, List.mem_range.mpr inRange, rfl⟩

end Packing

/-- If three rows are enough, the least number of rows has a stacked assignment, or three
rows are needed and taking them in turn keeps the pills apart. -/
def Stackable (items : List PackItem) : Prop :=
  Feasible items ->
    (Exists fun rows => Exists fun rowCount => Stacked items rows rowCount ∧ Least items rowCount) ∨
      (Fits items (alternatingRows items) maxRows ∧ Least items maxRows)

/-- When three rows are enough, the pills are packed into as few rows as possible exactly if
first fit can find such an assignment, or the rows in turn happen to be one. -/
theorem packRows_optimal_iff {items : List PackItem}
    (nonneg : forall item, item ∈ items -> 0 ≤ item.labelWidth) :
    (Feasible items -> Optimal items (packRows items)) ↔ Stackable items := by
  refine imp_congr_right fun feasible => ?_
  rcases feasible with ⟨feasibleRows, feasibleFits⟩
  constructor
  · rintro ⟨rowCount, fits, least⟩
    rcases packRows_cases nonneg with ⟨_, _, _, stacked, _⟩ | ⟨inTurn, none⟩
    · exact Or.inl ⟨packRows items, rowCount, stacked_of_bound stacked fits.bound, least⟩
    · have uses := alternating_uses_all fun rows => none maxRows rows (by decide) le_rfl
      rw [inTurn] at fits
      have bounded := fits.bound 2 uses
      have isThree : rowCount = maxRows := le_antisymm (least feasibleRows maxRows feasibleFits) bounded
      exact Or.inr (isThree ▸ ⟨fits, least⟩)
  · rintro (⟨rows, rowCount, stacked, least⟩ | ⟨fits, least⟩)
    · have atMost := least feasibleRows maxRows feasibleFits
      rcases Nat.eq_zero_or_pos rowCount with rfl | positive
      · have noRows : rows = [] :=
          List.eq_nil_iff_forall_not_mem.mpr fun row member =>
            Nat.not_lt_zero row (stacked_bound stacked member)
        subst noRows
        have noItems : items = [] := List.eq_nil_of_length_eq_zero stacked.length.symm
        subst noItems
        exact ⟨0, stacked_fits stacked, least⟩
      · rcases packRows_cases nonneg with ⟨count, _, _, found, first⟩ | ⟨_, none⟩
        · have notEarlier : count ≤ rowCount :=
            not_lt.mp fun earlier => first rowCount rows positive earlier stacked
          have isLeast : rowCount ≤ count := least _ count (stacked_fits found)
          exact ⟨count, stacked_fits found, le_antisymm isLeast notEarlier ▸ least⟩
        · exact absurd stacked (none rowCount rows positive atMost)
    · rcases packRows_cases nonneg with ⟨count, _, atMost, found, _⟩ | ⟨inTurn, _⟩
      · have isThree : count = maxRows := le_antisymm atMost (least _ count (stacked_fits found))
        exact ⟨count, stacked_fits found, isThree ▸ least⟩
      · exact ⟨maxRows, inTurn.symm ▸ fits, least⟩

/-- Four labels of a chart with a hundred and one points, the last of which is wide. -/
def wideAfterNarrow : List PackItem :=
  preparePills 101 1072 [(15, 100), (24, 100), (33, 30), (36, 160)]

/-- First fit needs a third row for the wide label, though two rows are enough. -/
theorem wideAfterNarrow_notOptimal :
    wideAfterNarrow.Pairwise (fun first second => first.pixelX ≤ second.pixelX) ∧
      Feasible wideAfterNarrow ∧ ¬ Optimal wideAfterNarrow (packRows wideAfterNarrow) := by
  have two : Fits wideAfterNarrow [0, 1, 1, 0] 2 := ⟨rfl, by decide, by decide +kernel⟩
  refine ⟨by decide +kernel, ⟨_, two.mono (by decide)⟩, ?_⟩
  rintro ⟨rowCount, fits, least⟩
  have isPacked : packRows wideAfterNarrow = [0, 1, 0, 2] := by decide +kernel
  rw [isPacked] at fits
  have uses := fits.bound 2 (by decide)
  have atMost := least _ 2 two
  omega

def wideBesideNarrow : List PackItem :=
  preparePills 101 1072 [(15, 100), (24, 100), (33, 30), (46, 160)]

/-- First fit stacks them in two rows, and the first two do not fit into one. -/
theorem wideBesideNarrow_optimal : Optimal wideBesideNarrow (packRows wideBesideNarrow) := by
  have nonneg : forall item, item ∈ wideBesideNarrow -> 0 ≤ item.labelWidth := by
    decide +kernel
  have stacked : Stacked wideBesideNarrow [0, 1, 0, 0] 2 :=
    (tryPack_eq_some nonneg).mp (by decide +kernel)
  have least : Least wideBesideNarrow 2 := by
    intro rows count fits
    by_contra few
    rcases rows with _ | ⟨first, _ | ⟨second, rest⟩⟩
    · exact absurd fits.length (by decide)
    · exact absurd (Nat.succ.inj fits.length) (by decide)
    · have firstBound := fits.bound first List.mem_cons_self
      have secondBound := fits.bound second (List.mem_cons_of_mem first List.mem_cons_self)
      have overlap : ¬ Apart (wideBesideNarrow.getD 0 ⟨0, 0⟩) (wideBesideNarrow.getD 1 ⟨0, 0⟩) := by
        decide +kernel
      have apart := (List.pairwise_cons.mp fits.apart).1 (_, second) List.mem_cons_self
      exact overlap (apart (by omega))
  exact (packRows_optimal_iff nonneg).mpr (fun _ => Or.inl ⟨_, 2, stacked, least⟩)
    ⟨_, (stacked_fits stacked).mono (by decide)⟩

end Ui
end Tropek
