import Mathlib.Data.List.Forall2
import Mathlib.Data.List.Sort

namespace Tropek
namespace Library

/-!
# Order statistics

The sorted list of some values does not depend on their order, and grows at every place
when the values grow.  So does what is read from it at a fixed place.
-/

namespace OrderStatistics

variable {Value : Type} [LinearOrder Value]

/-- The values in ascending order. -/
abbrev ascending (values : List Value) : List Value :=
  values.insertionSort (· ≤ ·)

variable {second first values : List Value} {value : Value}

theorem ascending_of_perm (same : first.Perm second) : ascending first = ascending second :=
  List.Perm.eq_of_pairwise' (List.pairwise_insertionSort _ _) (List.pairwise_insertionSort _ _)
    ((List.perm_insertionSort _ _).trans (same.trans (List.perm_insertionSort _ _).symm))

theorem mem_ascending : value ∈ ascending values ↔ value ∈ values :=
  List.mem_insertionSort _

/-- A value that is not above the first one goes in front. -/
theorem insert_first (least : forall other, other ∈ values -> value ≤ other) :
    values.orderedInsert (· ≤ ·) value = value :: values := by
  cases values with
  | nil => rfl
  | cons head tail => exact List.orderedInsert_cons_of_le _ tail (least head List.mem_cons_self)

/-- Inserting a larger value into a larger sorted list. -/
theorem orderedInsert_mono (grows : List.Forall₂ (· ≤ ·) first second)
    (sorted : first.Pairwise (· ≤ ·)) (sortedSecond : second.Pairwise (· ≤ ·)) {larger : Value}
    (atMost : value ≤ larger) :
    List.Forall₂ (· ≤ ·) (first.orderedInsert (· ≤ ·) value)
      (second.orderedInsert (· ≤ ·) larger) := by
  induction grows generalizing value larger with
  | nil => exact .cons atMost .nil
  | @cons head other tail others headGrows tailGrows ih =>
      rw [List.pairwise_cons] at sorted sortedSecond
      have inner : forall {low high : Value}, low ≤ high ->
          List.Forall₂ (· ≤ ·) (tail.orderedInsert (· ≤ ·) low)
            (others.orderedInsert (· ≤ ·) high) :=
        fun below => ih sorted.2 sortedSecond.2 below
      simp only [List.orderedInsert_cons]
      by_cases isFirst : value ≤ head
      · rw [if_pos isFirst]
        by_cases isOther : larger ≤ other
        · rw [if_pos isOther]
          exact .cons atMost (.cons headGrows tailGrows)
        · rw [if_neg isOther]
          have behind := inner (headGrows.trans (not_le.mp isOther).le)
          rw [insert_first sorted.1] at behind
          exact .cons (isFirst.trans headGrows) behind
      · rw [if_neg isFirst]
        by_cases isOther : larger ≤ other
        · rw [if_pos isOther]
          have behind := inner (atMost.trans isOther)
          rw [insert_first sortedSecond.1] at behind
          exact .cons ((not_le.mp isFirst).le.trans atMost) behind
        · rw [if_neg isOther]
          exact .cons headGrows (inner atMost)

/-- Larger values, larger order statistics. -/
theorem ascending_mono (grows : List.Forall₂ (· ≤ ·) first second) :
    List.Forall₂ (· ≤ ·) (ascending first) (ascending second) := by
  induction grows with
  | nil => exact .nil
  | cons headGrows _ ih =>
      exact orderedInsert_mono ih (List.pairwise_insertionSort _ _)
        (List.pairwise_insertionSort _ _) headGrows

omit [LinearOrder Value] in
/-- What stands at one place of two related lists is related. -/
theorem related_at {related : Value -> Value -> Prop} {first second : List Value}
    (alike : List.Forall₂ related first second) {index : Nat} {value other : Value}
    (here : first[index]? = some value) (there : second[index]? = some other) :
    related value other := by
  induction alike generalizing index with
  | nil => cases here
  | cons headAlike _ ih =>
      cases index with
      | zero =>
          cases here
          cases there
          exact headAlike
      | succ index => exact ih here there

/-- A sorted list does not decrease. -/
theorem sorted_at (sorted : values.Pairwise (· ≤ ·)) {index later : Nat} (ordered : index ≤ later)
    {other : Value} (here : values[index]? = some value) (there : values[later]? = some other) :
    value ≤ other := by
  rcases ordered.eq_or_lt with rfl | before
  · rw [here, Option.some.injEq] at there
    exact there.le
  · rcases List.getElem?_eq_some_iff.mp here with ⟨inside, isValue⟩
    rcases List.getElem?_eq_some_iff.mp there with ⟨alsoInside, isOther⟩
    have pair := List.pairwise_iff_getElem.mp sorted index later inside alsoInside before
    rwa [isValue, isOther] at pair

end OrderStatistics

end Library
end Tropek
