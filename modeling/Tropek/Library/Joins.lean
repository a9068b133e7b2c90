import Mathlib.Algebra.BigOperators.Group.List.Basic
import Mathlib.Algebra.BigOperators.Group.List.Lemmas
import Mathlib.Algebra.Order.BigOperators.Group.List
import Mathlib.Data.List.Flatten
import Mathlib.Data.List.Nodup

namespace Tropek
namespace Library

/-!
# Sums over joined tables

An inner join lists, for each row of one table, the rows of the other one that
match it.  A sum over the join counts a row as often as it is matched, so that it
is a sum over the matched rows when no row is matched twice.  A sum of
nonnegative amounts over some of the rows is the whole sum exactly when the rows
that are left out have nothing.

A table is also the rows of its keys one after the other, up to the order.
-/

namespace Joins

variable {Row Value Key Amount : Type}

section Sums

variable [AddCommMonoid Amount]

theorem sum_filter (selected : Row -> Bool) (amount : Row -> Amount) (rows : List Row) :
    ((rows.filter selected).map amount).sum =
      (rows.map fun row => if selected row then amount row else 0).sum := by
  induction rows with
  | nil => rfl
  | cons row rest ih =>
      by_cases isSelected : selected row = true <;>
        simp [isSelected, ih]

/-- Each row of the join counts as often as it is matched. -/
theorem sum_join (values : List Value) (rows : List Row) (joins : Value -> Row -> Bool)
    (amount : Row -> Amount) :
    ((values.flatMap fun value => rows.filter (joins value)).map amount).sum =
      (rows.map fun row => values.countP (joins · row) • amount row).sum := by
  induction values with
  | nil => simp
  | cons value others ih =>
      rw [List.flatMap_cons, List.map_append, List.sum_append, sum_filter, ih,
        <- List.sum_map_add]
      refine congrArg List.sum (List.map_congr_left fun row _ => ?_)
      by_cases matched : joins value row = true
      · rw [if_pos matched, List.countP_cons, if_pos matched, add_nsmul, one_nsmul, add_comm]
      · simp [matched]

/-- When no row is matched twice, the join is summed over the matched rows. -/
theorem sum_join_once {values : List Value} (rows : List Row) (joins : Value -> Row -> Bool)
    (once : forall row, row ∈ rows -> values.countP (joins · row) ≤ 1) (amount : Row -> Amount) :
    ((values.flatMap fun value => rows.filter (joins value)).map amount).sum =
      ((rows.filter fun row => values.any (joins · row)).map amount).sum := by
  rw [sum_join, sum_filter]
  refine congrArg List.sum (List.map_congr_left fun row member => ?_)
  by_cases matched : values.any (joins · row) = true
  · have some : 0 < values.countP (joins · row) := by
      rw [List.countP_pos_iff]
      simpa using matched
    have one : values.countP (joins · row) = 1 := by
      have atMost := once row member
      omega
    rw [if_pos matched, one, one_nsmul]
  · have none : values.countP (joins · row) = 0 := by
      rw [List.countP_eq_zero]
      simpa using matched
    simp [matched, none]

theorem sum_filter_add (selected : Row -> Bool) (amount : Row -> Amount) (rows : List Row) :
    ((rows.filter selected).map amount).sum + ((rows.filter (!selected ·)).map amount).sum =
      (rows.map amount).sum := by
  rw [<- List.sum_append, <- List.map_append]
  exact ((List.filter_append_perm selected rows).map amount).sum_eq

end Sums

section Nonnegative

variable [AddCommGroup Amount] [LinearOrder Amount] [IsOrderedAddMonoid Amount]

variable {amount : Row -> Amount} {rows : List Row}

section

variable (nonneg : forall row, row ∈ rows -> 0 ≤ amount row)

include nonneg

theorem sum_nonneg : 0 ≤ (rows.map amount).sum := by
  apply List.sum_nonneg
  intro value member
  rcases List.mem_map.mp member with ⟨row, inside, same⟩
  exact same ▸ nonneg row inside

/-- Nonnegative amounts sum to zero only when each of them is zero. -/
theorem sum_eq_zero_iff : (rows.map amount).sum = 0 ↔ forall row, row ∈ rows -> amount row = 0 := by
  induction rows with
  | nil => simp
  | cons row rest ih =>
      have restNonneg : forall other, other ∈ rest -> 0 ≤ amount other :=
        fun other member => nonneg other (List.mem_cons_of_mem _ member)
      rw [List.map_cons, List.sum_cons, List.forall_mem_cons, <- ih restNonneg]
      exact add_eq_zero_iff_of_nonneg (nonneg row List.mem_cons_self) (sum_nonneg restNonneg)

theorem sum_filter_le (selected : Row -> Bool) :
    ((rows.filter selected).map amount).sum ≤ (rows.map amount).sum := by
  rw [<- sum_filter_add selected amount rows]
  exact le_add_of_nonneg_right (sum_nonneg fun row member =>
    nonneg row (List.mem_of_mem_filter member))

/-- The selected rows have the whole sum exactly when the others have nothing. -/
theorem sum_filter_eq_iff (selected : Row -> Bool) :
    ((rows.filter selected).map amount).sum = (rows.map amount).sum ↔
      forall row, row ∈ rows -> amount row ≠ 0 -> selected row = true := by
  rw [<- sum_filter_add selected amount rows, left_eq_add, sum_eq_zero_iff fun row member =>
    nonneg row (List.mem_of_mem_filter member)]
  constructor
  · intro others row member nonzero
    by_contra unselected
    refine nonzero (others row (List.mem_filter.mpr ⟨member, ?_⟩))
    simpa using unselected
  · intro covered row member
    rcases List.mem_filter.mp member with ⟨inside, unselected⟩
    by_contra nonzero
    rw [covered row inside nonzero] at unselected
    cases unselected

end

end Nonnegative

/-- The rows of each key one after the other are the table, up to the order. -/
theorem perm_byKey [DecidableEq Key] (key : Row -> Key) {keys : List Key} (nodup : keys.Nodup)
    {rows : List Row} (covered : forall row, row ∈ rows -> key row ∈ keys) :
    (keys.flatMap fun wanted => rows.filter fun row => key row = wanted).Perm rows := by
  induction keys generalizing rows with
  | nil =>
      cases rows with
      | nil => exact List.Perm.refl _
      | cons row rest => exact absurd (covered row List.mem_cons_self) List.not_mem_nil
  | cons first others ih =>
      rcases List.nodup_cons.mp nodup with ⟨absent, distinct⟩
      have later : forall row, row ∈ rows.filter (fun row => !decide (key row = first)) ->
          key row ∈ others := by
        intro row member
        rcases List.mem_filter.mp member with ⟨inside, different⟩
        rcases List.mem_cons.mp (covered row inside) with same | listed
        · rw [same] at different
          simp at different
        · exact listed
      have narrowed : (others.flatMap fun wanted => rows.filter fun row => key row = wanted) =
          others.flatMap fun wanted =>
            (rows.filter fun row => !decide (key row = first)).filter fun row => key row = wanted := by
        refine List.flatMap_congr fun wanted member => ?_
        rw [List.filter_filter]
        refine List.filter_congr fun row _ => ?_
        by_cases same : key row = wanted
        · have different : wanted ≠ first := fun isFirst => absent (isFirst ▸ member)
          simp [same, different]
        · simp [same]
      rw [List.flatMap_cons, narrowed]
      exact ((ih distinct later).append_left _).trans
        (List.filter_append_perm (fun row => decide (key row = first)) rows)

end Joins

end Library
end Tropek
