import Tropek.Library.Latest

namespace Tropek
namespace Library

/-!
# Thinning a stream of items

Items arrive one by one and are compared with a reference.  An item that continues
the reference is passed over.  Any other item is kept, and it becomes the reference
when it is newer.  The reference is thus the newest of a starting value and the
items that have been kept so far, which is what `ORDER BY time DESC LIMIT 1` gives
when the kept items are appended to a table.
-/

namespace Thinning

variable {Reference Item : Type} (time : Reference -> Int) (referenceOf : Item -> Reference)
  (continues : Reference -> Item -> Bool)

/-- The reference after an item has been kept. -/
def advance (reference : Option Reference) (item : Item) : Option Reference :=
  match reference with
  | none => some (referenceOf item)
  | some current =>
      if time current < time (referenceOf item) then some (referenceOf item) else some current

/-- Without a reference no item is passed over. -/
def passesOver (reference : Option Reference) (item : Item) : Bool :=
  reference.any fun current => continues current item

/-- The items that are kept, from a starting reference on. -/
def kept (reference : Option Reference) : List Item -> List Item
  | [] => []
  | item :: rest =>
      if passesOver continues reference item then kept reference rest
      else item :: kept (advance time referenceOf reference item) rest

/-- The reference at the end. -/
def final (reference : Option Reference) (items : List Item) : Option Reference :=
  (kept time referenceOf continues reference items).foldl (advance time referenceOf) reference

section Rules

variable {time : Reference -> Int} {referenceOf : Item -> Reference}
  {continues : Reference -> Item -> Bool}

theorem kept_cons_of_passesOver {reference : Option Reference} {item : Item}
    (passed : passesOver continues reference item = true) (rest : List Item) :
    kept time referenceOf continues reference (item :: rest) =
      kept time referenceOf continues reference rest :=
  if_pos passed

theorem kept_cons_of_departs {reference : Option Reference} {item : Item}
    (departs : passesOver continues reference item = false) (rest : List Item) :
    kept time referenceOf continues reference (item :: rest) =
      item :: kept time referenceOf continues (advance time referenceOf reference item) rest := by
  have notPassed : ¬ passesOver continues reference item = true := Bool.eq_false_iff.mp departs
  exact if_neg notPassed

end Rules

end Thinning

namespace Latest

variable {Row : Type} (time : Row -> Int)

theorem head?_orderedInsert (row : Row) (rows : List Row) :
    (rows.orderedInsert (fun first second => time second ≤ time first) row).head? =
      match rows.head? with
      | none => some row
      | some first => if time row < time first then some first else some row := by
  cases rows with
  | nil => rfl
  | cons first rest =>
      rw [List.orderedInsert_cons]
      by_cases older : time row < time first
      · rw [if_neg (not_le.mpr older)]
        exact (if_pos older).symm
      · rw [if_pos (not_lt.mp older)]
        exact (if_neg older).symm

/-- `ORDER BY time DESC LIMIT 1`. -/
def newest (rows : List Row) : Option Row :=
  (latest time 1 rows).head?

@[simp] theorem newest_nil : newest time [] = none :=
  rfl

theorem newest_mem {rows : List Row} {row : Row} (found : newest time rows = some row) :
    row ∈ rows :=
  mem_of_mem_latest time (List.mem_of_mem_head? found)

theorem newest_cons (row : Row) (rest : List Row) :
    newest time (row :: rest) =
      match newest time rest with
      | none => some row
      | some first => if time row < time first then some first else some row := by
  unfold newest latest newestFirst
  rw [List.insertionSort_cons, List.head?_take, List.head?_take, if_neg Nat.one_ne_zero,
    if_neg Nat.one_ne_zero, head?_orderedInsert]

/-- A row that is appended is the newest one only if it is newer than all others. -/
theorem newest_append (rows : List Row) (row : Row) :
    newest time (rows ++ [row]) = Thinning.advance time id (newest time rows) row := by
  induction rows with
  | nil => rfl
  | cons head rest ih =>
      rw [List.cons_append, newest_cons, newest_cons, ih]
      cases newest time rest with
      | none => rfl
      | some first =>
          dsimp only [Thinning.advance, id]
          by_cases later : time first < time row <;> by_cases earlier : time head < time first <;>
            by_cases before : time head < time row <;> simp only [later, earlier, before, if_true, if_false]
          all_goals omega

end Latest
end Library
end Tropek
