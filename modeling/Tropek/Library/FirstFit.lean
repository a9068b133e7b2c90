import Mathlib.Data.List.Basic
import Mathlib.Data.List.Induction

namespace Tropek
namespace Library

/-!
# First fit

Items are placed one after the other, each in the lowest row whose items it may follow.
The assignment that comes out is the one in which every item follows the earlier items
of its own row and, in each lower row, finds an earlier item that it must not follow.
Nothing is assumed of the relation between the items.
-/

namespace FirstFit

variable {Item : Type} (follows : Item -> Item -> Prop) [DecidableRel follows]

/-- An item may be placed in a row behind the earlier items. -/
def rowFree (earlier : List (Item × Nat)) (item : Item) (row : Nat) : Bool :=
  earlier.all fun other => other.2 ≠ row || follows other.1 item

def place (rowCount : Nat) (earlier : List (Item × Nat)) (item : Item) : Option Nat :=
  (List.range rowCount).find? (rowFree follows earlier item)

/-- Place the items, given those that are placed already. -/
def pack (rowCount : Nat) : List (Item × Nat) -> List Item -> Option (List Nat)
  | _, [] => some []
  | earlier, item :: rest =>
      (place follows rowCount earlier item).bind fun row =>
        (pack rowCount (earlier ++ [(item, row)]) rest).map (row :: ·)

/-- An item in a row in which it follows the earlier ones, above rows in which it does not. -/
structure Rests (rowCount : Nat) (earlier : List (Item × Nat)) (entry : Item × Nat) : Prop where
  bound : entry.2 < rowCount
  above : forall other, other ∈ earlier -> other.2 = entry.2 -> follows other.1 entry.1
  blocked : forall row, row < entry.2 -> Exists fun other =>
    other ∈ earlier ∧ other.2 = row ∧ ¬ follows other.1 entry.1

/-- Every item rests on the items before it and on the earlier ones, and each of them
has its row. -/
structure Stacked (rowCount : Nat) (earlier : List (Item × Nat)) (items : List Item)
    (rows : List Nat) : Prop where
  length : rows.length = items.length
  rests : forall before entry after, items.zip rows = before ++ entry :: after ->
    Rests follows rowCount (earlier ++ before) entry

variable {earlier : List (Item × Nat)} {rowCount : Nat}

theorem rowFree_iff {item : Item} {row : Nat} :
    rowFree follows earlier item row = true ↔
      forall other, other ∈ earlier -> other.2 = row -> follows other.1 item := by
  unfold rowFree
  rw [List.all_eq_true]
  refine forall_congr' fun other => imp_congr_right fun _ => ?_
  by_cases same : other.2 = row <;> simp [same]

theorem place_eq_some {item : Item} {row : Nat} :
    place follows rowCount earlier item = some row ↔
      Rests follows rowCount earlier (item, row) := by
  unfold place
  rw [List.find?_range_eq_some]
  constructor
  · rintro ⟨free, inRange, blocked⟩
    refine ⟨List.mem_range.mp inRange, (rowFree_iff follows).mp free, fun lower below => ?_⟩
    have notFree : ¬ rowFree follows earlier item lower = true := by
      simpa using blocked lower below
    rw [rowFree_iff] at notFree
    push Not at notFree
    exact notFree
  · intro rests
    refine ⟨(rowFree_iff follows).mpr rests.above, List.mem_range.mpr rests.bound,
      fun lower below => ?_⟩
    rcases rests.blocked lower below with ⟨other, member, inRow, notFollows⟩
    have notFree : ¬ rowFree follows earlier item lower = true :=
      fun free => notFollows ((rowFree_iff follows).mp free other member inRow)
    simpa using notFree

omit [DecidableRel follows] in
theorem stacked_cons {rowCount row : Nat} {earlier : List (Item × Nat)} {item : Item}
    {items : List Item} {rows : List Nat} :
    Stacked follows rowCount earlier (item :: items) (row :: rows) ↔
      Rests follows rowCount earlier (item, row) ∧
        Stacked follows rowCount (earlier ++ [(item, row)]) items rows := by
  constructor
  · intro stacked
    refine ⟨?_, Nat.succ.inj stacked.length, fun before entry after split => ?_⟩
    · have first := stacked.rests [] (item, row) (items.zip rows) rfl
      rwa [List.append_nil] at first
    · have later := stacked.rests ((item, row) :: before) entry after
        (by rw [List.zip_cons_cons, split, List.cons_append])
      rwa [List.append_assoc]
  · rintro ⟨first, later⟩
    refine ⟨congrArg Nat.succ later.length, fun before entry after split => ?_⟩
    rw [List.zip_cons_cons] at split
    cases before with
    | nil =>
        rw [<- (List.cons.inj split).1, List.append_nil]
        exact first
    | cons head tail =>
        rcases List.cons.inj split with ⟨isHead, rest⟩
        have here := later.rests tail entry after rest
        rwa [List.append_assoc, isHead] at here

/-- First fit finds the stacked assignment, when there is one. -/
theorem pack_eq_some {items : List Item} {rows : List Nat} :
    pack follows rowCount earlier items = some rows ↔
      Stacked follows rowCount earlier items rows := by
  induction items generalizing earlier rows with
  | nil =>
      constructor
      · intro packed
        cases packed
        exact ⟨rfl, fun before entry after split => by cases before <;> cases split⟩
      · intro stacked
        rw [List.eq_nil_of_length_eq_zero stacked.length]
        rfl
  | cons item rest ih =>
      cases rows with
      | nil =>
          refine ⟨fun packed => ?_, fun stacked => by cases stacked.length⟩
          rcases Option.bind_eq_some_iff.mp packed with ⟨row, _, packedRest⟩
          rcases Option.map_eq_some_iff.mp packedRest with ⟨others, _, impossible⟩
          cases impossible
      | cons row rows =>
          rw [stacked_cons, <- place_eq_some, <- ih]
          constructor
          · intro packed
            rcases Option.bind_eq_some_iff.mp packed with ⟨first, placed, packedRest⟩
            rcases Option.map_eq_some_iff.mp packedRest with ⟨others, isRest, same⟩
            cases same
            exact ⟨placed, isRest⟩
          · rintro ⟨placed, packedRest⟩
            refine Option.bind_eq_some_iff.mpr ⟨row, placed, ?_⟩
            rw [packedRest]
            rfl

omit [DecidableRel follows] in
/-- The items of one row follow each other. -/
theorem Stacked.pairwise {rowCount : Nat} {items : List Item} {rows : List Nat}
    (stacked : Stacked follows rowCount [] items rows) :
    (items.zip rows).Pairwise fun first second => first.2 = second.2 -> follows first.1 second.1 := by
  have rests := stacked.rests
  generalize items.zip rows = entries at rests
  induction entries using List.reverseRecOn with
  | nil => exact .nil
  | append_singleton front entry ih =>
      refine List.pairwise_append.mpr ⟨ih fun before other after split => ?_,
        List.pairwise_singleton _ _, fun other member last isLast same => ?_⟩
      · exact rests before other (after ++ [entry]) (by rw [split, List.append_assoc, List.cons_append])
      · rw [List.mem_singleton.mp isLast] at same ⊢
        exact (rests front entry [] rfl).above other member same

/-- With a row for each item there is always a free one. -/
theorem pack_isSome {items : List Item} (enough : earlier.length + items.length ≤ rowCount) :
    (pack follows rowCount earlier items).isSome = true := by
  induction items generalizing earlier with
  | nil => rfl
  | cons item rest ih =>
      rw [List.length_cons] at enough
      have placed : (place follows rowCount earlier item).isSome = true := by
        by_contra noRow
        have full : forall row, row < rowCount -> row ∈ earlier.map Prod.snd := by
          intro row inRange
          have notFree : ¬ rowFree follows earlier item row = true := by
            intro free
            refine noRow (List.find?_isSome.mpr ⟨row, List.mem_range.mpr inRange, free⟩)
          rw [rowFree_iff] at notFree
          push Not at notFree
          rcases notFree with ⟨other, member, inRow, _⟩
          exact List.mem_map.mpr ⟨other, member, inRow⟩
        have counted := (List.nodup_range (n := rowCount)).length_le_of_subset
          fun row inRange => full row (List.mem_range.mp inRange)
        rw [List.length_range, List.length_map] at counted
        omega
      rcases Option.isSome_iff_exists.mp placed with ⟨row, isRow⟩
      have fewer : (earlier ++ [(item, row)]).length + rest.length ≤ rowCount := by
        rw [List.length_append, List.length_singleton]
        omega
      have packedRest := ih fewer
      rcases Option.isSome_iff_exists.mp packedRest with ⟨rows, isRows⟩
      change ((place follows rowCount earlier item).bind _).isSome = true
      rw [isRow, Option.bind_some, isRows]
      rfl

end FirstFit

end Library
end Tropek
