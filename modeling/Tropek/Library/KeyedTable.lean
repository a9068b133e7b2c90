import Mathlib.Data.List.Forall2
import Mathlib.Data.List.Nodup

namespace Tropek
namespace Library

/-!
# Tables with a primary key

A table is a list of rows in which no two rows share their key.  The uniqueness
is part of the table, so that looking a row up by its key and finding it among
the rows are the same thing, and an update by key touches one row at most.

An update may not change the key of a row, and the proof of that is an argument
of the update.
-/

variable {Row Key : Type} [DecidableEq Key]

structure KeyedTable (key : Row -> Key) where
  rows : List Row
  nodup : (rows.map key).Nodup

namespace KeyedTable

variable {key : Row -> Key}

def empty : KeyedTable key :=
  ⟨[], List.nodup_nil⟩

/-- `SELECT` by primary key. -/
def find (table : KeyedTable key) (wanted : Key) : Option Row :=
  table.rows.find? fun row => key row = wanted

/-- `UPDATE ... WHERE`: change the rows that satisfy the condition. -/
def updateWhere (table : KeyedTable key) (condition : Row -> Bool) (change : Row -> Row)
    (keeps : forall row, key (change row) = key row) : KeyedTable key where
  rows := table.rows.map fun row => if condition row then change row else row
  nodup := by
    have same : (fun row => key (if condition row then change row else row)) = key := by
      funext row
      by_cases selected : condition row = true
      · rw [if_pos selected, keeps]
      · rw [if_neg selected]
    rw [List.map_map]
    change (table.rows.map fun row => key (if condition row then change row else row)).Nodup
    rw [same]
    exact table.nodup

/-- `UPDATE` by primary key.  The change leaves the key, so that the rows keep their
places and stay distinct; without such a row nothing happens. -/
def update (table : KeyedTable key) (wanted : Key) (change : Row -> Row)
    (keeps : forall row, key (change row) = key row) : KeyedTable key :=
  table.updateWhere (fun row => key row = wanted) change keeps

/-- `INSERT` of a row whose key is new, behind the others.  That it is new is an
argument, because a table cannot contain a key twice. -/
def insert (table : KeyedTable key) (row : Row) (fresh : table.find (key row) = none) :
    KeyedTable key where
  rows := table.rows ++ [row]
  nodup := by
    have absent : key row ∉ table.rows.map key := by
      intro member
      rcases List.mem_map.mp member with ⟨other, inside, same⟩
      have refused := List.find?_eq_none.mp fresh other inside
      exact refused (decide_eq_true same)
    rw [List.map_append]
    refine List.nodup_append.mpr ⟨table.nodup, List.nodup_singleton _, ?_⟩
    intro present presentMember new newMember same
    rw [List.map_singleton, List.mem_singleton] at newMember
    exact absent (newMember ▸ same ▸ presentMember)

/-- `DELETE` by primary key. -/
def delete (table : KeyedTable key) (wanted : Key) : KeyedTable key where
  rows := table.rows.filter fun row => key row ≠ wanted
  nodup := List.Nodup.sublist (List.Sublist.map key List.filter_sublist) table.nodup

/-- `DELETE ... WHERE`. -/
def deleteWhere (table : KeyedTable key) (condition : Row -> Bool) : KeyedTable key where
  rows := table.rows.filter fun row => !condition row
  nodup := List.Nodup.sublist (List.Sublist.map key List.filter_sublist) table.nodup

@[simp] theorem find_empty (wanted : Key) : (empty : KeyedTable key).find wanted = none :=
  rfl

theorem find_eq_some (table : KeyedTable key) (wanted : Key) (row : Row) :
    table.find wanted = some row ↔ row ∈ table.rows ∧ key row = wanted := by
  rcases table with ⟨rows, nodup⟩
  unfold find
  dsimp only
  induction rows with
  | nil =>
      constructor
      · intro impossible
        cases impossible
      · rintro ⟨member, _⟩
        exact absurd member List.not_mem_nil
  | cons head rest ih =>
      rw [List.map_cons, List.nodup_cons] at nodup
      rw [List.find?_cons]
      by_cases here : key head = wanted
      · simp only [here, decide_true, List.mem_cons]
        constructor
        · intro same
          cases same
          exact ⟨Or.inl rfl, here⟩
        · rintro ⟨same | member, found⟩
          · rw [same]
          · exact absurd (List.mem_map.mpr ⟨row, member, found.trans here.symm⟩) nodup.1
      · simp only [here, decide_false, List.mem_cons]
        rw [ih nodup.2]
        constructor
        · rintro ⟨member, found⟩
          exact ⟨Or.inr member, found⟩
        · rintro ⟨same | member, found⟩
          · exact absurd (same ▸ found) here
          · exact ⟨member, found⟩

variable {wanted updated : Key} {table : KeyedTable key} {row : Row} {Item : Type}

theorem find_mem (found : table.find wanted = some row) : row ∈ table.rows :=
  ((find_eq_some table wanted row).mp found).1

theorem find_key (found : table.find wanted = some row) : key row = wanted :=
  ((find_eq_some table wanted row).mp found).2

theorem find_of_mem (member : row ∈ table.rows) : table.find (key row) = some row :=
  (find_eq_some table (key row) row).mpr ⟨member, rfl⟩

theorem eq_of_key {first second : Row} (firstIn : first ∈ table.rows)
    (secondIn : second ∈ table.rows) (same : key first = key second) : first = second := by
  have found := find_of_mem firstIn
  rw [same, find_of_mem secondIn] at found
  exact (Option.some.inj found).symm

omit [DecidableEq Key] in
theorem mem_updateWhere (table : KeyedTable key) (condition : Row -> Bool) (change : Row -> Row)
    (keeps : forall row, key (change row) = key row) (row : Row) :
    row ∈ (table.updateWhere condition change keeps).rows ↔
      Exists fun old => old ∈ table.rows ∧ (if condition old then change old else old) = row :=
  List.mem_map

/-- An update is seen through the lookup as the same change of the row found. -/
theorem find_updateWhere (table : KeyedTable key) (condition : Row -> Bool) (change : Row -> Row)
    (keeps : forall row, key (change row) = key row) (wanted : Key) :
    (table.updateWhere condition change keeps).find wanted =
      (table.find wanted).map fun row => if condition row then change row else row := by
  unfold find updateWhere
  dsimp only
  rw [List.find?_map]
  congr 2
  funext row
  by_cases selected : condition row = true
  · simp only [Function.comp_apply, if_pos selected, keeps]
  · simp only [Function.comp_apply, if_neg selected]

theorem find_update (table : KeyedTable key) (updated : Key) (change : Row -> Row)
    (keeps : forall row, key (change row) = key row) (wanted : Key) :
    (table.update updated change keeps).find wanted =
      if wanted = updated then (table.find wanted).map change else table.find wanted := by
  unfold update
  rw [find_updateWhere]
  cases found : table.find wanted with
  | none => by_cases same : wanted = updated <;> simp [same]
  | some row =>
      have rowKey := find_key found
      by_cases same : wanted = updated
      · rw [if_pos same]
        simp only [Option.map_some, rowKey, same, decide_true, if_true]
      · rw [if_neg same]
        simp only [Option.map_some, rowKey, same, decide_false, Bool.false_eq_true, if_false]

theorem find_update_of_ne (table : KeyedTable key) (change : Row -> Row)
    (keeps : forall row, key (change row) = key row) (different : wanted ≠ updated) :
    (table.update updated change keeps).find wanted = table.find wanted := by
  rw [find_update, if_neg different]

/-- A row of the updated table is an untouched row, or the changed one. -/
theorem mem_update (table : KeyedTable key) (updated : Key) (change : Row -> Row)
    (keeps : forall row, key (change row) = key row) (row : Row) :
    row ∈ (table.update updated change keeps).rows ↔
      (row ∈ table.rows ∧ key row ≠ updated) ∨
        Exists fun old => table.find updated = some old ∧ change old = row := by
  unfold update
  rw [mem_updateWhere]
  constructor
  · rintro ⟨old, member, same⟩
    by_cases selected : key old = updated
    · rw [if_pos (decide_eq_true selected)] at same
      exact Or.inr ⟨old, (find_eq_some _ _ _).mpr ⟨member, selected⟩, same⟩
    · rw [if_neg (by simpa using selected)] at same
      subst same
      exact Or.inl ⟨member, selected⟩
  · rintro (⟨member, different⟩ | ⟨old, found, same⟩)
    · exact ⟨row, member, if_neg (by simpa using different)⟩
    · exact ⟨old, find_mem found, by rw [if_pos (decide_eq_true (find_key found)), same]⟩

/-- An updated table, row by row. -/
theorem update_rows (table : KeyedTable key) (updated : Key) (change : Row -> Row)
    (keeps : forall row, key (change row) = key row) :
    (table.update updated change keeps).rows =
      table.rows.map fun row => if key row = updated then change row else row := by
  unfold update updateWhere
  simp only [decide_eq_true_eq]

omit [DecidableEq Key] in
/-- A selection does not see a change of rows that it selects neither before nor
after the change. -/
theorem filter_map_of_unchanged (rows : List Row) (selected : Row -> Bool) (change : Row -> Row)
    (unchanged : forall row, row ∈ rows ->
      change row = row ∨ (selected row = false ∧ selected (change row) = false)) :
    (rows.map change).filter selected = rows.filter selected := by
  induction rows with
  | nil => rfl
  | cons head rest ih =>
      have others := ih fun row member =>
        unchanged row (List.mem_cons_of_mem head member)
      rw [List.map_cons, List.filter_cons, List.filter_cons, others]
      rcases unchanged head List.mem_cons_self with same | ⟨notBefore, notAfter⟩
      · rw [same]
      · rw [notBefore, notAfter]
        rfl

theorem find_insert (table : KeyedTable key) (row : Row) (fresh : table.find (key row) = none)
    (wanted : Key) :
    (table.insert row fresh).find wanted =
      if wanted = key row then some row else table.find wanted := by
  unfold find insert
  dsimp only
  rw [List.find?_append]
  by_cases same : wanted = key row
  · rw [if_pos same, same]
    have absent : table.rows.find? (fun other => key other = key row) = none := fresh
    rw [absent]
    simp
  · rw [if_neg same]
    cases table.rows.find? (fun other => key other = wanted) with
    | some found => rfl
    | none => simp [Ne.symm same]

theorem find_insert_of_some {old : Row} (found : table.find wanted = some old)
    (fresh : table.find (key row) = none) : (table.insert row fresh).find wanted = some old := by
  rw [find_insert, if_neg, found]
  intro same
  rw [same, fresh] at found
  cases found

theorem mem_insert (table : KeyedTable key) (row : Row) (fresh : table.find (key row) = none)
    (other : Row) : other ∈ (table.insert row fresh).rows ↔ other ∈ table.rows ∨ other = row := by
  unfold insert
  dsimp only
  rw [List.mem_append, List.mem_singleton]

/-- Insert the row, or change the one that has its key. -/
def upsert (table : KeyedTable key) (row : Row) (change : Row -> Row)
    (keeps : forall other, key (change other) = key other) : KeyedTable key :=
  if fresh : table.find (key row) = none then table.insert row fresh
  else table.update (key row) change keeps

theorem find_upsert (table : KeyedTable key) (row : Row) (change : Row -> Row)
    (keeps : forall other, key (change other) = key other) (wanted : Key) :
    (table.upsert row change keeps).find wanted =
      if wanted = key row then some (((table.find wanted).map change).getD row)
      else table.find wanted := by
  unfold upsert
  by_cases fresh : table.find (key row) = none
  · rw [dif_pos fresh, find_insert]
    by_cases same : wanted = key row
    · rw [if_pos same, if_pos same, same, fresh]
      rfl
    · rw [if_neg same, if_neg same]
  · rw [dif_neg fresh, find_update]
    by_cases same : wanted = key row
    · rw [if_pos same, if_pos same, same]
      rcases Option.ne_none_iff_exists'.mp fresh with ⟨found, isFound⟩
      rw [isFound]
      rfl
    · rw [if_neg same, if_neg same]

/-- A loop of such steps treats each key on its own. -/
theorem find_upserts (rowOf : Item -> Row) (change : Item -> Row -> Row)
    (keeps : forall item other, key (change item other) = key other) (items : List Item)
    (table : KeyedTable key) (wanted : Key) :
    (items.foldl (fun table item => table.upsert (rowOf item) (change item) (keeps item))
        table).find wanted =
      (items.filter fun item => key (rowOf item) = wanted).foldl
        (fun found item => some ((found.map (change item)).getD (rowOf item)))
        (table.find wanted) := by
  induction items generalizing table with
  | nil => rfl
  | cons item rest ih =>
      rw [List.foldl_cons, ih, find_upsert, List.filter_cons]
      by_cases same : key (rowOf item) = wanted
      · simp only [same, decide_true, if_true, List.foldl_cons]
      · simp only [same, Ne.symm same, decide_false, Bool.false_eq_true, if_false]

theorem mem_delete (table : KeyedTable key) (deleted : Key) (row : Row) :
    row ∈ (table.delete deleted).rows ↔ row ∈ table.rows ∧ key row ≠ deleted := by
  unfold delete
  dsimp only
  rw [List.mem_filter, decide_eq_true_eq]

theorem find_delete (table : KeyedTable key) (deleted wanted : Key) :
    (table.delete deleted).find wanted =
      if wanted = deleted then none else table.find wanted := by
  by_cases same : wanted = deleted
  · rw [if_pos same]
    cases found : (table.delete deleted).find wanted with
    | none => rfl
    | some row =>
        have kept := (mem_delete table deleted row).mp (find_mem found)
        exact absurd ((find_key found).trans same) kept.2
  · rw [if_neg same]
    cases found : table.find wanted with
    | some row =>
        refine (find_eq_some _ _ _).mpr ⟨?_, find_key found⟩
        exact (mem_delete table deleted row).mpr
          ⟨find_mem found, fun collide => same ((find_key found).symm.trans collide)⟩
    | none =>
        cases left : (table.delete deleted).find wanted with
        | none => rfl
        | some row =>
            have kept := (mem_delete table deleted row).mp (find_mem left)
            rw [<- find_key left, find_of_mem kept.1] at found
            cases found

theorem find_deleteWhere (table : KeyedTable key) (condition : Row -> Bool) (wanted : Key) :
    (table.deleteWhere condition).find wanted =
      (table.find wanted).filter fun row => !condition row := by
  cases found : table.find wanted with
  | some row =>
      rw [Option.filter_some]
      by_cases selected : condition row = true
      · rw [selected]
        cases left : (table.deleteWhere condition).find wanted with
        | none => rfl
        | some other =>
            have kept := List.mem_filter.mp (find_mem left)
            have again := find_of_mem kept.1
            rw [find_key left, found] at again
            rw [<- Option.some.inj again, selected] at kept
            cases kept.2
      · rw [Bool.not_eq_true] at selected
        rw [selected]
        refine (find_eq_some _ _ _).mpr ⟨List.mem_filter.mpr ⟨find_mem found, ?_⟩, find_key found⟩
        rw [selected]
        rfl
  | none =>
      cases left : (table.deleteWhere condition).find wanted with
      | none => rfl
      | some row =>
          have kept := List.mem_filter.mp (find_mem left)
          rw [<- find_key left, find_of_mem kept.1] at found
          cases found

/-- The rows with a key are the one that a lookup finds. -/
theorem filter_key (table : KeyedTable key) (wanted : Key) :
    (table.rows.filter fun row => key row = wanted) = (table.find wanted).toList := by
  rcases table with ⟨rows, nodup⟩
  unfold find
  dsimp only
  induction rows with
  | nil => rfl
  | cons head rest ih =>
      rw [List.map_cons, List.nodup_cons] at nodup
      by_cases same : key head = wanted
      · have others : (rest.filter fun row => key row = wanted) = [] := by
          refine List.filter_eq_nil_iff.mpr fun row member selected => nodup.1 ?_
          rw [same, <- of_decide_eq_true selected]
          exact List.mem_map_of_mem member
        simp only [List.filter_cons, List.find?_cons, same, decide_true, if_true, others,
          Option.toList_some]
      · simp only [List.filter_cons, List.find?_cons, same, decide_false, Bool.false_eq_true,
          if_false]
        exact ih nodup.2

/-- Apart from the order, an update replaces one row among others that stay. -/
theorem update_perm (table : KeyedTable key) (change : Row -> Row)
    (keeps : forall row, key (change row) = key row) (found : table.find updated = some row) :
    Exists fun others => table.rows.Perm (row :: others) ∧
      (table.update updated change keeps).rows.Perm (change row :: others) := by
  have split : forall changed : KeyedTable key, changed.rows.Perm
      ((changed.find updated).toList ++ changed.rows.filter fun row => !decide (key row = updated)) := by
    intro changed
    rw [<- filter_key]
    exact (List.filter_append_perm _ changed.rows).symm
  have unchanged : ((table.update updated change keeps).rows.filter
      fun row => !decide (key row = updated)) =
      table.rows.filter fun row => !decide (key row = updated) := by
    rw [update_rows]
    refine filter_map_of_unchanged _ _ _ fun row _ => ?_
    by_cases selected : key row = updated
    · rw [if_pos selected]
      exact Or.inr ⟨by simp [selected], by simp [keeps, selected]⟩
    · exact Or.inl (if_neg selected)
  have before := split table
  have after := split (table.update updated change keeps)
  rw [found] at before
  rw [unchanged, find_update, if_pos rfl, found] at after
  exact ⟨_, before, after⟩

omit [DecidableEq Key] in
theorem mem_related {Other : Type} {related : Row -> Other -> Prop} {rows : List Row}
    {others : List Other} (rowByRow : List.Forall₂ related rows others) {row : Row}
    (member : row ∈ rows) :
    Exists fun other => other ∈ others ∧ related row other := by
  induction rowByRow with
  | nil => exact absurd member List.not_mem_nil
  | cons here _ ih =>
      rcases List.mem_cons.mp member with same | later
      · exact ⟨_, List.mem_cons_self, same ▸ here⟩
      · rcases ih later with ⟨other, inside, found⟩
        exact ⟨other, List.mem_cons_of_mem _ inside, found⟩

/-- A relation between two tables that keeps the keys relates the rows that a
lookup finds. -/
theorem find_related {related : Row -> Row -> Prop} {first second : KeyedTable key}
    (keeps : forall row other, related row other -> key other = key row)
    (rowByRow : List.Forall₂ related first.rows second.rows)
    (found : first.find wanted = some row) :
    Exists fun other => second.find wanted = some other ∧ related row other := by
  rcases mem_related rowByRow (find_mem found) with ⟨other, inside, here⟩
  refine ⟨other, ?_, here⟩
  exact (find_eq_some _ _ _).mpr ⟨inside, (keeps row other here).trans (find_key found)⟩

omit [DecidableEq Key] in
/-- An update relates each row to what becomes of it. -/
theorem updateWhere_related {related : Row -> Row -> Prop} (table : KeyedTable key)
    (condition : Row -> Bool) (change : Row -> Row)
    (keeps : forall row, key (change row) = key row)
    (changed : forall row, row ∈ table.rows -> condition row = true -> related row (change row))
    (unchanged : forall row, row ∈ table.rows -> condition row = false -> related row row) :
    List.Forall₂ related table.rows (table.updateWhere condition change keeps).rows := by
  change List.Forall₂ related table.rows
    (table.rows.map fun row => if condition row then change row else row)
  rw [List.forall₂_map_right_iff, List.forall₂_same]
  intro row member
  cases selected : condition row with
  | true => exact changed row member selected
  | false => exact unchanged row member selected

theorem update_update (table : KeyedTable key) (updated : Key) (first second : Row -> Row)
    (keepsFirst : forall row, key (first row) = key row)
    (keepsSecond : forall row, key (second row) = key row)
    (keepsBoth : forall row, key (second (first row)) = key row) :
    (table.update updated first keepsFirst).update updated second keepsSecond =
      table.update updated (fun row => second (first row)) keepsBoth := by
  unfold update updateWhere
  congr 1
  dsimp only
  rw [List.map_map]
  refine List.map_congr_left fun row _ => ?_
  by_cases selected : key row = updated
  · simp only [Function.comp_apply, selected, keepsFirst, decide_true, if_true]
  · simp only [Function.comp_apply, selected, decide_false, Bool.false_eq_true, if_false]

/-- A view that hides a row before and after its update does not see the update. -/
theorem filterMap_update_of_hidden (table : KeyedTable key) (change : Row -> Row)
    (keeps : forall row, key (change row) = key row) (found : table.find updated = some row)
    (view : Row -> Option Item) (before : view row = none) (after : view (change row) = none) :
    (table.update updated change keeps).rows.filterMap view = table.rows.filterMap view := by
  rw [update_rows, List.filterMap_map]
  apply List.filterMap_congr
  intro other member
  by_cases selected : key other = updated
  · have same : other = row :=
      eq_of_key member (find_mem found) (selected.trans (find_key found).symm)
    rw [Function.comp_apply, if_pos selected, same, before, after]
  · simp only [Function.comp_apply, selected, if_false]

/-- A view that sees no other row sees what becomes of this one. -/
theorem filterMap_update_of_alone (table : KeyedTable key) (change : Row -> Row)
    (keeps : forall row, key (change row) = key row) (found : table.find updated = some row)
    (view : Row -> Option Item) (alone : table.rows.filterMap view = (view row).toList) :
    (table.update updated change keeps).rows.filterMap view = (view (change row)).toList := by
  rcases update_perm table change keeps found with ⟨others, before, after⟩
  have beforeView := (before.filterMap view).length_eq
  have afterView := after.filterMap view
  have hidden : others.filterMap view = [] := by
    apply List.length_eq_zero_iff.mp
    rw [alone, List.filterMap_cons] at beforeView
    cases seen : view row with
    | none =>
        rw [seen] at beforeView
        exact beforeView.symm
    | some item =>
        rw [seen] at beforeView
        exact (Nat.succ.inj beforeView).symm
  rw [List.filterMap_cons, hidden] at afterView
  cases changed : view (change row) with
  | none =>
      rw [changed] at afterView
      exact List.perm_nil.mp afterView
  | some item =>
      rw [changed] at afterView
      exact List.perm_singleton.mp afterView

theorem filterMap_insert (table : KeyedTable key) (row : Row) (fresh : table.find (key row) = none)
    (view : Row -> Option Item) :
    (table.insert row fresh).rows.filterMap view =
      table.rows.filterMap view ++ (view row).toList := by
  unfold insert
  dsimp only
  rw [List.filterMap_append]
  cases seen : view row <;> simp [seen]

end KeyedTable
end Library
end Tropek
