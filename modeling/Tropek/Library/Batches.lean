import Mathlib.Data.List.Induction
import Mathlib.Data.List.Nodup

namespace Tropek
namespace Library

/-!
# Batches of single actions

An action on one row of a table may refuse the row.  Otherwise it writes the row, and it
may displace other rows, as a new holder of a mark takes the mark from the old one.

The same action is often offered for a list of keys, as one statement on the whole table.
The run of the single action on the keys, one after another, comes to the same rows when no
two rows of the list displace each other and a row that is named twice and accepted twice is
written to the same effect.
-/

namespace Batches

variable {Row Key : Type} [DecidableEq Key]

structure RowAction (Row : Type) where
  accepts : Row -> Bool
  write : Row -> Row
  displaces : Row -> Row -> Bool
  displace : Row -> Row

/-- What becomes of a row when the action is applied to the chosen one. -/
def RowAction.becomes (action : RowAction Row) (key : Row -> Key) (chosen row : Row) : Row :=
  if key row = key chosen then action.write row
  else if action.displaces chosen row then action.displace row
  else row

/-- The rows after some calls, with the rows that the action was applied to, as it found
them, and the keys that it refused. -/
structure Run (Row Key : Type) where
  rows : List Row
  applied : List Row := []
  refused : List Key := []

def RowAction.call (action : RowAction Row) (key : Row -> Key) (run : Run Row Key)
    (wanted : Key) : Run Row Key :=
  match run.rows.find? fun row => key row = wanted with
  | none => { run with refused := run.refused ++ [wanted] }
  | some chosen =>
      if action.accepts chosen then
        { run with rows := run.rows.map (action.becomes key chosen),
                   applied := run.applied ++ [chosen] }
      else { run with refused := run.refused ++ [wanted] }

def RowAction.run (action : RowAction Row) (key : Row -> Key) (rows : List Row)
    (keys : List Key) : Run Row Key :=
  keys.foldl (action.call key) { rows }

/-- The row is one of the keys and acceptable. -/
def RowAction.selects (action : RowAction Row) (key : Row -> Key) (keys : List Key) (row : Row) :
    Bool :=
  keys.contains (key row) && action.accepts row

/-- What one statement for all keys makes of a row. -/
def RowAction.after (action : RowAction Row) (key : Row -> Key) (rows : List Row)
    (keys : List Key) (row : Row) : Row :=
  if action.selects key keys row then action.write row
  else if rows.any fun chosen => action.selects key keys chosen && action.displaces chosen row then
    action.displace row
  else row

/-- The laws of an action that changes neither the keys nor what displacing looks at, and
after which a displaced row is not displaced again. -/
structure RowAction.Lawful (action : RowAction Row) (key : Row -> Key) : Prop where
  key_write : forall row, key (action.write row) = key row
  key_displace : forall row, key (action.displace row) = key row
  accepts_displace : forall row, action.accepts (action.displace row) = action.accepts row
  write_displace : forall row, action.write (action.displace row) = action.write row
  displaces_write : forall chosen row,
    action.displaces (action.write chosen) row = action.displaces chosen row
  displaces_displace : forall chosen row,
    action.displaces (action.displace chosen) row = action.displaces chosen row
  displaced : forall chosen row, action.displaces chosen (action.displace row) = false

/-- The rows of the keys do not displace each other. -/
def RowAction.Apart (action : RowAction Row) (key : Row -> Key) (rows : List Row)
    (keys : List Key) : Prop :=
  forall chosen, chosen ∈ rows -> forall row, row ∈ rows -> action.selects key keys chosen = true ->
    action.selects key keys row = true -> key row ≠ key chosen ->
      action.displaces chosen (action.write row) = false

/-- A row that is named twice is written to the same effect, if it is accepted again. -/
def RowAction.Repeatable (action : RowAction Row) (key : Row -> Key) (rows : List Row)
    (keys : List Key) : Prop :=
  forall row, row ∈ rows -> 2 ≤ keys.count (key row) -> action.accepts row = true ->
    action.accepts (action.write row) = true -> action.write (action.write row) = action.write row

section

variable {action : RowAction Row} {key : Row -> Key}

@[simp] theorem selects_append (keys : List Key) (wanted : Key) (row : Row) :
    action.selects key (keys ++ [wanted]) row = true ↔
      action.selects key keys row = true ∨ (key row = wanted ∧ action.accepts row = true) := by
  simp [RowAction.selects, or_and_right]

variable {wanted : Key} {rows : List Row} {keys : List Key} {row chosen : Row} {run : Run Row Key}

theorem RowAction.Apart.before (apart : action.Apart key rows (keys ++ [wanted])) :
    action.Apart key rows keys := by
  intro chosen chosenIn row rowIn selectsChosen selectsRow different
  apply apart chosen chosenIn row rowIn _ _ different
  · exact (selects_append keys wanted chosen).mpr (Or.inl selectsChosen)
  · exact (selects_append keys wanted row).mpr (Or.inl selectsRow)

theorem RowAction.Repeatable.before (repeatable : action.Repeatable key rows (keys ++ [wanted])) :
    action.Repeatable key rows keys := by
  intro row member twice
  apply repeatable row member
  rw [List.count_append]
  omega

theorem run_append (rows : List Row) (keys : List Key) (wanted : Key) :
    action.run key rows (keys ++ [wanted]) = action.call key (action.run key rows keys) wanted := by
  simp [RowAction.run]

/-- The three things that can have happened to a row. -/
theorem after_cases (action : RowAction Row) (key : Row -> Key) (rows : List Row)
    (keys : List Key) (row : Row) :
    (action.selects key keys row = true ∧ action.after key rows keys row = action.write row) ∨
      (action.selects key keys row = false ∧ action.after key rows keys row = action.displace row) ∨
      (action.selects key keys row = false ∧ action.after key rows keys row = row) := by
  unfold RowAction.after
  cases selected : action.selects key keys row with
  | true => exact Or.inl ⟨rfl, rfl⟩
  | false =>
      refine Or.inr ?_
      rw [if_neg Bool.false_ne_true]
      split
      · exact Or.inl ⟨rfl, rfl⟩
      · exact Or.inr ⟨rfl, rfl⟩

/-- A view that writing and displacing keep is that of the row at the beginning. -/
theorem view_after {View : Type} (view : Row -> View)
    (writes : forall row, view (action.write row) = view row)
    (displaces : forall row, view (action.displace row) = view row) (rows : List Row)
    (keys : List Key) (row : Row) : view (action.after key rows keys row) = view row := by
  rcases after_cases action key rows keys row with here | here | here
  · rw [here.2, writes]
  · rw [here.2, displaces]
  · rw [here.2]

section

variable (lawful : action.Lawful key)

include lawful

theorem key_after (rows : List Row) (keys : List Key) (row : Row) :
    key (action.after key rows keys row) = key row :=
  view_after key lawful.key_write lawful.key_displace rows keys row

/-- A row that the action accepts now it has accepted at the beginning. -/
theorem accepts_of_after (accepted : action.accepts (action.after key rows keys row) = true) :
    action.accepts row = true := by
  rcases after_cases action key rows keys row with here | here | here
  · exact (Bool.and_eq_true_iff.mp here.1).2
  · rwa [here.2, lawful.accepts_displace] at accepted
  · rwa [here.2] at accepted

/-- A row that was not written is accepted as at the beginning. -/
theorem accepts_after (before : action.selects key keys row = false) :
    action.accepts (action.after key rows keys row) = action.accepts row := by
  rcases after_cases action key rows keys row with here | here | here
  · rw [before] at here
    exact absurd here.1 Bool.false_ne_true
  · rw [here.2, lawful.accepts_displace]
  · rw [here.2]

theorem displaces_after (rows : List Row) (keys : List Key) (chosen row : Row) :
    action.displaces (action.after key rows keys chosen) row = action.displaces chosen row :=
  view_after (fun chosen => action.displaces chosen row) (lawful.displaces_write · row)
    (lawful.displaces_displace · row) rows keys chosen

/-- Writing the row once more comes to the row as written. -/
theorem write_after (member : row ∈ rows)
    (repeatable : action.Repeatable key rows (keys ++ [key row]))
    (accepted : action.accepts (action.after key rows keys row) = true) :
    action.write (action.after key rows keys row) = action.write row := by
  have acceptedBefore := accepts_of_after lawful accepted
  rcases after_cases action key rows keys row with here | here | here
  · have named : 0 < keys.count (key row) := by
      rw [List.count_pos_iff]
      simpa using (Bool.and_eq_true_iff.mp here.1).1
    rw [here.2] at accepted ⊢
    apply repeatable row member _ acceptedBefore accepted
    simp only [List.count_append, List.count_singleton_self]
    omega
  · rw [here.2, lawful.write_displace]
  · rw [here.2]

end

theorem find_after (lawful : action.Lawful key) (rows : List Row) (keys : List Key) (wanted : Key) :
    ((rows.map (action.after key rows keys)).find? fun row => key row = wanted) =
      (rows.find? fun row => key row = wanted).map (action.after key rows keys) := by
  rw [List.find?_map]
  congr 2
  funext row
  simp only [Function.comp_apply, key_after lawful]

/-- A call that is refused, of a row that was not acceptable or had been written, leaves the
rows as they are after the calls before it. -/
theorem after_append_of_same
    (same : forall row, row ∈ rows ->
      action.selects key (keys ++ [wanted]) row = action.selects key keys row) :
    rows.map (action.after key rows (keys ++ [wanted])) = rows.map (action.after key rows keys) := by
  apply List.map_congr_left
  intro row member
  have displacers : (rows.any fun chosen =>
      action.selects key (keys ++ [wanted]) chosen && action.displaces chosen row) =
      rows.any fun chosen => action.selects key keys chosen && action.displaces chosen row := by
    rw [Bool.eq_iff_iff, List.any_eq_true, List.any_eq_true]
    apply exists_congr
    intro chosen
    exact and_congr_right fun inside => by rw [same chosen inside]
  unfold RowAction.after
  rw [same row member, displacers]

/-- A call that is accepted turns each row into what it is after one more call. -/
theorem becomes_after (lawful : action.Lawful key) (distinct : (rows.map key).Nodup)
    (chosenIn : chosen ∈ rows) (rowIn : row ∈ rows)
    (apart : action.Apart key rows (keys ++ [key chosen]))
    (repeatable : action.Repeatable key rows (keys ++ [key chosen]))
    (accepted : action.accepts (action.after key rows keys chosen) = true) :
    action.becomes key (action.after key rows keys chosen) (action.after key rows keys row) =
      action.after key rows (keys ++ [key chosen]) row := by
  have acceptedBefore := accepts_of_after lawful accepted
  have chosenNow : action.selects key (keys ++ [key chosen]) chosen = true :=
    (selects_append keys _ chosen).mpr (Or.inr ⟨rfl, acceptedBefore⟩)
  unfold RowAction.becomes
  rw [key_after lawful, key_after lawful, displaces_after lawful]
  by_cases same : key row = key chosen
  · have isChosen : row = chosen := List.inj_on_of_nodup_map distinct rowIn chosenIn same
    rw [if_pos same, isChosen, write_after lawful chosenIn repeatable accepted]
    simp [RowAction.after, chosenNow]
  · have stillSelected : action.selects key (keys ++ [key chosen]) row =
        action.selects key keys row := by
      rw [Bool.eq_iff_iff, selects_append]
      simp [same]
    have displacers : (rows.any fun other =>
        action.selects key (keys ++ [key chosen]) other && action.displaces other row) =
        ((rows.any fun other => action.selects key keys other && action.displaces other row) ||
          action.displaces chosen row) := by
      rw [Bool.eq_iff_iff, Bool.or_eq_true, List.any_eq_true, List.any_eq_true]
      constructor
      · rintro ⟨other, inside, both⟩
        rcases Bool.and_eq_true_iff.mp both with ⟨selected, displaces⟩
        rcases (selects_append keys _ other).mp selected with before | ⟨isKey, _⟩
        · exact Or.inl ⟨other, inside, by simp [before, displaces]⟩
        · exact Or.inr (List.inj_on_of_nodup_map distinct inside chosenIn isKey ▸ displaces)
      · rintro (⟨other, inside, both⟩ | displaces)
        · rcases Bool.and_eq_true_iff.mp both with ⟨selected, displaces⟩
          have stays := (selects_append keys (key chosen) other).mpr (Or.inl selected)
          exact ⟨other, inside, by simp [stays, displaces]⟩
        · exact ⟨chosen, chosenIn, by simp [chosenNow, displaces]⟩
    rw [if_neg same]
    unfold RowAction.after
    rw [stillSelected, displacers]
    cases selected : action.selects key keys row with
    | true =>
        have rowNow := stillSelected.trans selected
        simp [apart chosen chosenIn row rowIn chosenNow rowNow same]
    | false =>
        cases displacedBefore : rows.any fun other =>
            action.selects key keys other && action.displaces other row with
        | true => simp [lawful.displaced]
        | false => simp

theorem call_of_none (absent : (run.rows.find? fun row => key row = wanted) = none) :
    action.call key run wanted = { run with refused := run.refused ++ [wanted] } := by
  simp [RowAction.call, absent]

section

variable (found : (run.rows.find? fun row => key row = wanted) = some chosen)

include found

theorem call_of_refused (refused : action.accepts chosen = false) :
    action.call key run wanted = { run with refused := run.refused ++ [wanted] } := by
  simp [RowAction.call, found, refused]

theorem call_of_accepted (accepted : action.accepts chosen = true) :
    action.call key run wanted =
      { run with rows := run.rows.map (action.becomes key chosen),
                 applied := run.applied ++ [chosen] } := by
  simp [RowAction.call, found, accepted]

end

/-- A call either is accepted, or names no row that is acceptable and was not written, or one
that is no longer acceptable as written. -/
theorem call_cases (lawful : action.Lawful key) (distinct : (rows.map key).Nodup)
    (reached : run.rows = rows.map (action.after key rows keys)) (wanted : Key) :
    (action.call key run wanted = { run with refused := run.refused ++ [wanted] } ∧
        forall row, row ∈ rows -> key row = wanted -> action.accepts row = true ->
          action.selects key keys row = true ∧ action.accepts (action.write row) = false) ∨
      Exists fun chosen => chosen ∈ rows ∧ key chosen = wanted ∧
        action.accepts (action.after key rows keys chosen) = true ∧
        action.call key run wanted =
          { run with
            rows := run.rows.map (action.becomes key (action.after key rows keys chosen)),
            applied := run.applied ++ [action.after key rows keys chosen] } := by
  have found := find_after lawful rows keys wanted
  rw [<- reached] at found
  cases isRow : rows.find? fun row => key row = wanted with
  | none =>
      rw [isRow] at found
      refine Or.inl ⟨call_of_none found, fun row member isKey => ?_⟩
      have other : key row ≠ wanted := by simpa using List.find?_eq_none.mp isRow row member
      exact absurd isKey other
  | some chosen =>
      rw [isRow] at found
      have chosenIn := List.mem_of_find?_eq_some isRow
      have isKey : key chosen = wanted := by simpa using List.find?_some isRow
      cases accepted : action.accepts (action.after key rows keys chosen) with
      | true => exact Or.inr ⟨chosen, chosenIn, isKey, accepted, call_of_accepted found accepted⟩
      | false =>
          refine Or.inl ⟨call_of_refused found accepted, fun row member same acceptable => ?_⟩
          have isChosen := List.inj_on_of_nodup_map distinct member chosenIn (same.trans isKey.symm)
          subst isChosen
          rcases after_cases action key rows keys row with here | here | here
          · exact ⟨here.1, here.2 ▸ accepted⟩
          · rw [accepts_after lawful here.1, acceptable] at accepted
            cases accepted
          · rw [accepts_after lawful here.1, acceptable] at accepted
            cases accepted

/-- After a refusal the same rows are selected as before. -/
theorem selects_of_refused
    (refused : forall row, row ∈ rows -> key row = wanted -> action.accepts row = true ->
      action.selects key keys row = true ∧ action.accepts (action.write row) = false)
    (row : Row) (member : row ∈ rows) :
    action.selects key (keys ++ [wanted]) row = action.selects key keys row := by
  rw [Bool.eq_iff_iff, selects_append]
  refine or_iff_left_of_imp ?_
  rintro ⟨isKey, acceptable⟩
  exact (refused row member isKey acceptable).1

/-- The single calls come to the rows that one statement for all keys makes. -/
theorem run_rows (lawful : action.Lawful key) (distinct : (rows.map key).Nodup) (keys : List Key)
    (apart : action.Apart key rows keys) (repeatable : action.Repeatable key rows keys) :
    (action.run key rows keys).rows = rows.map (action.after key rows keys) := by
  induction keys using List.reverseRecOn with
  | nil =>
      have unchanged : action.after key rows [] = id := by
        funext row
        simp [RowAction.after, RowAction.selects]
      simp [RowAction.run, unchanged]
  | append_singleton keys wanted ih =>
      have before := ih apart.before repeatable.before
      rw [run_append]
      rcases call_cases lawful distinct before wanted with
        ⟨called, refused⟩ | ⟨chosen, chosenIn, isKey, accepted, called⟩
      · rw [called, before, after_append_of_same (selects_of_refused refused)]
      · subst isKey
        rw [called]
        dsimp only
        rw [before, List.map_map]
        apply List.map_congr_left
        intro row member
        exact becomes_after lawful distinct chosenIn member apart repeatable accepted

/-- Seen through a view that the action does not change, it is applied to the rows that one
statement for all keys selects. -/
theorem mem_applied {View : Type} (view : Row -> View)
    (writes : forall row, view (action.write row) = view row)
    (displaces : forall row, view (action.displace row) = view row) (lawful : action.Lawful key)
    (distinct : (rows.map key).Nodup) (keys : List Key) (apart : action.Apart key rows keys)
    (repeatable : action.Repeatable key rows keys) (seen : View) :
    seen ∈ (action.run key rows keys).applied.map view ↔
      Exists fun row => row ∈ rows ∧ action.selects key keys row = true ∧ view row = seen := by
  induction keys using List.reverseRecOn with
  | nil => simp [RowAction.run, RowAction.selects]
  | append_singleton keys wanted ih =>
      have reached := run_rows lawful distinct keys apart.before repeatable.before
      have before := ih apart.before repeatable.before
      rw [run_append]
      rcases call_cases lawful distinct reached wanted with
        ⟨called, refused⟩ | ⟨chosen, chosenIn, isKey, accepted, called⟩
      · rw [called]
        dsimp only
        rw [before]
        apply exists_congr
        intro row
        exact and_congr_right fun member => by rw [selects_of_refused refused row member]
      · have viewed : view (action.after key rows keys chosen) = view chosen :=
          view_after view writes displaces rows keys chosen
        rw [called]
        dsimp only
        rw [List.map_append, List.mem_append, before, List.map_singleton, List.mem_singleton, viewed]
        constructor
        · rintro (⟨row, member, selected, isSeen⟩ | isSeen)
          · exact ⟨row, member, (selects_append keys wanted row).mpr (Or.inl selected), isSeen⟩
          · refine ⟨chosen, chosenIn, (selects_append keys wanted chosen).mpr (Or.inr ?_), isSeen.symm⟩
            exact ⟨isKey, accepts_of_after lawful accepted⟩
        · rintro ⟨row, member, selected, isSeen⟩
          rcases (selects_append keys wanted row).mp selected with earlier | ⟨same, _⟩
          · exact Or.inl ⟨row, member, earlier, isSeen⟩
          · have isChosen := List.inj_on_of_nodup_map distinct member chosenIn (same.trans isKey.symm)
            exact Or.inr (isChosen ▸ isSeen.symm)

/-- The table has a row of the key, and the action accepts it. -/
def RowAction.acceptsKey (action : RowAction Row) (key : Row -> Key) (rows : List Row)
    (wanted : Key) : Bool :=
  rows.any fun row => key row = wanted && action.accepts row

/-- When a row that is named twice is accepted as written, the calls that are refused are
those of the keys that the rows at the beginning do not accept. -/
theorem run_refused (lawful : action.Lawful key) (distinct : (rows.map key).Nodup) (keys : List Key)
    (apart : action.Apart key rows keys) (repeatable : action.Repeatable key rows keys)
    (again : forall row, row ∈ rows -> 2 ≤ keys.count (key row) -> action.accepts row = true ->
      action.accepts (action.write row) = true) :
    (action.run key rows keys).refused =
      keys.filter fun wanted => !action.acceptsKey key rows wanted := by
  induction keys using List.reverseRecOn with
  | nil => simp [RowAction.run]
  | append_singleton keys wanted ih =>
      have reached := run_rows lawful distinct keys apart.before repeatable.before
      have before := ih apart.before repeatable.before fun row member twice => by
        apply again row member
        rw [List.count_append]
        omega
      rw [run_append, List.filter_append, <- before]
      rcases call_cases lawful distinct reached wanted with
        ⟨called, refused⟩ | ⟨chosen, chosenIn, isKey, accepted, called⟩
      · have notAccepted : action.acceptsKey key rows wanted = false := by
          rw [RowAction.acceptsKey, List.any_eq_false]
          intro row member both
          rw [Bool.and_eq_true, decide_eq_true_eq] at both
          rcases refused row member both.1 both.2 with ⟨selected, refusedAgain⟩
          have named : 0 < keys.count wanted := by
            rw [List.count_pos_iff, <- both.1]
            simpa using (Bool.and_eq_true_iff.mp selected).1
          have twice : 2 ≤ (keys ++ [wanted]).count (key row) := by
            rw [both.1, List.count_append, List.count_singleton_self]
            omega
          rw [again row member twice both.2] at refusedAgain
          cases refusedAgain
        simp [called, notAccepted]
      · have isAccepted : action.acceptsKey key rows wanted = true := by
          rw [RowAction.acceptsKey, List.any_eq_true]
          exact ⟨chosen, chosenIn, by simp [isKey, accepts_of_after lawful accepted]⟩
        simp [called, isAccepted]

end

end Batches
end Library
end Tropek
