import Mathlib.Data.List.Forall2
import Mathlib.Data.List.Induction
import Mathlib.Data.List.Nodup
import Tropek.Library.Latest

namespace Tropek
namespace Library

/-!
# Maps filled in order

A map that is filled entry by entry has, for each key, the last entry of that key.  Here the
map is the list of its entries, so that what it holds after several parts were added can be
read off the parts.
-/

namespace Entries

theorem exists_mem_zipIdx {Entry : Type} {entries : List Entry} {entry : Entry}
    (member : entry ∈ entries) : Exists fun position => (entry, position) ∈ entries.zipIdx := by
  rcases List.getElem_of_mem member with ⟨position, bound, isEntry⟩
  refine ⟨position, List.mem_zipIdx_iff_getElem?.mpr ?_⟩
  rw [List.getElem?_eq_getElem bound, isEntry]

section Last

variable {Key Entry : Type} [DecidableEq Key] (key : Entry -> Key)

/-- The entry that a map filled with the list has for a key. -/
def last (wanted : Key) (entries : List Entry) : Option Entry :=
  entries.reverse.find? fun entry => key entry = wanted

variable {key} {wanted : Key}

theorem last_append (entries more : List Entry) :
    last key wanted (entries ++ more) = (last key wanted more).or (last key wanted entries) := by
  simp only [last, List.reverse_append, List.find?_append]

theorem last_concat (entries : List Entry) (entry : Entry) :
    last key wanted (entries ++ [entry]) =
      if key entry = wanted then some entry else last key wanted entries := by
  rw [last_append]
  by_cases same : key entry = wanted
  · simp [last, same]
  · simp [last, same]

variable {entries : List Entry}

theorem last_eq_none :
    last key wanted entries = none ↔ forall entry, entry ∈ entries -> key entry ≠ wanted := by
  simp [last]

theorem last_eq_some {entry : Entry} (found : last key wanted entries = some entry) :
    entry ∈ entries ∧ key entry = wanted := by
  have member := List.mem_of_find?_eq_some found
  have selected := List.find?_some found
  exact ⟨List.mem_reverse.mp member, of_decide_eq_true selected⟩

/-- An entry whose key no other entry has is the last one of its key. -/
theorem last_of_unique {entry : Entry} (member : entry ∈ entries)
    (unique : forall other, other ∈ entries -> key other = key entry -> other = entry) :
    last key (key entry) entries = some entry := by
  cases found : last key (key entry) entries with
  | none => exact absurd rfl (last_eq_none.mp found entry member)
  | some other =>
      rcases last_eq_some found with ⟨inside, same⟩
      rw [unique other inside same]

/-- Among entries of one key it is the last one. -/
theorem last_of_forall (all : forall entry, entry ∈ entries -> key entry = wanted) :
    last key wanted entries = entries.getLast? := by
  induction entries using List.reverseRecOn with
  | nil => rfl
  | append_singleton rest entry _ =>
      have same := all entry (List.mem_append_right _ List.mem_cons_self)
      rw [last_concat, if_pos same, List.getLast?_concat]

/-- Only the entries of the key matter. -/
theorem last_filter (entries : List Entry) :
    last key wanted (entries.filter fun entry => key entry = wanted) = last key wanted entries := by
  induction entries using List.reverseRecOn with
  | nil => rfl
  | append_singleton rest entry ih =>
      rw [List.filter_append, last_append, last_concat, ih]
      by_cases same : key entry = wanted
      · simp [last, same]
      · simp [last, same]

section Other

variable {Other : Type}

theorem last_map (entryOf : Other -> Entry) (others : List Other) :
    last key wanted (others.map entryOf) =
      (last (fun other => key (entryOf other)) wanted others).map entryOf := by
  simp only [last, <- List.map_reverse, List.find?_map, Function.comp_def]

/-- When only one part has entries of the key, the others do not matter. -/
theorem last_flatMap {entriesOf : Other -> List Entry} {others : List Other} {part : Other}
    (member : part ∈ others) (nodup : others.Nodup)
    (own : forall other, other ∈ others -> forall entry, entry ∈ entriesOf other ->
      key entry = wanted -> other = part) :
    last key wanted (others.flatMap entriesOf) = last key wanted (entriesOf part) := by
  induction others with
  | nil => exact absurd member List.not_mem_nil
  | cons head rest ih =>
      rw [List.nodup_cons] at nodup
      rw [List.flatMap_cons, last_append]
      rcases List.mem_cons.mp member with isHead | inside
      · have later : last key wanted (rest.flatMap entriesOf) = none := by
          rw [last_eq_none]
          intro entry inRest same
          rcases List.mem_flatMap.mp inRest with ⟨other, otherInside, ofOther⟩
          have isPart := own other (List.mem_cons_of_mem _ otherInside) entry ofOther same
          exact nodup.1 (isHead ▸ isPart ▸ otherInside)
        rw [later, isHead]
        rfl
      · have earlier : last key wanted (entriesOf head) = none := by
          rw [last_eq_none]
          intro entry ofHead same
          exact nodup.1 (own head List.mem_cons_self entry ofHead same ▸ inside)
        rw [earlier, Option.or_none]
        exact ih inside nodup.2 fun other otherInside =>
          own other (List.mem_cons_of_mem _ otherInside)

/-- When each part has entries of its own key, the entries of one key are those of one part. -/
theorem filter_flatMap {partKey : Other -> Key} {entriesOf : Other -> List Entry}
    {others : List Other} {part : Other} (nodup : (others.map partKey).Nodup)
    (own : forall other, other ∈ others -> forall entry, entry ∈ entriesOf other ->
      key entry = partKey other) (member : part ∈ others) :
    (others.flatMap entriesOf).filter (fun entry => key entry = partKey part) = entriesOf part := by
  induction others with
  | nil => exact absurd member List.not_mem_nil
  | cons head rest ih =>
      rw [List.map_cons, List.nodup_cons] at nodup
      rw [List.flatMap_cons, List.filter_append]
      have notHead : forall other, other ∈ rest -> partKey other ≠ partKey head := by
        intro other inside same
        exact nodup.1 (same ▸ List.mem_map_of_mem inside)
      rcases List.mem_cons.mp member with isHead | inside
      · subst isHead
        have whole : (entriesOf part).filter (fun entry => key entry = partKey part) =
            entriesOf part :=
          List.filter_eq_self.mpr fun entry ofPart =>
            decide_eq_true (own part List.mem_cons_self entry ofPart)
        have nothing : (rest.flatMap entriesOf).filter (fun entry => key entry = partKey part) =
            [] := by
          refine List.filter_eq_nil_iff.mpr fun entry inRest same => ?_
          rcases List.mem_flatMap.mp inRest with ⟨other, otherInside, ofOther⟩
          have isKey := own other (List.mem_cons_of_mem _ otherInside) entry ofOther
          exact notHead other otherInside (isKey.symm.trans (of_decide_eq_true same))
        rw [whole, nothing, List.append_nil]
      · have nothing : (entriesOf head).filter (fun entry => key entry = partKey part) = [] := by
          refine List.filter_eq_nil_iff.mpr fun entry ofHead same => ?_
          have isKey := own head List.mem_cons_self entry ofHead
          exact notHead part inside ((of_decide_eq_true same).symm.trans isKey)
        rw [nothing, List.nil_append]
        exact ih nodup.2 (fun other otherInside =>
          own other (List.mem_cons_of_mem _ otherInside)) inside

end Other

/-- Related lists have related last entries. -/
theorem last_related {Other : Type} (entryKey : Entry -> Key) (otherKey : Other -> Key)
    (sought : Key) {related : Entry -> Other -> Prop} {others : List Other}
    (keeps : forall entry other, related entry other -> otherKey other = entryKey entry)
    (alike : List.Forall₂ related entries others) :
    Option.Rel related (last entryKey sought entries) (last otherKey sought others) := by
  refine Latest.find?_related (fun entry other here => ?_) (List.rel_reverse alike)
  rw [keeps entry other here]

/-- Two keys that select the same entries have the same last one. -/
theorem last_congr {OtherKey : Type} [DecidableEq OtherKey] {otherKey : Entry -> OtherKey}
    {otherWanted : OtherKey}
    (same : forall entry, entry ∈ entries -> (key entry = wanted ↔ otherKey entry = otherWanted)) :
    last key wanted entries = last otherKey otherWanted entries := by
  induction entries using List.reverseRecOn with
  | nil => rfl
  | append_singleton rest entry ih =>
      rw [last_concat, last_concat,
        ih fun other inside => same other (List.mem_append_left _ inside)]
      exact if_congr (same entry (List.mem_append_right _ List.mem_cons_self)) rfl rfl

end Last

end Entries

end Library
end Tropek
