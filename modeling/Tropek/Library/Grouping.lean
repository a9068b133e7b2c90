import Mathlib.Data.List.AList
import Mathlib.Data.List.Induction
import Mathlib.Data.List.Perm.Basic

namespace Tropek
namespace Library

/-!
# Grouping by a key

A loop over parts that keeps one entry for each key in a dictionary.  The entry of a
key is what the parts of that key make of it, whatever stands between them, and the
keys are those of the parts.
-/

namespace Grouping

variable {Key Part Entry : Type} [DecidableEq Key] (key : Part -> Key)
  (add : Option Entry -> Part -> Entry)

/-- Add one part to the entry of its key. -/
def collect (groups : AList fun _ : Key => Entry) (part : Part) : AList fun _ : Key => Entry :=
  groups.insert (key part) (add (groups.lookup (key part)) part)

def collectAll (parts : List Part) : AList fun _ : Key => Entry :=
  parts.foldl (collect key add) ∅

/-- The entry that parts of one key make. -/
def entryOf (parts : List Part) : Option Entry :=
  parts.foldl (fun entry part => some (add entry part)) none

theorem lookup_collect (groups : AList fun _ : Key => Entry) (part : Part) (wanted : Key) :
    (collect key add groups part).lookup wanted =
      if key part = wanted then some (add (groups.lookup wanted) part) else groups.lookup wanted := by
  unfold collect
  by_cases same : key part = wanted
  · rw [if_pos same, <- same, AList.lookup_insert]
  · rw [if_neg same, AList.lookup_insert_ne (Ne.symm same)]

/-- The entry of a key is made by the parts of that key. -/
theorem lookup_collectAll (parts : List Part) (wanted : Key) :
    (collectAll key add parts).lookup wanted =
      entryOf add (parts.filter fun part => key part = wanted) := by
  unfold collectAll entryOf
  induction parts using List.reverseRecOn with
  | nil => rfl
  | append_singleton rest part ih =>
      rw [List.foldl_append, List.foldl_cons, List.foldl_nil, lookup_collect, ih,
        List.filter_append, List.foldl_append]
      by_cases same : key part = wanted
      · simp [same]
      · simp [same]

theorem entryOf_isSome (parts : List Part) : (entryOf add parts).isSome = !parts.isEmpty := by
  unfold entryOf
  induction parts using List.reverseRecOn with
  | nil => rfl
  | append_singleton rest part _ => simp

theorem mem_keys_collectAll {parts : List Part} {wanted : Key} :
    wanted ∈ (collectAll key add parts).keys ↔
      Exists fun part => part ∈ parts ∧ key part = wanted := by
  rw [<- AList.mem_keys, <- AList.lookup_isSome, lookup_collectAll, entryOf_isSome]
  simp

/-- An invariant of the entries that every added part keeps. -/
theorem entryOf_invariant (holds : Entry -> Prop)
    (step : forall entry part, (forall before, entry = some before -> holds before) ->
      holds (add entry part))
    {parts : List Part} {entry : Entry} (made : entryOf add parts = some entry) : holds entry := by
  unfold entryOf at made
  induction parts using List.reverseRecOn generalizing entry with
  | nil => cases made
  | append_singleton rest part ih =>
      rw [List.foldl_append, List.foldl_cons, List.foldl_nil, Option.some.injEq] at made
      rw [<- made]
      exact step _ part fun before isBefore => ih isBefore

/-- Two lists with the same parts of every key, in the same order. -/
def Alike (first second : List Part) : Prop :=
  forall wanted, first.filter (fun part => key part = wanted) =
    second.filter fun part => key part = wanted

theorem lookup_of_alike {first second : List Part} (alike : Alike key first second) (wanted : Key) :
    (collectAll key add first).lookup wanted = (collectAll key add second).lookup wanted := by
  rw [lookup_collectAll, lookup_collectAll, alike wanted]

theorem keys_of_alike {first second : List Part} (alike : Alike key first second) :
    (collectAll key add first).keys.Perm (collectAll key add second).keys := by
  rw [List.perm_ext_iff_of_nodup (AList.keys_nodup _) (AList.keys_nodup _)]
  intro wanted
  rw [<- AList.mem_keys, <- AList.mem_keys, <- AList.lookup_isSome, <- AList.lookup_isSome,
    lookup_of_alike key add alike]

/-- Of parts with distinct keys at most one has a given key, wherever it stands. -/
theorem filter_of_perm {first second : List Part} (distinct : (first.map key).Nodup)
    (reordered : first.Perm second) (wanted : Key) :
    first.filter (fun part => key part = wanted) = second.filter fun part => key part = wanted := by
  have selected := reordered.filter fun part => decide (key part = wanted)
  have keys : ((first.filter fun part => key part = wanted).map key).Nodup :=
    distinct.sublist (List.filter_sublist.map key)
  have same : forall part, part ∈ first.filter (fun part => key part = wanted) ->
      key part = wanted := fun part member => of_decide_eq_true (List.mem_filter.mp member).2
  generalize first.filter _ = chosen at selected keys same ⊢
  cases chosen with
  | nil => exact (List.nil_perm.mp selected).symm
  | cons part others =>
      cases others with
      | nil => exact (List.perm_singleton.mp selected.symm).symm
      | cons other rest =>
          have isSame := (same part List.mem_cons_self).trans
            (same other (List.mem_cons_of_mem _ List.mem_cons_self)).symm
          have apart := (List.nodup_cons.mp keys).1
          exact absurd (isSame ▸ List.mem_cons_self) apart

end Grouping

end Library
end Tropek
