import Mathlib.Data.List.Basic
import Mathlib.Data.List.Infix

namespace Tropek
namespace Library

/-!
# Path patterns

A pattern is a list of parts: literal text, or a named part that takes some of the path.
A named part takes as much as the parts after it leave to it, and what it has taken is
given back piece by piece when they do not match.
-/

/-- A part of a compiled path: letters that stand for themselves, or a parameter.
`segment`: at least one character, and no slash; `rest`: any text. -/
inductive PathPart where
  | text (letters : List Char)
  | segment (name : String)
  | rest (name : String)
deriving DecidableEq, Repr

abbrev PathPattern : Type :=
  List PathPart

namespace PathPattern

/-- The result for the longest length that has one. -/
def longest {α : Type} (result : Nat -> Option α) : Nat -> Option α
  | 0 => result 0
  | length + 1 =>
      match result (length + 1) with
      | some found => some found
      | none => longest result length

/-- The values of the named parts, if the whole path matches. -/
def params : PathPattern -> List Char -> Option (List (String × List Char))
  | [], path => if path = [] then some [] else none
  | .text letters :: parts, path =>
      if letters.isPrefixOf path then params parts (path.drop letters.length) else none
  | .segment name :: parts, path =>
      longest (fun length =>
        if path.take length = [] ∨ '/' ∈ path.take length then none
        else (params parts (path.drop length)).map fun others => (name, path.take length) :: others)
        path.length
  | .rest name :: parts, path =>
      longest (fun length =>
        (params parts (path.drop length)).map fun others => (name, path.take length) :: others)
        path.length

section Longest

variable {α : Type} {result : Nat -> Option α} {found : α} {here length : Nat}

theorem longest_eq_none (nowhere : forall other, other ≤ length -> result other = none) :
    longest result length = none := by
  induction length with
  | zero => exact nowhere 0 (Nat.le_refl 0)
  | succ length ih =>
      rw [longest, nowhere (length + 1) (Nat.le_refl _)]
      exact ih fun other small => nowhere other (Nat.le_succ_of_le small)

theorem longest_eq_some (inside : here ≤ length) (isFound : result here = some found)
    (nothingLonger : forall other, here < other -> other ≤ length -> result other = none) :
    longest result length = some found := by
  induction length with
  | zero =>
      rw [Nat.le_zero.mp inside] at isFound
      exact isFound
  | succ length ih =>
      rcases Nat.le_succ_iff.mp inside with earlier | same
      · rw [longest, nothingLonger (length + 1) (Nat.lt_succ_of_le earlier) (Nat.le_refl _)]
        exact ih earlier fun other later small =>
          nothingLonger other later (Nat.le_succ_of_le small)
      · rw [same] at isFound
        rw [longest, isFound]

end Longest

/-- Texts that differ before either ends. -/
def diverge : List Char -> List Char -> Bool
  | first :: firstRest, second :: secondRest =>
      if first = second then diverge firstRest secondRest else true
  | _, _ => false

theorem diverge_isPrefixOf {letters start : List Char} (apart : diverge letters start = true)
    (path : List Char) : letters.isPrefixOf (start ++ path) = false := by
  induction letters generalizing start with
  | nil => cases start <;> cases apart
  | cons letter letters ih =>
      cases start with
      | nil => cases apart
      | cons first start =>
          rw [List.cons_append, List.isPrefixOf_cons_cons]
          unfold diverge at apart
          by_cases same : letter = first
          · rw [if_pos same] at apart
            rw [ih apart, Bool.and_false]
          · rw [beq_eq_false_iff_ne.mpr same, Bool.false_and]

theorem params_of_diverge {letters start : List Char} (apart : diverge letters start = true)
    (parts : PathPattern) (path : List Char) : params (.text letters :: parts)
    (start ++ path) = none := by
  rw [params, diverge_isPrefixOf apart, if_neg Bool.false_ne_true]

theorem params_text_append (letters : List Char) (parts : PathPattern) (path : List Char) :
    params (.text letters :: parts) (letters ++ path) = params parts path := by
  rw [params, if_pos (List.isPrefixOf_iff_prefix.mpr (List.prefix_append _ _)), List.drop_left]

/-- A literal pattern matches its own text only. -/
theorem params_literal (letters path : List Char) :
    params [.text letters] path = if path = letters then some [] else none := by
  rw [params]
  by_cases same : path = letters
  · subst same
    rw [if_pos (List.isPrefixOf_iff_prefix.mpr List.prefix_rfl), if_pos rfl, List.drop_length, params,
      if_pos rfl]
  · rw [if_neg same]
    by_cases starts : letters.isPrefixOf path = true
    · rw [if_pos starts, params, if_neg]
      intro ended
      rcases List.isPrefixOf_iff_prefix.mp starts with ⟨after, rfl⟩
      rw [List.drop_left] at ended
      rw [ended, List.append_nil] at same
      exact same rfl
    · rw [if_neg starts]

theorem params_rest (name : String) (path : List Char) : params [.rest name] path = some [(name, path)] := by
  rw [params]
  refine longest_eq_some (Nat.le_refl path.length) ?_ fun other longer small => by omega
  rw [List.drop_length, List.take_length, params, if_pos rfl]
  rfl

theorem drop_eq_iff {path letters : List Char} {length : Nat} (inside : length ≤ path.length) :
    path.drop length = letters ↔
      letters <:+ path ∧ length = path.length - letters.length := by
  constructor
  · intro same
    refine ⟨same ▸ List.drop_suffix length path, ?_⟩
    have lengths := congrArg List.length same
    rw [List.length_drop] at lengths
    omega
  · rintro ⟨⟨before, rfl⟩, rfl⟩
    rw [List.length_append, Nat.add_sub_cancel, List.drop_left]

/-- Before a literal end, it takes what is in front of that end. -/
theorem params_rest_text (name : String) (letters path : List Char) :
    params [.rest name, .text letters] path =
      if letters <:+ path then some [(name, path.take (path.length - letters.length))] else none := by
  rw [params]
  have taken : forall length, length ≤ path.length -> (params [.text letters] (path.drop length)).map
      (fun others => (name, path.take length) :: others) =
        if letters <:+ path ∧ length = path.length - letters.length then
          some [(name, path.take length)] else none := by
    intro length inside
    rw [params_literal]
    simp only [drop_eq_iff inside]
    split <;> rfl
  by_cases ends : letters <:+ path
  · rw [if_pos ends]
    refine longest_eq_some (Nat.sub_le path.length letters.length) ?_ ?_
    · rw [taken _ (Nat.sub_le _ _), if_pos ⟨ends, rfl⟩]
    · intro other longer small
      rw [taken other small, if_neg]
      rintro ⟨_, same⟩
      omega
  · rw [if_neg ends]
    refine longest_eq_none fun other small => ?_
    rw [taken other small, if_neg]
    rintro ⟨impossible, _⟩
    exact ends impossible

end PathPattern
end Library
end Tropek
