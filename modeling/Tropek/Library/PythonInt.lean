import Mathlib.Algebra.Order.Ring.Int
import Mathlib.Data.List.DropRight

namespace Tropek
namespace Library

/-!
# Integers in texts, as Python reads them

`str.isdigit` is true of more characters than `int` reads: a superscript is a digit and not
a decimal one.  `int` takes one sign, decimal digits of any script with single underscores
between them, white space around them, and no more digits than the interpreter's limit.

Which characters are spaces and digits is a matter of the Unicode tables.  Of these it is
enough that the marks of a number are none of them and that a digit is no space.
-/

/-- What the interpreter knows of characters.  `decimal`: the value of a decimal digit;
`otherDigit`: a digit that is not a decimal one. -/
structure PythonText where
  isSpace : Char -> Bool
  decimal : Char -> Option Nat
  otherDigit : Char -> Bool
  marks : forall mark, mark ∈ ['-', '+', '_'] ->
    isSpace mark = false ∧ decimal mark = none ∧ otherDigit mark = false
  apart : forall letter, ((decimal letter).isSome || otherDigit letter) = true ->
    isSpace letter = false

namespace PythonText

variable (python : PythonText)

def isDigit (letter : Char) : Bool :=
  (python.decimal letter).isSome || python.otherDigit letter

/-- `str.isdigit`. -/
def allDigits (text : List Char) : Bool :=
  !text.isEmpty && text.all python.isDigit

/-- `text.lstrip('-')`. -/
def withoutDashes (text : List Char) : List Char :=
  text.dropWhile fun letter => letter = '-'

def strip (text : List Char) : List Char :=
  (text.dropWhile python.isSpace).rdropWhile python.isSpace

/-- Decimal digits with single underscores between them. -/
def digits : List Char -> Option (List Nat)
  | [] => none
  | letter :: rest => do
      let digit <- python.decimal letter
      match rest with
      | [] => return [digit]
      | next :: later => do
          let others <- if next = '_' then digits later else digits (next :: later)
          return digit :: others

def value (digits : List Nat) : Int :=
  digits.foldl (fun value digit => 10 * value + digit) 0

/-- `sys.get_int_max_str_digits()`. -/
def maxDigits : Nat :=
  4300

def bounded (digits : List Nat) : Option Int :=
  if digits.length ≤ maxDigits then some (value digits) else none

def unsigned (text : List Char) : Option Int :=
  (python.digits text).bind bounded

def int (text : List Char) : Option Int :=
  match python.strip text with
  | '-' :: rest => (python.unsigned rest).map fun number => -number
  | '+' :: rest => python.unsigned rest
  | stripped => python.unsigned stripped

def plainDigits (text : List Char) : Option Int :=
  if text = [] then none else (text.mapM python.decimal).bind bounded

/-- A number as it is usually written: one minus sign at most, and decimal digits. -/
def plain (text : List Char) : Option Int :=
  match text with
  | '-' :: rest => (python.plainDigits rest).map fun number => -number
  | _ => python.plainDigits text

variable {python}

theorem isDigit_notSpace {letter : Char} (digit : python.isDigit letter = true) :
    python.isSpace letter = false :=
  python.apart letter digit

theorem isDigit_notMark {letter mark : Char} (digit : python.isDigit letter = true)
    (isMark : mark ∈ ['-', '+', '_']) : letter ≠ mark := by
  intro same
  rcases python.marks mark isMark with ⟨_, notDecimal, notOther⟩
  unfold isDigit at digit
  rw [same, notDecimal, notOther] at digit
  cases digit

variable {text : List Char}

theorem strip_eq_self {first : Char} (front : python.isSpace first = false)
    (back : forall last, (first :: text).getLast? = some last -> python.isSpace last = false) :
    python.strip (first :: text) = first :: text := by
  unfold strip
  rw [List.dropWhile_cons_of_neg (by rw [front]; exact Bool.false_ne_true)]
  rw [List.rdropWhile_eq_self_iff]
  intro nonempty
  rw [back _ (List.getLast?_eq_some_getLast nonempty)]
  exact Bool.false_ne_true

/-- Without underscores, every character has to be a decimal digit. -/
theorem digits_eq_mapM (nonempty : text ≠ [])
    (allDigits : forall letter, letter ∈ text -> python.isDigit letter = true) :
    python.digits text = text.mapM python.decimal := by
  induction text with
  | nil => exact absurd rfl nonempty
  | cons letter rest ih =>
      rw [digits, List.mapM_cons]
      cases rest with
      | nil => cases python.decimal letter <;> rfl
      | cons next later =>
          have notUnderscore : next ≠ '_' := isDigit_notMark (allDigits next (by simp)) (by simp)
          simp only [if_neg notUnderscore]
          rw [ih (List.cons_ne_nil _ _)
            fun other member => allDigits other (List.mem_cons_of_mem _ member)]

theorem unsigned_eq_plainDigits (nonempty : text ≠ [])
    (allDigits : forall letter, letter ∈ text -> python.isDigit letter = true) :
    python.unsigned text = python.plainDigits text := by
  unfold unsigned plainDigits
  rw [digits_eq_mapM nonempty allDigits, if_neg nonempty]

theorem unsigned_dash (rest : List Char) : python.unsigned ('-' :: rest) = none := by
  have notDecimal := (python.marks '-' (by simp)).2.1
  unfold unsigned
  rw [digits, notDecimal]
  rfl

theorem plainDigits_dash (rest : List Char) : python.plainDigits ('-' :: rest) = none := by
  have notDecimal := (python.marks '-' (by simp)).2.1
  unfold plainDigits
  rw [if_neg (List.cons_ne_nil _ _), List.mapM_cons, notDecimal]
  rfl

theorem allDigits_iff : python.allDigits text = true ↔
    text ≠ [] ∧ forall letter, letter ∈ text -> python.isDigit letter = true := by
  unfold allDigits
  rw [Bool.and_eq_true, List.all_eq_true]
  cases text <;> simp

/-- A text that ends in a digit ends in no space. -/
theorem ends_notSpace (before : List Char) (accepted : python.allDigits text = true) :
    forall last, (before ++ text).getLast? = some last -> python.isSpace last = false := by
  rcases allDigits_iff.mp accepted with ⟨nonempty, digits⟩
  intro last isLast
  rw [List.getLast?_append_of_ne_nil _ nonempty] at isLast
  exact isDigit_notSpace (digits last (List.mem_of_getLast? isLast))

theorem strip_accepted (accepted : python.allDigits (withoutDashes text) = true) :
    python.strip text = text := by
  have split : text.takeWhile (fun letter => letter = '-') ++ withoutDashes text = text :=
    List.takeWhile_append_dropWhile
  have back := ends_notSpace (text.takeWhile fun letter => letter = '-') accepted
  rw [split] at back
  cases text with
  | nil => cases accepted
  | cons first rest =>
      refine strip_eq_self ?_ back
      by_cases dash : first = '-'
      · rw [dash]
        exact (python.marks '-' (by simp)).1
      · unfold withoutDashes at accepted
        rw [List.dropWhile_cons_of_neg (by simpa using dash)] at accepted
        exact isDigit_notSpace ((allDigits_iff.mp accepted).2 first List.mem_cons_self)

/-- Of a text that is accepted as digits behind dashes, `int` reads what is plain. -/
theorem int_eq_plain (accepted : python.allDigits (withoutDashes text) = true) :
    python.int text = python.plain text := by
  unfold int
  rw [strip_accepted accepted]
  cases text with
  | nil => cases accepted
  | cons first rest =>
      by_cases dash : first = '-'
      · subst dash
        change (python.unsigned rest).map _ = (python.plainDigits rest).map _
        cases rest with
        | nil => cases accepted
        | cons second later =>
            by_cases again : second = '-'
            · rw [again, unsigned_dash, plainDigits_dash]
            · have remaining : withoutDashes ('-' :: second :: later) = second :: later := by
                unfold withoutDashes
                rw [List.dropWhile_cons_of_pos (by simp), List.dropWhile_cons_of_neg (by simpa using again)]
              rw [remaining] at accepted
              rcases allDigits_iff.mp accepted with ⟨nonempty, digits⟩
              rw [unsigned_eq_plainDigits nonempty digits]
      · have remaining : withoutDashes (first :: rest) = first :: rest := by
          unfold withoutDashes
          rw [List.dropWhile_cons_of_neg (by simpa using dash)]
        rw [remaining] at accepted
        rcases allDigits_iff.mp accepted with ⟨nonempty, digits⟩
        have notPlus : first ≠ '+' := isDigit_notMark (digits first List.mem_cons_self) (by simp)
        have notMinus : first ≠ '-' := dash
        unfold plain
        split
        · rename_i same
          exact absurd (List.cons.inj same).1 notMinus
        · rename_i same
          exact absurd (List.cons.inj same).1 notPlus
        · split
          · rename_i same
            exact absurd (List.cons.inj same).1 notMinus
          · exact unsigned_eq_plainDigits nonempty digits

end PythonText
end Library
end Tropek
