import Mathlib.Data.Nat.Log
import Mathlib.Tactic.NormNum

namespace Tropek
namespace Library

/-!
# Whole numbers in double precision

A number of the browser is a double.  The whole numbers below `2 ^ 53` are exact.
A longer decimal is rounded to fifty-three binary digits when it is read, and a
number is printed with as few significant digits as are read back as that number,
as an integer when it is below `10 ^ 21` and with an exponent otherwise.
-/

namespace Doubles

/-- The double nearest to a whole number, the even one of two. -/
def nearest (value : Nat) : Nat :=
  let unit := 2 ^ (Nat.log2 value - 52)
  let quotient := value / unit
  let remainder := value % unit
  if 2 * remainder < unit ∨ (2 * remainder = unit ∧ quotient % 2 = 0) then quotient * unit
  else (quotient + 1) * unit

theorem nearest_of_lt {value : Nat} (small : value < 2 ^ 53) : nearest value = value := by
  have exponent : Nat.log2 value - 52 = 0 := by
    rw [Nat.log2_eq_log_two]
    have bounded : Nat.log 2 value < 53 := Nat.log_lt_of_lt_pow' (by decide) small
    omega
  unfold nearest
  rw [exponent]
  simp [Nat.mod_one]

/-- The nearer of the two neighbouring multiples of a unit that are read as a value. -/
def decimalAt (value unit : Nat) : Option Nat :=
  let below := value / unit * unit
  let above := below + unit
  if nearest below = value ∧ (nearest above = value -> value - below ≤ above - value) then some below
  else if nearest above = value then some above
  else none

/-- The shortest decimal that is read as a double. -/
def shortest (value : Nat) : Nat :=
  ((List.range (Nat.toDigits 10 value).length).reverse.findSome? fun exponent =>
    decimalAt value (10 ^ exponent)).getD value

theorem nearest_decimalAt {value unit decimal : Nat} (found : decimalAt value unit = some decimal) :
    nearest decimal = value := by
  unfold decimalAt at found
  dsimp only at found
  split at found
  · rename_i isBelow
    rw [<- Option.some.inj found]
    exact isBelow.1
  · split at found
    · rename_i isAbove
      rw [<- Option.some.inj found]
      exact isAbove
    · cases found

/-- What is printed is read back. -/
theorem nearest_shortest {value : Nat} (isDouble : nearest value = value) :
    nearest (shortest value) = value := by
  unfold shortest
  cases found : (List.range (Nat.toDigits 10 value).length).reverse.findSome? fun exponent =>
      decimalAt value (10 ^ exponent) with
  | none => exact isDouble
  | some decimal =>
      rcases List.exists_of_findSome?_eq_some found with ⟨exponent, _, here⟩
      exact nearest_decimalAt here

/-- The digits without the zeros at the end. -/
def significant (digits : List Char) : List Char :=
  (digits.reverse.dropWhile (· = '0')).reverse

/-- `s.sse+n` -/
def exponentText (value : Nat) : List Char :=
  let digits := Nat.toDigits 10 (shortest value)
  let fraction := (significant digits).drop 1
  digits.take 1 ++ (if fraction = [] then [] else '.' :: fraction) ++ ['e', '+'] ++
    Nat.toDigits 10 (digits.length - 1)

/-- The text of a whole number. -/
def text (value : Nat) : List Char :=
  if value < 10 ^ 21 then Nat.toDigits 10 (shortest value) else exponentText value

theorem exponent_mem_text {value : Nat} (large : 10 ^ 21 ≤ value) : 'e' ∈ text value := by
  unfold text exponentText
  rw [if_neg (not_lt.mpr large)]
  simp

/-- The first number that is too large for a double. -/
def overflow : Nat :=
  2 ^ 1024

theorem lt_overflow {value : Nat} (small : value < 10 ^ 21) : value < overflow := by
  have bounded : 10 ^ 21 < 2 ^ 70 := by norm_num
  exact (small.trans bounded).trans_le (pow_le_pow_right₀ one_le_two (by norm_num))

/-- What the digits of a decimal are read as, when it is not too large for a double. -/
def read (digits : List Char) : Option Nat :=
  let value := nearest (Nat.ofDigitChars 10 digits 0)
  if value < overflow then some value else none

theorem read_toDigits {value : Nat} (small : nearest value < overflow) :
    read (Nat.toDigits 10 value) = some (nearest value) := by
  unfold read
  dsimp only
  rw [Nat.ofDigitChars_ten_toDigits, if_pos small]

/-- A number below `10 ^ 21` is read back from its text. -/
theorem read_text {value : Nat} (isDouble : nearest value = value) (small : value < 10 ^ 21) :
    read (text value) = some value := by
  have printed := nearest_shortest isDouble
  unfold text
  rw [if_pos small, read_toDigits, printed]
  exact printed.symm ▸ lt_overflow small

end Doubles

end Library
end Tropek
