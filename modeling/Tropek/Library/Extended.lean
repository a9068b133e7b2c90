import Mathlib.Algebra.Order.Ring.Rat
import Mathlib.Order.WithBot
import Tropek.Library.Latest

namespace Tropek
namespace Library

/-!
# Numbers with infinities

Floating-point numbers without rounding: a rational number, one of the two infinities, or
NaN.  An operation gives a number only if all its operands are numbers.  An infinity or a
NaN never becomes a number again.
-/

inductive Extended where
  | finite (value : ℚ)
  | posInf
  | negInf
  | nan
deriving DecidableEq

namespace Extended

def IsFinite : Extended -> Prop
  | .finite _ => True
  | _ => False

instance (number : Extended) : Decidable number.IsFinite := by
  cases number <;> unfold IsFinite <;> infer_instance

def isNan : Extended -> Bool
  | .nan => true
  | _ => false

def add : Extended -> Extended -> Extended
  | .finite first, .finite second => .finite (first + second)
  | .finite _, other => other
  | other, .finite _ => other
  | .posInf, .posInf => .posInf
  | .negInf, .negInf => .negInf
  | _, _ => .nan

def neg : Extended -> Extended
  | .finite value => .finite (-value)
  | .posInf => .negInf
  | .negInf => .posInf
  | .nan => .nan

def sub (first second : Extended) : Extended :=
  first.add second.neg

/-- The product with a number.  Zero times an infinity is NaN. -/
def scale (factor : ℚ) : Extended -> Extended
  | .finite value => .finite (factor * value)
  | .nan => .nan
  | .posInf => if factor = 0 then .nan else if 0 < factor then .posInf else .negInf
  | .negInf => if factor = 0 then .nan else if 0 < factor then .negInf else .posInf

def square : Extended -> Extended
  | .finite value => .finite (value * value)
  | .nan => .nan
  | _ => .posInf

def total (numbers : List Extended) : Extended :=
  numbers.foldl add (.finite 0)

def average (numbers : List Extended) : Extended :=
  (total numbers).scale (1 / numbers.length)

/-- The mean square deviation from the average. -/
def variance (numbers : List Extended) : Extended :=
  average (numbers.map fun number => (number.sub (average numbers)).square)

@[simp] theorem isFinite_add (first second : Extended) :
    (first.add second).IsFinite ↔ first.IsFinite ∧ second.IsFinite := by
  cases first <;> cases second <;> simp [add, IsFinite]

@[simp] theorem isFinite_neg (number : Extended) : number.neg.IsFinite ↔ number.IsFinite := by
  cases number <;> simp [neg, IsFinite]

@[simp] theorem isFinite_sub (first second : Extended) :
    (first.sub second).IsFinite ↔ first.IsFinite ∧ second.IsFinite := by
  simp [sub]

@[simp] theorem isFinite_scale (factor : ℚ) (number : Extended) :
    (number.scale factor).IsFinite ↔ number.IsFinite := by
  cases number with
  | finite value => simp [scale, IsFinite]
  | nan => simp [scale, IsFinite]
  | posInf =>
      unfold scale
      split_ifs <;> simp [IsFinite]
  | negInf =>
      unfold scale
      split_ifs <;> simp [IsFinite]

@[simp] theorem isFinite_square (number : Extended) :
    number.square.IsFinite ↔ number.IsFinite := by
  cases number <;> simp [square, IsFinite]

/-- A sum is a number exactly when all its terms are. -/
@[simp] theorem isFinite_total (numbers : List Extended) :
    (total numbers).IsFinite ↔ forall number, number ∈ numbers -> number.IsFinite := by
  have from_any : forall start : Extended, (numbers.foldl add start).IsFinite ↔
      start.IsFinite ∧ forall number, number ∈ numbers -> number.IsFinite := by
    induction numbers with
    | nil => simp
    | cons first rest ih =>
        intro start
        rw [List.foldl_cons, ih, isFinite_add, List.forall_mem_cons, and_assoc]
  exact (from_any (.finite 0)).trans ⟨And.right, fun all => ⟨trivial, all⟩⟩

@[simp] theorem isFinite_average (numbers : List Extended) :
    (average numbers).IsFinite ↔ forall number, number ∈ numbers -> number.IsFinite := by
  simp [average]

@[simp] theorem isFinite_variance (numbers : List Extended) :
    (variance numbers).IsFinite ↔ forall number, number ∈ numbers -> number.IsFinite := by
  simp only [variance, isFinite_average, List.forall_mem_map, isFinite_square, isFinite_sub]
  exact ⟨fun both number member => (both number member).1, fun all number member =>
    ⟨all number member, all⟩⟩

/-- The place in the order from the negative to the positive infinity. -/
def rank : Extended -> WithBot (WithTop ℚ)
  | .negInf => ⊥
  | .finite value => ((value : WithTop ℚ) : WithBot (WithTop ℚ))
  | _ => ((⊤ : WithTop ℚ) : WithBot (WithTop ℚ))

def sorted (numbers : List Extended) : List Extended :=
  Latest.sortBy rank numbers

/-- The value at a place of the sorted numbers. -/
def orderStatistic (numbers : List Extended) (place : Nat) : Extended :=
  (sorted numbers).getD place .nan

/-- A position between the first and the last of the sorted numbers. -/
def virtualIndex (numbers : List Extended) (percent : ℚ) : ℚ :=
  (numbers.length - 1) * percent / 100

def lowerPlace (numbers : List Extended) (percent : ℚ) : Nat :=
  (virtualIndex numbers percent).floor.toNat

def upperPlace (numbers : List Extended) (percent : ℚ) : Nat :=
  min (lowerPlace numbers percent + 1) (numbers.length - 1)

/-- The linear interpolation `i + (j - i) * fraction` between the adjacent order
statistics. -/
def interpolate (numbers : List Extended) (percent : ℚ) : Extended :=
  let lower := orderStatistic numbers (lowerPlace numbers percent)
  let upper := orderStatistic numbers (upperPlace numbers percent)
  lower.add ((upper.sub lower).scale (virtualIndex numbers percent - lowerPlace numbers percent))

/-- An interpolated value is a number exactly when both order statistics are. -/
theorem isFinite_interpolate (numbers : List Extended) (percent : ℚ) :
    (interpolate numbers percent).IsFinite ↔
      (orderStatistic numbers (lowerPlace numbers percent)).IsFinite ∧
        (orderStatistic numbers (upperPlace numbers percent)).IsFinite := by
  simp only [interpolate, isFinite_add, isFinite_scale, isFinite_sub]
  tauto

theorem orderStatistic_mem {numbers : List Extended} {place : Nat}
    (isNumber : (orderStatistic numbers place).IsFinite) :
    orderStatistic numbers place ∈ numbers := by
  unfold orderStatistic at isNumber ⊢
  rw [List.getD_eq_getElem?_getD] at isNumber ⊢
  cases found : (sorted numbers)[place]? with
  | none =>
      rw [found] at isNumber
      exact absurd isNumber id
  | some number =>
      exact (Latest.sortBy_perm rank numbers).mem_iff.mp (List.mem_of_getElem? found)

end Extended
end Library
end Tropek
