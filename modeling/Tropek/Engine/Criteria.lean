import Mathlib.Data.List.Sort
import Mathlib.Data.Rat.Floor

namespace Tropek
namespace Engine

/-!
# Criteria strings

An objective carries its thresholds as strings such as `<600` or `<=+10%`.
Nothing checks them when the objective is stored: they are parsed each time an
evaluation is scored, and a string outside the pattern raises there.  The
parser, the comparison with a baseline and the aggregation of baseline values
below follow `criteria.py`.

A criterion is parsed and compared in any arithmetic that has the four operations,
decimal literals and the comparisons.  The program computes in IEEE doubles, which
are `Float`; the modules that score evaluations use exact rationals, so that what
they prove is not about rounding.  Whitespace and decimal digits are those of
Python's `str.split` and of `\d`, which are not limited to ASCII.
-/

/-- The exceptions of the engine, with the values that their texts contain.
`cannotParseCriteria`: `Cannot parse criteria string`, with the string as it was stored;
`emptyValues`: `Cannot aggregate empty values list`; `emptyObjectives`: `objectives list
is empty`; `invalidSloStructure`: `invalid slo structure`, with the comparison fields
that were refused; `unresolvedVariable`: `Unresolved variable`, with the name that has
no value and those that do. -/
inductive EngineError where
  | cannotParseCriteria (raw : String)
  | emptyValues
  | emptyObjectives
  | invalidSloStructure (fields : List String)
  | unresolvedVariable (name : String) (available : List String)
deriving DecidableEq, Repr

inductive CriteriaType where
  | fixed
  | relative
deriving DecidableEq, Repr

inductive Operator where
  | less
  | lessEqual
  | equal
  | greaterEqual
  | greater
deriving DecidableEq, Repr

/-- The direction of a relative criterion, `+` or `-`. -/
inductive Sign where
  | plus
  | minus
deriving DecidableEq, Repr

structure ParsedCriteria (Number : Type := ℚ) [OfScientific Number] where
  raw : String
  operator : Operator
  type : CriteriaType
  threshold : Number := 0.0
  relativePct : Number := 0.0
  relativeDirection : Sign := .plus
deriving DecidableEq, Repr

section Target

variable {Number : Type} [OfScientific Number] [Add Number] [Sub Number] [Mul Number] [Div Number]

/-- The concrete value to compare the metric against.  A relative criterion
without a baseline has target zero, which `evaluateCriteria` never reaches. -/
def ParsedCriteria.computeTargetValue (criteria : ParsedCriteria Number)
    (baseline : Option Number) : Number :=
  match criteria.type, baseline with
  | .fixed, _ => criteria.threshold
  | .relative, none => 0.0
  | .relative, some base =>
      let delta := base * (criteria.relativePct / 100.0)
      match criteria.relativeDirection with
      | .plus => base + delta
      | .minus => base - delta

end Target

/-- The characters on which `str.split` with no argument splits. -/
def isSpace (c : Char) : Bool :=
  let n := c.toNat
  (9 ≤ n && n ≤ 13) || (28 ≤ n && n ≤ 32) || n == 0x85 || n == 0xa0 || n == 0x1680 ||
    (0x2000 ≤ n && n ≤ 0x200a) || n == 0x2028 || n == 0x2029 || n == 0x202f || n == 0x205f ||
    n == 0x3000

/-- The code points of the digit zero in each block of decimal digits.  The
nine code points after each of them are the digits one to nine. -/
def decimalZeros : List Nat :=
  [0x30, 0x660, 0x6f0, 0x7c0, 0x966, 0x9e6, 0xa66, 0xae6, 0xb66, 0xbe6, 0xc66, 0xce6, 0xd66,
    0xde6, 0xe50, 0xed0, 0xf20, 0x1040, 0x1090, 0x17e0, 0x1810, 0x1946, 0x19d0, 0x1a80, 0x1a90,
    0x1b50, 0x1bb0, 0x1c40, 0x1c50, 0xa620, 0xa8d0, 0xa900, 0xa9d0, 0xa9f0, 0xaa50, 0xabf0,
    0xff10, 0x104a0, 0x10d30, 0x11066, 0x110f0, 0x11136, 0x111d0, 0x112f0, 0x11450, 0x114d0,
    0x11650, 0x116c0, 0x11730, 0x118e0, 0x11950, 0x11c50, 0x11d50, 0x11da0, 0x11f50, 0x16a60,
    0x16ac0, 0x16b50, 0x1d7ce, 0x1d7d8, 0x1d7e2, 0x1d7ec, 0x1d7f6, 0x1e140, 0x1e2f0, 0x1e4f0,
    0x1e950, 0x1fbf0]

/-- The value of a decimal digit, for the characters that `\d` matches. -/
def digitValue (c : Char) : Option Nat :=
  (decimalZeros.find? fun first => first ≤ c.toNat && c.toNat ≤ first + 9).map (c.toNat - ·)

def takeDigits : List Char -> List Nat × List Char
  | [] => ([], [])
  | c :: rest =>
      match digitValue c with
      | none => ([], c :: rest)
      | some digit => (digit :: (takeDigits rest).1, (takeDigits rest).2)

def digitsValue (digits : List Nat) : Nat :=
  digits.foldl (fun value digit => 10 * value + digit) 0

/-- The group `op`.  The two-character operators are tried first, and a string
that begins with one of them matches nothing through its first character. -/
def takeOperator : List Char -> Option (Operator × List Char)
  | '<' :: '=' :: rest => some (.lessEqual, rest)
  | '>' :: '=' :: rest => some (.greaterEqual, rest)
  | '<' :: rest => some (.less, rest)
  | '>' :: rest => some (.greater, rest)
  | '=' :: rest => some (.equal, rest)
  | _ => none

def takeSign : List Char -> Option Sign × List Char
  | '+' :: rest => (some .plus, rest)
  | '-' :: rest => (some .minus, rest)
  | rest => (none, rest)

/-- The text of a decimal number: the digits before the point and those behind it. -/
structure DecimalText where
  whole : List Nat
  fraction : List Nat
deriving DecidableEq, Repr

/-- `float(...)` of the text: the number nearest to its value. -/
def DecimalText.float {Number : Type} [OfScientific Number] (text : DecimalText) : Number :=
  OfScientific.ofScientific (digitsValue (text.whole ++ text.fraction)) true text.fraction.length

/-- The group `value`: digits, then a point with further digits or nothing. -/
def takeValue (chars : List Char) : Option (DecimalText × List Char) :=
  match takeDigits chars with
  | ([], _) => none
  | (whole, '.' :: rest) =>
      match takeDigits rest with
      | ([], _) => some (⟨whole, []⟩, '.' :: rest)
      | (fraction, tail) => some (⟨whole, fraction⟩, tail)
  | (whole, rest) => some (⟨whole, []⟩, rest)

/-- The optional group `pct` and the end of the string. -/
def takePct : List Char -> Option Bool
  | [] => some false
  | ['%'] => some true
  | _ => none

structure PatternMatch where
  op : Operator
  sign : Option Sign
  value : DecimalText
  pct : Bool
deriving DecidableEq, Repr

/-- The pattern, matched against a string from which all whitespace is gone. -/
def matchPattern (normalised : List Char) : Option PatternMatch := do
  let (op, afterOp) <- takeOperator normalised
  let (sign, afterSign) := takeSign afterOp
  let (value, afterValue) <- takeValue afterSign
  let pct <- takePct afterValue
  return { op, sign, value, pct }

/-- Parse a stored criteria string.  An explicit sign makes the criterion
relative also when no `%` follows. -/
def parseCriteriaString {Number : Type} [OfScientific Number] (raw : String) :
    Except EngineError (ParsedCriteria Number) :=
  match matchPattern (raw.toList.filter (!isSpace ·)) with
  | none => .error (.cannotParseCriteria raw)
  | some groups =>
      if groups.pct || groups.sign.isSome then
        .ok { raw, operator := groups.op, type := .relative, relativePct := groups.value.float,
              relativeDirection := groups.sign.getD .plus }
      else
        .ok { raw, operator := groups.op, type := .fixed, threshold := groups.value.float }

/-- The strings that `parseCriteriaString` accepts. -/
def parses (raw : String) : Bool :=
  (parseCriteriaString raw : Except EngineError ParsedCriteria).isOk

theorem parses_iff_ok {Number : Type} [OfScientific Number] {raw : String} : parses raw = true ↔
    Exists fun criteria : ParsedCriteria Number => parseCriteriaString raw = .ok criteria := by
  unfold parses parseCriteriaString
  cases matchPattern (raw.toList.filter (!isSpace ·)) with
  | none => exact ⟨nofun, nofun⟩
  | some groups =>
      dsimp only
      split
      · exact ⟨fun _ => ⟨_, rfl⟩, fun _ => rfl⟩
      · exact ⟨fun _ => ⟨_, rfl⟩, fun _ => rfl⟩

theorem parseCriteriaString_of_parses {raw : String} (accepted : parses raw = true) :
    Exists fun criteria : ParsedCriteria => parseCriteriaString raw = .ok criteria :=
  parses_iff_ok.mp accepted

example : parseCriteriaString " <= +10 %" =
    .ok { raw := " <= +10 %", operator := .lessEqual, type := .relative,
          relativePct := (10 : ℚ) } := by
  decide +kernel

section Comparison

variable {Number : Type} [OfScientific Number] [Add Number] [Sub Number] [Mul Number] [Div Number]
  [LT Number] [LE Number] [BEq Number] [DecidableLT Number] [DecidableLE Number]

/-- The comparison `_compare`.  Its default branch has no counterpart because
the operator is one of the five that the pattern matches. -/
def compare (operator : Operator) (value target : Number) : Bool :=
  match operator with
  | .less => decide (value < target)
  | .lessEqual => decide (value ≤ target)
  | .greater => decide (target < value)
  | .greaterEqual => decide (target ≤ value)
  | .equal => value == target

/-- Evaluate one criterion.  A relative criterion without a baseline holds:
there is no penalty for the first evaluation of a series. -/
def evaluateCriteria (criteria : ParsedCriteria Number) (value : Number)
    (baseline : Option Number) : Bool :=
  if criteria.type = .relative && baseline.isNone then true
  else compare criteria.operator value (criteria.computeTargetValue baseline)

end Comparison

inductive AggregateFunction where
  | avg
  | p50
  | p90
  | p95
  | p99
deriving DecidableEq, Repr

/-- The value at index `len * pct / 100` of a sorted list, capped at the last. -/
def percentile (sortedValues : List ℚ) (pct : Nat) : Except EngineError ℚ :=
  match sortedValues[min (sortedValues.length * pct / 100) (sortedValues.length - 1)]? with
  | none => .error .emptyValues
  | some value => .ok value

def aggregateValues (values : List ℚ) (function : AggregateFunction) : Except EngineError ℚ :=
  let sortedVals := values.insertionSort (· ≤ ·)
  if values = [] then .error .emptyValues
  else
    match function with
    | .avg => .ok (sortedVals.sum / sortedVals.length)
    | .p50 => percentile sortedVals 50
    | .p90 => percentile sortedVals 90
    | .p95 => percentile sortedVals 95
    | .p99 => percentile sortedVals 99

theorem percentile_ok {values : List ℚ} (nonempty : values ≠ []) (pct : Nat) :
    Exists fun value => percentile values pct = .ok value := by
  have positive : 0 < values.length := List.length_pos_iff.mpr nonempty
  have inside : min (values.length * pct / 100) (values.length - 1) < values.length := by omega
  refine ⟨values[min (values.length * pct / 100) (values.length - 1)], ?_⟩
  unfold percentile
  rw [List.getElem?_eq_getElem inside]

theorem aggregateValues_ok {values : List ℚ} (nonempty : values ≠ [])
    (function : AggregateFunction) :
    Exists fun value => aggregateValues values function = .ok value := by
  have sortedNonempty : values.insertionSort (· ≤ ·) ≠ [] := by
    intro sortedEmpty
    have same := List.length_insertionSort (· ≤ ·) values
    rw [sortedEmpty] at same
    exact nonempty (List.length_eq_zero_iff.mp same.symm)
  unfold aggregateValues
  rw [if_neg nonempty]
  cases function with
  | avg => exact ⟨_, rfl⟩
  | p50 => exact percentile_ok sortedNonempty 50
  | p90 => exact percentile_ok sortedNonempty 90
  | p95 => exact percentile_ok sortedNonempty 95
  | p99 => exact percentile_ok sortedNonempty 99

end Engine
end Tropek
