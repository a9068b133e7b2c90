import Mathlib.Data.List.Induction
import Mathlib.Data.Nat.Digits.Defs
import Mathlib.Tactic.NormNum
import Mathlib.Tactic.FieldSimp
import Mathlib.Tactic.Ring
import Tropek.Engine.Criteria

namespace Tropek
namespace Engine

/-!
# The language of criteria strings

The pattern of `criteria.py` is a regular expression with optional groups, and
what a criterion means depends on which of them are there.  This module states
the language without the parser: a criterion is an operator, an optional sign,
a decimal numeral and an optional percent sign, and its text is the four
spelled one after the other.  The parser accepts exactly the texts, once
whitespace is gone, and `evaluate_criteria` decides what the written parts say.

The readme's table gives a sign without `%` an absolute delta of its own.  The
engine has no such mode: its tests and its internals document say that a sign
alone counts as a percentage, as in the lighthouse service it follows.

The program computes the target of a percentage in doubles, with a rounding after
each operation, so that it may miss the exact product by an ulp.  What is said about
the parser holds in any arithmetic; the targets are those of `Float`, and those of
exact arithmetic beside them.
-/

/-- A nonempty run of decimal digits, of any script that `\d` matches. -/
structure DigitRun where
  chars : List Char
  nonempty : chars ≠ []
  decimal : forall c, c ∈ chars -> (digitValue c).isSome = true

def DigitRun.digits (run : DigitRun) : List Nat :=
  run.chars.filterMap digitValue

def DigitRun.number (run : DigitRun) : Nat :=
  Nat.ofDigits 10 run.digits.reverse

structure Numeral where
  whole : DigitRun
  fraction : Option DigitRun

def fractionText : Option DigitRun -> List Char
  | none => []
  | some run => '.' :: run.chars

def Numeral.text (numeral : Numeral) : List Char :=
  numeral.whole.chars ++ fractionText numeral.fraction

def Numeral.digits (numeral : Numeral) : DecimalText :=
  { whole := numeral.whole.digits, fraction := (numeral.fraction.map DigitRun.digits).getD [] }

def Numeral.number (numeral : Numeral) : ℚ :=
  match numeral.fraction with
  | none => numeral.whole.number
  | some run => numeral.whole.number + run.number / 10 ^ run.digits.length

def Operator.text : Operator -> List Char
  | .less => ['<']
  | .lessEqual => ['<', '=']
  | .equal => ['=']
  | .greaterEqual => ['>', '=']
  | .greater => ['>']

def signText : Option Sign -> List Char
  | none => []
  | some .plus => ['+']
  | some .minus => ['-']

def pctText : Bool -> List Char
  | false => []
  | true => ['%']

structure Criterion where
  operator : Operator
  sign : Option Sign
  numeral : Numeral
  percent : Bool

def Criterion.text (criterion : Criterion) : List Char :=
  criterion.operator.text ++
    (signText criterion.sign ++ (criterion.numeral.text ++ pctText criterion.percent))

def normalised (raw : String) : List Char :=
  raw.toList.filter (!isSpace ·)

def Criterion.Spells (criterion : Criterion) (raw : String) : Prop :=
  criterion.text = normalised raw

section Meaning

variable {Number : Type} [OfScientific Number] [Add Number] [Sub Number] [Mul Number] [Div Number]
  [LT Number] [LE Number] [BEq Number] [DecidableLT Number] [DecidableLE Number]

def Operator.Holds (operator : Operator) (value target : Number) : Prop :=
  match operator with
  | .less => value < target
  | .lessEqual => value ≤ target
  | .equal => (value == target) = true
  | .greaterEqual => target ≤ value
  | .greater => target < value

def Criterion.relative (criterion : Criterion) : Bool :=
  criterion.percent || criterion.sign.isSome

/-- The baseline, changed by the written percentage, in the arithmetic of the numbers.
No sign counts as `+`. -/
def Criterion.percentTarget (criterion : Criterion) (base : Number) : Number :=
  match criterion.sign with
  | some .minus => base - base * (criterion.numeral.digits.float / 100.0)
  | _ => base + base * (criterion.numeral.digits.float / 100.0)

/-- The target in the readme's table, where a sign without `%` is an absolute
delta. -/
def Criterion.tableTarget (criterion : Criterion) (base : Number) : Number :=
  match criterion.percent, criterion.sign with
  | false, some .plus => base + criterion.numeral.digits.float
  | false, some .minus => base - criterion.numeral.digits.float
  | _, _ => criterion.percentTarget base

/-- A fixed criterion compares with its number.  A relative one compares with
its target, and holds when there is no baseline. -/
def Criterion.Passes (target : Criterion -> Number -> Number) (criterion : Criterion)
    (value : Number) (baseline : Option Number) : Prop :=
  match criterion.relative, baseline with
  | false, _ => criterion.operator.Holds value criterion.numeral.digits.float
  | true, none => True
  | true, some base => criterion.operator.Holds value (target criterion base)

/-- The engine reads the string as the language does, with the given targets of
relative criteria. -/
def ReadAs (target : Criterion -> Number -> Number) (raw : String) : Prop :=
  ((Exists fun criteria : ParsedCriteria Number => parseCriteriaString raw = .ok criteria) ↔
    Exists fun criterion : Criterion => criterion.Spells raw) ∧
    forall (criterion : Criterion) (criteria : ParsedCriteria Number),
      criterion.Spells raw -> parseCriteriaString raw = .ok criteria ->
        forall (value : Number) (baseline : Option Number),
          evaluateCriteria criteria value baseline = true ↔
            criterion.Passes target value baseline

end Meaning

def Criterion.exactTarget (criterion : Criterion) (base : ℚ) : ℚ :=
  match criterion.sign with
  | some .minus => base * (1 - criterion.numeral.number / 100)
  | _ => base * (1 + criterion.numeral.number / 100)

theorem digitsValue_append (front back : List Nat) :
    digitsValue (front ++ back) =
      back.foldl (fun value digit => 10 * value + digit) (digitsValue front) := by
  simp [digitsValue]

theorem digitsValue_eq (digits : List Nat) :
    digitsValue digits = Nat.ofDigits 10 digits.reverse := by
  induction digits using List.reverseRecOn with
  | nil => rfl
  | append_singleton front digit ih =>
      rw [digitsValue_append, List.reverse_append]
      simp only [List.foldl_cons, List.foldl_nil, List.reverse_singleton, List.singleton_append,
        Nat.ofDigits_cons, ih]
      omega

theorem DigitRun.number_eq (run : DigitRun) : digitsValue run.digits = run.number :=
  digitsValue_eq run.digits

theorem Numeral.float_exact (numeral : Numeral) :
    (numeral.digits.float : ℚ) = numeral.number := by
  have literal : forall mantissa exponent : Nat,
      (OfScientific.ofScientific mantissa true exponent : ℚ) = mantissa / 10 ^ exponent := by
    intro mantissa exponent
    change Rat.ofScientific mantissa true exponent = _
    rw [Rat.ofScientific_true_def, Rat.mkRat_eq_div]
    push_cast
    rfl
  unfold DecimalText.float Numeral.digits Numeral.number
  rw [literal]
  cases numeral.fraction with
  | none =>
      dsimp only [Option.map_none, Option.getD_none]
      rw [List.append_nil, numeral.whole.number_eq, List.length_nil, pow_zero, div_one]
  | some run =>
      have split : digitsValue (numeral.whole.digits ++ run.digits) =
          run.number + 10 ^ run.digits.length * numeral.whole.number := by
        rw [digitsValue_eq, List.reverse_append, Nat.ofDigits_append, List.length_reverse]
        rfl
      dsimp only [Option.map_some, Option.getD_some]
      rw [split]
      push_cast
      field_simp
      ring

theorem DigitRun.digits_ne_nil (run : DigitRun) : run.digits ≠ [] := by
  intro noDigits
  obtain ⟨c, member⟩ := List.exists_mem_of_ne_nil _ run.nonempty
  obtain ⟨digit, value⟩ := Option.isSome_iff_exists.mp (run.decimal c member)
  have listed : digit ∈ run.digits := List.mem_filterMap.mpr ⟨c, member, value⟩
  rw [noDigits] at listed
  cases listed

def EndsDigits (rest : List Char) : Prop :=
  forall c tail, rest = c :: tail -> digitValue c = none

theorem endsDigits_nil : EndsDigits [] := by
  intro c tail same
  cases same

theorem endsDigits_cons {c : Char} (other : digitValue c = none) (tail : List Char) :
    EndsDigits (c :: tail) := by
  intro first more same
  cases same
  exact other

variable {rest chars : List Char}

theorem takeDigits_append (ends : EndsDigits rest) (chars : List Char)
    (decimal : forall c, c ∈ chars -> (digitValue c).isSome = true) :
    takeDigits (chars ++ rest) = (chars.filterMap digitValue, rest) := by
  induction chars with
  | nil =>
      cases rest with
      | nil => rfl
      | cons c tail =>
          have other := ends c tail rfl
          simp [takeDigits, other]
  | cons c chars ih =>
      obtain ⟨digit, value⟩ := Option.isSome_iff_exists.mp (decimal c (by simp))
      have later := ih (fun other member => decimal other (by simp [member]))
      simp [takeDigits, value, later]

theorem takeDigits_splits (chars : List Char) :
    Exists fun front => chars = front ++ (takeDigits chars).2 ∧
      (takeDigits chars).1 = front.filterMap digitValue ∧
      forall c, c ∈ front -> (digitValue c).isSome = true := by
  induction chars with
  | nil => exact ⟨[], rfl, rfl, by simp⟩
  | cons c chars ih =>
      cases value : digitValue c with
      | none => exact ⟨[], by simp [takeDigits, value], by simp [takeDigits, value], by simp⟩
      | some digit =>
          obtain ⟨front, same, digits, decimal⟩ := ih
          refine ⟨c :: front, ?_, ?_, ?_⟩
          · simpa [takeDigits, value] using same
          · simpa [takeDigits, value] using digits
          · simpa [value] using decimal

theorem takeDigits_run {digits : List Nat} (taken : takeDigits chars = (digits, rest))
    (nonempty : digits ≠ []) :
    Exists fun run : DigitRun => chars = run.chars ++ rest ∧ run.digits = digits := by
  obtain ⟨front, same, value, decimal⟩ := takeDigits_splits chars
  rw [taken] at same value
  refine ⟨⟨front, ?_, decimal⟩, same, value.symm⟩
  intro emptyFront
  rw [emptyFront] at value
  exact nonempty value

theorem pctText_ends (percent : Bool) : EndsDigits (pctText percent) := by
  cases percent with
  | false => exact endsDigits_nil
  | true => exact endsDigits_cons (by decide +kernel) []

theorem takeDigits_whole (run : DigitRun) (ends : EndsDigits rest) :
    takeDigits (run.chars ++ rest) = (run.digits, rest) :=
  takeDigits_append ends run.chars run.decimal

theorem takeValue_text (numeral : Numeral) (percent : Bool) :
    takeValue (numeral.text ++ pctText percent) = some (numeral.digits, pctText percent) := by
  rcases numeral with ⟨whole, fraction⟩
  obtain ⟨first, more, wholeDigits⟩ := List.exists_cons_of_ne_nil whole.digits_ne_nil
  cases fraction with
  | none =>
      have taken : takeDigits (whole.chars ++ pctText percent) =
          (first :: more, pctText percent) := by
        rw [takeDigits_whole whole (pctText_ends percent), wholeDigits]
      cases percent <;> simp_all [takeValue, Numeral.text, Numeral.digits, fractionText, pctText]
  | some run =>
      obtain ⟨second, others, runDigits⟩ := List.exists_cons_of_ne_nil run.digits_ne_nil
      have point : EndsDigits ('.' :: (run.chars ++ pctText percent)) :=
        endsDigits_cons (by decide +kernel) _
      have takenWhole : takeDigits (whole.chars ++ '.' :: (run.chars ++ pctText percent)) =
          (first :: more, '.' :: (run.chars ++ pctText percent)) := by
        rw [takeDigits_whole whole point, wholeDigits]
      have takenFraction : takeDigits (run.chars ++ pctText percent) =
          (second :: others, pctText percent) := by
        rw [takeDigits_whole run (pctText_ends percent), runDigits]
      simp only [Numeral.text, fractionText, List.append_assoc, List.cons_append, takeValue,
        takenWhole, takenFraction, Numeral.digits, wholeDigits, runDigits, Option.map_some,
        Option.getD_some]

theorem takeValue_reads {value : DecimalText} (taken : takeValue chars = some (value, rest)) :
    Exists fun numeral : Numeral => chars = numeral.text ++ rest ∧ numeral.digits = value := by
  unfold takeValue at taken
  split at taken
  · cases taken
  · next whole afterPoint nonempty split =>
      obtain ⟨run, same, digits⟩ := takeDigits_run split nonempty
      split at taken
      · cases taken
        refine ⟨⟨run, none⟩, ?_, ?_⟩
        · simpa [Numeral.text, fractionText] using same
        · simp [Numeral.digits, digits]
      · next fraction tail someFraction splitFraction =>
          obtain ⟨second, sameTail, fractionDigits⟩ := takeDigits_run splitFraction someFraction
          cases taken
          refine ⟨⟨run, some second⟩, ?_, ?_⟩
          · simpa [Numeral.text, fractionText, sameTail] using same
          · simp [Numeral.digits, digits, fractionDigits]
  · next whole tail nonempty noPoint split =>
      obtain ⟨run, same, digits⟩ := takeDigits_run split nonempty
      cases taken
      refine ⟨⟨run, none⟩, ?_, ?_⟩
      · simpa [Numeral.text, fractionText] using same
      · simp [Numeral.digits, digits]

theorem Numeral.text_cons (numeral : Numeral) :
    Exists fun c => Exists fun tail =>
      numeral.text = c :: tail ∧ (digitValue c).isSome = true := by
  obtain ⟨c, tail, same⟩ := List.exists_cons_of_ne_nil numeral.whole.nonempty
  refine ⟨c, tail ++ fractionText numeral.fraction, ?_, ?_⟩
  · simp [Numeral.text, same]
  · exact numeral.whole.decimal c (by simp [same])

theorem takeSign_text (sign : Option Sign) (numeral : Numeral) (rest : List Char) :
    takeSign (signText sign ++ (numeral.text ++ rest)) = (sign, numeral.text ++ rest) := by
  obtain ⟨c, tail, text, digit⟩ := numeral.text_cons
  rw [text]
  cases sign with
  | none =>
      have notPlus : c ≠ '+' := by
        rintro rfl
        revert digit
        decide +kernel
      have notMinus : c ≠ '-' := by
        rintro rfl
        revert digit
        decide +kernel
      simp only [signText, List.nil_append, List.cons_append]
      unfold takeSign
      split <;> simp_all
  | some direction => cases direction <;> rfl

theorem takeSign_reads (chars : List Char) :
    chars = signText (takeSign chars).1 ++ (takeSign chars).2 := by
  unfold takeSign
  split <;> rfl

theorem takeOperator_text (operator : Operator) (sign : Option Sign) (numeral : Numeral)
    (rest : List Char) :
    takeOperator (operator.text ++ (signText sign ++ (numeral.text ++ rest))) =
      some (operator, signText sign ++ (numeral.text ++ rest)) := by
  obtain ⟨c, tail, text, digit⟩ := numeral.text_cons
  have notEqual : c ≠ '=' := by
    rintro rfl
    revert digit
    decide +kernel
  rw [text]
  rcases sign with _ | _ | _ <;> cases operator <;>
    simp [takeOperator, Operator.text, signText, notEqual]

theorem takeOperator_reads {operator : Operator}
    (taken : takeOperator chars = some (operator, rest)) : chars = operator.text ++ rest := by
  unfold takeOperator at taken
  split at taken <;> cases taken <;> rfl

theorem takePct_text (percent : Bool) : takePct (pctText percent) = some percent := by
  cases percent <;> rfl

theorem takePct_reads {percent : Bool} (taken : takePct chars = some percent) :
    chars = pctText percent := by
  unfold takePct at taken
  split at taken <;> cases taken <;> rfl

def Criterion.groups (criterion : Criterion) : PatternMatch :=
  { op := criterion.operator, sign := criterion.sign, value := criterion.numeral.digits,
    pct := criterion.percent }

theorem matchPattern_text (criterion : Criterion) :
    matchPattern criterion.text = some criterion.groups := by
  simp [matchPattern, Criterion.text, takeOperator_text, takeSign_text, takeValue_text,
    takePct_text, Criterion.groups]

theorem matchPattern_reads {groups : PatternMatch} (matched : matchPattern chars = some groups) :
    Exists fun criterion : Criterion => criterion.text = chars := by
  simp only [matchPattern, Option.bind_eq_bind, Option.bind_eq_some_iff, Prod.exists,
    Option.pure_def] at matched
  obtain ⟨operator, afterOperator, operatorTaken, value, afterValue, valueTaken, percent,
    percentTaken, -⟩ := matched
  obtain ⟨numeral, numeralText, -⟩ := takeValue_reads valueTaken
  refine ⟨⟨operator, (takeSign afterOperator).1, numeral, percent⟩, ?_⟩
  have signed := takeSign_reads afterOperator
  rw [numeralText, takePct_reads percentTaken] at signed
  rw [takeOperator_reads operatorTaken]
  exact congrArg (operator.text ++ ·) signed.symm

theorem compare_iff {Number : Type} [LT Number] [LE Number] [BEq Number] [DecidableLT Number]
    [DecidableLE Number] (operator : Operator) (value target : Number) :
    compare operator value target = true ↔ operator.Holds value target := by
  cases operator <;> simp [compare, Operator.Holds]

section Parsed

variable {Number : Type} [OfScientific Number]

def Criterion.parsed (criterion : Criterion) (raw : String) : ParsedCriteria Number :=
  if criterion.relative then
    { raw, operator := criterion.operator, type := .relative,
      relativePct := criterion.numeral.digits.float,
      relativeDirection := criterion.sign.getD .plus }
  else { raw, operator := criterion.operator, type := .fixed,
         threshold := criterion.numeral.digits.float }

theorem parseCriteriaString_text {criterion : Criterion} {raw : String}
    (spells : criterion.Spells raw) :
    (parseCriteriaString raw : Except EngineError (ParsedCriteria Number)) =
      .ok (criterion.parsed raw) := by
  have matched := matchPattern_text criterion
  rw [spells] at matched
  unfold parseCriteriaString
  rw [show matchPattern (raw.toList.filter (!isSpace ·)) = some criterion.groups from matched]
  cases relative : criterion.relative with
  | false =>
      simp only [Criterion.relative] at relative
      simp [Criterion.groups, Criterion.parsed, Criterion.relative, relative]
  | true =>
      simp only [Criterion.relative] at relative
      simp [Criterion.groups, Criterion.parsed, Criterion.relative, relative]

theorem parses_iff (raw : String) :
    (Exists fun criteria : ParsedCriteria Number => parseCriteriaString raw = .ok criteria) ↔
      Exists fun criterion : Criterion => criterion.Spells raw := by
  constructor
  · rintro ⟨criteria, accepted⟩
    cases matched : matchPattern (normalised raw) with
    | none =>
        have failed : (parseCriteriaString raw : Except EngineError (ParsedCriteria Number)) =
            .error (.cannotParseCriteria raw) := by
          unfold parseCriteriaString
          rw [show matchPattern (raw.toList.filter (!isSpace ·)) = none from matched]
        rw [failed] at accepted
        cases accepted
    | some groups => exact matchPattern_reads matched
  · rintro ⟨criterion, spells⟩
    exact ⟨_, parseCriteriaString_text spells⟩

variable [Add Number] [Sub Number] [Mul Number] [Div Number]

theorem computeTargetValue_parsed {criterion : Criterion} (relative : criterion.relative = true)
    (raw : String) (base : Number) :
    (criterion.parsed raw).computeTargetValue (some base) = criterion.percentTarget base := by
  have parsed : (criterion.parsed raw : ParsedCriteria Number) =
      { raw, operator := criterion.operator, type := .relative,
        relativePct := criterion.numeral.digits.float,
        relativeDirection := criterion.sign.getD .plus } := by
    simp [Criterion.parsed, relative]
  rw [parsed]
  rcases written : criterion.sign with _ | _ | _ <;>
    simp only [ParsedCriteria.computeTargetValue, Criterion.percentTarget, written,
      Option.getD_none, Option.getD_some]

variable [LT Number] [LE Number] [BEq Number] [DecidableLT Number] [DecidableLE Number]

/-- A parsed criterion decides what its parts say, whatever the sign of the
value and of the baseline. -/
theorem evaluateCriteria_parsed (criterion : Criterion) (raw : String) (value : Number)
    (baseline : Option Number) :
    evaluateCriteria (criterion.parsed raw) value baseline = true ↔
      criterion.Passes Criterion.percentTarget value baseline := by
  cases relative : criterion.relative with
  | false =>
      simp [evaluateCriteria, Criterion.Passes, Criterion.parsed, relative,
        ParsedCriteria.computeTargetValue, compare_iff]
  | true =>
      have type : (criterion.parsed raw : ParsedCriteria Number).type = .relative := by
        simp [Criterion.parsed, relative]
      have operator : (criterion.parsed raw : ParsedCriteria Number).operator =
          criterion.operator := by
        simp [Criterion.parsed, relative]
      cases baseline with
      | none => simp [evaluateCriteria, Criterion.Passes, relative, type]
      | some base =>
          simp [evaluateCriteria, Criterion.Passes, relative, operator,
            computeTargetValue_parsed relative raw base, compare_iff]

/-- In every arithmetic the engine accepts the texts of the language and decides them
by their written parts. -/
theorem readAs_percentTarget (raw : String) :
    ReadAs (Criterion.percentTarget : Criterion -> Number -> Number) raw := by
  refine ⟨parses_iff raw, ?_⟩
  intro criterion criteria spells parsed value baseline
  rw [parseCriteriaString_text spells] at parsed
  cases parsed
  exact evaluateCriteria_parsed criterion raw value baseline

end Parsed

theorem percentTarget_exact :
    (Criterion.percentTarget : Criterion -> ℚ -> ℚ) = Criterion.exactTarget := by
  funext criterion base
  unfold Criterion.percentTarget Criterion.exactTarget
  rw [criterion.numeral.float_exact]
  rcases criterion.sign with _ | _ | _ <;> norm_num <;> ring

/-- For every string, the engine accepts the texts of the language and decides them by
their written parts.  A sign makes the number a percentage, with or without `%`.  The
target of a percentage is that of double arithmetic, `base ± base * (p / 100)` with
each step rounded; in exact arithmetic it is `base * (1 ± p / 100)`. -/
theorem criteria_language (raw : String) :
    ReadAs (Criterion.percentTarget : Criterion -> Float -> Float) raw ∧
      ReadAs Criterion.exactTarget raw := by
  refine ⟨readAs_percentTarget raw, ?_⟩
  rw [<- percentTarget_exact]
  exact readAs_percentTarget raw

/-- A rounding that shows: the target of `>=-57%` at the baseline 100 is above 43. -/
example : (parseCriteriaString ">=-57%" : Except EngineError (ParsedCriteria Float)).toOption.map
    (evaluateCriteria · 43 (some 100)) = some false := by
  decide +kernel

def fiftyMore : Criterion :=
  { operator := .lessEqual, sign := some .plus,
    numeral := ⟨⟨['5', '0'], by decide, List.all_eq_true.mp (by decide +kernel)⟩, none⟩
    percent := false }

/-- `<=+50` against a baseline of 1000 lets 1200 pass, where the readme's table
has the limit 1050. -/
theorem sign_alone_is_a_percentage :
    ¬ ReadAs (Criterion.tableTarget : Criterion -> Float -> Float) "<=+50" := by
  intro readAs
  have spells : fiftyMore.Spells "<=+50" := by
    change fiftyMore.text = normalised "<=+50"
    decide +kernel
  have passes : fiftyMore.Passes Criterion.tableTarget (1200 : Float) (some 1000) :=
    (readAs.2 fiftyMore _ spells (parseCriteriaString_text spells) 1200 (some 1000)).mp
      (by decide +kernel)
  have beyond : ¬ (1200 : Float) ≤ fiftyMore.tableTarget 1000 := by decide +kernel
  exact beyond passes

end Engine
end Tropek
