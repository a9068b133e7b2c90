import Mathlib.Data.List.Basic
import Tropek.Library.Doubles

namespace Tropek
namespace Ui

open Library

/-!
# Time range links

The time range of a page is kept in its address.  A preset is written relative to
now and an absolute range as two epochs in milliseconds.  The same two parameters may
also hold compact dates, which are read before the epochs.

An ISO string is the instant in milliseconds that it stands for.  Engines differ in
what they do with the 30th of February, so the last day that is accepted in a month is a
parameter.
-/

inductive RangeMode where
  | preset
  | absolute
deriving DecidableEq, Repr

inductive DayCount where
  | whole (value : Int)
  | infinity
deriving DecidableEq, Repr

structure StoredRange where
  mode : RangeMode
  days : Option DayCount := none
  fromIso : Option Int := none
  toIso : Option Int := none
deriving DecidableEq, Repr

structure TimeParams where
  fromText : String
  toText : Option String := none
deriving DecidableEq, Repr

def defaultDays : DayCount :=
  .whole 30

def DayCount.text : DayCount -> List Char
  | .whole value =>
      if value < 0 then '-' :: Doubles.text value.natAbs else Doubles.text value.natAbs
  | .infinity => "Infinity".toList

def epochText (epoch : Int) : List Char :=
  if epoch < 0 then '-' :: Nat.toDigits 10 epoch.natAbs else Nat.toDigits 10 epoch.natAbs

def rangeToParams (computedFrom : Int) (range : StoredRange) : TimeParams :=
  match range.mode with
  | .preset =>
      { fromText := String.ofList
          ("now-".toList ++ ((range.days.getD defaultDays).text ++ ['d'])) }
  | .absolute =>
      { fromText := String.ofList (epochText (range.fromIso.getD computedFrom))
        toText := range.toIso.map fun toIso => String.ofList (epochText toIso) }

def isLeap (year : Nat) : Bool :=
  year % 4 = 0 && (year % 100 ≠ 0 || year % 400 = 0)

def dayFromYear (year : Int) : Int :=
  365 * (year - 1970) + (year - 1969) / 4 - (year - 1901) / 100 + (year - 1601) / 400

def daysBeforeMonth (month : Nat) : Nat :=
  [0, 31, 59, 90, 120, 151, 181, 212, 243, 273, 304, 334].getD (month - 1) 0

def dayNumber (year month day : Nat) : Int :=
  dayFromYear year + (daysBeforeMonth month + (if isLeap year && 2 < month then 1 else 0) : Nat) +
    ((day : Int) - 1)

def millisPerDay : Int :=
  86400000

structure TimeOfDay where
  hour : Nat
  minute : Nat
  second : Nat
  milli : Nat := 0
deriving DecidableEq, Repr

def TimeOfDay.valid (time : TimeOfDay) : Bool :=
  (time.hour < 24 && time.minute < 60 && time.second < 60) ||
    (time.hour = 24 && time.minute = 0 && time.second = 0 && time.milli = 0)

def TimeOfDay.millis (time : TimeOfDay) : Int :=
  3600000 * time.hour + 60000 * time.minute + 1000 * time.second + time.milli

def isoOrNull (lastDay : Nat -> Nat -> Nat) (year month day : Nat) (time : TimeOfDay) : Option Int :=
  if 1 ≤ month && month ≤ 12 && 1 ≤ day && day ≤ lastDay year month && time.valid then
    some (millisPerDay * dayNumber year month day + time.millis)
  else none

/-- `\d+` -/
def isDigits (text : List Char) : Bool :=
  !text.isEmpty && text.all Char.isDigit

def fieldAt (token : List Char) (start length : Nat) : Nat :=
  Nat.ofDigitChars 10 ((token.drop start).take length) 0

/-- `^now-(\d+)d$` -/
def presetPattern (token : List Char) : Bool :=
  token.take 4 = "now-".toList && token.getLast? = some 'd' && isDigits (token.drop 4).dropLast

/-- `^(\d{4})(\d{2})(\d{2})T(\d{2})(\d{2})(\d{2})$` -/
def dateTimePattern (token : List Char) : Bool :=
  token.length = 15 && isDigits (token.take 8) && token[8]? = some 'T' && isDigits (token.drop 9)

/-- `^(\d{4})(\d{2})(\d{2})$` -/
def dateOnlyPattern (token : List Char) : Bool :=
  token.length = 8 && isDigits token

def maxTimeValue : Int :=
  8640000000000000

def parseAbsoluteToken (lastDay : Nat -> Nat -> Nat) (token : List Char) (endOfDay : Bool) :
    Option Int :=
  if dateTimePattern token then
    isoOrNull lastDay (fieldAt token 0 4) (fieldAt token 4 2) (fieldAt token 6 2)
      { hour := fieldAt token 9 2, minute := fieldAt token 11 2, second := fieldAt token 13 2 }
  else if dateOnlyPattern token then
    isoOrNull lastDay (fieldAt token 0 4) (fieldAt token 4 2) (fieldAt token 6 2)
      (if endOfDay then { hour := 23, minute := 59, second := 59, milli := 999 }
        else { hour := 0, minute := 0, second := 0 })
  else if isDigits token then
    (Doubles.read token).bind fun value =>
      if (value : Int) ≤ maxTimeValue then some (value : Int) else none
  else none

def parseTimeParams (lastDay : Nat -> Nat -> Nat) (fromText toText : Option String) :
    Option StoredRange :=
  let token := (fromText.getD "").toList
  if token = [] then none
  else if presetPattern token then
    some
      { mode := .preset
        days := some (match Doubles.read (token.drop 4).dropLast with
          | some value => .whole value
          | none => .infinity) }
  else
    (parseAbsoluteToken lastDay token false).map fun fromIso =>
      { mode := .absolute
        fromIso := some fromIso
        toIso := toText.bind fun text =>
          if text.toList = [] then none else parseAbsoluteToken lastDay text.toList true }

section Formats

variable (lastDay : Nat -> Nat -> Nat)

theorem isDigits_cons_of_not {c : Char} (rest : List Char) (other : c.isDigit = false) :
    isDigits (c :: rest) = false := by
  simp [isDigits, other]

theorem isDigits_toDigits (value : Nat) : isDigits (Nat.toDigits 10 value) = true := by
  have digits : (Nat.toDigits 10 value).all Char.isDigit = true :=
    List.all_eq_true.mpr fun _ member => Nat.isDigit_of_mem_toDigits (by decide) (by decide) member
  simp [isDigits, digits, Nat.toDigits_ne_nil]

theorem parseAbsoluteToken_of_not_digit {c : Char} (rest : List Char) (other : c.isDigit = false)
    (endOfDay : Bool) : parseAbsoluteToken lastDay (c :: rest) endOfDay = none := by
  have none := isDigits_cons_of_not rest other
  have start : isDigits (c :: rest.take 7) = false := isDigits_cons_of_not _ other
  simp [parseAbsoluteToken, dateTimePattern, dateOnlyPattern, none, start]

theorem presetPattern_of_digits {token : List Char} (digits : isDigits token = true) :
    presetPattern token = false := by
  have noPrefix : token.take 4 ≠ "now-".toList := by
    intro same
    cases token with
    | nil => cases same
    | cons c rest =>
        have isLetter : c = 'n' := (List.cons.inj same).1
        rw [isLetter, isDigits_cons_of_not rest (by decide)] at digits
        cases digits
  unfold presetPattern
  rw [decide_eq_false noPrefix]
  rfl

theorem dateTimePattern_of_digits {token : List Char} (digits : isDigits token = true) :
    dateTimePattern token = false := by
  have noLetter : token[8]? ≠ some 'T' := by
    intro letter
    have all := (Bool.and_eq_true_iff.mp digits).2
    have isDigit := List.all_eq_true.mp all 'T' (List.mem_of_getElem? letter)
    exact absurd isDigit (by decide)
  simp [dateTimePattern, noLetter]

theorem isoOrNull_eq_some {year month day : Nat} {time : TimeOfDay} {instant : Int}
    (accepted : isoOrNull lastDay year month day time = some instant) :
    1 ≤ month ∧ month ≤ 12 ∧ Exists fun number : Int =>
      instant = millisPerDay * number + time.millis := by
  unfold isoOrNull at accepted
  split at accepted
  · rename_i valid
    simp only [Bool.and_eq_true, decide_eq_true_eq] at valid
    exact ⟨valid.1.1.1.1, valid.1.1.1.2, dayNumber year month day, (Option.some.inj accepted).symm⟩
  · cases accepted

theorem parseAbsoluteToken_eight (endOfDay : Bool) {epoch : Nat} (low : 10 ^ 7 ≤ epoch)
    (high : epoch < 10 ^ 8) :
    parseAbsoluteToken lastDay (Nat.toDigits 10 epoch) endOfDay ≠ some (epoch : Int) := by
  have digits := isDigits_toDigits epoch
  have length : (Nat.toDigits 10 epoch).length = 8 := by
    have atMost := (Nat.length_toDigits_le_iff (b := 10) (n := epoch) (k := 8) (by decide)
      (by decide)).mpr high
    have notLess := mt (Nat.length_toDigits_le_iff (b := 10) (n := epoch) (k := 7) (by decide)
      (by decide)).mp (not_lt.mpr low)
    omega
  intro read
  unfold parseAbsoluteToken at read
  rw [dateTimePattern_of_digits digits, if_neg Bool.false_ne_true, dateOnlyPattern, length, digits]
    at read
  simp only [decide_true, Bool.and_self, if_true] at read
  rcases isoOrNull_eq_some lastDay read with ⟨first, last, number, isEpoch⟩
  -- only two instants of the range lie at the beginning or the end of a day
  have cases : epoch = 86400000 ∨ epoch = 86399999 := by
    cases endOfDay with
    | true =>
        have millis : (epoch : Int) = 86400000 * number + 86399999 := isEpoch
        omega
    | false =>
        have millis : (epoch : Int) = 86400000 * number + 0 := isEpoch
        omega
  rcases cases with rfl | rfl
  · exact absurd first (by decide)
  · exact absurd last (by decide)

def Encodable (epoch : Int) : Prop :=
  0 ≤ epoch ∧ ¬ (10 ^ 7 ≤ epoch ∧ epoch < 10 ^ 8)

theorem parseAbsoluteToken_epochText {epoch : Int} (valid : |epoch| ≤ maxTimeValue)
    (endOfDay : Bool) :
    parseAbsoluteToken lastDay (epochText epoch) endOfDay = some epoch ↔ Encodable epoch := by
  unfold epochText
  by_cases negative : epoch < 0
  · rw [if_pos negative, parseAbsoluteToken_of_not_digit lastDay _ (by decide)]
    exact ⟨fun impossible => (by cases impossible),
      fun encodable => absurd encodable.1 (not_le.mpr negative)⟩
  · rcases Int.eq_ofNat_of_zero_le (not_lt.mp negative) with ⟨value, rfl⟩
    rw [if_neg negative, Int.natAbs_natCast]
    have bounded : (value : Int) ≤ 8640000000000000 := (abs_le.mp valid).2
    by_cases eight : 10 ^ 7 ≤ value ∧ value < 10 ^ 8
    · refine ⟨fun read => absurd read (parseAbsoluteToken_eight lastDay endOfDay eight.1 eight.2), ?_⟩
      intro encodable
      exact absurd (by omega : (10 : Int) ^ 7 ≤ value ∧ (value : Int) < 10 ^ 8) encodable.2
    · have digits := isDigits_toDigits value
      have notDate : dateOnlyPattern (Nat.toDigits 10 value) = false := by
        have length : (Nat.toDigits 10 value).length ≠ 8 := by
          intro isEight
          have below := (Nat.length_toDigits_le_iff (b := 10) (n := value) (k := 8) (by decide)
            (by decide)).mp isEight.le
          have notBelow := mt (Nat.length_toDigits_le_iff (b := 10) (n := value) (k := 7)
            (by decide) (by decide)).mpr (by omega)
          exact eight ⟨not_lt.mp notBelow, below⟩
        simp [dateOnlyPattern, length]
      have exact : Doubles.nearest value = value := Doubles.nearest_of_lt (by omega)
      have read : Doubles.read (Nat.toDigits 10 value) = some value := by
        rw [Doubles.read_toDigits, exact]
        rw [exact]
        exact Doubles.lt_overflow (by omega)
      refine ⟨fun _ => ⟨Int.natCast_nonneg value, by omega⟩, fun _ => ?_⟩
      unfold parseAbsoluteToken
      rw [dateTimePattern_of_digits digits, notDate, digits, read]
      simp only [Bool.false_eq_true, if_false, if_true, Option.bind_some]
      rw [if_pos (show (value : Int) ≤ maxTimeValue from bounded)]

end Formats

inductive StoredRange.Linkable (range : StoredRange) : Prop
  | preset (days : Int) (mode : range.mode = .preset) (given : range.days = some (.whole days))
      (double : Doubles.nearest days.natAbs = days.natAbs)
  | absolute (fromIso : Int) (mode : range.mode = .absolute)
      (given : range.fromIso = some fromIso) (valid : |fromIso| ≤ maxTimeValue)
      (validTo : forall toIso, range.toIso = some toIso -> |toIso| ≤ maxTimeValue)

structure SameRange (range other : StoredRange) : Prop where
  mode : other.mode = range.mode
  days : range.mode = .preset -> other.days = range.days
  instants : range.mode = .absolute -> other.fromIso = range.fromIso ∧ other.toIso = range.toIso

def RoundTrips (lastDay : Nat -> Nat -> Nat) (computedFrom : Int) (range : StoredRange) : Prop :=
  Exists fun parsed =>
    parseTimeParams lastDay (some (rangeToParams computedFrom range).fromText)
        (rangeToParams computedFrom range).toText = some parsed ∧
      SameRange range parsed

structure StoredRange.Readable (range : StoredRange) : Prop where
  days : range.mode = .preset -> forall days, range.days = some (.whole days) ->
    0 ≤ days ∧ days < 10 ^ 21
  fromIso : range.mode = .absolute -> forall fromIso, range.fromIso = some fromIso ->
    Encodable fromIso
  toIso : range.mode = .absolute -> forall toIso, range.toIso = some toIso -> Encodable toIso

theorem epochText_ne_nil (epoch : Int) : epochText epoch ≠ [] := by
  unfold epochText
  split
  · exact List.cons_ne_nil _ _
  · exact Nat.toDigits_ne_nil

theorem presetPattern_epochText (epoch : Int) : presetPattern (epochText epoch) = false := by
  unfold epochText
  split
  · simp [presetPattern]
  · exact presetPattern_of_digits (isDigits_toDigits _)

theorem not_digits_of_mem {text : List Char} {c : Char} (member : c ∈ text)
    (other : c.isDigit = false) : isDigits text = false := by
  unfold isDigits
  rw [List.all_eq_false.mpr ⟨c, member, by rw [other]; exact Bool.false_ne_true⟩, Bool.and_false]

/-- The text of a number of days is made of digits exactly when it has neither a sign nor
an exponent. -/
theorem isDigits_daysText (days : Int) :
    isDigits (DayCount.whole days).text = true ↔ 0 ≤ days ∧ days < 10 ^ 21 := by
  unfold DayCount.text
  by_cases negative : days < 0
  · dsimp only
    rw [if_pos negative, isDigits_cons_of_not _ (by decide)]
    exact ⟨fun impossible => (by cases impossible),
      fun range => absurd range.1 (not_le.mpr negative)⟩
  · rcases Int.eq_ofNat_of_zero_le (not_lt.mp negative) with ⟨value, rfl⟩
    dsimp only
    rw [if_neg negative, Int.natAbs_natCast]
    by_cases small : value < 10 ^ 21
    · have digits : isDigits (Doubles.text value) = true := by
        unfold Doubles.text
        rw [if_pos small]
        exact isDigits_toDigits _
      exact ⟨fun _ => ⟨Int.natCast_nonneg value, by omega⟩, fun _ => digits⟩
    · have letter := Doubles.exponent_mem_text (not_lt.mp small)
      rw [not_digits_of_mem letter (by decide)]
      exact ⟨fun impossible => (by cases impossible), fun range => absurd range.2 (by omega)⟩

theorem parseTimeParams_preset (lastDay : Nat -> Nat -> Nat) (text : List Char)
    (toText : Option String) :
    parseTimeParams lastDay (some (String.ofList ("now-".toList ++ (text ++ ['d'])))) toText =
      if isDigits text then
        some { mode := .preset
               days := some (match Doubles.read text with
                 | some value => .whole value
                 | none => .infinity) }
      else none := by
  have inner : (("now-".toList ++ (text ++ ['d'])).drop 4).dropLast = text := by
    simp
  have pattern : presetPattern ("now-".toList ++ (text ++ ['d'])) = isDigits text := by
    have last : ("now-".toList ++ (text ++ ['d'])).getLast? = some 'd' := by
      rw [<- List.append_assoc, List.getLast?_concat]
    unfold presetPattern
    rw [inner, last]
    simp
  unfold parseTimeParams
  simp only [Option.getD_some, String.toList_ofList, pattern, inner]
  cases digits : isDigits text with
  | true => simp
  | false =>
      have noToken := parseAbsoluteToken_of_not_digit lastDay ("ow-".toList ++ (text ++ ['d']))
        (show ('n').isDigit = false by decide) false
      change parseAbsoluteToken lastDay ("now-".toList ++ (text ++ ['d'])) false = none at noToken
      rw [noToken]
      simp

theorem parseTimeParams_absolute (lastDay : Nat -> Nat -> Nat) (fromIso : Int)
    (toIso : Option Int) :
    parseTimeParams lastDay (some (String.ofList (epochText fromIso)))
        (toIso.map fun toIso => String.ofList (epochText toIso)) =
      (parseAbsoluteToken lastDay (epochText fromIso) false).map fun readFrom =>
        { mode := .absolute
          fromIso := some readFrom
          toIso := toIso.bind fun toIso => parseAbsoluteToken lastDay (epochText toIso) true } := by
  unfold parseTimeParams
  simp only [Option.getD_some, String.toList_ofList, presetPattern_epochText, epochText_ne_nil,
    if_false, Bool.false_eq_true]
  cases toIso with
  | none => rfl
  | some toIso =>
      simp only [Option.map_some, Option.bind_some, String.toList_ofList, epochText_ne_nil, if_false]

section Links

variable (lastDay : Nat -> Nat -> Nat) (computedFrom : Int) {range : StoredRange}

theorem preset_roundTrips_iff {days : Int} (mode : range.mode = .preset)
    (given : range.days = some (.whole days))
    (double : Doubles.nearest days.natAbs = days.natAbs) :
    RoundTrips lastDay computedFrom range ↔ 0 ≤ days ∧ days < 10 ^ 21 := by
  rw [<- isDigits_daysText days]
  unfold RoundTrips rangeToParams
  rw [mode, given]
  dsimp only [Option.getD_some]
  rw [parseTimeParams_preset]
  constructor
  · rintro ⟨parsed, read, _⟩
    by_contra notDigits
    rw [if_neg notDigits] at read
    cases read
  · intro digits
    rw [if_pos digits]
    rcases (isDigits_daysText days).mp digits with ⟨nonneg, small⟩
    rcases Int.eq_ofNat_of_zero_le nonneg with ⟨value, rfl⟩
    rw [Int.natAbs_natCast] at double
    have isText : (DayCount.whole (value : Int)).text = Doubles.text value := by
      unfold DayCount.text
      simp
    refine ⟨_, rfl, mode.symm, fun _ => ?_, fun absolute => ?_⟩
    · rw [given, isText, Doubles.read_text double (by omega)]
    · rw [mode] at absolute
      cases absolute

theorem absolute_roundTrips_iff {fromIso : Int} (mode : range.mode = .absolute)
    (given : range.fromIso = some fromIso) (valid : |fromIso| ≤ maxTimeValue)
    (validTo : forall toIso, range.toIso = some toIso -> |toIso| ≤ maxTimeValue) :
    RoundTrips lastDay computedFrom range ↔
      Encodable fromIso ∧ forall toIso, range.toIso = some toIso -> Encodable toIso := by
  unfold RoundTrips rangeToParams
  rw [mode, given]
  dsimp only [Option.getD_some]
  rw [parseTimeParams_absolute]
  have readTo : (range.toIso.bind fun toIso => parseAbsoluteToken lastDay (epochText toIso) true) =
      range.toIso ↔ forall toIso, range.toIso = some toIso -> Encodable toIso := by
    cases isTo : range.toIso with
    | none => simp
    | some toIso =>
        rw [Option.bind_some, parseAbsoluteToken_epochText lastDay (validTo toIso isTo)]
        simp
  constructor
  · rintro ⟨parsed, read, same⟩
    rcases Option.map_eq_some_iff.mp read with ⟨readFrom, here, isParsed⟩
    subst isParsed
    rcases same.instants mode with ⟨sameFrom, sameTo⟩
    rw [given, Option.some.injEq] at sameFrom
    rw [sameFrom] at here
    exact ⟨(parseAbsoluteToken_epochText lastDay valid false).mp here, readTo.mp sameTo⟩
  · rintro ⟨encodable, encodableTo⟩
    rw [(parseAbsoluteToken_epochText lastDay valid false).mpr encodable]
    refine ⟨_, rfl, mode.symm, fun preset => ?_, fun _ => ⟨given.symm, readTo.mpr encodableTo⟩⟩
    rw [mode] at preset
    cases preset

/-- A link is read back as its range exactly when the number of days is a plain integer,
respectively when no instant lies before the epoch or is written with eight digits. -/
theorem timeRange_roundTrips_iff (linkable : range.Linkable) :
    RoundTrips lastDay computedFrom range ↔ range.Readable := by
  cases linkable with
  | preset days mode given double =>
      rw [preset_roundTrips_iff lastDay computedFrom mode given double]
      constructor
      · intro plain
        refine ⟨fun _ other isOther => ?_, fun absolute => ?_, fun absolute => ?_⟩
        · rw [given, Option.some.injEq, DayCount.whole.injEq] at isOther
          exact isOther ▸ plain
        · rw [mode] at absolute
          cases absolute
        · rw [mode] at absolute
          cases absolute
      · exact fun readable => readable.days mode days given
  | absolute fromIso mode given valid validTo =>
      rw [absolute_roundTrips_iff lastDay computedFrom mode given valid validTo]
      constructor
      · rintro ⟨encodable, encodableTo⟩
        refine ⟨fun preset => ?_, fun _ other isOther => ?_, fun _ => encodableTo⟩
        · rw [mode] at preset
          cases preset
        · rw [given, Option.some.injEq] at isOther
          exact isOther ▸ encodable
      · exact fun readable => ⟨readable.fromIso mode fromIso given, readable.toIso mode⟩

end Links

def thirtyDays : StoredRange :=
  { mode := .preset, days := some (.whole 30) }

def secondOfMay : StoredRange :=
  { mode := .absolute, fromIso := some 1777680000000, toIso := some 1777766399999 }

theorem thirtyDays_and_secondOfMay_roundTrip :
    RoundTrips (fun _ _ => 31) 0 thirtyDays ∧ RoundTrips (fun _ _ => 31) 0 secondOfMay := by
  have linkable : secondOfMay.Linkable := by
    refine .absolute 1777680000000 rfl rfl (by decide) ?_
    intro toIso isTo
    cases isTo
    decide
  refine ⟨(timeRange_roundTrips_iff (fun _ _ => 31) 0 (.preset 30 rfl rfl (by decide))).mpr ?_,
    (timeRange_roundTrips_iff (fun _ _ => 31) 0 linkable).mpr ?_⟩
  · exact {
      days := by
        intro _ days isDays
        cases isDays
        decide
      fromIso := fun absolute => by cases absolute
      toIso := fun absolute => by cases absolute }
  · exact {
      days := fun preset => by cases preset
      fromIso := by
        intro _ fromIso isFrom
        cases isFrom
        exact ⟨by decide, by decide⟩
      toIso := by
        intro _ toIso isTo
        cases isTo
        exact ⟨by decide, by decide⟩ }

def secondOfJanuary : StoredRange :=
  { mode := .absolute, fromIso := some 86400000, toIso := some 172799999 }

/-- Its beginning has eight digits and is taken for a date in the year 8640. -/
theorem secondOfJanuary_lost :
    secondOfJanuary.Linkable ∧ ¬ RoundTrips (fun _ _ => 31) 0 secondOfJanuary := by
  constructor
  · refine .absolute 86400000 rfl rfl (by decide) ?_
    intro toIso isTo
    cases isTo
    decide
  · rintro ⟨parsed, read, _⟩
    have unread : parseTimeParams (fun _ _ => 31)
        (some (rangeToParams 0 secondOfJanuary).fromText)
        (rangeToParams 0 secondOfJanuary).toText = none := by decide +kernel
    rw [unread] at read
    cases read

end Ui
end Tropek
