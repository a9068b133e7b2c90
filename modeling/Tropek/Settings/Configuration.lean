import Mathlib.Data.Rat.Floor
import Tropek.Library.Fallible
import Tropek.Library.KeyedTable
import Tropek.Library.PythonInt
import Tropek.Library.TransitionSystem

namespace Tropek
namespace Settings

open Library Fallible

/-!
# Stored settings and their readers

The configuration table keeps every value as text, with the name of its type.  A request
may replace the text by any other that the validator of the type accepts, and the readers
parse it again: the creation of an SLO, the endpoints for the change point settings of an
objective, and the detection step of the worker.  They read all entries of change point
detection whichever one they need.

What Python makes of a text is taken from its interpreter.
-/

/-- The numbers and texts of the interpreter, with `F` for its floats.  `float`: `float`
of a text, or nothing where it raises; `floatOfInt`: `float` of an integer that is not
too large; `intOfFloat`: `int` of a float that is finite; `literal`: a literal of the
source. -/
structure Python (F : Type) extends PythonText where
  lower : String -> String
  float : String -> Option F
  truth : F -> Bool
  floatOfInt : Int -> Option F
  intOfFloat : F -> Option Int
  literal : ℚ -> F

/-- The types that an entry of the configuration may name.  `str`: `str`, and any type
the code does not know. -/
inductive ValueType where
  | bool
  | int
  | float
  | str
deriving DecidableEq, Repr

def ValueType.name : ValueType -> String
  | .bool => "bool"
  | .int => "int"
  | .float => "float"
  | .str => "str"

inductive TypedValue (F : Type) where
  | bool (flag : Bool)
  | int (number : Int)
  | float (number : F)
  | str (text : String)

def TypedValue.type {F : Type} : TypedValue F -> ValueType
  | .bool _ => .bool
  | .int _ => .int
  | .float _ => .float
  | .str _ => .str

/-- How an entry of the configuration is refused, or fails to be read.  `invalid`:
`ValueError` of the validation, with its message; `conversion`: `ValueError` or
`OverflowError` of a conversion; `driver`: an error of the database driver. -/
inductive Failure where
  | invalid (message : String)
  | notFound
  | conversion
  | driver
deriving DecidableEq, Repr

section Interpreter

variable {F : Type} (python : Python F)

/-- `TYPE_VALIDATORS`. -/
def accepts (valueType : ValueType) (value : String) : Bool :=
  match valueType with
  | .bool => python.lower value = "true" || python.lower value = "false"
  | .int => python.allDigits (PythonText.withoutDashes value.toList)
  | .float => (python.float value).isSome
  | .str => true

def parseTypedValue (value : String) (valueType : ValueType) : Except Failure (TypedValue F) :=
  match valueType with
  | .bool => .ok (.bool (python.lower value = "true"))
  | .int => (orRaise .conversion (python.int value.toList)).map .int
  | .float => (orRaise .conversion (python.float value)).map .float
  | .str => .ok (.str value)

structure Configuration where
  name : String
  value : String
  valueType : ValueType
deriving DecidableEq, Repr

abbrev ConfigurationTable : Type :=
  KeyedTable Configuration.name

/-- `update_value`.  The database takes no text with a null byte. -/
def updateValue (table : ConfigurationTable) (name value : String) :
    Except Failure ConfigurationTable :=
  match table.find name with
  | none => .error .notFound
  | some entry =>
      if accepts python entry.valueType value = false then
        .error (.invalid s!"value '{value}' is not a valid {entry.valueType.name}")
      else if value.toList.contains (Char.ofNat 0) then .error .driver
      else .ok (table.update name (fun row => { row with value }) fun _ => rfl)

/-- `LIKE 'change_point.%'`, where an underscore stands for any character. -/
def likeStart : List Char -> List Char -> Bool
  | [], _ => true
  | _ :: _, [] => false
  | mark :: pattern, letter :: text => (mark = '_' || mark = letter) && likeStart pattern text

def changePointPrefix : String :=
  "change_point."

/-- `removeprefix('change_point.')`. -/
def settingKey (name : String) : String :=
  if changePointPrefix.toList.isPrefixOf name.toList then
    String.ofList (name.toList.drop changePointPrefix.toList.length)
  else name

abbrev Defaults (F : Type) : Type :=
  List (String × TypedValue F)

def getChangePointDefaults (table : ConfigurationTable) : Except Failure (Defaults F) :=
  (table.rows.filter fun row => likeStart changePointPrefix.toList row.name.toList).mapM fun row => do
    let parsed <- parseTypedValue python row.value row.valueType
    return (settingKey row.name, parsed)

def toBool : TypedValue F -> Bool
  | .bool flag => flag
  | .int number => number ≠ 0
  | .float number => python.truth number
  | .str text => text ≠ ""

def toInt : TypedValue F -> Except Failure Int
  | .bool flag => .ok (if flag then 1 else 0)
  | .int number => .ok number
  | .float number => orRaise .conversion (python.intOfFloat number)
  | .str text => orRaise .conversion (python.int text.toList)

def toFloat : TypedValue F -> Except Failure F
  | .bool flag => orRaise .conversion (python.floatOfInt (if flag then 1 else 0))
  | .int number => orRaise .conversion (python.floatOfInt number)
  | .float number => .ok number
  | .str text => orRaise .conversion (python.float text)

/-- `dict.get`: of two entries with one key the later one counts. -/
def Defaults.get (defaults : Defaults F) (key : String) : Option (TypedValue F) :=
  (defaults.reverse.find? fun entry => entry.1 = key).map Prod.snd

def boolSetting (defaults : Defaults F) (key : String) (otherwise : Bool) : Bool :=
  ((defaults.get key).map (toBool python)).getD otherwise

def intSetting (defaults : Defaults F) (key : String) (otherwise : Int) : Except Failure Int :=
  match defaults.get key with
  | none => .ok otherwise
  | some found => toInt python found

def floatSetting (defaults : Defaults F) (key : String) (otherwise : F) : Except Failure F :=
  match defaults.get key with
  | none => .ok otherwise
  | some found => toFloat python found

end Interpreter

def IsInt32 (number : Int) : Prop :=
  -2 ^ 31 ≤ number ∧ number ≤ 2 ^ 31 - 1

instance (number : Int) : Decidable (IsInt32 number) :=
  inferInstanceAs (Decidable (_ ∧ _))

/-- What an `Integer` column holds, and what `IntNotBool` lets through. -/
abbrev DbInteger : Type :=
  { number : Int // IsInt32 number }

def storeInteger (number : Int) : Except Failure DbInteger :=
  if fits : IsInt32 number then .ok ⟨number, fits⟩ else .error .driver

structure ChangePointConfig (ι F : Type) where
  enabled : Bool
  higherIsBetter : Bool
  windowSize : ι
  maxPvalue : F
  minMagnitude : F
  minSampleSize : ι

structure ChangePointConfigInput (F : Type) where
  enabled : Option Bool := none
  higherIsBetter : Option Bool := none
  windowSize : Option DbInteger := none
  maxPvalue : Option F := none
  minMagnitude : Option F := none
  minSampleSize : Option DbInteger := none

structure ResolvedConfig (F : Type) extends ChangePointConfig Int F where
  pvalueStrictThreshold : F
  pvalueModerateThreshold : F

section Readers

variable {F : Type} (python : Python F)

/-- `... if ... is not None else ...`. -/
def givenOr {α : Type} : Option α -> Except Failure α -> Except Failure α
  | some value, _ => .ok value
  | none, otherwise => otherwise

def resolveInput (defaults : Defaults F) (input : ChangePointConfigInput F) :
    Except Failure (ChangePointConfig Int F) := do
  let windowSize <- givenOr (input.windowSize.map Subtype.val) (intSetting python defaults "window_size" 30)
  let maxPvalue <- givenOr input.maxPvalue
    (floatSetting python defaults "max_pvalue" (python.literal (1 / 1000)))
  let minMagnitude <- givenOr input.minMagnitude
    (floatSetting python defaults "min_magnitude" (python.literal 0))
  let minSampleSize <- givenOr (input.minSampleSize.map Subtype.val)
    (intSetting python defaults "min_sample_size" 10)
  return {
    enabled := input.enabled.getD (boolSetting python defaults "enabled" true)
    higherIsBetter := input.higherIsBetter.getD (boolSetting python defaults "higher_is_better" false)
    windowSize, maxPvalue, minMagnitude, minSampleSize }

/-- `INSERT` or `UPDATE` of a `change_point_config` row. -/
def storeConfig (config : ChangePointConfig Int F) : Except Failure (ChangePointConfig DbInteger F) := do
  let windowSize <- storeInteger config.windowSize
  let minSampleSize <- storeInteger config.minSampleSize
  return { config with windowSize, minSampleSize }

/-- `_attach_change_point_config`: the settings of the request, else those of the previous
version. -/
def attachChangePointConfig (defaults : Defaults F) (input : Option (ChangePointConfigInput F))
    (previous : Option (ChangePointConfig DbInteger F)) :
    Except Failure (Option (ChangePointConfig DbInteger F)) :=
  match input with
  | some input => do
      let config <- resolveInput python defaults input
      let stored <- storeConfig config
      return some stored
  | none => .ok previous

/-- The settings that `SLORepository.create` stores for the objectives of a new version. -/
def createSloConfigs (table : ConfigurationTable) (objectives :
    List (Option (ChangePointConfigInput F) × Option (ChangePointConfig DbInteger F))) :
    Except Failure (List (Option (ChangePointConfig DbInteger F))) := do
  let defaults <- getChangePointDefaults python table
  objectives.mapM fun objective => attachChangePointConfig python defaults objective.1 objective.2

def ChangePointConfig.read (config : ChangePointConfig DbInteger F) : ChangePointConfig Int F :=
  { config with windowSize := config.windowSize.val, minSampleSize := config.minSampleSize.val }

def getChangePointConfig (table : ConfigurationTable)
    (stored : Option (ChangePointConfig DbInteger F)) : Except Failure (ChangePointConfig Int F) :=
  match stored with
  | some config => .ok config.read
  | none => do
      let defaults <- getChangePointDefaults python table
      resolveInput python defaults {}

def upsertChangePointConfig (table : ConfigurationTable) (body : ChangePointConfigInput F) :
    Except Failure (ChangePointConfig DbInteger F) := do
  let defaults <- getChangePointDefaults python table
  let config <- resolveInput python defaults body
  storeConfig config

/-- `resolve_from_objective`: the thresholds of the two passes are always the defaults. -/
def resolveFromObjective (defaults : Defaults F)
    (override : Option (ChangePointConfig DbInteger F)) : Except Failure (ResolvedConfig F) := do
  let strict <- floatSetting python defaults "pvalue_strict_threshold" (python.literal (1 / 20))
  let moderate <- floatSetting python defaults "pvalue_moderate_threshold" (python.literal (1 / 2))
  let config <- givenOr (override.map ChangePointConfig.read) (resolveInput python defaults {})
  return { config with pvalueStrictThreshold := strict, pvalueModerateThreshold := moderate }

/-- The query of the history takes a limit that is a `bigint` and not negative. -/
def queryHistory (limit : Int) : Except Failure Int :=
  if 0 ≤ limit ∧ limit < 2 ^ 63 then .ok limit else .error .driver

/-- `load_change_point_inputs`, for the overrides of the objectives that have a measurement:
the enabled objectives, and how much history is read for them. -/
def loadChangePointInputs (table : ConfigurationTable)
    (objectives : List (Option (ChangePointConfig DbInteger F))) :
    Except Failure (Option (List (ResolvedConfig F) × Int)) := do
  let defaults <- getChangePointDefaults python table
  let resolved <- objectives.mapM (resolveFromObjective python defaults)
  match resolved.filter (·.enabled) with
  | [] => return none
  | first :: others => do
      let maxWindow := others.foldl (fun window config => max window config.windowSize) first.windowSize
      let history <- queryHistory maxWindow
      return some (first :: others, history)

end Readers

end Settings
end Tropek
