import Tropek.Engine.Evaluator

namespace Tropek
namespace Engine

open Library

/-!
# Query variables

A raw query template names variables as `$name`.  The worker collects the
variables of an evaluation from five places and substitutes them before the
adapter is called; a name without a value raises, and nothing has checked the
template before that.
-/

abbrev Instant := Int

def civilDate (day : Int) : Int × Int × Int :=
  let shifted := day + 719468
  let era := shifted / 146097
  let dayOfEra := shifted % 146097
  let yearOfEra := (dayOfEra - dayOfEra / 1460 + dayOfEra / 36524 - dayOfEra / 146096) / 365
  let dayOfYear := dayOfEra - (365 * yearOfEra + yearOfEra / 4 - yearOfEra / 100)
  let monthIndex := (5 * dayOfYear + 2) / 153
  let month := if monthIndex < 10 then monthIndex + 3 else monthIndex - 9
  let year := yearOfEra + era * 400 + (if month ≤ 2 then 1 else 0)
  (year, month, dayOfYear - (153 * monthIndex + 2) / 5 + 1)

def padded (width : Nat) (number : Int) : String :=
  let digits := Nat.toDigits 10 number.toNat
  String.ofList (List.replicate (width - digits.length) '0' ++ digits)

/-- `isoformat()` of a UTC timestamp. -/
def isoformat (instant : Instant) : String :=
  let (year, month, day) := civilDate (instant / 86400000000)
  let micros := instant % 86400000000
  let seconds := micros / 1000000
  let fraction := micros % 1000000
  padded 4 year ++ "-" ++ padded 2 month ++ "-" ++ padded 2 day ++ "T" ++
    padded 2 (seconds / 3600) ++ ":" ++ padded 2 (seconds / 60 % 60) ++ ":" ++
    padded 2 (seconds % 60) ++ (if fraction = 0 then "" else "." ++ padded 6 fraction) ++ "+00:00"

example : isoformat 1709208000000000 = "2024-02-29T12:00:00+00:00" := by decide +kernel

/-- A template is text with `$name` placeholders in it. -/
inductive Piece where
  | text (c : Char)
  | placeholder (name : String)
deriving DecidableEq, Repr

def isNameStart (c : Char) : Bool :=
  ('a' ≤ c && c ≤ 'z') || ('A' ≤ c && c ≤ 'Z') || c == '_'

def isNameChar (c : Char) : Bool :=
  isNameStart c || ('0' ≤ c && c ≤ '9')

/-- What the scan has read of a token: nothing, the dollar sign, or the dollar
sign and the reversed beginning of a name. -/
inductive ScanState where
  | outside
  | dollar
  | name (reversed : List Char)

/-- The matches of a variable pattern whose names go on with the given characters, with the
text between them.  A name extends as far as it can, and a dollar sign without a name is
text. -/
def scanPieces (continues : Char -> Bool) : ScanState -> List Char -> List Piece
  | .outside, [] => []
  | .dollar, [] => [.text '$']
  | .name reversed, [] => [.placeholder (String.ofList reversed.reverse)]
  | .outside, c :: rest =>
      if c = '$' then scanPieces continues .dollar rest
      else .text c :: scanPieces continues .outside rest
  | .dollar, c :: rest =>
      if isNameStart c then scanPieces continues (.name [c]) rest
      else if c = '$' then .text '$' :: scanPieces continues .dollar rest
      else .text '$' :: .text c :: scanPieces continues .outside rest
  | .name reversed, c :: rest =>
      if continues c then scanPieces continues (.name (c :: reversed)) rest
      else if c = '$' then
        .placeholder (String.ofList reversed.reverse) :: scanPieces continues .dollar rest
      else .placeholder (String.ofList reversed.reverse) :: .text c ::
        scanPieces continues .outside rest

def templatePieces (template : String) : List Piece :=
  scanPieces isNameChar .outside template.toList

/-- The replacement of one piece.  The error lists the names that have a value. -/
def replacePiece (vars : Dict String) : Piece -> Except EngineError String
  | .text c => .ok (String.singleton c)
  | .placeholder name =>
      match vars.lookup name with
      | some value => .ok value
      | none => .error (.unresolvedVariable name (vars.keys.insertionSort (· ≤ ·)))

def substituteVariables (template : String) (vars : Dict String) :
    Except EngineError String := do
  let parts <- (templatePieces template).mapM (replacePiece vars)
  return String.join parts

theorem substituteVariables_isOk (template : String) (vars : Dict String) :
    (substituteVariables template vars).isOk = true ↔
      forall name, Piece.placeholder name ∈ templatePieces template -> name ∈ vars := by
  have looped : (substituteVariables template vars).isOk =
      ((templatePieces template).mapM (replacePiece vars)).isOk := by
    unfold substituteVariables
    cases (templatePieces template).mapM (replacePiece vars) <;> rfl
  rw [looped, Fallible.mapM_isOk]
  constructor
  · intro replaced name member
    have found := replaced _ member
    rw [← AList.lookup_isSome]
    unfold replacePiece at found
    cases looked : vars.lookup name with
    | some value => rfl
    | none =>
        simp only [looked] at found
        cases found
  · intro resolved piece member
    cases piece with
    | text c => rfl
    | placeholder name =>
        have known := resolved name member
        rw [← AList.lookup_isSome] at known
        rcases Option.isSome_iff_exists.mp known with ⟨value, looked⟩
        simp only [replacePiece, looked]
        rfl

example : substituteVariables "up$$x by $job_1"
    ((∅ : Dict String).insert "job_1" "db" |>.insert "x" "7") = .ok "up$7 by db" := by
  decide +kernel

/-- The reserved variables that `build_variables` derives from the request,
together with the two prefixed names.  An empty name counts as absent. -/
def reservedVariables (assetName : Option String) (evaluationName start finish : String) :
    Dict String :=
  let vars : Dict String := (∅ : Dict String).insert "start" start |>.insert "end" finish
  let vars :=
    if evaluationName = "" then vars
    else (vars.insert "evaluation_name" evaluationName).insert "test_name" evaluationName
  let vars :=
    match assetName with
    | none | some "" => vars
    | some name => (vars.insert "asset_name" name).insert "TROPEK_ASSET" name
  vars.insert "TROPEK_EVALUATION" evaluationName

/-- Merge the variable sources.  `s ∪ t` prefers `s`, so a source on the left of
a union overwrites and one on the right only fills in what is absent. -/
def buildEvalVariables (assetName : Option String) (evaluationName start finish : String)
    (assetVariables assetTags sloVariables evalVariables : Dict String) : Dict String :=
  evalVariables ∪ (sloVariables ∪
    ((reservedVariables assetName evaluationName start finish ∪ assetVariables) ∪ assetTags))

theorem lookup_union (preferred others : Dict String) (name : String) :
    (preferred ∪ others).lookup name = (preferred.lookup name).or (others.lookup name) := by
  by_cases known : name ∈ preferred
  · rw [AList.lookup_union_left known]
    rcases Option.isSome_iff_exists.mp (AList.lookup_isSome.mpr known) with ⟨value, looked⟩
    rw [looked]
    rfl
  · rw [AList.lookup_union_right known, AList.lookup_eq_none.mpr known]
    rfl

theorem lookup_buildEvalVariables (assetName : Option String)
    (evaluationName start finish : String)
    (assetVariables assetTags sloVariables evalVariables : Dict String) (name : String) :
    (buildEvalVariables assetName evaluationName start finish assetVariables assetTags
        sloVariables evalVariables).lookup name =
      (evalVariables.lookup name).or ((sloVariables.lookup name).or
        ((((reservedVariables assetName evaluationName start finish).lookup name).or
          (assetVariables.lookup name)).or (assetTags.lookup name))) := by
  unfold buildEvalVariables
  rw [lookup_union, lookup_union, lookup_union, lookup_union]

end Engine
end Tropek
