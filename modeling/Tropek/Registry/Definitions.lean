import Tropek.Store.Rows

namespace Tropek
namespace Registry

open Library Engine Store Fallible

/-!
# The definition registries

What the create endpoints check before they store a version of an SLI or of an
SLO.  An SLI is checked against its mode.  An SLO that is bound to an SLI may
only name the metrics that the SLI can produce, and nothing else of it is
checked: neither that it has an objective, nor the words of its comparison block,
nor its criteria strings.

Displayed texts, tags, authors and change point settings are stored as they are
and left out here.
-/

/-- The checks of a definition that fail, each under the text of its message.
`nullByte`: `null bytes are not allowed`; `invalidKey`: a dictionary key that is no
identifier; `invalidMode`: `mode must be one of`, with the mode that was given;
`rawWithoutIndicators`: `indicators must be non-empty for mode raw`; `setForRaw`: `must
not be set for mode raw`, with the field; `aggregatedWithoutQuery`: `aggregated mode
requires indicators or query_template`; `aggregatedWithBoth`: `aggregated mode accepts
indicators or query_template, not both`; `intervalRequired`: `interval is required for
mode aggregated`; `malformedInterval`: `interval must be a whole number above zero`,
with the interval; `methodsRequired`: `methods must be non-empty for mode aggregated`;
`noQueryTemplate`: `could not build queries for aggregated sli`, with its name;
`noMethods`: `could not derive metric names for aggregated sli`, with its name;
`sliNotFound`: `sli definition not found`, with the name and the version asked for;
`objectiveNotInSli`: `objective sli not found in SLI definition indicators`;
`versionTaken`: the version is already there. -/
inductive RegistryError where
  | nullByte
  | invalidKey (key : String)
  | invalidMode (mode : String)
  | rawWithoutIndicators
  | setForRaw (field : String)
  | aggregatedWithoutQuery
  | aggregatedWithBoth
  | intervalRequired
  | malformedInterval (interval : String)
  | methodsRequired
  | noQueryTemplate (sliName : String)
  | noMethods (sliName : String)
  | sliNotFound (name : String) (version : Option Int)
  | objectiveNotInSli (sli sliName : String)
  | versionTaken
deriving DecidableEq, Repr

/-- `SafeStr`. -/
def checkSafeStr (value : String) : Except RegistryError Unit :=
  if value.toList.contains (Char.ofNat 0) then .error .nullByte else .ok ()

/-- The pattern and the length of `IdentifierKey`. -/
def isIdentifierKey (key : String) : Bool :=
  match key.toList with
  | [] => false
  | first :: rest => isNameStart first && rest.all isNameChar && rest.length < 128

def checkIdentifierKey (key : String) : Except RegistryError Unit :=
  if isIdentifierKey key then .ok () else .error (.invalidKey key)

/-- `dict[IdentifierKey, SafeStr]`. -/
def checkDict (dict : Dict String) : Except RegistryError Unit :=
  dict.entries.forM fun entry => do
    checkIdentifierKey entry.1
    checkSafeStr entry.2

inductive AggregationMethod where
  | min
  | mean
  | max
  | std
  | sum
  | median
  | p75
  | p90
  | p95
  | p99
deriving DecidableEq, Repr

def AggregationMethod.name : AggregationMethod -> String
  | .min => "min"
  | .mean => "mean"
  | .max => "max"
  | .std => "std"
  | .sum => "sum"
  | .median => "median"
  | .p75 => "p75"
  | .p90 => "p90"
  | .p95 => "p95"
  | .p99 => "p99"

structure SLIDefinitionCreate where
  name : String
  mode : String := "raw"
  indicators : Dict String := ∅
  queryTemplate : Option String := none
  interval : Option String := none
  methods : Option (List AggregationMethod) := none
  comparableFromVersion : Option Int := none

/-- The unit letter of an interval and its end.  Like every `$` of `re.match`, the
end allows for one line break. -/
def isIntervalEnd : List Char -> Bool
  | [unit] => "smhd".toList.contains unit
  | [unit, '\n'] => "smhd".toList.contains unit
  | _ => false

/-- `_INTERVAL_RE`. -/
def matchesInterval (interval : String) : Bool :=
  match interval.toList with
  | [] => false
  | first :: rest => '1' ≤ first && first ≤ '9' && isIntervalEnd (takeDigits rest).2

def isFalsy (value : Option String) : Bool :=
  value.getD "" = ""

def validateRawMode (sli : SLIDefinitionCreate) : Except RegistryError Unit :=
  if sli.indicators.entries = [] then .error .rawWithoutIndicators
  else if sli.queryTemplate ≠ none then .error (.setForRaw "query_template")
  else if sli.interval ≠ none then .error (.setForRaw "interval")
  else if sli.methods ≠ none then .error (.setForRaw "methods")
  else .ok ()

def validateAggregatedMode (sli : SLIDefinitionCreate) : Except RegistryError Unit :=
  if sli.indicators.entries = [] ∧ isFalsy sli.queryTemplate then .error .aggregatedWithoutQuery
  else if sli.indicators.entries ≠ [] ∧ !isFalsy sli.queryTemplate then .error .aggregatedWithBoth
  else if isFalsy sli.interval then .error .intervalRequired
  else if !matchesInterval (sli.interval.getD "") then
    .error (.malformedInterval (sli.interval.getD ""))
  else if sli.methods.getD [] = [] then .error .methodsRequired
  else .ok ()

def validateModeFields (sli : SLIDefinitionCreate) : Except RegistryError SLIMode :=
  match sli.mode with
  | "raw" => do
      validateRawMode sli
      return .raw
  | "aggregated" => do
      validateAggregatedMode sli
      return .aggregated
  | mode => .error (.invalidMode mode)

def checkSliFields (sli : SLIDefinitionCreate) : Except RegistryError Unit := do
  checkSafeStr sli.name
  checkSafeStr sli.mode
  checkDict sli.indicators
  checkSafeStr (sli.queryTemplate.getD "")
  checkSafeStr (sli.interval.getD "")

def storedSli (sli : SLIDefinitionCreate) (mode : SLIMode) (version comparableFromVersion : Int) :
    SLIDefinition :=
  { name := sli.name
    version
    comparableFromVersion
    mode
    indicators := sli.indicators
    queryTemplate := sli.queryTemplate
    interval := sli.interval
    methods := sli.methods.map (·.map AggregationMethod.name) }

def maxSliVersion (db : Database) (name : String) : Option Int :=
  ((db.sliDefinitions.rows.filter (·.name = name)).map (·.version)).max?

def buildAggregatedTemplates (sliDef : SLIDefinition) :
    Except RegistryError (List (String × String)) :=
  if sliDef.indicators.entries ≠ [] then
    .ok (sliDef.indicators.entries.map fun entry => (entry.1, entry.2))
  else if isFalsy sliDef.queryTemplate then .error (.noQueryTemplate sliDef.name)
  else .ok [(sliDef.name, sliDef.queryTemplate.getD "")]

def buildIndicatorKeys (sliDef : SLIDefinition) : Except RegistryError (List String) :=
  match sliDef.mode with
  | .raw => .ok sliDef.indicators.keys
  | .aggregated =>
      if sliDef.methods.getD [] = [] then .error (.noMethods sliDef.name)
      else do
        let templates <- buildAggregatedTemplates sliDef
        return templates.flatMap fun template =>
          (sliDef.methods.getD []).map fun method => template.1 ++ "." ++ method

structure SLOObjectiveIn where
  sli : String
  displayName : String := ""
  passThreshold : List String := []
  warningThreshold : List String := []
  weight : Int := 1
  keySli : Bool := false

structure SLODefinitionCreate where
  name : String
  objectives : List SLOObjectiveIn
  totalScorePassThreshold : ℚ := 90
  totalScoreWarningThreshold : ℚ := 75
  comparison : StoredComparison := {}
  vars : Dict String := ∅
  sliName : Option String := none
  sliVersion : Option Int := none

/-- The SLI that an SLO is bound to: the version asked for, or the latest one. -/
def findSli (db : Database) (name : String) (version : Option Int) : Option SLIDefinition := do
  let version <- version.or (maxSliVersion db name)
  db.sliDefinitions.find (name, version)

def checkObjectives (db : Database) (body : SLODefinitionCreate) : Except RegistryError Unit :=
  match body.sliName with
  | none => .ok ()
  | some name => do
      let sliDef <- orRaise (.sliNotFound name body.sliVersion)
        (findSli db name body.sliVersion)
      let keys <- buildIndicatorKeys sliDef
      body.objectives.forM fun obj =>
        if keys.contains obj.sli then .ok () else .error (.objectiveNotInSli obj.sli name)

def checkSloFields (body : SLODefinitionCreate) : Except RegistryError Unit := do
  checkSafeStr body.name
  body.objectives.forM fun obj => do
    checkSafeStr obj.sli
    checkSafeStr obj.displayName
    (obj.passThreshold ++ obj.warningThreshold).forM checkSafeStr
  checkSafeStr (body.comparison.compareWith.getD "")
  checkSafeStr (body.comparison.includeResultWithScore.getD "")
  checkDict body.vars
  checkSafeStr (body.sliName.getD "")

/-- An objective row, with the identifier that its position in the list gets. -/
def storedObjective (firstId : Nat) (entry : SLOObjectiveIn × Nat) : SLOObjectiveRow :=
  { id := firstId + entry.2
    sli := entry.1.sli
    displayName := entry.1.displayName
    weight := entry.1.weight
    keySli := entry.1.keySli
    passThreshold := entry.1.passThreshold
    warningThreshold := entry.1.warningThreshold }

theorem storedObjectives_nodup (firstId : Nat) (objectives : List SLOObjectiveIn) :
    ((objectives.zipIdx.map (storedObjective firstId)).map SLOObjectiveRow.id).Nodup := by
  have ids : (objectives.zipIdx.map (storedObjective firstId)).map SLOObjectiveRow.id =
      (objectives.zipIdx.map Prod.snd).map (firstId + ·) := by
    rw [List.map_map, List.map_map]
    rfl
  rw [ids, List.zipIdx_map_snd]
  exact List.Nodup.map (fun first second same => Nat.add_left_cancel same) List.nodup_range'

def storedSlo (body : SLODefinitionCreate) (firstId : Nat) (version : Int) : SLODefinition :=
  { name := body.name
    version
    totalScorePassThreshold := body.totalScorePassThreshold
    totalScoreWarningThreshold := body.totalScoreWarningThreshold
    comparison := body.comparison
    vars := body.vars
    objectives := ⟨body.objectives.zipIdx.map (storedObjective firstId),
      storedObjectives_nodup firstId body.objectives⟩ }

def maxSloVersion (db : Database) (name : String) : Option Int :=
  ((db.sloDefinitions.rows.filter (·.name = name)).map (·.version)).max?

def boundSli (db : Database) (body : SLODefinitionCreate) : Option (String × Int) := do
  let name <- body.sliName
  let sliDef <- findSli db name body.sliVersion
  return (sliDef.name, sliDef.version)

/-- `create_slo_definition`, with identifiers for the objectives. -/
def createSloDefinition (db : Database) (body : SLODefinitionCreate) (firstId : Nat) :
    Except RegistryError Database := do
  checkSloFields body
  checkObjectives db body
  let row := { storedSlo body firstId ((maxSloVersion db body.name).getD 0 + 1) with
    sliDefinitionId := boundSli db body }
  if fresh : db.sloDefinitions.find (row.name, row.version) = none then
    return { db with sloDefinitions := db.sloDefinitions.insert row fresh }
  else .error .versionTaken

def Accepted (sliDef : SLIDefinition) : Prop :=
  Exists fun sli => Exists fun mode =>
    checkSliFields sli = .ok () ∧ validateModeFields sli = .ok mode ∧
      sliDef = storedSli sli mode sliDef.version sliDef.comparableFromVersion

theorem Accepted.validated {sliDef : SLIDefinition} (accepted : Accepted sliDef)
    (aggregated : sliDef.mode = .aggregated) :
    Exists fun sli => checkSliFields sli = .ok () ∧ validateAggregatedMode sli = .ok () ∧
      sliDef = storedSli sli .aggregated sliDef.version sliDef.comparableFromVersion := by
  rcases accepted with ⟨sli, mode, fields, validated, same⟩
  have modeIs : mode = .aggregated := by
    rw [same] at aggregated
    exact aggregated
  subst modeIs
  refine ⟨sli, fields, ?_, same⟩
  unfold validateModeFields at validated
  split at validated
  · rcases bind_eq_ok.mp validated with ⟨_, _, isRaw⟩
    cases isRaw
  · rcases bind_eq_ok.mp validated with ⟨_, checked, _⟩
    exact checked
  · cases validated

/-- An accepted aggregated SLI has a template to query, so building its queries
does not raise. -/
theorem Accepted.templates {sliDef : SLIDefinition} (accepted : Accepted sliDef)
    (aggregated : sliDef.mode = .aggregated) :
    (buildAggregatedTemplates sliDef).isOk = true := by
  rcases accepted.validated aggregated with ⟨sli, _, checked, same⟩
  have hasQuery : ¬ (sli.indicators.entries = [] ∧ isFalsy sli.queryTemplate = true) := by
    intro neither
    unfold validateAggregatedMode at checked
    rw [if_pos neither] at checked
    cases checked
  have indicatorsIs : sliDef.indicators = sli.indicators := by
    rw [same]
    rfl
  have templateIs : sliDef.queryTemplate = sli.queryTemplate := by
    rw [same]
    rfl
  unfold buildAggregatedTemplates
  by_cases empty : sliDef.indicators.entries = []
  · have truthy : isFalsy sliDef.queryTemplate = false := by
      rw [templateIs]
      exact Bool.eq_false_iff.mpr fun falsy => hasQuery ⟨indicatorsIs ▸ empty, falsy⟩
    rw [if_neg (not_not.mpr empty), truthy]
    rfl
  · rw [if_pos empty]
    rfl

theorem Accepted.methods {sliDef : SLIDefinition} (accepted : Accepted sliDef)
    (aggregated : sliDef.mode = .aggregated) :
    Exists fun interval => Exists fun methods : List AggregationMethod =>
      sliDef.interval = some interval ∧ methods ≠ [] ∧
        sliDef.methods = some (methods.map AggregationMethod.name) := by
  rcases accepted.validated aggregated with ⟨sli, _, checked, same⟩
  unfold validateAggregatedMode at checked
  split at checked
  · cases checked
  · split at checked
    · cases checked
    · split at checked
      · cases checked
      · rename_i hasInterval
        split at checked
        · cases checked
        · split at checked
          · cases checked
          · rename_i hasMethods
            rw [same]
            cases isInterval : sli.interval with
            | none =>
                rw [isInterval] at hasInterval
                exact absurd rfl hasInterval
            | some interval =>
                cases areMethods : sli.methods with
                | none =>
                    rw [areMethods] at hasMethods
                    exact absurd rfl hasMethods
                | some methods =>
                    refine ⟨interval, methods, isInterval, ?_,
                      congrArg (Option.map (List.map AggregationMethod.name)) areMethods⟩
                    intro empty
                    rw [areMethods, empty] at hasMethods
                    exact hasMethods rfl

theorem Accepted.indicatorNames {sliDef : SLIDefinition} (accepted : Accepted sliDef)
    {entry : Sigma fun _ : String => String} (present : entry ∈ sliDef.indicators.entries) :
    isIdentifierKey entry.1 = true := by
  rcases accepted with ⟨sli, mode, fields, _, same⟩
  rw [same] at present
  rcases bind_eq_ok.mp fields with ⟨_, _, fields⟩
  rcases bind_eq_ok.mp fields with ⟨_, _, fields⟩
  rcases bind_eq_ok.mp fields with ⟨_, checked, _⟩
  have entryChecked := (forM_isOk _ _).mp ((isOk_iff _).mpr ⟨_, checked⟩) entry present
  rcases bind_isOk.mp entryChecked with ⟨_, keyChecked, _⟩
  unfold checkIdentifierKey at keyChecked
  split at keyChecked
  · assumption
  · cases keyChecked

end Registry
end Tropek
