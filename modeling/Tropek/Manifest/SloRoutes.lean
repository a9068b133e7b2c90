import Tropek.Manifest.Routes

namespace Tropek
namespace Manifest

open Library Engine Registry Fallible

/-!
# The routes for SLOs and SLO groups

An SLO is versioned like an SLI: to create it is to append a version.  A group owns a
table of values, one row of which together with a template gives one generated SLO.
To update the group is to generate again: names that are new get an SLO, names that
remain get a version, and names that are gone are deactivated.
-/

/-- `GET /slo-definitions/{name}`. -/
def getSlo (name : String) : Query SLO := fun api =>
  orRaise (.notFound "slo definition" name) (api.latestSlo name)

structure SLOObjectiveIn where
  sli : String
  displayName : String := ""
  passThreshold : Option (List String) := none
  warningThreshold : Option (List String) := none
  weight : Int := 1
  keySli : Bool := false
  changePoint : Option ChangePointConfigInput := none
deriving DecidableEq, Repr

structure SLODefinitionCreate where
  name : String
  displayName : Option String := none
  objectives : List SLOObjectiveIn
  totalScorePassThreshold : ℚ := 90
  totalScoreWarningThreshold : ℚ := 75
  comparison : Option ComparisonConfig := none
  notes : Option String := none
  author : Option String := none
  vars : Option (Dict String) := none
  comparableFromVersion : Option Int := none
  kind : String := "standard"
  sliName : Option String := none
  sliVersion : Option Int := none
  methodCriteria : Option (Dict MethodCriteriaOverride) := none

structure SLOCreateParams where
  name : String
  displayName : Option String := none
  objectives : List SLOObjectiveIn
  totalScorePassThreshold : ℚ
  totalScoreWarningThreshold : ℚ
  comparison : ComparisonConfig
  notes : Option String := none
  author : Option String := none
  vars : Dict String
  comparableFromVersion : Option Int := none
  kind : String := "standard"
  sliDefinition : Option (String × Int)
  methodCriteria : Option (Dict MethodCriteriaOverride) := none
  generatedByGroup : Option Nat := none

def ChangePointConfigInput.resolve (input defaults : ChangePointConfigInput) :
    ChangePointConfig where
  enabled := input.enabled.getD (defaults.enabled.getD true)
  higherIsBetter := input.higherIsBetter.getD (defaults.higherIsBetter.getD false)
  windowSize := input.windowSize.getD (defaults.windowSize.getD 30)
  maxPvalue := input.maxPvalue.getD (defaults.maxPvalue.getD (1 / 1000))
  minMagnitude := input.minMagnitude.getD (defaults.minMagnitude.getD 0)
  minSampleSize := input.minSampleSize.getD (defaults.minSampleSize.getD 10)

/-- The settings of the objective in the previous version; of two objectives on one
metric the later one counts. -/
def previousConfig (previous : Option SLO) (sli : String) : Option ChangePointConfig := do
  let slo <- previous
  let objective <- slo.objectives.reverse.find? fun objective =>
    objective.sli = sli && objective.changePoint.isSome
  objective.changePoint

/-- `_attach_change_point_config`: the request's settings, else those of the previous
version. -/
def attachedConfig (defaults : ChangePointConfigInput) (previous : Option SLO)
    (objective : SLOObjectiveIn) : Option ChangePointConfig :=
  (objective.changePoint.map fun input => input.resolve defaults).or
    (previousConfig previous objective.sli)

def storedObjective (defaults : ChangePointConfigInput) (previous : Option SLO)
    (objective : SLOObjectiveIn) : Objective where
  sli := objective.sli
  displayName := objective.displayName
  passThreshold := objective.passThreshold.getD []
  warningThreshold := objective.warningThreshold.getD []
  weight := objective.weight
  keySli := objective.keySli
  changePoint := attachedConfig defaults previous objective

def Api.maxSloVersion (api : Api) (name : String) : Option Int :=
  ((api.slos.rows.filter (·.name = name)).map SLO.version).max?

/-- The version that is stored for the parameters.  Without a marker of its own it is
comparable from the version before it. -/
def Api.nextSlo (api : Api) (params : SLOCreateParams) : SLO where
  name := params.name
  version := (api.maxSloVersion params.name).getD 0 + 1
  comparableFromVersion :=
    params.comparableFromVersion.getD ((api.maxSloVersion params.name).getD 1)
  displayName := params.displayName
  objectives :=
    let previous := (api.maxSloVersion params.name).bind fun version =>
      api.slos.find (params.name, version)
    params.objectives.map (storedObjective api.changePointDefaults previous)
  totalScorePassThreshold := params.totalScorePassThreshold
  totalScoreWarningThreshold := params.totalScoreWarningThreshold
  comparison := params.comparison
  notes := params.notes
  author := params.author
  vars := params.vars
  kind := params.kind
  methodCriteria := params.methodCriteria
  sliDefinition := params.sliDefinition
  generatedByGroup := params.generatedByGroup

/-- `create` of the SLO repository. -/
def Api.storeSlo (api : Api) (params : SLOCreateParams) : Except ApiError Api :=
  if fresh : api.slos.find (api.nextSlo params).key = none then
    .ok { api with slos := api.slos.insert (api.nextSlo params) fresh }
  else .error (.constraint "uq_slo_name_version")

def Api.findSli (api : Api) (name : String) : Option Int -> Option SLI
  | some version => api.slis.find (name, version)
  | none => api.latestSli name

/-- The SLI that the SLO is bound to, which must produce the metrics of the
objectives. -/
def Api.resolveSli (api : Api) (body : SLODefinitionCreate) :
    Except ApiError (Option (String × Int)) :=
  match body.sliName with
  | none => .ok none
  | some name => do
      let sli <- orRaise (.invalid ("sli definition '" ++ name ++ "' not found"))
        (api.findSli name body.sliVersion)
      let keys <- (buildIndicatorKeys sli.definition).mapError ApiError.registry
      body.objectives.forM fun objective =>
        if keys.contains objective.sli then .ok ()
        else .error (.invalid ("objective sli '" ++ objective.sli ++ "' not found"))
      return some sli.key

def allAggregateFunctions : List String :=
  ["avg", "p50", "p90", "p95", "p99"]

def checkObjective (objective : SLOObjectiveIn) : Except ApiError Unit := do
  checkStrings [objective.sli, objective.displayName]
  checkStrings (objective.passThreshold.getD [] ++ objective.warningThreshold.getD [])
  checkInt "weight" objective.weight

def checkComparison (comparison : ComparisonConfig) : Except ApiError Unit := do
  checkOptional [comparison.compareWith, comparison.includeResultWithScore]
  checkInt "number_of_comparison_results" (comparison.numberOfComparisonResults.getD 0)
  if (comparison.aggregateFunction.all fun function => allAggregateFunctions.contains function) then
    checkStrings (comparison.scopeTags.getD [])
  else .error (.field "aggregate_function")

def checkMethodCriteria (entry : String × MethodCriteriaOverride) : Except ApiError Unit := do
  checked (checkIdentifierKey entry.1)
  checkOptional [entry.2.method, entry.2.aggregation]
  checkStrings (entry.2.passThreshold.getD [] ++ entry.2.warningThreshold.getD [])
  checkInt "weight" (entry.2.weight.getD 0)

def SLODefinitionCreate.check (body : SLODefinitionCreate) : Except ApiError Unit := do
  checkStrings [body.name, body.kind]
  checkOptional [body.displayName, body.notes, body.author, body.sliName]
  checkInt "sli_version" (body.sliVersion.getD 0)
  checkInt "comparable_from_version" (body.comparableFromVersion.getD 0)
  body.objectives.forM checkObjective
  checkComparison (body.comparison.getD {})
  checked (checkDict (body.vars.getD ∅))
  ((body.methodCriteria.getD ∅).entries.map fun entry => (entry.1, entry.2)).forM
    checkMethodCriteria

def SLODefinitionCreate.params (body : SLODefinitionCreate)
    (sliDefinition : Option (String × Int)) : SLOCreateParams where
  name := body.name
  displayName := body.displayName
  objectives := body.objectives
  totalScorePassThreshold := body.totalScorePassThreshold
  totalScoreWarningThreshold := body.totalScoreWarningThreshold
  comparison := body.comparison.getD {}
  notes := body.notes
  author := body.author
  vars := body.vars.getD ∅
  comparableFromVersion := body.comparableFromVersion
  kind := body.kind
  methodCriteria := body.methodCriteria
  sliDefinition

/-- `POST /slo-definitions`: the next version of the name. -/
def createSlo (body : SLODefinitionCreate) : Command := fun api => do
  body.check
  let sliDefinition <- api.resolveSli body
  api.storeSlo (body.params sliDefinition)

def genMarker : List Char :=
  "$__gen_".toList

/-- `_substitute`: placeholders without a value stay as they are.  Of the word characters in
their keys only those of ASCII are read.  Each round takes a character of the text, so its
length is enough fuel. -/
def substituteChars (values : Dict String) : Nat -> List Char -> List Char
  | 0, chars => chars
  | _ + 1, [] => []
  | fuel + 1, char :: rest =>
      let after := (char :: rest).drop genMarker.length
      let key := after.takeWhile isNameChar
      if genMarker.isPrefixOf (char :: rest) && key ≠ [] then
        let replaced := (values.lookup (String.ofList key)).elim (genMarker ++ key) String.toList
        replaced ++ substituteChars values fuel (after.dropWhile isNameChar)
      else char :: substituteChars values fuel rest

def substitute (text : String) (values : Dict String) : String :=
  String.ofList (substituteChars values text.length text.toList)

def validateGenVariables (genVariables : Dict (List String)) : Except ApiError Unit :=
  match genVariables.entries with
  | [] => .error (.invalid "gen_variables must have at least one key")
  | first :: others =>
      if (first :: others).any fun entry => entry.2.isEmpty then
        .error (.invalid "gen_variables lists must not be empty")
      else if others.any fun entry => entry.2.length ≠ first.2.length then
        .error (.invalid "all gen_variables lists must have equal length")
      else .ok ()

def genRow (genVariables : Dict (List String)) (index : Nat) : Dict String :=
  (genVariables.entries.map fun entry => (entry.1, entry.2.getD index "")).foldl
    (fun row entry => row.insert entry.1 entry.2) ∅

def mapValues (change : String -> String) (vars : Dict String) : Dict String :=
  (vars.entries.map fun entry => (entry.1, change entry.2)).foldl
    (fun changed entry => changed.insert entry.1 entry.2) ∅

def Objective.copied (objective : Objective) : SLOObjectiveIn where
  sli := objective.sli
  displayName := objective.displayName
  passThreshold := some objective.passThreshold
  warningThreshold := some objective.warningThreshold
  weight := objective.weight
  keySli := objective.keySli

def generatedSlo (template : SLO) (group : Nat) (values : Dict String) : SLOCreateParams where
  name := substitute template.name values
  objectives := template.objectives.map Objective.copied
  totalScorePassThreshold := template.totalScorePassThreshold
  totalScoreWarningThreshold := template.totalScoreWarningThreshold
  comparison := template.comparison
  vars := mapValues (fun text => substitute text values) template.vars
  sliDefinition := template.sliDefinition
  generatedByGroup := some group

/-- `generate_slo_specs`, with the group that the SLOs will belong to. -/
def generateSloSpecs (template : SLO) (genVariables : Dict (List String)) (group : Nat) :
    Except ApiError (List SLOCreateParams) := do
  validateGenVariables genVariables
  let rowCount := (genVariables.entries.head?.map fun entry => entry.2.length).getD 0
  return (List.range rowCount).map fun index =>
    generatedSlo template group (genRow genVariables index)

structure SLOGroupRead where
  name : String
  displayName : Option String
  templateSloName : String
  templateSloVersion : Int
  genVariables : Dict (List String)
  tags : Dict String
  author : Option String

/-- `GET /slo-groups/{name}`. -/
def getSloGroup (name : String) : Query SLOGroupRead := fun api => do
  let group <- orRaise (.notFound "slo group" name) (api.activeSloGroup name)
  let template <- orRaise (.invalid "template slo definition not found")
    (api.slos.find group.templateSlo)
  return {
    name := group.name
    displayName := group.displayName
    templateSloName := template.name
    templateSloVersion := template.version
    genVariables := group.genVariables
    tags := group.tags
    author := group.author }

def Api.loadTemplateSlo (api : Api) (name : String) (version : Option Int) :
    Except ApiError SLO := do
  let found := match version with
    | some version => api.slos.find (name, version)
    | none => api.latestSlo name
  let template <- orRaise (.invalid ("template slo '" ++ name ++ "' not found")) found
  if template.kind = "template" then return template
  else .error (.invalid ("slo '" ++ name ++ "' has kind '" ++ template.kind ++ "'"))

structure SLOGroupCreate where
  name : String
  displayName : Option String := none
  templateSloName : String
  templateSloVersion : Int
  genVariables : Dict (List String)
  tags : Option (Dict String) := none
  author : Option String := none

def checkGenVariables (genVariables : Dict (List String)) : Except ApiError Unit :=
  genVariables.entries.forM fun entry => do
    checked (checkIdentifierKey entry.1)
    checkStrings entry.2

def Api.freshGroupId (api : Api) : Nat :=
  ((api.sloGroups.rows.map SLOGroup.id).max?.elim 0 fun id => id + 1)

def Api.checkCollisions (api : Api) (specs : List SLOCreateParams) : Except ApiError Unit :=
  specs.forM fun spec =>
    if (api.latestSlo spec.name).isSome then .error (.conflict "slo" spec.name "already exists")
    else .ok ()

def Api.storeSlos (api : Api) (specs : List SLOCreateParams) : Except ApiError Api :=
  specs.foldlM Api.storeSlo api

/-- `POST /slo-groups`. -/
def createSloGroup (body : SLOGroupCreate) : Command := fun api => do
  checkStrings [body.name, body.templateSloName]
  checkOptional [body.displayName, body.author]
  checkTags (body.tags.getD ∅)
  checkGenVariables body.genVariables
  let template <- api.loadTemplateSlo body.templateSloName (some body.templateSloVersion)
  let specs <- generateSloSpecs template body.genVariables api.freshGroupId
  api.checkCollisions specs
  let row : SLOGroup := {
    id := api.freshGroupId
    name := body.name
    displayName := body.displayName
    templateSlo := template.key
    genVariables := body.genVariables
    tags := body.tags.getD ∅
    author := body.author }
  if (api.activeSloGroup row.name).isSome then .error (.constraint "uq_slo_groups_name_active")
  else if fresh : api.sloGroups.find row.id = none then
    ({ api with sloGroups := api.sloGroups.insert row fresh }).storeSlos specs
  else .error (.constraint "slo_groups_pkey")

structure SLOGroupUpdate where
  templateSloName : Option String := none
  templateSloVersion : Option Int := none
  genVariables : Option (Dict (List String)) := none
  displayName : Option String := none
  tags : Option (Dict String) := none

def sortedNames (names : List String) : List String :=
  names.dedup.insertionSort fun first second => first ≤ second

/-- `list_by_group_id`: the active SLOs of the group.  The code sorts them by their
names, which leaves the versions of one name in any order. -/
def Api.generatedSlos (api : Api) (group : Nat) : List SLO :=
  api.slos.rows.filter fun slo => slo.generatedByGroup = some group && slo.active

def Api.generatedNames (api : Api) (group : Nat) : List String :=
  (api.generatedSlos group).map SLO.name

def specNamed (specs : List SLOCreateParams) (name : String) : Option SLOCreateParams :=
  specs.reverse.find? fun spec => spec.name = name

/-- `deactivate` of the SLO repository: every version of the name. -/
def Api.deactivateSlo (api : Api) (name : String) : Api :=
  { api with
    slos := api.slos.updateWhere (fun slo => slo.name = name)
      (fun slo => { slo with active := false }) (fun _ => rfl) }

/-- `_indicators_changed`: a query that is gone or different.  New ones do not count. -/
def indicatorsChanged (old new : Dict String) : Bool :=
  !(old.keys.all fun key => new.keys.contains key) ||
    old.entries.any fun entry =>
      new.keys.contains entry.1 && !(new.lookup entry.1 = some entry.2)

structure UpdateAction where
  spec : SLOCreateParams
  comparableFromVersion : Option Int

def UpdateAction.params (action : UpdateAction) : SLOCreateParams :=
  { action.spec with comparableFromVersion := action.comparableFromVersion }

structure RegenerationPlan where
  toCreate : List SLOCreateParams
  toUpdate : List UpdateAction
  toDeactivate : List String

/-- The marker of the SLO that the dictionary of old SLOs holds for a name: of several
versions the last one. -/
def oldMarker (oldGenerated : List SLO) (name : String) : Option Int :=
  (oldGenerated.reverse.find? fun slo => slo.name = name).map SLO.comparableFromVersion

/-- `plan_regeneration`: the new names, the names that remain, and the names that are
gone. -/
def planRegeneration (oldGenerated : List SLO) (newSpecs : List SLOCreateParams)
    (oldIndicators newIndicators : Dict String) (templateVariablesChanged : Bool) :
    RegenerationPlan :=
  let oldNames := oldGenerated.map SLO.name
  let newNames := newSpecs.map SLOCreateParams.name
  let queriesChanged := indicatorsChanged oldIndicators newIndicators
  let breakBaseline := queriesChanged || templateVariablesChanged
  { toCreate := (sortedNames (newNames.filter fun name => !oldNames.contains name)).filterMap
      (specNamed newSpecs)
    toUpdate := (sortedNames (oldNames.filter fun name => newNames.contains name)).filterMap
      fun name => (specNamed newSpecs name).map fun spec =>
        ⟨spec, if breakBaseline then none else oldMarker oldGenerated name⟩
    toDeactivate := sortedNames (oldNames.filter fun name => !newNames.contains name) }

def Api.applyRegenerationPlan (api : Api) (plan : RegenerationPlan) : Except ApiError Api := do
  let stored <- api.storeSlos (plan.toCreate ++ plan.toUpdate.map UpdateAction.params)
  return plan.toDeactivate.foldl Api.deactivateSlo stored

/-- `_resolve_sli_indicators`. -/
def Api.sliIndicators (api : Api) (sliDefinition : Option (String × Int)) : Dict String :=
  (sliDefinition.bind api.slis.find).elim ∅ fun sli => sli.definition.indicators

/-- The table of values that an update works with: an empty one counts as absent. -/
def effectiveVariables (given : Option (Dict (List String))) (current : Dict (List String)) :
    Dict (List String) :=
  match given with
  | none => current
  | some genVariables => if genVariables.entries.isEmpty then current else genVariables

def Api.effectiveTemplate (api : Api) (body : SLOGroupUpdate) (current : SLO) :
    Except ApiError SLO :=
  match body.templateSloName with
  | none => .ok current
  | some name => api.loadTemplateSlo name body.templateSloVersion

/-- The indicators before an update.  They count as empty when the request names the
template. -/
def Api.oldIndicators (api : Api) (body : SLOGroupUpdate) (current : SLO) : Dict String :=
  api.sliIndicators (if body.templateSloName.all (·.isEmpty) then current.sliDefinition else none)

/-- `template_variables_changed`. -/
def SLOGroupUpdate.variablesChanged (body : SLOGroupUpdate) (group : SLOGroup) : Bool :=
  body.genVariables.any fun genVariables => !sameEntries genVariables group.genVariables

def SLOGroupUpdate.apply (body : SLOGroupUpdate) (template : SLO) (row : SLOGroup) : SLOGroup :=
  { row with
    templateSlo := template.key
    genVariables := effectiveVariables body.genVariables row.genVariables
    displayName := body.displayName.or row.displayName
    tags := body.tags.getD row.tags }

/-- `PUT /slo-groups/{name}`. -/
def updateSloGroup (name : String) (body : SLOGroupUpdate) : Command := fun api => do
  checkOptional [body.templateSloName, body.displayName]
  checkTags (body.tags.getD ∅)
  checkGenVariables (body.genVariables.getD ∅)
  let group <- orRaise (.notFound "slo group" name) (api.activeSloGroup name)
  let current <- orRaise (.invalid "current template slo definition not found")
    (api.slos.find group.templateSlo)
  let template <- api.effectiveTemplate body current
  let specs <- generateSloSpecs template
    (effectiveVariables body.genVariables group.genVariables) group.id
  let regenerated <- api.applyRegenerationPlan
    (planRegeneration (api.generatedSlos group.id) specs (api.oldIndicators body current)
      (api.sliIndicators template.sliDefinition) (body.variablesChanged group))
  return { regenerated with
    sloGroups := regenerated.sloGroups.update group.id (body.apply template) (fun _ => rfl) }

/-- `deactivate` of the group repository. -/
def SLOGroup.deactivated (row : SLOGroup) : SLOGroup :=
  { row with active := false }

/-- `DELETE /slo-groups/{name}`: with the SLOs that it has generated. -/
def deleteSloGroup (name : String) : Command := fun api => do
  let group <- orRaise (.notFound "slo group" name) (api.activeSloGroup name)
  let cleared := (api.generatedNames group.id).foldl Api.deactivateSlo api
  return { cleared with
    sloGroups := cleared.sloGroups.update group.id SLOGroup.deactivated (fun _ => rfl) }

/-- `_build_standalone_slo_params`. -/
def SLO.standalone (slo : SLO) (newName : String) : SLOCreateParams where
  name := newName
  objectives := slo.objectives.map Objective.copied
  totalScorePassThreshold := slo.totalScorePassThreshold
  totalScoreWarningThreshold := slo.totalScoreWarningThreshold
  comparison := slo.comparison
  vars := slo.vars
  sliDefinition := slo.sliDefinition

def changeValues {V W : Type} (change : V -> W) (dict : Dict V) : Dict W where
  entries := dict.entries.map fun entry => ⟨entry.1, change entry.2⟩
  nodupKeys := by
    have keys : (dict.entries.map fun entry => (⟨entry.1, change entry.2⟩ : Sigma fun _ : String => W)).keys =
        dict.entries.keys := by
      unfold List.keys
      rw [List.map_map]
      rfl
    unfold List.NodupKeys
    rw [keys]
    exact dict.nodupKeys

/-- `_shrink_gen_variables`: without one row of the table. -/
def shrinkGenVariables (genVariables : Dict (List String)) (rowIdx : Nat) : Dict (List String) :=
  changeValues (fun values => values.eraseIdx rowIdx) genVariables

structure ExtractRequest where
  sloName : String
  newName : String

/-- The table that is left when the first row that gives the name has been removed. -/
def tableWithout (genVariables : Dict (List String)) (specs : List SLOCreateParams)
    (sloName : String) : Dict (List String) :=
  match specs.findIdx? fun spec => spec.name = sloName with
  | some rowIdx => shrinkGenVariables genVariables rowIdx
  | none => genVariables

def SLOGroup.shrunk (genVariables : Dict (List String)) (row : SLOGroup) : SLOGroup :=
  if !genVariables.entries.isEmpty && genVariables.entries.all fun entry => !entry.2.isEmpty then
    { row with genVariables }
  else { row with genVariables, active := false }

theorem SLOGroup.shrunk_id (genVariables : Dict (List String)) (row : SLOGroup) :
    (row.shrunk genVariables).id = row.id := by
  unfold SLOGroup.shrunk
  split <;> rfl

/-- `POST /slo-groups/{name}/extract`: a copy under the new name, and the generated SLO
is deactivated. -/
def extractSlo (name : String) (body : ExtractRequest) : Command := fun api => do
  checkStrings [body.sloName, body.newName]
  let group <- orRaise (.notFound "slo group" name) (api.activeSloGroup name)
  let genSlo <- orRaise (.notFound "generated slo" body.sloName)
    (api.latestSlo body.sloName)
  if genSlo.generatedByGroup ≠ some group.id then
    .error (.invalid ("slo '" ++ body.sloName ++ "' is not generated by group '" ++ name ++ "'"))
  else do
    let template <- orRaise (.invalid "template slo definition not found")
      (api.slos.find group.templateSlo)
    let copied <- api.storeSlo (genSlo.standalone body.newName)
    let cleared := copied.deactivateSlo body.sloName
    let specs <- generateSloSpecs template group.genVariables group.id
    let table := tableWithout group.genVariables specs body.sloName
    return { cleared with
      sloGroups := cleared.sloGroups.update group.id (SLOGroup.shrunk table)
        (SLOGroup.shrunk_id table) }

/-- `DELETE /slo-definitions/{name}`. -/
def deleteSlo (name : String) : Command := fun api =>
  match api.latestSlo name with
  | none => .error (.notFound "slo definition" name)
  | some _ => .ok (api.deactivateSlo name)

end Manifest
end Tropek
