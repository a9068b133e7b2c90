import Tropek.Library.Programs
import Tropek.Manifest.BindingRoutes

namespace Tropek
namespace Manifest

open Library Engine

/-!
# The client

A request may fail on its way.  Which requests do is a parameter: a function of the
number of the request, so that any request of a run may fail and any other one may
succeed.  A request that is not answered may or may not have been carried out.

On top of the requests stand the four tables of cases that a document goes through:
how its entity is looked up, what counts as a difference, how the entity is created
and how it is updated.
-/

/-- What becomes of a request on its way.  `unreached`: the connection failed before the
request arrived; `unanswered`: the request was carried out, and its answer was lost. -/
inductive Fault where
  | answered
  | unreached
  | unanswered
deriving DecidableEq, Repr

abbrev Faults : Type :=
  Nat -> Fault

def allAnswered : Faults :=
  fun _ => .answered

/-- The backend, as the client has changed it so far.  `sent`: the number of requests so
far. -/
structure Session where
  api : Api
  sent : Nat := 0

def Session.next (session : Session) : Session :=
  { session with sent := session.sent + 1 }

/-- What a request of the client raises, beside the error that the backend answers
with.  `missingKey`: `KeyError`, with the key; `invalid`: a field that a model or a loop
of the client does not accept; `noLongerExists`: `could not repoint SLO assignment`,
with the name of the document; `parentNotFound`: `SLODisplayGroup parent not found`,
with its name. -/
inductive ClientError where
  | api (error : ApiError)
  | connection
  | missingKey (key : String)
  | invalid (field : String)
  | noLongerExists (name : String)
  | parentNotFound (name : String)
deriving DecidableEq, Repr

abbrev Request (α : Type) : Type :=
  Program Session ClientError α

def ask {α : Type} (faults : Faults) (query : Query α) : Request α :=
  Program.ofFunction fun session =>
    match faults session.sent with
    | .answered => ((query session.api).mapError ClientError.api, session.next)
    | .unreached | .unanswered => (.error .connection, session.next)

def tell (faults : Faults) (command : Command) : Request PUnit :=
  Program.ofFunction fun session =>
    match faults session.sent, command session.api with
    | .unreached, _ => (.error .connection, session.next)
    | .answered, .ok later => (.ok PUnit.unit, { session.next with api := later })
    | .answered, .error error => (.error (.api error), session.next)
    | .unanswered, .ok later => (.error .connection, { session.next with api := later })
    | .unanswered, .error _ => (.error .connection, session.next)

section Sending

variable {faults : Faults} {session : Session}

theorem run_ask_answered {α : Type} (answered : faults session.sent = .answered)
    (query : Query α) :
    Program.run (ask faults query) session =
      ((query session.api).mapError ClientError.api, session.next) := by
  unfold ask
  rw [Program.run_ofFunction, answered]

theorem run_ask_lost {α : Type} (lost : faults session.sent ≠ .answered) (query : Query α) :
    Program.run (ask faults query) session = (.error .connection, session.next) := by
  unfold ask
  rw [Program.run_ofFunction]
  cases fault : faults session.sent with
  | answered => exact absurd fault lost
  | unreached | unanswered => rfl

/-- What a request that writes leaves: the state as it was, or the one that the
route gives. -/
theorem tell_leaves (command : Command) :
    (Program.run (tell faults command) session).2.api = session.api ∨
      command session.api = .ok (Program.run (tell faults command) session).2.api := by
  unfold tell
  rw [Program.run_ofFunction]
  split
  · exact Or.inl rfl
  · rename_i accepted
    exact Or.inr accepted
  · exact Or.inl rfl
  · rename_i accepted
    exact Or.inr accepted
  · exact Or.inl rfl

theorem ask_reads {α : Type} (query : Query α) :
    Program.Reads Session.api (ask allAnswered query) fun api =>
      (query api).mapError ClientError.api := by
  intro session
  rw [run_ask_answered rfl]
  exact ⟨rfl, rfl⟩

end Sending

def accept {α : Type} (field : String) (value : Option α) : Except ClientError α :=
  Fallible.orRaise (.invalid field) value

/-- `spec[key]`, where a null is no valid value. -/
def Setting.require {α : Type} (key : String) : Setting α -> Except ClientError α
  | .leftOut => .error (.missingKey key)
  | .null => .error (.invalid key)
  | .value given => .ok given

/-- `spec[key]` in a path, where a null is written out. -/
def Setting.pathText (key : String) : Setting String -> Except ClientError String
  | .leftOut => .error (.missingKey key)
  | .null => .ok "None"
  | .value given => .ok given

/-- `.get(key, '')` in a path. -/
def Setting.pathTextOr (setting : Setting String) : String :=
  (setting.getOr "").getD "None"

def targetOf (targetType : Option String) (name : String) : Target :=
  if targetType = some "asset" then .asset name else .assetGroup name

/-- The entity that `_lookup` has found for a document, of the kind of the document.
`metaSnapshot`: every snapshot of the document is there. -/
inductive Existing where
  | assetType (row : AssetType)
  | dataSource (row : DataSource)
  | asset (row : Asset)
  | sli (row : SLI)
  | slo (row : SLO)
  | assetGroup (row : AssetGroup)
  | sloGroup (row : SLOGroupRead)
  | sloDisplayGroup (row : DisplayGroup)
  | sloAssignment (row : SLOAssignmentRead)
  | sloGroupAssignment (row : SLOGroupAssignmentRead)
  | metaSnapshot

def lookupSloAssignment (faults : Faults) (spec : SLOAssignmentSpec) :
    Request (Option SLOAssignmentRead) := do
  let target := targetOf (spec.targetType.getOr "") spec.targetName.pathTextOr
  let assignments <- ask faults (listSloAssignments target)
  return assignments.find? fun assignment => some assignment.sloName = spec.sloName.getOr ""

def lookupSloGroupAssignment (faults : Faults) (spec : SLOGroupAssignmentSpec) :
    Request (Option SLOGroupAssignmentRead) := do
  let target := targetOf (spec.targetType.getOr "") spec.targetName.pathTextOr
  let assignments <- ask faults (listSloGroupAssignments target)
  return assignments.find? fun assignment =>
    some assignment.sloGroupName = spec.sloGroupName.getOr ""

/-- The loop of `_lookup_meta_snapshots`: whether every snapshot is there. -/
def allSnapshotsExist (faults : Faults) (asset : String) : List SnapshotSpec -> Request Bool
  | [] => pure true
  | entry :: rest => do
      let existing <- ask faults (listSnapshots asset entry.source entry.observedAt)
      if existing.isEmpty then return false else allSnapshotsExist faults asset rest

def lookupMetaSnapshots (faults : Faults) (spec : MetaSnapshotSpec) : Request (Option Existing) := do
  let asset <- ask faults (getAsset spec.asset)
  let snapshots <- Program.ofExcept (accept "snapshots" (spec.snapshots.getOr []))
  let found <- allSnapshotsExist faults asset.name snapshots
  return if found then some .metaSnapshot else none

/-- The table of `_lookup`. -/
def lookupEntity (faults : Faults) (doc : ManifestDocument) : Request (Option Existing) :=
  match doc.spec with
  | .assetType _ => do
      let rows <- ask faults listAssetTypes
      return (rows.find? fun row => row.name = doc.name).map .assetType
  | .asset _ => do return some (.asset (<- ask faults (getAsset doc.name)))
  | .assetGroup _ => do return some (.assetGroup (<- ask faults (getAssetGroup doc.name)))
  | .dataSource _ => do return some (.dataSource (<- ask faults (getDataSource doc.name)))
  | .sli _ => do return some (.sli (<- ask faults (getSli doc.name)))
  | .slo _ => do return some (.slo (<- ask faults (getSlo doc.name)))
  | .sloAssignment spec => do return (<- lookupSloAssignment faults spec).map .sloAssignment
  | .sloGroup _ => do return some (.sloGroup (<- ask faults (getSloGroup doc.name)))
  | .sloDisplayGroup _ => do
      let rows <- ask faults listDisplayGroups
      return (rows.find? fun row => row.name = doc.name).map .sloDisplayGroup
  | .sloGroupAssignment spec => do
      return (<- lookupSloGroupAssignment faults spec).map .sloGroupAssignment
  | .metaSnapshot spec => lookupMetaSnapshots faults spec

/-- `_lookup`: whatever goes wrong counts as not found. -/
def lookup (faults : Faults) (doc : ManifestDocument) : Request (Option Existing) :=
  Program.orElse (lookupEntity faults doc) none

def ChangePointSpec.input (spec : ChangePointSpec) : ChangePointConfigInput where
  enabled := spec.enabled.get
  higherIsBetter := spec.higherIsBetter.get
  windowSize := spec.windowSize.get
  maxPvalue := spec.maxPvalue.get
  minMagnitude := spec.minMagnitude.get
  minSampleSize := spec.minSampleSize.get

/-- `SLOObjectiveIn.model_validate`. -/
def ObjectiveSpec.validate (spec : ObjectiveSpec) : Except ClientError SLOObjectiveIn := do
  let sli <- spec.sli.require "sli"
  let displayName <- accept "display_name" (spec.displayName.getOr "")
  let weight <- accept "weight" (spec.weight.getOr 1)
  let keySli <- accept "key_sli" (spec.keySli.getOr false)
  return {
    sli
    displayName
    passThreshold := spec.passThreshold.get
    warningThreshold := spec.warningThreshold.get
    weight
    keySli
    changePoint := spec.changePoint.get.map ChangePointSpec.input }

/-- What the objective of an answer becomes in the same model.  The settings for
change points are never part of an answer. -/
def Objective.input (objective : Objective) : SLOObjectiveIn where
  sli := objective.sli
  displayName := objective.displayName
  passThreshold := some objective.passThreshold
  warningThreshold := some objective.warningThreshold
  weight := objective.weight
  keySli := objective.keySli

/-- The fields that are compared: all but `change_point`. -/
def SLOObjectiveIn.compared (objective : SLOObjectiveIn) : SLOObjectiveIn :=
  { objective with changePoint := none }

/-- `_normalized_objectives`, of a document. -/
def normalizedObjectives (objectives : Setting (List ObjectiveSpec)) :
    Except ClientError (List SLOObjectiveIn) :=
  (objectives.get.getD []).mapM fun objective => do
    let validated <- objective.validate
    return validated.compared

def ComparisonSpec.config (spec : ComparisonSpec) : ComparisonConfig where
  compareWith := spec.compareWith.get
  includeResultWithScore := spec.includeResultWithScore.get
  numberOfComparisonResults := spec.numberOfComparisonResults.get
  aggregateFunction := spec.aggregateFunction.get
  scopeTags := spec.scopeTags.get

/-- `ComparisonConfig.model_validate`, of a document; the aggregate function is an
enumeration. -/
def normalizedComparison (comparison : Setting ComparisonSpec) :
    Except ClientError ComparisonConfig :=
  let config := comparison.get.elim {} ComparisonSpec.config
  if config.aggregateFunction.all fun function => allAggregateFunctions.contains function then
    .ok config
  else .error (.invalid "aggregate_function")

def differsFrom {α : Type} [DecidableEq α] (given existing : Option α) : Bool :=
  given ≠ existing

def dictDiffers {V : Type} [DecidableEq V] (given : Option (Dict V)) (existing : Dict V) : Bool :=
  match given with
  | none => true
  | some entries => !sameEntries entries existing

def assetTypeDiffers (spec : AssetTypeSpec) (existing : AssetType) : Bool :=
  differsFrom spec.isDefault.get (some existing.isDefault)

def assetDiffers (spec : AssetSpec) (existing : Asset) : Bool :=
  differsFrom spec.displayName.get existing.displayName ||
    dictDiffers (spec.tags.getOr ∅) existing.tags || dictDiffers (spec.vars.getOr ∅) existing.vars

def dataSourceDiffers (spec : DataSourceSpec) (existing : DataSource) : Bool :=
  differsFrom spec.displayName.get existing.displayName ||
    differsFrom spec.adapterUrl.get (some existing.adapterUrl) ||
    dictDiffers (spec.tags.getOr ∅) existing.tags

def sliDiffers (spec : SLISpec) (existing : SLI) : Bool :=
  dictDiffers (spec.indicators.getOr ∅) existing.definition.indicators ||
    differsFrom (spec.mode.getOr "raw") (some existing.definition.mode.name) ||
    differsFrom spec.queryTemplate.get existing.definition.queryTemplate ||
    differsFrom spec.interval.get existing.definition.interval ||
    differsFrom spec.methods.get existing.definition.methods

/-- The total score block; one that is empty, null or left out counts as empty. -/
def SLOSpec.totalScoreBlock (spec : SLOSpec) : TotalScoreSpec :=
  spec.totalScore.get.getD {}

def sloDiffers (spec : SLOSpec) (existing : SLO) : Except ClientError Bool := do
  let objectives <- normalizedObjectives spec.objectives
  if objectives ≠ existing.objectives.map Objective.input ||
      differsFrom (spec.totalScoreBlock.passThreshold.getOr 90)
        (some existing.totalScorePassThreshold) ||
      differsFrom (spec.totalScoreBlock.warningThreshold.getOr 75)
        (some existing.totalScoreWarningThreshold) then
    return true
  let comparison <- normalizedComparison spec.comparison
  return comparison ≠ existing.comparison

def sloGroupDiffers (spec : SLOGroupSpec) (existing : SLOGroupRead) : Bool :=
  dictDiffers spec.genVariables.get existing.genVariables ||
    differsFrom spec.templateSloVersion.get (some existing.templateSloVersion)

def resolveSloDefinitionId (faults : Faults) (sloName : String) : Request Uuid := do
  return (<- ask faults (getSlo sloName)).id

def hasDiff (faults : Faults) (doc : ManifestDocument) (existing : Existing) : Request Bool :=
  match doc.spec, existing with
  | .assetType spec, .assetType row => return assetTypeDiffers spec row
  | .asset spec, .asset row => return assetDiffers spec row
  | .dataSource spec, .dataSource row => return dataSourceDiffers spec row
  | .sli spec, .sli row => return sliDiffers spec row
  | .slo spec, .slo row => Program.ofExcept (sloDiffers spec row)
  | .sloAssignment spec, .sloAssignment row => do
      let latest <- resolveSloDefinitionId faults spec.sloName.pathTextOr
      return row.sloDefinitionId ≠ latest
  | .sloGroup spec, .sloGroup row => return sloGroupDiffers spec row
  | _, _ => return false

def createAssetTypeOf (faults : Faults) (name : String) (spec : AssetTypeSpec) : Request PUnit :=
  tell faults (createAssetType { name, isDefault := spec.isDefault.getOr false })

def createAssetOf (faults : Faults) (name : String) (spec : AssetSpec) : Request PUnit := do
  let typeName <- Program.ofExcept (accept "type_name" (spec.typeName.getOr "vm"))
  tell faults (createAsset {
    name
    displayName := spec.displayName.get
    typeName
    tags := spec.tags.get
    vars := spec.vars.get })

def createDataSourceOf (faults : Faults) (name : String) (spec : DataSourceSpec) :
    Request PUnit := do
  let adapterType <- Program.ofExcept (spec.adapterType.require "adapter_type")
  let adapterUrl <- Program.ofExcept (spec.adapterUrl.require "adapter_url")
  tell faults (createDataSource {
    name
    displayName := spec.displayName.get
    adapterType
    adapterUrl
    tags := spec.tags.get })

def sliBody (name : String) (spec : SLISpec) : Except ClientError SLIDefinitionCreate := do
  let adapterType <- accept "adapter_type" (spec.adapterType.getOr "prometheus")
  let mode <- accept "mode" (spec.mode.getOr "raw")
  return {
    name
    adapterType
    displayName := spec.displayName.get
    mode
    indicators := spec.indicators.getOr ∅
    queryTemplate := spec.queryTemplate.get
    interval := spec.interval.get
    methods := spec.methods.get
    notes := spec.notes.get
    author := spec.author.get }

def createSliOf (faults : Faults) (name : String) (spec : SLISpec) : Request PUnit := do
  let body <- Program.ofExcept (sliBody name spec)
  tell faults (createSli body)

def MethodCriteriaSpec.criteria (spec : MethodCriteriaSpec) : MethodCriteriaOverride where
  method := spec.method.get
  aggregation := spec.aggregation.get
  passThreshold := spec.passThreshold.get
  warningThreshold := spec.warningThreshold.get
  weight := spec.weight.get
  keySli := spec.keySli.get

def criteriaOf (criteria : Dict MethodCriteriaSpec) : Dict MethodCriteriaOverride :=
  (criteria.entries.map fun entry => (entry.1, entry.2.criteria)).foldl
    (fun dict entry => dict.insert entry.1 entry.2) ∅

def sloBody (name : String) (spec : SLOSpec) : Except ClientError SLODefinitionCreate := do
  let objectives <- spec.objectives.require "objectives"
  let total <- accept "total_score" (spec.totalScore.getOr {})
  let objectives <- objectives.mapM ObjectiveSpec.validate
  let totalScorePassThreshold <- accept "total_score_pass_threshold" (total.passThreshold.getOr 90)
  let totalScoreWarningThreshold <-
    accept "total_score_warning_threshold" (total.warningThreshold.getOr 75)
  let comparison <- normalizedComparison spec.comparison
  let kind <- accept "kind" (spec.kind.getOr "standard")
  return {
    name
    displayName := spec.displayName.get
    objectives
    totalScorePassThreshold
    totalScoreWarningThreshold
    comparison := some comparison
    notes := spec.notes.get
    author := spec.author.get
    vars := spec.vars.get
    kind
    sliName := spec.sliName.get
    sliVersion := spec.sliVersion.get
    methodCriteria := spec.methodCriteria.get.map criteriaOf }

def createSloOf (faults : Faults) (name : String) (spec : SLOSpec) : Request PUnit := do
  let body <- Program.ofExcept (sloBody name spec)
  tell faults (createSlo body)

/-- `_create_asset_group`. -/
def createAssetGroupOf (faults : Faults) (name : String) (spec : AssetGroupSpec) :
    Request PUnit := do
  tell faults (createAssetGroup { name, displayName := spec.displayName.get })
  let members <- Program.ofExcept (accept "members" (spec.members.getOr []))
  members.forM fun member => do
    let asset <- ask faults (getAsset member.assetName)
    tell faults (addGroupMember name asset.name (member.weight.getOr 1))
  let subgroups <- Program.ofExcept (accept "subgroups" (spec.subgroups.getOr []))
  subgroups.forM fun subgroup => do
    let child <- ask faults (getAssetGroup subgroup.groupName)
    tell faults (addGroupSubgroup name child.name (subgroup.weight.getOr 1))

/-- `_create_slo_group`. -/
def createSloGroupOf (faults : Faults) (name : String) (spec : SLOGroupSpec) :
    Request PUnit := do
  let templateSloName <- Program.ofExcept (spec.templateSloName.require "template_slo_name")
  let templateSloVersion <-
    Program.ofExcept (spec.templateSloVersion.require "template_slo_version")
  let genVariables <- Program.ofExcept (spec.genVariables.require "gen_variables")
  tell faults (createSloGroup {
    name
    displayName := spec.displayName.get
    templateSloName
    templateSloVersion
    genVariables
    tags := spec.tags.get
    author := spec.author.get })

def findParent (faults : Faults) (parentName : Option String) : Request (Option String) :=
  match parentName.filter fun name => name ≠ "" with
  | none => return none
  | some parentName => do
      let groups <- ask faults listDisplayGroups
      match groups.find? fun group => group.name = parentName with
      | none => throw (.parentNotFound parentName)
      | some parent => return some parent.name

/-- `_create_display_group`. -/
def createDisplayGroupOf (faults : Faults) (name : String) (spec : DisplayGroupSpec) :
    Request PUnit := do
  let parent <- findParent faults spec.parentName.get
  let sortOrder <- Program.ofExcept (accept "sort_order" (spec.sortOrder.getOr 0))
  tell faults (createDisplayGroup { name, displayName := spec.displayName.get, parent, sortOrder })
  let members <- Program.ofExcept (accept "members" (spec.members.getOr []))
  members.forM fun sloName => tell faults (addDisplayGroupMember name sloName)

/-- `_create_slo_assignment`. -/
def createSloAssignmentOf (faults : Faults) (spec : SLOAssignmentSpec) : Request PUnit := do
  let targetType <- Program.ofExcept (spec.targetType.pathText "target_type")
  let targetName <- Program.ofExcept (spec.targetName.pathText "target_name")
  let sloName <- Program.ofExcept (spec.sloName.pathText "slo_name")
  let sloDefinitionId <- resolveSloDefinitionId faults sloName
  let dataSourceName <- Program.ofExcept (spec.dataSourceName.require "data_source_name")
  tell faults
    (putSloAssignment (targetOf (some targetType) targetName) sloDefinitionId dataSourceName)

/-- `_create_slo_group_assignment`. -/
def createSloGroupAssignmentOf (faults : Faults) (spec : SLOGroupAssignmentSpec) :
    Request PUnit := do
  let targetType <- Program.ofExcept (spec.targetType.pathText "target_type")
  let targetName <- Program.ofExcept (spec.targetName.pathText "target_name")
  let sloGroupName <- Program.ofExcept (spec.sloGroupName.pathText "slo_group_name")
  let dataSourceName <- Program.ofExcept (spec.dataSourceName.require "data_source_name")
  tell faults
    (putSloGroupAssignment (targetOf (some targetType) targetName) sloGroupName dataSourceName)

def nonempty {α : Type} (values : List α) : Option (List α) :=
  if values.isEmpty then none else some values

/-- One round of `create_meta_snapshots`. -/
def createMetaSnapshot (faults : Faults) (asset : String) (entry : SnapshotSpec) :
    Request PUnit := do
  let existing <- ask faults (listSnapshots asset entry.source entry.observedAt)
  if existing.isEmpty then
    let values <- Program.ofExcept (accept "values" (entry.values.getOr []))
    let closed <- Program.ofExcept (accept "closed" (entry.closed.getOr []))
    tell faults (createSnapshot asset {
      source := entry.source
      observedAt := entry.observedAt
      values := nonempty values
      closed := nonempty closed })
  else return PUnit.unit

def createMetaSnapshots (faults : Faults) (spec : MetaSnapshotSpec) : Request PUnit := do
  let asset <- ask faults (getAsset spec.asset)
  let snapshots <- Program.ofExcept (accept "snapshots" (spec.snapshots.getOr []))
  snapshots.forM (createMetaSnapshot faults asset.name)

def create (faults : Faults) (doc : ManifestDocument) : Request PUnit :=
  match doc.spec with
  | .assetType spec => createAssetTypeOf faults doc.name spec
  | .asset spec => createAssetOf faults doc.name spec
  | .assetGroup spec => createAssetGroupOf faults doc.name spec
  | .dataSource spec => createDataSourceOf faults doc.name spec
  | .sli spec => createSliOf faults doc.name spec
  | .slo spec => createSloOf faults doc.name spec
  | .sloAssignment spec => createSloAssignmentOf faults spec
  | .sloGroup spec => createSloGroupOf faults doc.name spec
  | .sloDisplayGroup spec => createDisplayGroupOf faults doc.name spec
  | .sloGroupAssignment spec => createSloGroupAssignmentOf faults spec
  | .metaSnapshot spec => createMetaSnapshots faults spec

/-- `_delete_slo_assignment`, for an asset group.  The route takes the identifier of
a definition; what is passed is that of the assignment. -/
def deleteGroupSloAssignmentOf (faults : Faults) (spec : SLOAssignmentSpec)
    (existing : SLOAssignmentRead) : Request PUnit := do
  let targetName <- Program.ofExcept (spec.targetName.pathText "target_name")
  tell faults (deleteSloAssignment (.assetGroup targetName) existing.id)

def repointSloAssignment (faults : Faults) (name : String) (spec : SLOAssignmentSpec) :
    Request PUnit := do
  match <- lookupSloAssignment faults spec with
  | none => throw (.noLongerExists name)
  | some existing =>
      let latest <- resolveSloDefinitionId faults spec.sloName.pathTextOr
      if spec.targetType.get = some "asset" then
        let targetName <- Program.ofExcept (spec.targetName.pathText "target_name")
        tell faults (upgradeSloAssignment targetName existing.id latest)
      else
        deleteGroupSloAssignmentOf faults spec existing
        createSloAssignmentOf faults spec

def update (faults : Faults) (doc : ManifestDocument) : Request PUnit :=
  match doc.spec with
  | .assetType spec =>
      if spec.isDefault.get = some true then tell faults (setDefaultAssetType doc.name)
      else return PUnit.unit
  | .asset spec => tell faults (updateAsset doc.name {
      displayName := spec.displayName.get
      tags := spec.tags.get
      vars := spec.vars.get })
  | .dataSource spec => tell faults (updateDataSource doc.name {
      displayName := spec.displayName.get
      adapterUrl := spec.adapterUrl.get
      tags := spec.tags.get })
  | .sli spec => createSliOf faults doc.name spec
  | .slo spec => createSloOf faults doc.name spec
  | .sloAssignment spec => repointSloAssignment faults doc.name spec
  | .sloGroup spec => tell faults (updateSloGroup doc.name {
      templateSloName := spec.templateSloName.get
      templateSloVersion := spec.templateSloVersion.get
      genVariables := spec.genVariables.get
      displayName := spec.displayName.get
      tags := spec.tags.get })
  | .assetGroup _ | .sloDisplayGroup _ | .sloGroupAssignment _ | .metaSnapshot _ =>
      return PUnit.unit

end Manifest
end Tropek
