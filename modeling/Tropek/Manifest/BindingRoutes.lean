import Tropek.Manifest.SloRoutes

namespace Tropek
namespace Manifest

open Library Engine Registry Fallible

/-!
# The routes for groups, assignments and snapshots

An assignment pins a target to one version of an SLO.  To create one is an upsert on
the target and the version.  An assignment of an asset can be moved to another
version in place; one of an asset group can only be deleted, by its version, and
created again.
-/

/-- `GET /asset-groups/{name}`. -/
def getAssetGroup (name : String) : Query AssetGroup := fun api =>
  orRaise (.notFound "asset group" name) (api.assetGroups.find name)

structure AssetGroupCreate where
  name : String
  displayName : Option String := none

/-- `POST /asset-groups`. -/
def createAssetGroup (body : AssetGroupCreate) : Command := fun api => do
  checkStrings [body.name]
  checkOptional [body.displayName]
  let row : AssetGroup := { name := body.name, displayName := body.displayName }
  if fresh : api.assetGroups.find row.name = none then
    return { api with assetGroups := api.assetGroups.insert row fresh }
  else .error (.constraint "asset_groups_name")

def AssetGroup.addMember (asset : String) (weight : ℚ) (row : AssetGroup) : AssetGroup :=
  { row with members := row.members ++ [(asset, weight)] }

def AssetGroup.addSubgroup (group : String) (weight : ℚ) (row : AssetGroup) : AssetGroup :=
  { row with subgroups := row.subgroups ++ [(group, weight)] }

/-- `POST /asset-groups/{name}/members`.  An asset is a member once at most. -/
def addGroupMember (name asset : String) (weight : Option ℚ) : Command := fun api => do
  let group <- getAssetGroup name api
  if (group.members.map Prod.fst).contains asset then
    .error (.constraint "asset_group_members_pkey")
  else if api.assets.find asset = none then .error (.constraint "asset_group_members_asset_id")
  else return { api with
    assetGroups := api.assetGroups.update name (AssetGroup.addMember asset (weight.getD 1))
      (fun _ => rfl) }

/-- `POST /asset-groups/{name}/subgroups`. -/
def addGroupSubgroup (name child : String) (weight : Option ℚ) : Command := fun api => do
  let group <- getAssetGroup name api
  if (group.subgroups.map Prod.fst).contains child then
    .error (.constraint "asset_group_links_pkey")
  else if api.assetGroups.find child = none then
    .error (.constraint "asset_group_links_child_asset_group_id")
  else return { api with
    assetGroups := api.assetGroups.update name (AssetGroup.addSubgroup child (weight.getD 1))
      (fun _ => rfl) }

/-- `GET /slo-display-groups`. -/
def listDisplayGroups : Query (List DisplayGroup) := fun api =>
  .ok api.displayGroups.rows

structure DisplayGroupCreate where
  name : String
  displayName : Option String := none
  parent : Option String := none
  sortOrder : Int := 0

/-- `POST /slo-display-groups`.  The parent is a foreign key. -/
def createDisplayGroup (body : DisplayGroupCreate) : Command := fun api => do
  checkStrings [body.name]
  checkOptional [body.displayName]
  checkInt "sort_order" body.sortOrder
  let row : DisplayGroup := {
    name := body.name
    displayName := body.displayName
    parent := body.parent
    sortOrder := body.sortOrder }
  if body.parent.any fun parent => (api.displayGroups.find parent).isNone then
    .error (.constraint "slo_display_groups_parent_id")
  else if fresh : api.displayGroups.find row.name = none then
    return { api with displayGroups := api.displayGroups.insert row fresh }
  else .error (.constraint "slo_display_groups_name")

def DisplayGroup.addMember (sloName : String) (row : DisplayGroup) : DisplayGroup :=
  if row.members.contains sloName then row else { row with members := row.members ++ [sloName] }

theorem DisplayGroup.addMember_name (sloName : String) (row : DisplayGroup) :
    (row.addMember sloName).name = row.name := by
  unfold DisplayGroup.addMember
  split <;> rfl

/-- `POST /slo-display-groups/{name}/members`. -/
def addDisplayGroupMember (name sloName : String) : Command := fun api => do
  checkStrings [sloName]
  match api.displayGroups.find name with
  | none => .error (.notFound "slo display group" name)
  | some _ => .ok { api with
      displayGroups := api.displayGroups.update name (DisplayGroup.addMember sloName)
        (DisplayGroup.addMember_name sloName) }

structure SLOAssignmentRead where
  id : Uuid
  sloDefinitionId : Uuid
  sloName : String
  sloVersion : Int
  dataSourceName : String
deriving DecidableEq, Repr

def SLOAssignment.read (row : SLOAssignment) : SLOAssignmentRead where
  id := row.id
  sloDefinitionId := .sloDefinition row.sloDefinition.1 row.sloDefinition.2
  sloName := row.sloName
  sloVersion := row.sloDefinition.2
  dataSourceName := row.dataSource

def Target.notFound : Target -> ApiError
  | .asset name => .notFound "asset" name
  | .assetGroup name => .notFound "asset group" name

def Api.checkTarget (api : Api) (target : Target) : Except ApiError Unit :=
  if api.hasTarget target then .ok () else .error target.notFound

def Api.assignmentsOf (api : Api) (target : Target) : List SLOAssignment :=
  api.sloAssignments.rows.filter fun row => row.target = target

/-- `GET /assets/{name}/slo-assignments`, and the same for asset groups. -/
def listSloAssignments (target : Target) : Query (List SLOAssignmentRead) := fun api => do
  api.checkTarget target
  return (api.assignmentsOf target).map SLOAssignment.read

def SLOAssignment.useDataSource (dataSource : String) (row : SLOAssignment) : SLOAssignment :=
  { row with dataSource }

def SLOAssignment.pin (sloDefinition : String × Int) (row : SLOAssignment) : SLOAssignment :=
  { row with sloDefinition }

/-- `upsert_slo_assignment`: the assignment of the target to this very version gets
the data source, else a new row is inserted. -/
def Api.upsertSloAssignment (api : Api) (target : Target) (slo : SLO) (dataSource : String) :
    Except ApiError Api :=
  match (api.assignmentsOf target).filter fun row => row.sloDefinition = slo.key with
  | [] =>
      let row : SLOAssignment := {
        target
        sloName := slo.name
        sloDefinition := slo.key
        dataSource }
      if fresh : api.sloAssignments.find row.key = none then
        .ok { api with sloAssignments := api.sloAssignments.insert row fresh }
      else .error (.constraint "uq_slo_assignments")
  | [row] => .ok { api with
      sloAssignments := api.sloAssignments.update row.key
        (SLOAssignment.useDataSource dataSource) (fun _ => rfl) }
  | _ => .error (.constraint "multiple_results")

/-- `PUT /assets/{name}/slo-definitions/{slo_definition_id}`, and the same for asset
groups. -/
def putSloAssignment (target : Target) (sloDefinitionId : Uuid) (dataSourceName : String) :
    Command := fun api => do
  checkStrings [dataSourceName]
  api.checkTarget target
  let slo <- orRaise (.notFound "slo definition" "") (api.sloById sloDefinitionId)
  let dataSource <- orRaise (.invalid ("datasource '" ++ dataSourceName ++ "' not found"))
    (api.dataSources.find dataSourceName)
  api.upsertSloAssignment target slo dataSource.name

/-- `DELETE /assets/{name}/slo-definitions/{slo_definition_id}`, and the same for
asset groups. -/
def deleteSloAssignment (target : Target) (sloDefinitionId : Uuid) : Command := fun api => do
  api.checkTarget target
  let slo <- orRaise (.notFound "slo definition" "") (api.sloById sloDefinitionId)
  return { api with
    sloAssignments := api.sloAssignments.deleteWhere fun row =>
      row.target = target && row.sloDefinition = slo.key }

/-- `PATCH /assets/{name}/slo-assignments/{assignment_id}`. -/
def upgradeSloAssignment (asset : String) (assignmentId sloDefinitionId : Uuid) :
    Command := fun api => do
  api.checkTarget (.asset asset)
  let slo <- orRaise (.invalid "slo definition not found") (api.sloById sloDefinitionId)
  match (api.assignmentsOf (.asset asset)).find? fun row => row.id = assignmentId with
  | none => .error (.notFound "assignment" "")
  | some row => .ok { api with
      sloAssignments := api.sloAssignments.update row.key (SLOAssignment.pin slo.key)
        (fun _ => rfl) }

structure SLOGroupAssignmentRead where
  sloGroupName : String
  dataSourceName : String
deriving DecidableEq, Repr

/-- `GET /assets/{name}/slo-group-assignments`, and the same for asset groups. -/
def listSloGroupAssignments (target : Target) : Query (List SLOGroupAssignmentRead) := fun api => do
  api.checkTarget target
  return (api.groupAssignments.rows.filter fun row => row.target = target).filterMap fun row =>
    (api.sloGroups.find row.sloGroupId).map fun group =>
      { sloGroupName := group.name, dataSourceName := row.dataSource }

def SLOGroupAssignment.useDataSource (dataSource : String) (row : SLOGroupAssignment) :
    SLOGroupAssignment :=
  { row with dataSource }

/-- `PUT /assets/{name}/slo-groups/{slo_group_name}`, and the same for asset groups. -/
def putSloGroupAssignment (target : Target) (sloGroupName dataSourceName : String) :
    Command := fun api => do
  checkStrings [dataSourceName]
  api.checkTarget target
  let group <- orRaise (.notFound "slo group" sloGroupName)
    (api.activeSloGroup sloGroupName)
  let dataSource <- orRaise (.invalid ("datasource '" ++ dataSourceName ++ "' not found"))
    (api.dataSources.find dataSourceName)
  let row : SLOGroupAssignment := {
    target
    sloGroupId := group.id
    dataSource := dataSource.name }
  return { api with
    groupAssignments := api.groupAssignments.upsert row
      (SLOGroupAssignment.useDataSource dataSource.name) (fun _ => rfl) }

def Snapshot.isAt (asset source : String) (observedAt : Int) (snapshot : Snapshot) : Bool :=
  snapshot.asset = asset && snapshot.source = source && snapshot.observedAt = observedAt

/-- `GET /assets/{asset_id}/meta/snapshots` with a source, from and to one instant. -/
def listSnapshots (asset source : String) (observedAt : Int) : Query (List Snapshot) := fun api =>
  if api.assets.find asset = none then .error (.notFound "asset" asset)
  else .ok (api.snapshots.filter (Snapshot.isAt asset source observedAt))

structure MetaSnapshotCreate where
  source : String
  observedAt : Int
  values : Option (List MetaValue) := none
  closed : Option (List (List String)) := none

def isSourceChar (char : Char) : Bool :=
  char.isAlphanum || char = '.' || char = '_' || char = '-'

def isPath (path : List String) : Bool :=
  1 ≤ path.length && path.length ≤ 6 && path.all fun entry => 1 ≤ entry.length && entry.length ≤ 128

def MetaSnapshotCreate.check (body : MetaSnapshotCreate) : Except ApiError Unit := do
  let values := body.values.getD []
  let closed := body.closed.getD []
  let paths := values.map MetaValue.labelPath
  checkStrings (values.map MetaValue.value ++ (paths ++ closed).flatten)
  if !(1 ≤ body.source.length && body.source.length ≤ 64 && body.source.toList.all isSourceChar) then
    .error (.field "source")
  else if !((paths ++ closed).all isPath && values.all fun value => value.value.length ≤ 1024) then
    .error (.field "label_path")
  else if ¬ paths.Nodup ∨ 10000 < values.length then .error (.field "values")
  else if ¬ closed.Nodup ∨ 1000 < closed.length then .error (.field "closed")
  else if values.isEmpty && closed.isEmpty then
    .error (.invalid "snapshot must contain values or closed entries")
  else .ok ()

/-- `POST /assets/{asset_id}/meta/snapshots`. -/
def createSnapshot (asset : String) (body : MetaSnapshotCreate) : Command := fun api => do
  body.check
  if api.assets.find asset = none then .error (.notFound "asset" asset)
  else return { api with
    snapshots := api.snapshots ++ [{
      asset
      source := body.source
      observedAt := body.observedAt
      values := body.values.getD []
      closed := body.closed.getD [] }] }

end Manifest
end Tropek
