import Tropek.Manifest.Entities

namespace Tropek
namespace Manifest

open Library Engine Registry Fallible

/-!
# The routes for assets, data sources and SLIs

Each route is a function of the state of the API.  A request is one transaction, so
a route that raises leaves the state as it was, and only the requests that succeed
have a next state.  A body is what arrives: the client does not send a field that is
null, so an optional field is either sent or absent.
-/

abbrev Query (α : Type) : Type :=
  Api -> Except ApiError α

abbrev Command : Type :=
  Api -> Except ApiError Api

/-- `GET /asset-types`. -/
def listAssetTypes : Query (List AssetType) := fun api =>
  .ok api.assetTypes.rows

structure AssetTypeCreate where
  name : String
  isDefault : Option Bool := none

/-- `POST /asset-types`.  An index of the database admits one default. -/
def createAssetType (body : AssetTypeCreate) : Command := fun api => do
  checkStrings [body.name]
  let row : AssetType := { name := body.name, isDefault := body.isDefault.getD false }
  if row.isDefault && api.assetTypes.rows.any (·.isDefault) then
    .error (.constraint "uq_asset_types_default")
  else if fresh : api.assetTypes.find row.name = none then
    return { api with assetTypes := api.assetTypes.insert row fresh }
  else .error (.constraint "asset_types_name")

def AssetType.setDefault (name : String) (row : AssetType) : AssetType :=
  { row with isDefault := row.name = name }

/-- `PATCH /asset-types/{name}/set-default`: the others lose the mark. -/
def setDefaultAssetType (name : String) : Command := fun api =>
  match api.assetTypes.find name with
  | none => .error (.notFound "asset type" name)
  | some _ => .ok { api with
      assetTypes := api.assetTypes.updateWhere (fun _ => true) (AssetType.setDefault name)
        (fun _ => rfl) }

/-- `GET /datasources/{name}`. -/
def getDataSource (name : String) : Query DataSource := fun api =>
  orRaise (.notFound "datasource" name) (api.dataSources.find name)

structure DataSourceCreate where
  name : String
  displayName : Option String := none
  adapterType : String
  adapterUrl : String
  tags : Option (Dict String) := none

/-- `POST /datasources`. -/
def createDataSource (body : DataSourceCreate) : Command := fun api => do
  checkStrings [body.name, body.adapterType, body.adapterUrl]
  checkOptional [body.displayName]
  checkTags (body.tags.getD ∅)
  let row : DataSource := {
    name := body.name
    displayName := body.displayName
    adapterType := body.adapterType
    adapterUrl := body.adapterUrl
    tags := body.tags.getD ∅ }
  if fresh : api.dataSources.find row.name = none then
    return { api with dataSources := api.dataSources.insert row fresh }
  else .error (.constraint "data_sources_name")

structure DataSourceUpdate where
  displayName : Option String := none
  adapterUrl : Option String := none
  tags : Option (Dict String) := none

def DataSourceUpdate.apply (body : DataSourceUpdate) (row : DataSource) : DataSource :=
  { row with
    displayName := body.displayName.or row.displayName
    adapterUrl := body.adapterUrl.getD row.adapterUrl
    tags := body.tags.getD row.tags }

/-- `PATCH /datasources/{name}`. -/
def updateDataSource (name : String) (body : DataSourceUpdate) : Command := fun api => do
  checkOptional [body.displayName, body.adapterUrl]
  checkTags (body.tags.getD ∅)
  match api.dataSources.find name with
  | none => .error (.notFound "datasource" name)
  | some _ => .ok { api with
      dataSources := api.dataSources.update name body.apply (fun _ => rfl) }

/-- `GET /assets/{name}`. -/
def getAsset (name : String) : Query Asset := fun api =>
  orRaise (.notFound "asset" name) (api.assets.find name)

structure AssetCreate where
  name : String
  displayName : Option String := none
  typeName : String
  tags : Option (Dict String) := none
  vars : Option (Dict String) := none

/-- `POST /assets`.  The type is a foreign key. -/
def createAsset (body : AssetCreate) : Command := fun api => do
  checkStrings [body.name, body.typeName]
  checkOptional [body.displayName]
  checkTags (body.tags.getD ∅)
  checked (checkDict (body.vars.getD ∅))
  let row : Asset := {
    name := body.name
    displayName := body.displayName
    typeName := body.typeName
    tags := body.tags.getD ∅
    vars := body.vars.getD ∅ }
  if api.assetTypes.find row.typeName = none then .error (.constraint "assets_type_name")
  else if fresh : api.assets.find row.name = none then
    return { api with assets := api.assets.insert row fresh }
  else .error (.constraint "assets_name")

structure AssetUpdate where
  displayName : Option String := none
  tags : Option (Dict String) := none
  vars : Option (Dict String) := none

def AssetUpdate.apply (body : AssetUpdate) (row : Asset) : Asset :=
  { row with
    displayName := body.displayName.or row.displayName
    tags := body.tags.getD row.tags
    vars := body.vars.getD row.vars }

/-- `PATCH /assets/{name}`. -/
def updateAsset (name : String) (body : AssetUpdate) : Command := fun api => do
  checkOptional [body.displayName]
  checkTags (body.tags.getD ∅)
  checked (checkDict (body.vars.getD ∅))
  match api.assets.find name with
  | none => .error (.notFound "asset" name)
  | some _ => .ok { api with assets := api.assets.update name body.apply (fun _ => rfl) }

/-- `GET /sli-definitions/{name}`. -/
def getSli (name : String) : Query SLI := fun api =>
  orRaise (.notFound "sli definition" name) (api.latestSli name)

structure SLIDefinitionCreate where
  name : String
  adapterType : String
  displayName : Option String := none
  mode : String := "raw"
  indicators : Option (Dict String) := none
  queryTemplate : Option String := none
  interval : Option String := none
  methods : Option (List String) := none
  notes : Option String := none
  author : Option String := none

def allMethods : List AggregationMethod :=
  [.min, .mean, .max, .std, .sum, .median, .p75, .p90, .p95, .p99]

def parseMethod (text : String) : Except ApiError AggregationMethod :=
  orRaise (.field "methods") (allMethods.find? fun method => method.name = text)

def SLIDefinitionCreate.checkedBody (body : SLIDefinitionCreate) :
    Except ApiError Registry.SLIDefinitionCreate := do
  let methods <- body.methods.mapM fun methods => methods.mapM parseMethod
  return {
    name := body.name
    mode := body.mode
    indicators := body.indicators.getD ∅
    queryTemplate := body.queryTemplate
    interval := body.interval
    methods }

def Api.maxSliVersion (api : Api) (name : String) : Option Int :=
  ((api.slis.rows.filter (·.definition.name = name)).map (·.definition.version)).max?

/-- `POST /sli-definitions`: the next version of the name. -/
def createSli (body : SLIDefinitionCreate) : Command := fun api => do
  checkStrings [body.adapterType]
  checkOptional [body.displayName, body.notes, body.author]
  let sli <- body.checkedBody
  checked (checkSliFields sli)
  let mode <- (validateModeFields sli).mapError ApiError.registry
  let maxVersion := api.maxSliVersion body.name
  let row : SLI := {
    definition := storedSli sli mode (maxVersion.getD 0 + 1) (maxVersion.getD 1)
    adapterType := body.adapterType
    displayName := body.displayName
    notes := body.notes
    author := body.author }
  if fresh : api.slis.find row.key = none then
    return { api with slis := api.slis.insert row fresh }
  else .error (.constraint "uq_sli_name_version")

end Manifest
end Tropek
