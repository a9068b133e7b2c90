import Tropek.Catalog.Generation

namespace Tropek
namespace Catalog

open Library Manifest TransitionSystem
open Engine (Dict)
open Store (SLIMode)
open Registry (checkSliFields validateModeFields storedSli buildIndicatorKeys)

/-!
# The registries of definitions

The create endpoints with every field of their bodies.  The tags of a definition, which
no other request reads, stand beside its row.

A version is never changed after it has been stored: requests deactivate all versions of
a name, and the change point settings of an objective are a row of their own.  A history
of the two registries is a run of these requests, in which the SLOs that the create
endpoint has stored are told from those that a group has.
-/

/-- The body of `POST /sli-definitions`. -/
structure SLIDefinitionBody extends Manifest.SLIDefinitionCreate where
  tags : Option (Dict String) := none
  comparableFromVersion : Option Int := none

/-- The body of `POST /slo-definitions`. -/
structure SLODefinitionBody extends Manifest.SLODefinitionCreate where
  tags : Option (Dict String) := none

/-- The registry with what the client does not read.  `sliTags`: the tags of each SLI
version; `sloTags`: the tags of each SLO version; `posted`: the SLO versions that `POST
/slo-definitions` has stored. -/
structure Definitions where
  api : Api
  sliTags : String × Int -> Dict String := fun _ => ∅
  sloTags : String × Int -> Dict String := fun _ => ∅
  posted : List (String × Int) := []

/-- An `Integer` column refuses a number that is out of its range. -/
def fitsColumn (value : Int) : Bool :=
  -2 ^ 31 ≤ value && value ≤ 2 ^ 31 - 1

def columnCheck (values : List Int) : Except ApiError Unit :=
  if values.all fitsColumn then .ok () else .error (.constraint "integer out of range")

def nextSli (api : Api) (body : SLIDefinitionBody) (sli : Registry.SLIDefinitionCreate)
    (mode : SLIMode) : SLI where
  definition := storedSli sli mode ((api.maxSliVersion body.name).getD 0 + 1)
    (body.comparableFromVersion.getD ((api.maxSliVersion body.name).getD 1))
  adapterType := body.adapterType
  displayName := body.displayName
  notes := body.notes
  author := body.author

def SLIDefinitionBody.validate (body : SLIDefinitionBody) :
    Except ApiError (Registry.SLIDefinitionCreate × SLIMode) := do
  checkStrings [body.adapterType]
  checkOptional [body.displayName, body.notes, body.author]
  checkTags (body.tags.getD ∅)
  let sli <- body.checkedBody
  checked (checkSliFields sli)
  let mode <- (validateModeFields sli).mapError ApiError.registry
  return (sli, mode)

/-- `POST /sli-definitions`, with the version that it answers with. -/
def createSliDefinition (body : SLIDefinitionBody) (defs : Definitions) :
    Except ApiError (SLI × Definitions) := do
  let valid <- body.validate
  let row := nextSli defs.api body valid.1 valid.2
  columnCheck [row.definition.version, row.definition.comparableFromVersion]
  if fresh : defs.api.slis.find row.key = none then
    return (row, { defs with
      api := { defs.api with slis := defs.api.slis.insert row fresh }
      sliTags := Function.update defs.sliTags row.key (body.tags.getD ∅) })
  else .error (.constraint "uq_sli_name_version")

/-- `ChangePointConfigInput`. -/
def checkChangePoint (input : ChangePointConfigInput) : Except ApiError Unit := do
  checkInt "window_size" (input.windowSize.getD 0)
  checkInt "min_sample_size" (input.minSampleSize.getD 0)

def SLODefinitionBody.check (body : SLODefinitionBody) : Except ApiError Unit := do
  body.toSLODefinitionCreate.check
  checkTags (body.tags.getD ∅)
  (body.objectives.filterMap SLOObjectiveIn.changePoint).forM checkChangePoint

/-- The `Integer` columns of a change point row. -/
def settingsColumns (config : ChangePointConfig) : List Int :=
  [config.windowSize, config.minSampleSize]

/-- The `Integer` columns of a version and of the change point rows of its objectives. -/
def integerColumns (slo : SLO) : List Int :=
  [slo.version, slo.comparableFromVersion] ++
    (slo.objectives.filterMap Objective.changePoint).flatMap settingsColumns

/-- `create` of the SLO repository, with the tags. -/
def storeDefinition (params : SLOCreateParams) (tags : Dict String) (defs : Definitions) :
    Except ApiError (SLO × Definitions) := do
  let row := defs.api.nextSlo params
  columnCheck (integerColumns row)
  let api <- defs.api.storeSlo params
  return (row, { defs with api, sloTags := Function.update defs.sloTags row.key tags })

/-- `POST /slo-definitions`, with the version that it answers with. -/
def createSloDefinition (body : SLODefinitionBody) (defs : Definitions) :
    Except ApiError (SLO × Definitions) := do
  body.check
  let sliDefinition <- defs.api.resolveSli body.toSLODefinitionCreate
  let stored <- storeDefinition (body.params sliDefinition) (body.tags.getD ∅) defs
  return (stored.1, { stored.2 with posted := stored.1.key :: stored.2.posted })

def setChangePoint (position : Nat) (config : Option ChangePointConfig) (slo : SLO) : SLO :=
  { slo with
    objectives := slo.objectives.modify position fun objective =>
      { objective with changePoint := config } }

/-- The requests that write SLIs, SLOs and the settings of their change points.
`generate`: an SLO that a request on a group generates, or takes out of it; `deleteSlo`:
all versions of a name become inactive, by a request or with a group; `configure`: the
settings of the configuration table; `putChangePoint`: `PUT
/change-points/config/{objective_id}`, for the objective of a version. -/
inductive DefinitionRequest where
  | createSli (body : SLIDefinitionBody)
  | createSlo (body : SLODefinitionBody)
  | generate (params : SLOCreateParams) (tags : Dict String)
  | deleteSli (name : String)
  | deleteSlo (name : String)
  | configure (defaults : ChangePointConfigInput)
  | putChangePoint (key : String × Int) (position : Nat) (input : ChangePointConfigInput)
  | deleteChangePoint (key : String × Int) (position : Nat)

def Definitions.putSettings (defs : Definitions) (key : String × Int) (position : Nat)
    (config : Option ChangePointConfig) : Definitions :=
  { defs with
    api := { defs.api with
      slos := defs.api.slos.update key (setChangePoint position config) fun _ => rfl } }

def inactiveSli (sli : SLI) : SLI :=
  { sli with active := false }

/-- `deactivate` of the SLI repository. -/
def Definitions.deactivateSli (defs : Definitions) (name : String) : Definitions :=
  { defs with
    api := { defs.api with
      slis := defs.api.slis.updateWhere (fun sli => sli.definition.name = name) inactiveSli
        fun _ => rfl } }

/-- A request that is accepted.  One that is refused leaves the state as it is. -/
def Definitions.step (defs : Definitions) : DefinitionRequest -> Option Definitions
  | .createSli body => (createSliDefinition body defs).toOption.map Prod.snd
  | .createSlo body => (createSloDefinition body defs).toOption.map Prod.snd
  | .generate params tags => (storeDefinition params tags defs).toOption.map Prod.snd
  | .deleteSli name => some (defs.deactivateSli name)
  | .deleteSlo name => some { defs with api := defs.api.deactivateSlo name }
  | .configure defaults => some { defs with
      api := { defs.api with changePointDefaults := defaults } }
  | .putChangePoint key position input =>
      let config := input.resolve defs.api.changePointDefaults
      if (checkChangePoint input).isOk &&
          (columnCheck (settingsColumns config)).isOk then
        some (defs.putSettings key position (some config))
      else none
  | .deleteChangePoint key position => some (defs.putSettings key position none)

def Undefined (defs : Definitions) : Prop :=
  defs.api.slis.rows = [] ∧ defs.api.slos.rows = [] ∧ defs.posted = []

end Catalog
end Tropek
