import Tropek.Library.Thinning
import Tropek.Manifest.Documents

namespace Tropek
namespace Manifest

open Library Engine Registry

/-!
# The entities of the API

The rows behind the routes that a manifest is applied through, with the fields that
these routes read or write.  Assets, asset groups, data sources and display groups
are never renamed here, so a row refers to them by name; a definition is referred to
by its name and version, which are unique together.

An identifier in a path is an opaque string in the code.  Here it is the key of the
row that it was drawn for, under the table of that row: identifiers of rows of
different tables are never equal.
-/

structure AssetType where
  name : String
  isDefault : Bool := false
deriving DecidableEq, Repr

structure DataSource where
  name : String
  displayName : Option String := none
  adapterType : String
  adapterUrl : String
  tags : Dict String := ∅

structure Asset where
  name : String
  displayName : Option String := none
  typeName : String
  tags : Dict String := ∅
  vars : Dict String := ∅

structure SLI where
  definition : Store.SLIDefinition
  active : Bool := true
  adapterType : String
  displayName : Option String := none
  notes : Option String := none
  author : Option String := none

def SLI.key (sli : SLI) : String × Int :=
  (sli.definition.name, sli.definition.version)

structure ChangePointConfig where
  enabled : Bool
  higherIsBetter : Bool
  windowSize : Int
  maxPvalue : ℚ
  minMagnitude : ℚ
  minSampleSize : Int
deriving DecidableEq, Repr

structure Objective where
  sli : String
  displayName : String := ""
  passThreshold : List String := []
  warningThreshold : List String := []
  weight : Int := 1
  keySli : Bool := false
  changePoint : Option ChangePointConfig := none
deriving DecidableEq, Repr

structure ComparisonConfig where
  compareWith : Option String := none
  includeResultWithScore : Option String := none
  numberOfComparisonResults : Option Int := none
  aggregateFunction : Option String := none
  scopeTags : Option (List String) := none
deriving DecidableEq, Repr

structure MethodCriteriaOverride where
  method : Option String := none
  aggregation : Option String := none
  passThreshold : Option (List String) := none
  warningThreshold : Option (List String) := none
  weight : Option Int := none
  keySli : Option Bool := none
deriving DecidableEq, Repr

/-- A version of an SLO, as the endpoints show it.  `sliDefinition`: the SLI version
that the SLO is bound to. -/
structure SLO where
  name : String
  version : Int
  comparableFromVersion : Int := 1
  active : Bool := true
  displayName : Option String := none
  objectives : List Objective := []
  totalScorePassThreshold : ℚ := 90
  totalScoreWarningThreshold : ℚ := 75
  comparison : ComparisonConfig := {}
  notes : Option String := none
  author : Option String := none
  vars : Dict String := ∅
  kind : String := "standard"
  methodCriteria : Option (Dict MethodCriteriaOverride) := none
  sliDefinition : Option (String × Int) := none
  generatedByGroup : Option Nat := none

def SLO.key (slo : SLO) : String × Int :=
  (slo.name, slo.version)

structure AssetGroup where
  name : String
  displayName : Option String := none
  members : List (String × ℚ) := []
  subgroups : List (String × ℚ) := []
deriving DecidableEq, Repr

structure SLOGroup where
  id : Nat
  name : String
  displayName : Option String := none
  templateSlo : String × Int
  genVariables : Dict (List String)
  tags : Dict String := ∅
  author : Option String := none
  active : Bool := true

structure DisplayGroup where
  name : String
  displayName : Option String := none
  parent : Option String := none
  sortOrder : Int := 0
  members : List String := []
deriving DecidableEq, Repr

inductive Target where
  | asset (name : String)
  | assetGroup (name : String)
deriving DecidableEq, Repr

structure SLOAssignment where
  target : Target
  sloName : String
  sloDefinition : String × Int
  dataSource : String
deriving DecidableEq, Repr

def SLOAssignment.key (assignment : SLOAssignment) : Target × String :=
  (assignment.target, assignment.sloName)

structure SLOGroupAssignment where
  target : Target
  sloGroupId : Nat
  dataSource : String
deriving DecidableEq, Repr

def SLOGroupAssignment.key (assignment : SLOGroupAssignment) : Target × Nat :=
  (assignment.target, assignment.sloGroupId)

structure Snapshot where
  asset : String
  source : String
  observedAt : Int
  values : List MetaValue := []
  closed : List (List String) := []
deriving DecidableEq, Repr

/-- The change point settings of a request, and those of the configuration table. -/
structure ChangePointConfigInput where
  enabled : Option Bool := none
  higherIsBetter : Option Bool := none
  windowSize : Option Int := none
  maxPvalue : Option ℚ := none
  minMagnitude : Option ℚ := none
  minSampleSize : Option Int := none
deriving DecidableEq, Repr

structure Api where
  assetTypes : KeyedTable AssetType.name
  dataSources : KeyedTable DataSource.name
  assets : KeyedTable Asset.name
  slis : KeyedTable SLI.key
  slos : KeyedTable SLO.key
  assetGroups : KeyedTable AssetGroup.name
  sloGroups : KeyedTable SLOGroup.id
  displayGroups : KeyedTable DisplayGroup.name
  sloAssignments : KeyedTable SLOAssignment.key
  groupAssignments : KeyedTable SLOGroupAssignment.key
  snapshots : List Snapshot
  changePointDefaults : ChangePointConfigInput

def Api.empty : Api where
  assetTypes := .empty
  dataSources := .empty
  assets := .empty
  slis := .empty
  slos := .empty
  assetGroups := .empty
  sloGroups := .empty
  displayGroups := .empty
  sloAssignments := .empty
  groupAssignments := .empty
  snapshots := []
  changePointDefaults := {}

inductive Uuid where
  | sloDefinition (name : String) (version : Int)
  | sloAssignment (target : Target) (sloName : String)
deriving DecidableEq, Repr

def SLO.id (slo : SLO) : Uuid :=
  .sloDefinition slo.name slo.version

def SLOAssignment.id (assignment : SLOAssignment) : Uuid :=
  .sloAssignment assignment.target assignment.sloName

def Api.latestSli (api : Api) (name : String) : Option SLI :=
  Latest.newest (·.definition.version)
    (api.slis.rows.filter fun sli => sli.definition.name = name && sli.active)

def Api.latestSlo (api : Api) (name : String) : Option SLO :=
  Latest.newest SLO.version (api.slos.rows.filter fun slo => slo.name = name && slo.active)

/-- `get_by_id` of the SLO registry. -/
def Api.sloById (api : Api) : Uuid -> Option SLO
  | .sloDefinition name version => api.slos.find (name, version)
  | .sloAssignment _ _ => none

def Api.activeSloGroup (api : Api) (name : String) : Option SLOGroup :=
  api.sloGroups.rows.find? fun group => group.name = name && group.active

def Api.hasTarget (api : Api) : Target -> Bool
  | .asset name => (api.assets.find name).isSome
  | .assetGroup name => (api.assetGroups.find name).isSome

/-- The answers of the backend that are no success.  `notFound`: 404, with the entity
and its name; `conflict`: 409, with the entity, its name and the reason; `invalid`: 422
of a domain check; `field`: 422 of a field of the body; `registry`: 422 of the checks
that the registry has of its own; `constraint`: a constraint of the database. -/
inductive ApiError where
  | notFound (entity name : String)
  | conflict (entity name reason : String)
  | invalid (message : String)
  | field (name : String)
  | registry (error : RegistryError)
  | constraint (name : String)
deriving DecidableEq, Repr

def isLabelChar (char : Char) : Bool :=
  char.isAlphanum || char = '-' || char = '_' || char = '.'

/-- The pattern of a tag key: letters and digits with separators between them. -/
def isLabel (text : String) : Bool :=
  match text.toList with
  | [] => false
  | first :: rest =>
      first.isAlphanum && ((first :: rest).getLast (List.cons_ne_nil _ _)).isAlphanum &&
        rest.all isLabelChar && rest.length < 63

/-- `Tags`. -/
def checkTags (tags : Dict String) : Except ApiError Unit :=
  if tags.entries.all fun entry => isLabel entry.1 && (entry.2 = "" || isLabel entry.2) then .ok ()
  else .error (.field "tags")

def checked (outcome : Except RegistryError Unit) : Except ApiError Unit :=
  outcome.mapError ApiError.registry

def checkStrings (texts : List String) : Except ApiError Unit :=
  checked (texts.forM checkSafeStr)

def checkOptional (texts : List (Option String)) : Except ApiError Unit :=
  checkStrings (texts.filterMap id)

/-- `IntNotBool`: the range of a column of the database. -/
def checkInt (name : String) (value : Int) : Except ApiError Unit :=
  if -2 ^ 31 ≤ value ∧ value ≤ 2 ^ 31 - 1 then .ok () else .error (.field name)

def sameEntries {V : Type} [DecidableEq V] (first second : Dict V) : Bool :=
  (first.keys ++ second.keys).all fun key => first.lookup key = second.lookup key

end Manifest
end Tropek
