import Tropek.Catalog.Definitions
import Tropek.Manifest.Client

namespace Tropek
namespace Catalog

open Library Manifest TransitionSystem
open Engine (Dict)
open Store (SLIMode)

/-!
# New versions of a definition

The client makes a new version of a definition by reading the latest one, putting what
it has read into the body of a create request, and replacing some of the fields.  Fields
that are empty or null are not sent, and the registry fills in what a body leaves out:
an objective without change point settings gets those that the previous version has for
its metric.

Whether this gives the same definition again is a question about each field.
-/

/-- The path that the server routes when the client has put one together, or nothing when
the library that sends it refuses it. -/
abbrev Transport : Type :=
  String -> Option String

def afterPrefix (start path : String) : Option (List Char) :=
  if start.toList.isPrefixOf path.toList then some (path.toList.drop start.toList.length) else none

/-- What `.*` matches up to the end of a path, which allows for one line break. -/
def wholeLine (chars : List Char) : Option (List Char) :=
  let line := if chars.getLast? = some '\n' then chars.dropLast else chars
  if line.contains '\n' then none else some line

/-- The routes below a collection that are declared before the one of a single definition. -/
def isTagRoute (line : List Char) : Bool :=
  line = "tag-keys".toList || line = "tag-values".toList

/-- The paths of the `POST` routes take no other method. -/
def isPostRoute (rest : List Char) : Bool :=
  rest = "validate".toList || rest = "test".toList

/-- The name that `GET /slo-definitions/{name:path}` gets, when the path goes there. -/
def sloRoute (path : String) : Option String := do
  let rest <- afterPrefix "/slo-definitions/" path
  let line <- wholeLine rest
  if isPostRoute rest || isTagRoute line || "/versions".toList.isSuffixOf line then none
  else some (String.ofList line)

/-- The name that `GET /sli-definitions/{name}` gets, when the path goes there. -/
def sliRoute (path : String) : Option String := do
  let rest <- afterPrefix "/sli-definitions/" path
  if rest = [] || rest.contains '/' || (wholeLine rest).any isTagRoute then none
  else some (String.ofList rest)

def sloReached (transport : Transport) (name : String) : Option String :=
  (transport ("/slo-definitions/" ++ name)).bind sloRoute

def sliReached (transport : Transport) (name : String) : Option String :=
  (transport ("/sli-definitions/" ++ name)).bind sliRoute

structure SLOObjectiveRead where
  sli : String
  displayName : String
  passThreshold : Option (List String)
  warningThreshold : Option (List String)
  weight : Int
  keySli : Bool
  sortOrder : Nat
  changePoint : Option ChangePointConfig
deriving DecidableEq, Repr

/-- The row calls its settings `change_point_config`, and the answer reads an attribute
`change_point`, so that the field is always null. -/
def readObjective (entry : Objective × Nat) : SLOObjectiveRead where
  sli := entry.1.sli
  displayName := entry.1.displayName
  passThreshold := some entry.1.passThreshold
  warningThreshold := some entry.1.warningThreshold
  weight := entry.1.weight
  keySli := entry.1.keySli
  sortOrder := entry.2
  changePoint := none

structure SLODefinitionRead where
  id : Uuid
  name : String
  displayName : Option String
  version : Int
  comparableFromVersion : Int
  active : Bool
  objectives : List SLOObjectiveRead
  totalScorePassThreshold : ℚ
  totalScoreWarningThreshold : ℚ
  comparison : ComparisonConfig
  notes : Option String
  author : Option String
  tags : Dict String
  vars : Dict String
  kind : String
  methodCriteria : Option (Dict MethodCriteriaOverride)
  sliDefinitionId : Option (String × Int)
  sliName : Option String
  sliVersion : Option Int

def readSlo (tags : Dict String) (slo : SLO) : SLODefinitionRead where
  id := slo.id
  name := slo.name
  displayName := slo.displayName
  version := slo.version
  comparableFromVersion := slo.comparableFromVersion
  active := slo.active
  objectives := slo.objectives.zipIdx.map readObjective
  totalScorePassThreshold := slo.totalScorePassThreshold
  totalScoreWarningThreshold := slo.totalScoreWarningThreshold
  comparison := slo.comparison
  notes := slo.notes
  author := slo.author
  tags := tags
  vars := slo.vars
  kind := slo.kind
  methodCriteria := slo.methodCriteria
  sliDefinitionId := slo.sliDefinition
  sliName := slo.sliDefinition.map Prod.fst
  sliVersion := slo.sliDefinition.map Prod.snd

structure SLIDefinitionRead where
  name : String
  adapterType : String
  displayName : Option String
  version : Int
  comparableFromVersion : Int
  indicators : Dict String
  notes : Option String
  author : Option String
  tags : Dict String
  mode : String
  queryTemplate : Option String
  interval : Option String
  methods : Option (List String)
  active : Bool

def readSli (tags : Dict String) (sli : SLI) : SLIDefinitionRead where
  name := sli.definition.name
  adapterType := sli.adapterType
  displayName := sli.displayName
  version := sli.definition.version
  comparableFromVersion := sli.definition.comparableFromVersion
  indicators := sli.definition.indicators
  notes := sli.notes
  author := sli.author
  tags := tags
  mode := sli.definition.mode.name
  queryTemplate := sli.definition.queryTemplate
  interval := sli.definition.interval
  methods := sli.definition.methods
  active := sli.active

def orAbsent {V : Type} (entries : Dict V) : Option (Dict V) :=
  if entries.entries = [] then none else some entries

def resentSettings (config : ChangePointConfig) : ChangePointConfigInput where
  enabled := some config.enabled
  higherIsBetter := some config.higherIsBetter
  windowSize := some config.windowSize
  maxPvalue := some config.maxPvalue
  minMagnitude := some config.minMagnitude
  minSampleSize := some config.minSampleSize

/-- The objective without its position, and with its settings when they were read. -/
def SLOObjectiveRead.forCreate (objective : SLOObjectiveRead) : SLOObjectiveIn where
  sli := objective.sli
  displayName := objective.displayName
  passThreshold := objective.passThreshold
  warningThreshold := objective.warningThreshold
  weight := objective.weight
  keySli := objective.keySli
  changePoint := objective.changePoint.map resentSettings

def SLODefinitionRead.forCreate (current : SLODefinitionRead) : SLODefinitionBody where
  name := current.name
  displayName := current.displayName
  objectives := current.objectives.map SLOObjectiveRead.forCreate
  totalScorePassThreshold := current.totalScorePassThreshold
  totalScoreWarningThreshold := current.totalScoreWarningThreshold
  comparison := some current.comparison
  notes := current.notes
  author := current.author
  tags := orAbsent current.tags
  vars := orAbsent current.vars
  kind := current.kind
  sliName := current.sliName
  sliVersion := current.sliVersion
  methodCriteria := current.methodCriteria.bind orAbsent

structure SLOOverrides where
  name : Option String := none
  displayName : Option (Option String) := none
  objectives : Option (List SLOObjectiveIn) := none
  totalScorePassThreshold : Option ℚ := none
  totalScoreWarningThreshold : Option ℚ := none
  comparison : Option (Option ComparisonConfig) := none
  notes : Option (Option String) := none
  author : Option (Option String) := none
  tags : Option (Option (Dict String)) := none
  vars : Option (Option (Dict String)) := none
  comparableFromVersion : Option (Option Int) := none
  kind : Option String := none
  sliName : Option (Option String) := none
  sliVersion : Option (Option Int) := none
  methodCriteria : Option (Option (Dict MethodCriteriaOverride)) := none

def SLOOverrides.apply (overrides : SLOOverrides) (base : SLODefinitionBody) :
    SLODefinitionBody where
  name := overrides.name.getD base.name
  displayName := overrides.displayName.getD base.displayName
  objectives := overrides.objectives.getD base.objectives
  totalScorePassThreshold := overrides.totalScorePassThreshold.getD base.totalScorePassThreshold
  totalScoreWarningThreshold :=
    overrides.totalScoreWarningThreshold.getD base.totalScoreWarningThreshold
  comparison := overrides.comparison.getD base.comparison
  notes := overrides.notes.getD base.notes
  author := overrides.author.getD base.author
  tags := overrides.tags.getD base.tags
  vars := overrides.vars.getD base.vars
  comparableFromVersion := overrides.comparableFromVersion.getD base.comparableFromVersion
  kind := overrides.kind.getD base.kind
  sliName := overrides.sliName.getD base.sliName
  sliVersion := overrides.sliVersion.getD base.sliVersion
  methodCriteria := overrides.methodCriteria.getD base.methodCriteria

/-- `slos.get`: an answer of another route is no definition. -/
def fetchSlo (transport : Transport) (name : String) (defs : Definitions) :
    Except ClientError SLO :=
  match sloReached transport name with
  | none => .error (.invalid "SLODefinitionRead")
  | some reached => (getSlo reached defs.api).mapError ClientError.api

/-- `ComparisonConfig.model_validate`. -/
def acceptComparison (comparison : ComparisonConfig) : Except ClientError PUnit :=
  if comparison.aggregateFunction.all fun function => allAggregateFunctions.contains function then
    .ok PUnit.unit
  else .error (.invalid "aggregate_function")

/-- `slos.new_version`, with the version that it answers with. -/
def newSloVersion (transport : Transport) (name : String) (overrides : SLOOverrides)
    (defs : Definitions) : Except ClientError (SLO × Definitions) := do
  let row <- fetchSlo transport name defs
  let current := readSlo (defs.sloTags row.key) row
  acceptComparison current.comparison
  (createSloDefinition (overrides.apply current.forCreate) defs).mapError ClientError.api

def SLIDefinitionRead.forCreate (current : SLIDefinitionRead) : SLIDefinitionBody where
  name := current.name
  adapterType := current.adapterType
  displayName := current.displayName
  mode := current.mode
  indicators := orAbsent current.indicators
  queryTemplate := current.queryTemplate
  interval := current.interval
  methods := current.methods
  notes := current.notes
  author := current.author
  tags := orAbsent current.tags

structure SLIOverrides where
  name : Option String := none
  adapterType : Option String := none
  displayName : Option (Option String) := none
  mode : Option String := none
  indicators : Option (Option (Dict String)) := none
  queryTemplate : Option (Option String) := none
  interval : Option (Option String) := none
  methods : Option (Option (List String)) := none
  notes : Option (Option String) := none
  author : Option (Option String) := none
  tags : Option (Option (Dict String)) := none
  comparableFromVersion : Option (Option Int) := none

def SLIOverrides.apply (overrides : SLIOverrides) (base : SLIDefinitionBody) :
    SLIDefinitionBody where
  name := overrides.name.getD base.name
  adapterType := overrides.adapterType.getD base.adapterType
  displayName := overrides.displayName.getD base.displayName
  mode := overrides.mode.getD base.mode
  indicators := overrides.indicators.getD base.indicators
  queryTemplate := overrides.queryTemplate.getD base.queryTemplate
  interval := overrides.interval.getD base.interval
  methods := overrides.methods.getD base.methods
  notes := overrides.notes.getD base.notes
  author := overrides.author.getD base.author
  tags := overrides.tags.getD base.tags
  comparableFromVersion := overrides.comparableFromVersion.getD base.comparableFromVersion

def fetchSli (transport : Transport) (name : String) (defs : Definitions) :
    Except ClientError SLI :=
  match sliReached transport name with
  | none => .error (.invalid "SLIDefinitionRead")
  | some reached => (getSli reached defs.api).mapError ClientError.api

/-- `slis.new_version`, with the version that it answers with. -/
def newSliVersion (transport : Transport) (name : String) (overrides : SLIOverrides)
    (defs : Definitions) : Except ClientError (SLI × Definitions) := do
  let row <- fetchSli transport name defs
  let current := readSli (defs.sliTags row.key) row
  (createSliDefinition (overrides.apply current.forCreate) defs).mapError ClientError.api

/-- What a version of an SLO is: the answer of the API, and the settings of each of its
objectives, which have routes of their own. -/
structure SLOContent where
  read : SLODefinitionRead
  settings : List (Option ChangePointConfig)

def Definitions.content (defs : Definitions) (slo : SLO) : SLOContent where
  read := readSlo (defs.sloTags slo.key) slo
  settings := slo.objectives.map Objective.changePoint

/-- What is not overridden is the same in both versions.  Identifiers, version numbers and
the comparability marker are left out. -/
structure SLOUnchanged (overrides : SLOOverrides) (before after : SLOContent) : Prop where
  name : overrides.name = none -> after.read.name = before.read.name
  displayName : overrides.displayName = none -> after.read.displayName = before.read.displayName
  active : after.read.active = before.read.active
  objectives : overrides.objectives = none -> after.read.objectives = before.read.objectives
  settings : overrides.objectives = none -> after.settings = before.settings
  totalScorePassThreshold : overrides.totalScorePassThreshold = none ->
    after.read.totalScorePassThreshold = before.read.totalScorePassThreshold
  totalScoreWarningThreshold : overrides.totalScoreWarningThreshold = none ->
    after.read.totalScoreWarningThreshold = before.read.totalScoreWarningThreshold
  comparison : overrides.comparison = none -> after.read.comparison = before.read.comparison
  notes : overrides.notes = none -> after.read.notes = before.read.notes
  author : overrides.author = none -> after.read.author = before.read.author
  tags : overrides.tags = none -> after.read.tags = before.read.tags
  vars : overrides.vars = none -> after.read.vars = before.read.vars
  kind : overrides.kind = none -> after.read.kind = before.read.kind
  methodCriteria : overrides.methodCriteria = none ->
    after.read.methodCriteria = before.read.methodCriteria
  sliName : overrides.sliName = none -> after.read.sliName = before.read.sliName
  sliVersion : overrides.sliVersion = none -> after.read.sliVersion = before.read.sliVersion
  sliDefinitionId : overrides.sliName = none -> overrides.sliVersion = none ->
    after.read.sliDefinitionId = before.read.sliDefinitionId

structure SLIUnchanged (overrides : SLIOverrides) (before after : SLIDefinitionRead) : Prop where
  name : overrides.name = none -> after.name = before.name
  adapterType : overrides.adapterType = none -> after.adapterType = before.adapterType
  displayName : overrides.displayName = none -> after.displayName = before.displayName
  indicators : overrides.indicators = none -> after.indicators = before.indicators
  notes : overrides.notes = none -> after.notes = before.notes
  author : overrides.author = none -> after.author = before.author
  tags : overrides.tags = none -> after.tags = before.tags
  mode : overrides.mode = none -> after.mode = before.mode
  queryTemplate : overrides.queryTemplate = none -> after.queryTemplate = before.queryTemplate
  interval : overrides.interval = none -> after.interval = before.interval
  methods : overrides.methods = none -> after.methods = before.methods
  active : after.active = before.active

/-- The outcome is a version of the SLO that was asked for, and differs from it only in
what is overridden. -/
def RewritesSlo (transport : Transport) (defs : Definitions) (name : String) (current : SLO)
    (overrides : SLOOverrides) (outcome : SLO × Definitions) : Prop :=
  fetchSlo transport name defs = .ok current ∧
    SLOUnchanged overrides (defs.content current) (outcome.2.content outcome.1)

def RewritesSli (transport : Transport) (defs : Definitions) (name : String) (current : SLI)
    (overrides : SLIOverrides) (outcome : SLI × Definitions) : Prop :=
  fetchSli transport name defs = .ok current ∧
    SLIUnchanged overrides (readSli (defs.sliTags current.key) current)
      (readSli (outcome.2.sliTags outcome.1.key) outcome.1)

def UniformSettings (slo : SLO) : Prop :=
  forall first, first ∈ slo.objectives -> forall second, second ∈ slo.objectives ->
    first.sli = second.sli -> first.changePoint = second.changePoint

/-- What the client sends back gives the SLO again: its path leads to it, the settings of
an objective are those of its metric, and there is no empty table of method criteria.  The
number of the next version must fit its column. -/
structure SLOResendable (transport : Transport) (name : String) (current : SLO) : Prop where
  routed : sloReached transport name = some name
  settings : UniformSettings current
  methodCriteria : current.methodCriteria ≠ some ∅
  room : current.version + 1 ≤ 2 ^ 31 - 1

/-- An SLI is given again whenever its path leads to it and there is a next version. -/
structure SLIResendable (transport : Transport) (defs : Definitions) (name : String) : Prop where
  routed : sliReached transport name = some name
  room : (defs.api.maxSliVersion name).getD 0 + 1 ≤ 2 ^ 31 - 1

/-- The same with overrides.  A new name brings the settings that the name had before,
and with another SLI the version that is sent must be one that the SLI is bound to. -/
structure SLOReplaceable (transport : Transport) (defs : Definitions) (name : String)
    (current : SLO) (overrides : SLOOverrides) : Prop where
  routed : sloReached transport name = some name
  settings : overrides.objectives = none -> forall objective, objective ∈ current.objectives ->
    previousConfig (previousVersion defs.api (overrides.name.getD name)) objective.sli =
      objective.changePoint
  methodCriteria : overrides.methodCriteria = none -> current.methodCriteria ≠ some ∅
  sliVersion : overrides.sliVersion = none ->
    (overrides.sliName.getD (current.sliDefinition.map Prod.fst)).isSome =
      current.sliDefinition.isSome

end Catalog
end Tropek
