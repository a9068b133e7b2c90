import Tropek.Engine.Variables
import Tropek.Library.KeyedTable

namespace Tropek
namespace Store

open Library Engine KeyedTable

/-!
# Database rows

The tables behind evaluations: the evaluations themselves with their indicator
results, the parent runs, and the definitions that scoring reads.  Each table
is keyed by its primary key or by its unique constraint, and an indicator
result carries the objective that its foreign key points to.

Identifiers are natural numbers.  A JSONB column of which the code reads a fixed
set of keys is a record with one optional field per key.
-/

structure SLOObjectiveRow where
  id : Nat
  sli : String
  displayName : String := ""
  weight : Int := 1
  keySli : Bool := false
  passThreshold : List String := []
  warningThreshold : List String := []
deriving DecidableEq, Repr

/-- One immutable version of an SLO.  The objectives are in `sort_order`.
`sliDefinitionId`: the SLI version that the SLO is bound to. -/
structure SLODefinition where
  name : String
  version : Int
  totalScorePassThreshold : ℚ := 90
  totalScoreWarningThreshold : ℚ := 75
  comparison : StoredComparison := {}
  vars : Dict String := ∅
  active : Bool := true
  sliDefinitionId : Option (String × Int) := none
  generatedByGroupId : Option Nat := none
  objectives : KeyedTable SLOObjectiveRow.id

inductive SLIMode where
  | raw
  | aggregated
deriving DecidableEq, Repr

def SLIMode.name : SLIMode -> String
  | .raw => "raw"
  | .aggregated => "aggregated"

structure SLIDefinition where
  name : String
  version : Int
  comparableFromVersion : Int
  mode : SLIMode := .raw
  indicators : Dict String := ∅
  queryTemplate : Option String := none
  interval : Option String := none
  methods : Option (List String) := none

structure DataSource where
  name : String
  adapterUrl : String := ""
  token : Option String := none
deriving DecidableEq, Repr

structure Asset where
  id : Nat
  name : String
  tags : Dict String := ∅
  vars : Dict String := ∅

/-- The engine's view of a stored objective, as `build_slo_model` passes it on. -/
def SLOObjectiveRow.toModel (obj : SLOObjectiveRow) : SLOObjective :=
  { sli := obj.sli, displayName := obj.displayName, weight := obj.weight, keySli := obj.keySli,
    passThreshold := obj.passThreshold, warningThreshold := obj.warningThreshold }

def buildSloModel (sloDef : SLODefinition) : Except EngineError SLO :=
  buildSlo (sloDef.objectives.rows.map SLOObjectiveRow.toModel) sloDef.totalScorePassThreshold
    sloDef.totalScoreWarningThreshold sloDef.comparison

/-- `{objective.sli: objective.id for objective in slo_def.objectives}`: the last
objective of a metric wins. -/
def objectiveLookup (sloDef : SLODefinition) (metric : String) : Option SLOObjectiveRow :=
  sloDef.objectives.rows.reverse.find? fun obj => obj.sli = metric

/-- The values of a `status` column.  `partially`: the status `partial`. -/
inductive EvaluationStatus where
  | pending
  | running
  | completed
  | failed
  | partially
deriving DecidableEq, Repr

/-- The values of a `result` column. -/
inductive ResultValue where
  | pass
  | warning
  | fail
  | error
deriving DecidableEq, Repr

/-- `RESULT_RANK`. -/
def ResultValue.rank : ResultValue -> Nat
  | .pass => 0
  | .warning => 1
  | .fail => 2
  | .error => 3

def ResultValue.ofOutcome : EvaluationOutcome -> ResultValue
  | .pass => .pass
  | .warning => .warning
  | .fail => .fail

/-- The keys of the `job_stats` column. -/
structure JobStats where
  stuckJobRetries : Option Nat := none
  workerId : Option String := none
  error : Option String := none
  fetchErrors : Option (List (String × String)) := none
  totalScorePassThreshold : Option ℚ := none
  totalScoreWarningThreshold : Option ℚ := none
  comparedEvaluationIds : Option (List Nat) := none
  originalResult : Option ResultValue := none
  originalScore : Option ℚ := none
  reEvaluatedAt : Option Instant := none
  reEvalSloVersion : Option Int := none
deriving DecidableEq, Repr

/-- `old || new`: the keys of the right operand win. -/
def JobStats.merge (old new : JobStats) : JobStats where
  stuckJobRetries := new.stuckJobRetries.or old.stuckJobRetries
  workerId := new.workerId.or old.workerId
  error := new.error.or old.error
  fetchErrors := new.fetchErrors.or old.fetchErrors
  totalScorePassThreshold := new.totalScorePassThreshold.or old.totalScorePassThreshold
  totalScoreWarningThreshold := new.totalScoreWarningThreshold.or old.totalScoreWarningThreshold
  comparedEvaluationIds := new.comparedEvaluationIds.or old.comparedEvaluationIds
  originalResult := new.originalResult.or old.originalResult
  originalScore := new.originalScore.or old.originalScore
  reEvaluatedAt := new.reEvaluatedAt.or old.reEvaluatedAt
  reEvalSloVersion := new.reEvalSloVersion.or old.reEvalSloVersion

structure IndicatorTargets where
  pass : List CriteriaTarget
  warn : Option (List CriteriaTarget)
deriving DecidableEq, Repr

structure IndicatorResultRow where
  objective : SLOObjectiveRow
  value : Option ℚ
  comparedValue : Option ℚ
  changeAbsolute : Option ℚ
  changeRelativePct : Option ℚ
  status : IndicatorStatus
  score : ℚ
  targets : IndicatorTargets
deriving DecidableEq, Repr

/-- `slo_objective_id`, unique among the rows of one evaluation. -/
def IndicatorResultRow.sloObjectiveId (row : IndicatorResultRow) : Nat :=
  row.objective.id

abbrev IndicatorRows := KeyedTable IndicatorResultRow.sloObjectiveId

structure AssetSnapshot where
  name : Option String := none
  vars : Dict String := ∅
  tags : Dict String := ∅

structure SLOEvaluation where
  id : Nat
  evaluationId : Nat
  evaluationName : String
  assetId : Nat
  assetSnapshot : AssetSnapshot := {}
  periodStart : Instant
  periodEnd : Instant
  result : Option ResultValue := none
  score : Option ℚ := none
  achievedPoints : Option Int := none
  totalPoints : Option Int := none
  sloName : String
  sloVersion : Option Int := none
  sliName : Option String := none
  sliVersion : Option Int := none
  dataSourceName : Option String := none
  vars : Dict String := ∅
  invalidated : Bool := false
  baselinePinnedAt : Option Instant := none
  baselineUnpinnedAt : Option Instant := none
  originalResult : Option ResultValue := none
  overrideReason : Option String := none
  overrideAuthor : Option String := none
  status : EvaluationStatus := .pending
  startedAt : Option Instant := none
  jobStats : JobStats := {}
  indicatorRows : IndicatorRows := .empty

structure EvaluationRun where
  id : Nat
  assetId : Nat
  evalName : String
  compareTo : Option (Dict String) := none
  periodStart : Instant
  periodEnd : Instant
  status : EvaluationStatus := .pending
  result : Option ResultValue := none
  achievedPoints : Option Int := none
  totalPoints : Option Int := none

structure Database where
  evaluations : KeyedTable SLOEvaluation.id
  runs : KeyedTable EvaluationRun.id
  sloDefinitions : KeyedTable fun sloDef : SLODefinition => (sloDef.name, sloDef.version)
  sliDefinitions : KeyedTable fun sliDef : SLIDefinition => (sliDef.name, sliDef.version)
  dataSources : KeyedTable DataSource.name
  assets : KeyedTable Asset.id

/-- The row that `build_indicator_row_dicts` makes of one engine result, unless
the metric names no objective of the definition. -/
def buildIndicatorRow (sloDef : SLODefinition) (ir : IndicatorResult) : Option IndicatorResultRow :=
  (objectiveLookup sloDef ir.metric).map fun objective =>
    { objective, value := ir.value, comparedValue := ir.comparedValue,
      changeAbsolute := ir.changeAbsolute, changeRelativePct := ir.changeRelativePct,
      status := ir.status, score := ir.score,
      targets := { pass := ir.passTargets, warn := ir.warningTargets } }

def buildIndicatorRows (sloDef : SLODefinition) (indicatorResults : List IndicatorResult) :
    List IndicatorResultRow :=
  indicatorResults.filterMap (buildIndicatorRow sloDef)

/-- Insert rows one by one.  The unique constraint refuses a second row for an
objective, and the exception rolls the transaction back. -/
def bulkInsert (table : IndicatorRows) : List IndicatorResultRow -> Option IndicatorRows
  | [] => some table
  | row :: rest =>
      if fresh : table.find row.sloObjectiveId = none then bulkInsert (table.insert row fresh) rest
      else none

variable {rows : List IndicatorResultRow} {table : IndicatorRows} {objective : SLOObjectiveRow}
  {sloDef : SLODefinition} {indicatorResults : List IndicatorResult}

theorem bulkInsert_rows {result : IndicatorRows} (inserted : bulkInsert table rows = some result) :
    result.rows = table.rows ++ rows := by
  induction rows generalizing table with
  | nil =>
      cases inserted
      rw [List.append_nil]
  | cons row rest ih =>
      unfold bulkInsert at inserted
      by_cases fresh : table.find row.sloObjectiveId = none
      · rw [dif_pos fresh] at inserted
        rw [ih inserted]
        change (table.rows ++ [row]) ++ rest = table.rows ++ row :: rest
        rw [List.append_assoc]
        rfl
      · rw [dif_neg fresh] at inserted
        cases inserted

theorem bulkInsert_isSome (table : IndicatorRows) (rows : List IndicatorResultRow) :
    (bulkInsert table rows).isSome = true ↔
      ((table.rows ++ rows).map IndicatorResultRow.sloObjectiveId).Nodup := by
  induction rows generalizing table with
  | nil =>
      rw [List.append_nil]
      exact ⟨fun _ => table.nodup, fun _ => rfl⟩
  | cons row rest ih =>
      unfold bulkInsert
      by_cases fresh : table.find row.sloObjectiveId = none
      · rw [dif_pos fresh, ih]
        change (((table.rows ++ [row]) ++ rest).map _).Nodup ↔ _
        rw [List.append_assoc]
        rfl
      · rw [dif_neg fresh]
        constructor
        · intro impossible
          cases impossible
        · intro nodup
          rcases Option.ne_none_iff_exists'.mp fresh with ⟨other, found⟩
          rw [List.map_append, List.map_cons] at nodup
          have apart := (List.nodup_append.mp nodup).2.2 other.sloObjectiveId
            (List.mem_map_of_mem (find_mem found)) row.sloObjectiveId List.mem_cons_self
          exact absurd (find_key found) apart

theorem objectiveLookup_mem {metric : String}
    (found : objectiveLookup sloDef metric = some objective) :
    objective ∈ sloDef.objectives.rows ∧ objective.sli = metric := by
  unfold objectiveLookup at found
  have member := List.mem_of_find?_eq_some found
  have selected := List.find?_some found
  exact ⟨List.mem_reverse.mp member, of_decide_eq_true selected⟩

theorem objectiveLookup_isSome (member : objective ∈ sloDef.objectives.rows) :
    (objectiveLookup sloDef objective.sli).isSome = true := by
  unfold objectiveLookup
  rw [List.find?_isSome]
  exact ⟨objective, List.mem_reverse.mpr member, decide_eq_true rfl⟩

/-- The objectives that get an indicator row when every objective of the
definition is scored, in order. -/
def scoredObjectives (sloDef : SLODefinition) : List SLOObjectiveRow :=
  sloDef.objectives.rows.filterMap fun obj => objectiveLookup sloDef obj.sli

/-- Indicator results that name the objectives of the definition become rows for
the scored objectives. -/
theorem buildIndicatorRows_objectives
    (metrics : indicatorResults.map (·.metric) = sloDef.objectives.rows.map (·.sli)) :
    (buildIndicatorRows sloDef indicatorResults).map (·.objective) = scoredObjectives sloDef := by
  have looked : (buildIndicatorRows sloDef indicatorResults).map (·.objective) =
      (indicatorResults.map (·.metric)).filterMap (objectiveLookup sloDef) := by
    unfold buildIndicatorRows
    rw [List.map_filterMap, List.filterMap_map]
    refine List.filterMap_congr fun ir _ => ?_
    unfold buildIndicatorRow
    rw [Option.map_map]
    exact Option.map_id'
  rw [looked, metrics, List.filterMap_map]
  rfl

theorem scoredObjectives_ne_nil (nonempty : sloDef.objectives.rows ≠ []) :
    scoredObjectives sloDef ≠ [] := by
  rcases List.exists_mem_of_ne_nil _ nonempty with ⟨obj, member⟩
  rcases Option.isSome_iff_exists.mp (objectiveLookup_isSome member) with ⟨found, looked⟩
  have scored : found ∈ scoredObjectives sloDef := List.mem_filterMap.mpr ⟨obj, member, looked⟩
  intro empty
  rw [empty] at scored
  exact List.not_mem_nil scored

theorem scoredObjectives_metrics (sloDef : SLODefinition) :
    (scoredObjectives sloDef).map (·.sli) = sloDef.objectives.rows.map (·.sli) := by
  unfold scoredObjectives
  rw [List.map_filterMap, <- List.filterMap_eq_map]
  refine List.filterMap_congr fun objective member => ?_
  rcases Option.isSome_iff_exists.mp (objectiveLookup_isSome member) with ⟨found, same⟩
  simp only [same, Option.map_some, Function.comp_apply, (objectiveLookup_mem same).2]

def SLODefinition.DistinctMetrics (sloDef : SLODefinition) : Prop :=
  (sloDef.objectives.rows.map (·.sli)).Nodup

instance (sloDef : SLODefinition) : Decidable sloDef.DistinctMetrics :=
  inferInstanceAs (Decidable (sloDef.objectives.rows.map (·.sli)).Nodup)

theorem objectiveLookup_of_distinct (distinct : sloDef.DistinctMetrics)
    (member : objective ∈ sloDef.objectives.rows) :
    objectiveLookup sloDef objective.sli = some objective := by
  rcases Option.isSome_iff_exists.mp (objectiveLookup_isSome member) with ⟨found, looked⟩
  rcases objectiveLookup_mem looked with ⟨foundMember, sameMetric⟩
  rw [looked, List.inj_on_of_nodup_map distinct foundMember member sameMetric]

/-- The objectives that get a row are different ones exactly when they score
different metrics. -/
theorem scoredObjectives_nodup (sloDef : SLODefinition) :
    ((scoredObjectives sloDef).map (·.id)).Nodup ↔ sloDef.DistinctMetrics := by
  constructor
  · intro nodup
    have looked : (scoredObjectives sloDef).map (·.id) =
        (sloDef.objectives.rows.map (·.sli)).map
          fun metric => ((objectiveLookup sloDef metric).map (·.id)).getD 0 := by
      unfold scoredObjectives
      rw [List.map_filterMap, List.map_map, <- List.filterMap_eq_map]
      refine List.filterMap_congr fun objective member => ?_
      rcases Option.isSome_iff_exists.mp (objectiveLookup_isSome member) with ⟨found, same⟩
      simp only [same, Option.map_some, Function.comp_apply, Option.getD_some]
    rw [looked] at nodup
    exact List.Nodup.of_map _ nodup
  · intro distinct
    have all : scoredObjectives sloDef = sloDef.objectives.rows := by
      unfold scoredObjectives
      conv_rhs => rw [<- List.filterMap_some (l := sloDef.objectives.rows)]
      exact List.filterMap_congr fun objective member => objectiveLookup_of_distinct distinct member
    rw [all]
    exact sloDef.objectives.nodup

theorem bulkInsert_scored_isSome
    (metrics : indicatorResults.map (·.metric) = sloDef.objectives.rows.map (·.sli)) :
    (bulkInsert .empty (buildIndicatorRows sloDef indicatorResults)).isSome = true ↔
      sloDef.DistinctMetrics := by
  have sameIds : (((empty : IndicatorRows).rows ++
      buildIndicatorRows sloDef indicatorResults).map IndicatorResultRow.sloObjectiveId) =
        (scoredObjectives sloDef).map (·.id) := by
    rw [<- buildIndicatorRows_objectives metrics, List.map_map]
    rfl
  rw [bulkInsert_isSome, sameIds]
  exact scoredObjectives_nodup sloDef

theorem bulkInsert_again (nonempty : sloDef.objectives.rows ≠ [])
    (scored : rows.map (·.objective) = scoredObjectives sloDef)
    (before : table.rows.map (·.objective) = scoredObjectives sloDef) :
    bulkInsert table rows = none := by
  have some : rows ≠ [] := by
    intro empty
    rw [empty] at scored
    exact scoredObjectives_ne_nil nonempty scored.symm
  cases inserted : bulkInsert table rows with
  | none => rfl
  | some result =>
      have nodup := (bulkInsert_isSome table rows).mp (by rw [inserted]; rfl)
      have sameIds : rows.map IndicatorResultRow.sloObjectiveId =
          table.rows.map IndicatorResultRow.sloObjectiveId := by
        have mapped := congrArg (List.map SLOObjectiveRow.id) (scored.trans before.symm)
        rw [List.map_map, List.map_map] at mapped
        exact mapped
      rcases List.exists_mem_of_ne_nil _ some with ⟨row, member⟩
      have inRows : row.sloObjectiveId ∈ rows.map IndicatorResultRow.sloObjectiveId :=
        List.mem_map_of_mem member
      have inTable : row.sloObjectiveId ∈ table.rows.map IndicatorResultRow.sloObjectiveId :=
        sameIds ▸ inRows
      rw [List.map_append] at nodup
      exact absurd rfl ((List.nodup_append.mp nodup).2.2 _ inTable _ inRows)

end Store
end Tropek
