import Mathlib.Data.String.Basic
import Tropek.Worker.Transactions

namespace Tropek
namespace Worker

open Library Engine Store KeyedTable Fallible

/-!
# Triggers

A trigger evaluates every SLO that is assigned to an asset.  The run is created
before the SLOs are resolved, and an SLO that does not resolve is skipped, so that
the commit may hold fewer evaluations than there are assignments.  A batch is one
trigger after the other, each with a commit of its own.
-/

structure SLOAssignment where
  assetId : Option Nat := none
  assetGroupId : Option Nat := none
  sloDefinitionId : String × Int
  dataSourceName : String
deriving DecidableEq, Repr

structure SLOGroupAssignment where
  assetId : Option Nat := none
  assetGroupId : Option Nat := none
  sloGroupId : Nat
  dataSourceName : String
deriving DecidableEq, Repr

structure AssetGroupMember where
  assetGroupId : Nat
  assetId : Nat
deriving DecidableEq, Repr

structure Assignments where
  members : List AssetGroupMember := []
  sloAssignments : List SLOAssignment := []
  groupAssignments : List SLOGroupAssignment := []
  activeSloGroups : List Nat := []

structure ResolvedAssignment where
  sloName : String
  sloDefinitionId : String × Int
  dataSourceName : String
deriving DecidableEq, Repr

def listGroupIdsForAsset (assignments : Assignments) (assetId : Nat) : List Nat :=
  (assignments.members.filter fun member => member.assetId = assetId).map (·.assetGroupId)

def directAssignments (db : Database) (rows : List SLOAssignment) : List ResolvedAssignment :=
  rows.filterMap fun row =>
    (db.sloDefinitions.find row.sloDefinitionId).map fun sloDef =>
      { sloName := sloDef.name, sloDefinitionId := row.sloDefinitionId,
        dataSourceName := row.dataSourceName }

def templateAssignments (db : Database) (activeSloGroups : List Nat)
    (rows : List SLOGroupAssignment) : List ResolvedAssignment :=
  (rows.filter fun row => activeSloGroups.contains row.sloGroupId).flatMap fun row =>
    (db.sloDefinitions.rows.filter fun sloDef =>
      sloDef.generatedByGroupId = some row.sloGroupId && sloDef.active).map fun sloDef =>
        { sloName := sloDef.name, sloDefinitionId := (sloDef.name, sloDef.version),
          dataSourceName := row.dataSourceName }

def allAssignments (db : Database) (assignments : Assignments) (assetId : Nat)
    (groupIds : List Nat) : List ResolvedAssignment :=
  directAssignments db (assignments.sloAssignments.filter (·.assetId = some assetId)) ++
    directAssignments db
      (assignments.sloAssignments.filter (·.assetGroupId.any groupIds.contains)) ++
    templateAssignments db assignments.activeSloGroups
      (assignments.groupAssignments.filter (·.assetId = some assetId)) ++
    templateAssignments db assignments.activeSloGroups
      (assignments.groupAssignments.filter (·.assetGroupId.any groupIds.contains))

/-- `DISTINCT ON (slo_name)`: the first assignment of each SLO name. -/
def distinctOnName : List ResolvedAssignment -> List ResolvedAssignment
  | [] => []
  | resolved :: rest =>
      resolved :: (distinctOnName rest).filter (·.sloName ≠ resolved.sloName)

def resolveForAsset (db : Database) (assignments : Assignments) (assetId : Nat)
    (groupIds : List Nat) : List ResolvedAssignment :=
  (distinctOnName (allAssignments db assignments assetId groupIds)).insertionSort
    (·.sloName ≤ ·.sloName)

def findForAsset (db : Database) (assignments : Assignments) (assetId : Nat)
    (groupIds : List Nat) (sloName : String) : Option ResolvedAssignment :=
  (resolveForAsset db assignments assetId groupIds).find? (·.sloName = sloName)

/-- Why an assignment does not resolve; the texts are those of the exceptions.
`noAssignment`: `no assignment for asset .., and with slo ...`; `sloNotFound`: `slo
definition .., and not found`; `noSliLinked`: `no sli linked to slo ...`; `sliNotFound`:
`sli definition for slo .., and not found`. -/
inductive ResolveError where
  | assetNotFound (name : String)
  | noAssignment (assetName sloName : String)
  | sloNotFound (sloDefinitionId : String × Int)
  | noSliLinked (sloName : String)
  | sliNotFound (sloName : String)
  | dataSourceNotFound (name : String)
deriving DecidableEq, Repr

def findAsset (db : Database) (name : String) : Option Asset :=
  db.assets.rows.find? (·.name = name)

def resolveReferences (db : Database) (asset : Asset) (resolved : ResolvedAssignment) :
    Except ResolveError TriggerContext := do
  let sloDef <- orRaise (.sloNotFound resolved.sloDefinitionId)
    (db.sloDefinitions.find resolved.sloDefinitionId)
  let sliDefinitionId <- orRaise (.noSliLinked sloDef.name) sloDef.sliDefinitionId
  let sliDef <- orRaise (.sliNotFound sloDef.name) (db.sliDefinitions.find sliDefinitionId)
  let ds <- orRaise (.dataSourceNotFound resolved.dataSourceName)
    (db.dataSources.find resolved.dataSourceName)
  return {
    assetSnapshot := { name := some asset.name, vars := asset.vars, tags := asset.tags }
    assetId := asset.id
    sloName := sloDef.name
    sloVersion := sloDef.version
    sliName := sliDef.name
    sliVersion := sliDef.version
    dataSourceName := ds.name }

def resolveSingleTrigger (db : Database) (assignments : Assignments) (assetName sloName : String)
    (groupIds : List Nat) : Except ResolveError TriggerContext := do
  let asset <- orRaise (.assetNotFound assetName) (findAsset db assetName)
  let resolved <- orRaise (.noAssignment assetName sloName)
    (findForAsset db assignments asset.id groupIds sloName)
  resolveReferences db asset resolved

def resolveAllSlosForAsset (db : Database) (assignments : Assignments) (assetId : Nat)
    (groupIds : List Nat) : List String :=
  ((resolveForAsset db assignments assetId groupIds).map (·.sloName)).insertionSort (· ≤ ·)

structure EvaluateSingleRequest where
  assetName : String
  evalName : String
  periodStart : Instant
  periodEnd : Instant
  vars : Dict String := ∅
  compareTo : Option (Dict String) := none

/-- How a trigger request fails.  `noAssignments`: `no slo assignments found for asset
...`; `conflict`: a duplicate evaluation; `invalidBatch`: a batch request that lacks the
fields of its mode. -/
inductive TriggerError where
  | assetNotFound (name : String)
  | noAssignments (assetName : String)
  | conflict
  | invalidBatch (message : String)
deriving DecidableEq, Repr

/-- The SLOs that resolve, each with a new identifier; the others are skipped. -/
def resolvedContexts (db : Database) (assignments : Assignments) (assetName : String)
    (groupIds : List Nat) (sloNames : List String) (newId : Nat -> Nat) :
    List (Nat × TriggerContext) :=
  let contexts := sloNames.filterMap fun sloName =>
    (resolveSingleTrigger db assignments assetName sloName groupIds).toOption
  contexts.zipIdx.map fun entry => (newId entry.2, entry.1)

/-- `trigger_evaluate` up to its commit, with the identifiers of its new rows. -/
def triggerEvaluate (db : Database) (assignments : Assignments) (request : EvaluateSingleRequest)
    (runId : Nat) (newId : Nat -> Nat) : Except TriggerError (Database × List Nat) := do
  let asset <- orRaise (.assetNotFound request.assetName) (findAsset db request.assetName)
  let groupIds := listGroupIdsForAsset assignments asset.id
  let sloNames := resolveAllSlosForAsset db assignments asset.id groupIds
  if sloNames = [] then .error (.noAssignments request.assetName)
  else
    let contexts := resolvedContexts db assignments request.assetName groupIds sloNames newId
    let next <- orRaise .conflict (triggerCommit
      { runId, assetId := asset.id, evalName := request.evalName,
        periodStart := request.periodStart, periodEnd := request.periodEnd, vars := request.vars,
        compareTo := request.compareTo, contexts } db)
    return (next, contexts.map Prod.fst)

structure EvaluateBatchRequest where
  mode : String
  evalName : String
  assetName : Option String := none
  periods : List (Instant × Instant) := []
  assetNames : List String := []
  periodStart : Option Instant := none
  periodEnd : Option Instant := none
  vars : Dict String := ∅
  compareTo : Option (Dict String) := none

def batchPairs (request : EvaluateBatchRequest) :
    Except TriggerError (List (String × Instant × Instant)) :=
  match request.mode with
  | "by_date" =>
      match request.assetName.filter (· ≠ ""), request.periods with
      | some name, first :: rest => .ok ((first :: rest).map fun period => (name, period.1, period.2))
      | _, _ => .error (.invalidBatch "by_date mode requires asset_name and periods")
  | "by_asset" =>
      match request.assetNames, request.periodStart, request.periodEnd with
      | first :: rest, some periodStart, some periodEnd =>
          .ok ((first :: rest).map fun name => (name, periodStart, periodEnd))
      | _, _, _ =>
          .error (.invalidBatch "by_asset mode requires asset_names, period_start, period_end")
  | mode => .error (.invalidBatch s!"unknown batch mode '{mode}'")

def batchRequests (request : EvaluateBatchRequest) :
    Except TriggerError (List EvaluateSingleRequest) := do
  let pairs <- batchPairs request
  return pairs.map fun (assetName, periodStart, periodEnd) =>
    { assetName, evalName := request.evalName, periodStart, periodEnd, vars := request.vars,
      compareTo := request.compareTo }

variable {resolved : ResolvedAssignment} {db next : Database} {groupIds : List Nat}
  {assignments : Assignments} {asset : Asset} {newId : Nat -> Nat} {params : EvalCreateParams}
  {request : TriggerRequest} {contexts : List (Nat × TriggerContext)}

theorem mem_distinctOnName {rows : List ResolvedAssignment}
    (member : resolved ∈ distinctOnName rows) : resolved ∈ rows := by
  induction rows with
  | nil => exact member
  | cons head rest ih =>
      rcases List.mem_cons.mp member with same | later
      · exact List.mem_cons.mpr (Or.inl same)
      · exact List.mem_cons_of_mem _ (ih (List.mem_filter.mp later).1)

theorem distinctOnName_nodup (rows : List ResolvedAssignment) :
    ((distinctOnName rows).map (·.sloName)).Nodup := by
  induction rows with
  | nil => exact List.nodup_nil
  | cons head rest ih =>
      unfold distinctOnName
      rw [List.map_cons, List.nodup_cons]
      constructor
      · intro repeated
        rcases List.mem_map.mp repeated with ⟨other, member, same⟩
        have different := (List.mem_filter.mp member).2
        rw [decide_eq_true_eq] at different
        exact different same
      · exact (List.filter_sublist.map _).nodup ih

/-- The winning assignments belong to different SLOs, so each is found by the name
of its SLO. -/
theorem findForAsset_of_mem {assetId : Nat}
    (member : resolved ∈ resolveForAsset db assignments assetId groupIds) :
    findForAsset db assignments assetId groupIds resolved.sloName = some resolved := by
  have nodup : ((resolveForAsset db assignments assetId groupIds).map (·.sloName)).Nodup := by
    unfold resolveForAsset
    exact ((List.perm_insertionSort _ _).map _).nodup_iff.mpr (distinctOnName_nodup _)
  unfold findForAsset
  have found : ((resolveForAsset db assignments assetId groupIds).find?
      fun other => other.sloName = resolved.sloName).isSome = true :=
    List.find?_isSome.mpr ⟨resolved, member, decide_eq_true rfl⟩
  rcases Option.isSome_iff_exists.mp found with ⟨other, isOther⟩
  have sameName := List.find?_some isOther
  rw [decide_eq_true_eq] at sameName
  rw [isOther, List.inj_on_of_nodup_map nodup (List.mem_of_find?_eq_some isOther) member sameName]

/-- The version is bound to an SLI, and that SLI and the data source are there. -/
def ResolvedAssignment.Resolves (db : Database) (resolved : ResolvedAssignment) : Prop :=
  Exists fun sloDef => Exists fun sliDefinitionId =>
    db.sloDefinitions.find resolved.sloDefinitionId = some sloDef ∧
      sloDef.sliDefinitionId = some sliDefinitionId ∧
      (db.sliDefinitions.find sliDefinitionId).isSome = true ∧
      (db.dataSources.find resolved.dataSourceName).isSome = true

theorem resolveReferences_isOk (db : Database) (asset : Asset) (resolved : ResolvedAssignment) :
    (resolveReferences db asset resolved).isOk = true ↔ resolved.Resolves db := by
  unfold resolveReferences ResolvedAssignment.Resolves
  simp only [bind_isOk, orRaise_eq_ok]
  constructor
  · rintro ⟨sloDef, slo, sliDefinitionId, bound, sliDef, sli, ds, source, _⟩
    exact ⟨sloDef, sliDefinitionId, slo, bound, Option.isSome_iff_exists.mpr ⟨sliDef, sli⟩,
      Option.isSome_iff_exists.mpr ⟨ds, source⟩⟩
  · rintro ⟨sloDef, sliDefinitionId, slo, bound, sli, source⟩
    rcases Option.isSome_iff_exists.mp sli with ⟨sliDef, sli⟩
    rcases Option.isSome_iff_exists.mp source with ⟨ds, source⟩
    exact ⟨sloDef, slo, sliDefinitionId, bound, sliDef, sli, ds, source, rfl⟩

def SomeResolves (db : Database) (assignments : Assignments) (request : EvaluateSingleRequest) :
    Prop :=
  Exists fun asset => findAsset db request.assetName = some asset ∧
    Exists fun resolved =>
      resolved ∈ resolveForAsset db assignments asset.id
        (listGroupIdsForAsset assignments asset.id) ∧ resolved.Resolves db

theorem findAsset_name {name : String} (found : findAsset db name = some asset) :
    asset.name = name := by
  have selected := List.find?_some found
  rw [decide_eq_true_eq] at selected
  exact selected

theorem resolveSingleTrigger_isOk {assetName sloName : String}
    (found : findAsset db assetName = some asset) :
    (resolveSingleTrigger db assignments assetName sloName groupIds).isOk = true ↔
      Exists fun resolved =>
        findForAsset db assignments asset.id groupIds sloName = some resolved ∧
          resolved.Resolves db := by
  unfold resolveSingleTrigger
  simp only [bind_isOk, orRaise_eq_ok, found, resolveReferences_isOk]
  constructor
  · rintro ⟨_, same, resolved, winning, resolves⟩
    cases same
    exact ⟨resolved, winning, resolves⟩
  · rintro ⟨resolved, winning, resolves⟩
    exact ⟨asset, rfl, resolved, winning, resolves⟩

theorem resolvedContexts_eq_nil {assetName : String} {sloNames : List String} :
    resolvedContexts db assignments assetName groupIds sloNames newId = [] ↔
      forall sloName, sloName ∈ sloNames ->
        (resolveSingleTrigger db assignments assetName sloName groupIds).isOk = false := by
  unfold resolvedContexts
  rw [List.map_eq_nil_iff, List.zipIdx_eq_nil_iff, List.filterMap_eq_nil_iff]
  refine forall_congr' fun sloName => imp_congr_right fun _ => ?_
  cases resolveSingleTrigger db assignments assetName sloName groupIds with
  | error failure => exact ⟨fun _ => rfl, fun _ => rfl⟩
  | ok ctx =>
      constructor
      · intro impossible
        cases impossible
      · intro impossible
        cases impossible

theorem contexts_ne_nil_iff {request : EvaluateSingleRequest}
    (found : findAsset db request.assetName = some asset) :
    resolvedContexts db assignments request.assetName (listGroupIdsForAsset assignments asset.id)
        (resolveAllSlosForAsset db assignments asset.id (listGroupIdsForAsset assignments asset.id))
        newId ≠ [] ↔ SomeResolves db assignments request := by
  rw [Ne, resolvedContexts_eq_nil]
  simp only [not_forall, Bool.not_eq_false, exists_prop, resolveSingleTrigger_isOk found]
  constructor
  · rintro ⟨sloName, _, resolved, winning, resolves⟩
    exact ⟨asset, found, resolved, List.mem_of_find?_eq_some winning, resolves⟩
  · rintro ⟨other, sameAsset, resolved, member, resolves⟩
    cases Option.some.inj (found.symm.trans sameAsset)
    refine ⟨resolved.sloName, ?_, resolved, findForAsset_of_mem member, resolves⟩
    unfold resolveAllSlosForAsset
    rw [List.mem_insertionSort]
    exact List.mem_map_of_mem member

/-- A trigger inserts its run, and one pending evaluation of the run for each SLO
that resolved. -/
structure TriggerCommitted (db next : Database) (request : TriggerRequest) : Prop where
  fresh : db.runs.find request.runId = none
  runs : Exists fun run : EvaluationRun => run.id = request.runId ∧ run.status = .pending ∧
    next.runs.rows = db.runs.rows ++ [run]
  evaluations : Exists fun created : List SLOEvaluation =>
    next.evaluations.rows = db.evaluations.rows ++ created ∧
      created.length = request.contexts.length ∧
      forall row, row ∈ created -> row.evaluationId = request.runId ∧ row.status = .pending
  definitions : next.sloDefinitions = db.sloDefinitions ∧ next.sliDefinitions = db.sliDefinitions ∧
    next.dataSources = db.dataSources ∧ next.assets = db.assets

theorem createPending_tables {id : Nat} (known : db.runs.find params.evaluationId ≠ none)
    (created : createPending db params id = some next) :
    next.runs = db.runs ∧ next.assets = db.assets := by
  unfold createPending at created
  dsimp only at created
  split at created
  · cases created
  · split at created
    · cases created
      exact ⟨rfl, rfl⟩
    · cases created

theorem createAll_committed (known : db.runs.find request.runId ≠ none)
    (created : createAll request db contexts = some next) :
    next.runs = db.runs ∧
      (Exists fun rows : List SLOEvaluation =>
        next.evaluations.rows = db.evaluations.rows ++ rows ∧ rows.length = contexts.length ∧
          forall row, row ∈ rows -> row.evaluationId = request.runId ∧ row.status = .pending) ∧
      next.sloDefinitions = db.sloDefinitions ∧ next.sliDefinitions = db.sliDefinitions ∧
      next.dataSources = db.dataSources ∧ next.assets = db.assets := by
  induction contexts generalizing db with
  | nil =>
      cases created
      refine ⟨rfl, ⟨[], (List.append_nil _).symm, rfl, ?_⟩, rfl, rfl, rfl, rfl⟩
      exact fun row impossible => absurd impossible List.not_mem_nil
  | cons entry rest ih =>
      rcases entry with ⟨id, ctx⟩
      rcases createAll_cons created with ⟨middle, first, created⟩
      have tables := createPending_tables known first
      have rows := createPending_rows first
      have definitions := (createPending_eq_some first).2.2
      have stillKnown : middle.runs.find request.runId ≠ none := by
        rw [tables.1]
        exact known
      rcases ih stillKnown created with
        ⟨runs, ⟨others, appended, length, each⟩, slo, sli, ds, assets⟩
      refine ⟨runs.trans tables.1,
        ⟨pendingEvaluation (request.params ctx) (assetTagsOf db ctx.assetId) id :: others,
          ?_, ?_, ?_⟩, slo.trans definitions.1,
        sli.trans definitions.2.1, ds.trans definitions.2.2, assets.trans tables.2⟩
      · rw [appended, rows, List.append_assoc]
        rfl
      · rw [List.length_cons, List.length_cons, length]
      · rw [List.forall_mem_cons]
        exact ⟨⟨rfl, rfl⟩, each⟩

theorem triggerCommit_committed (committed : triggerCommit request db = some next) :
    TriggerCommitted db next request := by
  unfold triggerCommit at committed
  split at committed
  · rename_i fresh
    have inserted := createAll_committed ?_ committed
    · rcases inserted with ⟨runs, evaluations, definitions⟩
      let run : EvaluationRun :=
        { id := request.runId, assetId := request.assetId, evalName := request.evalName,
          compareTo := request.compareTo, periodStart := request.periodStart,
          periodEnd := request.periodEnd, status := .pending }
      exact ⟨fresh, ⟨run, rfl, rfl, congrArg rows runs⟩, evaluations, definitions⟩
    · dsimp only
      rw [find_insert, if_pos rfl]
      exact Option.some_ne_none _
  · cases committed

theorem createPending_identity {id : Nat} (created : createPending db params id = some next)
    {other : SLOEvaluation} (stored : other ∈ db.evaluations.rows)
    (notFailed : other.status ≠ .failed) :
    other.identity ≠ (pendingEvaluation params (assetTagsOf db params.assetId) id).identity := by
  unfold createPending at created
  dsimp only at created
  split at created
  · cases created
  · rename_i free
    intro same
    apply free
    exact List.any_eq_true.mpr ⟨other, stored, by simp [notFailed, same]⟩

theorem createAll_identities (created : createAll request db contexts = some next)
    {rows : List SLOEvaluation} (appended : next.evaluations.rows = db.evaluations.rows ++ rows) :
    (rows.map SLOEvaluation.identity).Nodup ∧
      forall row, row ∈ rows -> forall other, other ∈ db.evaluations.rows ->
        other.status ≠ .failed -> other.identity ≠ row.identity := by
  induction contexts generalizing db rows with
  | nil =>
      cases created
      have none : rows = [] := List.self_eq_append_right.mp appended
      rw [none]
      exact ⟨List.nodup_nil, fun row impossible => absurd impossible List.not_mem_nil⟩
  | cons entry rest ih =>
      rcases entry with ⟨id, ctx⟩
      rcases createAll_cons created with ⟨middle, first, created⟩
      have single := createPending_rows first
      rcases createAll_rows created with ⟨others, grown, _⟩
      have split : rows =
          pendingEvaluation (request.params ctx) (assetTagsOf db ctx.assetId) id :: others := by
        rw [grown, single, List.append_assoc] at appended
        exact (List.append_cancel_left appended).symm
      rcases ih created grown with ⟨nodup, distinct⟩
      rw [single] at distinct
      subst split
      constructor
      · rw [List.map_cons, List.nodup_cons]
        refine ⟨fun repeated => ?_, nodup⟩
        rcases List.mem_map.mp repeated with ⟨row, member, same⟩
        exact distinct row member _ (List.mem_append_right _ List.mem_cons_self)
          (by simp [pendingEvaluation]) same.symm
      · rw [List.forall_mem_cons]
        refine ⟨fun other stored notFailed => createPending_identity first stored notFailed, ?_⟩
        exact fun row member other stored =>
          distinct row member other (List.mem_append_left _ stored)

def TriggerRequest.OnAsset (request : TriggerRequest) : Prop :=
  forall entry, entry ∈ request.contexts -> entry.2.assetId = request.assetId

instance (request : TriggerRequest) : Decidable request.OnAsset :=
  List.decidableBAll _ _

theorem triggerCommit_slos (onAsset : request.OnAsset)
    (committed : triggerCommit request db = some next) :
    Exists fun created : List SLOEvaluation =>
      next.evaluations.rows = db.evaluations.rows ++ created ∧
        (forall row, row ∈ created -> row.evaluationId = request.runId ∧ row.status = .pending) ∧
        (created.map (·.sloName)).Nodup := by
  rcases (triggerCommit_committed committed).evaluations with ⟨created, appended, _, each⟩
  refine ⟨created, appended, each, ?_⟩
  unfold triggerCommit at committed
  split at committed
  · rcases createAll_rows committed with ⟨rows, grown, origin⟩
    have same : rows = created := List.append_cancel_left (grown.symm.trans appended)
    subst same
    have nodup := (createAll_identities committed grown).1
    have identities : rows.map SLOEvaluation.identity = (rows.map (·.sloName)).map fun sloName =>
        (request.assetId, sloName, request.evalName, request.periodStart, request.periodEnd) := by
      rw [List.map_map]
      refine List.map_congr_left fun row member => ?_
      rcases origin row member with ⟨ctx, assetTags, listed, isRow⟩
      rw [isRow]
      change (ctx.assetId, _) = _
      rw [onAsset _ listed]
      rfl
    rw [identities] at nodup
    exact List.Nodup.of_map _ nodup
  · cases committed

theorem triggerCommit_childless (conflict : triggerCommit request db = none)
    (fresh : db.runs.find request.runId = none) : request.contexts ≠ [] := by
  intro childless
  unfold triggerCommit at conflict
  rw [dif_pos fresh, childless] at conflict
  cases conflict

def EvaluateSingleRequest.resolve (request : EvaluateSingleRequest) (db : Database)
    (assignments : Assignments) (asset : Asset) (runId : Nat) (newId : Nat -> Nat) :
    TriggerRequest :=
  { runId, assetId := asset.id, evalName := request.evalName, periodStart := request.periodStart,
    periodEnd := request.periodEnd, vars := request.vars, compareTo := request.compareTo,
    contexts := resolvedContexts db assignments request.assetName
      (listGroupIdsForAsset assignments asset.id)
      (resolveAllSlosForAsset db assignments asset.id (listGroupIdsForAsset assignments asset.id))
      newId }

section

variable {request : EvaluateSingleRequest} {runId : Nat} {ids : List Nat}
  (triggered : triggerEvaluate db assignments request runId newId = .ok (next, ids))

include triggered

theorem triggerEvaluate_commits :
    Exists fun asset => findAsset db request.assetName = some asset ∧
      resolveAllSlosForAsset db assignments asset.id
        (listGroupIdsForAsset assignments asset.id) ≠ [] ∧
      triggerCommit (request.resolve db assignments asset runId newId) db = some next ∧
      ids = (request.resolve db assignments asset runId newId).contexts.map Prod.fst := by
  rcases bind_eq_ok.mp triggered with ⟨asset, found, triggered⟩
  dsimp only at triggered
  split at triggered
  · cases triggered
  · rename_i assigned
    rcases bind_eq_ok.mp triggered with ⟨committed, commit, same⟩
    cases same
    exact ⟨asset, orRaise_eq_ok.mp found, assigned,
      orRaise_eq_ok.mp commit, rfl⟩

theorem triggerEvaluate_eq_ok :
    Exists fun asset => Exists fun resolved : TriggerRequest =>
      findAsset db request.assetName = some asset ∧ resolved.runId = runId ∧
        resolved.contexts = resolvedContexts db assignments request.assetName
          (listGroupIdsForAsset assignments asset.id)
          (resolveAllSlosForAsset db assignments asset.id
            (listGroupIdsForAsset assignments asset.id)) newId ∧
        TriggerCommitted db next resolved ∧
        resolveAllSlosForAsset db assignments asset.id
          (listGroupIdsForAsset assignments asset.id) ≠ [] := by
  rcases triggerEvaluate_commits triggered with ⟨asset, found, assigned, commit, _⟩
  exact ⟨asset, _, found, rfl, rfl, triggerCommit_committed commit, assigned⟩

end

end Worker
end Tropek
