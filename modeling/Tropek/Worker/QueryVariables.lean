import Tropek.Worker.Transactions
import Tropek.Worker.Trigger

namespace Tropek
namespace Worker

open Library Engine Store TransitionSystem KeyedTable Fallible

/-!
# Query variables from the trigger to the worker

The variables of an evaluation are merged twice.  The trigger stores the
variables of the request in the row, with the tags of the asset as defaults, and
the worker later puts the stored variables above every other source.  A tag of the
asset is among the stored variables by then, so that it comes before the SLO, the
reserved variables and the variables of the asset, while the documentation gives
tags the lowest priority.

The main result says exactly for which names the two orders agree.
-/

def declaredValue (request : EvaluateSingleRequest) (sloDef : SLODefinition) (asset : Asset)
    (name : String) : Option String :=
  (sloDef.vars.lookup name).or
    (((reservedVariables (some asset.name) request.evalName (isoformat request.periodStart)
      (isoformat request.periodEnd)).lookup name).or (asset.vars.lookup name))

def documentedValue (request : EvaluateSingleRequest) (sloDef : SLODefinition) (asset : Asset)
    (name : String) : Option String :=
  (request.vars.lookup name).or
    ((declaredValue request sloDef asset name).or (asset.tags.lookup name))

/-- A tag of the asset that the request does not set is declared nowhere else with
another value. -/
def TagAgrees (request : EvaluateSingleRequest) (sloDef : SLODefinition) (asset : Asset)
    (name : String) : Prop :=
  forall tag value, asset.tags.lookup name = some tag -> request.vars.lookup name = none ->
    declaredValue request sloDef asset name = some value -> value = tag

/-- A default that is taken before the declared sources is harmless exactly when it
repeats the declared value. -/
theorem default_first_iff (own default declared : Option String) :
    (own.or default).or (declared.or default) = own.or (declared.or default) ↔
      forall tag value, default = some tag -> own = none -> declared = some value ->
        value = tag := by
  cases own with
  | some chosen =>
      exact ⟨fun _ _ _ _ absent => absurd absent (Option.some_ne_none chosen), fun _ => rfl⟩
  | none =>
      cases default with
      | none => exact ⟨fun _ _ _ impossible => absurd impossible.symm (Option.some_ne_none _),
          fun _ => rfl⟩
      | some tag =>
          cases declared with
          | none =>
              exact ⟨fun _ _ _ _ _ impossible => absurd impossible.symm (Option.some_ne_none _),
                fun _ => rfl⟩
          | some value =>
              change some tag = some value ↔ _
              constructor
              · intro same other chosen isTag _ isValue
                rw [<- Option.some.inj isTag, <- Option.some.inj isValue]
                exact (Option.some.inj same).symm
              · intro agrees
                rw [agrees tag value rfl rfl rfl]

structure SameInputs (first second : SLOEvaluation) : Prop where
  evaluationName : second.evaluationName = first.evaluationName
  periodStart : second.periodStart = first.periodStart
  periodEnd : second.periodEnd = first.periodEnd
  assetSnapshot : second.assetSnapshot = first.assetSnapshot
  stored : second.vars = first.vars

theorem SameInputs.snapshotVariables {first second : SLOEvaluation}
    (same : SameInputs first second) (before after : Database) (sloDef : SLODefinition) :
    snapshotVariables (snapshotOf after second) sloDef =
      snapshotVariables (snapshotOf before first) sloDef := by
  rcases same with ⟨evaluationName, periodStart, periodEnd, assetSnapshot, stored⟩
  unfold Worker.snapshotVariables snapshotOf
  simp only [evaluationName, periodStart, periodEnd, assetSnapshot, stored]

theorem rowAfter_inputs (write : Option Write) (row : SLOEvaluation) :
    SameInputs row (rowAfter write row) := by
  rcases rowAfter_cases write row with same | ⟨target, _, _, same⟩
  · rw [same]
    exact ⟨rfl, rfl, rfl, rfl, rfl⟩
  · rw [same]
    cases target.change with
    | running now workerId => exact ⟨rfl, rfl, rfl, rfl, rfl⟩
    | failed jobStats => exact ⟨rfl, rfl, rfl, rfl, rfl⟩
    | requeued stuckJobRetries => exact ⟨rfl, rfl, rfl, rfl, rfl⟩
    | completed values indicatorRows => cases indicatorRows <;> exact ⟨rfl, rfl, rfl, rfl, rfl⟩

theorem SameInputs.trans {first second third : SLOEvaluation} (before : SameInputs first second)
    (after : SameInputs second third) : SameInputs first third :=
  ⟨after.evaluationName.trans before.evaluationName, after.periodStart.trans before.periodStart,
    after.periodEnd.trans before.periodEnd, after.assetSnapshot.trans before.assetSnapshot,
    after.stored.trans before.stored⟩

def StoresInputs (id : Nat) (row : SLOEvaluation) (w : World) : Prop :=
  Exists fun later => w.db.evaluations.find id = some later ∧ SameInputs row later

variable {id : Nat} {db next : Database} {request : TriggerRequest} {asset : Asset}
  {ctx : TriggerContext} {assignments : Assignments}

theorem exec_inputs {settings : Settings} {start final : World} {actions : List Action}
    {row : SLOEvaluation} (found : start.db.evaluations.find id = some row)
    (ran : exec (step settings) start actions = some final) : StoresInputs id row final := by
  have preserves : forall (w : World) (action : Action) (next : World),
      StoresInputs id row w -> step settings w action = some next -> StoresInputs id row next := by
    intro w action next holds stepped
    rcases holds with ⟨later, stored, same⟩
    exact ⟨_, step_find stepped stored, same.trans (rowAfter_inputs _ later)⟩
  exact exec_preserves preserves ⟨row, found, rfl, rfl, rfl, rfl, rfl⟩ ran

/-- Each identifier of a request gets the row of its context, with the tags that the
asset had before the commit. -/
theorem createAll_find {contexts : List (Nat × TriggerContext)}
    (known : db.runs.find request.runId ≠ none)
    (created : createAll request db contexts = some next) (member : id ∈ contexts.map Prod.fst) :
    Exists fun ctx => (id, ctx) ∈ contexts ∧
      next.evaluations.find id =
        some (pendingEvaluation (request.params ctx) (assetTagsOf db ctx.assetId) id) := by
  induction contexts generalizing db with
  | nil => exact absurd member List.not_mem_nil
  | cons entry rest ih =>
      rcases entry with ⟨newId, ctx⟩
      rcases createAll_cons created with ⟨middle, first, created⟩
      have tables := createPending_tables known first
      rcases List.mem_cons.mp member with same | later
      · refine ⟨ctx, same ▸ List.mem_cons_self, ?_⟩
        apply (createAll_eq_some created).1
        rw [(createPending_eq_some first).2.1, if_pos same, same]
        rfl
      · have stillKnown : middle.runs.find request.runId ≠ none := by
          rw [tables.1]
          exact known
        rcases ih stillKnown created later with ⟨other, inRest, found⟩
        refine ⟨other, List.mem_cons_of_mem _ inRest, ?_⟩
        rw [found]
        unfold assetTagsOf
        rw [tables.2]

theorem triggerCommit_find (committed : triggerCommit request db = some next)
    (member : id ∈ request.contexts.map Prod.fst) :
    Exists fun ctx => (id, ctx) ∈ request.contexts ∧
      next.evaluations.find id =
        some (pendingEvaluation (request.params ctx) (assetTagsOf db ctx.assetId) id) := by
  unfold triggerCommit at committed
  split at committed
  · apply createAll_find ?_ committed member
    dsimp only
    rw [find_insert, if_pos rfl]
    exact Option.some_ne_none _
  · cases committed

theorem resolveSingleTrigger_asset {assetName sloName : String} {groupIds : List Nat}
    (found : findAsset db assetName = some asset)
    (resolves : resolveSingleTrigger db assignments assetName sloName groupIds = .ok ctx) :
    ctx.assetSnapshot = { name := some asset.name, vars := asset.vars, tags := asset.tags } ∧
      ctx.assetId = asset.id := by
  rcases bind_eq_ok.mp resolves with ⟨other, otherFound, resolves⟩
  cases Option.some.inj (found.symm.trans (orRaise_eq_ok.mp otherFound))
  rcases bind_eq_ok.mp resolves with ⟨_, _, resolves⟩
  rcases bind_eq_ok.mp resolves with ⟨_, _, resolves⟩
  rcases bind_eq_ok.mp resolves with ⟨_, _, resolves⟩
  rcases bind_eq_ok.mp resolves with ⟨_, _, resolves⟩
  rcases bind_eq_ok.mp resolves with ⟨_, _, same⟩
  cases same
  exact ⟨rfl, rfl⟩

theorem resolvedContexts_asset {assetName : String} {groupIds : List Nat} {sloNames : List String}
    {newId : Nat -> Nat} (found : findAsset db assetName = some asset)
    (member : (id, ctx) ∈ resolvedContexts db assignments assetName groupIds sloNames newId) :
    ctx.assetSnapshot = { name := some asset.name, vars := asset.vars, tags := asset.tags } ∧
      ctx.assetId = asset.id := by
  rcases List.mem_map.mp member with ⟨position, inContexts, same⟩
  rcases List.mem_filterMap.mp (List.fst_mem_of_mem_zipIdx inContexts) with ⟨sloName, _, resolves⟩
  have isCtx : position.1 = ctx := congrArg Prod.snd same
  exact resolveSingleTrigger_asset found (isCtx ▸ toOption_eq_some.mp resolves)

theorem assetTagsOf_findAsset {name : String} (found : findAsset db name = some asset) :
    assetTagsOf db asset.id = asset.tags := by
  unfold assetTagsOf
  rw [find_of_mem (List.mem_of_find?_eq_some found)]
  rfl

structure StoredFor (request : EvaluateSingleRequest) (asset : Asset) (row : SLOEvaluation) :
    Prop where
  evaluationName : row.evaluationName = request.evalName
  periodStart : row.periodStart = request.periodStart
  periodEnd : row.periodEnd = request.periodEnd
  assetSnapshot : row.assetSnapshot =
    { name := some asset.name, vars := asset.vars, tags := asset.tags }
  stored : row.vars = request.vars ∪ asset.tags

theorem triggerEvaluate_stored {request : EvaluateSingleRequest} {runId : Nat} {newId : Nat -> Nat}
    {ids : List Nat}
    (triggered : triggerEvaluate db assignments request runId newId = .ok (next, ids))
    (created : id ∈ ids) :
    Exists fun asset => Exists fun row => findAsset db request.assetName = some asset ∧
      next.evaluations.find id = some row ∧ StoredFor request asset row := by
  rcases triggerEvaluate_commits triggered with ⟨asset, found, _, commit, idsAre⟩
  rcases triggerCommit_find commit (idsAre ▸ created) with ⟨ctx, member, stored⟩
  rcases resolvedContexts_asset found member with ⟨snapshot, assetId⟩
  refine ⟨asset, _, found, stored, rfl, rfl, rfl, snapshot, ?_⟩
  rw [assetId]
  exact congrArg (request.vars ∪ ·) (assetTagsOf_findAsset found)

theorem StoredFor.snapshotVariables {request : EvaluateSingleRequest} {asset : Asset}
    {row : SLOEvaluation} (stored : StoredFor request asset row) (db : Database)
    (sloDef : SLODefinition) (name : String) :
    (snapshotVariables (snapshotOf db row) sloDef).lookup name =
      ((request.vars.lookup name).or (asset.tags.lookup name)).or
        ((declaredValue request sloDef asset name).or (asset.tags.lookup name)) := by
  rcases stored with ⟨evaluationName, periodStart, periodEnd, assetSnapshot, stored⟩
  unfold Worker.snapshotVariables snapshotOf declaredValue
  simp only [evaluationName, periodStart, periodEnd, assetSnapshot, stored]
  rw [lookup_buildEvalVariables, lookup_union]
  exact congrArg _ Option.or_assoc.symm

/-- Whenever the worker derives the variables of an evaluation that the trigger path
has created, in whatever happens after the trigger, a name has the documented value if
and only if a tag of that name, unless the request sets it, agrees with the value that
the SLO, the reserved variables or the asset declare. -/
theorem variables_documented_iff {settings : Settings} {db next : Database}
    {assignments : Assignments} {request : EvaluateSingleRequest} {runId : Nat}
    {newId : Nat -> Nat} {ids : List Nat} {id : Nat} {start final : World} {actions : List Action}
    (triggered : triggerEvaluate db assignments request runId newId = .ok (next, ids))
    (created : id ∈ ids) (committed : start.db = next)
    (ran : exec (step settings) start actions = some final) :
    Exists fun asset => Exists fun row => findAsset db request.assetName = some asset ∧
      final.db.evaluations.find id = some row ∧
      forall (sloDef : SLODefinition) (name : String),
        (snapshotVariables (snapshotOf final.db row) sloDef).lookup name =
            documentedValue request sloDef asset name ↔
          TagAgrees request sloDef asset name := by
  rcases triggerEvaluate_stored triggered created with ⟨asset, row, found, stored, storedFor⟩
  rw [<- committed] at stored
  rcases exec_inputs stored ran with ⟨later, present, same⟩
  refine ⟨asset, later, found, present, fun sloDef name => ?_⟩
  rw [same.snapshotVariables start.db, storedFor.snapshotVariables]
  exact default_first_iff _ _ _

namespace Sample

def taggedAsset : Asset :=
  { id := 5, name := "edge", tags := (∅ : Dict String).insert "env" "staging",
    vars := (∅ : Dict String).insert "region" "eu" }

def taggedSlo : SLODefinition :=
  { name := "edge-latency", version := 1, vars := (∅ : Dict String).insert "env" "prod",
    sliDefinitionId := some ("checkout-sli", 1), objectives := .empty }

def taggedDatabase : Database :=
  { database with
    sloDefinitions := empty.insert taggedSlo rfl
    assets := empty.insert taggedAsset rfl }

def taggedAssignments : Assignments :=
  { sloAssignments := [{ assetId := some 5, sloDefinitionId := ("edge-latency", 1),
                         dataSourceName := "prometheus" }] }

def taggedRequest : EvaluateSingleRequest :=
  { assetName := "edge", evalName := "hourly", periodStart := 0, periodEnd := 3600000000 }

/-- The commit of the request, with the value that the worker would give to a name. -/
def taggedOutcome (name : String) : Option (List Nat × Option String) :=
  (triggerEvaluate taggedDatabase taggedAssignments taggedRequest 50 (· + 51)).toOption.bind
    fun committed => (committed.1.evaluations.find 51).map fun row =>
      (committed.2, (snapshotVariables (snapshotOf committed.1 row) taggedSlo).lookup name)

theorem taggedOutcome_eq_some {name : String} {ids : List Nat} {value : Option String}
    (derived : taggedOutcome name = some (ids, value)) :
    Exists fun next => Exists fun row =>
      triggerEvaluate taggedDatabase taggedAssignments taggedRequest 50 (· + 51) =
          .ok (next, ids) ∧
        next.evaluations.find 51 = some row ∧
        (snapshotVariables (snapshotOf next row) taggedSlo).lookup name = value := by
  rcases Option.bind_eq_some_iff.mp derived with ⟨⟨next, others⟩, triggered, derived⟩
  rcases Option.map_eq_some_iff.mp derived with ⟨row, found, same⟩
  cases same
  refine ⟨next, row, ?_, found, rfl⟩
  cases outcome : triggerEvaluate taggedDatabase taggedAssignments taggedRequest 50 (· + 51) with
  | error failure =>
      rw [outcome] at triggered
      cases triggered
  | ok committed =>
      rw [outcome] at triggered
      exact congrArg Except.ok (Option.some.inj triggered)

end Sample

/-- The variable of the asset, which no tag is named after, has its documented value
in the world that the request leaves behind. -/
theorem variables_documented_sample :
    Exists fun next => Exists fun row => next.evaluations.find 51 = some row ∧
      (snapshotVariables (snapshotOf next row) Sample.taggedSlo).lookup "region" =
        documentedValue Sample.taggedRequest Sample.taggedSlo Sample.taggedAsset "region" := by
  have derived : Sample.taggedOutcome "region" = some ([51], some "eu") := by decide +kernel
  rcases Sample.taggedOutcome_eq_some derived with ⟨next, _, triggered, _, _⟩
  let w : World := { db := next, now := 0 }
  have ran : exec (step {}) w [] = some w := rfl
  rcases variables_documented_iff triggered (List.mem_singleton.mpr rfl) rfl ran with
    ⟨asset, row, found, present, documented⟩
  have isTagged : asset = Sample.taggedAsset := Option.some.inj (found.symm.trans rfl)
  rw [isTagged] at documented
  refine ⟨next, row, present, (documented Sample.taggedSlo "region").mpr ?_⟩
  intro tag value isTag
  have untagged : Sample.taggedAsset.tags.lookup "region" = none := by decide +kernel
  rw [untagged] at isTag
  cases isTag

/-- The request does not set `env`, the SLO does, and the worker takes the tag. -/
theorem tag_overrides_slo_variable :
    Exists fun next => Exists fun row =>
      triggerEvaluate Sample.taggedDatabase Sample.taggedAssignments Sample.taggedRequest 50
          (· + 51) = .ok (next, [51]) ∧
        next.evaluations.find 51 = some row ∧
        (snapshotVariables (snapshotOf next row) Sample.taggedSlo).lookup "env" = some "staging" ∧
        documentedValue Sample.taggedRequest Sample.taggedSlo Sample.taggedAsset "env" =
          some "prod" := by
  have derived : Sample.taggedOutcome "env" = some ([51], some "staging") := by decide +kernel
  rcases Sample.taggedOutcome_eq_some derived with ⟨next, row, triggered, found, value⟩
  exact ⟨next, row, triggered, found, value, by decide +kernel⟩

end Worker
end Tropek
