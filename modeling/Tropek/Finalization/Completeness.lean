import Tropek.Finalization.Aggregates

namespace Tropek
namespace Finalization

open Library Engine Store Worker ReEvaluation TransitionSystem KeyedTable Fallible

/-!
# Every run can be completed

The finalize attempts and the sweeper pass over a run without children.  A run has
children from its commit on exactly when an assigned SLO has resolved, and keeps
them, so a run that was triggered with one is found by the sweeper as soon as all
its children have ended.
-/

def runIds (db : Database) : List Nat :=
  db.runs.rows.map EvaluationRun.id

def parentIds (db : Database) : List Nat :=
  db.evaluations.rows.map SLOEvaluation.evaluationId

def AllHaveChildren (db : Database) : Prop :=
  forall runId, runId ∈ runIds db -> runId ∈ parentIds db

def RunsExist (db : Database) : Prop :=
  forall runId, runId ∈ parentIds db -> runId ∈ runIds db

variable {db : Database} {runId : Nat} {w next : RunWorld} {action : Action}
  {request : EvaluateSingleRequest}

theorem childrenOf_ne_nil : childrenOf db.evaluations runId ≠ [] ↔ runId ∈ parentIds db := by
  unfold childrenOf parentIds
  rw [Ne, List.map_eq_nil_iff, List.filter_eq_nil_iff, List.mem_map]
  simp only [decide_eq_true_eq, not_forall, not_not, exists_prop]

theorem find_runIds : db.runs.find runId = none ↔ runId ∉ runIds db := by
  unfold runIds
  rw [List.mem_map]
  constructor
  · rintro absent ⟨run, member, rfl⟩
    rw [find_of_mem member] at absent
    cases absent
  · intro absent
    cases found : db.runs.find runId with
    | none => rfl
    | some run => exact absurd ⟨run, find_mem found, find_key found⟩ absent

def SameRun (first second : SLOEvaluation) : Prop :=
  second.evaluationId = first.evaluationId

theorem sameRun_kept : Maintenance.KeptByOperations SameRun where
  refl := fun _ => rfl
  trans := fun _ _ _ one two => two.trans one
  overridden := fun _ _ _ _ => rfl
  restored := fun _ => rfl
  invalidated := fun _ _ => rfl
  pinned := fun _ _ => rfl
  unpinned := fun _ _ => rfl

theorem rewritten_sameRun {definitions : SLODefinitions} {before after : SLOEvaluation}
    (rewritten : Rewritten definitions before after) : SameRun before after := by
  have rewrites : Rewrites definitions before after := .single rewritten
  exact rewrites.keepsPoints.evaluationId

theorem rowAfter_sameRun (write : Option Write) (row : SLOEvaluation) :
    SameRun row (rowAfter write row) := by
  cases write with
  | none => rfl
  | some write =>
      unfold rowAfter
      dsimp only
      split
      · cases write.change with
        | running => rfl
        | failed => rfl
        | requeued => rfl
        | completed values indicatorRows => cases indicatorRows <;> rfl
      · rfl

theorem parentIds_kept {first second : Database}
    (same : List.Forall₂ SameRun first.evaluations.rows second.evaluations.rows) :
    parentIds second = parentIds first := by
  unfold parentIds
  have equal : List.Forall₂ (· = ·) (first.evaluations.rows.map SLOEvaluation.evaluationId)
      (second.evaluations.rows.map SLOEvaluation.evaluationId) := by
    rw [List.forall₂_map_left_iff, List.forall₂_map_right_iff]
    exact same.imp fun _ _ here => here.symm
  rw [List.forall₂_eq_eq_eq] at equal
  exact equal.symm

def requestOf (w : RunWorld) : Action -> Option (EvaluateSingleRequest × Nat)
  | .trigger request runId _ => some (request, runId)
  | .batchNext batchId runId _ =>
      (w.batches.find batchId).bind fun batch =>
        batch.remaining.head?.map fun request => (request, runId)
  | _ => none

/-- The runs are the same, apart from their columns, and the rows belong to the runs
that they belonged to. -/
structure SameFamilies (db next : Database) : Prop where
  runs : runIds next = runIds db
  parents : parentIds next = parentIds db

theorem start_db {attemptId : Nat} (started : w.start attemptId runId = some next) :
    next.db = w.db := by
  rcases start_eq_some started with ⟨fresh, same⟩
  rw [same]

theorem finalizeRun_ids (runs : Runs) (runId : Nat) (values : RunValues) :
    (finalizeRun runs runId values).rows.map EvaluationRun.id = runs.rows.map EvaluationRun.id := by
  unfold finalizeRun updateWhere
  dsimp only
  rw [List.map_map]
  refine List.map_congr_left fun run _ => ?_
  simp only [Function.comp_apply]
  split <;> rfl

theorem step_sameFamilies (stepped : step w action = some next) (quiet : requestOf w action = none) :
    SameFamilies w.db next.db := by
  have kept : next.db = w.db -> SameFamilies w.db next.db := by
    intro same
    rw [same]
    exact ⟨rfl, rfl⟩
  cases action with
  | configure registry =>
      cases stepped
      exact ⟨rfl, rfl⟩
  | trigger request runId newId => cases quiet
  | batch batchId request =>
      rcases Option.bind_eq_some_iff.mp stepped with ⟨remaining, _, stepped⟩
      dsimp only at stepped
      split at stepped
      · cases stepped
        exact kept rfl
      · cases stepped
  | batchNext batchId runId newId =>
      rcases Option.bind_eq_some_iff.mp stepped with ⟨batch, found, stepped⟩
      split at stepped
      · cases stepped
      · rename_i request rest remaining
        unfold requestOf at quiet
        dsimp only at quiet
        rw [found, Option.bind_some, remaining] at quiet
        cases quiet
  | child write =>
      cases stepped
      refine ⟨rfl, parentIds_kept ?_⟩
      change List.Forall₂ SameRun w.db.evaluations.rows
        (applyWrite (some write) w.db.evaluations).rows
      rw [applyWrite_rows, List.forall₂_map_right_iff]
      exact List.forall₂_same.mpr fun row _ => rowAfter_sameRun (some write) row
  | operate operation =>
      rcases Option.bind_eq_some_iff.mp stepped with ⟨db, operated, same⟩
      cases same
      refine ⟨congrArg (fun runs : Runs => runs.rows.map EvaluationRun.id)
        (Maintenance.step_runs operated), parentIds_kept ?_⟩
      exact Maintenance.step_kept sameRun_kept (fun _ _ _ => rewritten_sameRun) operated
  | finalizeJob attemptId runId => exact kept (start_db stepped)
  | sweep sweepId limit =>
      simp only [step] at stepped
      split at stepped
      · cases stepped
        exact kept rfl
      · cases stepped
  | sweepNext sweepId attemptId =>
      rcases Option.bind_eq_some_iff.mp stepped with ⟨sweep, _, stepped⟩
      split at stepped
      · cases stepped
      · have same := start_db stepped
        exact kept same
  | readRun attemptId =>
      rcases Option.bind_eq_some_iff.mp stepped with ⟨attempt, found, stepped⟩
      split at stepped
      · split at stepped <;> cases stepped <;> exact kept rfl
      · cases stepped
  | readChildren attemptId =>
      rcases Option.bind_eq_some_iff.mp stepped with ⟨attempt, found, stepped⟩
      split at stepped
      · cases stepped
        exact kept rfl
      · cases stepped
  | update attemptId =>
      rcases Option.bind_eq_some_iff.mp stepped with ⟨attempt, found, stepped⟩
      split at stepped
      · split at stepped
        · cases stepped
        · cases stepped
          exact kept rfl
      · cases stepped
  | commit attemptId =>
      rcases Option.bind_eq_some_iff.mp stepped with ⟨attempt, found, stepped⟩
      split at stepped
      · cases stepped
        exact ⟨finalizeRun_ids _ _ _, rfl⟩
      · cases stepped
  | crash attemptId =>
      rcases Option.bind_eq_some_iff.mp stepped with ⟨attempt, found, stepped⟩
      split at stepped
      · cases stepped
      · cases stepped
        exact kept rfl

/-- The request finds its asset, and SLOs are assigned to it, so that its run is
created. -/
def CreatesRun (db : Database) (assignments : Assignments) (request : EvaluateSingleRequest)
    (runId : Nat) : Prop :=
  runId ∉ runIds db ∧
    Exists fun asset => findAsset db request.assetName = some asset ∧
      resolveAllSlosForAsset db assignments asset.id (listGroupIdsForAsset assignments asset.id) ≠ []

def TriggersResolve (w : RunWorld) (action : Action) : Prop :=
  forall request runId, requestOf w action = some (request, runId) ->
    CreatesRun w.db w.assignments request runId -> SomeResolves w.db w.assignments request

structure AddsFamily (db next : Database) (runId count : Nat) : Prop where
  fresh : runId ∉ runIds db
  runs : runIds next = runIds db ++ [runId]
  parents : parentIds next = parentIds db ++ List.replicate count runId

theorem triggerEvaluate_addsFamily {next : Database} {assignments : Assignments}
    {newId : Nat -> Nat} {ids : List Nat}
    (triggered : triggerEvaluate db assignments request runId newId = .ok (next, ids)) :
    CreatesRun db assignments request runId ∧ Exists fun count =>
      AddsFamily db next runId count ∧ (count ≠ 0 ↔ SomeResolves db assignments request) := by
  rcases triggerEvaluate_eq_ok triggered with
    ⟨asset, resolved, found, sameRun, contexts, committed, assigned⟩
  have fresh : runId ∉ runIds db := by
    rw [<- sameRun]
    exact find_runIds.mp committed.fresh
  refine ⟨⟨fresh, asset, found, assigned⟩, resolved.contexts.length, ⟨fresh, ?_, ?_⟩, ?_⟩
  · rcases committed.runs with ⟨run, isRun, _, rows⟩
    unfold runIds
    rw [rows, List.map_append, List.map_singleton, isRun, sameRun]
  · rcases committed.evaluations with ⟨created, rows, length, belong⟩
    unfold parentIds
    rw [rows, List.map_append, <- length, <- sameRun, List.append_cancel_left_eq,
      List.eq_replicate_iff, List.length_map]
    refine ⟨rfl, fun parent member => ?_⟩
    rcases List.mem_map.mp member with ⟨row, inside, rfl⟩
    exact (belong row inside).1
  · rw [Ne, List.length_eq_zero_iff, contexts]
    exact contexts_ne_nil_iff found

/-- A trigger whose run would be created raises only when some SLO resolves: then an
evaluation may be a duplicate. -/
theorem triggerEvaluate_error {assignments : Assignments} {newId : Nat -> Nat}
    {failure : TriggerError}
    (raised : triggerEvaluate db assignments request runId newId = .error failure)
    (creates : CreatesRun db assignments request runId) : SomeResolves db assignments request := by
  rcases creates with ⟨fresh, asset, found, assigned⟩
  have resolves : resolvedContexts db assignments request.assetName
      (listGroupIdsForAsset assignments asset.id)
      (resolveAllSlosForAsset db assignments asset.id (listGroupIdsForAsset assignments asset.id))
      newId ≠ [] := by
    intro nothing
    unfold triggerEvaluate at raised
    simp only [found, orRaise, bind, Except.bind, if_neg assigned] at raised
    split at raised
    · rename_i refused
      split at refused
      · rename_i conflict
        exact triggerCommit_childless conflict (find_runIds.mpr fresh) nothing
      · cases refused
    · cases raised
  exact (contexts_ne_nil_iff found).mp resolves

section Family

variable {db next : Database} {runId count : Nat}

theorem AddsFamily.references (adds : AddsFamily db next runId count) (references : RunsExist db) :
    RunsExist next := by
  intro parent member
  rw [adds.parents, List.mem_append] at member
  rw [adds.runs, List.mem_append]
  rcases member with older | created
  · exact Or.inl (references parent older)
  · exact Or.inr (List.mem_singleton.mpr (List.eq_of_mem_replicate created))

/-- The added run is the only one whose children can be missing, since no row was
there that belonged to it. -/
theorem AddsFamily.children (adds : AddsFamily db next runId count) (references : RunsExist db) :
    AllHaveChildren next ↔ AllHaveChildren db ∧ count ≠ 0 := by
  unfold AllHaveChildren
  rw [adds.runs, adds.parents]
  simp only [List.mem_append, List.mem_singleton, List.mem_replicate]
  constructor
  · intro complete
    constructor
    · intro older member
      rcases complete older (Or.inl member) with here | ⟨_, rfl⟩
      · exact here
      · exact absurd member adds.fresh
    · rcases complete runId (Or.inr rfl) with here | ⟨some, _⟩
      · exact absurd (references runId here) adds.fresh
      · exact some
  · rintro ⟨complete, some⟩ other (older | rfl)
    · exact Or.inl (complete other older)
    · exact Or.inr ⟨some, rfl⟩

end Family

theorem step_triggers (stepped : step w action = some next)
    (triggers : requestOf w action = some (request, runId)) :
    (CreatesRun w.db w.assignments request runId ∧ Exists fun count =>
      AddsFamily w.db next.db runId count ∧ (count ≠ 0 ↔ SomeResolves w.db w.assignments request)) ∨
    (next.db = w.db ∧
      (CreatesRun w.db w.assignments request runId -> SomeResolves w.db w.assignments request)) := by
  cases action with
  | trigger single singleId newId =>
      cases triggers
      rcases Option.bind_eq_some_iff.mp stepped with ⟨⟨db, ids⟩, triggered, same⟩
      cases same
      exact Or.inl (triggerEvaluate_addsFamily (toOption_eq_some.mp triggered))
  | batchNext batchId singleId newId =>
      rcases Option.bind_eq_some_iff.mp stepped with ⟨batch, found, stepped⟩
      split at stepped
      · cases stepped
      · rename_i single rest remaining
        unfold requestOf at triggers
        dsimp only at triggers
        rw [found, Option.bind_some, remaining] at triggers
        cases triggers
        cases stepped
        unfold RunWorld.batchTrigger
        cases triggered : triggerEvaluate w.db w.assignments request runId newId with
        | error failure => exact Or.inr ⟨rfl, triggerEvaluate_error triggered⟩
        | ok result => exact Or.inl (triggerEvaluate_addsFamily triggered)
  | _ => cases triggers

/-- A step leaves every run with a child exactly when it had been so and the step
triggers nothing without a resolving SLO. -/
theorem step_children (stepped : step w action = some next) (references : RunsExist w.db) :
    RunsExist next.db ∧
      (AllHaveChildren next.db ↔ AllHaveChildren w.db ∧ TriggersResolve w action) := by
  cases triggers : requestOf w action with
  | none =>
      have same := step_sameFamilies stepped triggers
      have resolves : TriggersResolve w action := by
        intro request runId impossible
        rw [triggers] at impossible
        cases impossible
      unfold RunsExist AllHaveChildren
      rw [same.runs, same.parents]
      exact ⟨references, fun complete => ⟨complete, resolves⟩, fun both => both.1⟩
  | some triggered =>
      rcases triggered with ⟨request, runId⟩
      have only : TriggersResolve w action ↔
          (CreatesRun w.db w.assignments request runId ->
            SomeResolves w.db w.assignments request) := by
        constructor
        · exact fun resolves => resolves request runId triggers
        · intro resolves other otherId isOther
          cases Option.some.inj (triggers.symm.trans isOther)
          exact resolves
      rcases step_triggers stepped triggers with
        ⟨creates, count, adds, some⟩ | ⟨same, resolves⟩
      · refine ⟨adds.references references, (adds.children references).trans ?_⟩
        rw [only, some]
        exact and_congr_right fun _ => ⟨fun resolved _ => resolved, fun resolves => resolves creates⟩
      · rw [same]
        exact ⟨references, fun complete => ⟨complete, only.mpr resolves⟩, fun both => both.1⟩

/-- The run has a child.  Once all its children have ended, the sweeper finds it, and
an attempt on it completes it, unless it is completed. -/
structure CanBeCompleted (db : Database) (run : EvaluationRun) : Prop where
  child : Exists fun row => row ∈ db.evaluations.rows ∧ row.evaluationId = run.id
  completes : run.status ≠ .completed ->
    (forall row, row ∈ db.evaluations.rows -> row.evaluationId = run.id ->
      row.status.isUnfinished = false) ->
    (forall limit, db.runs.rows.length ≤ limit -> run.id ∈ findFinalizablePendingIds db limit) ∧
      (finalizeIfAllDone db run.id).2.isSome = true

theorem exec_children {start : RunWorld} {actions : List Action} (references : RunsExist start.db)
    (ran : exec step start actions = some w) :
    AllHaveChildren w.db ↔
      AllHaveChildren start.db ∧ Along step TriggersResolve start actions := by
  induction actions generalizing start with
  | nil =>
      cases ran
      exact ⟨fun complete => ⟨complete, trivial⟩, fun both => both.1⟩
  | cons action rest ih =>
      rcases exec_cons ran with ⟨next, stepped, ran⟩
      rcases step_children stepped references with ⟨kept, children⟩
      rw [ih kept ran, children, along_cons_iff stepped, and_assoc]

theorem canBeCompleted_of_child {run : EvaluationRun} (stored : run ∈ db.runs.rows)
    (child : run.id ∈ parentIds db) : CanBeCompleted db run where
  child := List.mem_map.mp child
  completes := by
    intro unfinished ended
    have done : AllDone (childrenOf db.evaluations run.id) := by
      refine ⟨childrenOf_ne_nil.mpr child, fun each member => ?_⟩
      unfold childrenOf at member
      rcases List.mem_map.mp member with ⟨row, selected, rfl⟩
      rw [List.mem_filter, decide_eq_true_eq] at selected
      exact ended row selected.1 selected.2
    constructor
    · intro limit enough
      exact mem_findFinalizablePendingIds stored ((isFinalizable_iff _ _).mpr ⟨unfinished, done⟩) enough
    · rw [finalizeIfAllDone_returns]
      refine ⟨?_, done⟩
      rw [unfinalized_eq_some.mpr ⟨find_of_mem stored, unfinished⟩]
      rfl

/-- Every run that is there can be completed exactly when each trigger that has
created a run found an assigned SLO that resolves. -/
theorem runs_can_be_completed {start w : RunWorld} {actions : List Action}
    (references : RunsExist start.db) (children : AllHaveChildren start.db)
    (ran : exec step start actions = some w) :
    (forall run, run ∈ w.db.runs.rows -> CanBeCompleted w.db run) ↔
      Along step TriggersResolve start actions := by
  have complete : AllHaveChildren w.db ↔ Along step TriggersResolve start actions := by
    rw [exec_children references ran]
    exact and_iff_right children
  rw [<- complete]
  constructor
  · intro each runId member
    rcases List.mem_map.mp member with ⟨run, stored, rfl⟩
    exact List.mem_map.mpr (each run stored).child
  · intro complete run stored
    exact canBeCompleted_of_child stored (complete run.id (List.mem_map_of_mem stored))

namespace Sample

def emptyWorld : RunWorld :=
  { db :=
      { evaluations := .empty
        runs := .empty
        sloDefinitions := .empty
        sliDefinitions := .empty
        dataSources := .empty
        assets := .empty } }

def inventory : Asset :=
  { id := 5, name := "inventory" }

def stockSlo (sliDefinitionId : Option (String × Int)) : SLODefinition :=
  { name := "stock", version := 1, sliDefinitionId, objectives := .empty }

def stockSli : SLIDefinition :=
  { name := "stock_sli", version := 1, comparableFromVersion := 1 }

def stockRegistry (sliDefinitionId : Option (String × Int)) : RegistryState where
  sloDefinitions := empty.insert (stockSlo sliDefinitionId) rfl
  sliDefinitions := empty.insert stockSli rfl
  dataSources := empty.insert { name := "metrics" } rfl
  assets := empty.insert inventory rfl
  assignments :=
    { sloAssignments :=
        [{ assetId := some 5, sloDefinitionId := ("stock", 1), dataSourceName := "metrics" }] }

def stockRequest : EvaluateSingleRequest :=
  { assetName := "inventory", evalName := "hourly", periodStart := 0, periodEnd := 3600000000 }

def configured (sliDefinitionId : Option (String × Int)) : RunWorld :=
  { emptyWorld with
    db := { emptyWorld.db with
      sloDefinitions := (stockRegistry sliDefinitionId).sloDefinitions
      sliDefinitions := (stockRegistry sliDefinitionId).sliDefinitions
      dataSources := (stockRegistry sliDefinitionId).dataSources
      assets := (stockRegistry sliDefinitionId).assets }
    assignments := (stockRegistry sliDefinitionId).assignments }

def stockTrigger : Action :=
  .trigger stockRequest 40 fun position => 41 + position

def stockActions (sliDefinitionId : Option (String × Int)) : List Action :=
  [.configure (stockRegistry sliDefinitionId), stockTrigger]

theorem emptyWorld_initial : emptyWorld.Initial :=
  ⟨rfl, rfl, rfl⟩

theorem bound_resolves : Along step TriggersResolve emptyWorld (stockActions (some ("stock_sli", 1))) := by
  have configuring : step emptyWorld (.configure (stockRegistry (some ("stock_sli", 1)))) =
      some (configured (some ("stock_sli", 1))) := rfl
  unfold stockActions
  rw [along_cons_iff configuring]
  constructor
  · intro request runId impossible
    cases impossible
  · refine ⟨?_, by split <;> trivial⟩
    intro request runId same _
    cases same
    refine ⟨inventory, rfl, ⟨"stock", ("stock", 1), "metrics"⟩, by decide +kernel, ?_⟩
    exact ⟨stockSlo (some ("stock_sli", 1)), ("stock_sli", 1), rfl, rfl, rfl, rfl⟩

end Sample

theorem bound_slo_run_can_be_completed :
    Exists fun w => exec step Sample.emptyWorld (Sample.stockActions (some ("stock_sli", 1))) = some w ∧
      40 ∈ runIds w.db ∧ forall run, run ∈ w.db.runs.rows -> CanBeCompleted w.db run := by
  have ran : (exec step Sample.emptyWorld (Sample.stockActions (some ("stock_sli", 1)))).map
      (fun w => runIds w.db) = some [40] := by
    decide +kernel
  rcases Option.map_eq_some_iff.mp ran with ⟨w, ran, ids⟩
  have references : RunsExist Sample.emptyWorld.db :=
    fun runId member => absurd member List.not_mem_nil
  have children : AllHaveChildren Sample.emptyWorld.db :=
    fun runId member => absurd member List.not_mem_nil
  refine ⟨w, ran, by rw [ids]; exact List.mem_singleton_self 40, ?_⟩
  exact (runs_can_be_completed references children ran).mpr Sample.bound_resolves

theorem step_childless (stepped : step w action = some next)
    (childless : runId ∈ runIds w.db ∧ runId ∉ parentIds w.db) :
    runId ∈ runIds next.db ∧ runId ∉ parentIds next.db := by
  cases triggers : requestOf w action with
  | none =>
      have same := step_sameFamilies stepped triggers
      rw [same.runs, same.parents]
      exact childless
  | some triggered =>
      rcases step_triggers stepped triggers with ⟨_, count, adds, _⟩ | ⟨same, _⟩
      · have other : runId ≠ triggered.2 := fun same => adds.fresh (same ▸ childless.1)
        rw [adds.runs, adds.parents, List.mem_append, List.mem_append, List.mem_replicate]
        refine ⟨Or.inl childless.1, ?_⟩
        rintro (older | ⟨_, same⟩)
        · exact childless.2 older
        · exact other same
      · rw [same]
        exact childless

theorem exec_stuck {start : RunWorld} {actions : List Action} (initial : start.Initial)
    (ran : exec step start actions = some w)
    (childless : runId ∈ runIds start.db ∧ runId ∉ parentIds start.db)
    (unfinished : ¬ IsCompleted start runId) :
    runId ∈ runIds w.db ∧ runId ∉ parentIds w.db ∧ ¬ IsCompleted w runId := by
  have keeps : forall {before : List Action} {middle : RunWorld},
      exec step start before = some middle ->
        runId ∈ runIds middle.db ∧ runId ∉ parentIds middle.db :=
    fun ran => exec_preserves (fun _ _ _ childless stepped => step_childless stepped childless)
      childless ran
  refine ⟨(keeps ran).1, (keeps ran).2, fun completed => ?_⟩
  rcases completed_was_read initial ran unfinished completed with
    ⟨attemptId, children, ⟨before, after, middle, _, earlier, same⟩, done, _⟩
  rw [same] at done
  exact (keeps earlier).2 (childrenOf_ne_nil.mp done.1)

/-- The assigned SLO is bound to no SLI.  Its trigger commits a run that neither the
sweeper nor a `finalize_run_job` ever completes. -/
theorem unbound_slo_leaves_run_stuck :
    Exists fun w => Reachable w ∧ forall later final, exec step w later = some final ->
      (Exists fun run => final.db.runs.find 40 = some run ∧ run.status ≠ .completed) ∧
      (forall row, row ∈ final.db.evaluations.rows -> row.evaluationId ≠ 40) ∧
      (finalizeIfAllDone final.db 40).2 = none ∧
      forall limit, 40 ∉ findFinalizablePendingIds final.db limit := by
  have triggered : (triggerEvaluate (Sample.configured none).db (Sample.configured none).assignments
      Sample.stockRequest 40 fun position => 41 + position).toOption.map (fun committed =>
        (runIds committed.1, parentIds committed.1,
          (committed.1.runs.find 40).map (·.status))) = some ([40], [], some .pending) := by
    decide +kernel
  rcases Option.map_eq_some_iff.mp triggered with ⟨⟨db, ids⟩, triggered, values⟩
  rcases Prod.mk.inj values with ⟨runsAre, values⟩
  rcases Prod.mk.inj values with ⟨parentsAre, status⟩
  let w : RunWorld := { Sample.configured none with db }
  have triggering : step (Sample.configured none) Sample.stockTrigger = some w := by
    unfold step Sample.stockTrigger
    dsimp only
    rw [triggered]
    rfl
  have ran : exec step Sample.emptyWorld (Sample.stockActions none) = some w := by
    unfold Sample.stockActions exec
    change exec step (Sample.configured none) [Sample.stockTrigger] = some w
    unfold exec
    rw [triggering]
    rfl
  have initial : w.Initial := ⟨rfl, rfl, rfl⟩
  have unfinished : ¬ IsCompleted w 40 := by
    rintro ⟨run, found, completed⟩
    rw [found, Option.map_some, completed] at status
    cases status
  refine ⟨w, ⟨Sample.emptyWorld, _, Sample.emptyWorld_initial, ran⟩, ?_⟩
  intro later final further
  have childless : 40 ∈ runIds w.db ∧ 40 ∉ parentIds w.db := by
    rw [runsAre, parentsAre]
    exact ⟨List.mem_singleton_self 40, List.not_mem_nil⟩
  rcases exec_stuck initial further childless unfinished with ⟨there, without, never⟩
  have undone : ¬ AllDone (childrenOf final.db.evaluations 40) :=
    fun done => without (childrenOf_ne_nil.mp done.1)
  refine ⟨?_, ?_, ?_, fun limit member => undone (of_mem_findFinalizablePendingIds member)⟩
  · rcases List.mem_map.mp there with ⟨run, stored, isRun⟩
    have found := find_of_mem stored
    rw [isRun] at found
    exact ⟨run, found, fun completed => never ⟨run, found, completed⟩⟩
  · intro row stored belongs
    exact without (List.mem_map.mpr ⟨row, stored, belongs⟩)
  · cases returned : (finalizeIfAllDone final.db 40).2 with
    | none => rfl
    | some run =>
        have returns := (finalizeIfAllDone_returns final.db 40).mp (by rw [returned]; rfl)
        exact absurd returns.2 undone

end Finalization
end Tropek
