import Tropek.Worker.System

namespace Tropek
namespace Worker

open Library Engine Store KeyedTable

/-!
# What a step can do

`Step` lists, for each action, what must hold for it to be possible and what the
next world is, and `step_cases` says that the step function does nothing else.

To the evaluations a step does one of two things.  A trigger adds pending rows;
every other action changes at most one row, in one of four ways.  `Action.write`
computes that change from the world and the action, so that a condition on a run
can speak of the transactions that are about to commit.
-/

/-- What a committed transaction does to its row.  `completed`: a completion, with the
indicator rows after it unless none was inserted. -/
inductive RowChange where
  | running (now : Instant) (workerId : Option String)
  | failed (jobStats : JobStats)
  | requeued (stuckJobRetries : Nat)
  | completed (values : CompletedValues) (indicatorRows : Option IndicatorRows)

def RowChange.apply : RowChange -> SLOEvaluation -> SLOEvaluation
  | .running now workerId => SLOEvaluation.setRunning now workerId
  | .failed jobStats => SLOEvaluation.setFailed jobStats
  | .requeued stuckJobRetries => SLOEvaluation.setRequeued stuckJobRetries
  | .completed values none => SLOEvaluation.setCompleted values
  | .completed values (some indicatorRows) =>
      fun row => (row.setCompleted values).setIndicatorRows indicatorRows

theorem RowChange.apply_id (change : RowChange) (row : SLOEvaluation) :
    (change.apply row).id = row.id := by
  cases change with
  | running => rfl
  | failed => rfl
  | requeued => rfl
  | completed values indicatorRows => cases indicatorRows <;> rfl

structure Write where
  evalId : Nat
  change : RowChange

def rowAfter (write : Option Write) (row : SLOEvaluation) : SLOEvaluation :=
  match write with
  | none => row
  | some write => if row.id = write.evalId then write.change.apply row else row

def applyWrite (write : Option Write) (table : Evaluations) : Evaluations :=
  match write with
  | none => table
  | some write => table.update write.evalId write.change.apply write.change.apply_id

/-- A transaction leaves a row, or it is about this row and makes its change to it. -/
theorem rowAfter_cases (write : Option Write) (row : SLOEvaluation) :
    rowAfter write row = row ∨ Exists fun target => write = some target ∧
      row.id = target.evalId ∧ rowAfter write row = target.change.apply row := by
  cases write with
  | none => exact Or.inl rfl
  | some target =>
      by_cases targeted : row.id = target.evalId
      · exact Or.inr ⟨target, rfl, targeted, if_pos targeted⟩
      · exact Or.inl (if_neg targeted)

theorem rowAfter_id (write : Option Write) (row : SLOEvaluation) :
    (rowAfter write row).id = row.id := by
  rcases rowAfter_cases write row with same | ⟨target, _, _, same⟩
  · rw [same]
  · rw [same, RowChange.apply_id]

theorem rowAfter_of_ne {write : Option Write} {row : SLOEvaluation}
    (spared : forall target, write = some target -> target.evalId ≠ row.id) :
    rowAfter write row = row := by
  cases write with
  | none => rfl
  | some target => exact if_neg (Ne.symm (spared target rfl))

theorem find_applyWrite (write : Option Write) (table : Evaluations) (id : Nat) :
    (applyWrite write table).find id = (table.find id).map (rowAfter write) := by
  cases write with
  | none =>
      change table.find id = (table.find id).map fun row => row
      rw [Option.map_id']
  | some write =>
      unfold applyWrite
      dsimp only
      rw [find_update]
      cases found : table.find id with
      | none => by_cases same : id = write.evalId <;> simp [same]
      | some row =>
          have rowKey := find_key found
          by_cases same : id = write.evalId
          · simp only [Option.map_some, rowAfter, rowKey, same, if_true]
          · simp only [if_neg same, Option.map_some, rowAfter, rowKey]

theorem applyWrite_rows (write : Option Write) (table : Evaluations) :
    (applyWrite write table).rows = table.rows.map (rowAfter write) := by
  cases write with
  | none => exact (List.map_id _).symm
  | some write =>
      change (table.rows.map fun row =>
        if decide (row.id = write.evalId) then write.change.apply row else row) = _
      simp only [decide_eq_true_eq]
      rfl

def completedWrite (table : Evaluations) (snapshot : EvaluationSnapshot) (sloDef : SLODefinition)
    (fetchResult : FetchAndEvaluateResult) : Option Write :=
  let values := completedValues snapshot sloDef fetchResult
  let rows := buildIndicatorRows sloDef fetchResult.evalResult.indicatorResults
  if rows = [] then some { evalId := snapshot.evalId, change := .completed values none }
  else
    match table.find snapshot.evalId with
    | none => none
    | some evaluation =>
        (bulkInsert evaluation.indicatorRows rows).map fun indicatorRows =>
          { evalId := snapshot.evalId, change := .completed values (some indicatorRows) }

theorem completedWrite_change {table : Evaluations} {snapshot : EvaluationSnapshot}
    {sloDef : SLODefinition} {fetchResult : FetchAndEvaluateResult} {write : Write}
    (written : completedWrite table snapshot sloDef fetchResult = some write) :
    Exists fun indicatorRows => write =
      { evalId := snapshot.evalId
        change := .completed (completedValues snapshot sloDef fetchResult) indicatorRows } := by
  unfold completedWrite at written
  dsimp only at written
  split at written
  · exact ⟨none, (Option.some.inj written).symm⟩
  · split at written
    · cases written
    · rcases Option.map_eq_some_iff.mp written with ⟨indicatorRows, _, same⟩
      exact ⟨some indicatorRows, same.symm⟩

theorem writeResults_eq (db : Database) (snapshot : EvaluationSnapshot) (sloDef : SLODefinition)
    (fetchResult : FetchAndEvaluateResult) :
    writeResults db snapshot sloDef fetchResult =
      (completedWrite db.evaluations snapshot sloDef fetchResult).map fun write =>
        { db with evaluations := applyWrite (some write) db.evaluations } := by
  unfold writeResults completedWrite
  dsimp only
  by_cases none : buildIndicatorRows sloDef fetchResult.evalResult.indicatorResults = []
  · rw [if_pos none, if_pos none]
    rfl
  · rw [if_neg none, if_neg none]
    unfold insertIndicatorRows markCompleted
    rw [find_update, if_pos rfl]
    cases found : db.evaluations.find snapshot.evalId with
    | none => rfl
    | some evaluation =>
        have unchanged : (evaluation.setCompleted
            (completedValues snapshot sloDef fetchResult)).indicatorRows =
            evaluation.indicatorRows := rfl
        simp only [Option.map_some, unchanged]
        cases bulkInsert evaluation.indicatorRows
            (buildIndicatorRows sloDef fetchResult.evalResult.indicatorResults) with
        | none => rfl
        | some indicatorRows =>
            simp only [Option.map_some]
            rw [update_update _ _ _ _ _ _ fun _ => rfl]
            rfl

def phaseWrite (input : PhaseInput) (message : Message) (table : Evaluations) :
    Phase -> Option Write
  | .marking => some { evalId := message.evalId, change := .running input.now input.workerId }
  | .failing error =>
      some { evalId := message.evalId, change := .failed { error := some error } }
  | .writing snapshot sloDef fetchResult => completedWrite table snapshot sloDef fetchResult
  | _ => none

variable {db next : Database} {request : TriggerRequest} {contexts : List (Nat × TriggerContext)}

theorem advance_db {settings : Settings} {input : PhaseInput} {message : Message} {phase : Phase}
    {outcome : PhaseOutcome} (advanced : advance settings input message db phase = some outcome) :
    outcome.db =
      { db with
        evaluations := applyWrite (phaseWrite input message db.evaluations phase) db.evaluations } := by
  cases phase with
  | checking => cases advanced; rfl
  | deferring => cases advanced; rfl
  | marking =>
      rw [advance_marking] at advanced
      cases advanced
      rfl
  | loading snapshot => cases advanced; rfl
  | fetching snapshot sloDef sliDef datasource => cases advanced; rfl
  | failing error => cases advanced; rfl
  | writing snapshot sloDef fetchResult =>
      have writes : phaseWrite input message db.evaluations (.writing snapshot sloDef fetchResult) =
          completedWrite db.evaluations snapshot sloDef fetchResult := rfl
      unfold advance at advanced
      dsimp only at advanced
      rw [writeResults_eq] at advanced
      rw [writes]
      cases written : completedWrite db.evaluations snapshot sloDef fetchResult with
      | none =>
          rw [written] at advanced
          cases advanced
          rfl
      | some write =>
          rw [written] at advanced
          cases advanced
          rfl
  | wrappingUp parentRunId => cases advanced; rfl
  | finished => cases advanced
  | raised error => cases advanced

def watchdogWrite (settings : Settings) (stuckEval : SLOEvaluation) : Write :=
  { evalId := stuckEval.id
    change :=
      if settings.maxStuckJobRetries ≤ stuckAttempts stuckEval then
        .failed (exceededStats (stuckAttempts stuckEval))
      else .requeued (stuckAttempts stuckEval + 1) }

theorem watchdogTransaction_eq (settings : Settings) (stuckEval : SLOEvaluation)
    (table : Evaluations) :
    watchdogTransaction settings stuckEval table =
      applyWrite (some (watchdogWrite settings stuckEval)) table := by
  unfold watchdogTransaction applyWrite watchdogWrite
  by_cases exceeded : settings.maxStuckJobRetries ≤ stuckAttempts stuckEval
  · simp only [if_pos exceeded]
    rfl
  · simp only [if_neg exceeded]
    rfl

def Action.write (settings : Settings) (w : World) : Action -> Option Write
  | .advance executionId workerId checkFails adapter =>
      (w.executions.find executionId).bind fun execution =>
        phaseWrite { now := w.now, workerId, checkFails, adapter } execution.message
          w.db.evaluations execution.phase
  | .watchdogUpdate tickId =>
      (w.ticks.find tickId).bind fun tick =>
        tick.remaining.head?.map (watchdogWrite settings)
  | _ => none

/-- What a step does, with its conditions, one constructor for each action.  The
invariants are proved by cases on it, so that none of them unfolds `step`. -/
inductive Step (settings : Settings) (w : World) : Action -> World -> Prop where
  | wait (duration : Nat) : Step settings w (.wait duration) { w with now := w.now + duration }
  | trigger (triggerId : Nat) (request : TriggerRequest) (db : Database)
      (committed : triggerCommit request w.db = some db) (process : TriggerProcess)
      (processIs : process = { id := triggerId, toEnqueue := request.contexts.map Prod.fst })
      (fresh : w.triggers.find process.id = none) :
      Step settings w (.trigger triggerId request)
        { w with db, triggers := w.triggers.insert process fresh }
  | triggerEnqueue (triggerId : Nat) (process : TriggerProcess) (evalId : Nat) (rest : List Nat)
      (found : w.triggers.find triggerId = some process)
      (next : process.toEnqueue = evalId :: rest) :
      Step settings w (.triggerEnqueue triggerId)
        { w.enqueue (.runEvaluation evalId 0) with
          triggers := w.triggers.update triggerId
            (fun process => { process with toEnqueue := rest }) fun _ => rfl }
  | triggerEnd (triggerId : Nat) :
      Step settings w (.triggerEnd triggerId)
        { w with triggers := w.triggers.delete triggerId }
  | deliver (executionId jobId : Nat) (message : Message) (queued : message ∈ w.queue)
      (jobIs : message.jobId = jobId) (execution : Execution)
      (executionIs : execution = { id := executionId, message, phase := .checking })
      (fresh : w.executions.find execution.id = none) :
      Step settings w (.deliver executionId jobId)
        { w with executions := w.executions.insert execution fresh }
  | advance (executionId : Nat) (workerId : Option String) (checkFails : Bool)
      (adapter : AdapterQuery -> AdapterOutcome) (execution : Execution) (outcome : PhaseOutcome)
      (found : w.executions.find executionId = some execution)
      (advanced : Worker.advance settings { now := w.now, workerId, checkFails, adapter }
        execution.message w.db execution.phase = some outcome) :
      Step settings w (.advance executionId workerId checkFails adapter)
        (outcome.enqueued.elim
          { w with
            db := outcome.db
            executions := w.executions.update executionId
              (fun execution => { execution with phase := outcome.phase }) fun _ => rfl }
          (World.enqueue
            { w with
              db := outcome.db
              executions := w.executions.update executionId
                (fun execution => { execution with phase := outcome.phase }) fun _ => rfl }))
  | acknowledge (executionId : Nat) (execution : Execution)
      (found : w.executions.find executionId = some execution) (ended : execution.phase.Ended) :
      Step settings w (.acknowledge executionId)
        { w with queue := w.queue.filter (·.jobId ≠ execution.message.jobId),
                 executions := w.executions.delete executionId }
  | crash (executionId : Nat) :
      Step settings w (.crash executionId)
        { w with executions := w.executions.delete executionId }
  | watchdogFind (tickId : Nat) (tick : WatchdogTick)
      (tickIs : tick = {
        id := tickId
        remaining := findStuck w.db.evaluations w.now settings.stuckJobThreshold
        toEnqueue := none })
      (fresh : w.ticks.find tick.id = none) :
      Step settings w (.watchdogFind tickId) { w with ticks := w.ticks.insert tick fresh }
  | watchdogUpdate (tickId : Nat) (tick : WatchdogTick) (stuckEval : SLOEvaluation)
      (rest : List SLOEvaluation) (found : w.ticks.find tickId = some tick)
      (nothingToEnqueue : tick.toEnqueue = none) (next : tick.remaining = stuckEval :: rest) :
      Step settings w (.watchdogUpdate tickId)
        { w with
          db := { w.db with
            evaluations := watchdogTransaction settings stuckEval w.db.evaluations }
          ticks := w.ticks.update tickId
            (fun tick => { tick with
              remaining := rest, toEnqueue := watchdogRequeued settings stuckEval })
            fun _ => rfl }
  | watchdogEnqueue (tickId : Nat) (tick : WatchdogTick) (evalId : Nat)
      (found : w.ticks.find tickId = some tick) (next : tick.toEnqueue = some evalId) :
      Step settings w (.watchdogEnqueue tickId)
        { w.enqueue (.runEvaluation evalId 0) with
          ticks := w.ticks.update tickId (fun tick => { tick with toEnqueue := none })
            fun _ => rfl }
  | watchdogEnd (tickId : Nat) :
      Step settings w (.watchdogEnd tickId) { w with ticks := w.ticks.delete tickId }

theorem step_cases {settings : Settings} {w next : World} {action : Action}
    (stepped : step settings w action = some next) : Step settings w action next := by
  cases action with
  | wait duration =>
      cases stepped
      exact .wait duration
  | trigger triggerId request =>
      rcases Option.bind_eq_some_iff.mp stepped with ⟨db, committed, stepped⟩
      dsimp only at stepped
      split at stepped
      · rename_i fresh
        cases stepped
        exact .trigger triggerId request db committed _ rfl fresh
      · cases stepped
  | triggerEnqueue triggerId =>
      rcases Option.bind_eq_some_iff.mp stepped with ⟨process, found, stepped⟩
      cases waiting : process.toEnqueue with
      | nil =>
          rw [waiting] at stepped
          cases stepped
      | cons evalId rest =>
          rw [waiting] at stepped
          cases stepped
          exact .triggerEnqueue triggerId process evalId rest found waiting
  | triggerEnd triggerId =>
      cases stepped
      exact .triggerEnd triggerId
  | deliver executionId jobId =>
      rcases Option.bind_eq_some_iff.mp stepped with ⟨message, found, stepped⟩
      dsimp only at stepped
      split at stepped
      · rename_i fresh
        cases stepped
        exact .deliver executionId jobId message (List.mem_of_find?_eq_some found)
          (by simpa using List.find?_some found) _ rfl fresh
      · cases stepped
  | advance executionId workerId checkFails adapter =>
      rcases Option.bind_eq_some_iff.mp stepped with ⟨execution, found, stepped⟩
      rcases Option.bind_eq_some_iff.mp stepped with ⟨outcome, advanced, stepped⟩
      cases stepped
      exact .advance executionId workerId checkFails adapter execution outcome found advanced
  | acknowledge executionId =>
      rcases Option.bind_eq_some_iff.mp stepped with ⟨execution, found, stepped⟩
      split at stepped
      · rename_i ended
        cases stepped
        exact .acknowledge executionId execution found ended
      · cases stepped
  | crash executionId =>
      cases stepped
      exact .crash executionId
  | watchdogFind tickId =>
      unfold step at stepped
      dsimp only at stepped
      split at stepped
      · rename_i fresh
        cases stepped
        exact .watchdogFind tickId _ rfl fresh
      · cases stepped
  | watchdogUpdate tickId =>
      rcases Option.bind_eq_some_iff.mp stepped with ⟨tick, found, stepped⟩
      cases enqueueing : tick.toEnqueue with
      | some evalId =>
          rw [enqueueing] at stepped
          cases stepped
      | none =>
          cases remaining : tick.remaining with
          | nil =>
              rw [enqueueing, remaining] at stepped
              cases stepped
          | cons stuckEval rest =>
              rw [enqueueing, remaining] at stepped
              cases stepped
              exact .watchdogUpdate tickId tick stuckEval rest found enqueueing remaining
  | watchdogEnqueue tickId =>
      rcases Option.bind_eq_some_iff.mp stepped with ⟨tick, found, stepped⟩
      rcases Option.bind_eq_some_iff.mp stepped with ⟨evalId, next, stepped⟩
      cases stepped
      exact .watchdogEnqueue tickId tick evalId found next
  | watchdogEnd tickId =>
      cases stepped
      exact .watchdogEnd tickId

section

variable (w : World) (enqueued : Enqueued)

include w enqueued

@[simp] theorem enqueue_db : (w.enqueue enqueued).db = w.db := by
  cases enqueued <;> rfl

@[simp] theorem enqueue_now : (w.enqueue enqueued).now = w.now := by
  cases enqueued <;> rfl

@[simp] theorem enqueue_executions : (w.enqueue enqueued).executions = w.executions := by
  cases enqueued <;> rfl

@[simp] theorem enqueue_ticks : (w.enqueue enqueued).ticks = w.ticks := by
  cases enqueued <;> rfl

@[simp] theorem enqueue_triggers : (w.enqueue enqueued).triggers = w.triggers := by
  cases enqueued <;> rfl

end

def TriggerRequest.Creates (request : TriggerRequest) (row : SLOEvaluation) : Prop :=
  Exists fun ctx => Exists fun assetTags =>
    (row.id, ctx) ∈ request.contexts ∧
      row = pendingEvaluation (request.params ctx) assetTags row.id

theorem createAll_cons {id : Nat} {ctx : TriggerContext} {rest : List (Nat × TriggerContext)}
    (created : createAll request db ((id, ctx) :: rest) = some next) :
    Exists fun middle => createPending db (request.params ctx) id = some middle ∧
      createAll request middle rest = some next := by
  unfold createAll at created
  cases first : createPending db (request.params ctx) id with
  | none =>
      rw [first] at created
      cases created
  | some middle =>
      rw [first] at created
      exact ⟨middle, rfl, created⟩

theorem createAll_eq_some (created : createAll request db contexts = some next) :
    (forall id row, db.evaluations.find id = some row -> next.evaluations.find id = some row) ∧
      (forall id row, next.evaluations.find id = some row ->
        db.evaluations.find id = some row ∨
          (db.evaluations.find id = none ∧ Exists fun ctx => Exists fun assetTags =>
            (id, ctx) ∈ contexts ∧
              row = pendingEvaluation (request.params ctx) assetTags id)) ∧
      next.sloDefinitions = db.sloDefinitions ∧ next.sliDefinitions = db.sliDefinitions ∧
      next.dataSources = db.dataSources := by
  induction contexts generalizing db with
  | nil =>
      cases created
      exact ⟨fun _ _ found => found, fun _ _ found => Or.inl found, rfl, rfl, rfl⟩
  | cons head rest ih =>
      rcases head with ⟨newId, ctx⟩
      rcases createAll_cons created with ⟨middle, first, created⟩
      rcases createPending_eq_some first with
        ⟨fresh, found, sloSame, sliSame, sourceSame⟩
      rcases ih created with
        ⟨kept, origin, sloRest, sliRest, sourceRest⟩
      refine ⟨fun id row present => ?_, fun id row present => ?_, sloRest.trans sloSame,
        sliRest.trans sliSame, sourceRest.trans sourceSame⟩
      · refine kept id row ?_
        rw [found id, if_neg fun same => ?_]
        · exact present
        · rw [same, fresh] at present
          cases present
      · rcases origin id row present with older | ⟨absent, otherCtx, tags, member, same⟩
        · rw [found id] at older
          by_cases same : id = newId
          · rw [if_pos same] at older
            cases older
            refine Or.inr ⟨same ▸ fresh, ctx, assetTagsOf db (request.params ctx).assetId, ?_, ?_⟩
            · rw [same]
              exact List.mem_cons_self
            · rw [same]
          · rw [if_neg same] at older
            exact Or.inl older
        · rw [found id] at absent
          by_cases taken : id = newId
          · rw [if_pos taken] at absent
            cases absent
          · rw [if_neg taken] at absent
            exact Or.inr ⟨absent, otherCtx, tags, List.mem_cons_of_mem _ member, same⟩

theorem createAll_rows (created : createAll request db contexts = some next) :
    Exists fun rows => next.evaluations.rows = db.evaluations.rows ++ rows ∧
      forall row, row ∈ rows -> Exists fun ctx => Exists fun assetTags =>
        (row.id, ctx) ∈ contexts ∧
          row = pendingEvaluation (request.params ctx) assetTags row.id := by
  induction contexts generalizing db with
  | nil =>
      cases created
      exact ⟨[], (List.append_nil _).symm, fun _ member => absurd member List.not_mem_nil⟩
  | cons head rest ih =>
      rcases head with ⟨newId, ctx⟩
      rcases createAll_cons created with ⟨middle, first, created⟩
      rcases ih created with ⟨rows, appended, origin⟩
      refine ⟨pendingEvaluation (request.params ctx)
        (assetTagsOf db (request.params ctx).assetId) newId :: rows, ?_, fun row member => ?_⟩
      · rw [appended, createPending_rows first, List.append_assoc]
        rfl
      · rcases List.mem_cons.mp member with same | later
        · rw [same]
          exact ⟨ctx, _, List.mem_cons_self, rfl⟩
        · rcases origin row later with ⟨otherCtx, assetTags, inRest, rowIs⟩
          exact ⟨otherCtx, assetTags, List.mem_cons_of_mem _ inRest, rowIs⟩

theorem triggerCommit_eq_some (committed : triggerCommit request db = some next) :
    (forall id row, db.evaluations.find id = some row -> next.evaluations.find id = some row) ∧
      (forall id row, next.evaluations.find id = some row ->
        db.evaluations.find id = some row ∨
          (db.evaluations.find id = none ∧ request.Creates row)) ∧
      next.sloDefinitions = db.sloDefinitions ∧ next.sliDefinitions = db.sliDefinitions ∧
      next.dataSources = db.dataSources := by
  unfold triggerCommit at committed
  split at committed
  · rcases createAll_eq_some committed with ⟨kept, origin, same⟩
    refine ⟨kept, fun id row found => ?_, same⟩
    rcases origin id row found with older | ⟨absent, ctx, assetTags, member, rowIs⟩
    · exact Or.inl older
    · have rowKey : row.id = id := find_key found
      refine Or.inr ⟨absent, ctx, assetTags, rowKey ▸ member, ?_⟩
      rw [rowKey]
      exact rowIs
  · cases committed

section Effect

variable {settings : Settings} {w next : World} {action : Action}

section

variable (stepped : step settings w action = some next)

include stepped

theorem step_db (notTrigger : forall triggerId request, action ≠ .trigger triggerId request) :
    next.db = { w.db with
      evaluations := applyWrite (action.write settings w) w.db.evaluations } := by
  cases step_cases stepped with
  | trigger triggerId request => exact absurd rfl (notTrigger triggerId request)
  | advance executionId workerId checkFails adapter execution outcome found advanced =>
      have written := advance_db advanced
      simp only [Action.write, found, Option.bind_some]
      rw [<- written]
      cases outcome.enqueued with
      | none => rfl
      | some enqueued => exact enqueue_db _ enqueued
  | watchdogUpdate tickId tick stuckEval rest found nothing nextRow =>
      simp only [Action.write, found, Option.bind_some, nextRow, List.head?_cons,
        Option.map_some]
      rw [watchdogTransaction_eq]
  | _ => rfl

theorem step_find {id : Nat} {row : SLOEvaluation} (found : w.db.evaluations.find id = some row) :
    next.db.evaluations.find id = some (rowAfter (action.write settings w) row) := by
  by_cases triggered : Exists fun triggerId => Exists fun request =>
      action = .trigger triggerId request
  · rcases triggered with ⟨triggerId, request, same⟩
    subst same
    cases step_cases stepped with
    | trigger _ _ db committed process processIs fresh =>
        exact (triggerCommit_eq_some committed).1 id row found
  · rw [step_db stepped fun triggerId request same => triggered ⟨triggerId, request, same⟩]
    dsimp only
    rw [find_applyWrite, found]
    rfl

theorem step_find_origin {id : Nat} {row : SLOEvaluation}
    (found : next.db.evaluations.find id = some row) :
    (Exists fun old => w.db.evaluations.find id = some old ∧
        row = rowAfter (action.write settings w) old) ∨
      (w.db.evaluations.find id = none ∧ Exists fun triggerId => Exists fun request =>
        action = .trigger triggerId request ∧ request.Creates row) := by
  by_cases triggered : Exists fun triggerId => Exists fun request =>
      action = .trigger triggerId request
  · rcases triggered with ⟨triggerId, request, same⟩
    subst same
    cases step_cases stepped with
    | trigger _ _ db committed process processIs fresh =>
        rcases (triggerCommit_eq_some committed).2.1 id row found with older | ⟨absent, created⟩
        · exact Or.inl ⟨row, older, rfl⟩
        · exact Or.inr ⟨absent, triggerId, request, rfl, created⟩
  · rw [step_db stepped fun triggerId request same => triggered ⟨triggerId, request, same⟩]
      at found
    dsimp only at found
    rw [find_applyWrite] at found
    rcases Option.map_eq_some_iff.mp found with ⟨old, older, same⟩
    exact Or.inl ⟨old, older, same.symm⟩

theorem step_sloDefinitions : next.db.sloDefinitions = w.db.sloDefinitions := by
  by_cases triggered : Exists fun triggerId => Exists fun request =>
      action = .trigger triggerId request
  · rcases triggered with ⟨triggerId, request, same⟩
    subst same
    cases step_cases stepped with
    | trigger _ _ db committed process processIs fresh =>
        exact (triggerCommit_eq_some committed).2.2.1
  · rw [step_db stepped fun triggerId request same => triggered ⟨triggerId, request, same⟩]

/-- The table after a step: every row as the transaction leaves it, followed by the
rows that a trigger has created. -/
theorem step_table :
    Exists fun created =>
      next.db.evaluations.rows =
        w.db.evaluations.rows.map (rowAfter (action.write settings w)) ++ created ∧
      forall row, row ∈ created -> Exists fun triggerId => Exists fun request =>
        action = .trigger triggerId request ∧ request.Creates row := by
  by_cases triggered : Exists fun triggerId => Exists fun request =>
      action = .trigger triggerId request
  · rcases triggered with ⟨triggerId, request, same⟩
    subst same
    cases step_cases stepped with
    | trigger _ _ db committed process processIs fresh =>
        unfold triggerCommit at committed
        split at committed
        · rcases createAll_rows committed with ⟨rows, appended, origin⟩
          refine ⟨rows, ?_, fun row member => ⟨triggerId, request, rfl, origin row member⟩⟩
          have unchanged : rowAfter ((Action.trigger triggerId request).write settings w) = id := rfl
          rw [unchanged, List.map_id]
          exact appended
        · cases committed
  · refine ⟨[], ?_, fun _ member => absurd member List.not_mem_nil⟩
    rw [step_db stepped fun triggerId request same => triggered ⟨triggerId, request, same⟩,
      List.append_nil]
    exact applyWrite_rows _ _

theorem step_now : w.now ≤ next.now := by
  cases step_cases stepped with
  | wait duration =>
      exact le_add_of_nonneg_right (Int.natCast_nonneg duration)
  | advance executionId workerId checkFails adapter execution outcome found advanced =>
      cases outcome.enqueued with
      | none => exact le_refl _
      | some enqueued =>
          rw [Option.elim_some, enqueue_now]
  | triggerEnqueue triggerId process evalId rest found waiting =>
      exact le_of_eq (enqueue_now w _).symm
  | watchdogEnqueue tickId tick evalId found waiting =>
      exact le_of_eq (enqueue_now w _).symm
  | _ => exact le_refl _

end

end Effect

end Worker
end Tropek
