import Tropek.Worker.Transactions

namespace Tropek
namespace Worker

open Library Engine Store TransitionSystem KeyedTable

/-!
# Delivery

An evaluation waits in status pending until a job carries it out.  The status is
a commit in the database and the job is an effect on the queue, and a trigger
request or a watchdog run that dies between the two leaves the evaluation without
a job.  The watchdog recovers running evaluations only, so nothing finds it.

Unless a process has died in that window of it, a pending evaluation has a
message in the queue that no execution has carried through phase 1, or a live
process is about to enqueue one.  A worker may die anywhere: the message stays in the queue
until an execution of it acknowledges, and a deferral enqueues the next message
before that.
-/

/-! ## The condition -/

/-- The action is not the end of a trigger request or a watchdog run that has the
evaluation left to enqueue. -/
def keepsWaiting (evalId : Nat) (w : World) : Action -> Bool
  | .triggerEnd triggerId =>
      (w.triggers.find triggerId).all fun process => !process.toEnqueue.contains evalId
  | .watchdogEnd tickId => (w.ticks.find tickId).all fun tick => tick.toEnqueue ≠ some evalId
  | _ => true

/-! ## The queue and the executions -/

def Phase.BeforeRunning : Phase -> Prop
  | .checking => True
  | .deferring => True
  | .marking => True
  | _ => False

/-- Job identifiers are not reused, and an execution has the message that is in
the queue under its identifier. -/
structure QueueConsistent (w : World) : Prop where
  fresh : forall message, message ∈ w.queue -> message.jobId < w.nextJobId
  distinct : forall first second, first ∈ w.queue -> second ∈ w.queue ->
    first.jobId = second.jobId -> first = second
  executed : forall execution, execution ∈ w.executions.rows ->
    execution.message.jobId < w.nextJobId ∧
      forall message, message ∈ w.queue -> message.jobId = execution.message.jobId ->
        execution.message = message

/-- A queued message for the evaluation that no execution has carried through
phase 1. -/
def HasMessage (w : World) (evalId : Nat) : Prop :=
  Exists fun message => message ∈ w.queue ∧ message.evalId = evalId ∧
    forall execution, execution ∈ w.executions.rows ->
      execution.message.jobId = message.jobId -> execution.phase.BeforeRunning

def ToBeEnqueued (w : World) (evalId : Nat) : Prop :=
  (Exists fun process => process ∈ w.triggers.rows ∧ evalId ∈ process.toEnqueue) ∨
    Exists fun tick => tick ∈ w.ticks.rows ∧ tick.toEnqueue = some evalId

structure NotLost (id : Nat) (w : World) : Prop where
  queue : QueueConsistent w
  carried : forall row, w.db.evaluations.find id = some row -> row.status = .pending ->
    HasMessage w id ∨ ToBeEnqueued w id

/-! ## Effects on the queue -/

theorem QueueConsistent.enqueue {w : World} (consistent : QueueConsistent w)
    (enqueued : Enqueued) : QueueConsistent (w.enqueue enqueued) := by
  cases enqueued with
  | finalizeRun runId => exact ⟨consistent.fresh, consistent.distinct, consistent.executed⟩
  | runEvaluation evalId deferCount =>
      refine ⟨fun message member => ?_, fun first second inFirst inSecond same => ?_,
        fun execution member => ?_⟩
      · rcases List.mem_append.mp member with inside | new
        · exact Nat.lt_succ_of_lt (consistent.fresh message inside)
        · rw [List.mem_singleton.mp new]
          exact Nat.lt_succ_self _
      · rcases List.mem_append.mp inFirst with oldFirst | newFirst
        · rcases List.mem_append.mp inSecond with oldSecond | newSecond
          · exact consistent.distinct first second oldFirst oldSecond same
          · have below := consistent.fresh first oldFirst
            rw [same, List.mem_singleton.mp newSecond] at below
            exact absurd below (Nat.lt_irrefl _)
        · rcases List.mem_append.mp inSecond with oldSecond | newSecond
          · have below := consistent.fresh second oldSecond
            rw [<- same, List.mem_singleton.mp newFirst] at below
            exact absurd below (Nat.lt_irrefl _)
          · rw [List.mem_singleton.mp newFirst, List.mem_singleton.mp newSecond]
      · have executed := consistent.executed execution member
        refine ⟨Nat.lt_succ_of_lt executed.1, fun message inQueue same => ?_⟩
        rcases List.mem_append.mp inQueue with inside | new
        · exact executed.2 message inside same
        · have below := executed.1
          rw [<- same, List.mem_singleton.mp new] at below
          exact absurd below (Nat.lt_irrefl _)

theorem HasMessage.of_enqueue {w : World} (consistent : QueueConsistent w)
    (evalId deferCount : Nat) : HasMessage (w.enqueue (.runEvaluation evalId deferCount)) evalId := by
  refine ⟨{ jobId := w.nextJobId, evalId, deferCount },
    List.mem_append_right _ List.mem_cons_self, rfl, fun execution member same => ?_⟩
  have below := (consistent.executed execution member).1
  rw [same] at below
  exact absurd below (Nat.lt_irrefl _)

theorem HasMessage.enqueue {w : World} {evalId : Nat} (has : HasMessage w evalId)
    (enqueued : Enqueued) : HasMessage (w.enqueue enqueued) evalId := by
  rcases has with ⟨message, inQueue, evalIs, early⟩
  cases enqueued with
  | finalizeRun runId => exact ⟨message, inQueue, evalIs, early⟩
  | runEvaluation other deferCount =>
      exact ⟨message, List.mem_append_left _ inQueue, evalIs, early⟩

theorem HasMessage.congr {w other : World} {evalId : Nat} (has : HasMessage w evalId)
    (queue : other.queue = w.queue) (executions : other.executions = w.executions) :
    HasMessage other evalId := by
  unfold HasMessage
  rw [queue, executions]
  exact has

theorem QueueConsistent.congr {w other : World} (consistent : QueueConsistent w)
    (queue : other.queue = w.queue) (nextJobId : other.nextJobId = w.nextJobId)
    (executions : other.executions = w.executions) : QueueConsistent other := by
  refine ⟨?_, ?_, ?_⟩
  · rw [queue, nextJobId]
    exact consistent.fresh
  · rw [queue]
    exact consistent.distinct
  · rw [queue, nextJobId, executions]
    exact consistent.executed

section Step

variable {settings : Settings} {w next : World} {action : Action}

def World.moved (w : World) (db : Database) (executionId : Nat) (phase : Phase) : World :=
  { w with
    db
    executions := w.executions.update executionId
      (fun execution => { execution with phase }) fun _ => rfl }

variable {db : Database} {executionId id : Nat} {phase : Phase} {workerId : Option String}
  {adapter : AdapterQuery -> AdapterOutcome} {row : SLOEvaluation}

theorem moved_executions {execution moving : Execution}
    (found : w.executions.find executionId = some moving)
    (member : execution ∈ (w.moved db executionId phase).executions.rows) :
    (execution ∈ w.executions.rows ∧ execution.id ≠ executionId) ∨
      execution = { moving with phase } := by
  have inTable : execution ∈ (w.executions.update executionId
      (fun execution => { execution with phase }) fun _ => rfl).rows := member
  rcases (mem_update _ _ _ _ _).mp inTable with
    ⟨inside, other⟩ | ⟨old, oldFound, same⟩
  · exact Or.inl ⟨inside, other⟩
  · have sameOld : old = moving := Option.some.inj (oldFound.symm.trans found)
    rw [<- same, sameOld]
    exact Or.inr rfl

theorem QueueConsistent.moved {moving : Execution} (consistent : QueueConsistent w)
    (found : w.executions.find executionId = some moving) :
    QueueConsistent (w.moved db executionId phase) where
  fresh := consistent.fresh
  distinct := consistent.distinct
  executed := by
    intro execution member
    rcases moved_executions found member with ⟨inside, _⟩ | same
    · exact consistent.executed execution inside
    · rw [same]
      exact consistent.executed moving (find_mem found)

theorem advance_enqueued {input : PhaseInput} {message : Message} {outcome : PhaseOutcome}
    (advanced : Worker.advance settings input message db .deferring = some outcome) :
    outcome.enqueued = some (.runEvaluation message.evalId (message.deferCount + 1)) := by
  exact (congrArg PhaseOutcome.enqueued (Option.some.inj advanced)).symm

/-- The phase of an execution that has phase 1 before it is not left by a later
phase. -/
theorem beforeRunning_of_next {input : PhaseInput} {message : Message} (early : phase.BeforeRunning) :
    phase = .checking ∧ (nextPhase settings input message db phase).BeforeRunning ∨
      phase = .deferring ∨ phase = .marking := by
  cases phase with
  | checking =>
      refine Or.inl ⟨rfl, ?_⟩
      change (if defers settings input message db then Phase.deferring
        else Phase.marking).BeforeRunning
      cases defers settings input message db <;> trivial
  | deferring => exact Or.inr (Or.inl rfl)
  | marking => exact Or.inr (Or.inr rfl)
  | _ => exact absurd early id

/-- The world of an `advance` step, from the world in which only the execution
has moved. -/
theorem step_advance {checkFails : Bool}
    (stepped : step settings w (.advance executionId workerId checkFails adapter) = some next) :
    Exists fun execution => Exists fun outcome =>
      w.executions.find executionId = some execution ∧
        Worker.advance settings { now := w.now, workerId, checkFails, adapter } execution.message
          w.db execution.phase = some outcome ∧
        next = outcome.enqueued.elim (w.moved outcome.db executionId outcome.phase)
          (w.moved outcome.db executionId outcome.phase).enqueue := by
  cases step_cases stepped with
  | advance _ _ _ _ execution outcome found advanced =>
      exact ⟨execution, outcome, found, advanced, rfl⟩

theorem QueueConsistent.step (consistent : QueueConsistent w)
    (stepped : Worker.step settings w action = some next) : QueueConsistent next := by
  cases step_cases stepped with
  | triggerEnqueue triggerId process evalId rest found waiting =>
      exact (consistent.enqueue (.runEvaluation evalId 0)).congr rfl rfl rfl
  | watchdogEnqueue tickId tick evalId found waiting =>
      exact (consistent.enqueue (.runEvaluation evalId 0)).congr rfl rfl rfl
  | deliver executionId jobId message queued jobIs delivered deliveredIs fresh =>
      refine ⟨consistent.fresh, consistent.distinct, fun execution member => ?_⟩
      rcases (mem_insert w.executions delivered fresh execution).mp member with
        inside | same
      · exact consistent.executed execution inside
      · have carries : execution.message = message := by
          rw [same, deliveredIs]
        rw [carries]
        refine ⟨consistent.fresh message queued, fun other inQueue sameJob => ?_⟩
        exact consistent.distinct message other queued inQueue sameJob.symm
  | advance executionId workerId checkFails adapter execution outcome found advanced =>
      have moved : QueueConsistent (w.moved outcome.db executionId outcome.phase) :=
        consistent.moved found
      cases enqueued : outcome.enqueued with
      | none => exact moved
      | some message => exact moved.enqueue message
  | acknowledge executionId execution found ended =>
      refine ⟨fun message member => ?_, fun first second inFirst inSecond same => ?_,
        fun other member => ?_⟩
      · exact consistent.fresh message (List.mem_filter.mp member).1
      · exact consistent.distinct first second (List.mem_filter.mp inFirst).1
          (List.mem_filter.mp inSecond).1 same
      · have executed := consistent.executed other ((mem_delete _ _ _).mp member).1
        exact ⟨executed.1, fun message inQueue => executed.2 message (List.mem_filter.mp inQueue).1⟩
  | crash executionId =>
      refine ⟨consistent.fresh, consistent.distinct, fun other member => ?_⟩
      exact consistent.executed other ((mem_delete _ _ _).mp member).1
  | _ => exact consistent.congr rfl rfl rfl

theorem step_marking {checkFails : Bool} {execution : Execution}
    (stepped : Worker.step settings w (.advance executionId workerId checkFails adapter) =
      some next)
    (found : w.executions.find executionId = some execution) (marking : execution.phase = .marking)
    (after : next.db.evaluations.find execution.message.evalId = some row) :
    row.status = .running := by
  rcases step_find_origin stepped after with
    ⟨old, oldFound, same⟩ | ⟨_, triggerId, request, impossible, _⟩
  · have written : (Action.advance executionId workerId checkFails adapter).write settings w =
        some { evalId := execution.message.evalId, change := .running w.now workerId } := by
      simp only [Action.write, found, Option.bind_some, marking, phaseWrite]
    have targeted : old.id = execution.message.evalId := find_key oldFound
    have applied : row = old.setRunning w.now workerId := by
      rw [same, written]
      exact if_pos targeted
    rw [applied]
    rfl
  · cases impossible

theorem HasMessage.step (consistent : QueueConsistent w) (has : HasMessage w id)
    (stepped : Worker.step settings w action = some next)
    (after : next.db.evaluations.find id = some row) (pending : row.status = .pending) :
    HasMessage next id := by
  rcases has with ⟨message, inQueue, evalIs, early⟩
  have has : HasMessage w id := ⟨message, inQueue, evalIs, early⟩
  cases step_cases stepped with
  | triggerEnqueue triggerId process evalId rest found waiting =>
      exact (has.enqueue (.runEvaluation evalId 0)).congr rfl rfl
  | watchdogEnqueue tickId tick evalId found waiting =>
      exact (has.enqueue (.runEvaluation evalId 0)).congr rfl rfl
  | deliver executionId jobId handed queued jobIs delivered deliveredIs fresh =>
      refine ⟨message, inQueue, evalIs, fun execution member same => ?_⟩
      rcases (mem_insert w.executions delivered fresh execution).mp member with
        inside | new
      · exact early execution inside same
      · have phaseIs : execution.phase = .checking := by
          rw [new, deliveredIs]
        rw [phaseIs]
        trivial
  | acknowledge executionId execution found ended =>
      have other : message.jobId ≠ execution.message.jobId := by
        intro same
        have before := early execution (find_mem found) same.symm
        cases phaseIs : execution.phase <;> rw [phaseIs] at ended before <;>
          first | exact ended | exact before
      have kept : message ∈ w.queue.filter (·.jobId ≠ execution.message.jobId) :=
        List.mem_filter.mpr ⟨inQueue, decide_eq_true other⟩
      refine ⟨message, kept, evalIs, fun remaining member same => ?_⟩
      exact early remaining ((mem_delete _ _ _).mp member).1 same
  | crash executionId =>
      refine ⟨message, inQueue, evalIs, fun remaining member same => ?_⟩
      exact early remaining ((mem_delete _ _ _).mp member).1 same
  | advance executionId workerId checkFails adapter execution outcome found advanced =>
      have member := find_mem found
      -- The message stays unless its own execution moves on from phase 1.
      have stays : (execution.message.jobId = message.jobId -> outcome.phase.BeforeRunning) ->
          HasMessage (w.moved outcome.db executionId outcome.phase) id := by
        intro earlyNext
        refine ⟨message, inQueue, evalIs, fun other inMoved same => ?_⟩
        rcases moved_executions found inMoved with ⟨inside, _⟩ | moving
        · exact early other inside same
        · rw [moving] at same ⊢
          exact earlyNext same
      have finish : HasMessage (w.moved outcome.db executionId outcome.phase) id ->
          HasMessage (outcome.enqueued.elim (w.moved outcome.db executionId outcome.phase)
            (w.moved outcome.db executionId outcome.phase).enqueue) id := by
        intro moved
        cases outcome.enqueued with
        | none => exact moved
        | some enqueued => exact moved.enqueue enqueued
      by_cases own : execution.message.jobId = message.jobId
      · have sameMessage : execution.message = message :=
          (consistent.executed execution member).2 message inQueue own.symm
        have evalSame : execution.message.evalId = id := by
          rw [sameMessage]
          exact evalIs
        rcases beforeRunning_of_next (early execution member own) with
          ⟨_, earlyNext⟩ | deferring | marking
        · apply finish
          apply stays
          intro _
          rw [advance_phase advanced]
          exact earlyNext
        · rw [deferring] at advanced
          have moved : QueueConsistent (w.moved outcome.db executionId outcome.phase) :=
            consistent.moved found
          rw [advance_enqueued advanced, <- evalSame]
          exact .of_enqueue moved _ _
        · rw [<- evalSame] at after
          have running := step_marking stepped found marking after
          rw [running] at pending
          cases pending
      · apply finish
        apply stays
        intro same
        exact absurd same own
  | _ => exact has.congr rfl rfl

/-! ## What is about to be enqueued -/

/-- An evaluation that a process is about to enqueue still is, or its message is
in the queue. -/
theorem ToBeEnqueued.step (consistent : QueueConsistent w) (waiting : ToBeEnqueued w id)
    (stepped : Worker.step settings w action = some next) (keeps : keepsWaiting id w action =
      true) :
    HasMessage next id ∨ ToBeEnqueued next id := by
  have sameProcesses : next.triggers = w.triggers -> next.ticks = w.ticks ->
      HasMessage next id ∨ ToBeEnqueued next id := by
    intro triggers ticks
    apply Or.inr
    unfold ToBeEnqueued
    rw [triggers, ticks]
    exact waiting
  cases step_cases stepped with
  | trigger triggerId request db committed process processIs fresh =>
      apply Or.inr
      rcases waiting with ⟨other, inside, listed⟩ | ticking
      · exact Or.inl ⟨other, (mem_insert _ _ fresh _).mpr (Or.inl inside), listed⟩
      · exact Or.inr ticking
  | triggerEnqueue triggerId process evalId rest found next =>
      rcases waiting with ⟨other, inside, listed⟩ | ticking
      · by_cases same : other.id = triggerId
        · have sameProcess : other = process := by
            have here := find_of_mem inside
            rw [same, found] at here
            exact (Option.some.inj here).symm
          rw [sameProcess, next] at listed
          rcases List.mem_cons.mp listed with head | tail
          · rw [head]
            exact Or.inl ((HasMessage.of_enqueue consistent evalId 0).congr rfl rfl)
          · refine Or.inr (Or.inl ⟨{ process with toEnqueue := rest }, ?_, tail⟩)
            exact (mem_update _ _ _ (fun _ => by rfl) _).mpr (Or.inr ⟨process, found, rfl⟩)
        · refine Or.inr (Or.inl ⟨other, ?_, listed⟩)
          exact (mem_update _ _ _ (fun _ => by rfl) _).mpr (Or.inl ⟨inside, same⟩)
      · rcases ticking with ⟨tick, inside, enqueueing⟩
        refine Or.inr (Or.inr ⟨tick, ?_, enqueueing⟩)
        change tick ∈ (w.enqueue (.runEvaluation evalId 0)).ticks.rows
        rw [enqueue_ticks]
        exact inside
  | triggerEnd triggerId =>
      rcases waiting with ⟨other, inside, listed⟩ | ticking
      · by_cases same : other.id = triggerId
        · have here := find_of_mem inside
          unfold keepsWaiting at keeps
          simp only [<- same, here, Option.all_some, List.contains_eq_mem, listed, decide_true,
            Bool.not_true, Bool.false_eq_true] at keeps
        · exact Or.inr (Or.inl ⟨other, (mem_delete _ _ _).mpr ⟨inside, same⟩, listed⟩)
      · exact Or.inr (Or.inr ticking)
  | watchdogFind tickId tick tickIs fresh =>
      apply Or.inr
      rcases waiting with triggering | ⟨other, inside, enqueueing⟩
      · exact Or.inl triggering
      · exact Or.inr ⟨other, (mem_insert _ _ fresh _).mpr (Or.inl inside), enqueueing⟩
  | watchdogUpdate tickId tick stuckEval rest found nothing next =>
      apply Or.inr
      rcases waiting with triggering | ⟨other, inside, enqueueing⟩
      · exact Or.inl triggering
      · have different : other.id ≠ tickId := by
          intro same
          have here := find_of_mem inside
          rw [same, found] at here
          rw [<- Option.some.inj here, nothing] at enqueueing
          cases enqueueing
        refine Or.inr ⟨other, ?_, enqueueing⟩
        exact (mem_update _ _ _ (fun _ => by rfl) _).mpr (Or.inl ⟨inside, different⟩)
  | watchdogEnqueue tickId tick evalId found next =>
      rcases waiting with ⟨process, inside, listed⟩ | ⟨other, inside, enqueueing⟩
      · refine Or.inr (Or.inl ⟨process, ?_, listed⟩)
        change process ∈ (w.enqueue (.runEvaluation evalId 0)).triggers.rows
        rw [enqueue_triggers]
        exact inside
      · by_cases same : other.id = tickId
        · have sameTick : other = tick := by
            have here := find_of_mem inside
            rw [same, found] at here
            exact (Option.some.inj here).symm
          rw [sameTick, next] at enqueueing
          rw [<- Option.some.inj enqueueing]
          exact Or.inl ((HasMessage.of_enqueue consistent evalId 0).congr rfl rfl)
        · refine Or.inr (Or.inr ⟨other, ?_, enqueueing⟩)
          exact (mem_update _ _ _ (fun _ => by rfl) _).mpr (Or.inl ⟨inside, same⟩)
  | watchdogEnd tickId =>
      apply Or.inr
      rcases waiting with triggering | ⟨other, inside, enqueueing⟩
      · exact Or.inl triggering
      · have different : other.id ≠ tickId := by
          intro same
          have here := find_of_mem inside
          unfold keepsWaiting at keeps
          simp only [<- same, here, Option.all_some, enqueueing, ne_eq, not_true_eq_false,
            decide_false, Bool.false_eq_true] at keeps
        exact Or.inr ⟨other, (mem_delete _ _ _).mpr ⟨inside, different⟩, enqueueing⟩
  | advance executionId workerId checkFails adapter execution outcome found advanced =>
      apply sameProcesses
      · cases outcome.enqueued with
        | none => rfl
        | some enqueued => exact enqueue_triggers _ enqueued
      · cases outcome.enqueued with
        | none => rfl
        | some enqueued => exact enqueue_ticks _ enqueued
  | _ => exact sameProcesses rfl rfl

/-! ## No pending evaluation is lost -/

theorem RowChange.pending_of_apply {change : RowChange}
    (pending : (change.apply row).status = .pending) :
    Exists fun stuckJobRetries => change = .requeued stuckJobRetries := by
  cases change with
  | requeued stuckJobRetries => exact ⟨stuckJobRetries, rfl⟩
  | running now workerId => cases pending
  | failed jobStats => cases pending
  | completed values indicatorRows => cases indicatorRows <;> cases pending

theorem step_requeues (stepped : Worker.step settings w action = some next) {write : Write}
    {stuckJobRetries : Nat} (written : action.write settings w = some write)
    (requeues : write.change = .requeued stuckJobRetries) : ToBeEnqueued next write.evalId := by
  cases step_cases stepped with
  | advance executionId workerId checkFails adapter execution outcome found advanced =>
      simp only [Action.write, found, Option.bind_some] at written
      cases phaseIs : execution.phase with
      | marking =>
          rw [phaseIs] at written
          cases written
          cases requeues
      | failing error =>
          rw [phaseIs] at written
          cases written
          cases requeues
      | writing snapshot sloDef fetchResult =>
          rw [phaseIs] at written
          simp only [phaseWrite, completedWrite] at written
          split at written
          · cases written
            cases requeues
          · cases evaluation : w.db.evaluations.find snapshot.evalId with
            | none =>
                rw [evaluation] at written
                cases written
            | some row =>
                rw [evaluation] at written
                rcases Option.map_eq_some_iff.mp written with ⟨rows, _, same⟩
                rw [<- same] at requeues
                cases requeues
      | _ =>
          rw [phaseIs] at written
          cases written
  | watchdogUpdate tickId tick stuckEval rest found nothing waiting =>
      simp only [Action.write, found, Option.bind_some, waiting, List.head?_cons,
        Option.map_some] at written
      have writeIs : watchdogWrite settings stuckEval = write := Option.some.inj written
      have updated : { tick with
          remaining := rest, toEnqueue := watchdogRequeued settings stuckEval } ∈
          (w.ticks.update tickId
            (fun tick => { tick with
              remaining := rest, toEnqueue := watchdogRequeued settings stuckEval })
            fun _ => rfl).rows :=
        (mem_update _ _ _ _ _).mpr (Or.inr ⟨tick, found, rfl⟩)
      refine Or.inr ⟨_, updated, ?_⟩
      rw [<- writeIs] at requeues ⊢
      unfold watchdogWrite at requeues
      unfold watchdogRequeued watchdogWrite
      dsimp only at requeues ⊢
      by_cases exceeded : settings.maxStuckJobRetries ≤ stuckAttempts stuckEval
      · rw [if_pos exceeded] at requeues
        cases requeues
      · rw [if_neg exceeded]
  | _ => cases written

theorem step_becomes_pending (stepped : Worker.step settings w action = some next)
    (after : next.db.evaluations.find id = some row) (pending : row.status = .pending) :
    (Exists fun old => w.db.evaluations.find id = some old ∧ old.status = .pending) ∨
      ToBeEnqueued next id := by
  have rowKey : row.id = id := find_key after
  rcases step_find_origin stepped after with
    ⟨old, oldFound, same⟩ | ⟨absent, triggerId, request, triggered, ctx, assetTags, member, rowIs⟩
  · rcases rowAfter_cases (action.write settings w) old with
      unchanged | ⟨write, written, targeted, applied⟩
    · rw [same, unchanged] at pending
      exact Or.inl ⟨old, oldFound, pending⟩
    · have oldKey : old.id = id := find_key oldFound
      rw [same, applied] at pending
      rcases RowChange.pending_of_apply pending with ⟨stuckJobRetries, requeues⟩
      have waiting := step_requeues stepped written requeues
      rw [<- targeted, oldKey] at waiting
      exact Or.inr waiting
  · subst triggered
    cases step_cases stepped with
    | trigger _ _ db committed process processIs fresh =>
        refine Or.inr (Or.inl ⟨process, ?_, ?_⟩)
        · exact (mem_insert _ _ fresh _).mpr (Or.inr rfl)
        · rw [processIs, <- rowKey]
          exact List.mem_map_of_mem (f := Prod.fst) member

theorem NotLost.step (notLost : NotLost id w) (keeps : keepsWaiting id w action = true)
    (stepped : Worker.step settings w action = some next) : NotLost id next where
  queue := notLost.queue.step stepped
  carried := by
    intro row after pending
    rcases step_becomes_pending stepped after pending with ⟨old, oldFound, oldPending⟩ | waiting
    · rcases notLost.carried old oldFound oldPending with has | waiting
      · exact Or.inl (has.step notLost.queue stepped after pending)
      · exact waiting.step notLost.queue stepped keeps
    · exact Or.inr waiting

theorem NotLost.of_initial (initial : w.Initial) (id : Nat) : NotLost id w where
  queue := by
    refine ⟨fun message member => ?_, fun first second member => ?_, fun execution member => ?_⟩
    · rw [initial.noMessages] at member
      exact absurd member List.not_mem_nil
    · rw [initial.noMessages] at member
      exact absurd member List.not_mem_nil
    · rw [initial.noExecutions] at member
      exact absurd member List.not_mem_nil
  carried := by
    intro row found
    rw [initial.noEvaluations, find_empty] at found
    cases found

end Step

/-- In a run in which no trigger request and no watchdog run dies with a certain
evaluation left to enqueue, that evaluation, whenever it is pending, has a message
in the queue that no execution has carried through phase 1, or a live process is
about to enqueue one. -/
theorem pending_not_lost {settings : Settings} {start final : World} {actions : List Action}
    {id : Nat} {row : SLOEvaluation} (initial : start.Initial)
    (keeps : Along (step settings) (fun w action => keepsWaiting id w action = true) start actions)
    (ran : exec (step settings) start actions = some final)
    (found : final.db.evaluations.find id = some row) (pending : row.status = .pending) :
    HasMessage final id ∨ ToBeEnqueued final id := by
  have notLost : NotLost id final :=
    exec_preserves_along
      (fun _ _ _ (notLost : NotLost id _) keeps stepped => notLost.step keeps stepped)
      (NotLost.of_initial initial id) keeps ran
  exact notLost.carried row found pending

/-- A later evaluation is deferred behind an earlier one whose worker has died. -/
def Sample.deferral : List Action :=
  [.trigger 1 (request 1 10 0), .trigger 2 (request 2 20 3600000000), .triggerEnqueue 1,
    .triggerEnqueue 2, .triggerEnd 1, .triggerEnd 2, .deliver 1 0, advance 1, advance 1, .crash 1,
    .deliver 2 1, advance 2, advance 2, .acknowledge 2]

theorem deferral_not_lost :
    Exists fun final => exec (step {}) Sample.world Sample.deferral = some final ∧
      final.statusOf 20 = some .pending ∧ (HasMessage final 20 ∨ ToBeEnqueued final 20) := by
  have status : (exec (step {}) Sample.world Sample.deferral).bind (·.statusOf 20) =
      some .pending := by
    decide +kernel
  rcases Option.bind_eq_some_iff.mp status with ⟨final, ran, finalStatus⟩
  rcases Option.map_eq_some_iff.mp finalStatus with ⟨row, found, pending⟩
  exact ⟨final, ran, finalStatus,
    pending_not_lost Sample.world_initial (by decide +kernel) ran found pending⟩

/-- A job for the evaluation is queued or being executed, or the watchdog will at
some time select it. -/
def Covered (settings : Settings) (w : World) (evalId : Nat) : Prop :=
  (Exists fun message => message ∈ w.queue ∧ message.evalId = evalId) ∨
    (Exists fun execution => execution ∈ w.executions.rows ∧
      execution.message.evalId = evalId) ∨
    Exists fun now => Exists fun row =>
      row ∈ findStuck w.db.evaluations now settings.stuckJobThreshold ∧ row.id = evalId

def Sample.triggerCrash : List Action :=
  [.trigger 1 (request 1 10 0), .triggerEnd 1]

theorem triggerCrash_loses_evaluation :
    ¬ forall w, Reachable {} w -> forall id row, w.db.evaluations.find id = some row ->
      row.status = .pending -> Covered {} w id := by
  intro claim
  have status : (exec (step {}) Sample.world Sample.triggerCrash).bind (·.statusOf 10) =
      some .pending := by
    decide +kernel
  have empty : (exec (step {}) Sample.world Sample.triggerCrash).all fun w =>
      w.queue.isEmpty && w.executions.rows.isEmpty := by
    decide +kernel
  rcases Option.bind_eq_some_iff.mp status with ⟨final, ran, finalStatus⟩
  rcases Option.map_eq_some_iff.mp finalStatus with ⟨row, found, pending⟩
  rw [ran] at empty
  have nothing := Bool.and_eq_true_iff.mp empty
  have noMessages : final.queue = [] := List.isEmpty_iff.mp nothing.1
  have noExecutions : final.executions.rows = [] := List.isEmpty_iff.mp nothing.2
  have reached : Reachable {} final := ⟨Sample.world, Sample.triggerCrash, Sample.world_initial, ran⟩
  rcases claim final reached 10 row found pending with
    ⟨message, inQueue, _⟩ | ⟨execution, member, _⟩ | ⟨now, stuck, selected, idIs⟩
  · rw [noMessages] at inQueue
    exact List.not_mem_nil inQueue
  · rw [noExecutions] at member
    exact List.not_mem_nil member
  · have running := mem_findStuck.mp selected
    have here := find_of_mem running.1
    rw [idIs, found] at here
    have same : row = stuck := Option.some.inj here
    rw [<- same, pending] at running
    cases running.2.1

end Worker
end Tropek
