import Tropek.Library.TransitionSystem
import Tropek.Worker.Job

namespace Tropek
namespace Worker

open Library Engine Store KeyedTable

/-!
# The worker system

A world is the database, the queue of `run_evaluation_job` messages, and the
processes that are in the middle of something: job executions, watchdog ticks
and trigger requests.  An action is one commit, one effect on the queue, or a
crash.  Any number of processes may be under way, and their actions interleave
in every order.

The queue delivers at least once.  A message leaves it only when an execution
of it acknowledges, so it can be delivered again while an execution is under
way, and after a crash.  Time passes between any two actions by any amount.

Database calls and queue calls succeed, except that the predecessor check may
meet a database error, which the job takes for the absence of a predecessor.
-/

structure Execution where
  id : Nat
  message : Message
  phase : Phase

/-- A run of the watchdog after its query.  The rows still to be treated are
kept as they were read, and a requeued evaluation is enqueued after the commit. -/
structure WatchdogTick where
  id : Nat
  remaining : List SLOEvaluation
  toEnqueue : Option Nat

/-- A trigger request after its commit, with the evaluations still to be
enqueued. -/
structure TriggerProcess where
  id : Nat
  toEnqueue : List Nat

/-- The database, the clock, the two queues, and the processes: executions of the job,
runs of the watchdog, and trigger requests that enqueue what they have committed. -/
structure World where
  db : Database
  now : Instant
  queue : List Message := []
  finalizeQueue : List Nat := []
  nextJobId : Nat := 0
  executions : KeyedTable Execution.id := .empty
  ticks : KeyedTable WatchdogTick.id := .empty
  triggers : KeyedTable TriggerProcess.id := .empty

structure TriggerContext where
  assetSnapshot : AssetSnapshot := {}
  assetId : Nat
  sloName : String
  sloVersion : Int
  sliName : String
  sliVersion : Int
  dataSourceName : String

/-- A trigger request, with the references already resolved and an identifier
for each evaluation. -/
structure TriggerRequest where
  runId : Nat
  assetId : Nat
  evalName : String
  periodStart : Instant
  periodEnd : Instant
  vars : Dict String := ∅
  compareTo : Option (Dict String) := none
  contexts : List (Nat × TriggerContext)

def TriggerRequest.params (request : TriggerRequest) (ctx : TriggerContext) : EvalCreateParams :=
  { evaluationId := request.runId
    evaluationName := request.evalName
    periodStart := request.periodStart
    periodEnd := request.periodEnd
    assetSnapshot := ctx.assetSnapshot
    vars := request.vars
    assetId := ctx.assetId
    sloName := ctx.sloName
    sloVersion := some ctx.sloVersion
    sliName := some ctx.sliName
    sliVersion := some ctx.sliVersion
    dataSourceName := some ctx.dataSourceName }

/-- What happens next, in any order: requests, deliveries, phases of executions,
watchdog runs, and deaths of the processes.  `trigger`: the commit of a trigger request;
`triggerEnd`: the request returns, or its process dies; `advance`: the next phase of an
execution; `crash`: the worker dies, or its execution is cancelled; `watchdogFind`: the
query of a watchdog run; `watchdogUpdate`: the transaction for the next row of a
watchdog run; `watchdogEnd`: the watchdog run returns, or its process dies. -/
inductive Action where
  | wait (duration : Nat)
  | trigger (triggerId : Nat) (request : TriggerRequest)
  | triggerEnqueue (triggerId : Nat)
  | triggerEnd (triggerId : Nat)
  | deliver (executionId jobId : Nat)
  | advance (executionId : Nat) (workerId : Option String) (checkFails : Bool)
      (adapter : AdapterQuery -> AdapterOutcome)
  | acknowledge (executionId : Nat)
  | crash (executionId : Nat)
  | watchdogFind (tickId : Nat)
  | watchdogUpdate (tickId : Nat)
  | watchdogEnqueue (tickId : Nat)
  | watchdogEnd (tickId : Nat)

def World.enqueue (w : World) : Enqueued -> World
  | .runEvaluation evalId deferCount =>
      { w with queue := w.queue ++ [{ jobId := w.nextJobId, evalId, deferCount }],
               nextJobId := w.nextJobId + 1 }
  | .finalizeRun runId => { w with finalizeQueue := w.finalizeQueue ++ [runId] }

def createAll (request : TriggerRequest) (db : Database) :
    List (Nat × TriggerContext) -> Option Database
  | [] => some db
  | (id, ctx) :: rest =>
      match createPending db (request.params ctx) id with
      | none => none
      | some db => createAll request db rest

/-- `trigger_evaluate` up to its commit. -/
def triggerCommit (request : TriggerRequest) (db : Database) : Option Database :=
  if fresh : db.runs.find request.runId = none then
    createAll request
      { db with
        runs := db.runs.insert
          { id := request.runId, assetId := request.assetId, evalName := request.evalName,
            compareTo := request.compareTo, periodStart := request.periodStart,
            periodEnd := request.periodEnd, status := .pending } fresh }
      request.contexts
  else none

/-- `int((job_stats or {}).get('stuck_job_retries', 0))` of the row as read. -/
def stuckAttempts (row : SLOEvaluation) : Nat :=
  row.jobStats.stuckJobRetries.getD 0

def exceededStats (attempts : Nat) : JobStats :=
  { stuckJobRetries := some attempts, error := some "exceeded max stuck-job retries" }

def watchdogTransaction (settings : Settings) (stuckEval : SLOEvaluation)
    (table : Evaluations) : Evaluations :=
  if settings.maxStuckJobRetries ≤ stuckAttempts stuckEval then
    markFailed table stuckEval.id (exceededStats (stuckAttempts stuckEval))
  else requeueStuck table stuckEval.id (stuckAttempts stuckEval + 1)

def watchdogRequeued (settings : Settings) (stuckEval : SLOEvaluation) : Option Nat :=
  if settings.maxStuckJobRetries ≤ stuckAttempts stuckEval then none else some stuckEval.id

def step (settings : Settings) (w : World) : Action -> Option World
  | .wait duration => some { w with now := w.now + duration }
  | .trigger triggerId request => do
      let db <- triggerCommit request w.db
      let process : TriggerProcess := { id := triggerId, toEnqueue := request.contexts.map Prod.fst }
      if fresh : w.triggers.find process.id = none then
        some { w with db, triggers := w.triggers.insert process fresh }
      else none
  | .triggerEnqueue triggerId => do
      let process <- w.triggers.find triggerId
      match process.toEnqueue with
      | [] => none
      | evalId :: rest =>
          some { w.enqueue (.runEvaluation evalId 0) with
            triggers := w.triggers.update triggerId
              (fun process => { process with toEnqueue := rest }) fun _ => rfl }
  | .triggerEnd triggerId => some { w with triggers := w.triggers.delete triggerId }
  | .deliver executionId jobId => do
      let message <- w.queue.find? fun message => message.jobId = jobId
      let execution : Execution := { id := executionId, message, phase := .checking }
      if fresh : w.executions.find execution.id = none then
        some { w with executions := w.executions.insert execution fresh }
      else none
  | .advance executionId workerId checkFails adapter => do
      let execution <- w.executions.find executionId
      let input := { now := w.now, workerId, checkFails, adapter }
      let outcome <- Worker.advance settings input execution.message w.db execution.phase
      let w := { w with
        db := outcome.db
        executions := w.executions.update executionId
          (fun execution => { execution with phase := outcome.phase }) fun _ => rfl }
      some (outcome.enqueued.elim w w.enqueue)
  | .acknowledge executionId => do
      let execution <- w.executions.find executionId
      if execution.phase.Ended then
        some { w with queue := w.queue.filter (·.jobId ≠ execution.message.jobId),
                      executions := w.executions.delete executionId }
      else none
  | .crash executionId => some { w with executions := w.executions.delete executionId }
  | .watchdogFind tickId =>
      let remaining := findStuck w.db.evaluations w.now settings.stuckJobThreshold
      let tick : WatchdogTick := { id := tickId, remaining, toEnqueue := none }
      if fresh : w.ticks.find tick.id = none then
        some { w with ticks := w.ticks.insert tick fresh }
      else none
  | .watchdogUpdate tickId => do
      let tick <- w.ticks.find tickId
      match tick.toEnqueue, tick.remaining with
      | none, stuckEval :: rest =>
          some { w with
            db := { w.db with
              evaluations := watchdogTransaction settings stuckEval w.db.evaluations }
            ticks := w.ticks.update tickId
              (fun tick => { tick with
                remaining := rest, toEnqueue := watchdogRequeued settings stuckEval })
              fun _ => rfl }
      | _, _ => none
  | .watchdogEnqueue tickId => do
      let tick <- w.ticks.find tickId
      let evalId <- tick.toEnqueue
      some { w.enqueue (.runEvaluation evalId 0) with
        ticks := w.ticks.update tickId (fun tick => { tick with toEnqueue := none }) fun _ => rfl }
  | .watchdogEnd tickId => some { w with ticks := w.ticks.delete tickId }

/-- Before the first action there are definitions and assets, but no
evaluations, messages or processes. -/
structure World.Initial (w : World) : Prop where
  noEvaluations : w.db.evaluations = .empty
  noMessages : w.queue = []
  noExecutions : w.executions = .empty
  noTicks : w.ticks = .empty
  noTriggers : w.triggers = .empty

def World.statusOf (w : World) (evalId : Nat) : Option EvaluationStatus :=
  (w.db.evaluations.find evalId).map (·.status)

/-- The worlds that some interleaving of requests, executions, watchdog runs and deaths
reaches. -/
def Reachable (settings : Settings) : World -> Prop :=
  TransitionSystem.Reachable (step settings) World.Initial

/-! ## A small installation

One asset, one SLO with a single objective, and one data source that answers
every query.  The worlds below have no evaluation yet.
-/

namespace Sample

def objective : SLOObjectiveRow :=
  { id := 1, sli := "latency", passThreshold := ["<=100"] }

def sloDefinition : SLODefinition :=
  { name := "checkout", version := 1, objectives := empty.insert objective rfl }

def sliDefinition : SLIDefinition :=
  { name := "checkout-sli", version := 1, comparableFromVersion := 1,
    indicators := (∅ : Dict String).insert "latency" "avg(latency)" }

def dataSource : DataSource :=
  { name := "prometheus", adapterUrl := "http://adapter" }

def database : Database :=
  { evaluations := .empty
    runs := .empty
    sloDefinitions := empty.insert sloDefinition rfl
    sliDefinitions := empty.insert sliDefinition rfl
    dataSources := empty.insert dataSource rfl
    assets := empty.insert { id := 1, name := "shop" } rfl }

def world : World :=
  { db := database, now := 0 }

theorem world_initial : world.Initial :=
  ⟨rfl, rfl, rfl, rfl, rfl⟩

def request (runId evalId : Nat) (periodStart : Instant) : TriggerRequest :=
  { runId
    assetId := 1
    evalName := "hourly"
    periodStart
    periodEnd := periodStart + 3600000000
    contexts := [(evalId, {
      assetId := 1, sloName := "checkout", sloVersion := 1, sliName := "checkout-sli",
      sliVersion := 1, dataSourceName := "prometheus" })] }

def adapter (_ : AdapterQuery) : AdapterOutcome :=
  .response ((∅ : Dict (Option ℚ)).insert "latency" (some 50)) ∅

/-- The next phase of an execution, when the database and the adapter answer. -/
def advance (executionId : Nat) : Action :=
  .advance executionId (some "worker") false adapter

/-- The phases of a job that goes from the predecessor check to the finalize
message. -/
def wholeJob (executionId : Nat) : List Action :=
  List.replicate 6 (advance executionId)

def completedRun : List Action :=
  [.trigger 1 (request 1 10 0), .triggerEnqueue 1, .deliver 1 0] ++ wholeJob 1

end Sample

end Worker
end Tropek
