import Tropek.Library.KeyedTable
import Tropek.Library.TransitionSystem
import Tropek.Worker.Execution

namespace Tropek
namespace Adapter

open Library Engine Store

/-!
# Jobs of the Prometheus adapter

A job is a hash in Redis.  The coordinator takes its id from a list, checks its status,
marks it as running, carries out its queries, checks its status again and marks it as
completed.  A cancel request checks the status and writes it.  Each Redis call is a step
of its own, so that anything may happen between a check and the write that follows it.

The queries of a job run concurrently, and each of them writes its results one call at
a time.  What a strategy answers is part of the action.  Several coordinators may share
one Redis.
-/

inductive JobStatus where
  | queued
  | running
  | completed
  | cancelled
  | timedOut
deriving DecidableEq, Repr

/-- The hash `job:{id}`, with its fields as they are written one after the other; an
absent field has not been written.  `expires`: a time to live has been set. -/
structure JobHash where
  id : Nat
  status : Option JobStatus := none
  createdAt : Option Instant := none
  totalQueries : Option Nat := none
  completedCount : Option Nat := none
  failedCount : Option Nat := none
  completedAt : Option Instant := none
  durationMs : Option Int := none
  expires : Bool := false
deriving DecidableEq, Repr

/-- A query spec as the adapter receives it.  A key that the dictionary lacks is null. -/
structure SpecDict where
  mode : Option String := none
  query : Option String := none
  queryTemplate : Option String := none
  interval : Option String := none
  methods : Option (List String) := none
deriving DecidableEq, Repr

/-- The string at the `queries` key of a job. -/
structure JobQueries where
  id : Nat
  queries : List (String × SpecDict)
deriving DecidableEq, Repr

structure StoredResult where
  value : Option ℚ
  success : Bool
  message : String
  queryExecuted : String
deriving DecidableEq, Repr

structure QueryMetadata where
  expectedSamples : Nat
  actualSamples : Nat
  missingPct : ℚ
  chunksFailed : Nat
deriving DecidableEq, Repr

abbrev Jobs :=
  KeyedTable JobHash.id

/-- `HSET`, which creates a missing hash. -/
def hset (jobs : Jobs) (jobId : Nat) (change : JobHash -> JobHash)
    (keeps : forall hash, (change hash).id = hash.id) : Jobs :=
  jobs.upsert (change { id := jobId }) change keeps

theorem find_hset (jobs : Jobs) (jobId : Nat) (change : JobHash -> JobHash)
    (keeps : forall hash, (change hash).id = hash.id) (wanted : Nat) :
    (hset jobs jobId change keeps).find wanted =
      if wanted = jobId then some (change ((jobs.find wanted).getD { id := jobId }))
      else jobs.find wanted := by
  unfold hset
  rw [KeyedTable.find_upsert, keeps]
  cases jobs.find wanted <;> rfl

inductive StrategyOutcome where
  | answered (values : Dict (Option ℚ)) (errors : Dict String) (metadata : Option QueryMetadata)
  | raised (message : String)

/-- The calls that one query makes on the store when it reports.  `count`: `HINCRBY` of
one of the two counters. -/
inductive ResultCall where
  | setResult (indicator : String) (result : StoredResult)
  | count (success : Bool)
  | setMetadata (sliName : String) (metadata : QueryMetadata)
deriving DecidableEq

def writeResult (indicator : String) (value : Option ℚ) (success : Bool) (message : String)
    (queryExecuted : String) : List ResultCall :=
  [.setResult indicator { value, success, message, queryExecuted }, .count success]

def SpecDict.queryExecuted (spec : SpecDict) : String :=
  spec.query.getD (spec.queryTemplate.getD "")

def SpecDict.modeName (spec : SpecDict) : String :=
  spec.mode.getD "raw"

def SpecDict.isSupported (spec : SpecDict) : Bool :=
  ["raw", "aggregated"].contains spec.modeName

def unsupportedCalls (sliName : String) (spec : SpecDict) : List ResultCall :=
  writeResult sliName none false s!"unsupported mode: {spec.modeName}" ""

/-- The calls of `_run_query` once its strategy has answered or raised. -/
def recordCalls (sliName : String) (spec : SpecDict) : StrategyOutcome -> List ResultCall
  | .raised message => writeResult sliName none false message spec.queryExecuted
  | .answered values errors metadata =>
      (values.entries.flatMap fun entry =>
        writeResult entry.1 entry.2 (errors.lookup entry.1).isNone
          ((errors.lookup entry.1).getD "") spec.queryExecuted) ++
        metadata.toList.map (.setMetadata sliName)

/-- A query before its status check, before its strategy, and while it writes. -/
inductive QueryTask where
  | waiting (sliName : String) (spec : SpecDict)
  | executing (sliName : String) (spec : SpecDict)
  | writing (calls : List ResultCall)
deriving DecidableEq

def startTask (query : String × SpecDict) : QueryTask :=
  if query.2.isSupported then .waiting query.1 query.2
  else .writing (unsupportedCalls query.1 query.2)

def QueryTask.isDone : QueryTask -> Bool
  | .writing [] => true
  | _ => false

/-- What `get_status` finds.  A hash that lacks one of the fields raises. -/
inductive StatusRead where
  | missing
  | incomplete
  | found (status : JobStatus)
deriving DecidableEq

def getStatus (jobs : Jobs) (jobId : Nat) : StatusRead :=
  match jobs.find jobId with
  | none => .missing
  | some hash =>
      match hash.status, hash.createdAt, hash.totalQueries, hash.completedCount,
        hash.failedCount with
      | some status, some _, some _, some _, some _ => .found status
      | _, _, _, _, _ => .incomplete

/-- The next call of a query, with what it writes.  A cancelled job ends the query, and so
does a status that cannot be read. -/
def QueryTask.advance (read : StatusRead) (outcome : StrategyOutcome) :
    QueryTask -> Option (QueryTask × Option ResultCall)
  | .waiting sliName spec =>
      match read with
      | .found .cancelled => some (.writing [], none)
      | .incomplete => some (.writing [], none)
      | _ => some (.executing sliName spec, none)
  | .executing sliName spec => some (.writing (recordCalls sliName spec outcome), none)
  | .writing (call :: rest) => some (.writing rest, some call)
  | .writing [] => none

/-- Where `process_one` is, after it has taken a job from the queue.  `starting`: the
status check has let the job through; `completing`: the final check has let the job
through; `timed`: `mark_completed` has read when the job was created; `completed`: the
job gets its time to live next; `expiring`: the number of other keys that still get one.
-/
inductive ProcessorPhase where
  | dequeued
  | starting
  | loadingQueries
  | loadingVariables (queries : List (String × SpecDict))
  | loadingWindow (queries : List (String × SpecDict))
  | querying (tasks : List QueryTask)
  | completing
  | timed (createdAt : Option Instant)
  | completed
  | expiring (remaining : Nat)
  | ended
deriving DecidableEq

structure Processor where
  id : Nat
  jobId : Nat
  phase : ProcessorPhase := .dequeued
deriving DecidableEq

/-- Where a cancel request is between its two calls.  `deciding`: the status that was
read is not a final one. -/
inductive CancelPhase where
  | asked
  | deciding
  | returned (cancelled : Bool)
deriving DecidableEq, Repr

structure CancelRequest where
  id : Nat
  jobId : Nat
  phase : CancelPhase := .asked
deriving DecidableEq, Repr

/-- Redis and the parties that use it, with the job ids that have been created or asked
for. -/
structure JobWorld where
  jobs : Jobs := .empty
  queries : KeyedTable JobQueries.id := .empty
  results : Nat -> Dict StoredResult := fun _ => ∅
  metadata : Nat -> Dict QueryMetadata := fun _ => ∅
  pending : List Nat := []
  processors : KeyedTable Processor.id := .empty
  cancels : KeyedTable CancelRequest.id := .empty
  knownIds : List Nat := []

/-- What happens to the store of the jobs, one call at a time.  `submit`: a job is
created and enqueued, and its id is known to nobody before that; `process`: the next
call of `process_one`, outside its queries; `query`: the next call of one of the
queries; `cancelCall`: the next call of a cancel request; `expire`: the time to live of
a job is over. -/
inductive Action where
  | submit (jobId : Nat) (queries : List (String × SpecDict)) (now : Instant)
  | dequeue (processorId : Nat)
  | process (processorId : Nat) (now : Instant)
  | query (processorId index : Nat) (outcome : StrategyOutcome)
  | cancel (cancelId jobId : Nat)
  | cancelCall (cancelId : Nat)
  | readStatus (jobId : Nat)
  | expire (jobId : Nat)

/-- The mapping that `create_job` writes. -/
def JobHash.setCreated (totalQueries : Nat) (now : Instant) (hash : JobHash) : JobHash :=
  { hash with
    status := some .queued
    createdAt := some now
    totalQueries := some totalQueries
    completedCount := some 0
    failedCount := some 0 }

def JobHash.setStatus (status : JobStatus) (hash : JobHash) : JobHash :=
  { hash with status := some status }

/-- The mapping that `mark_completed` writes. -/
def JobHash.setCompleted (createdAt : Option Instant) (now : Instant) (hash : JobHash) : JobHash :=
  { hash with
    status := some .completed
    completedAt := some now
    durationMs := some (match createdAt with
      | none => 0
      | some start => (now - start) / 1000) }

def JobHash.countResult (success : Bool) (hash : JobHash) : JobHash :=
  if success then { hash with completedCount := some (hash.completedCount.getD 0 + 1) }
  else { hash with failedCount := some (hash.failedCount.getD 0 + 1) }

def JobHash.setExpires (hash : JobHash) : JobHash :=
  { hash with expires := true }

theorem JobHash.setCreated_id (totalQueries : Nat) (now : Instant) (hash : JobHash) :
    (hash.setCreated totalQueries now).id = hash.id :=
  rfl

theorem JobHash.setStatus_id (status : JobStatus) (hash : JobHash) :
    (hash.setStatus status).id = hash.id :=
  rfl

theorem JobHash.setCompleted_id (createdAt : Option Instant) (now : Instant) (hash : JobHash) :
    (hash.setCompleted createdAt now).id = hash.id :=
  rfl

theorem JobHash.countResult_id (success : Bool) (hash : JobHash) :
    (hash.countResult success).id = hash.id := by
  cases success <;> rfl

theorem JobHash.countResult_status (success : Bool) (hash : JobHash) :
    (hash.countResult success).status = hash.status := by
  cases success <;> rfl

theorem JobHash.setExpires_id (hash : JobHash) : hash.setExpires.id = hash.id :=
  rfl

def JobWorld.call (w : JobWorld) (jobId : Nat) : ResultCall -> JobWorld
  | .setResult indicator result =>
      { w with results := Function.update w.results jobId ((w.results jobId).insert indicator result) }
  | .count success =>
      { w with jobs := hset w.jobs jobId (JobHash.countResult success) (JobHash.countResult_id success) }
  | .setMetadata sliName metadata =>
      { w with metadata :=
          Function.update w.metadata jobId ((w.metadata jobId).insert sliName metadata) }

def Processor.setPhase (phase : ProcessorPhase) (processor : Processor) : Processor :=
  { processor with phase }

theorem Processor.setPhase_id (phase : ProcessorPhase) (processor : Processor) :
    (processor.setPhase phase).id = processor.id :=
  rfl

def JobWorld.setPhase (w : JobWorld) (processorId : Nat) (phase : ProcessorPhase) : JobWorld :=
  { w with processors :=
      w.processors.update processorId (Processor.setPhase phase) (Processor.setPhase_id phase) }

def CancelRequest.setPhase (phase : CancelPhase) (request : CancelRequest) : CancelRequest :=
  { request with phase }

theorem CancelRequest.setPhase_id (phase : CancelPhase) (request : CancelRequest) :
    (request.setPhase phase).id = request.id :=
  rfl

def JobWorld.setCancelPhase (w : JobWorld) (cancelId : Nat) (phase : CancelPhase) : JobWorld :=
  { w with cancels :=
      w.cancels.update cancelId (CancelRequest.setPhase phase) (CancelRequest.setPhase_id phase) }

/-- Both checks of `process_one`: only a status that is there and not cancelled lets the
job through. -/
def ifLive (read : StatusRead) (phase : ProcessorPhase) : ProcessorPhase :=
  match read with
  | .found .cancelled => .ended
  | .found _ => phase
  | .missing => .ended
  | .incomplete => .ended

def queriesOf (w : JobWorld) (jobId : Nat) : List (String × SpecDict) :=
  ((w.queries.find jobId).map (·.queries)).getD []

def JobWorld.process (w : JobWorld) (processor : Processor) (now : Instant) : Option JobWorld :=
  match processor.phase with
  | .dequeued =>
      some (w.setPhase processor.id (ifLive (getStatus w.jobs processor.jobId) .starting))
  | .starting =>
      some { w.setPhase processor.id .loadingQueries with
        jobs := hset w.jobs processor.jobId (JobHash.setStatus .running)
          (JobHash.setStatus_id .running) }
  | .loadingQueries =>
      some (w.setPhase processor.id (.loadingVariables (queriesOf w processor.jobId)))
  | .loadingVariables queries => some (w.setPhase processor.id (.loadingWindow queries))
  | .loadingWindow queries => some (w.setPhase processor.id (.querying (queries.map startTask)))
  | .querying tasks =>
      if tasks.all QueryTask.isDone then
        some (w.setPhase processor.id (ifLive (getStatus w.jobs processor.jobId) .completing))
      else none
  | .completing =>
      some (w.setPhase processor.id (.timed ((w.jobs.find processor.jobId).bind (·.createdAt))))
  | .timed createdAt =>
      some { w.setPhase processor.id .completed with
        jobs := hset w.jobs processor.jobId (JobHash.setCompleted createdAt now)
          (JobHash.setCompleted_id createdAt now) }
  | .completed =>
      some { w.setPhase processor.id (.expiring 3) with
        jobs := w.jobs.update processor.jobId JobHash.setExpires JobHash.setExpires_id }
  | .expiring 0 => some (w.setPhase processor.id .ended)
  | .expiring (remaining + 1) => some (w.setPhase processor.id (.expiring remaining))
  | .ended => none

/-- The next call of one query of a job.  The queries of a job run beside each other,
each with its own phase, so that their calls alternate in any way. -/
def JobWorld.runQuery (w : JobWorld) (processor : Processor) (index : Nat)
    (outcome : StrategyOutcome) : Option JobWorld :=
  match processor.phase with
  | .querying tasks => do
      let task <- tasks[index]?
      let (next, call) <- task.advance (getStatus w.jobs processor.jobId) outcome
      let moved := w.setPhase processor.id (.querying (tasks.set index next))
      match call with
      | none => some moved
      | some call => some (moved.call processor.jobId call)
  | _ => none

/-- `cancel`: the status decides, and a job that is not finished is written to. -/
def JobWorld.cancelCall (w : JobWorld) (request : CancelRequest) : Option JobWorld :=
  match request.phase with
  | .asked =>
      match (w.jobs.find request.jobId).bind (·.status) with
      | some .completed | some .timedOut | some .cancelled =>
          some (w.setCancelPhase request.id (.returned false))
      | _ => some (w.setCancelPhase request.id .deciding)
  | .deciding =>
      some { w.setCancelPhase request.id (.returned true) with
        jobs := hset w.jobs request.jobId (JobHash.setStatus .cancelled)
          (JobHash.setStatus_id .cancelled) }
  | .returned _ => none

/-- One call on the store.  A call that its party cannot make in the phase it is in is
no step; every other one takes effect at once, and calls of different parties come in
any order. -/
def step (w : JobWorld) : Action -> Option JobWorld
  | .submit jobId queries now =>
      if w.knownIds.contains jobId then none
      else
        some { w with
          jobs := hset w.jobs jobId (JobHash.setCreated queries.length now)
            (JobHash.setCreated_id queries.length now)
          queries := w.queries.upsert { id := jobId, queries } (fun stored => { stored with queries })
            fun _ => rfl
          pending := w.pending ++ [jobId]
          knownIds := jobId :: w.knownIds }
  | .dequeue processorId =>
      match w.pending with
      | [] => none
      | jobId :: rest =>
          let processor : Processor := { id := processorId, jobId }
          if fresh : w.processors.find processor.id = none then
            some { w with pending := rest, processors := w.processors.insert processor fresh }
          else none
  | .process processorId now => do
      let processor <- w.processors.find processorId
      w.process processor now
  | .query processorId index outcome => do
      let processor <- w.processors.find processorId
      w.runQuery processor index outcome
  | .cancel cancelId jobId =>
      let request : CancelRequest := { id := cancelId, jobId }
      if fresh : w.cancels.find request.id = none then
        some { w with cancels := w.cancels.insert request fresh, knownIds := jobId :: w.knownIds }
      else none
  | .cancelCall cancelId => do
      let request <- w.cancels.find cancelId
      w.cancelCall request
  | .readStatus _ => some w
  | .expire jobId =>
      if (w.jobs.find jobId).any (·.expires) then
        some { w with jobs := w.jobs.delete jobId }
      else none

/-- A store without jobs, which nobody uses yet.  What it contains under other keys is
left open. -/
structure JobWorld.Initial (w : JobWorld) : Prop where
  noJobs : w.jobs = .empty
  nonePending : w.pending = []
  noProcessors : w.processors = .empty
  noCancels : w.cancels = .empty

def Reachable : JobWorld -> Prop :=
  TransitionSystem.Reachable step JobWorld.Initial

def JobWorld.statusOf (w : JobWorld) (jobId : Nat) : Option JobStatus :=
  (w.jobs.find jobId).bind (·.status)

end Adapter
end Tropek
