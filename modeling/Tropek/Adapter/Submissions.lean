import Tropek.Adapter.Strategies

namespace Tropek
namespace Adapter

open Library Engine Store Registry

/-!
# Submissions, and calls that raise

The adapter with every Redis call of a submission as a step of its own, and with steps for
the calls that raise.  A submission checks the depth of the queue, writes the hash of its
job, stores the queries and enqueues the job, in this order.  A call that raises may have
been carried out by Redis before.  It ends its caller: the submission, the query, or
`process_one`, after which the coordinator polls again.

A request for a status or for a cancel that raises stops where it is and takes no further
step.
-/

/-- Where `submit` is.  The id of the job is made for the write of its hash.
`admitted`: the queue has room; `stored`: the queries are stored as well. -/
inductive SubmitPhase where
  | asked
  | admitted
  | created (jobId : Nat)
  | stored (jobId : Nat)
  | returned (jobId : Nat)
  | refused
  | raised
deriving DecidableEq, Repr

structure Submission where
  id : Nat
  queries : Dict SpecDict
  phase : SubmitPhase := .asked

def Submission.setPhase (phase : SubmitPhase) (submission : Submission) : Submission :=
  { submission with phase }

theorem Submission.setPhase_id (phase : SubmitPhase) (submission : Submission) :
    (submission.setPhase phase).id = submission.id :=
  rfl

/-- The store with the submissions beside it, each of which makes its calls one by one
and may fail between any two of them. -/
structure AdapterService extends JobWorld where
  submissions : KeyedTable Submission.id := .empty

def AdapterService.setSubmitPhase (w : AdapterService) (submissionId : Nat) (phase : SubmitPhase) :
    AdapterService :=
  { w with submissions :=
      w.submissions.update submissionId (Submission.setPhase phase) (Submission.setPhase_id phase) }

def specsOf (queries : Dict SpecDict) : List (String × SpecDict) :=
  queries.entries.map fun entry => (entry.1, entry.2)

def AdapterService.submitCall (maxQueueDepth : Nat) (w : AdapterService) (submission : Submission)
    (jobId : Nat) (now : Instant) : Option AdapterService :=
  match submission.phase with
  | .asked =>
      some (w.setSubmitPhase submission.id
        (if maxQueueDepth ≤ w.pending.length then .refused else .admitted))
  | .admitted =>
      if w.knownIds.contains jobId then none
      else
        some { w.setSubmitPhase submission.id (.created jobId) with
          jobs := hset w.jobs jobId (JobHash.setCreated (specsOf submission.queries).length now)
            (JobHash.setCreated_id (specsOf submission.queries).length now)
          knownIds := jobId :: w.knownIds }
  | .created created =>
      some { w.setSubmitPhase submission.id (.stored created) with
        queries := w.queries.upsert { id := created, queries := specsOf submission.queries }
          (fun stored => { stored with queries := specsOf submission.queries }) fun _ => rfl }
  | .stored stored =>
      some { w.setSubmitPhase submission.id (.returned stored) with
        pending := w.pending ++ [stored] }
  | .returned _ => none
  | .refused => none
  | .raised => none

/-- What happens in the service, one call at a time.  A call that raises may have been
carried out all the same.  `submitCall`: the next call of a submission, and a job id is
new when a hash is written under it; `submitRaises`: the next call of a submission
raises, and Redis may have carried it out; `dequeueRaises`: Redis takes a job from the
queue, and its answer is lost; `query`: the next call of a query, or its strategy, with
the client, the variables and the window that the strategy is given. -/
inductive ServiceEvent where
  | submit (submissionId : Nat) (queries : Dict SpecDict)
  | submitCall (submissionId jobId : Nat) (now : Instant)
  | submitRaises (submissionId jobId : Nat) (now : Instant) (carriedOut : Bool)
  | dequeue (processorId : Nat)
  | dequeueRaises
  | process (processorId : Nat) (now : Instant)
  | processRaises (processorId : Nat) (now : Instant) (carriedOut : Bool)
  | query (processorId index : Nat) (client : PrometheusClient) (vars : Dict String)
      (start finish : Instant)
  | queryRaises (processorId index : Nat) (carriedOut : Bool)
  | cancel (cancelId jobId : Nat)
  | cancelCall (cancelId : Nat)
  | readStatus (jobId : Nat)
  | expire (jobId : Nat)

def AdapterService.act (w : AdapterService) (action : Action) : Option AdapterService :=
  (step w.toJobWorld action).map fun next => { w with toJobWorld := next }

def QueryTask.outcome (client : PrometheusClient) (vars : Dict String) (start finish : Instant) :
    QueryTask -> StrategyOutcome
  | .executing sliName spec => execute client sliName spec vars start finish
  | .waiting _ _ => .raised ""
  | .writing _ => .raised ""

def AdapterService.query (w : AdapterService) (processor : Processor) (index : Nat)
    (client : PrometheusClient) (vars : Dict String) (start finish : Instant) :
    Option AdapterService :=
  match processor.phase with
  | .querying tasks => do
      let task <- tasks[index]?
      let next <- w.runQuery processor index (task.outcome client vars start finish)
      return { w with toJobWorld := next }
  | _ => none

/-- `gather` keeps what a query raises and lets the others go on.  A strategy that raises is
no such case: that is recorded. -/
def AdapterService.queryRaises (w : AdapterService) (processor : Processor) (index : Nat)
    (carriedOut : Bool) : Option AdapterService :=
  match processor.phase with
  | .querying tasks => do
      let task <- tasks[index]?
      let ended := w.setPhase processor.id (.querying (tasks.set index (.writing [])))
      match task with
      | .waiting _ _ => some { w with toJobWorld := ended }
      | .writing (call :: _) =>
          some { w with toJobWorld := if carriedOut then ended.call processor.jobId call else ended }
      | .executing _ _ => none
      | .writing [] => none
  | _ => none

def serviceStep (maxQueueDepth : Nat) (w : AdapterService) : ServiceEvent -> Option AdapterService
  | .submit submissionId queries =>
      let submission : Submission := { id := submissionId, queries }
      if fresh : w.submissions.find submission.id = none then
        some { w with submissions := w.submissions.insert submission fresh }
      else none
  | .submitCall submissionId jobId now => do
      let submission <- w.submissions.find submissionId
      w.submitCall maxQueueDepth submission jobId now
  | .submitRaises submissionId jobId now carriedOut => do
      let submission <- w.submissions.find submissionId
      let next <- w.submitCall maxQueueDepth submission jobId now
      return (if carriedOut then next else w).setSubmitPhase submissionId .raised
  | .dequeue processorId => w.act (.dequeue processorId)
  | .dequeueRaises =>
      match w.pending with
      | [] => none
      | _ :: rest => some { w with pending := rest }
  | .process processorId now => w.act (.process processorId now)
  | .processRaises processorId now carriedOut => do
      let processor <- w.processors.find processorId
      let next <- w.process processor now
      return { w with toJobWorld :=
        (if carriedOut then next else w.toJobWorld).setPhase processorId .ended }
  | .query processorId index client vars start finish => do
      let processor <- w.processors.find processorId
      w.query processor index client vars start finish
  | .queryRaises processorId index carriedOut => do
      let processor <- w.processors.find processorId
      w.queryRaises processor index carriedOut
  | .cancel cancelId jobId => w.act (.cancel cancelId jobId)
  | .cancelCall cancelId => w.act (.cancelCall cancelId)
  | .readStatus jobId => w.act (.readStatus jobId)
  | .expire jobId => w.act (.expire jobId)

/-- The results of a job are stored under its id, so that there are none before. -/
structure AdapterService.Initial (w : AdapterService) : Prop extends
    JobWorld.Initial w.toJobWorld where
  noResults : w.results = fun _ => ∅
  noSubmissions : w.submissions = .empty

/-- The status is `queued` or `running`. -/
def isLive : Option JobStatus -> Bool
  | some .queued => true
  | some .running => true
  | _ => false

def JobHash.counted (hash : JobHash) : Nat :=
  hash.completedCount.getD 0 + hash.failedCount.getD 0

/-- `process_one` has taken the job and has not returned. -/
def JobWorld.Processed (w : JobWorld) (jobId : Nat) : Prop :=
  Exists fun processor => processor ∈ w.processors.rows ∧ processor.jobId = jobId ∧
    processor.phase ≠ .ended

def SubmitPhase.job? : SubmitPhase -> Option Nat
  | .created jobId => some jobId
  | .stored jobId => some jobId
  | _ => none

def AdapterService.Submitting (w : AdapterService) (jobId : Nat) : Prop :=
  Exists fun submission => submission ∈ w.submissions.rows ∧ submission.phase.job? = some jobId

/-- A live job is in the queue or processed, once its submission is over; the counters stay
within the total; and those of a completed job are the total and the number of results. -/
structure JobAccounted (w : AdapterService) (jobId : Nat) : Prop where
  held : isLive (w.statusOf jobId) = true ->
    jobId ∈ w.pending ∨ w.Processed jobId ∨ w.Submitting jobId
  bounded : forall hash, w.jobs.find jobId = some hash -> hash.counted ≤ hash.totalQueries.getD 0
  complete : forall hash, w.jobs.find jobId = some hash -> hash.status = some .completed ->
    hash.totalQueries = some hash.counted ∧ (w.results jobId).keys.length = hash.counted

def Accounted (w : AdapterService) : Prop :=
  forall jobId, JobAccounted w jobId

def SpecDict.asked (spec : SpecDict) : Option (List AggregationMethod) :=
  if spec.modeName = "aggregated" then
    match aggregatedSpec spec with
    | .ok (_, _, methods) => some methods
    | .error _ => none
  else none

def possibleNames (query : String × SpecDict) : List String :=
  query.1 :: (query.2.asked.getD []).map (methodKey query.1)

/-- Each query has one result, and no two of them can have it under the same name. -/
structure Countable (queries : List (String × SpecDict)) : Prop where
  single : forall query, query ∈ queries -> forall methods, methods ∈ query.2.asked ->
    methods.dedup.length = 1
  apart : queries.Pairwise fun query other =>
    forall name, name ∈ possibleNames query -> name ∉ possibleNames other

instance (queries : List (String × SpecDict)) : Decidable (Countable queries) :=
  decidable_of_iff
    ((forall query, query ∈ queries -> forall methods, methods ∈ query.2.asked ->
        methods.dedup.length = 1) ∧
      queries.Pairwise fun query other =>
        forall name, name ∈ possibleNames query -> name ∉ possibleNames other)
    ⟨fun both => ⟨both.1, both.2⟩, fun countable => ⟨countable.single, countable.apart⟩⟩

/-- The status after the call of `process_one`, if Redis carries it out. -/
def ProcessorPhase.statusAfter (status : Option JobStatus) : ProcessorPhase -> Option JobStatus
  | .starting => some .running
  | .timed _ => some .completed
  | _ => status

def ResultCall.isMetadata : ResultCall -> Bool
  | .setMetadata _ _ => true
  | .setResult _ _ => false
  | .count _ => false

def SubmitPhase.leavesNone (w : JobWorld) (carriedOut : Bool) : SubmitPhase -> Bool
  | .admitted => !carriedOut
  | .created jobId => !isLive (w.statusOf jobId)
  | .stored jobId => carriedOut || !isLive (w.statusOf jobId)
  | _ => true

def QueryTask.hasReported (carriedOut : Bool) : QueryTask -> Bool
  | .writing [] => true
  | .writing (call :: rest) =>
      (carriedOut || call.isMetadata) && rest.all ResultCall.isMetadata
  | .waiting _ _ => false
  | .executing _ _ => false

def ProcessorPhase.hasReported (index : Nat) (carriedOut : Bool) : ProcessorPhase -> Bool
  | .querying tasks => tasks[index]?.all (QueryTask.hasReported carriedOut)
  | _ => true

/-- The step neither strands a job nor loses a result of one that will be completed.  The
queries of a submission are such that their results can be counted. -/
def Handled (w : AdapterService) : ServiceEvent -> Prop
  | .submit _ queries => Countable (specsOf queries)
  | .submitRaises submissionId _ _ carriedOut =>
      forall submission, submission ∈ w.submissions.find submissionId ->
        submission.phase.leavesNone w.toJobWorld carriedOut = true
  | .dequeueRaises => forall jobId, jobId ∈ w.pending.head? -> isLive (w.statusOf jobId) = false
  | .processRaises processorId _ carriedOut =>
      forall processor, processor ∈ w.processors.find processorId ->
        isLive (if carriedOut then processor.phase.statusAfter (w.statusOf processor.jobId)
          else w.statusOf processor.jobId) = false
  | .queryRaises processorId index carriedOut =>
      forall processor, processor ∈ w.processors.find processorId ->
        w.statusOf processor.jobId = some .cancelled ∨
          processor.phase.hasReported index carriedOut = true
  | .submitCall _ _ _ => True
  | .dequeue _ => True
  | .process _ _ => True
  | .query _ _ _ _ _ _ => True
  | .cancel _ _ => True
  | .cancelCall _ => True
  | .readStatus _ => True
  | .expire _ => True

instance (w : AdapterService) : forall event, Decidable (Handled w event)
  | .submit _ queries => inferInstanceAs (Decidable (Countable (specsOf queries)))
  | .submitRaises _ _ _ _ => Option.decidableForallMem _
  | .dequeueRaises => Option.decidableForallMem _
  | .processRaises _ _ _ => Option.decidableForallMem _
  | .queryRaises _ _ _ => Option.decidableForallMem _
  | .submitCall _ _ _ => inferInstanceAs (Decidable True)
  | .dequeue _ => inferInstanceAs (Decidable True)
  | .process _ _ => inferInstanceAs (Decidable True)
  | .query _ _ _ _ _ _ => inferInstanceAs (Decidable True)
  | .cancel _ _ => inferInstanceAs (Decidable True)
  | .cancelCall _ => inferInstanceAs (Decidable True)
  | .readStatus _ => inferInstanceAs (Decidable True)
  | .expire _ => inferInstanceAs (Decidable True)

end Adapter
end Tropek
