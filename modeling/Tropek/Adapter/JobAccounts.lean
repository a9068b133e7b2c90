import Tropek.Adapter.Processing

namespace Tropek
namespace Adapter

open Library Engine Store Registry TransitionSystem KeyedTable

/-!
# Accounting for jobs

No call of Redis that raises is tried again.  Once `process_one` has taken a job from the
queue, a call of it that raises leaves the job queued or running forever, and so does an
enqueue that raises after the job was created.  The total of a job counts its queries, and
the counters count its results, of which an aggregated query has one for each method; and
the results of two queries can have the same name.

A run in which nothing raises at such a point, and in which the queries of every submission
have one result each under names of their own, accounts for all of its jobs.
-/

section Events

variable {w next : AdapterService} {processorId : Nat} {processor : Processor} {now : Instant}

section

variable (holds : Accounting w) (found : w.processors.find processor.id = some processor)

include holds found

theorem Accounting.process {later : JobWorld} (processed : w.process processor now = some later) :
    Accounting { w with toJobWorld := later } ∧ Exists fun phase =>
      later.processors.find processor.id = some (processor.setPhase phase) ∧
        later.statusOf processor.jobId =
          processor.phase.statusAfter (w.statusOf processor.jobId) := by
  have fits := holds.processor_fits (find_mem found)
  rcases process_fits fits processed with ⟨phase, processes⟩
  refine ⟨holds.move found processes.effect processes.fits, phase, ?_, processes.status⟩
  rw [processes.effect.processors]
  exact find_setPhase found

/-- A call of `process_one` that raises leaves no live job behind. -/
theorem Accounting.processRaises {later : JobWorld}
    (processed : w.process processor now = some later) {carriedOut : Bool}
    (dead : isLive (if carriedOut then processor.phase.statusAfter (w.statusOf processor.jobId)
      else w.statusOf processor.jobId) = false) :
    Accounting { w with toJobWorld :=
      (if carriedOut then later else w.toJobWorld).setPhase processor.id .ended } := by
  cases carriedOut with
  | false => exact holds.endProcessor found dead
  | true =>
      rcases holds.process found processed with ⟨nextHolds, phase, nextFound, status⟩
      have ended : isLive (later.statusOf (processor.setPhase phase).jobId) = false := by
        rw [<- dead]
        exact congrArg isLive status
      let moved := processor.setPhase phase
      change Accounting { w with toJobWorld := later.setPhase moved.id .ended }
      exact nextHolds.endProcessor nextFound ended

theorem Accounting.query {index : Nat} {client : PrometheusClient} {vars : Dict String}
    {start finish : Instant}
    (queried : w.query processor index client vars start finish = some next) : Accounting next := by
  have fits := holds.processor_fits (find_mem found)
  unfold AdapterService.query at queried
  split at queried
  · rename_i tasks isPhase
    rcases Option.bind_eq_some_iff.mp queried with ⟨task, taskAt, queried⟩
    rcases Option.bind_eq_some_iff.mp queried with ⟨later, ran, isNext⟩
    cases isNext
    rw [isPhase] at fits
    rcases runQuery_fits isPhase taskAt fits ran with ⟨phase, effect, fitsNext⟩
    exact holds.move found effect fitsNext
  · cases queried

theorem Accounting.queryRaises {index : Nat} {carriedOut : Bool}
    (settled : w.statusOf processor.jobId = some .cancelled ∨
      processor.phase.hasReported index carriedOut = true)
    (raised : w.queryRaises processor index carriedOut = some next) : Accounting next := by
  have fits := holds.processor_fits (find_mem found)
  cases isPhase : processor.phase with
  | querying tasks =>
      rw [isPhase] at fits
      cases taskAt : tasks[index]? with
      | none =>
          unfold AdapterService.queryRaises at raised
          rw [isPhase] at raised
          dsimp only at raised
          rw [taskAt] at raised
          cases raised
      | some task =>
          rcases queryRaises_fits isPhase taskAt fits settled raised with
            ⟨phase, later, isNext, effect, fitsNext⟩
          subst isNext
          exact holds.move found effect fitsNext
  | dequeued | starting | loadingQueries | loadingVariables | loadingWindow | completing | timed
  | completed | expiring | ended =>
      unfold AdapterService.queryRaises at raised
      rw [isPhase] at raised
      cases raised

end

section

variable (holds : Accounting w)

include holds

theorem Accounting.cancel {cancelId jobId : Nat}
    (stepped : w.act (.cancel cancelId jobId) = some next) : Accounting next := by
  rcases Option.map_eq_some_iff.mp stepped with ⟨later, asked, isNext⟩
  unfold step at asked
  dsimp only at asked
  split at asked
  · rename_i fresh
    cases asked
    subst isNext
    refine holds.keep (fun _ => rfl) (fun _ => rfl) (fun _ => List.mem_cons_of_mem jobId) ?_
      holds.countable
    intro request present
    rcases (mem_insert _ _ fresh _).mp present with inTable | isNew
    · exact List.mem_cons_of_mem jobId (holds.cancels request inTable)
    · rw [isNew]
      exact List.mem_cons_self
  · cases asked

theorem Accounting.setCancelPhase {cancelId : Nat} {phase : CancelPhase} :
    forall request, request ∈ (w.setCancelPhase cancelId phase).cancels.rows ->
      request.jobId ∈ w.knownIds := by
  intro request present
  rcases (mem_update _ _ _ (CancelRequest.setPhase_id phase) _).mp present with
    ⟨inTable, _⟩ | ⟨old, isOld, same⟩
  · exact holds.cancels request inTable
  · rw [<- same]
    exact holds.cancels old (find_mem isOld)

theorem Accounting.cancelCall {cancelId : Nat} (stepped : w.act (.cancelCall cancelId) = some next) :
    Accounting next := by
  rcases Option.map_eq_some_iff.mp stepped with ⟨later, called, isNext⟩
  rcases Option.bind_eq_some_iff.mp called with ⟨request, found, called⟩
  have isKnown := holds.cancels request (find_mem found)
  subst isNext
  unfold JobWorld.cancelCall at called
  split at called
  · split at called
    · cases called
      exact holds.keep (fun _ => rfl) (fun _ => rfl) (fun _ => id) holds.setCancelPhase
        holds.countable
    · cases called
      exact holds.keep (fun _ => rfl) (fun _ => rfl) (fun _ => id) holds.setCancelPhase
        holds.countable
    · cases called
      exact holds.keep (fun _ => rfl) (fun _ => rfl) (fun _ => id) holds.setCancelPhase
        holds.countable
    · cases called
      exact holds.keep (fun _ => rfl) (fun _ => rfl) (fun _ => id) holds.setCancelPhase
        holds.countable
  · cases called
    refine holds.touch request.jobId ?_ ?_ isKnown (fun _ => id) holds.setCancelPhase
      holds.countable
    · intro other different
      exact ⟨data_hset_other different _ _, rfl⟩
    · exact Eq.mpr (congrArg (FitsAll · _) (data_hset_self _ _))
        ((holds.fits request.jobId).cancel request.jobId)
  · cases called

theorem Accounting.expire {jobId : Nat} (stepped : w.act (.expire jobId) = some next) :
    Accounting next := by
  rcases Option.map_eq_some_iff.mp stepped with ⟨later, expired, isNext⟩
  unfold step at expired
  dsimp only at expired
  split at expired
  · rename_i expires
    cases expired
    subst isNext
    rcases (Option.any_eq_true _ _).mp expires with ⟨hash, isHash, isOver⟩
    have isKnown : jobId ∈ w.knownIds := by
      by_contra unknown
      rw [(holds.unknown jobId unknown).1] at isHash
      cases isHash
    refine holds.touch jobId ?_ ?_ isKnown (fun _ => id) holds.cancels holds.countable
    · intro other different
      have kept := (find_delete w.jobs jobId other).trans (if_neg different)
      exact ⟨congrArg (JobData.mk · _ _) kept, rfl⟩
    · have gone := (find_delete w.jobs jobId jobId).trans (if_pos rfl)
      have here : JobWorld.data { w.toJobWorld with jobs := w.jobs.delete jobId } jobId =
          (w.data jobId).expire := congrArg (JobData.mk · _ _) gone
      exact Eq.mpr (congrArg (FitsAll · _) here) ((holds.fits jobId).expire isHash isOver)
  · cases expired

theorem Accounting.step {maxQueueDepth : Nat} {event : ServiceEvent} (handled : Handled w event)
    (stepped : serviceStep maxQueueDepth w event = some next) : Accounting next := by
  cases event with
  | submit submissionId queries =>
      unfold serviceStep at stepped
      dsimp only at stepped
      split at stepped
      · rename_i fresh
        cases stepped
        refine holds.keep (fun _ => rfl) ?_ (fun _ => id) holds.cancels ?_
        · intro jobId
          refine stages_congr ?_ rfl rfl
          exact (filterMap_insert _ _ fresh _).trans (List.append_nil _)
        · intro submission present
          rcases (mem_insert _ _ fresh _).mp present with inTable | isNew
          · exact holds.countable submission inTable
          · rw [isNew]
            exact handled
      · cases stepped
  | submitCall submissionId jobId now =>
      rcases Option.bind_eq_some_iff.mp stepped with ⟨submission, found, called⟩
      cases find_key found
      exact (holds.submitCall found called).1
  | submitRaises submissionId jobId now carriedOut =>
      rcases Option.bind_eq_some_iff.mp stepped with ⟨submission, found, raised⟩
      rcases Option.bind_eq_some_iff.mp raised with ⟨later, called, isNext⟩
      have leavesNone := handled submission found
      cases find_key found
      cases isNext
      exact holds.submitRaises found called leavesNone
  | dequeue processorId => exact holds.dequeue stepped
  | dequeueRaises =>
      unfold serviceStep at stepped
      dsimp only at stepped
      split at stepped
      · cases stepped
      · rename_i first rest isPending
        cases stepped
        refine holds.lose isPending (handled first ?_)
        rw [isPending]
        rfl
  | process processorId now =>
      rcases Option.map_eq_some_iff.mp stepped with ⟨later, acted, isNext⟩
      rcases Option.bind_eq_some_iff.mp acted with ⟨processor, found, processed⟩
      cases find_key found
      cases isNext
      exact (holds.process found processed).1
  | processRaises processorId now carriedOut =>
      rcases Option.bind_eq_some_iff.mp stepped with ⟨processor, found, raised⟩
      rcases Option.bind_eq_some_iff.mp raised with ⟨later, processed, isNext⟩
      have dead := handled processor found
      cases find_key found
      cases isNext
      exact holds.processRaises found processed dead
  | query processorId index client vars start finish =>
      rcases Option.bind_eq_some_iff.mp stepped with ⟨processor, found, queried⟩
      cases find_key found
      exact holds.query found queried
  | queryRaises processorId index carriedOut =>
      rcases Option.bind_eq_some_iff.mp stepped with ⟨processor, found, raised⟩
      have settled := handled processor found
      cases find_key found
      exact holds.queryRaises found settled raised
  | cancel cancelId jobId => exact holds.cancel stepped
  | cancelCall cancelId => exact holds.cancelCall stepped
  | readStatus jobId =>
      cases stepped
      exact holds
  | expire jobId => exact holds.expire stepped

end

end Events

theorem AdapterService.Initial.accounting {w : AdapterService} (initial : w.Initial) :
    Accounting w := by
  have noHash : forall jobId, w.jobs.find jobId = none := by
    intro jobId
    rw [initial.noJobs]
    rfl
  have noResults : forall jobId, w.results jobId = ∅ := by
    intro jobId
    rw [initial.noResults]
  have noStages : forall jobId, w.stages jobId = [] := by
    intro jobId
    unfold AdapterService.stages
    rw [initial.noSubmissions, initial.nonePending, initial.noProcessors]
    rfl
  refine ⟨?_, fun jobId _ => ⟨noHash jobId, noResults jobId, noStages jobId⟩, ?_, ?_⟩
  · intro jobId
    have here : w.data jobId = (w.data jobId).expire := congrArg (JobData.mk · _ _) (noHash jobId)
    rw [noStages jobId, here]
    exact Rests.expire _
  · intro request present
    rw [initial.noCancels] at present
    exact absurd present List.not_mem_nil
  · intro submission present
    rw [initial.noSubmissions] at present
    exact absurd present List.not_mem_nil

/-- In a run whose events are all handled, every job is accounted for in every state. -/
theorem jobs_accounted {maxQueueDepth : Nat} {start : AdapterService} {events : List ServiceEvent}
    (initial : start.Initial) (handled : Along (serviceStep maxQueueDepth) Handled start events) :
    Always (serviceStep maxQueueDepth) Accounted start events := by
  intro before after middle split ran
  rw [split] at handled
  have reached : Accounting middle :=
    exec_preserves_along (fun _ _ _ holds accepted stepped => Accounting.step holds accepted stepped)
      initial.accounting (along_append handled ran).1 ran
  exact reached.accounted

instance (w : JobWorld) (jobId : Nat) : Decidable (w.Processed jobId) :=
  inferInstanceAs (Decidable (Exists fun processor => processor ∈ w.processors.rows ∧
    processor.jobId = jobId ∧ processor.phase ≠ .ended))

instance (w : AdapterService) (jobId : Nat) : Decidable (w.Submitting jobId) :=
  inferInstanceAs (Decidable (Exists fun submission => submission ∈ w.submissions.rows ∧
    submission.phase.job? = some jobId))

namespace Sample

def percentiles (methods : List String) : SpecDict :=
  { mode := some "aggregated"
    queryTemplate := some "http_request_duration_seconds"
    interval := some "1m"
    methods := some methods }

def answering : PrometheusClient :=
  { instantQuery := fun _ => .value 1
    fetchRange := fun _ => .fetched (fun _ => some 1)
      { expectedSamples := 2, actualSamples := 2, missingPct := 0, chunksFailed := 0 } }

/-- All calls of a submission, and those of a coordinator up to the queries. -/
def prepared (queries : Dict SpecDict) : List ServiceEvent :=
  .submit 1 queries :: List.replicate 4 (.submitCall 1 7 0) ++
    .dequeue 1 :: List.replicate 5 (.process 1 0)

/-- Steps of the query at the position, one minute after the start of the window. -/
def queried (index steps : Nat) : List ServiceEvent :=
  List.replicate steps (.query 1 index answering ∅ 0 60000000)

def closed : List ServiceEvent :=
  List.replicate 8 (.process 1 0)

def distinctQueries : Dict SpecDict :=
  (single "up" spec).insert "latency" (percentiles ["p95"])

def twoMethods : Dict SpecDict :=
  single "latency" (percentiles ["p95", "p99"])

def sameNames : Dict SpecDict :=
  (single "latency.p95" spec).insert "latency" (percentiles ["p95"])

def completedRun : List ServiceEvent :=
  prepared distinctQueries ++ queried 0 5 ++ queried 1 4 ++
    List.replicate 6 (.process 1 0) ++ [.processRaises 1 0 false]

def interruptedRun : List ServiceEvent :=
  .submit 1 distinctQueries :: List.replicate 4 (.submitCall 1 7 0) ++
    [.dequeue 1, .process 1 0, .process 1 0, .processRaises 1 0 false]

def twoMethodsRun : List ServiceEvent :=
  prepared twoMethods ++ queried 0 7 ++ closed

def sameNamesRun : List ServiceEvent :=
  prepared sameNames ++ queried 0 5 ++ queried 1 4 ++ closed

/-- The status of the job, its total, its counters and the number of its results. -/
def counters (w : AdapterService) : Option JobStatus × Option (Option Nat × Nat) × Nat :=
  (w.statusOf 7, (w.jobs.find 7).map fun hash => (hash.totalQueries, hash.counted),
    (w.results 7).keys.length)

end Sample

/-- A completed job with two queries of different modes, after a call that raised. -/
theorem completed_job_accounted :
    Always (serviceStep 100) Accounted {} Sample.completedRun ∧
      (exec (serviceStep 100) {} Sample.completedRun).map Sample.counters =
        some (some .completed, some (some 2, 2), 2) :=
  ⟨jobs_accounted ⟨Sample.initial, rfl, rfl⟩ (by decide +kernel), by decide +kernel⟩

/-- A job whose coordinator has raised is running, and nobody has it; one with a query for
two methods has counted more than its total; and one with two results of the same name has
stored fewer than it has counted. -/
theorem jobs_unaccounted :
    (exec (serviceStep 100) {} Sample.interruptedRun).map (fun w =>
        (w.statusOf 7, decide (7 ∈ w.pending ∨ w.Processed 7 ∨ w.Submitting 7))) =
      some (some .running, false) ∧
    (exec (serviceStep 100) {} Sample.twoMethodsRun).map Sample.counters =
      some (some .completed, some (some 1, 2), 2) ∧
    (exec (serviceStep 100) {} Sample.sameNamesRun).map Sample.counters =
      some (some .completed, some (some 2, 2), 1) ∧
    ¬ forall (maxQueueDepth : Nat) (start : AdapterService) (events : List ServiceEvent),
      start.Initial -> Always (serviceStep maxQueueDepth) Accounted start events := by
  have stranded : (exec (serviceStep 100) {} Sample.interruptedRun).map (fun w =>
      (w.statusOf 7, decide (7 ∈ w.pending ∨ w.Processed 7 ∨ w.Submitting 7))) =
      some (some .running, false) := by
    decide +kernel
  refine ⟨stranded, by decide +kernel, by decide +kernel, ?_⟩
  intro always
  rcases Option.map_eq_some_iff.mp stranded with ⟨w, ran, facts⟩
  rcases Prod.mk.inj facts with ⟨running, nobody⟩
  have accounted := always 100 {} _ ⟨Sample.initial, rfl, rfl⟩ _ [] w (List.append_nil _).symm ran 7
  apply of_decide_eq_false nobody
  apply accounted.held
  rw [running]
  rfl

end Adapter
end Tropek
