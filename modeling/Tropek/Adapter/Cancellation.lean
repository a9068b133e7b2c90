import Tropek.Adapter.Jobs

namespace Tropek
namespace Adapter

open Library Engine TransitionSystem KeyedTable

/-!
# Cancelling a job

A cancel request is meant to be final.  The coordinator skips a cancelled job at its
first check and does not complete it after its last one, but it writes the status in a
call after each of these checks.  A cancel that falls between a check and that write is
overwritten.

Every other cancel is final: no coordinator is about to write the status of its job, and
none will get past a check again.
-/

def ProcessorPhase.isBetween : ProcessorPhase -> Bool
  | .starting => true
  | .completing => true
  | .timed _ => true
  | _ => false

/-- No coordinator is between a status check of the job and the write after it. -/
def NoneBetween (w : JobWorld) (jobId : Nat) : Prop :=
  forall processor, processor ∈ w.processors.rows -> processor.jobId = jobId ->
    processor.phase.isBetween = false

/-! ## The status -/

variable {jobId : Nat} {next w : JobWorld} {processor : Processor}

theorem getStatus_found {jobs : Jobs} {status : JobStatus}
    (found : getStatus jobs jobId = .found status) :
    (jobs.find jobId).bind (·.status) = some status := by
  unfold getStatus at found
  cases stored : jobs.find jobId with
  | none =>
      rw [stored] at found
      cases found
  | some hash =>
      rw [stored] at found
      dsimp only at found
      split at found
      · rename_i isStatus _ _ _ _
        cases found
        exact isStatus
      · cases found

theorem ifLive_ne_ended {jobs : Jobs} (phase : ProcessorPhase)
    (live : ifLive (getStatus jobs jobId) phase ≠ .ended) :
    Exists fun status => (jobs.find jobId).bind (·.status) = some status ∧ status ≠ .cancelled := by
  cases read : getStatus jobs jobId with
  | missing =>
      rw [read] at live
      exact absurd rfl live
  | incomplete =>
      rw [read] at live
      exact absurd rfl live
  | found status =>
      refine ⟨status, getStatus_found read, fun isCancelled => ?_⟩
      rw [read, isCancelled] at live
      exact live rfl

theorem status_hset (jobs : Jobs) (jobId : Nat) (change : JobHash -> JobHash)
    (keeps : forall hash, (change hash).id = hash.id) (wanted : Nat) :
    ((hset jobs jobId change keeps).find wanted).bind (·.status) =
      if wanted = jobId then (change ((jobs.find wanted).getD { id := jobId })).status
      else (jobs.find wanted).bind (·.status) := by
  rw [find_hset]
  by_cases same : wanted = jobId
  · rw [if_pos same, if_pos same]
    rfl
  · rw [if_neg same, if_neg same]

theorem call_statusOf (w : JobWorld) (jobId : Nat) (call : ResultCall) (wanted : Nat) :
    (w.call jobId call).statusOf wanted = w.statusOf wanted := by
  cases call with
  | setResult indicator result => exact rfl
  | setMetadata sliName metadata => exact rfl
  | count success =>
      refine (status_hset _ _ _ _ _).trans ?_
      by_cases same : wanted = jobId
      · rw [if_pos same, JobHash.countResult_status]
        unfold JobWorld.statusOf
        cases w.jobs.find wanted <;> rfl
      · rw [if_neg same]
        rfl

theorem call_parties (w : JobWorld) (jobId : Nat) (call : ResultCall) :
    (w.call jobId call).processors = w.processors ∧ (w.call jobId call).knownIds = w.knownIds ∧
      (w.call jobId call).cancels = w.cancels := by
  cases call <;> exact ⟨rfl, rfl, rfl⟩

/-! ## What a step does -/

inductive StatusEffect (w next : JobWorld) (jobId : Nat) : Action -> Prop where
  | kept {action : Action} (same : next.statusOf jobId = w.statusOf jobId) :
      StatusEffect w next jobId action
  | submitted (queries : List (String × SpecDict)) (now : Instant)
      (unknown : jobId ∉ w.knownIds) : StatusEffect w next jobId (.submit jobId queries now)
  | written (processor : Processor) (now : Instant) (present : processor ∈ w.processors.rows)
      (isJob : processor.jobId = jobId) (between : processor.phase.isBetween = true) :
      StatusEffect w next jobId (.process processor.id now)
  | cancelled (cancelId : Nat) (isCancelled : next.statusOf jobId = some .cancelled) :
      StatusEffect w next jobId (.cancelCall cancelId)
  | expired (gone : next.statusOf jobId = none) : StatusEffect w next jobId (.expire jobId)

/-- Only `mark_running` and the write of `mark_completed` change a status, and the
coordinator is past a check then. -/
theorem process_status {now : Instant} (present : processor ∈ w.processors.rows)
    (stepped : w.process processor now = some next) :
    StatusEffect w next jobId (.process processor.id now) := by
  have writes {change : JobHash -> JobHash} {keeps : forall hash, (change hash).id = hash.id}
      {moved : JobWorld} (between : processor.phase.isBetween = true)
      (same : { moved with jobs := hset w.jobs processor.jobId change keeps } = next) :
      StatusEffect w next jobId (.process processor.id now) := by
    by_cases isJob : jobId = processor.jobId
    · exact .written processor now present isJob.symm between
    · refine .kept ?_
      rw [<- same]
      exact (status_hset _ _ _ _ _).trans (if_neg isJob)
  unfold JobWorld.process at stepped
  cases phase : processor.phase with
  | starting =>
      rw [phase] at stepped
      exact writes (by rw [phase]; rfl) (Option.some.inj stepped)
  | timed createdAt =>
      rw [phase] at stepped
      exact writes (by rw [phase]; rfl) (Option.some.inj stepped)
  | completed =>
      rw [phase] at stepped
      cases stepped
      refine .kept ?_
      unfold JobWorld.statusOf
      dsimp only
      rw [find_update]
      by_cases isJob : jobId = processor.jobId
      · rw [if_pos isJob]
        cases w.jobs.find jobId <;> rfl
      · rw [if_neg isJob]
  | querying tasks =>
      rw [phase] at stepped
      dsimp only at stepped
      split at stepped
      · cases stepped
        exact .kept rfl
      · cases stepped
  | expiring remaining =>
      rw [phase] at stepped
      cases remaining <;> (cases stepped; exact .kept rfl)
  | ended =>
      rw [phase] at stepped
      cases stepped
  | dequeued | loadingQueries | loadingVariables | loadingWindow | completing =>
      rw [phase] at stepped
      cases stepped
      exact .kept rfl

theorem runQuery_eq_some {index : Nat} {outcome : StrategyOutcome}
    (ran : w.runQuery processor index outcome = some next) :
    Exists fun tasks =>
      (forall jobId, next.statusOf jobId = w.statusOf jobId) ∧
        next.processors = (w.setPhase processor.id (.querying tasks)).processors ∧
        next.knownIds = w.knownIds ∧ next.cancels = w.cancels := by
  unfold JobWorld.runQuery at ran
  split at ran
  · rename_i tasks _
    rcases Option.bind_eq_some_iff.mp ran with ⟨task, _, ran⟩
    rcases Option.bind_eq_some_iff.mp ran with ⟨⟨moved, call⟩, _, ran⟩
    refine ⟨tasks.set index moved, ?_⟩
    cases call with
    | none =>
        cases ran
        exact ⟨fun _ => rfl, rfl, rfl, rfl⟩
    | some call =>
        cases ran
        exact ⟨call_statusOf _ _ _, call_parties _ _ _⟩
  · cases ran

theorem step_status {action : Action} (jobId : Nat) (stepped : step w action = some next) :
    StatusEffect w next jobId action := by
  cases action with
  | submit submitted queries now =>
      unfold step at stepped
      dsimp only at stepped
      split at stepped
      · cases stepped
      · rename_i unknown
        cases stepped
        by_cases same : jobId = submitted
        · subst same
          exact .submitted queries now (by simpa using unknown)
        · exact .kept ((status_hset _ _ _ _ _).trans (if_neg same))
  | dequeue processorId =>
      unfold step at stepped
      dsimp only at stepped
      split at stepped
      · cases stepped
      · split at stepped
        · cases stepped
          exact .kept rfl
        · cases stepped
  | process processorId now =>
      rcases Option.bind_eq_some_iff.mp stepped with ⟨processor, found, processed⟩
      have sameId := find_key found
      exact sameId ▸ process_status (find_mem found) processed
  | query processorId index outcome =>
      rcases Option.bind_eq_some_iff.mp stepped with ⟨processor, _, ran⟩
      rcases runQuery_eq_some ran with ⟨_, same, _⟩
      exact .kept (same jobId)
  | cancel cancelId asked =>
      unfold step at stepped
      dsimp only at stepped
      split at stepped
      · cases stepped
        exact .kept rfl
      · cases stepped
  | cancelCall cancelId =>
      rcases Option.bind_eq_some_iff.mp stepped with ⟨request, _, called⟩
      unfold JobWorld.cancelCall at called
      split at called
      · split at called <;> (cases called; exact .kept rfl)
      · cases called
        by_cases same : jobId = request.jobId
        · exact .cancelled cancelId ((status_hset _ _ _ _ _).trans (if_pos same))
        · exact .kept ((status_hset _ _ _ _ _).trans (if_neg same))
      · cases called
  | readStatus asked =>
      cases stepped
      exact .kept rfl
  | expire expiring =>
      unfold step at stepped
      dsimp only at stepped
      split at stepped
      · cases stepped
        by_cases same : jobId = expiring
        · subst same
          refine .expired ?_
          unfold JobWorld.statusOf
          dsimp only
          rw [find_delete, if_pos rfl]
          rfl
        · refine .kept ?_
          unfold JobWorld.statusOf
          dsimp only
          rw [find_delete, if_neg same]
      · cases stepped

/-! ## Who gets past a check -/

theorem mem_setPhase {processorId : Nat} {phase : ProcessorPhase}
    (member : processor ∈ (w.setPhase processorId phase).processors.rows) :
    processor ∈ w.processors.rows ∨ Exists fun old => w.processors.find processorId = some old ∧
      processor.jobId = old.jobId ∧ processor.phase = phase := by
  rcases (mem_update _ _ _ (Processor.setPhase_id phase) _).mp member with ⟨inTable, _⟩ | ⟨old, found, same⟩
  · exact Or.inl inTable
  · exact Or.inr ⟨old, found, same ▸ rfl, same ▸ rfl⟩

/-- A coordinator gets between a check and its write through a check of a job that is not
cancelled. -/
theorem process_phase {now : Instant} (stepped : w.process processor now = some next) :
    Exists fun phase => next.processors = (w.setPhase processor.id phase).processors ∧
      next.knownIds = w.knownIds ∧ next.cancels = w.cancels ∧ (phase.isBetween = true ->
        processor.phase.isBetween = true ∨ Exists fun status =>
          w.statusOf processor.jobId = some status ∧ status ≠ .cancelled) := by
  have checked {live : ProcessorPhase}
      (between : (ifLive (getStatus w.jobs processor.jobId) live).isBetween = true) :
      Exists fun status => w.statusOf processor.jobId = some status ∧ status ≠ .cancelled := by
    refine ifLive_ne_ended live fun ended => ?_
    rw [ended] at between
    cases between
  unfold JobWorld.process at stepped
  cases phase : processor.phase with
  | dequeued =>
      rw [phase] at stepped
      cases stepped
      exact ⟨_, rfl, rfl, rfl, fun between => Or.inr (checked between)⟩
  | querying tasks =>
      rw [phase] at stepped
      dsimp only at stepped
      split at stepped
      · cases stepped
        exact ⟨_, rfl, rfl, rfl, fun between => Or.inr (checked between)⟩
      · cases stepped
  | expiring remaining =>
      rw [phase] at stepped
      cases remaining <;>
        (cases stepped; exact ⟨_, rfl, rfl, rfl, fun impossible => by cases impossible⟩)
  | ended =>
      rw [phase] at stepped
      cases stepped
  | starting | completing | timed =>
      rw [phase] at stepped
      cases stepped
      exact ⟨_, rfl, rfl, rfl, fun _ => Or.inl rfl⟩
  | loadingQueries | loadingVariables | loadingWindow | completed =>
      rw [phase] at stepped
      cases stepped
      exact ⟨_, rfl, rfl, rfl, fun impossible => by cases impossible⟩

/-- What a step does to the parties: ids stay known, a new cancel is of a known job, and a
coordinator that is between a check and its write has been there before, or has found the
job not cancelled. -/
structure PartiesEffect (w next : JobWorld) : Prop where
  known : forall jobId, jobId ∈ w.knownIds -> jobId ∈ next.knownIds
  cancels : forall request, request ∈ next.cancels.rows -> request.jobId ∈ next.knownIds ∨
    Exists fun old => old ∈ w.cancels.rows ∧ old.jobId = request.jobId
  between : forall processor, processor ∈ next.processors.rows ->
    processor.phase.isBetween = true ->
      (Exists fun old => old ∈ w.processors.rows ∧ old.jobId = processor.jobId ∧
          old.phase.isBetween = true) ∨
        Exists fun status => w.statusOf processor.jobId = some status ∧ status ≠ .cancelled

section Parties

variable {w next : JobWorld}

theorem PartiesEffect.same (known : forall jobId, jobId ∈ w.knownIds -> jobId ∈ next.knownIds)
    (cancels : next.cancels = w.cancels) (processors : next.processors = w.processors) :
    PartiesEffect w next where
  known := known
  cancels := fun request present => Or.inr ⟨request, cancels ▸ present, rfl⟩
  between := fun processor present between =>
    Or.inl ⟨processor, processors ▸ present, rfl, between⟩

theorem PartiesEffect.moved {processor : Processor} {phase : ProcessorPhase}
    (found : w.processors.find processor.id = some processor)
    (processors : next.processors = (w.setPhase processor.id phase).processors)
    (known : next.knownIds = w.knownIds) (cancels : next.cancels = w.cancels)
    (arrived : phase.isBetween = true ->
      processor.phase.isBetween = true ∨ Exists fun status =>
        w.statusOf processor.jobId = some status ∧ status ≠ .cancelled) :
    PartiesEffect w next where
  known := fun _ isKnown => known ▸ isKnown
  cancels := fun request present => Or.inr ⟨request, cancels ▸ present, rfl⟩
  between := by
    intro other present between
    rw [processors] at present
    rcases mem_setPhase present with inTable | ⟨old, isOld, sameJob, samePhase⟩
    · exact Or.inl ⟨other, inTable, rfl, between⟩
    · rw [found] at isOld
      cases isOld
      rw [samePhase] at between
      rw [sameJob]
      exact (arrived between).imp_left fun was => ⟨processor, find_mem found, rfl, was⟩

theorem step_parties {action : Action} (stepped : step w action = some next) :
    PartiesEffect w next := by
  cases action with
  | submit submitted queries now =>
      unfold step at stepped
      dsimp only at stepped
      split at stepped
      · cases stepped
      · cases stepped
        exact .same (fun _ => List.mem_cons_of_mem submitted) rfl rfl
  | dequeue processorId =>
      unfold step at stepped
      dsimp only at stepped
      split at stepped
      · cases stepped
      · split at stepped
        · rename_i fresh
          cases stepped
          refine ⟨fun _ => id, fun request present => Or.inr ⟨request, present, rfl⟩, ?_⟩
          intro processor present between
          rcases (mem_insert _ _ fresh _).mp present with inTable | isNew
          · exact Or.inl ⟨processor, inTable, rfl, between⟩
          · rw [isNew] at between
            cases between
        · cases stepped
  | process processorId now =>
      rcases Option.bind_eq_some_iff.mp stepped with ⟨processor, found, processed⟩
      have sameId := find_key found
      rcases process_phase processed with ⟨_, processors, known, cancels, arrived⟩
      exact .moved (sameId.symm ▸ found) processors known cancels arrived
  | query processorId index outcome =>
      rcases Option.bind_eq_some_iff.mp stepped with ⟨processor, found, ran⟩
      have sameId := find_key found
      rcases runQuery_eq_some ran with ⟨_, _, processors, known, cancels⟩
      exact .moved (sameId.symm ▸ found) processors known cancels fun impossible => by
        cases impossible
  | cancel cancelId asked =>
      unfold step at stepped
      dsimp only at stepped
      split at stepped
      · rename_i fresh
        cases stepped
        refine ⟨fun _ => List.mem_cons_of_mem asked, fun request present => ?_,
          fun processor present between => Or.inl ⟨processor, present, rfl, between⟩⟩
        rcases (mem_insert _ _ fresh _).mp present with inTable | isNew
        · exact Or.inr ⟨request, inTable, rfl⟩
        · rw [isNew]
          exact Or.inl List.mem_cons_self
      · cases stepped
  | cancelCall cancelId =>
      rcases Option.bind_eq_some_iff.mp stepped with ⟨request, found, called⟩
      have moved (phase : CancelPhase) (same : next.cancels = (w.setCancelPhase request.id phase).cancels)
          (known : next.knownIds = w.knownIds) (processors : next.processors = w.processors) :
          PartiesEffect w next := by
        refine ⟨fun _ isKnown => known ▸ isKnown, fun other present => Or.inr ?_,
          fun processor present between => Or.inl ⟨processor, processors ▸ present, rfl, between⟩⟩
        rw [same] at present
        rcases (mem_update _ _ _ (CancelRequest.setPhase_id phase) _).mp present with
          ⟨inTable, _⟩ | ⟨old, isOld, sameRow⟩
        · exact ⟨other, inTable, rfl⟩
        · exact ⟨old, find_mem isOld, sameRow ▸ rfl⟩
      unfold JobWorld.cancelCall at called
      split at called
      · split at called <;> (cases called; exact moved _ rfl rfl rfl)
      · cases called
        exact moved _ rfl rfl rfl
      · cases called
  | readStatus asked =>
      cases stepped
      exact .same (fun _ => id) rfl rfl
  | expire expiring =>
      unfold step at stepped
      dsimp only at stepped
      split at stepped
      · cases stepped
        exact .same (fun _ => id) rfl rfl
      · cases stepped

end Parties

/-! ## After a cancel -/

/-- The job is cancelled or has expired, and nobody is about to change that. -/
structure Settled (w : JobWorld) (jobId : Nat) : Prop where
  status : w.statusOf jobId = some .cancelled ∨ w.statusOf jobId = none
  apart : NoneBetween w jobId
  known : jobId ∈ w.knownIds

theorem Settled.notWritten (settled : Settled w jobId) :
    w.statusOf jobId ≠ some .running ∧ w.statusOf jobId ≠ some .completed := by
  rcases settled.status with isCancelled | gone
  · rw [isCancelled]
    exact ⟨by decide, by decide⟩
  · rw [gone]
    exact ⟨by decide, by decide⟩

theorem Settled.step {action : Action} (settled : Settled w jobId)
    (stepped : step w action = some next) :
    Settled next jobId ∧ (action ≠ .expire jobId -> w.statusOf jobId = some .cancelled ->
      next.statusOf jobId = some .cancelled) := by
  have effect := step_parties stepped
  have apart : NoneBetween next jobId := by
    intro processor present isJob
    cases between : processor.phase.isBetween with
    | false => rfl
    | true =>
        rcases effect.between processor present between with
          ⟨old, wasPresent, sameJob, was⟩ | ⟨status, found, live⟩
        · rw [settled.apart old wasPresent (sameJob.trans isJob)] at was
          cases was
        · rw [isJob] at found
          rcases settled.status with isCancelled | gone
          · exact absurd (Option.some.inj (found.symm.trans isCancelled)) live
          · cases found.symm.trans gone
  have known := effect.known jobId settled.known
  cases step_status jobId stepped with
  | kept same =>
      exact ⟨⟨same ▸ settled.status, apart, known⟩, fun _ isCancelled => same.trans isCancelled⟩
  | submitted queries now unknown => exact absurd settled.known unknown
  | written processor now present isJob between =>
      rw [settled.apart processor present isJob] at between
      cases between
  | cancelled cancelId isCancelled =>
      exact ⟨⟨Or.inl isCancelled, apart, known⟩, fun _ _ => isCancelled⟩
  | expired gone => exact ⟨⟨Or.inr gone, apart, known⟩, fun kept => absurd rfl kept⟩

structure StaysCancelled (jobId : Nat) (later : List Action) (final : JobWorld) : Prop where
  untilExpiry : .expire jobId ∉ later -> final.statusOf jobId = some .cancelled
  notWritten : final.statusOf jobId ≠ some .running ∧ final.statusOf jobId ≠ some .completed

theorem Settled.exec {final : JobWorld} {later : List Action} (settled : Settled w jobId)
    (isCancelled : w.statusOf jobId = some .cancelled)
    (ran : exec Adapter.step w later = some final) : StaysCancelled jobId later final := by
  refine ⟨fun unexpired => ?_, ?_⟩
  · induction later generalizing w with
    | nil =>
        cases ran
        exact isCancelled
    | cons action rest ih =>
        rcases exec_cons ran with ⟨next, stepped, ran⟩
        rcases settled.step stepped with ⟨stillSettled, kept⟩
        refine ih stillSettled (kept ?_ isCancelled) ran ?_
        · exact fun same => unexpired (same ▸ List.mem_cons_self)
        · exact fun member => unexpired (List.mem_cons_of_mem action member)
  · have still : Settled final jobId :=
      exec_preserves (fun _ _ _ holds stepped => (Settled.step holds stepped).1) settled ran
    exact still.notWritten

def CancelsKnown (w : JobWorld) : Prop :=
  forall request, request ∈ w.cancels.rows -> request.jobId ∈ w.knownIds

theorem reachable_cancelsKnown (reached : Reachable w) : CancelsKnown w := by
  refine reachable_preserves (fun w initial request present => ?_) ?_ reached
  · rw [initial.noCancels] at present
    exact absurd present List.not_mem_nil
  · intro w action next known stepped request present
    have effect := step_parties stepped
    rcases effect.cancels request present with isKnown | ⟨old, wasPresent, sameJob⟩
    · exact isKnown
    · exact effect.known _ (sameJob ▸ known old wasPresent)

/-! ## The cancels that are final -/

section Between

variable {w : JobWorld} {processor : Processor} {createdAt : Option Instant}

theorem starting_writes (present : w.processors.find processor.id = some processor)
    (phase : processor.phase = .starting) :
    Exists fun final => step w (.process processor.id 0) = some final ∧
      final.statusOf processor.jobId = some .running := by
  refine ⟨{ w.setPhase processor.id .loadingQueries with
    jobs := hset w.jobs processor.jobId (JobHash.setStatus .running)
      (JobHash.setStatus_id .running) }, ?_, (status_hset _ _ _ _ _).trans (if_pos rfl)⟩
  unfold step
  dsimp only
  rw [present, Option.bind_eq_bind, Option.bind_some]
  unfold JobWorld.process
  rw [phase]

theorem timed_writes (present : w.processors.find processor.id = some processor)
    (phase : processor.phase = .timed createdAt) :
    Exists fun final => step w (.process processor.id 0) = some final ∧
      final.statusOf processor.jobId = some .completed := by
  refine ⟨{ w.setPhase processor.id .completed with
    jobs := hset w.jobs processor.jobId (JobHash.setCompleted createdAt 0)
      (JobHash.setCompleted_id createdAt 0) }, ?_, (status_hset _ _ _ _ _).trans (if_pos rfl)⟩
  unfold step
  dsimp only
  rw [present, Option.bind_eq_bind, Option.bind_some]
  unfold JobWorld.process
  rw [phase]

theorem between_writes (present : processor ∈ w.processors.rows)
    (between : processor.phase.isBetween = true) :
    Exists fun later => Exists fun final => exec step w later = some final ∧
      (final.statusOf processor.jobId = some .running ∨
        final.statusOf processor.jobId = some .completed) := by
  have found := find_of_mem present
  cases phase : processor.phase with
  | starting =>
      rcases starting_writes found phase with ⟨final, stepped, written⟩
      exact ⟨_, final, exec_single stepped, Or.inl written⟩
  | timed createdAt =>
      rcases timed_writes found phase with ⟨final, stepped, written⟩
      exact ⟨_, final, exec_single stepped, Or.inr written⟩
  | completing =>
      let created := (w.jobs.find processor.jobId).bind (·.createdAt)
      let timed := processor.setPhase (.timed created)
      have stepped : step w (.process processor.id 0) =
          some (w.setPhase processor.id (.timed created)) := by
        unfold step
        dsimp only
        rw [found, Option.bind_eq_bind, Option.bind_some]
        unfold JobWorld.process
        rw [phase]
      have moved : (w.setPhase processor.id (.timed created)).processors.find timed.id =
          some timed := by
        refine (find_update _ _ _ (Processor.setPhase_id _) _).trans ?_
        refine (if_pos (show timed.id = processor.id from rfl)).trans ?_
        exact congrArg (Option.map _) found
      rcases timed_writes moved rfl with ⟨final, last, written⟩
      refine ⟨[.process processor.id 0, .process timed.id 0], final, ?_, Or.inr written⟩
      unfold exec
      rw [stepped]
      exact exec_single last
  | dequeued | loadingQueries | loadingVariables | loadingWindow | querying | completed | expiring
  | ended =>
      rw [phase] at between
      cases between

end Between

def JobWorld.afterCancel (w : JobWorld) (request : CancelRequest) : JobWorld :=
  { w.setCancelPhase request.id (.returned true) with
    jobs := hset w.jobs request.jobId (JobHash.setStatus .cancelled)
      (JobHash.setStatus_id .cancelled) }

theorem step_cancelCall {request : CancelRequest} (asked : w.cancels.find request.id = some request)
    (decided : request.phase = .deciding) :
    step w (.cancelCall request.id) = some (w.afterCancel request) := by
  unfold step
  dsimp only
  rw [asked, Option.bind_eq_bind, Option.bind_some]
  unfold JobWorld.cancelCall
  rw [decided]
  rfl

/-- From any reachable state on, a cancel that returns true keeps the job cancelled until
it expires, and from being set to running or completed, in every continuation if and only
if no coordinator is between a status check of the job and its write when the cancel
writes. -/
theorem cancel_final_iff {w next : JobWorld} {request : CancelRequest} (reached : Reachable w)
    (asked : w.cancels.find request.id = some request) (decided : request.phase = .deciding)
    (wrote : step w (.cancelCall request.id) = some next) :
    (forall later final, exec step next later = some final ->
        StaysCancelled request.jobId later final) ↔
      NoneBetween w request.jobId := by
  have isNext : next = w.afterCancel request :=
    Option.some.inj (wrote.symm.trans (step_cancelCall asked decided))
  have isCancelled : next.statusOf request.jobId = some .cancelled := by
    rw [isNext]
    exact (status_hset _ _ _ _ _).trans (if_pos rfl)
  have processors : next.processors = w.processors := by
    rw [isNext]
    rfl
  constructor
  · intro stays processor present isJob
    cases between : processor.phase.isBetween with
    | false => rfl
    | true =>
        rcases between_writes (processors.symm ▸ present) between with ⟨later, final, ran, written⟩
        rw [isJob] at written
        rcases (stays later final ran).notWritten with ⟨notRunning, notCompleted⟩
        exact written.elim (fun same => absurd same notRunning) fun same => absurd same notCompleted
  · intro apart later final ran
    have known : request.jobId ∈ next.knownIds := by
      rw [isNext]
      exact reachable_cancelsKnown reached request (find_mem asked)
    have stillApart : NoneBetween next request.jobId :=
      fun processor present => apart processor (processors ▸ present)
    have settled : Settled next request.jobId := ⟨Or.inl isCancelled, stillApart, known⟩
    exact settled.exec isCancelled ran

/-! ## Two cancels -/

namespace Sample

def spec : SpecDict :=
  { mode := some "raw", query := some "up" }

def checked : List Action :=
  [.submit 7 [("up", spec)] 0, .dequeue 1, .process 1 0]

def asking : List Action :=
  [.cancel 1 7, .cancelCall 1]

def deciding : CancelRequest :=
  { id := 1, jobId := 7, phase := .deciding }

def started : List Action :=
  checked ++ .process 1 0 :: asking

theorem initial : ({} : JobWorld).Initial :=
  ⟨rfl, rfl, rfl, rfl⟩

end Sample

/-- A job that is cancelled while its queries are loaded stays cancelled. -/
theorem cancel_of_started_job_final :
    Exists fun w => Exists fun next => exec step {} Sample.started = some w ∧
      step w (.cancelCall 1) = some next ∧ forall later final, exec step next later = some final ->
        StaysCancelled 7 later final := by
  have run : (exec step {} Sample.started).map (fun w => (w.cancels.find 1, w.processors.rows)) =
      some (some Sample.deciding, [{ id := 1, jobId := 7, phase := .loadingQueries }]) := by
    decide +kernel
  rcases Option.map_eq_some_iff.mp run with ⟨w, ran, parties⟩
  rcases Prod.mk.inj parties with ⟨asked, processors⟩
  have wrote : step w (.cancelCall Sample.deciding.id) = some (w.afterCancel Sample.deciding) :=
    step_cancelCall asked rfl
  refine ⟨w, _, ran, wrote, ?_⟩
  refine (cancel_final_iff ⟨{}, Sample.started, Sample.initial, ran⟩ asked rfl wrote).mpr ?_
  intro processor present _
  rw [processors] at present
  rw [List.mem_singleton.mp present]
  rfl

def CancelSafe : Prop :=
  forall (w next : JobWorld) (request : CancelRequest), Reachable w ->
    w.cancels.find request.id = some request -> request.phase = .deciding ->
    step w (.cancelCall request.id) = some next ->
    forall later final, exec step next later = some final ->
      StaysCancelled request.jobId later final

/-- The request reads and writes the status after the first check of the coordinator,
which then marks the job as running. -/
theorem cancel_overwritten_by_running : ¬ CancelSafe := by
  intro safe
  have run : ((exec step {} (Sample.checked ++ Sample.asking)).map fun w =>
      (w.cancels.find 1, ((step w (.cancelCall 1)).bind fun next =>
        (exec step next [.process 1 0]).map fun final => final.statusOf 7))) =
      some (some Sample.deciding, some (some .running)) := by
    decide +kernel
  rcases Option.map_eq_some_iff.mp run with ⟨w, ran, facts⟩
  rcases Prod.mk.inj facts with ⟨asked, facts⟩
  rcases Option.bind_eq_some_iff.mp facts with ⟨next, wrote, facts⟩
  rcases Option.map_eq_some_iff.mp facts with ⟨final, later, running⟩
  have stays := safe w next Sample.deciding ⟨{}, _, Sample.initial, ran⟩ asked rfl wrote _ final later
  exact stays.notWritten.1 running

end Adapter
end Tropek
