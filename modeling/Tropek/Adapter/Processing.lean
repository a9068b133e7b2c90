import Tropek.Adapter.Accounting

namespace Tropek
namespace Adapter

open Library Engine Store Registry KeyedTable

/-!
# Coordinators and the invariant

A coordinator takes a job from the queue, and every call that it makes for the job takes it
to a stage that fits.  Its queries are calls of the same coordinator.
-/

section Coordinators

variable {w next : AdapterService} {jobId : Nat}

theorem filterMap_pending_tail {first : Nat} {rest : List Nat} (isPending : w.pending = first :: rest)
    {other : Nat} (different : other ≠ first) :
    rest.filterMap (pendingStage? other) = w.pending.filterMap (pendingStage? other) := by
  have unseen : pendingStage? other first = none := if_neg different.symm
  rw [isPending, List.filterMap_cons, unseen]

theorem Accounting.tail_alone (holds : Accounting w) {first : Nat} {rest : List Nat}
    (isPending : w.pending = first :: rest) :
    w.submissions.rows.filterMap (Submission.stage? first) = [] ∧
      rest.filterMap (pendingStage? first) = [] ∧
      w.processors.rows.filterMap (Processor.stage? first) = [] := by
  have waits : first ∈ w.pending := by
    rw [isPending]
    exact List.mem_cons_self
  have alone := holds.pending_alone waits
  have seen : pendingStage? first first = some .pending := if_pos rfl
  have queue := alone.2.1
  rw [isPending, List.filterMap_cons, seen] at queue
  exact ⟨alone.1, (List.cons.inj queue).2, alone.2.2⟩

theorem Accounting.dequeue (holds : Accounting w) {processorId : Nat}
    (stepped : w.act (.dequeue processorId) = some next) : Accounting next := by
  rcases Option.map_eq_some_iff.mp stepped with ⟨taken, dequeued, isNext⟩
  unfold step at dequeued
  dsimp only at dequeued
  split at dequeued
  · cases dequeued
  · rename_i first rest isPending
    split at dequeued
    · rename_i fresh
      cases dequeued
      subst isNext
      have waits : first ∈ w.pending := by
        rw [isPending]
        exact List.mem_cons_self
      have alone := holds.tail_alone isPending
      have isKnown : first ∈ w.knownIds :=
        holds.known (List.mem_append_right _ (List.mem_append_left _
          (List.mem_filterMap.mpr ⟨first, waits, if_pos rfl⟩)))
      refine holds.touch first ?_ ?_ isKnown (fun _ => id) holds.cancels holds.countable
      · intro other different
        refine ⟨rfl, stages_congr rfl (filterMap_pending_tail isPending different) ?_⟩
        refine (filterMap_insert _ _ fresh _).trans ?_
        have unseen : Processor.stage? other { id := processorId, jobId := first } = none :=
          if_neg different.symm
        rw [unseen]
        exact List.append_nil _
      · have seen : Processor.stage? first { id := processorId, jobId := first } =
            some (.taken .dequeued) := if_pos rfl
        have processors := filterMap_insert w.processors
          { id := processorId, jobId := first } fresh (Processor.stage? first)
        rw [seen, alone.2.2] at processors
        unfold AdapterService.stages
        dsimp only
        rw [alone.1, alone.2.1, processors]
        exact holds.pending_fits waits
    · cases dequeued

theorem Accounting.lose (holds : Accounting w) {first : Nat} {rest : List Nat}
    (isPending : w.pending = first :: rest) (dead : isLive (w.statusOf first) = false) :
    Accounting { w with pending := rest } := by
  have waits : first ∈ w.pending := by
    rw [isPending]
    exact List.mem_cons_self
  have alone := holds.tail_alone isPending
  have isKnown : first ∈ w.knownIds :=
    holds.known (List.mem_append_right _ (List.mem_append_left _
      (List.mem_filterMap.mpr ⟨first, waits, if_pos rfl⟩)))
  refine holds.touch first ?_ ?_ isKnown (fun _ => id) holds.cancels holds.countable
  · intro other different
    exact ⟨rfl, stages_congr rfl (filterMap_pending_tail isPending different) rfl⟩
  · unfold AdapterService.stages
    dsimp only
    rw [alone.1, alone.2.1, alone.2.2]
    exact ⟨dead, (holds.fits first).held.isSound⟩

structure ProcessorEffect (w next : JobWorld) (processor : Processor) (phase : ProcessorPhase) :
    Prop where
  processors : next.processors = (w.setPhase processor.id phase).processors
  pending : next.pending = w.pending
  cancels : next.cancels = w.cancels
  known : next.knownIds = w.knownIds
  data : forall other, other ≠ processor.jobId -> next.data other = w.data other

variable {processor : Processor} {phase : ProcessorPhase}

theorem Accounting.move {later : JobWorld} (holds : Accounting w)
    (found : w.processors.find processor.id = some processor)
    (effect : ProcessorEffect w.toJobWorld later processor phase)
    (fits : Fits (later.data processor.jobId) (.taken phase)) :
    Accounting { w with toJobWorld := later } := by
  have present := find_mem found
  have alone := holds.processor_alone present
  have isKnown : processor.jobId ∈ w.knownIds :=
    holds.known (List.mem_append_right _ (List.mem_append_right _
      (List.mem_filterMap.mpr ⟨processor, present, if_pos rfl⟩)))
  refine holds.touch processor.jobId ?_ ?_ (effect.known ▸ isKnown)
    (fun _ wasKnown => effect.known ▸ wasKnown) ?_ holds.countable
  · intro other different
    refine ⟨effect.data other different, stages_congr rfl ?_ ?_⟩
    · rw [effect.pending]
    · rw [effect.processors]
      exact filterMap_update_of_hidden _ _ (Processor.setPhase_id phase) found _
        (if_neg different.symm) (if_neg different.symm)
  · have seen : processor.stage? processor.jobId = some (.taken processor.phase) := if_pos rfl
    have moved := filterMap_update_of_alone w.processors (Processor.setPhase phase)
      (Processor.setPhase_id phase) found (Processor.stage? processor.jobId)
      (by rw [alone.2.2, seen]; rfl)
    have after : (processor.setPhase phase).stage? processor.jobId = some (.taken phase) := if_pos rfl
    rw [after] at moved
    unfold AdapterService.stages
    dsimp only
    rw [effect.processors, effect.pending, alone.1, alone.2.1]
    exact Eq.mpr (congrArg (FitsAll _) moved) fits
  · intro request asked
    rw [effect.cancels] at asked
    rw [effect.known]
    exact holds.cancels request asked

theorem find_setPhase {w : JobWorld} (found : w.processors.find processor.id = some processor) :
    (w.setPhase processor.id phase).processors.find processor.id =
      some (processor.setPhase phase) := by
  refine (find_update _ _ _ (Processor.setPhase_id phase) _).trans ?_
  rw [if_pos rfl, found]
  rfl

/-- `process_one` ends, and its job is not live. -/
theorem Accounting.endProcessor (holds : Accounting w)
    (found : w.processors.find processor.id = some processor)
    (dead : isLive (w.statusOf processor.jobId) = false) :
    Accounting { w with toJobWorld := w.setPhase processor.id .ended } :=
  holds.move found ⟨rfl, rfl, rfl, rfl, fun _ _ => rfl⟩
    ⟨dead, (holds.fits processor.jobId).held.isSound⟩

end Coordinators

section Process

variable {w later : JobWorld} {processor : Processor} {now : Instant}

theorem ifLive_found (status : JobStatus) (phase : ProcessorPhase) :
    ifLive (.found status) phase = if status = .cancelled then .ended else phase := by
  cases status <;> rfl

/-- What a call of `process_one` does: the other jobs stay, what is stored fits the next
stage, and only two calls write the status. -/
structure Processes (w later : JobWorld) (processor : Processor) (phase : ProcessorPhase) :
    Prop where
  effect : ProcessorEffect w later processor phase
  fits : Fits (later.data processor.jobId) (.taken phase)
  status : later.statusOf processor.jobId =
    processor.phase.statusAfter (w.statusOf processor.jobId)

theorem processes_setPhase {phase : ProcessorPhase}
    (fits : Fits (w.data processor.jobId) (.taken phase))
    (status : processor.phase.statusAfter (w.statusOf processor.jobId) =
      w.statusOf processor.jobId) :
    Processes w (w.setPhase processor.id phase) processor phase :=
  ⟨⟨rfl, rfl, rfl, rfl, fun _ _ => rfl⟩, fits, status.symm⟩

theorem processes_hset {phase : ProcessorPhase} {change : JobHash -> JobHash}
    {keeps : forall hash, (change hash).id = hash.id}
    (fits : Fits { w.data processor.jobId with
      hash := some (change ((w.data processor.jobId).hash.getD { id := processor.jobId })) }
        (.taken phase))
    (status : processor.phase.statusAfter (w.statusOf processor.jobId) =
      (change ((w.data processor.jobId).hash.getD { id := processor.jobId })).status) :
    Processes w { w.setPhase processor.id phase with
      jobs := hset w.jobs processor.jobId change keeps } processor phase := by
  have here : JobWorld.data { w.setPhase processor.id phase with
      jobs := hset w.jobs processor.jobId change keeps } processor.jobId = _ :=
    data_hset_self change keeps
  refine ⟨⟨rfl, rfl, rfl, rfl, fun other different => data_hset_other different _ _⟩, ?_, ?_⟩
  · rw [here]
    exact fits
  · exact (congrArg JobData.status here).trans status.symm

theorem processes_check {next : ProcessorPhase} {fact : JobHash -> Dict StoredResult -> Prop}
    (keeps : (w.data processor.jobId).Keeps fact) (total : JobHash -> Nat)
    (shows : forall {hash results}, fact hash results -> hash.Shows (total hash))
    (sound : forall {hash results}, fact hash results -> Sound hash results)
    (passes : forall {hash}, (w.data processor.jobId).hash = some hash ->
      fact hash (w.data processor.jobId).results -> hash.status ≠ some .cancelled ->
        Fits (w.data processor.jobId) (.taken next))
    (status : processor.phase.statusAfter (w.statusOf processor.jobId) =
      w.statusOf processor.jobId) :
    Exists fun phase => Processes w
      (w.setPhase processor.id (ifLive (getStatus w.jobs processor.jobId) next)) processor phase := by
  rcases keeps with ⟨hash, isHash, holds⟩
  rcases getStatus_of_shows isHash (shows holds) with ⟨found, isStatus, read⟩
  refine ⟨_, processes_setPhase ?_ status⟩
  rw [read, ifLive_found]
  by_cases cancelled : found = .cancelled
  · rw [if_pos cancelled]
    refine ⟨?_, JobData.Keeps.isSound ⟨hash, isHash, holds⟩ sound⟩
    unfold JobData.status
    rw [isHash]
    change isLive hash.status = false
    rw [isStatus, cancelled]
    rfl
  · rw [if_neg cancelled]
    refine passes isHash holds ?_
    rw [isStatus]
    exact fun same => cancelled (Option.some.inj same)

theorem Full.complete {hash : JobHash} {results : Dict StoredResult} (full : Full hash results)
    (createdAt : Option Instant) (now : Instant) :
    Sound (hash.setCompleted createdAt now) results :=
  ⟨full.sound.bounded, fun _ => ⟨full.shows.total, full.reported⟩⟩

theorem Rests.setExpires {data : JobData} (rests : Rests data) :
    Rests { data with hash := data.hash.map JobHash.setExpires } := by
  rcases rests with ⟨dead, sound⟩
  cases stored : data.hash with
  | none =>
      refine ⟨rfl, ?_⟩
      intro hash isHash
      cases isHash
  | some before =>
      unfold JobData.status at dead
      rw [stored] at dead
      refine ⟨dead, ?_⟩
      intro hash isHash
      cases isHash
      exact ⟨(sound before stored).bounded, (sound before stored).complete⟩

theorem processes_expire (rests : Rests (w.data processor.jobId))
    (isPhase : processor.phase = .completed) :
    Processes w { w.setPhase processor.id (.expiring 3) with
      jobs := w.jobs.update processor.jobId JobHash.setExpires JobHash.setExpires_id }
      processor (.expiring 3) := by
  have found : forall jobId, (w.jobs.update processor.jobId JobHash.setExpires
      JobHash.setExpires_id).find jobId = if jobId = processor.jobId
        then (w.jobs.find jobId).map JobHash.setExpires else w.jobs.find jobId :=
    find_update _ _ _ _
  have here : JobWorld.data { w.setPhase processor.id (.expiring 3) with
      jobs := w.jobs.update processor.jobId JobHash.setExpires JobHash.setExpires_id }
      processor.jobId =
        { w.data processor.jobId with hash := (w.data processor.jobId).hash.map JobHash.setExpires } :=
    congrArg (JobData.mk · _ _) ((found processor.jobId).trans (if_pos rfl))
  refine ⟨⟨rfl, rfl, rfl, rfl, ?_⟩, ?_, ?_⟩
  · intro other different
    exact congrArg (JobData.mk · _ _) ((found other).trans (if_neg different))
  · rw [here]
    exact rests.setExpires
  · rw [isPhase]
    refine (congrArg JobData.status here).trans ?_
    unfold JobData.status JobWorld.data JobWorld.statusOf
    dsimp only
    cases w.jobs.find processor.jobId <;> rfl

theorem process_fits (fits : Fits (w.data processor.jobId) (.taken processor.phase))
    (processed : w.process processor now = some later) :
    Exists fun phase => Processes w later processor phase := by
  unfold JobWorld.process at processed
  cases isPhase : processor.phase with
  | dequeued =>
      rw [isPhase] at processed fits
      cases processed
      exact processes_check fits (fun _ => _) Fresh.shows Fresh.sound (fun _ _ _ => fits)
        (by rw [isPhase]; rfl)
  | starting =>
      rw [isPhase] at processed fits
      cases processed
      refine ⟨_, processes_hset ?_ (by rw [isPhase]; rfl)⟩
      exact JobData.Keeps.setHash fits fun fresh => fresh.setStatus (by decide)
  | loadingQueries =>
      rw [isPhase] at processed fits
      cases processed
      exact ⟨_, processes_setPhase fits (by rw [isPhase]; rfl)⟩
  | loadingVariables queries =>
      rw [isPhase] at processed fits
      cases processed
      exact ⟨_, processes_setPhase fits (by rw [isPhase]; rfl)⟩
  | loadingWindow queries =>
      rw [isPhase] at processed fits
      cases processed
      rcases fits with ⟨hash, isHash, fresh⟩
      exact ⟨_, processes_setPhase ⟨queries, hash, isHash, fresh.start⟩ (by rw [isPhase]; rfl)⟩
  | querying tasks =>
      rw [isPhase] at processed fits
      dsimp only at processed
      split at processed
      · rename_i done
        cases processed
        rcases fits with ⟨queries, keeps⟩
        refine processes_check keeps (fun _ => _) Tally.shows Tally.sound ?_ (by rw [isPhase]; rfl)
        intro hash isHash tally live
        exact ⟨hash, isHash, tally.full done live⟩
      · cases processed
  | completing =>
      rw [isPhase] at processed fits
      cases processed
      exact ⟨_, processes_setPhase fits (by rw [isPhase]; rfl)⟩
  | timed createdAt =>
      rw [isPhase] at processed fits
      cases processed
      refine ⟨_, processes_hset ⟨rfl, ?_⟩ (by rw [isPhase]; rfl)⟩
      rcases fits with ⟨hash, isHash, full⟩
      rw [isHash]
      intro changed same
      cases same
      exact full.complete createdAt now
  | completed =>
      rw [isPhase] at processed fits
      cases processed
      exact ⟨_, processes_expire fits isPhase⟩
  | expiring remaining =>
      rw [isPhase] at processed fits
      cases remaining with
      | zero =>
          cases processed
          exact ⟨_, processes_setPhase fits (by rw [isPhase]; rfl)⟩
      | succ remaining =>
          cases processed
          exact ⟨_, processes_setPhase fits (by rw [isPhase]; rfl)⟩
  | ended =>
      rw [isPhase] at processed
      cases processed

end Process

section Query

variable {w later : JobWorld} {processor : Processor} {index : Nat} {tasks : List QueryTask}
  {task : QueryTask}

theorem call_fits (phase : ProcessorPhase) {hash : JobHash} {call : ResultCall}
    {fact : JobHash -> Dict StoredResult -> Prop}
    (isHash : (w.data processor.jobId).hash = some hash)
    (holds : fact (call.onHash hash) (call.onResults (w.data processor.jobId).results)) :
    ProcessorEffect w ((w.setPhase processor.id phase).call processor.jobId call) processor phase ∧
      (JobWorld.data ((w.setPhase processor.id phase).call processor.jobId call)
        processor.jobId).Keeps fact := by
  have parties := call_parties (w.setPhase processor.id phase) processor.jobId call
  have here : JobWorld.data ((w.setPhase processor.id phase).call processor.jobId call)
      processor.jobId = _ := data_call_self (w := w.setPhase processor.id phase) isHash call
  refine ⟨⟨parties.1, ?_, parties.2.2, parties.2.1, ?_⟩, ?_⟩
  · cases call <;> rfl
  · intro other different
    exact data_call_other different call
  · rw [here]
    exact ⟨_, rfl, holds⟩

theorem runQuery_fits {client : PrometheusClient} {vars : Dict String} {start finish : Instant}
    (isPhase : processor.phase = .querying tasks) (taskAt : tasks[index]? = some task)
    (fits : Fits (w.data processor.jobId) (.taken (.querying tasks)))
    (ran : w.runQuery processor index (task.outcome client vars start finish) = some later) :
    Exists fun phase => ProcessorEffect w later processor phase ∧
      Fits (later.data processor.jobId) (.taken phase) := by
  rcases fits with ⟨queries, hash, isHash, tally⟩
  rcases getStatus_of_shows isHash tally.shows with ⟨status, isStatus, read⟩
  unfold JobWorld.runQuery at ran
  rw [isPhase] at ran
  dsimp only at ran
  rw [taskAt, read] at ran
  rcases Option.bind_eq_some_iff.mp ran with ⟨found, isTask, ran⟩
  cases isTask
  rcases Option.bind_eq_some_iff.mp ran with ⟨⟨next, call⟩, advanced, ran⟩
  have after := tally.advance taskAt isStatus advanced
  cases call with
  | none =>
      cases ran
      exact ⟨_, ⟨rfl, rfl, rfl, rfl, fun _ _ => rfl⟩, queries, hash, isHash, after⟩
  | some call =>
      cases ran
      have stored := call_fits (.querying (tasks.set index next)) isHash after
      exact ⟨_, stored.1, queries, stored.2⟩

theorem over_of_reported {status : Option JobStatus} {carriedOut : Bool}
    (isPhase : processor.phase = .querying tasks) (taskAt : tasks[index]? = some task)
    (settled : status = some .cancelled ∨ processor.phase.hasReported index carriedOut = true) :
    status = some .cancelled ∨ task.hasReported carriedOut = true := by
  apply settled.imp_right
  intro reported
  rw [isPhase] at reported
  unfold ProcessorPhase.hasReported at reported
  dsimp only at reported
  rw [taskAt] at reported
  exact reported

theorem owesNone_of_all {calls : List ResultCall} (closing : calls.all ResultCall.isMetadata = true) :
    (QueryTask.writing calls).owes ResultCall.isResult = false ∧
      (QueryTask.writing calls).owes ResultCall.isCount = false :=
  ⟨closing_noResult closing, closing_noCount closing⟩

theorem queryRaises_fits {carriedOut : Bool} {service next : AdapterService}
    (isPhase : processor.phase = .querying tasks) (taskAt : tasks[index]? = some task)
    (fits : Fits (service.data processor.jobId) (.taken (.querying tasks)))
    (settled : service.statusOf processor.jobId = some .cancelled ∨
      processor.phase.hasReported index carriedOut = true)
    (raised : service.queryRaises processor index carriedOut = some next) :
    Exists fun phase => Exists fun later => next = { service with toJobWorld := later } ∧
      ProcessorEffect service.toJobWorld later processor phase ∧
      Fits (later.data processor.jobId) (.taken phase) := by
  rcases fits with ⟨queries, hash, isHash, tally⟩
  have sameStatus : service.statusOf processor.jobId = hash.status := by
    have found : service.jobs.find processor.jobId = some hash := isHash
    unfold JobWorld.statusOf
    rw [found]
    rfl
  have settled := over_of_reported isPhase taskAt (sameStatus ▸ settled)
  unfold AdapterService.queryRaises at raised
  rw [isPhase] at raised
  dsimp only at raised
  rw [taskAt] at raised
  rcases Option.bind_eq_some_iff.mp raised with ⟨found, isTask, raised⟩
  cases isTask
  cases task with
  | waiting sliName spec =>
      cases raised
      have dropped := tally.drop taskAt (settled.imp_right fun reported => by cases reported)
      exact ⟨_, _, rfl, ⟨rfl, rfl, rfl, rfl, fun _ _ => rfl⟩, queries, hash, isHash, dropped⟩
  | executing sliName spec => cases raised
  | writing calls =>
      cases calls with
      | nil => cases raised
      | cons call rest =>
          cases carriedOut with
          | false =>
              cases raised
              have ended : hash.status = some .cancelled ∨
                  (call :: rest).all ResultCall.isMetadata = true := settled
              have dropped := tally.drop taskAt (ended.imp_right owesNone_of_all)
              exact ⟨_, _, rfl, ⟨rfl, rfl, rfl, rfl, fun _ _ => rfl⟩, queries, hash, isHash, dropped⟩
          | true =>
              cases raised
              have ended : (call.onHash hash).status = some .cancelled ∨
                  rest.all ResultCall.isMetadata = true := by
                rw [onHash_status]
                exact settled
              have after := tally.write taskAt
              have inside := (List.getElem?_eq_some_iff.mp taskAt).1
              have dropped := after.drop (List.getElem?_set_self inside)
                (ended.imp_right owesNone_of_all)
              rw [List.set_set] at dropped
              have stored := call_fits (.querying (tasks.set index (.writing []))) isHash dropped
              exact ⟨_, _, rfl, stored.1, queries, stored.2⟩

end Query

end Adapter
end Tropek
