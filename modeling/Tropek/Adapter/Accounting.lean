import Tropek.Adapter.Stages

namespace Tropek
namespace Adapter

open Library Engine Store Registry KeyedTable

/-!
# The invariant of the jobs

Every job fits its stage, and a job without a stage rests.  The invariant says so of all
jobs at once, so that a step has to be looked at only where it touches one.
-/

/-- The invariant of the service: what is stored for a job is what its stages have done
so far.  `unknown`: nothing is stored under a new id. -/
structure Accounting (w : AdapterService) : Prop where
  fits : forall jobId, FitsAll (w.data jobId) (w.stages jobId)
  unknown : forall jobId, jobId ∉ w.knownIds ->
    w.jobs.find jobId = none ∧ w.results jobId = ∅ ∧ w.stages jobId = []
  cancels : forall request, request ∈ w.cancels.rows -> request.jobId ∈ w.knownIds
  countable : forall submission, submission ∈ w.submissions.rows ->
    Countable (specsOf submission.queries)

section Step

variable {w next : AdapterService}

section

variable (holds : Accounting w)

include holds

theorem Accounting.accounted : Accounted w := by
  intro jobId
  have sound := (holds.fits jobId).held.isSound
  refine ⟨?_, fun hash found => (sound hash found).bounded,
    fun hash found => (sound hash found).complete⟩
  intro live
  have fits := holds.fits jobId
  cases stages : w.stages jobId with
  | nil =>
      rw [stages] at fits
      cases live.symm.trans fits.1
  | cons stage others =>
      have member : stage ∈ w.stages jobId := by
        rw [stages]
        exact List.mem_cons_self
      have fitsStage := (fits.of_mem member).2
      rcases List.mem_append.mp member with submitted | later
      · rcases List.mem_filterMap.mp submitted with ⟨submission, present, seen⟩
        refine Or.inr (Or.inr ⟨submission, present, ?_⟩)
        by_contra apart
        rw [Submission.stage?_eq_none apart] at seen
        cases seen
      · rcases List.mem_append.mp later with waiting | processed
        · rcases List.mem_filterMap.mp waiting with ⟨pending, present, seen⟩
          unfold pendingStage? at seen
          split at seen
          · rename_i same
            exact Or.inl (same ▸ present)
          · cases seen
        · rcases List.mem_filterMap.mp processed with ⟨processor, present, seen⟩
          unfold Processor.stage? at seen
          split at seen
          · rename_i same
            cases seen
            refine Or.inr (Or.inl ⟨processor, present, same, ?_⟩)
            intro ended
            rw [ended] at fitsStage
            cases live.symm.trans fitsStage.1
          · cases seen

theorem Accounting.known {jobId : Nat} {stage : Stage} (member : stage ∈ w.stages jobId) :
    jobId ∈ w.knownIds := by
  by_contra unknown
  rw [(holds.unknown jobId unknown).2.2] at member
  exact List.not_mem_nil member

theorem Accounting.touch (jobId : Nat)
    (elsewhere : forall other, other ≠ jobId -> next.data other = w.data other ∧
      next.stages other = w.stages other)
    (here : FitsAll (next.data jobId) (next.stages jobId)) (isKnown : jobId ∈ next.knownIds)
    (known : forall other, other ∈ w.knownIds -> other ∈ next.knownIds)
    (cancels : forall request, request ∈ next.cancels.rows -> request.jobId ∈ next.knownIds)
    (countable : forall submission, submission ∈ next.submissions.rows ->
      Countable (specsOf submission.queries)) :
    Accounting next := by
  refine ⟨?_, ?_, cancels, countable⟩
  · intro other
    by_cases same : other = jobId
    · rw [same]
      exact here
    · rw [(elsewhere other same).1, (elsewhere other same).2]
      exact holds.fits other
  · intro other unknown
    have different : other ≠ jobId := fun same => unknown (same ▸ isKnown)
    have before := holds.unknown other fun wasKnown => unknown (known other wasKnown)
    have sameData := (elsewhere other different).1
    refine ⟨?_, ?_, (elsewhere other different).2.trans before.2.2⟩
    · exact (congrArg JobData.hash sameData).trans before.1
    · exact (congrArg JobData.results sameData).trans before.2.1

theorem Accounting.keep (data : forall jobId, next.data jobId = w.data jobId)
    (stages : forall jobId, next.stages jobId = w.stages jobId)
    (known : forall jobId, jobId ∈ w.knownIds -> jobId ∈ next.knownIds)
    (cancels : forall request, request ∈ next.cancels.rows -> request.jobId ∈ next.knownIds)
    (countable : forall submission, submission ∈ next.submissions.rows ->
      Countable (specsOf submission.queries)) :
    Accounting next := by
  refine ⟨?_, ?_, cancels, countable⟩
  · intro jobId
    rw [data, stages]
    exact holds.fits jobId
  · intro jobId unknown
    have before := holds.unknown jobId fun wasKnown => unknown (known jobId wasKnown)
    refine ⟨?_, ?_, (stages jobId).trans before.2.2⟩
    · exact (congrArg JobData.hash (data jobId)).trans before.1
    · exact (congrArg JobData.results (data jobId)).trans before.2.1

end

end Step

section Parties

variable {w next : AdapterService} {jobId : Nat}

section

variable {first rest : List Stage} (one : (first ++ rest).length ≤ 1)

include one

theorem single_of_append {stage : Stage} (member : stage ∈ first) :
    first = [stage] ∧ rest = [] := by
  rw [List.length_append] at one
  have positive := List.length_pos_of_mem member
  have alone : first.length = 1 := by omega
  rcases List.length_eq_one_iff.mp alone with ⟨other, same⟩
  rw [same, List.mem_singleton] at member
  exact ⟨member ▸ same, List.length_eq_zero_iff.mp (by omega)⟩

theorem single_of_append_right {stage : Stage} (member : stage ∈ rest) :
    first = [] ∧ rest = [stage] := by
  rw [List.length_append, Nat.add_comm, <- List.length_append] at one
  exact (single_of_append one member).symm

end

section

variable {submission : Submission} {stage : Stage} (holds : Accounting w)
  (present : submission ∈ w.submissions.rows) (seen : submission.stage? jobId = some stage)

include holds present seen

theorem Accounting.submission_alone :
    w.submissions.rows.filterMap (Submission.stage? jobId) = [stage] ∧
      w.pending.filterMap (pendingStage? jobId) = [] ∧
      w.processors.rows.filterMap (Processor.stage? jobId) = [] := by
  have one := (holds.fits jobId).length_le
  have split := single_of_append one (List.mem_filterMap.mpr ⟨submission, present, seen⟩)
  exact ⟨split.1, List.append_eq_nil_iff.mp split.2⟩

theorem Accounting.submission_fits : Fits (w.data jobId) stage :=
  ((holds.fits jobId).of_mem
    (List.mem_append_left _ (List.mem_filterMap.mpr ⟨submission, present, seen⟩))).2

end

section

variable (holds : Accounting w)

include holds

theorem Accounting.pending_alone (waits : jobId ∈ w.pending) :
    w.submissions.rows.filterMap (Submission.stage? jobId) = [] ∧
      w.pending.filterMap (pendingStage? jobId) = [.pending] ∧
      w.processors.rows.filterMap (Processor.stage? jobId) = [] := by
  have one := (holds.fits jobId).length_le
  have member : Stage.pending ∈ w.pending.filterMap (pendingStage? jobId) :=
    List.mem_filterMap.mpr ⟨jobId, waits, if_pos rfl⟩
  have split := single_of_append_right one (List.mem_append_left _ member)
  have parts := single_of_append (Nat.le_of_eq (congrArg List.length split.2)) member
  exact ⟨split.1, parts⟩

theorem Accounting.pending_fits (waits : jobId ∈ w.pending) : Fits (w.data jobId) .pending :=
  ((holds.fits jobId).of_mem (List.mem_append_right _ (List.mem_append_left _
    (List.mem_filterMap.mpr ⟨jobId, waits, if_pos rfl⟩)))).2

theorem Accounting.processor_alone {processor : Processor} (present : processor ∈ w.processors.rows) :
    w.submissions.rows.filterMap (Submission.stage? processor.jobId) = [] ∧
      w.pending.filterMap (pendingStage? processor.jobId) = [] ∧
      w.processors.rows.filterMap (Processor.stage? processor.jobId) = [.taken processor.phase] := by
  have one := (holds.fits processor.jobId).length_le
  have member : Stage.taken processor.phase ∈
      w.processors.rows.filterMap (Processor.stage? processor.jobId) :=
    List.mem_filterMap.mpr ⟨processor, present, if_pos rfl⟩
  have split := single_of_append_right one (List.mem_append_right _ member)
  have parts := single_of_append_right (Nat.le_of_eq (congrArg List.length split.2)) member
  exact ⟨split.1, parts⟩

theorem Accounting.processor_fits {processor : Processor} (present : processor ∈ w.processors.rows) :
    Fits (w.data processor.jobId) (.taken processor.phase) :=
  ((holds.fits processor.jobId).of_mem (List.mem_append_right _ (List.mem_append_right _
    (List.mem_filterMap.mpr ⟨processor, present, if_pos rfl⟩)))).2

end

theorem stages_congr (submissions : next.submissions.rows.filterMap (Submission.stage? jobId) =
      w.submissions.rows.filterMap (Submission.stage? jobId))
    (pending : next.pending.filterMap (pendingStage? jobId) =
      w.pending.filterMap (pendingStage? jobId))
    (processors : next.processors.rows.filterMap (Processor.stage? jobId) =
      w.processors.rows.filterMap (Processor.stage? jobId)) :
    next.stages jobId = w.stages jobId := by
  unfold AdapterService.stages
  rw [submissions, pending, processors]

variable {submission : Submission} {phase : SubmitPhase}

theorem submissions_hidden (found : w.submissions.find submission.id = some submission)
    (before : submission.phase.job? ≠ some jobId) (after : phase.job? ≠ some jobId) :
    (w.setSubmitPhase submission.id phase).submissions.rows.filterMap (Submission.stage? jobId) =
      w.submissions.rows.filterMap (Submission.stage? jobId) := by
  have moved : (submission.setPhase phase).phase.job? ≠ some jobId := after
  exact filterMap_update_of_hidden _ _ (Submission.setPhase_id phase) found _
    (Submission.stage?_eq_none before) (Submission.stage?_eq_none moved)

theorem Accounting.setSubmitPhase_countable (holds : Accounting w) :
    forall other, other ∈ (w.setSubmitPhase submission.id phase).submissions.rows ->
      Countable (specsOf other.queries) := by
  intro other present
  rcases (mem_update _ _ _ (Submission.setPhase_id phase) _).mp present with
    ⟨inTable, _⟩ | ⟨old, found, same⟩
  · exact holds.countable other inTable
  · rw [<- same]
    exact holds.countable old (find_mem found)

theorem find_setSubmitPhase (found : w.submissions.find submission.id = some submission) :
    (w.setSubmitPhase submission.id phase).submissions.find submission.id =
      some (submission.setPhase phase) := by
  refine (find_update _ _ _ (Submission.setPhase_id phase) _).trans ?_
  rw [if_pos rfl, found]
  rfl

section

variable (holds : Accounting w) (found : w.submissions.find submission.id = some submission)

include holds found

theorem Accounting.setSubmitPhase_quiet (before : submission.phase.job? = none)
    (after : phase.job? = none) : Accounting (w.setSubmitPhase submission.id phase) := by
  refine holds.keep (fun _ => rfl) ?_ (fun _ => id) holds.cancels holds.setSubmitPhase_countable
  intro jobId
  refine stages_congr (submissions_hidden found ?_ ?_) rfl rfl
  · rw [before]
    exact (Option.some_ne_none jobId).symm
  · rw [after]
    exact (Option.some_ne_none jobId).symm

theorem Accounting.endSubmission
    (dead : forall jobId, submission.phase.job? = some jobId -> isLive (w.statusOf jobId) = false) :
    Accounting (w.setSubmitPhase submission.id .raised) := by
  cases submits : submission.phase.job? with
  | none => exact holds.setSubmitPhase_quiet found submits rfl
  | some jobId =>
      have present := find_mem found
      rcases Option.isSome_iff_exists.mp (Submission.stage?_isSome submits) with ⟨stage, seen⟩
      have alone := holds.submission_alone present seen
      have isKnown : jobId ∈ w.knownIds :=
        holds.known (List.mem_append_left _ (List.mem_filterMap.mpr ⟨submission, present, seen⟩))
      refine holds.touch jobId ?_ ?_ isKnown (fun _ => id) holds.cancels
        holds.setSubmitPhase_countable
      · intro other different
        refine ⟨rfl, stages_congr (submissions_hidden found ?_ ?_) rfl rfl⟩
        · rw [submits]
          exact fun same => different (Option.some.inj same).symm
        · exact (Option.some_ne_none other).symm
      · have gone := filterMap_update_of_alone w.submissions
          (Submission.setPhase .raised) (Submission.setPhase_id .raised) found
          (Submission.stage? jobId) (by rw [alone.1, seen]; rfl)
        have stages : (w.setSubmitPhase submission.id .raised).stages jobId = [] := by
          unfold AdapterService.stages
          exact congrArg₂ _ gone (congrArg₂ _ alone.2.1 alone.2.2)
        rw [stages]
        exact ⟨dead jobId submits, (holds.fits jobId).held.isSound⟩

end

theorem find_storeQueries (table : KeyedTable JobQueries.id) (jobId : Nat)
    (queries : List (String × SpecDict)) (wanted : Nat) :
    (((table.upsert { id := jobId, queries } (fun stored => { stored with queries })
        fun _ => rfl).find wanted).map (·.queries)).getD [] =
      if wanted = jobId then queries else ((table.find wanted).map (·.queries)).getD [] := by
  rw [find_upsert]
  by_cases same : wanted = jobId
  · rw [if_pos same, if_pos same]
    cases table.find wanted <;> rfl
  · rw [if_neg same, if_neg same]

theorem fresh_created {queries : List (String × SpecDict)} (countable : Countable queries)
    (jobId : Nat) (now : Instant) :
    Fresh queries (JobHash.setCreated queries.length now { id := jobId }) ∅ :=
  ⟨⟨rfl, rfl, rfl, rfl, rfl, rfl⟩, by simp [JobHash.setCreated], rfl, rfl, countable⟩

structure SubmitEffect (w next : AdapterService) (submission : Submission) (phase : SubmitPhase)
    (jobId : Nat) : Prop where
  before : submission.phase.job? = none ∨ submission.phase.job? = some jobId
  after : phase.job? = none ∨ phase.job? = some jobId
  submissions : next.submissions = (w.setSubmitPhase submission.id phase).submissions
  processors : next.processors = w.processors
  cancels : next.cancels = w.cancels
  known : forall other, other ∈ w.knownIds -> other ∈ next.knownIds
  isKnown : jobId ∈ next.knownIds
  data : forall other, other ≠ jobId -> next.data other = w.data other
  pending : forall other, other ≠ jobId ->
    next.pending.filterMap (pendingStage? other) = w.pending.filterMap (pendingStage? other)

section

variable {w next : AdapterService} {submission : Submission} {phase : SubmitPhase} {jobId : Nat}
  (effect : SubmitEffect w next submission phase jobId)

include effect

theorem SubmitEffect.accounting (holds : Accounting w)
    (found : w.submissions.find submission.id = some submission)
    (here : FitsAll (next.data jobId) (next.stages jobId)) : Accounting next := by
  have apart {other : Nat} {some? : Option Nat} (different : other ≠ jobId)
      (either : some? = none ∨ some? = some jobId) : some? ≠ some other := by
    rcases either with nowhere | isJob
    · rw [nowhere]
      exact (Option.some_ne_none other).symm
    · rw [isJob]
      exact fun same => different (Option.some.inj same).symm
  refine holds.touch jobId ?_ here effect.isKnown effect.known ?_ ?_
  · intro other different
    refine ⟨effect.data other different, stages_congr ?_ (effect.pending other different) ?_⟩
    · rw [effect.submissions]
      exact submissions_hidden found (apart different effect.before) (apart different effect.after)
    · rw [effect.processors]
  · intro request asked
    rw [effect.cancels] at asked
    exact effect.known _ (holds.cancels request asked)
  · intro other present
    rw [effect.submissions] at present
    exact holds.setSubmitPhase_countable other present

theorem SubmitEffect.stages (found : w.submissions.find submission.id = some submission)
    (alone : w.submissions.rows.filterMap (Submission.stage? jobId) =
      (submission.stage? jobId).toList) :
    next.stages jobId = ((submission.setPhase phase).stage? jobId).toList ++
      (next.pending.filterMap (pendingStage? jobId) ++
        w.processors.rows.filterMap (Processor.stage? jobId)) := by
  have moved := filterMap_update_of_alone w.submissions (Submission.setPhase phase)
    (Submission.setPhase_id phase) found (Submission.stage? jobId) alone
  unfold AdapterService.stages
  rw [effect.submissions, effect.processors]
  exact congrArg (· ++ _) moved

end

section Calls

variable {maxQueueDepth newId : Nat} {now : Instant}

section

variable (holds : Accounting w) (found : w.submissions.find submission.id = some submission)
  (called : w.submitCall maxQueueDepth submission newId now = some next)

include holds found called

theorem Accounting.create (isPhase : submission.phase = .admitted) :
    Accounting next ∧
      next.submissions = (w.setSubmitPhase submission.id (.created newId)).submissions := by
  unfold AdapterService.submitCall at called
  rw [isPhase] at called
  dsimp only at called
  split at called
  · cases called
  · rename_i notKnown
    have isNew : newId ∉ w.knownIds := by simpa using notKnown
    have isNext := Option.some.inj called
    have nowhere : submission.phase.job? = none := by
      rw [isPhase]
      rfl
    have effect : SubmitEffect w next submission (.created newId) newId := by
      subst isNext
      exact ⟨Or.inl nowhere, Or.inr rfl, rfl, rfl, rfl, fun _ => List.mem_cons_of_mem newId,
        List.mem_cons_self, fun other different => data_hset_other different _ _, fun _ _ => rfl⟩
    have data : next.data newId = { w.data newId with
        hash := some (JobHash.setCreated (specsOf submission.queries).length now
          ((w.data newId).hash.getD { id := newId })) } := by
      subst isNext
      exact data_hset_self _ _
    have pending : next.pending = w.pending := by
      subst isNext
      rfl
    rcases holds.unknown newId isNew with ⟨noHash, noResults, noStages⟩
    have parts := List.append_eq_nil_iff.mp noStages
    have others := List.append_eq_nil_iff.mp parts.2
    have unseen : submission.stage? newId = none := by
      apply Submission.stage?_eq_none
      rw [nowhere]
      exact (Option.some_ne_none newId).symm
    have stages := effect.stages found (by rw [parts.1, unseen]; rfl)
    have seen : (submission.setPhase (.created newId)).stage? newId =
        some (.created (specsOf submission.queries)) := if_pos rfl
    rw [seen, pending, others.1, others.2] at stages
    refine ⟨effect.accounting holds found ?_, effect.submissions⟩
    rw [stages, data]
    have noData : (w.data newId).hash = none := noHash
    have noResult : (w.data newId).results = ∅ := noResults
    refine ⟨_, rfl, ?_⟩
    rw [noData, noResult]
    exact fresh_created (holds.countable submission (find_mem found)) newId now

theorem Accounting.store {jobId : Nat} (isPhase : submission.phase = .created jobId) :
    Accounting next ∧
      next.submissions = (w.setSubmitPhase submission.id (.stored jobId)).submissions ∧
      next.statusOf jobId = w.statusOf jobId := by
  unfold AdapterService.submitCall at called
  rw [isPhase] at called
  have isNext := Option.some.inj called
  have present := find_mem found
  have seen : submission.stage? jobId = some (.created (specsOf submission.queries)) := by
    unfold Submission.stage?
    rw [isPhase]
    exact if_pos rfl
  have alone := holds.submission_alone present seen
  have fits := holds.submission_fits present seen
  have effect : SubmitEffect w next submission (.stored jobId) jobId := by
    subst isNext
    refine ⟨Or.inr (by rw [isPhase]; rfl), Or.inr rfl, rfl, rfl, rfl, fun _ => id, ?_, ?_,
      fun _ _ => rfl⟩
    · exact holds.known (List.mem_append_left _ (List.mem_filterMap.mpr ⟨submission, present, seen⟩))
    · intro other different
      have unchanged := find_storeQueries w.queries jobId (specsOf submission.queries) other
      rw [if_neg different] at unchanged
      unfold JobWorld.data
      exact congrArg (JobData.mk _ · _) unchanged
  have data : next.data jobId = { w.data jobId with queries := specsOf submission.queries } := by
    subst isNext
    have stored := find_storeQueries w.queries jobId (specsOf submission.queries) jobId
    rw [if_pos rfl] at stored
    unfold JobWorld.data
    exact congrArg (JobData.mk _ · _) stored
  have pending : next.pending = w.pending := by
    subst isNext
    rfl
  have stages := effect.stages found (by rw [alone.1, seen]; rfl)
  have moved : (submission.setPhase (.stored jobId)).stage? jobId = some .stored := if_pos rfl
  rw [moved, pending, alone.2.1, alone.2.2] at stages
  refine ⟨effect.accounting holds found ?_, effect.submissions, ?_⟩
  · rw [stages, data]
    exact fits
  · exact congrArg JobData.status data

theorem Accounting.enqueue {jobId : Nat} (isPhase : submission.phase = .stored jobId) :
    Accounting next ∧
      next.submissions = (w.setSubmitPhase submission.id (.returned jobId)).submissions := by
  unfold AdapterService.submitCall at called
  rw [isPhase] at called
  have isNext := Option.some.inj called
  have present := find_mem found
  have seen : submission.stage? jobId = some .stored := by
    unfold Submission.stage?
    rw [isPhase]
    exact if_pos rfl
  have alone := holds.submission_alone present seen
  have fits := holds.submission_fits present seen
  have pending : next.pending = w.pending ++ [jobId] := by
    subst isNext
    rfl
  have effect : SubmitEffect w next submission (.returned jobId) jobId := by
    refine ⟨Or.inr (by rw [isPhase]; rfl), Or.inl rfl, ?_, ?_, ?_, ?_, ?_, ?_, ?_⟩
    · rw [<- isNext]
    · rw [<- isNext]
      rfl
    · rw [<- isNext]
      rfl
    · rw [<- isNext]
      exact fun _ => id
    · rw [<- isNext]
      exact holds.known (List.mem_append_left _ (List.mem_filterMap.mpr ⟨submission, present, seen⟩))
    · rw [<- isNext]
      exact fun _ _ => rfl
    · intro other different
      have unseen : pendingStage? other jobId = none := if_neg different.symm
      rw [pending, List.filterMap_append, List.filterMap_cons, unseen]
      exact List.append_nil _
  have stages := effect.stages found (by rw [alone.1, seen]; rfl)
  have gone : (submission.setPhase (.returned jobId)).stage? jobId = none := rfl
  have waits : pendingStage? jobId jobId = some .pending := if_pos rfl
  rw [gone, pending, List.filterMap_append, List.filterMap_cons, waits, alone.2.1, alone.2.2] at stages
  refine ⟨effect.accounting holds found ?_, effect.submissions⟩
  have data : next.data jobId = w.data jobId := by
    rw [<- isNext]
    rfl
  rw [stages, data]
  exact fits

/-- A call of a submission keeps the invariant.  A submission that still has to enqueue a
job after it has created the job with it, or leaves the status alone. -/
theorem Accounting.submitCall :
    Accounting next ∧ Exists fun phase =>
      next.submissions.find submission.id = some (submission.setPhase phase) ∧
        forall jobId, phase.job? = some jobId -> submission.phase = .admitted ∨
          (submission.phase = .created jobId ∧ next.statusOf jobId = w.statusOf jobId) := by
  have moved {phase : SubmitPhase}
      (same : next.submissions = (w.setSubmitPhase submission.id phase).submissions) :
      next.submissions.find submission.id = some (submission.setPhase phase) := by
    rw [same]
    exact find_setSubmitPhase found
  cases isPhase : submission.phase with
  | asked =>
      unfold AdapterService.submitCall at called
      rw [isPhase] at called
      cases called
      refine ⟨holds.setSubmitPhase_quiet found (by rw [isPhase]; rfl) (by split <;> rfl), _,
        moved rfl, ?_⟩
      intro jobId submits
      split at submits <;> cases submits
  | admitted =>
      have created := holds.create found called isPhase
      exact ⟨created.1, _, moved created.2, fun _ _ => Or.inl rfl⟩
  | created jobId =>
      have stored := holds.store found called isPhase
      refine ⟨stored.1, _, moved stored.2.1, ?_⟩
      intro other submits
      cases submits
      exact Or.inr ⟨rfl, stored.2.2⟩
  | stored jobId =>
      have enqueued := holds.enqueue found called isPhase
      refine ⟨enqueued.1, _, moved enqueued.2, ?_⟩
      intro other submits
      cases submits
  | returned | refused | raised =>
      unfold AdapterService.submitCall at called
      rw [isPhase] at called
      cases called

theorem Accounting.submitRaises {carriedOut : Bool}
    (leavesNone : submission.phase.leavesNone w.toJobWorld carriedOut = true) :
    Accounting ((if carriedOut then next else w).setSubmitPhase submission.id .raised) := by
  cases carriedOut with
  | false =>
      refine holds.endSubmission found ?_
      intro jobId submits
      cases isPhase : submission.phase with
      | created created =>
          rw [isPhase] at submits leavesNone
          cases submits
          simpa [SubmitPhase.leavesNone] using leavesNone
      | stored stored =>
          rw [isPhase] at submits leavesNone
          cases submits
          simpa [SubmitPhase.leavesNone] using leavesNone
      | asked | admitted | returned | refused | raised =>
          rw [isPhase] at submits
          cases submits
  | true =>
      rcases holds.submitCall found called with ⟨nextHolds, phase, nextFound, pending⟩
      change Accounting (next.setSubmitPhase (submission.setPhase phase).id .raised)
      refine nextHolds.endSubmission nextFound ?_
      intro jobId submits
      rcases pending jobId submits with isAdmitted | ⟨isCreated, sameStatus⟩
      · rw [isAdmitted] at leavesNone
        cases leavesNone
      · rw [isCreated] at leavesNone
        rw [sameStatus]
        simpa [SubmitPhase.leavesNone] using leavesNone

end

end Calls

end Parties

end Adapter
end Tropek
