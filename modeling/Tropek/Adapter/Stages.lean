import Tropek.Adapter.Cancellation
import Tropek.Adapter.Tallies

namespace Tropek
namespace Adapter

open Library Engine Store Registry

/-!
# Stages of a job

Where a job is on its way through the adapter, and what is stored of it there.  A job has
one stage at most: a submission is going to enqueue it, or it is in the queue, or a
coordinator has taken it.  A job without a stage is never touched again but by a cancel.

A step moves one job from stage to stage and leaves the stored data of the others alone.
-/

structure JobData where
  hash : Option JobHash
  queries : List (String × SpecDict)
  results : Dict StoredResult

def JobWorld.data (w : JobWorld) (jobId : Nat) : JobData :=
  { hash := w.jobs.find jobId
    queries := queriesOf w jobId
    results := w.results jobId }

def JobData.status (data : JobData) : Option JobStatus :=
  data.hash.bind (·.status)

def JobData.Keeps (fact : JobHash -> Dict StoredResult -> Prop) (data : JobData) : Prop :=
  Exists fun hash => data.hash = some hash ∧ fact hash data.results

def JobData.IsSound (data : JobData) : Prop :=
  forall hash, data.hash = some hash -> Sound hash data.results

variable {data : JobData} {fact : JobHash -> Dict StoredResult -> Prop} {hash : JobHash}

theorem JobData.Keeps.isSound (keeps : data.Keeps fact)
    (sound : forall {hash results}, fact hash results -> Sound hash results) : data.IsSound := by
  rcases keeps with ⟨hash, isHash, holds⟩
  intro other isOther
  cases isHash.symm.trans isOther
  exact sound holds

theorem JobData.Keeps.setHash {changed : JobHash -> Dict StoredResult -> Prop}
    (keeps : data.Keeps fact) {change : JobHash -> JobHash} {blank : JobHash}
    (gives : forall {hash results}, fact hash results -> changed (change hash) results) :
    JobData.Keeps changed { data with hash := some (change (data.hash.getD blank)) } := by
  rcases keeps with ⟨hash, isHash, holds⟩
  refine ⟨change hash, ?_, gives holds⟩
  simp [isHash]

section Data

variable {w : JobWorld} {jobId other : Nat}

theorem data_hset_self (change : JobHash -> JobHash)
    (keeps : forall hash, (change hash).id = hash.id) :
    JobWorld.data { w with jobs := hset w.jobs jobId change keeps } jobId =
      { w.data jobId with hash := some (change ((w.data jobId).hash.getD { id := jobId })) } := by
  have found := find_hset w.jobs jobId change keeps jobId
  rw [if_pos rfl] at found
  unfold JobWorld.data
  dsimp only
  rw [found]
  rfl

theorem data_hset_other (different : other ≠ jobId) (change : JobHash -> JobHash)
    (keeps : forall hash, (change hash).id = hash.id) :
    JobWorld.data { w with jobs := hset w.jobs jobId change keeps } other = w.data other := by
  have found := find_hset w.jobs jobId change keeps other
  rw [if_neg different] at found
  unfold JobWorld.data
  dsimp only
  rw [found]
  rfl

theorem data_call_self {hash : JobHash} (found : w.jobs.find jobId = some hash) (call : ResultCall) :
    (w.call jobId call).data jobId =
      { w.data jobId with
        hash := some (call.onHash hash)
        results := call.onResults (w.results jobId) } := by
  cases call with
  | setResult indicator result =>
      unfold JobWorld.data JobWorld.call
      dsimp only
      rw [found, Function.update_self]
      rfl
  | count success =>
      refine (data_hset_self _ _).trans ?_
      unfold JobWorld.data
      dsimp only
      rw [found]
      rfl
  | setMetadata sliName metadata =>
      unfold JobWorld.data JobWorld.call
      dsimp only
      rw [found]
      rfl

theorem data_call_other (different : other ≠ jobId) (call : ResultCall) :
    (w.call jobId call).data other = w.data other := by
  cases call with
  | setResult indicator result =>
      unfold JobWorld.data JobWorld.call
      dsimp only
      rw [Function.update_of_ne different]
      rfl
  | count success => exact data_hset_other different _ _
  | setMetadata sliName metadata => rfl

end Data

/-- How far a job is: its submission, the queue, and the processors that have taken it.
`created`: the submission has not stored the queries yet. -/
inductive Stage where
  | created (queries : List (String × SpecDict))
  | stored
  | pending
  | taken (phase : ProcessorPhase)

def Submission.stage? (jobId : Nat) (submission : Submission) : Option Stage :=
  match submission.phase with
  | .created created => if created = jobId then some (.created (specsOf submission.queries)) else none
  | .stored stored => if stored = jobId then some .stored else none
  | _ => none

def pendingStage? (jobId pending : Nat) : Option Stage :=
  if pending = jobId then some .pending else none

def Processor.stage? (jobId : Nat) (processor : Processor) : Option Stage :=
  if processor.jobId = jobId then some (.taken processor.phase) else none

def AdapterService.stages (w : AdapterService) (jobId : Nat) : List Stage :=
  w.submissions.rows.filterMap (Submission.stage? jobId) ++
    (w.pending.filterMap (pendingStage? jobId) ++
      w.processors.rows.filterMap (Processor.stage? jobId))

theorem Submission.stage?_eq_none {jobId : Nat} {submission : Submission}
    (apart : submission.phase.job? ≠ some jobId) : submission.stage? jobId = none := by
  unfold Submission.stage?
  cases phase : submission.phase with
  | created created =>
      rw [phase] at apart
      exact if_neg fun same => apart (congrArg some same)
  | stored stored =>
      rw [phase] at apart
      exact if_neg fun same => apart (congrArg some same)
  | asked | admitted | returned | refused | raised => rfl

theorem Submission.stage?_isSome {jobId : Nat} {submission : Submission}
    (submits : submission.phase.job? = some jobId) : (submission.stage? jobId).isSome := by
  unfold Submission.stage?
  cases phase : submission.phase with
  | created created =>
      rw [phase] at submits
      cases submits
      simp
  | stored stored =>
      rw [phase] at submits
      cases submits
      simp
  | asked | admitted | returned | refused | raised =>
      rw [phase] at submits
      cases submits

def Rests (data : JobData) : Prop :=
  isLive data.status = false ∧ data.IsSound

def Fits (data : JobData) : Stage -> Prop
  | .created queries => data.Keeps (Fresh queries)
  | .stored => data.Keeps (Fresh data.queries)
  | .pending => data.Keeps (Fresh data.queries)
  | .taken phase =>
      match phase with
      | .dequeued => data.Keeps (Fresh data.queries)
      | .starting => data.Keeps (Fresh data.queries)
      | .loadingQueries => data.Keeps (Fresh data.queries)
      | .loadingVariables queries => data.Keeps (Fresh queries)
      | .loadingWindow queries => data.Keeps (Fresh queries)
      | .querying tasks => Exists fun queries => data.Keeps (Tally queries tasks)
      | .completing => data.Keeps Full
      | .timed _ => data.Keeps Full
      | .completed => Rests data
      | .expiring _ => Rests data
      | .ended => Rests data

def FitsAll (data : JobData) : List Stage -> Prop
  | [] => Rests data
  | [stage] => Fits data stage
  | _ :: _ :: _ => False

inductive Held (data : JobData) : Prop where
  | rests (rests : Rests data)
  | fresh (queries : List (String × SpecDict)) (keeps : data.Keeps (Fresh queries))
  | tally (queries : List (String × SpecDict)) (tasks : List QueryTask)
      (keeps : data.Keeps (Tally queries tasks))
  | full (keeps : data.Keeps Full)

variable {stage : Stage} {stages : List Stage}

theorem Fits.held (fits : Fits data stage) : Held data := by
  cases stage with
  | created queries => exact .fresh queries fits
  | stored | pending => exact .fresh data.queries fits
  | taken phase =>
      cases phase with
      | dequeued | starting | loadingQueries => exact .fresh data.queries fits
      | loadingVariables queries | loadingWindow queries => exact .fresh queries fits
      | querying tasks =>
          rcases fits with ⟨queries, keeps⟩
          exact .tally queries tasks keeps
      | completing | timed => exact .full fits
      | completed | expiring | ended => exact .rests fits

theorem FitsAll.held (fits : FitsAll data stages) : Held data := by
  cases stages with
  | nil => exact .rests fits
  | cons stage others =>
      cases others with
      | nil => exact Fits.held fits
      | cons second rest => exact fits.elim

theorem FitsAll.length_le (fits : FitsAll data stages) : stages.length ≤ 1 := by
  cases stages with
  | nil => exact Nat.zero_le _
  | cons stage others =>
      cases others with
      | nil => exact Nat.le_refl _
      | cons second rest => exact fits.elim

theorem FitsAll.of_mem (fits : FitsAll data stages) (member : stage ∈ stages) :
    stages = [stage] ∧ Fits data stage := by
  cases stages with
  | nil => exact absurd member List.not_mem_nil
  | cons first others =>
      cases others with
      | nil =>
          cases List.mem_singleton.mp member
          exact ⟨rfl, fits⟩
      | cons second rest => exact fits.elim

theorem Held.isSound (held : Held data) : data.IsSound := by
  cases held with
  | rests rests => exact rests.2
  | fresh queries keeps => exact keeps.isSound Fresh.sound
  | tally queries tasks keeps => exact keeps.isSound Tally.sound
  | full keeps => exact keeps.isSound Full.sound

theorem JobData.Keeps.lasting (keeps : data.Keeps fact) (total : JobHash -> Nat)
    (shows : forall {hash results}, fact hash results -> hash.Shows (total hash))
    (isHash : data.hash = some hash) : hash.expires = false := by
  rcases keeps with ⟨other, isOther, holds⟩
  cases isHash.symm.trans isOther
  exact (shows holds).lasting

def JobData.expire (data : JobData) : JobData :=
  { data with hash := none }

theorem Rests.expire (data : JobData) : Rests data.expire := by
  refine ⟨rfl, ?_⟩
  intro hash impossible
  cases impossible

theorem Fits.expire (fits : Fits data stage) (isHash : data.hash = some hash)
    (expires : hash.expires = true) : Fits data.expire stage := by
  have absurdFresh {queries : List (String × SpecDict)} (keeps : data.Keeps (Fresh queries)) :
      False := by
    rw [keeps.lasting (fun _ => queries.length) Fresh.shows isHash] at expires
    cases expires
  have absurdFull (keeps : data.Keeps Full) : False := by
    rw [keeps.lasting JobHash.counted Full.shows isHash] at expires
    cases expires
  cases stage with
  | created queries => exact (absurdFresh fits).elim
  | stored | pending => exact (absurdFresh fits).elim
  | taken phase =>
      cases phase with
      | dequeued | starting | loadingQueries => exact (absurdFresh fits).elim
      | loadingVariables queries | loadingWindow queries => exact (absurdFresh fits).elim
      | querying tasks =>
          rcases fits with ⟨queries, keeps⟩
          rw [keeps.lasting (fun _ => queries.length) Tally.shows isHash] at expires
          cases expires
      | completing | timed => exact (absurdFull fits).elim
      | completed | expiring | ended => exact Rests.expire data

theorem FitsAll.expire (fits : FitsAll data stages) (isHash : data.hash = some hash)
    (expires : hash.expires = true) : FitsAll data.expire stages := by
  cases stages with
  | nil => exact Rests.expire data
  | cons stage others =>
      cases others with
      | nil => exact Fits.expire fits isHash expires
      | cons second rest => exact fits.elim

def JobData.cancel (blank : JobHash) (data : JobData) : JobData :=
  { data with hash := some ((data.hash.getD blank).setStatus .cancelled) }

theorem Rests.cancel (rests : Rests data) (jobId : Nat) : Rests (data.cancel { id := jobId }) := by
  refine ⟨rfl, ?_⟩
  intro hash isHash
  cases isHash
  cases stored : data.hash with
  | none => exact ⟨Nat.le_refl _, fun completed => by cases completed⟩
  | some before => exact (rests.2 before stored).cancel

theorem Fits.cancel (fits : Fits data stage) (jobId : Nat) :
    Fits (data.cancel { id := jobId }) stage := by
  have fresh {queries : List (String × SpecDict)} (keeps : data.Keeps (Fresh queries)) :
      (data.cancel { id := jobId }).Keeps (Fresh queries) :=
    keeps.setHash fun fresh => fresh.setStatus (by decide)
  have full (keeps : data.Keeps Full) : (data.cancel { id := jobId }).Keeps Full :=
    keeps.setHash fun full => full.setStatus .cancelled
  cases stage with
  | created queries => exact fresh fits
  | stored | pending => exact fresh fits
  | taken phase =>
      cases phase with
      | dequeued | starting | loadingQueries => exact fresh fits
      | loadingVariables queries | loadingWindow queries => exact fresh fits
      | querying tasks =>
          rcases fits with ⟨queries, keeps⟩
          exact ⟨queries, keeps.setHash Tally.cancel⟩
      | completing | timed => exact full fits
      | completed | expiring | ended => exact Rests.cancel fits jobId

theorem FitsAll.cancel (fits : FitsAll data stages) (jobId : Nat) :
    FitsAll (data.cancel { id := jobId }) stages := by
  cases stages with
  | nil => exact Rests.cancel fits jobId
  | cons stage others =>
      cases others with
      | nil => exact Fits.cancel fits jobId
      | cons second rest => exact fits.elim

end Adapter
end Tropek
