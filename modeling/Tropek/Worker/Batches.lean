import Tropek.Library.Programs
import Tropek.Worker.QueryVariables

namespace Tropek
namespace Worker

open Library Engine Store Program

/-!
# Batches

A batch is a loop over triggers.  Each trigger commits its run and its evaluations, and
then enqueues one job for each of the evaluations, before the next trigger starts.  When
one of them raises, the request fails, and the commits and the jobs of those before it
stay.
-/

structure EvaluateSingleResponse where
  evaluationId : Nat
  sloEvaluationIds : List Nat
deriving DecidableEq, Repr

structure EvaluateBatchResponse where
  evaluationIds : List Nat
  sloEvaluationIds : List Nat
deriving DecidableEq, Repr

structure BatchState where
  db : Database
  enqueued : List Nat := []

/-- How a batch request raises.  `queue`: the queue has not taken a job. -/
inductive BatchError where
  | trigger (error : TriggerError)
  | queue
deriving DecidableEq, Repr

abbrev BatchProgram (α : Type) :=
  Program BatchState BatchError α

section Loop

variable (refused : Nat -> Bool) (assignments : Assignments) (newIds : Nat -> Nat × (Nat -> Nat))

/-- The first half of `trigger_evaluate`.  What is not committed when it raises is rolled
back. -/
def createAndCommit (request : EvaluateSingleRequest) (position : Nat) : BatchProgram (List Nat) :=
  .ofFunction fun state =>
    match triggerEvaluate state.db assignments request (newIds position).1 (newIds position).2 with
    | .error failure => (.error (.trigger failure), state)
    | .ok (db, sloEvaluationIds) => (.ok sloEvaluationIds, { state with db })

def enqueueJob (sloEvaluationId : Nat) : BatchProgram PUnit :=
  .ofFunction fun state =>
    if refused sloEvaluationId then (.error .queue, state)
    else (.ok (), { state with enqueued := state.enqueued ++ [sloEvaluationId] })

/-- `trigger_evaluate`. -/
def triggerAndEnqueue (request : EvaluateSingleRequest) (position : Nat) :
    BatchProgram EvaluateSingleResponse := do
  let sloEvaluationIds <- createAndCommit assignments newIds request position
  sloEvaluationIds.forM (enqueueJob refused)
  return { evaluationId := (newIds position).1, sloEvaluationIds }

def triggerEach (position : Nat) :
    List EvaluateSingleRequest -> BatchProgram (List EvaluateSingleResponse)
  | [] => return []
  | single :: rest => do
      let response <- triggerAndEnqueue refused assignments newIds single position
      let responses <- triggerEach (position + 1) rest
      return response :: responses

def triggerEvaluateBatch (request : EvaluateBatchRequest) : BatchProgram EvaluateBatchResponse := do
  let singles <- .ofExcept ((batchRequests request).mapError .trigger)
  let responses <- triggerEach refused assignments newIds 0 singles
  return { evaluationIds := responses.map (·.evaluationId)
           sloEvaluationIds := responses.flatMap (·.sloEvaluationIds) }

end Loop

variable {request : TriggerRequest} {db next : Database} {before after : BatchState}
  {responses : List EvaluateSingleResponse}

theorem createAll_ids {contexts : List (Nat × TriggerContext)}
    (created : createAll request db contexts = some next) :
    Exists fun rows : List SLOEvaluation =>
      next.evaluations.rows = db.evaluations.rows ++ rows ∧
        rows.map (fun row => (row.evaluationId, row.id)) =
          contexts.map fun entry => (request.runId, entry.1) := by
  induction contexts generalizing db with
  | nil =>
      cases created
      exact ⟨[], (List.append_nil _).symm, rfl⟩
  | cons entry rest ih =>
      rcases entry with ⟨id, ctx⟩
      rcases createAll_cons created with ⟨middle, first, created⟩
      rcases ih created with ⟨rows, appended, ids⟩
      refine ⟨pendingEvaluation (request.params ctx) (assetTagsOf db ctx.assetId) id :: rows,
        ?_, ?_⟩
      · rw [appended, createPending_rows first, List.append_assoc]
        rfl
      · rw [List.map_cons, List.map_cons, ids]
        rfl

theorem triggerCommit_ids (committed : triggerCommit request db = some next) :
    Exists fun rows : List SLOEvaluation =>
      next.evaluations.rows = db.evaluations.rows ++ rows ∧
        rows.map (fun row => (row.evaluationId, row.id)) =
          request.contexts.map fun entry => (request.runId, entry.1) := by
  unfold triggerCommit at committed
  split at committed
  · rcases createAll_ids committed with ⟨rows, appended, ids⟩
    exact ⟨rows, appended, ids⟩
  · cases committed

theorem triggerEvaluate_lists {assignments : Assignments} {request : EvaluateSingleRequest}
    {runId : Nat} {newId : Nat -> Nat} {ids : List Nat}
    (triggered : triggerEvaluate db assignments request runId newId = .ok (next, ids)) :
    (Exists fun run : EvaluationRun => next.runs.rows = db.runs.rows ++ [run] ∧ run.id = runId) ∧
      Exists fun rows : List SLOEvaluation => next.evaluations.rows = db.evaluations.rows ++ rows ∧
        rows.map (fun row => (row.evaluationId, row.id)) = ids.map (runId, ·) := by
  rcases triggerEvaluate_commits triggered with ⟨asset, _, _, commit, idsAre⟩
  rcases (triggerCommit_committed commit).runs with ⟨run, isRun, _, runRows⟩
  rcases triggerCommit_ids commit with ⟨rows, appended, pairs⟩
  refine ⟨⟨run, runRows, isRun⟩, rows, appended, ?_⟩
  rw [pairs, idsAre, List.map_map]
  rfl

/-- The runs and the evaluations of the responses have been added to the rows, and the
evaluations to the queue. -/
structure Lists (before after : BatchState) (responses : List EvaluateSingleResponse) : Prop where
  runs : Exists fun created : List EvaluationRun =>
    after.db.runs.rows = before.db.runs.rows ++ created ∧
      created.map (·.id) = responses.map (·.evaluationId)
  evaluations : Exists fun created : List SLOEvaluation =>
    after.db.evaluations.rows = before.db.evaluations.rows ++ created ∧
      created.map (fun row => (row.evaluationId, row.id)) = responses.flatMap fun response =>
        response.sloEvaluationIds.map (response.evaluationId, ·)
  enqueued : after.enqueued = before.enqueued ++ responses.flatMap (·.sloEvaluationIds)

theorem lists_nil (state : BatchState) : Lists state state [] :=
  ⟨⟨[], (List.append_nil _).symm, rfl⟩, ⟨[], (List.append_nil _).symm, rfl⟩,
    (List.append_nil _).symm⟩

theorem Lists.trans {between : BatchState} {others : List EvaluateSingleResponse}
    (one : Lists before between responses) (two : Lists between after others) :
    Lists before after (responses ++ others) := by
  rcases one with ⟨⟨runs, runRows, runIds⟩, ⟨rows, evaluationRows, rowIds⟩, enqueued⟩
  rcases two with ⟨⟨laterRuns, laterRunRows, laterRunIds⟩,
    ⟨laterRows, laterEvaluationRows, laterRowIds⟩, laterEnqueued⟩
  refine ⟨⟨runs ++ laterRuns, ?_, ?_⟩, ⟨rows ++ laterRows, ?_, ?_⟩, ?_⟩
  · rw [laterRunRows, runRows, List.append_assoc]
  · rw [List.map_append, List.map_append, runIds, laterRunIds]
  · rw [laterEvaluationRows, evaluationRows, List.append_assoc]
  · rw [List.map_append, List.flatMap_append, rowIds, laterRowIds]
  · rw [laterEnqueued, enqueued, List.flatMap_append, List.append_assoc]

theorem Lists.nodup (lists : Lists before after responses) :
    (responses.flatMap (·.sloEvaluationIds)).Nodup := by
  rcases lists.evaluations with ⟨created, rows, ids⟩
  have distinct := after.db.evaluations.nodup
  rw [rows, List.map_append] at distinct
  have listed : created.map (·.id) = responses.flatMap (·.sloEvaluationIds) := by
    have seconds := congrArg (List.map Prod.snd) ids
    rw [List.map_map, List.map_flatMap] at seconds
    simpa [Function.comp_def] using seconds
  exact listed ▸ distinct.of_append_right

theorem Lists.count (lists : Lists before after responses) (id : Nat) :
    after.enqueued.count id = before.enqueued.count id +
      if id ∈ responses.flatMap (·.sloEvaluationIds) then 1 else 0 := by
  rw [lists.enqueued, List.count_append, lists.nodup.count]

section Leaving

variable (refused : Nat -> Bool) (assignments : Assignments) (newIds : Nat -> Nat × (Nat -> Nat))

theorem run_enqueueJobs (ids : List Nat) (state : BatchState) :
    (run (ids.forM (enqueueJob refused)) state =
        (.ok (), { state with enqueued := state.enqueued ++ ids })) ∨
      Exists fun sent => Exists fun id => Exists fun rest => ids = sent ++ id :: rest ∧
        refused id = true ∧ run (ids.forM (enqueueJob refused)) state =
          (.error .queue, { state with enqueued := state.enqueued ++ sent }) := by
  induction ids generalizing state with
  | nil => exact Or.inl (by rw [List.append_nil]; rfl)
  | cons id rest ih =>
      rw [List.forM_eq_forM, List.forM_cons, run_bind]
      unfold enqueueJob
      rw [run_ofFunction]
      cases refusal : refused id with
      | true =>
          refine Or.inr ⟨[], id, rest, rfl, refusal, ?_⟩
          rw [List.append_nil]
          rfl
      | false =>
          let sent : BatchState := { state with enqueued := state.enqueued ++ [id] }
          rcases ih sent with all | ⟨before, other, after, split, isRefused, stopped⟩
          · refine Or.inl (Eq.trans all ?_)
            rw [List.append_assoc, List.singleton_append]
          · refine Or.inr ⟨id :: before, other, after, congrArg _ split, isRefused,
              Eq.trans stopped ?_⟩
            rw [List.append_assoc, List.singleton_append]

inductive Fails (refused : Nat -> Bool) (assignments : Assignments)
    (newIds : Nat -> Nat × (Nat -> Nat)) (request : EvaluateSingleRequest) (position : Nat)
    (before after : BatchState) : Prop where
  | raised (failure : TriggerError)
      (raises : triggerEvaluate before.db assignments request (newIds position).1
        (newIds position).2 = .error failure)
      (unchanged : after = before)
  | notTaken (db : Database) (sent : List Nat) (id : Nat) (rest : List Nat)
      (commits : triggerEvaluate before.db assignments request (newIds position).1
        (newIds position).2 = .ok (db, sent ++ id :: rest))
      (isRefused : refused id = true)
      (left : after = { db, enqueued := before.enqueued ++ sent })

theorem run_triggerAndEnqueue (request : EvaluateSingleRequest) (position : Nat)
    (state : BatchState) :
    match run (triggerAndEnqueue refused assignments newIds request position) state with
    | (.ok response, after) => Lists state after [response]
    | (.error _, after) => Fails refused assignments newIds request position state after := by
  unfold triggerAndEnqueue createAndCommit
  rw [run_bind, run_ofFunction]
  cases triggered : triggerEvaluate state.db assignments request (newIds position).1
    (newIds position).2 with
  | error failure => exact .raised failure triggered rfl
  | ok committed =>
      rcases committed with ⟨db, ids⟩
      dsimp only
      rw [run_bind]
      rcases run_enqueueJobs refused ids { state with db } with
        all | ⟨sent, id, rest, split, isRefused, stopped⟩
      · rw [all]
        rcases triggerEvaluate_lists triggered with ⟨⟨run, runRows, isRun⟩, rows, appended, pairs⟩
        refine ⟨⟨[run], runRows, congrArg (fun id => [id]) isRun⟩, ⟨rows, appended, ?_⟩, ?_⟩
        · rw [pairs, List.flatMap_singleton]
        · rw [List.flatMap_singleton]
      · rw [stopped]
        exact .notTaken db sent id rest (split ▸ triggered) isRefused rfl

theorem triggerEach_cons (position : Nat) (single : EvaluateSingleRequest)
    (rest : List EvaluateSingleRequest) :
    triggerEach refused assignments newIds position (single :: rest) =
      triggerAndEnqueue refused assignments newIds single position >>= fun response =>
        triggerEach refused assignments newIds (position + 1) rest >>= fun responses =>
          pure (response :: responses) :=
  rfl

theorem run_triggerEach (position : Nat) (singles : List EvaluateSingleRequest)
    (state : BatchState) :
    match run (triggerEach refused assignments newIds position singles) state with
    | (.ok responses, after) => responses.length = singles.length ∧ Lists state after responses
    | (.error _, after) => Exists fun earlier => Exists fun single => Exists fun later =>
        singles = earlier ++ single :: later ∧ Exists fun responses => Exists fun between =>
          run (triggerEach refused assignments newIds position earlier) state =
              (.ok responses, between) ∧
            responses.length = earlier.length ∧ Lists state between responses ∧
            Fails refused assignments newIds single (position + earlier.length) between after := by
  induction singles generalizing position state with
  | nil => exact ⟨rfl, lists_nil state⟩
  | cons single rest ih =>
      rw [triggerEach_cons, run_bind]
      have first := run_triggerAndEnqueue refused assignments newIds single position state
      cases one : run (triggerAndEnqueue refused assignments newIds single position) state with
      | mk result left =>
          rw [one] at first
          cases result with
          | error failure => exact ⟨[], single, rest, rfl, [], state, rfl, rfl, lists_nil state, first⟩
          | ok response =>
              have others := ih (position + 1) left
              dsimp only at first ⊢
              rw [run_bind]
              cases looped : run (triggerEach refused assignments newIds (position + 1) rest) left with
              | mk result after =>
                  rw [looped] at others
                  cases result with
                  | ok responses => exact ⟨congrArg (· + 1) others.1, first.trans others.2⟩
                  | error failure =>
                      rcases others with ⟨earlier, other, later, split, responses, between, ran,
                        length, lists, fails⟩
                      have shifted : position + 1 + earlier.length =
                          position + (single :: earlier).length := by
                        rw [List.length_cons]
                        omega
                      refine ⟨single :: earlier, other, later, congrArg _ split,
                        response :: responses, between, ?_, congrArg (· + 1) length,
                        first.trans lists, shifted ▸ fails⟩
                      rw [triggerEach_cons, run_bind, one]
                      dsimp only
                      rw [run_bind, ran]
                      rfl

def AllOrNothing (request : EvaluateBatchRequest) (before : BatchState) : Prop :=
  match run (triggerEvaluateBatch refused assignments newIds request) before with
  | (.ok response, after) => Exists fun responses => Lists before after responses ∧
      response.evaluationIds = responses.map (·.evaluationId) ∧
      response.sloEvaluationIds = responses.flatMap (·.sloEvaluationIds)
  | (.error _, after) => after.db.runs.rows = before.db.runs.rows ∧
      after.db.evaluations.rows = before.db.evaluations.rows ∧ after.enqueued = before.enqueued

/-- A batch that returns has listed all that it has committed, and enqueued each listed
evaluation once.  A batch that raises has done so for the triggers before the one that
fails, and what that one leaves is nothing, or its commit when a job is not taken. -/
theorem batch_triggers_in_order (request : EvaluateBatchRequest) (before : BatchState) :
    match run (triggerEvaluateBatch refused assignments newIds request) before with
    | (.ok response, after) => Exists fun responses => Lists before after responses ∧
        response.evaluationIds = responses.map (·.evaluationId) ∧
        response.sloEvaluationIds = responses.flatMap (·.sloEvaluationIds) ∧
        (forall id, after.enqueued.count id = before.enqueued.count id +
          if id ∈ response.sloEvaluationIds then 1 else 0) ∧
        Exists fun singles => batchRequests request = .ok singles ∧
          responses.length = singles.length
    | (.error _, after) =>
        (Exists fun invalid => batchRequests request = .error invalid ∧ after = before) ∨
        Exists fun earlier => Exists fun single => Exists fun later =>
          batchRequests request = .ok (earlier ++ single :: later) ∧
          Exists fun responses => Exists fun between =>
            run (triggerEach refused assignments newIds 0 earlier) before =
                (.ok responses, between) ∧
              responses.length = earlier.length ∧ Lists before between responses ∧
              (forall id, between.enqueued.count id = before.enqueued.count id +
                if id ∈ responses.flatMap (·.sloEvaluationIds) then 1 else 0) ∧
              Fails refused assignments newIds single earlier.length between after := by
  unfold triggerEvaluateBatch
  rw [run_bind, run_ofExcept]
  cases parsed : batchRequests request with
  | error invalid => exact Or.inl ⟨invalid, rfl, rfl⟩
  | ok singles =>
      have looped := run_triggerEach refused assignments newIds 0 singles before
      dsimp only [Except.mapError]
      rw [run_bind]
      cases ran : run (triggerEach refused assignments newIds 0 singles) before with
      | mk result after =>
          rw [ran] at looped
          cases result with
          | ok responses =>
              exact ⟨responses, looped.2, rfl, rfl, looped.2.count, singles, rfl, looped.1⟩
          | error failure =>
              rcases looped with ⟨earlier, single, later, split, responses, between, finished,
                length, lists, fails⟩
              rw [Nat.zero_add] at fails
              exact Or.inr ⟨earlier, single, later, congrArg _ split, responses, between, finished,
                length, lists, lists.count, fails⟩

end Leaving

namespace Sample

def halfKnown : EvaluateBatchRequest :=
  { mode := "by_asset", evalName := "hourly", assetNames := ["edge", "missing"],
    periodStart := some 0, periodEnd := some 3600000000 }

def tagged : BatchState :=
  { db := taggedDatabase }

end Sample

/-- The run of the first asset is committed and its evaluation enqueued, and the request
fails. -/
theorem failed_batch_keeps_first_run :
    ¬ AllOrNothing (fun _ => false) Sample.taggedAssignments
      (fun position => (50 + 10 * position, fun number => 51 + 10 * position + number))
      Sample.halfKnown Sample.tagged := by
  have left : ((run (triggerEvaluateBatch (fun _ => false) Sample.taggedAssignments
      (fun position => (50 + 10 * position, fun number => 51 + 10 * position + number))
      Sample.halfKnown) Sample.tagged).map Except.isOk (fun after => after.enqueued)) =
        (false, [51]) := by
    decide +kernel
  unfold AllOrNothing
  generalize run (triggerEvaluateBatch _ _ _ _) _ = finished at left ⊢
  rcases finished with ⟨result, after⟩
  rcases Prod.mk.inj left with ⟨raised, enqueued⟩
  cases result with
  | ok response => cases raised
  | error failure =>
      rintro ⟨_, _, unchanged⟩
      cases enqueued.symm.trans unchanged

end Worker
end Tropek
