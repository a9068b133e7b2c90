import Tropek.Finalization.System

namespace Tropek
namespace Finalization

open Library Engine Store Worker KeyedTable

/-!
# What a step does to attempts and runs

To the attempts and to the runs a step does one of five things.  It leaves the
attempts alone and at most adds pending runs; it starts an attempt; it moves one
attempt by a statement; it commits one; or it drops one that has not ended.
-/

def RunsGrow (first second : Runs) : Prop :=
  Exists fun created : List EvaluationRun =>
    second.rows = first.rows ++ created ∧ forall run, run ∈ created -> run.status = .pending

theorem RunsGrow.refl (runs : Runs) : RunsGrow runs runs :=
  ⟨[], (List.append_nil _).symm, fun _ impossible => absurd impossible List.not_mem_nil⟩

theorem RunsGrow.of_eq {first second : Runs} (same : second = first) : RunsGrow first second :=
  same ▸ RunsGrow.refl first

theorem RunsGrow.find {first second : Runs} (grow : RunsGrow first second) {runId : Nat}
    {run : EvaluationRun} (found : first.find runId = some run) :
    second.find runId = some run := by
  rcases grow with ⟨created, rows, _⟩
  refine (find_eq_some _ _ _).mpr ⟨?_, find_key found⟩
  rw [rows]
  exact List.mem_append_left _ (find_mem found)

inductive Moves (w : RunWorld) (attempt : Attempt) : Action -> AttemptPhase -> Prop where
  | runOver (phase : attempt.phase = .starting)
      (missing : unfinalized w.db.runs attempt.runId = none) :
      Moves w attempt (.readRun attempt.id) .ended
  | runThere (run : EvaluationRun) (phase : attempt.phase = .starting)
      (found : unfinalized w.db.runs attempt.runId = some run) :
      Moves w attempt (.readRun attempt.id) .reading
  | childrenRead (phase : attempt.phase = .reading) :
      Moves w attempt (.readChildren attempt.id)
        (afterReading (childrenOf w.db.evaluations attempt.runId))
  | runUpdated (children : List Child) (phase : attempt.phase = .deciding children)
      (unlocked : w.locked attempt.runId = false) :
      Moves w attempt (.update attempt.id) (afterUpdate w attempt.runId children)

inductive Effect (w next : RunWorld) (action : Action) : Prop where
  | quiet (attempts : next.attempts = w.attempts) (runs : RunsGrow w.db.runs next.db.runs)
  | started (attempt : Attempt) (fresh : w.attempts.find attempt.id = none)
      (phase : attempt.phase = .starting) (attempts : next.attempts = w.attempts.insert attempt fresh)
      (db : next.db = w.db)
  | moved (attempt : Attempt) (phase : AttemptPhase)
      (found : w.attempts.find attempt.id = some attempt) (moves : Moves w attempt action phase)
      (attempts : next.attempts = (w.setPhase attempt.id phase).attempts) (db : next.db = w.db)
  | committed (attempt : Attempt) (children : List Child)
      (found : w.attempts.find attempt.id = some attempt)
      (phase : attempt.phase = .updated children)
      (attempts : next.attempts = (w.setPhase attempt.id (.returned children)).attempts)
      (db : next.db =
        { w.db with runs := finalizeRun w.db.runs attempt.runId (aggregate children) })
  | crashed (attempt : Attempt) (found : w.attempts.find attempt.id = some attempt)
      (running : attempt.isOver = false) (attempts : next.attempts = w.attempts.delete attempt.id)
      (db : next.db = w.db)

theorem start_eq_some {w next : RunWorld} {attemptId runId : Nat}
    (started : w.start attemptId runId = some next) :
    Exists fun fresh : w.attempts.find attemptId = none =>
      next = { w with attempts := w.attempts.insert { id := attemptId, runId } fresh } := by
  unfold RunWorld.start at started
  dsimp only at started
  split at started
  · rename_i fresh
    cases started
    exact ⟨fresh, rfl⟩
  · cases started

theorem triggerEvaluate_runs {db next : Database} {assignments : Assignments}
    {request : EvaluateSingleRequest} {runId : Nat} {newId : Nat -> Nat} {ids : List Nat}
    (triggered : triggerEvaluate db assignments request runId newId = .ok (next, ids)) :
    RunsGrow db.runs next.runs := by
  rcases triggerEvaluate_eq_ok triggered with ⟨_, _, _, _, _, committed, _⟩
  rcases committed.runs with ⟨run, _, pending, rows⟩
  exact ⟨[run], rows, fun other member => List.mem_singleton.mp member ▸ pending⟩

theorem batchTrigger_runs (w : RunWorld) (batchId : Nat) (request : EvaluateSingleRequest)
    (rest : List EvaluateSingleRequest) (runId : Nat) (newId : Nat -> Nat) :
    (w.batchTrigger batchId request rest runId newId).attempts = w.attempts ∧
      RunsGrow w.db.runs (w.batchTrigger batchId request rest runId newId).db.runs := by
  unfold RunWorld.batchTrigger
  cases triggered : triggerEvaluate w.db w.assignments request runId newId with
  | error failure => exact ⟨rfl, .refl _⟩
  | ok result => exact ⟨rfl, triggerEvaluate_runs triggered⟩

theorem step_effect {w next : RunWorld} {action : Action} (stepped : step w action = some next) :
    Effect w next action := by
  cases action with
  | configure registry =>
      cases stepped
      exact .quiet rfl (.refl _)
  | trigger request runId newId =>
      rcases Option.bind_eq_some_iff.mp stepped with ⟨⟨db, ids⟩, triggered, same⟩
      cases same
      exact .quiet rfl (triggerEvaluate_runs (Fallible.toOption_eq_some.mp triggered))
  | batch batchId request =>
      rcases Option.bind_eq_some_iff.mp stepped with ⟨remaining, _, stepped⟩
      dsimp only at stepped
      split at stepped
      · cases stepped
        exact .quiet rfl (.refl _)
      · cases stepped
  | batchNext batchId runId newId =>
      rcases Option.bind_eq_some_iff.mp stepped with ⟨batch, _, stepped⟩
      split at stepped
      · cases stepped
      · rename_i request rest _
        cases stepped
        have kept := batchTrigger_runs w batchId request rest runId newId
        exact .quiet kept.1 kept.2
  | child write =>
      cases stepped
      exact .quiet rfl (.refl _)
  | operate operation =>
      rcases Option.bind_eq_some_iff.mp stepped with ⟨db, operated, same⟩
      cases same
      exact .quiet rfl (.of_eq (Maintenance.step_runs operated))
  | finalizeJob attemptId runId =>
      rcases start_eq_some stepped with ⟨fresh, same⟩
      exact .started { id := attemptId, runId } fresh rfl (by rw [same]) (by rw [same])
  | sweep sweepId limit =>
      simp only [step] at stepped
      split at stepped
      · cases stepped
        exact .quiet rfl (.refl _)
      · cases stepped
  | sweepNext sweepId attemptId =>
      rcases Option.bind_eq_some_iff.mp stepped with ⟨sweep, _, stepped⟩
      split at stepped
      · cases stepped
      · rename_i runId rest _
        rcases start_eq_some stepped with ⟨fresh, same⟩
        exact .started { id := attemptId, runId } fresh rfl (by rw [same]) (by rw [same])
  | readRun attemptId =>
      rcases Option.bind_eq_some_iff.mp stepped with ⟨attempt, found, stepped⟩
      cases find_key found
      split at stepped
      · rename_i phase
        split at stepped
        · rename_i missing
          cases stepped
          exact .moved attempt .ended found (.runOver phase missing) rfl rfl
        · rename_i run there
          cases stepped
          exact .moved attempt .reading found (.runThere run phase there) rfl rfl
      · cases stepped
  | readChildren attemptId =>
      rcases Option.bind_eq_some_iff.mp stepped with ⟨attempt, found, stepped⟩
      cases find_key found
      split at stepped
      · rename_i phase
        cases stepped
        exact .moved attempt _ found (.childrenRead phase) rfl rfl
      · cases stepped
  | update attemptId =>
      rcases Option.bind_eq_some_iff.mp stepped with ⟨attempt, found, stepped⟩
      cases find_key found
      split at stepped
      · rename_i children phase
        split at stepped
        · cases stepped
        · rename_i unlocked
          cases stepped
          exact .moved attempt _ found
            (.runUpdated children phase (Bool.not_eq_true _ ▸ unlocked)) rfl rfl
      · cases stepped
  | commit attemptId =>
      rcases Option.bind_eq_some_iff.mp stepped with ⟨attempt, found, stepped⟩
      cases find_key found
      split at stepped
      · rename_i children phase
        cases stepped
        exact .committed attempt children found phase rfl rfl
      · cases stepped
  | crash attemptId =>
      rcases Option.bind_eq_some_iff.mp stepped with ⟨attempt, found, stepped⟩
      cases find_key found
      split at stepped
      · cases stepped
      · rename_i running
        cases stepped
        exact .crashed attempt found (Bool.not_eq_true _ ▸ running) rfl rfl

end Finalization
end Tropek
