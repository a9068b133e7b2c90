import Tropek.Finalization.Attempts

namespace Tropek
namespace Finalization

open Library Engine Store Worker TransitionSystem KeyedTable

/-!
# What a completed run shows

A run becomes completed by one commit, and nothing writes to it afterwards.  So it
shows what its children were when the attempt that completed it had read them.
Overrides, re-evaluations and repeated jobs change a child and leave the run.
-/

theorem step_returned {w next : RunWorld} {action : Action} (stepped : step w action = some next)
    {attempt : Attempt} {children : List Child} (returned : Returns w attempt children) :
    Returns next attempt children := by
  rcases returned with ⟨found, phase⟩
  refine ⟨?_, phase⟩
  cases step_effect stepped with
  | quiet attempts runs => rw [attempts, found]
  | started other fresh starts attempts db =>
      rw [attempts, find_insert]
      split
      · rename_i same
        rw [same, fresh] at found
        cases found
      · exact found
  | moved other moved there moves attempts db =>
      rw [attempts, find_setPhase]
      split
      · rename_i same
        rw [same, there] at found
        cases found
        cases moves with
        | runOver starts _ => rw [phase] at starts; cases starts
        | runThere _ starts _ => rw [phase] at starts; cases starts
        | childrenRead starts => rw [phase] at starts; cases starts
        | runUpdated _ starts _ => rw [phase] at starts; cases starts
      · exact found
  | committed other read there starts attempts db =>
      rw [attempts, find_setPhase]
      split
      · rename_i same
        rw [same, there] at found
        cases found
        rw [phase] at starts
        cases starts
      · exact found
  | crashed other there running attempts db =>
      rw [attempts, find_delete]
      split
      · rename_i same
        rw [same, there] at found
        cases found
        unfold Attempt.isOver at running
        rw [phase] at running
        cases running
      · exact found

def Finalized (w : RunWorld) (runId : Nat) : Prop :=
  Exists fun attempt => Exists fun children => Returns w attempt children ∧ attempt.runId = runId

theorem RunsGrow.find_back {first second : Runs} (grow : RunsGrow first second) {runId : Nat}
    {run : EvaluationRun} (found : second.find runId = some run) :
    first.find runId = some run ∨ run.status = .pending := by
  rcases grow with ⟨created, rows, pending⟩
  have member := find_mem found
  rw [rows] at member
  rcases List.mem_append.mp member with old | new
  · exact Or.inl ((find_eq_some _ _ _).mpr ⟨old, find_key found⟩)
  · exact Or.inr (pending run new)

theorem step_finalized {w next : RunWorld} {action : Action} (stepped : step w action = some next)
    {runId : Nat} (before : IsCompleted w runId -> Finalized w runId)
    (completed : IsCompleted next runId) : Finalized next runId := by
  have stays : IsCompleted w runId -> Finalized next runId := by
    intro already
    rcases before already with ⟨attempt, children, returned, sameRun⟩
    exact ⟨attempt, children, step_returned stepped returned, sameRun⟩
  rcases completed with ⟨run, found, status⟩
  cases step_effect stepped with
  | quiet attempts runs =>
      rcases runs.find_back found with old | pending
      · exact stays ⟨run, old, status⟩
      · rw [pending] at status
        cases status
  | started attempt fresh phase attempts db => exact stays ⟨run, db ▸ found, status⟩
  | moved attempt phase there moves attempts db => exact stays ⟨run, db ▸ found, status⟩
  | crashed attempt there running attempts db => exact stays ⟨run, db ▸ found, status⟩
  | committed attempt children there phase attempts db =>
      by_cases sameRun : attempt.runId = runId
      · refine ⟨attempt.setPhase (.returned children), children, ⟨?_, rfl⟩, sameRun⟩
        rw [attempts, find_setPhase]
        change (if attempt.id = attempt.id then
          (w.attempts.find attempt.id).map (Attempt.setPhase (.returned children))
          else w.attempts.find attempt.id) = _
        rw [if_pos rfl, there, Option.map_some]
      · rw [db] at found
        change (finalizeRun w.db.runs attempt.runId (aggregate children)).find runId = some run at found
        rw [find_finalizeRun_of_ne (Ne.symm sameRun)] at found
        exact stays ⟨run, found, status⟩

theorem exec_finalized {start w : RunWorld} {actions : List Action} {runId : Nat}
    (ran : exec step start actions = some w) (unfinished : ¬ IsCompleted start runId)
    (completed : IsCompleted w runId) : Finalized w runId := by
  have kept : IsCompleted w runId -> Finalized w runId :=
    exec_preserves (fun _ _ _ before stepped => step_finalized stepped before)
      (fun already => absurd already unfinished) ran
  exact kept completed

/-- A run that has become completed carries the aggregate of children that an attempt
has read, all of them ended. -/
theorem completed_was_read {start w : RunWorld} {actions : List Action} (initial : start.Initial)
    (ran : exec step start actions = some w) {runId : Nat} (unfinished : ¬ IsCompleted start runId)
    (completed : IsCompleted w runId) :
    Exists fun attemptId => Exists fun children =>
      ReadAt start actions attemptId runId children ∧ AllDone children ∧
        Exists fun run => w.db.runs.find runId = some run ∧ run.Carries (aggregate children) := by
  rcases exec_finalized ran unfinished completed with ⟨attempt, children, ⟨there, phase⟩, sameRun⟩
  have fits := (exec_sound initial ran).fits attempt.id attempt there
  unfold Attempt.Fits at fits
  rw [phase, sameRun] at fits
  have absent : start.attempts.find attempt.id = none := by
    rw [initial.noAttempts, find_empty]
  have read := (exec_traced (initial_sound initial) absent ran there).read children (by rw [phase]; rfl)
  exact ⟨attempt.id, children, sameRun ▸ read, fits.1, fits.2⟩

end Finalization
end Tropek
