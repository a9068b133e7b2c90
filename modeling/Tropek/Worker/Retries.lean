import Tropek.Worker.Watchdog

namespace Tropek
namespace Worker

open Library Engine Store TransitionSystem KeyedTable

/-!
# The retry counter

The watchdog counts in `job_stats` how often it has requeued an evaluation.  A requeue
and a failure replace the whole column, phase 1 merges into it, and a completion
replaces it without the counter.  So the counter is right up to the moment at which the
evaluation ends.  It bounds the requeues as long as an evaluation that has ended stays
ended, which nothing in the worker enforces.
-/

def RowChange.isRequeue : RowChange -> Bool
  | .requeued _ => true
  | _ => false

def requeues (settings : Settings) (evalId : Nat) (w : World) (action : Action) : Bool :=
  (action.write settings w).any fun write => write.evalId = evalId && write.change.isRequeue

def requeueCount (settings : Settings) (evalId : Nat) (start : World) (actions : List Action) : Nat :=
  count (step settings) (requeues settings evalId) start actions

def startsAlone (w : World) : Action -> Bool
  | .watchdogFind _ => w.ticks.rows.isEmpty
  | _ => true

/-- The transaction that the action commits is not about the evaluation, or the
evaluation has not ended. -/
def leavesEnded (settings : Settings) (evalId : Nat) (w : World) (action : Action) : Bool :=
  (action.write settings w).all fun write =>
    write.evalId ≠ evalId || (w.db.evaluations.find evalId).all fun row => row.Live

variable {settings : Settings} {evalId : Nat} {w : World}

theorem leavesEnded_spec {action : Action} (spared : leavesEnded settings evalId w action = true)
    {write : Write} (written : action.write settings w = some write)
    (targeted : write.evalId = evalId) {row : SLOEvaluation}
    (found : w.db.evaluations.find evalId = some row) : row.Live := by
  unfold leavesEnded at spared
  simpa only [written, Option.all_some, targeted, ne_eq, not_true_eq_false, decide_false,
    Bool.false_or, found, decide_eq_true_eq] using spared

theorem phaseWrite_isRequeue {input : PhaseInput} {message : Message} {table : Evaluations}
    {phase : Phase} {write : Write} (written : phaseWrite input message table phase = some write) :
    write.change.isRequeue = false := by
  cases phase with
  | marking =>
      cases written
      rfl
  | failing error =>
      cases written
      rfl
  | writing snapshot sloDef fetchResult =>
      rcases completedWrite_change written with ⟨_, rfl⟩
      rfl
  | _ => cases written

/-- A requeue is the transaction of a watchdog run for a row that it has read with
retries left. -/
theorem requeues_spec {action : Action} (requeued : requeues settings evalId w action = true) :
    Exists fun tick => Exists fun read => Exists fun rest =>
      tick ∈ w.ticks.rows ∧ action = .watchdogUpdate tick.id ∧ tick.remaining = read :: rest ∧
        read.id = evalId ∧ stuckAttempts read < settings.maxStuckJobRetries ∧
        action.write settings w =
          some { evalId := evalId, change := .requeued (stuckAttempts read + 1) } := by
  rcases (Option.any_eq_true _ _).mp requeued with ⟨write, written, selected⟩
  rcases Bool.and_eq_true_iff.mp selected with ⟨targeted, isRequeue⟩
  have isEval : write.evalId = evalId := of_decide_eq_true targeted
  cases action with
  | advance executionId workerId checkFails adapter =>
      rcases Option.bind_eq_some_iff.mp written with ⟨execution, _, phased⟩
      rw [phaseWrite_isRequeue phased] at isRequeue
      cases isRequeue
  | watchdogUpdate tickId =>
      have whole := written
      rcases Option.bind_eq_some_iff.mp written with ⟨tick, found, written⟩
      rcases Option.map_eq_some_iff.mp written with ⟨read, first, same⟩
      have isTick : tick.id = tickId := find_key found
      cases waiting : tick.remaining with
      | nil =>
          rw [waiting] at first
          cases first
      | cons head rest =>
          rw [waiting] at first
          cases first
          have readId : read.id = evalId := by
            rw [<- isEval, <- same]
            rfl
          rw [<- same] at isRequeue
          unfold watchdogWrite at isRequeue same
          by_cases exceeded : settings.maxStuckJobRetries ≤ stuckAttempts read
          · rw [if_pos exceeded] at isRequeue
            cases isRequeue
          · rw [if_neg exceeded, readId] at same
            rw [<- same] at whole
            exact ⟨tick, read, rest, find_mem found, by rw [isTick], waiting, readId,
              not_le.mp exceeded, whole⟩
  | _ => cases written

/-- The counter of a live evaluation is the number of its requeues, also where the
watchdog run under way has read it. -/
structure Counted (settings : Settings) (evalId number : Nat) (w : World) : Prop where
  bounded : number ≤ settings.maxStuckJobRetries
  unborn : w.db.evaluations.find evalId = none -> number = 0
  counter : forall row, w.db.evaluations.find evalId = some row -> row.Live ->
    stuckAttempts row = number
  alone : w.ticks.rows.length ≤ 1
  nodup : forall tick, tick ∈ w.ticks.rows -> (tick.remaining.map (·.id)).Nodup
  reads : forall tick, tick ∈ w.ticks.rows -> forall read, read ∈ tick.remaining ->
    read.id = evalId -> Exists fun row => w.db.evaluations.find evalId = some row ∧
      (row.Live -> stuckAttempts read = number)

theorem Counted.of_initial (initial : w.Initial) :
    Counted settings evalId 0 w where
  bounded := Nat.zero_le _
  unborn := fun _ => rfl
  counter := by
    intro row found
    rw [initial.noEvaluations, find_empty] at found
    cases found
  alone := by
    rw [initial.noTicks]
    exact Nat.zero_le 1
  nodup := by
    intro tick member
    rw [initial.noTicks] at member
    cases member
  reads := by
    intro tick member
    rw [initial.noTicks] at member
    cases member

section Step

variable {settings : Settings} {evalId number : Nat} {w next : World} {action : Action}

theorem step_ticks_alone (alone : w.ticks.rows.length ≤ 1) (starts : startsAlone w action = true)
    (stepped : step settings w action = some next) : next.ticks.rows.length ≤ 1 := by
  cases step_cases stepped with
  | watchdogFind tickId tick tickIs fresh =>
      have none : w.ticks.rows = [] := List.isEmpty_iff.mp starts
      change (w.ticks.rows ++ [tick]).length ≤ 1
      rw [none]
      exact Nat.le_refl 1
  | watchdogUpdate tickId tick stuckEval rest found nothing waiting =>
      dsimp only
      rw [update_rows, List.length_map]
      exact alone
  | watchdogEnqueue tickId tick enqueued found waiting =>
      dsimp only
      rw [update_rows, List.length_map]
      exact alone
  | watchdogEnd tickId => exact Nat.le_trans (List.length_filter_le _ _) alone
  | advance executionId workerId checkFails adapter execution outcome found advanced =>
      cases outcome.enqueued with
      | none => exact alone
      | some enqueued =>
          rw [Option.elim_some, enqueue_ticks]
          exact alone
  | triggerEnqueue triggerId process triggered rest found waiting =>
      dsimp only
      rw [enqueue_ticks]
      exact alone
  | _ => exact alone

/-- An action other than a requeue leaves a live row with the counter that a live row
had. -/
theorem rowAfter_attempts (spared : leavesEnded settings evalId w action = true)
    (other : requeues settings evalId w action = false) {row : SLOEvaluation}
    (found : w.db.evaluations.find evalId = some row)
    (live : (rowAfter (action.write settings w) row).Live) :
    row.Live ∧ stuckAttempts (rowAfter (action.write settings w) row) = stuckAttempts row := by
  have rowKey : row.id = evalId := find_key found
  cases written : action.write settings w with
  | none =>
      rw [written] at live
      exact ⟨live, rfl⟩
  | some write =>
      by_cases targeted : write.evalId = evalId
      · have applied : rowAfter (some write) row = write.change.apply row :=
          if_pos (rowKey.trans targeted.symm)
        refine ⟨leavesEnded_spec spared written targeted found, ?_⟩
        rw [written, applied] at live
        rw [applied]
        cases change : write.change with
        | running now workerId => rfl
        | failed jobStats =>
            rw [change] at live
            exact absurd live nofun
        | requeued stuckJobRetries =>
            unfold requeues at other
            rw [written] at other
            simp [targeted, change, RowChange.isRequeue] at other
        | completed values indicatorRows =>
            rw [change] at live
            cases indicatorRows <;> exact absurd live nofun
      · have unchanged : rowAfter (some write) row = row :=
          if_neg fun same => targeted (same.symm.trans rowKey)
        rw [written, unchanged] at live
        rw [unchanged]
        exact ⟨live, rfl⟩

theorem reads_step (spared : leavesEnded settings evalId w action = true)
    (stepped : step settings w action = some next) {read : SLOEvaluation}
    (known : Exists fun row => w.db.evaluations.find evalId = some row ∧
      (row.Live -> stuckAttempts read = number))
    (other : requeues settings evalId w action = false) :
    Exists fun row => next.db.evaluations.find evalId = some row ∧
      (row.Live -> stuckAttempts read = number) := by
  rcases known with ⟨row, found, attempts⟩
  refine ⟨_, step_find stepped found, fun live => ?_⟩
  exact attempts (rowAfter_attempts spared other found live).1

theorem Counted.step (counted : Counted settings evalId number w)
    (starts : startsAlone w action = true) (spared : leavesEnded settings evalId w action = true)
    (stepped : Worker.step settings w action = some next) :
    Counted settings evalId
      (number + if requeues settings evalId w action then 1 else 0) next := by
  have nodup : forall tick, tick ∈ next.ticks.rows -> (tick.remaining.map (·.id)).Nodup := by
    intro tick member
    rcases step_remaining stepped member with
      ⟨_, read⟩ | ⟨old, inside, ⟨same, _⟩ | ⟨row, waiting, _⟩⟩
    · rw [read]
      exact (StillStuck.of_find settings w).nodup
    · rw [same]
      exact counted.nodup old inside
    · have whole := counted.nodup old inside
      rw [waiting] at whole
      exact (List.nodup_cons.mp whole).2
  have alone := step_ticks_alone counted.alone starts stepped
  cases requeued : requeues settings evalId w action with
  | true =>
      rcases requeues_spec requeued with
        ⟨tick, read, rest, member, isUpdate, waiting, readId, below, written⟩
      rcases counted.reads tick member read (waiting ▸ List.mem_cons_self) readId with
        ⟨row, found, attempts⟩
      have live : row.Live := leavesEnded_spec spared written rfl found
      have isNumber := attempts live
      have rowKey : row.id = evalId := find_key found
      have after := step_find stepped found
      rw [written] at after
      have applied : rowAfter (some { evalId, change := .requeued (stuckAttempts read + 1) }) row =
          row.setRequeued (stuckAttempts read + 1) := if_pos rowKey
      rw [applied] at after
      rw [if_pos rfl]
      refine ⟨?_, ?_, ?_, alone, nodup, ?_⟩
      · rw [<- isNumber]
        exact below
      · intro absent
        rw [absent] at after
        cases after
      · intro later found' _
        rw [after] at found'
        rw [<- Option.some.inj found', <- isNumber]
        rfl
      · intro later inside other otherIn otherId
        rcases step_remaining stepped inside with
          ⟨isFind, _⟩ | ⟨old, oldIn, ⟨_, treats⟩ | ⟨head, oldWaiting, _⟩⟩
        · rw [isUpdate] at isFind
          cases isFind
        · have sameTick : old = tick := by
            rcases List.length_eq_one_iff.mp (Nat.le_antisymm counted.alone
              (List.length_pos_of_mem member)) with ⟨only, isOnly⟩
            rw [isOnly, List.mem_singleton] at member oldIn
            rw [oldIn, member]
          rw [isUpdate, sameTick] at treats
          exact absurd treats (by simp [Action.treats])
        · have sameTick : old = tick := by
            rcases List.length_eq_one_iff.mp (Nat.le_antisymm counted.alone
              (List.length_pos_of_mem member)) with ⟨only, isOnly⟩
            rw [isOnly, List.mem_singleton] at member oldIn
            rw [oldIn, member]
          rw [sameTick, waiting] at oldWaiting
          cases oldWaiting
          have whole := counted.nodup tick member
          rw [waiting, List.map_cons, List.nodup_cons, readId, <- otherId] at whole
          exact absurd (List.mem_map_of_mem otherIn) whole.1
  | false =>
      rw [if_neg Bool.false_ne_true, Nat.add_zero]
      refine ⟨counted.bounded, ?_, ?_, alone, nodup, ?_⟩
      · intro absent
        cases found : w.db.evaluations.find evalId with
        | none => exact counted.unborn found
        | some row =>
            rw [step_find stepped found] at absent
            cases absent
      · intro row found live
        rcases step_find_origin stepped found with
          ⟨old, oldFound, same⟩ | ⟨absent, _, request, _, created⟩
        · rw [same] at live ⊢
          rcases rowAfter_attempts spared requeued oldFound live with ⟨wasLive, kept⟩
          rw [kept]
          exact counted.counter old oldFound wasLive
        · rcases created with ⟨ctx, assetTags, _, same⟩
          rw [same, counted.unborn absent]
          rfl
      · intro tick inside read readIn readId
        refine reads_step spared stepped ?_ requeued
        rcases step_remaining stepped inside with
          ⟨_, isRead⟩ | ⟨old, oldIn, ⟨same, _⟩ | ⟨head, waiting, _⟩⟩
        · rw [isRead] at readIn
          have stored := (mem_findStuck.mp readIn).1
          have running := (mem_findStuck.mp readIn).2.1
          have found := find_of_mem stored
          rw [readId] at found
          exact ⟨read, found, fun live => counted.counter read found live⟩
        · exact counted.reads old oldIn read (same ▸ readIn) readId
        · exact counted.reads old oldIn read (waiting ▸ List.mem_cons_of_mem _ readIn) readId

end Step

def NextTransaction (settings : Settings) (evalId number : Nat) (w : World) : Prop :=
  forall tickId write next, (Action.watchdogUpdate tickId).write settings w = some write ->
    write.evalId = evalId -> step settings w (.watchdogUpdate tickId) = some next ->
      Exists fun row => next.db.evaluations.find evalId = some row ∧
        ((number < settings.maxStuckJobRetries ∧ row.status = .pending ∧
            row.jobStats = { stuckJobRetries := some (number + 1) }) ∨
          (number = settings.maxStuckJobRetries ∧ row.status = .failed ∧
            row.jobStats = exceededStats number))

theorem Counted.nextTransaction {number : Nat} (counted : Counted settings evalId number w)
    (live : forall row, w.db.evaluations.find evalId = some row -> row.Live) :
    NextTransaction settings evalId number w := by
  intro tickId write next written targeted stepped
  have whole := written
  rcases Option.bind_eq_some_iff.mp written with ⟨tick, found, written⟩
  rcases Option.map_eq_some_iff.mp written with ⟨read, first, same⟩
  have readId : read.id = evalId := by
    rw [<- targeted, <- same]
    rfl
  rcases counted.reads tick (find_mem found) read (List.mem_of_head? first) readId with
    ⟨row, stored, attempts⟩
  have rowKey : row.id = evalId := find_key stored
  have after := step_find stepped stored
  rw [whole] at after
  have applied : rowAfter (some write) row = write.change.apply row :=
    if_pos (rowKey.trans targeted.symm)
  rw [applied, <- same] at after
  refine ⟨_, after, ?_⟩
  unfold watchdogWrite
  rw [attempts (live row stored)]
  by_cases exceeded : settings.maxStuckJobRetries ≤ number
  · rw [if_pos exceeded]
    exact Or.inr ⟨Nat.le_antisymm counted.bounded exceeded, rfl, rfl⟩
  · rw [if_neg exceeded]
    exact Or.inl ⟨not_le.mp exceeded, rfl, rfl⟩

/-- In every run in which watchdog runs do not overlap and no transaction commits on the
evaluation after it has ended, the counter of the evaluation is the number of its
requeues until it ends, there are at most as many requeues as the setting allows, and
the watchdog transaction after the last of them marks the evaluation as failed. -/
theorem requeues_bounded {settings : Settings} {evalId : Nat} {start final : World}
    {actions : List Action} (initial : start.Initial)
    (ran : exec (step settings) start actions = some final)
    (alone : Along (step settings) (fun w action => startsAlone w action = true) start actions)
    (spared : Along (step settings) (fun w action => leavesEnded settings evalId w action = true)
      start actions) :
    requeueCount settings evalId start actions ≤ settings.maxStuckJobRetries ∧
      (forall row, final.db.evaluations.find evalId = some row -> row.Live ->
        stuckAttempts row = requeueCount settings evalId start actions) ∧
      ((forall row, final.db.evaluations.find evalId = some row -> row.Live) ->
        NextTransaction settings evalId (requeueCount settings evalId start actions) final) := by
  have counted := exec_counts
    (fun number w action next (here : Counted settings evalId number w) guarded stepped =>
      here.step guarded.1 guarded.2 stepped)
    (Counted.of_initial initial) (along_and alone spared) ran
  rw [Nat.zero_add] at counted
  exact ⟨counted.bounded, counted.counter, counted.nextTransaction⟩

def Sample.twoRecoveries : List Action :=
  recovery ++ [.deliver 2 1, advance 2, advance 2, .crash 2, .wait 200000000, .watchdogFind 2,
    .watchdogUpdate 2]

theorem twoRecoveries_bounded :
    Exists fun final => exec (step {}) Sample.world Sample.twoRecoveries = some final ∧
      requeueCount {} 10 Sample.world Sample.twoRecoveries = 2 ∧
      forall row, final.db.evaluations.find 10 = some row -> row.Live -> stuckAttempts row = 2 := by
  have ran : (exec (step {}) Sample.world Sample.twoRecoveries).isSome = true := by
    decide +kernel
  have counted : requeueCount {} 10 Sample.world Sample.twoRecoveries = 2 := by
    decide +kernel
  rcases Option.isSome_iff_exists.mp ran with ⟨final, ran⟩
  have bounded := requeues_bounded Sample.world_initial ran (by decide +kernel)
    (by decide +kernel : Along (step {}) (fun w action => leavesEnded {} 10 w action = true)
      Sample.world Sample.twoRecoveries)
  rw [counted] at bounded
  exact ⟨final, ran, counted, bounded.2.1⟩

/-- The requeued evaluation completes.  Its message is delivered again, and the worker
dies after phase 1. -/
def Sample.restarted : List Action :=
  recovery ++ .deliver 2 1 :: wholeJob 2 ++
    [.deliver 3 1, advance 3, advance 3, .crash 3, .wait 200000000, .watchdogFind 2,
      .watchdogUpdate 2]

/-- With one retry, the evaluation is requeued twice: the completion has dropped the
counter. -/
theorem restarted_exceeds_retries :
    Sample.world.Initial ∧
      Along (step { maxStuckJobRetries := 1 }) (fun w action => startsAlone w action = true)
        Sample.world Sample.restarted ∧
      (exec (step { maxStuckJobRetries := 1 }) Sample.world Sample.restarted).bind
        (·.statusOf 10) = some .pending ∧
      requeueCount { maxStuckJobRetries := 1 } 10 Sample.world Sample.restarted = 2 := by
  refine ⟨Sample.world_initial, ?_, ?_, ?_⟩
  · decide +kernel
  · decide +kernel
  · decide +kernel

end Worker
end Tropek
