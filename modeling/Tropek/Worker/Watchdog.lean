import Tropek.Worker.Transactions

namespace Tropek
namespace Worker

open Library Engine Store TransitionSystem KeyedTable

/-!
# The watchdog

A run of the watchdog reads the stuck rows in one transaction and treats each of
them in a later one.  The later transaction selects its row by identifier alone,
so what it overwrites is whatever the row has become in the meantime.

While no other transaction commits on a row that is still to be treated, the row
is the one that was read and is still stuck, since time only makes a running row
older.  Under that condition the watchdog changes stuck rows only.
-/

def Action.treats (tickId : Nat) : Action -> Bool
  | .watchdogUpdate other => other = tickId
  | _ => false

/-- The transaction that the action commits is not about a row that another
process, a watchdog run, has read as stuck and not yet treated. -/
def sparesListed (settings : Settings) (w : World) (action : Action) : Bool :=
  match action.write settings w with
  | none => true
  | some write =>
      w.ticks.rows.all fun tick =>
        action.treats tick.id || !(tick.remaining.map (·.id)).contains write.evalId

theorem sparesListed_spec {settings : Settings} {w : World} {action : Action} {write : Write}
    {tick : WatchdogTick} (spared : sparesListed settings w action = true)
    (written : action.write settings w = some write) (member : tick ∈ w.ticks.rows)
    (other : action.treats tick.id = false) : write.evalId ∉ tick.remaining.map (·.id) := by
  unfold sparesListed at spared
  rw [written] at spared
  have here := List.all_eq_true.mp spared tick member
  simpa only [other, Bool.false_or, Bool.not_eq_true', List.contains_eq_mem,
    decide_eq_false_iff_not] using here

/-- The rows that a watchdog run has still to treat are in the table as they
were read, and they are still stuck. -/
structure StillStuck (settings : Settings) (w : World) (remaining : List SLOEvaluation) :
    Prop where
  nodup : (remaining.map (·.id)).Nodup
  current : forall row, row ∈ remaining -> w.db.evaluations.find row.id = some row
  stuck : forall row, row ∈ remaining -> isStuck (w.now - settings.stuckJobThreshold) row = true

def AllStillStuck (settings : Settings) (w : World) : Prop :=
  forall tick, tick ∈ w.ticks.rows -> StillStuck settings w tick.remaining

theorem StillStuck.of_find (settings : Settings) (w : World) :
    StillStuck settings w (findStuck w.db.evaluations w.now settings.stuckJobThreshold) where
  nodup := List.Nodup.sublist (List.Sublist.map _ List.filter_sublist) w.db.evaluations.nodup
  current := by
    intro row member
    have inTable : row ∈ w.db.evaluations.rows := (List.mem_filter.mp member).1
    exact find_of_mem inTable
  stuck := fun _ member => (List.mem_filter.mp member).2

theorem isStuck_mono {early late : Instant} {row : SLOEvaluation} (order : early ≤ late)
    (stuck : isStuck early row = true) : isStuck late row = true := by
  unfold isStuck startedBefore at stuck ⊢
  rw [Bool.and_eq_true] at stuck ⊢
  refine ⟨stuck.1, ?_⟩
  cases started : row.startedAt with
  | none =>
      rw [started] at stuck
      exact absurd stuck.2 Bool.false_ne_true
  | some instant =>
      rw [started] at stuck
      have before : instant < early := of_decide_eq_true stuck.2
      exact decide_eq_true (lt_of_lt_of_le before order)

section Step

variable {settings : Settings} {w next : World} {action : Action}

theorem step_remaining (stepped : step settings w action = some next) {tick : WatchdogTick}
    (member : tick ∈ next.ticks.rows) :
    (action = .watchdogFind tick.id ∧
        tick.remaining = findStuck w.db.evaluations w.now settings.stuckJobThreshold) ∨
      Exists fun old => old ∈ w.ticks.rows ∧
        ((tick.remaining = old.remaining ∧ action.treats old.id = false) ∨
          Exists fun row => old.remaining = row :: tick.remaining ∧
            action = .watchdogUpdate old.id) := by
  have kept : tick ∈ w.ticks.rows -> action.treats tick.id = false ->
      Exists fun old => old ∈ w.ticks.rows ∧
        ((tick.remaining = old.remaining ∧ action.treats old.id = false) ∨
          Exists fun row => old.remaining = row :: tick.remaining ∧
            action = .watchdogUpdate old.id) :=
    fun inside other => ⟨tick, inside, Or.inl ⟨rfl, other⟩⟩
  cases step_cases stepped with
  | watchdogFind tickId read readIs fresh =>
      rcases (mem_insert w.ticks read fresh tick).mp member with inside | same
      · exact Or.inr (kept inside rfl)
      · rw [same, readIs]
        exact Or.inl ⟨rfl, rfl⟩
  | watchdogUpdate tickId updated stuckEval rest found nothing waiting =>
      have inTable : tick ∈ (w.ticks.update tickId
          (fun tick => { tick with
            remaining := rest, toEnqueue := watchdogRequeued settings stuckEval })
          fun _ => rfl).rows := member
      rcases (mem_update _ _ _ _ _).mp inTable with
        ⟨inside, other⟩ | ⟨old, oldFound, same⟩
      · exact Or.inr (kept inside (decide_eq_false fun equal => other equal.symm))
      · have sameTick : old = updated := Option.some.inj (oldFound.symm.trans found)
        have oldKey : updated.id = tickId := find_key found
        refine Or.inr ⟨updated, find_mem found, Or.inr ⟨stuckEval, ?_, ?_⟩⟩
        · rw [waiting, <- same]
        · rw [oldKey]
  | watchdogEnqueue tickId updated evalId found waiting =>
      have inTable : tick ∈ (w.ticks.update tickId
          (fun tick => { tick with toEnqueue := none }) fun _ => rfl).rows := member
      rcases (mem_update _ _ _ _ _).mp inTable with
        ⟨inside, _⟩ | ⟨old, oldFound, same⟩
      · exact Or.inr (kept inside rfl)
      · refine Or.inr ⟨old, find_mem oldFound, Or.inl ⟨?_, rfl⟩⟩
        rw [<- same]
  | watchdogEnd tickId =>
      exact Or.inr (kept ((mem_delete _ _ _).mp member).1 rfl)
  | advance executionId workerId checkFails adapter execution outcome found advanced =>
      refine Or.inr (kept ?_ rfl)
      cases enqueued : outcome.enqueued with
      | none =>
          rw [enqueued] at member
          exact member
      | some message =>
          rw [enqueued, Option.elim_some, enqueue_ticks] at member
          exact member
  | triggerEnqueue triggerId process evalId rest found waiting =>
      refine Or.inr (kept ?_ rfl)
      rw [<- enqueue_ticks w (.runEvaluation evalId 0)]
      exact member
  | _ => exact Or.inr (kept member rfl)

theorem StillStuck.tail {remaining : List SLOEvaluation} {row : SLOEvaluation}
    (still : StillStuck settings w (row :: remaining)) : StillStuck settings w remaining where
  nodup := (List.nodup_cons.mp still.nodup).2
  current := fun other member => still.current other (List.mem_cons_of_mem row member)
  stuck := fun other member => still.stuck other (List.mem_cons_of_mem row member)

theorem StillStuck.step {remaining : List SLOEvaluation}
    (still : StillStuck settings w remaining) (stepped : Worker.step settings w action = some next)
    (spared : forall write, action.write settings w = some write ->
      write.evalId ∉ remaining.map (·.id)) : StillStuck settings next remaining where
  nodup := still.nodup
  current := by
    intro row member
    have unchanged : rowAfter (action.write settings w) row = row := by
      apply rowAfter_of_ne
      intro write written targeted
      apply spared write written
      rw [targeted]
      exact List.mem_map_of_mem member
    have after := step_find stepped (still.current row member)
    rw [unchanged] at after
    exact after
  stuck := by
    intro row member
    have later : w.now - settings.stuckJobThreshold ≤ next.now - settings.stuckJobThreshold :=
      sub_le_sub_right (step_now stepped) _
    exact isStuck_mono later (still.stuck row member)

theorem watchdogUpdate_write {tick : WatchdogTick} {row : SLOEvaluation}
    {rest : List SLOEvaluation} (member : tick ∈ w.ticks.rows)
    (waiting : tick.remaining = row :: rest) :
    (Action.watchdogUpdate tick.id).write settings w = some (watchdogWrite settings row) := by
  have found : w.ticks.find tick.id = some tick := find_of_mem member
  simp only [Action.write, found, Option.bind_some, waiting, List.head?_cons, Option.map_some]

theorem AllStillStuck.step (all : AllStillStuck settings w)
    (spared : sparesListed settings w action = true)
    (stepped : Worker.step settings w action = some next) : AllStillStuck settings next := by
  intro tick member
  rcases step_remaining stepped member with
    ⟨found, read⟩ | ⟨old, inside, ⟨same, other⟩ | ⟨row, waiting, treating⟩⟩
  · rw [read]
    apply (StillStuck.of_find settings w).step stepped
    intro write written
    rw [found] at written
    cases written
  · rw [same]
    apply (all old inside).step stepped
    intro write written
    exact sparesListed_spec spared written inside other
  · have still := all old inside
    rw [waiting] at still
    apply still.tail.step stepped
    intro write written
    rw [treating, watchdogUpdate_write inside waiting] at written
    have target : row.id = write.evalId := congrArg Write.evalId (Option.some.inj written)
    have apart : row.id ∉ tick.remaining.map (·.id) := (List.nodup_cons.mp still.nodup).1
    rw [target] at apart
    exact apart

/-- If the action is a transaction of the watchdog, then it leaves every row that
is not running, or has been started too recently, exactly as it is. -/
def ChangesOnlyStuck (settings : Settings) (w : World) (action : Action) : Prop :=
  forall tickId next, action = .watchdogUpdate tickId -> Worker.step settings w action = some next ->
    forall id row, w.db.evaluations.find id = some row ->
      isStuck (w.now - settings.stuckJobThreshold) row = false ->
        next.db.evaluations.find id = some row

theorem AllStillStuck.changesOnlyStuck (all : AllStillStuck settings w) :
    ChangesOnlyStuck settings w action := by
  intro tickId next updates stepped id row found live
  have unchanged : rowAfter (action.write settings w) row = row := by
    apply rowAfter_of_ne
    intro write written targeted
    rw [updates] at written
    rcases Option.bind_eq_some_iff.mp written with ⟨tick, tickFound, written⟩
    rcases Option.map_eq_some_iff.mp written with ⟨stuckEval, first, writeIs⟩
    have member : stuckEval ∈ tick.remaining := List.mem_of_head? first
    have still := all tick (find_mem tickFound)
    have sameId : stuckEval.id = row.id := (congrArg Write.evalId writeIs).trans targeted
    have rowKey : row.id = id := find_key found
    have here := still.current stuckEval member
    rw [sameId, rowKey, found] at here
    have same : row = stuckEval := Option.some.inj here
    have stuck := still.stuck stuckEval member
    rw [<- same, live] at stuck
    cases stuck
  have after := step_find stepped found
  rw [unchanged] at after
  exact after

end Step

/-- In a run in which no other transaction commits on a row between the moment a
watchdog run reads it as stuck and the moment it treats it, the watchdog changes
stuck rows only. -/
theorem watchdog_changes_only_stuck {settings : Settings} {start : World} {actions : List Action}
    (initial : start.Initial)
    (spared : Along (step settings) (fun w action => sparesListed settings w action = true) start
      actions) :
    Along (step settings) (ChangesOnlyStuck settings) start actions := by
  have noTicks : AllStillStuck settings start := by
    intro tick member
    rw [initial.noTicks] at member
    exact absurd member List.not_mem_nil
  exact along_of_invariant
    (fun _ _ _ (all : AllStillStuck settings _) spared stepped => all.step spared stepped)
    (fun _ _ all _ => all.changesOnlyStuck) noTicks spared

def Sample.recovery : List Action :=
  [.trigger 1 (request 1 10 0), .triggerEnqueue 1, .deliver 1 0, advance 1, advance 1, .crash 1,
    .wait 200000000, .watchdogFind 1, .watchdogUpdate 1, .watchdogEnqueue 1, .watchdogEnd 1]

theorem recovery_changes_only_stuck :
    Along (step {}) (ChangesOnlyStuck {}) Sample.world Sample.recovery :=
  watchdog_changes_only_stuck Sample.world_initial (by decide +kernel)

/-- A worker takes longer than the threshold, and commits its result after the
watchdog has read its evaluation as stuck. -/
def Sample.slowWorker : List Action :=
  [.trigger 1 (request 1 10 0), .triggerEnqueue 1, .deliver 1 0, advance 1, advance 1,
    .wait 200000000, .watchdogFind 1, advance 1, advance 1, advance 1]

theorem slowWorker_is_requeued :
    Sample.world.Initial ∧
      ¬ Along (step {}) (ChangesOnlyStuck {}) Sample.world
        (Sample.slowWorker ++ [.watchdogUpdate 1]) := by
  refine ⟨Sample.world_initial, fun along => ?_⟩
  have before : (exec (step {}) Sample.world Sample.slowWorker).bind (·.statusOf 10) =
      some .completed := by
    decide +kernel
  have after : (exec (step {}) Sample.world (Sample.slowWorker ++ [.watchdogUpdate 1])).bind
      (·.statusOf 10) = some .pending := by
    decide +kernel
  rcases Option.bind_eq_some_iff.mp before with ⟨middle, ran, middleStatus⟩
  rcases Option.bind_eq_some_iff.mp after with ⟨final, updated, finalStatus⟩
  rcases Option.map_eq_some_iff.mp middleStatus with ⟨row, found, completed⟩
  rcases Option.map_eq_some_iff.mp finalStatus with ⟨last, lastFound, pending⟩
  rw [exec_append, ran] at updated
  rcases exec_cons updated with ⟨next, stepped, rest⟩
  have same : next = final := Option.some.inj rest
  have changes : ChangesOnlyStuck {} middle (.watchdogUpdate 1) :=
    (along_append along ran).2.1
  have live : isStuck (middle.now - ({} : Settings).stuckJobThreshold) row = false := by
    unfold isStuck
    rw [completed]
    rfl
  have unchanged := changes 1 next rfl stepped 10 row found live
  rw [same, lastFound] at unchanged
  rw [Option.some.inj unchanged, completed] at pending
  cases pending

end Worker
end Tropek
