import Tropek.Worker.Delivery
import Tropek.Worker.QueryVariables
import Tropek.Worker.Snapshots

namespace Tropek
namespace Worker

open Library Engine Store TransitionSystem KeyedTable Fallible

/-!
# Triggering again

A unique index allows one evaluation that has not failed for each asset, SLO, name and
period.  A failed evaluation may therefore be triggered again.  The index is checked
whenever a row changes its status, too, and nothing stops a message, an execution or a
watchdog run that still names the failed row from taking it back to running.

An evaluation is current when it has not failed or something in flight names it.  As
long as nothing is triggered that has a current evaluation already, at most one
evaluation of an identity is ever current, and the index refuses no statement.
-/

/-! ## The unique index -/

/-- `uq_slo_evaluations_identity`. -/
def RespectsIdentity (table : Evaluations) : Prop :=
  forall first, first ∈ table.rows -> forall second, second ∈ table.rows ->
    first.status ≠ .failed -> second.status ≠ .failed -> first.identity = second.identity ->
      first.id = second.id

instance (table : Evaluations) : Decidable (RespectsIdentity table) :=
  inferInstanceAs (Decidable (forall first, first ∈ table.rows -> forall second,
    second ∈ table.rows -> first.status ≠ .failed -> second.status ≠ .failed ->
      first.identity = second.identity -> first.id = second.id))

/-- What is left when the index refuses the statement of an action.  The transaction is
rolled back, and the exception ends the job, whose message is gone, or the watchdog
run. -/
def World.refused (w : World) : Action -> World
  | .advance executionId _ _ _ =>
      match w.executions.find executionId with
      | none => w
      | some execution =>
          { w with queue := w.queue.filter (·.jobId ≠ execution.message.jobId),
                   executions := w.executions.delete executionId }
  | .watchdogUpdate tickId => { w with ticks := w.ticks.delete tickId }
  | _ => w

/-- A step in a database with the partial unique index: where the rows would violate it,
the transaction is refused, and the job or the watchdog run that made it ends. -/
def indexedStep (settings : Settings) (w : World) (action : Action) : Option World :=
  (step settings w action).map fun next =>
    if RespectsIdentity next.db.evaluations then next else w.refused action

def RaisesViolation (settings : Settings) (w : World) (action : Action) : Prop :=
  Exists fun next => step settings w action = some next ∧ ¬ RespectsIdentity next.db.evaluations

/-! ## What is in flight -/

/-- The evaluations that a message, an execution, a watchdog run or a trigger request
names. -/
def World.inFlight (w : World) : List Nat :=
  w.queue.map (·.evalId) ++ w.executions.rows.map (·.message.evalId) ++
    w.ticks.rows.flatMap (fun tick => tick.toEnqueue.toList ++ tick.remaining.map (·.id)) ++
    w.triggers.rows.flatMap (·.toEnqueue)

def World.Current (w : World) (row : SLOEvaluation) : Prop :=
  row.status ≠ .failed ∨ row.id ∈ w.inFlight

instance (w : World) (row : SLOEvaluation) : Decidable (w.Current row) :=
  inferInstanceAs (Decidable (row.status ≠ .failed ∨ row.id ∈ w.inFlight))

def TriggerRequest.identity (request : TriggerRequest) (ctx : TriggerContext) :
    Nat × String × String × Instant × Instant :=
  (ctx.assetId, ctx.sloName, request.evalName, request.periodStart, request.periodEnd)

/-- No evaluation that the request is about to create has a current one of its
identity. -/
def TriggerRequest.Afresh (request : TriggerRequest) (w : World) : Prop :=
  forall entry, entry ∈ request.contexts -> forall row, row ∈ w.db.evaluations.rows ->
    row.identity = request.identity entry.2 -> ¬ w.Current row

instance (request : TriggerRequest) (w : World) : Decidable (request.Afresh w) :=
  inferInstanceAs (Decidable (forall entry, entry ∈ request.contexts -> forall row,
    row ∈ w.db.evaluations.rows -> row.identity = request.identity entry.2 -> ¬ w.Current row))

def TriggersAfresh (w : World) : Action -> Prop
  | .trigger _ request => request.Afresh w
  | _ => True

instance (w : World) : forall action, Decidable (TriggersAfresh w action)
  | .trigger _ request => inferInstanceAs (Decidable (request.Afresh w))
  | .wait _ => .isTrue trivial
  | .triggerEnqueue _ => .isTrue trivial
  | .triggerEnd _ => .isTrue trivial
  | .deliver _ _ => .isTrue trivial
  | .advance _ _ _ _ => .isTrue trivial
  | .acknowledge _ => .isTrue trivial
  | .crash _ => .isTrue trivial
  | .watchdogFind _ => .isTrue trivial
  | .watchdogUpdate _ => .isTrue trivial
  | .watchdogEnqueue _ => .isTrue trivial
  | .watchdogEnd _ => .isTrue trivial

def WatchdogTick.Names (tick : WatchdogTick) (id : Nat) : Prop :=
  tick.toEnqueue = some id ∨ Exists fun row => row ∈ tick.remaining ∧ row.id = id

theorem mem_inFlight {w : World} {id : Nat} :
    id ∈ w.inFlight ↔
      (Exists fun message => message ∈ w.queue ∧ message.evalId = id) ∨
      (Exists fun execution => execution ∈ w.executions.rows ∧ execution.message.evalId = id) ∨
      (Exists fun tick => tick ∈ w.ticks.rows ∧ tick.Names id) ∨
      Exists fun process => process ∈ w.triggers.rows ∧ id ∈ process.toEnqueue := by
  unfold World.inFlight WatchdogTick.Names
  simp only [List.mem_append, List.mem_map, List.mem_flatMap, Option.mem_toList, or_assoc]

section Step

variable {settings : Settings} {w next : World} {action : Action}

theorem advance_enqueues {input : PhaseInput} {message : Message} {db : Database} {phase : Phase}
    {outcome : PhaseOutcome} {evalId deferCount : Nat}
    (advanced : Worker.advance settings input message db phase = some outcome)
    (enqueued : outcome.enqueued = some (.runEvaluation evalId deferCount)) :
    evalId = message.evalId := by
  cases phase with
  | deferring =>
      rw [advance_enqueued advanced] at enqueued
      cases enqueued
      rfl
  | writing snapshot sloDef fetchResult =>
      unfold Worker.advance at advanced
      dsimp only at advanced
      split at advanced <;> cases advanced <;> cases enqueued
  | marking =>
      rw [advance_marking] at advanced
      cases advanced
      cases enqueued
  | finished => cases advanced
  | raised error => cases advanced
  | _ =>
      cases advanced
      cases enqueued

section Parts

variable {id : Nat}

theorem inFlight_queued {message : Message} (queued : message ∈ w.queue) :
    message.evalId ∈ w.inFlight :=
  mem_inFlight.mpr (Or.inl ⟨message, queued, rfl⟩)

theorem inFlight_executed {execution : Execution} (member : execution ∈ w.executions.rows) :
    execution.message.evalId ∈ w.inFlight :=
  mem_inFlight.mpr (Or.inr (Or.inl ⟨execution, member, rfl⟩))

theorem inFlight_watched {tick : WatchdogTick} (member : tick ∈ w.ticks.rows)
    (names : tick.Names id) : id ∈ w.inFlight :=
  mem_inFlight.mpr (Or.inr (Or.inr (Or.inl ⟨tick, member, names⟩)))

theorem inFlight_triggered {process : TriggerProcess} (member : process ∈ w.triggers.rows)
    (waits : id ∈ process.toEnqueue) : id ∈ w.inFlight :=
  mem_inFlight.mpr (Or.inr (Or.inr (Or.inr ⟨process, member, waits⟩)))

/-! What is new in flight comes from the part that has changed. -/

theorem inFlight_of_executions {executions : KeyedTable Execution.id} {db : Database}
    (after : id ∈ ({ w with db, executions } : World).inFlight) :
    id ∈ w.inFlight ∨
      Exists fun execution => execution ∈ executions.rows ∧ execution.message.evalId = id := by
  rw [mem_inFlight] at after ⊢
  rcases after with queued | executed | others
  · exact Or.inl (Or.inl queued)
  · exact Or.inr executed
  · exact Or.inl (Or.inr (Or.inr others))

theorem inFlight_of_ticks {ticks : KeyedTable WatchdogTick.id} {db : Database}
    (after : id ∈ ({ w with db, ticks } : World).inFlight) :
    id ∈ w.inFlight ∨ Exists fun tick => tick ∈ ticks.rows ∧ tick.Names id := by
  rw [mem_inFlight] at after ⊢
  rcases after with queued | executed | watched | triggered
  · exact Or.inl (Or.inl queued)
  · exact Or.inl (Or.inr (Or.inl executed))
  · exact Or.inr watched
  · exact Or.inl (Or.inr (Or.inr (Or.inr triggered)))

theorem inFlight_of_triggers {triggers : KeyedTable TriggerProcess.id} {db : Database}
    (after : id ∈ ({ w with db, triggers } : World).inFlight) :
    id ∈ w.inFlight ∨ Exists fun process => process ∈ triggers.rows ∧ id ∈ process.toEnqueue := by
  rw [mem_inFlight] at after ⊢
  rcases after with queued | executed | watched | triggered
  · exact Or.inl (Or.inl queued)
  · exact Or.inl (Or.inr (Or.inl executed))
  · exact Or.inl (Or.inr (Or.inr (Or.inl watched)))
  · exact Or.inr triggered

theorem inFlight_enqueue {evalId deferCount : Nat}
    (after : id ∈ (w.enqueue (.runEvaluation evalId deferCount)).inFlight) :
    id = evalId ∨ id ∈ w.inFlight := by
  rw [mem_inFlight] at after ⊢
  rcases after with ⟨message, member, same⟩ | others
  · rcases List.mem_append.mp member with inside | new
    · exact Or.inr (Or.inl ⟨message, inside, same⟩)
    · rw [List.mem_singleton.mp new] at same
      exact Or.inl same.symm
  · exact Or.inr (Or.inr others)

theorem inFlight_moved {db : Database} {executionId : Nat} {phase : Phase} {moving : Execution}
    (found : w.executions.find executionId = some moving)
    (after : id ∈ (w.moved db executionId phase).inFlight) : id ∈ w.inFlight := by
  rcases inFlight_of_executions after with old | ⟨execution, member, same⟩
  · exact old
  · have moved : execution ∈ (w.moved db executionId phase).executions.rows := member
    rw [<- same]
    rcases moved_executions found moved with ⟨inside, _⟩ | isMoving
    · exact inFlight_executed inside
    · rw [isMoving]
      have inside : moving.message.evalId ∈ w.inFlight :=
        inFlight_executed (find_mem found)
      exact inside

end Parts

/-! ### The actions -/

section Actions

variable {id : Nat}

theorem inFlight_acknowledge {executionId : Nat} {kept : Message -> Bool}
    (after : id ∈ ({ w with
      queue := w.queue.filter kept, executions := w.executions.delete executionId } : World).inFlight)
    : id ∈ w.inFlight := by
  rw [mem_inFlight] at after ⊢
  rcases after with ⟨message, member, same⟩ | ⟨other, member, same⟩ | others
  · exact Or.inl ⟨message, (List.mem_filter.mp member).1, same⟩
  · exact Or.inr (Or.inl ⟨other, ((mem_delete _ _ _).mp member).1, same⟩)
  · exact Or.inr (Or.inr others)

theorem inFlight_advance {executionId : Nat} {workerId : Option String} {checkFails : Bool}
    {adapter : AdapterQuery -> AdapterOutcome} {execution : Execution} {outcome : PhaseOutcome}
    (found : w.executions.find executionId = some execution)
    (advanced : Worker.advance settings { now := w.now, workerId, checkFails, adapter }
      execution.message w.db execution.phase = some outcome)
    (after : id ∈ (outcome.enqueued.elim (w.moved outcome.db executionId outcome.phase)
      (World.enqueue (w.moved outcome.db executionId outcome.phase))).inFlight) :
    id ∈ w.inFlight := by
  cases enqueued : outcome.enqueued with
  | none =>
      rw [enqueued] at after
      exact inFlight_moved found after
  | some sent =>
      rw [enqueued] at after
      cases sent with
      | finalizeRun runId =>
          have moved : id ∈ (w.moved outcome.db executionId outcome.phase).inFlight := after
          exact inFlight_moved found moved
      | runEvaluation evalId deferCount =>
          rcases inFlight_enqueue after with same | moved
          · rw [same, advance_enqueues advanced enqueued]
            exact inFlight_executed (find_mem found)
          · exact inFlight_moved found moved

theorem inFlight_triggerEnqueue {triggerId evalId : Nat} {rest : List Nat}
    {process : TriggerProcess} (found : w.triggers.find triggerId = some process)
    (waiting : process.toEnqueue = evalId :: rest)
    (after : id ∈ ({ w.enqueue (.runEvaluation evalId 0) with
      triggers := w.triggers.update triggerId
        (fun process => { process with toEnqueue := rest }) fun _ => rfl } : World).inFlight) :
    id ∈ w.inFlight := by
  have before : forall other, other ∈ evalId :: rest -> other ∈ w.inFlight :=
    fun other member => inFlight_triggered (find_mem found) (waiting ▸ member)
  rcases inFlight_of_triggers after with enqueued | ⟨other, member, waits⟩
  · rcases inFlight_enqueue enqueued with same | old
    · rw [same]
      exact before evalId List.mem_cons_self
    · exact old
  · rcases (mem_update _ _ _ _ _).mp member with ⟨inside, _⟩ | ⟨old, _, same⟩
    · exact inFlight_triggered inside waits
    · rw [<- same] at waits
      exact before id (List.mem_cons_of_mem _ waits)

theorem inFlight_watchdogUpdate {tickId : Nat} {db : Database} {tick : WatchdogTick}
    {stuckEval : SLOEvaluation} {rest : List SLOEvaluation}
    (found : w.ticks.find tickId = some tick) (remaining : tick.remaining = stuckEval :: rest)
    (after : id ∈ ({ w with
      db
      ticks := w.ticks.update tickId
        (fun tick => { tick with
          remaining := rest, toEnqueue := watchdogRequeued settings stuckEval })
        fun _ => rfl } : World).inFlight) :
    id ∈ w.inFlight := by
  have before : forall row, row ∈ stuckEval :: rest -> row.id ∈ w.inFlight :=
    fun row member => inFlight_watched (find_mem found)
      (Or.inr ⟨row, remaining ▸ member, rfl⟩)
  rcases inFlight_of_ticks after with old | ⟨other, member, names⟩
  · exact old
  · rcases (mem_update _ _ _ _ _).mp member with ⟨inside, _⟩ | ⟨old, _, same⟩
    · exact inFlight_watched inside names
    · rw [<- same] at names
      rcases names with requeued | ⟨row, member, isRow⟩
      · unfold watchdogRequeued at requeued
        split at requeued <;> cases requeued
        exact before stuckEval List.mem_cons_self
      · rw [<- isRow]
        exact before row (List.mem_cons_of_mem _ member)

theorem inFlight_watchdogEnqueue {tickId evalId : Nat} {tick : WatchdogTick}
    (found : w.ticks.find tickId = some tick) (waiting : tick.toEnqueue = some evalId)
    (after : id ∈ ({ w.enqueue (.runEvaluation evalId 0) with
      ticks := w.ticks.update tickId (fun tick => { tick with toEnqueue := none })
        fun _ => rfl } : World).inFlight) :
    id ∈ w.inFlight := by
  rcases inFlight_of_ticks after with enqueued | ⟨other, member, names⟩
  · rcases inFlight_enqueue enqueued with same | old
    · rw [same]
      exact inFlight_watched (find_mem found) (Or.inl waiting)
    · exact old
  · rcases (mem_update _ _ _ _ _).mp member with ⟨inside, _⟩ | ⟨old, isOld, same⟩
    · exact inFlight_watched inside names
    · rw [<- same] at names
      rcases names with impossible | remains
      · cases impossible
      · exact inFlight_watched (find_mem isOld) (Or.inr remains)

end Actions

/-- Something in flight was in flight before, or a watchdog run has found its evaluation
running, or a trigger has created it. -/
theorem inFlight_of_step (stepped : Worker.step settings w action = some next) {id : Nat}
    (after : id ∈ next.inFlight) :
    id ∈ w.inFlight ∨
      (Exists fun row => row ∈ w.db.evaluations.rows ∧ row.id = id ∧ row.status = .running) ∨
      Exists fun triggerId => Exists fun request =>
        action = .trigger triggerId request ∧ id ∈ request.contexts.map Prod.fst := by
  cases step_cases stepped with
  | wait duration => exact Or.inl after
  | trigger triggerId request db committed process processIs fresh =>
      rcases inFlight_of_triggers after with old | ⟨other, member, waits⟩
      · exact Or.inl old
      · rcases (mem_insert _ _ fresh _).mp member with inside | new
        · exact Or.inl (inFlight_triggered inside waits)
        · rw [new, processIs] at waits
          exact Or.inr (Or.inr ⟨triggerId, request, rfl, waits⟩)
  | triggerEnqueue triggerId process evalId rest found waiting =>
      exact Or.inl (inFlight_triggerEnqueue found waiting after)
  | triggerEnd triggerId =>
      rcases inFlight_of_triggers after with old | ⟨other, member, waits⟩
      · exact Or.inl old
      · exact Or.inl (inFlight_triggered ((mem_delete _ _ _).mp member).1 waits)
  | deliver executionId jobId message queued jobIs execution executionIs fresh =>
      rcases inFlight_of_executions after with old | ⟨other, member, same⟩
      · exact Or.inl old
      · rw [<- same]
        rcases (mem_insert _ _ fresh _).mp member with inside | new
        · exact Or.inl (inFlight_executed inside)
        · rw [new, executionIs]
          exact Or.inl (inFlight_queued queued)
  | advance executionId workerId checkFails adapter execution outcome found advanced =>
      exact Or.inl (inFlight_advance found advanced after)
  | acknowledge executionId execution found ended =>
      exact Or.inl (inFlight_acknowledge after)
  | crash executionId =>
      rcases inFlight_of_executions after with old | ⟨other, member, same⟩
      · exact Or.inl old
      · rw [<- same]
        exact Or.inl (inFlight_executed ((mem_delete _ _ _).mp member).1)
  | watchdogFind tickId tick tickIs fresh =>
      rcases inFlight_of_ticks after with old | ⟨other, member, names⟩
      · exact Or.inl old
      · rcases (mem_insert _ _ fresh _).mp member with inside | new
        · exact Or.inl (inFlight_watched inside names)
        · rw [new, tickIs] at names
          rcases names with impossible | ⟨row, stuck, same⟩
          · cases impossible
          · rcases List.mem_filter.mp stuck with ⟨inside, isStuck⟩
            have running := (Bool.and_eq_true_iff.mp isStuck).1
            exact Or.inr (Or.inl ⟨row, inside, same, of_decide_eq_true running⟩)
  | watchdogUpdate tickId tick stuckEval rest found nothing remaining =>
      exact Or.inl (inFlight_watchdogUpdate found remaining after)
  | watchdogEnqueue tickId tick evalId found waiting =>
      exact Or.inl (inFlight_watchdogEnqueue found waiting after)
  | watchdogEnd tickId =>
      rcases inFlight_of_ticks after with old | ⟨other, member, names⟩
      · exact Or.inl old
      · exact Or.inl (inFlight_watched ((mem_delete _ _ _).mp member).1 names)

theorem write_inFlight (all : AllFit w) {write : Write}
    (written : action.write settings w = some write) : write.evalId ∈ w.inFlight := by
  cases action with
  | advance executionId workerId checkFails adapter =>
      rcases Option.bind_eq_some_iff.mp written with ⟨execution, found, written⟩
      have named : execution.message.evalId ∈ w.inFlight :=
        inFlight_executed (find_mem found)
      cases phaseIs : execution.phase with
      | marking =>
          rw [phaseIs] at written
          cases written
          exact named
      | failing error =>
          rw [phaseIs] at written
          cases written
          exact named
      | writing snapshot sloDef fetchResult =>
          have completion : write.evalId = snapshot.evalId := by
            rw [phaseIs] at written
            rcases completedWrite_change written with ⟨_, rfl⟩
            rfl
          have fits := (all execution (find_mem found)).row snapshot (by rw [phaseIs]; rfl)
          rw [completion, fits.1]
          exact named
      | _ =>
          rw [phaseIs] at written
          cases written
  | watchdogUpdate tickId =>
      rcases Option.bind_eq_some_iff.mp written with ⟨tick, found, written⟩
      rcases Option.map_eq_some_iff.mp written with ⟨stuckEval, first, same⟩
      rw [<- same]
      exact inFlight_watched (find_mem found)
        (Or.inr ⟨stuckEval, List.mem_of_head? first, rfl⟩)
  | _ => cases written

/-! ## One current evaluation -/

def OneCurrent (w : World) : Prop :=
  forall first, first ∈ w.db.evaluations.rows -> forall second, second ∈ w.db.evaluations.rows ->
    first.identity = second.identity -> w.Current first -> w.Current second -> first.id = second.id

theorem OneCurrent.respectsIdentity (one : OneCurrent w) : RespectsIdentity w.db.evaluations :=
  fun first inFirst second inSecond firstLive secondLive same =>
    one first inFirst second inSecond same (Or.inl firstLive) (Or.inl secondLive)

theorem rowAfter_identityColumns (settings : Settings) (action : Action) (all : AllFit w)
    {row : SLOEvaluation} (member : row ∈ w.db.evaluations.rows) :
    (rowAfter (action.write settings w) row).identity = row.identity := by
  have series := rowAfter_identity settings action all (find_of_mem member)
  have inputs := rowAfter_inputs (action.write settings w) row
  unfold SLOEvaluation.identity
  rw [series.assetId, series.sloName, inputs.evaluationName, inputs.periodStart, inputs.periodEnd]

theorem current_of_step (all : AllFit w) (stepped : Worker.step settings w action = some next)
    {row : SLOEvaluation} (member : row ∈ w.db.evaluations.rows)
    (after : next.Current (rowAfter (action.write settings w) row)) : w.Current row := by
  rcases after with live | named
  · by_cases spared : forall write, action.write settings w = some write -> write.evalId ≠ row.id
    · rw [rowAfter_of_ne spared] at live
      exact Or.inl live
    · push Not at spared
      rcases spared with ⟨write, written, targeted⟩
      right
      rw [<- targeted]
      exact write_inFlight all written
  · rw [rowAfter_id] at named
    rcases inFlight_of_step stepped named with
      before | ⟨other, inside, sameId, running⟩ | ⟨triggerId, request, isTrigger, created⟩
    · exact Or.inr before
    · have same : other = row := eq_of_key inside member sameId
      left
      rw [<- same, running]
      decide
    · subst isTrigger
      cases step_cases stepped with
      | trigger _ _ db committed process processIs fresh =>
          rcases triggerCommit_find committed created with ⟨ctx, _, found⟩
          have kept := (triggerCommit_eq_some committed).1 row.id row (find_of_mem member)
          rw [found] at kept
          left
          rw [<- Option.some.inj kept]
          simp [pendingEvaluation]

theorem created_alone (fresh : TriggersAfresh w action)
    (stepped : Worker.step settings w action = some next) {created : List SLOEvaluation}
    (table : next.db.evaluations.rows =
      w.db.evaluations.rows.map (rowAfter (action.write settings w)) ++ created)
    (origin : forall row, row ∈ created -> Exists fun triggerId => Exists fun request =>
      action = .trigger triggerId request ∧ request.Creates row)
    {row : SLOEvaluation} (member : row ∈ created) :
    (forall other, other ∈ w.db.evaluations.rows -> other.identity = row.identity ->
      ¬ w.Current other) ∧
    forall other, other ∈ created -> other.identity = row.identity -> other = row := by
  rcases origin row member with ⟨triggerId, request, isTrigger, ctx, assetTags, listed, rowIs⟩
  subst isTrigger
  have identity : row.identity = request.identity ctx := by
    rw [rowIs]
    rfl
  constructor
  · intro other inside same
    exact fresh (row.id, ctx) listed other inside (same.trans identity)
  · cases step_cases stepped with
    | trigger _ _ db committed process processIs isFresh =>
        have unchanged : rowAfter ((Action.trigger triggerId request).write settings w) = id := rfl
        rw [unchanged, List.map_id] at table
        unfold triggerCommit at committed
        split at committed
        · have nodup := (createAll_identities committed table).1
          intro other inside same
          exact List.inj_on_of_nodup_map nodup inside member same
        · cases committed

theorem OneCurrent.step (all : AllFit w) (one : OneCurrent w) (fresh : TriggersAfresh w action)
    (stepped : Worker.step settings w action = some next) : OneCurrent next := by
  rcases step_table stepped with ⟨created, table, origin⟩
  have alone := fun (row : SLOEvaluation) (member : row ∈ created) =>
    created_alone fresh stepped table origin member
  intro first inFirst second inSecond same firstCurrent secondCurrent
  rw [table] at inFirst inSecond
  rcases List.mem_append.mp inFirst with oldFirst | newFirst
  · rcases List.mem_map.mp oldFirst with ⟨before, inBefore, isFirst⟩
    rw [<- isFirst] at same firstCurrent ⊢
    have firstWas := current_of_step all stepped inBefore firstCurrent
    rw [rowAfter_identityColumns settings action all inBefore] at same
    rcases List.mem_append.mp inSecond with oldSecond | newSecond
    · rcases List.mem_map.mp oldSecond with ⟨other, inOther, isSecond⟩
      rw [<- isSecond] at same secondCurrent ⊢
      have secondWas := current_of_step all stepped inOther secondCurrent
      rw [rowAfter_identityColumns settings action all inOther] at same
      rw [rowAfter_id, rowAfter_id]
      exact one before inBefore other inOther same firstWas secondWas
    · exact absurd firstWas ((alone second newSecond).1 before inBefore same)
  · rcases List.mem_append.mp inSecond with oldSecond | newSecond
    · rcases List.mem_map.mp oldSecond with ⟨other, inOther, isSecond⟩
      rw [<- isSecond] at same secondCurrent
      have secondWas := current_of_step all stepped inOther secondCurrent
      rw [rowAfter_identityColumns settings action all inOther] at same
      exact absurd secondWas ((alone first newFirst).1 other inOther same.symm)
    · rw [(alone second newSecond).2 first newFirst same]

theorem indexedStep_eq (all : AllFit w) (one : OneCurrent w) (fresh : TriggersAfresh w action) :
    indexedStep settings w action = Worker.step settings w action := by
  unfold indexedStep
  cases stepped : Worker.step settings w action with
  | none => rfl
  | some next =>
      rw [Option.map_some, if_pos (one.step all fresh stepped).respectsIdentity]

theorem not_raisesViolation (all : AllFit w) (one : OneCurrent w) (fresh : TriggersAfresh w action) :
    ¬ RaisesViolation settings w action := by
  rintro ⟨next, stepped, violated⟩
  exact violated (one.step all fresh stepped).respectsIdentity

end Step

/-- What is kept along a run in which nothing is triggered that has a current
evaluation. -/
theorem current_of_run {settings : Settings} {start final : World} {actions : List Action}
    (initial : start.Initial)
    (along : Along (indexedStep settings) TriggersAfresh start actions)
    (ran : exec (indexedStep settings) start actions = some final) :
    AllFit final ∧ OneCurrent final := by
  have preserves : forall (w : World) (action : Action) (next : World), AllFit w ∧ OneCurrent w ->
      TriggersAfresh w action -> indexedStep settings w action = some next ->
        AllFit next ∧ OneCurrent next := by
    rintro w action next ⟨all, one⟩ fresh stepped
    rw [indexedStep_eq all one fresh] at stepped
    exact ⟨all.step stepped, one.step all fresh stepped⟩
  have first : AllFit start ∧ OneCurrent start := by
    refine ⟨AllFit.of_initial initial, ?_⟩
    intro row member
    rw [initial.noEvaluations] at member
    exact absurd member List.not_mem_nil
  exact exec_preserves_along preserves first along ran

/-! ## The names of what is resolved -/

variable {db : Database} {resolved : ResolvedAssignment} {assignments : Assignments}
  {groupIds : List Nat} {asset : Asset} {newId : Nat -> Nat}
  {contexts : List (Nat × TriggerContext)} {request : TriggerRequest}

theorem directAssignments_name {rows : List SLOAssignment}
    (member : resolved ∈ directAssignments db rows) :
    resolved.sloName = resolved.sloDefinitionId.1 := by
  rcases List.mem_filterMap.mp member with ⟨row, _, direct⟩
  rcases Option.map_eq_some_iff.mp direct with ⟨sloDef, found, same⟩
  rw [<- same]
  exact congrArg Prod.fst (find_key found)

theorem templateAssignments_name {activeSloGroups : List Nat} {rows : List SLOGroupAssignment}
    (member : resolved ∈ templateAssignments db activeSloGroups rows) :
    resolved.sloName = resolved.sloDefinitionId.1 := by
  rcases List.mem_flatMap.mp member with ⟨row, _, generated⟩
  rcases List.mem_map.mp generated with ⟨sloDef, _, same⟩
  rw [<- same]

theorem resolveForAsset_name {assetId : Nat}
    (member : resolved ∈ resolveForAsset db assignments assetId groupIds) :
    resolved.sloName = resolved.sloDefinitionId.1 := by
  have inAll := mem_distinctOnName ((List.mem_insertionSort _).mp member)
  simp only [allAssignments, List.mem_append] at inAll
  rcases inAll with ((direct | viaGroup) | template) | templateViaGroup
  · exact directAssignments_name direct
  · exact directAssignments_name viaGroup
  · exact templateAssignments_name template
  · exact templateAssignments_name templateViaGroup

theorem resolveSingleTrigger_names {assetName sloName : String} {ctx : TriggerContext}
    (found : findAsset db assetName = some asset)
    (resolves : resolveSingleTrigger db assignments assetName sloName groupIds = .ok ctx) :
    ctx.assetId = asset.id ∧ ctx.sloName = sloName := by
  rcases bind_eq_ok.mp resolves with ⟨other, isAsset, resolves⟩
  rw [orRaise_eq_ok.mp isAsset] at found
  cases found
  rcases bind_eq_ok.mp resolves with ⟨resolved, winning, resolves⟩
  have winning := orRaise_eq_ok.mp winning
  have named := List.find?_some winning
  rw [decide_eq_true_eq] at named
  have keyed := resolveForAsset_name (List.mem_of_find?_eq_some winning)
  rcases bind_eq_ok.mp resolves with ⟨sloDef, sloFound, resolves⟩
  have sloKey := find_key (orRaise_eq_ok.mp sloFound)
  rcases bind_eq_ok.mp resolves with ⟨_, _, resolves⟩
  rcases bind_eq_ok.mp resolves with ⟨_, _, resolves⟩
  rcases bind_eq_ok.mp resolves with ⟨_, _, same⟩
  cases same
  refine ⟨rfl, ?_⟩
  have sloName : sloDef.name = resolved.sloDefinitionId.1 := congrArg Prod.fst sloKey
  exact sloName.trans (keyed.symm.trans named)

/-- What a trigger creates for an asset: one context for each name that resolves, in
their order. -/
theorem resolvedContexts_names {assetName : String} {sloNames : List String}
    (found : findAsset db assetName = some asset) :
    (resolvedContexts db assignments assetName groupIds sloNames newId).map (·.2.sloName) =
      sloNames.filter fun sloName =>
        (resolveSingleTrigger db assignments assetName sloName groupIds).isOk := by
  unfold resolvedContexts
  dsimp only
  rw [List.map_map]
  have second : (fun entry : Nat × TriggerContext => entry.2.sloName) ∘
      (fun entry : TriggerContext × Nat => (newId entry.2, entry.1)) =
      TriggerContext.sloName ∘ Prod.fst := rfl
  rw [second, <- List.map_map, List.zipIdx_map_fst]
  induction sloNames with
  | nil => rfl
  | cons sloName rest ih =>
      rw [List.filterMap_cons, List.filter_cons]
      cases resolves : resolveSingleTrigger db assignments assetName sloName groupIds with
      | error failure => exact ih
      | ok ctx =>
          have names := (resolveSingleTrigger_names found resolves).2
          exact List.cons_eq_cons.mpr ⟨names, ih⟩

theorem resolveAllSlosForAsset_nodup (db : Database) (assignments : Assignments) (assetId : Nat)
    (groupIds : List Nat) : (resolveAllSlosForAsset db assignments assetId groupIds).Nodup := by
  unfold resolveAllSlosForAsset resolveForAsset
  apply (List.perm_insertionSort _ _).nodup_iff.mpr
  apply ((List.perm_insertionSort _ _).map _).nodup_iff.mpr
  exact distinctOnName_nodup _

/-! ## What a fresh trigger does -/

/-- A creation succeeds with a new identifier and an identity that no evaluation has
which has not failed. -/
theorem createPending_isSome {params : EvalCreateParams} {id : Nat}
    (fresh : db.evaluations.find id = none)
    (free : forall row, row ∈ db.evaluations.rows -> row.status ≠ .failed ->
      row.identity ≠ (pendingEvaluation params (assetTagsOf db params.assetId) id).identity) :
    (createPending db params id).isSome = true := by
  have notTaken : identityTaken db.evaluations
      (pendingEvaluation params (assetTagsOf db params.assetId) id) = false := by
    apply List.any_eq_false.mpr
    intro row member
    rw [Bool.and_eq_true, decide_eq_true_eq, decide_eq_true_eq]
    rintro ⟨live, same⟩
    exact free row member live same
  have isNew : db.evaluations.find
      (pendingEvaluation params (assetTagsOf db params.assetId) id).id = none := fresh
  unfold createPending
  dsimp only
  rw [notTaken, if_neg Bool.false_ne_true, dif_pos isNew]
  rfl

theorem createAll_isSome
    (fresh : forall entry, entry ∈ contexts -> db.evaluations.find entry.1 = none)
    (distinct : (contexts.map Prod.fst).Nodup) (names : (contexts.map (·.2.sloName)).Nodup)
    (free : forall entry, entry ∈ contexts -> forall row, row ∈ db.evaluations.rows ->
      row.status ≠ .failed -> row.identity ≠ request.identity entry.2) :
    (createAll request db contexts).isSome = true := by
  induction contexts generalizing db with
  | nil => rfl
  | cons entry rest ih =>
      rcases entry with ⟨id, ctx⟩
      rw [List.map_cons, List.nodup_cons] at distinct names
      rw [List.forall_mem_cons] at fresh free
      have creates : (createPending db (request.params ctx) id).isSome = true :=
        createPending_isSome fresh.1 free.1
      rcases Option.isSome_iff_exists.mp creates with ⟨middle, created⟩
      unfold createAll
      rw [created]
      apply ih
      · intro other member
        rw [(createPending_eq_some created).2.1, if_neg]
        · exact fresh.2 other member
        · intro same
          exact distinct.1 (List.mem_map.mpr ⟨other, member, same⟩)
      · exact distinct.2
      · exact names.2
      · intro other member row inside live
        rw [createPending_rows created] at inside
        rcases List.mem_append.mp inside with old | new
        · exact free.2 other member row old live
        · rw [List.mem_singleton.mp new]
          intro same
          have sameName : ctx.sloName = other.2.sloName := congrArg (fun columns => columns.2.1) same
          exact names.1 (List.mem_map.mpr ⟨other, member, sameName.symm⟩)

def resolvedSlos (db : Database) (assignments : Assignments) (asset : Asset) : List String :=
  let groupIds := listGroupIdsForAsset assignments asset.id
  (resolveAllSlosForAsset db assignments asset.id groupIds).filter fun sloName =>
    (resolveSingleTrigger db assignments asset.name sloName groupIds).isOk

def EvaluateSingleRequest.identity (request : EvaluateSingleRequest) (asset : Asset)
    (sloName : String) : Nat × String × String × Instant × Instant :=
  (asset.id, sloName, request.evalName, request.periodStart, request.periodEnd)

/-- What a trigger finds when nothing stands in its way: the asset has assignments, and
the identifiers it draws are new. -/
structure Triggers (db : Database) (assignments : Assignments) (request : EvaluateSingleRequest)
    (runId : Nat) (newId : Nat -> Nat) (asset : Asset) : Prop where
  found : findAsset db request.assetName = some asset
  assigned : resolveAllSlosForAsset db assignments asset.id
    (listGroupIdsForAsset assignments asset.id) ≠ []
  newRun : db.runs.find runId = none
  injective : Function.Injective newId
  newRows : forall position, db.evaluations.find (newId position) = none

/-- A pending evaluation for each SLO that resolves, and the others as they were. -/
structure CreatesAll (db next : Database) (assignments : Assignments)
    (request : EvaluateSingleRequest) (asset : Asset) : Prop where
  created : Exists fun created : List SLOEvaluation =>
    next.evaluations.rows = db.evaluations.rows ++ created ∧
      (forall row, row ∈ created -> row.status = .pending) ∧
      created.map SLOEvaluation.identity =
        (resolvedSlos db assignments asset).map (request.identity asset)

theorem createAll_created {next : Database} (created : createAll request db contexts = some next) :
    Exists fun rows : List SLOEvaluation =>
      next.evaluations.rows = db.evaluations.rows ++ rows ∧
        (forall row, row ∈ rows -> row.status = .pending) ∧
        rows.map SLOEvaluation.identity = contexts.map fun entry => request.identity entry.2 := by
  induction contexts generalizing db with
  | nil =>
      cases created
      exact ⟨[], (List.append_nil _).symm, fun _ impossible => absurd impossible List.not_mem_nil,
        rfl⟩
  | cons entry rest ih =>
      rcases entry with ⟨id, ctx⟩
      rcases createAll_cons created with ⟨middle, first, created⟩
      rcases ih created with ⟨rows, appended, pending, identities⟩
      refine ⟨pendingEvaluation (request.params ctx) (assetTagsOf db ctx.assetId) id :: rows,
        ?_, ?_, ?_⟩
      · rw [appended, createPending_rows first, List.append_assoc]
        rfl
      · rw [List.forall_mem_cons]
        exact ⟨rfl, pending⟩
      · rw [List.map_cons, List.map_cons, identities]
        rfl

theorem resolvedContexts_nodup (db : Database) (assignments : Assignments) (assetName : String)
    (groupIds : List Nat) (sloNames : List String) (injective : Function.Injective newId) :
    ((resolvedContexts db assignments assetName groupIds sloNames newId).map Prod.fst).Nodup := by
  have drawn : Prod.fst ∘ (fun entry : TriggerContext × Nat => (newId entry.2, entry.1)) =
      newId ∘ Prod.snd := rfl
  unfold resolvedContexts
  dsimp only
  rw [List.map_map, drawn, <- List.map_map, List.zipIdx_map_snd]
  exact List.Nodup.map injective List.nodup_range'

/-- A trigger succeeds where none of the SLOs that resolve has an evaluation of that
name and period that has not failed. -/
theorem triggerEvaluate_creates {request : EvaluateSingleRequest} {runId : Nat}
    (triggers : Triggers db assignments request runId newId asset)
    (free : forall sloName, sloName ∈ resolvedSlos db assignments asset -> forall row,
      row ∈ db.evaluations.rows -> row.status ≠ .failed ->
      row.identity ≠ request.identity asset sloName) :
    Exists fun next => Exists fun ids =>
      triggerEvaluate db assignments request runId newId = .ok (next, ids) ∧
        CreatesAll db next assignments request asset := by
  have named := findAsset_name triggers.found
  let groupIds := listGroupIdsForAsset assignments asset.id
  let sloNames := resolveAllSlosForAsset db assignments asset.id groupIds
  let contexts := resolvedContexts db assignments request.assetName groupIds sloNames newId
  have names : contexts.map (·.2.sloName) = resolvedSlos db assignments asset := by
    unfold resolvedSlos
    rw [named]
    exact resolvedContexts_names triggers.found
  have nodup : (resolvedSlos db assignments asset).Nodup :=
    (resolveAllSlosForAsset_nodup db assignments asset.id groupIds).filter _
  have ids : forall entry, entry ∈ contexts -> Exists fun position => entry.1 = newId position := by
    intro entry member
    rcases List.mem_map.mp member with ⟨position, _, same⟩
    exact ⟨position.2, congrArg Prod.fst same.symm⟩
  have distinct : (contexts.map Prod.fst).Nodup :=
    resolvedContexts_nodup db assignments request.assetName groupIds sloNames triggers.injective
  let trigger : TriggerRequest :=
    { runId, assetId := asset.id, evalName := request.evalName,
      periodStart := request.periodStart, periodEnd := request.periodEnd, vars := request.vars,
      compareTo := request.compareTo, contexts }
  have identities : forall entry, entry ∈ contexts ->
      trigger.identity entry.2 = request.identity asset entry.2.sloName := by
    intro entry member
    unfold TriggerRequest.identity EvaluateSingleRequest.identity
    rw [(resolvedContexts_asset triggers.found member).2]
  have committed : (triggerCommit trigger db).isSome = true := by
    unfold triggerCommit
    rw [dif_pos triggers.newRun]
    apply createAll_isSome
    · intro entry member
      rcases ids entry member with ⟨position, same⟩
      rw [same]
      exact triggers.newRows position
    · exact distinct
    · rw [names]
      exact nodup
    · intro entry member row inside live
      rw [identities entry member]
      refine free entry.2.sloName ?_ row inside live
      rw [<- names]
      exact List.mem_map_of_mem member
  rcases Option.isSome_iff_exists.mp committed with ⟨next, committed⟩
  refine ⟨next, contexts.map Prod.fst, ?_, ?_⟩
  · unfold triggerEvaluate
    rw [triggers.found]
    apply bind_eq_ok.mpr
    refine ⟨asset, rfl, ?_⟩
    dsimp only
    rw [if_neg triggers.assigned]
    apply bind_eq_ok.mpr
    exact ⟨next, orRaise_eq_ok.mpr committed, rfl⟩
  · unfold triggerCommit at committed
    rw [dif_pos triggers.newRun] at committed
    rcases createAll_created committed with ⟨created, appended, pending, columns⟩
    refine ⟨created, appended, pending, ?_⟩
    rw [columns, <- names, List.map_map]
    exact List.map_congr_left identities

/-- A trigger that creates all of its evaluations has met none of their identities among
those that have not failed. -/
theorem free_of_triggerEvaluate {next : Database} {request : EvaluateSingleRequest} {runId : Nat}
    {ids : List Nat}
    (triggered : triggerEvaluate db assignments request runId newId = .ok (next, ids))
    (creates : CreatesAll db next assignments request asset) {sloName : String}
    (resolved : sloName ∈ resolvedSlos db assignments asset) {row : SLOEvaluation}
    (inside : row ∈ db.evaluations.rows) (same : row.identity = request.identity asset sloName) :
    row.status = .failed := by
  rcases creates.created with ⟨created, appended, _, columns⟩
  have listed : request.identity asset sloName ∈ created.map SLOEvaluation.identity := by
    rw [columns]
    exact List.mem_map_of_mem resolved
  rcases List.mem_map.mp listed with ⟨made, member, isMade⟩
  by_contra live
  rcases bind_eq_ok.mp triggered with ⟨_, _, triggered⟩
  dsimp only at triggered
  split at triggered
  · cases triggered
  · rcases bind_eq_ok.mp triggered with ⟨_, committed, isNext⟩
    cases isNext
    have committed := orRaise_eq_ok.mp committed
    unfold triggerCommit at committed
    split at committed
    · exact (createAll_identities committed appended).2 made member row inside live
        (same.trans isMade.symm)
    · cases committed

/-- In a run in which nothing is triggered that has a current evaluation already, no two
evaluations of one identity have both not failed, and no statement of a further action
that meets the condition raises a violation.  In the state that it reaches, a further
trigger creates a pending evaluation for each SLO that resolves, and leaves the others
as they are, exactly when every evaluation of these SLOs for the name and the period has
failed. -/
theorem retriggers {settings : Settings} {start final : World} {actions : List Action}
    (initial : start.Initial)
    (along : Along (indexedStep settings) TriggersAfresh start actions)
    (ran : exec (indexedStep settings) start actions = some final) :
    RespectsIdentity final.db.evaluations ∧
      (forall action, TriggersAfresh final action -> ¬ RaisesViolation settings final action) ∧
      forall (assignments : Assignments) (request : EvaluateSingleRequest) (runId : Nat)
        (newId : Nat -> Nat) (asset : Asset),
        Triggers final.db assignments request runId newId asset ->
        ((Exists fun next => Exists fun ids =>
          triggerEvaluate final.db assignments request runId newId = .ok (next, ids) ∧
            CreatesAll final.db next assignments request asset) ↔
          forall sloName, sloName ∈ resolvedSlos final.db assignments asset ->
            forall row, row ∈ final.db.evaluations.rows ->
              row.identity = request.identity asset sloName -> row.status = .failed) := by
  rcases current_of_run initial along ran with ⟨all, one⟩
  refine ⟨one.respectsIdentity, fun action fresh => not_raisesViolation all one fresh, ?_⟩
  intro assignments request runId newId asset triggers
  constructor
  · rintro ⟨next, ids, triggered, creates⟩ sloName resolved row inside same
    exact free_of_triggerEvaluate triggered creates resolved inside same
  · intro failed
    apply triggerEvaluate_creates triggers
    intro sloName resolved row inside live same
    exact live (failed sloName resolved row inside same)

/-! ## Two SLOs on one asset -/

namespace Sample

def pairDatabase : Database :=
  { database with
    sloDefinitions := (empty.insert
      { sloDefinition with sliDefinitionId := some ("checkout-sli", 1) } rfl).insert
        { sloDefinition with name := "search", sliDefinitionId := some ("checkout-sli", 1) } rfl }

def pairWorld : World :=
  { db := pairDatabase, now := 0 }

theorem pairWorld_initial : pairWorld.Initial :=
  ⟨rfl, rfl, rfl, rfl, rfl⟩

def pairAssignments : Assignments :=
  { sloAssignments := [
      { assetId := some 1, sloDefinitionId := ("checkout", 1), dataSourceName := "prometheus" },
      { assetId := some 1, sloDefinitionId := ("search", 1), dataSourceName := "prometheus" }] }

def pairRequest : EvaluateSingleRequest :=
  { assetName := "shop", evalName := "hourly", periodStart := 0, periodEnd := 3600000000 }

def resolvedPair (runId : Nat) (newId : Nat -> Nat) : TriggerRequest :=
  { runId, assetId := 1, evalName := "hourly", periodStart := 0, periodEnd := 3600000000
    contexts := resolvedContexts pairDatabase pairAssignments "shop" [] ["checkout", "search"] newId }

def timesOut (executionId : Nat) : Action :=
  .advance executionId (some "worker") false fun _ => .timeout

def bothFailed : List Action :=
  [.trigger 1 (resolvedPair 1 (· + 10)), .triggerEnqueue 1, .triggerEnqueue 1,
    .deliver 1 0, .deliver 2 1] ++ List.replicate 5 (timesOut 1) ++ List.replicate 5 (timesOut 2) ++
    [.acknowledge 1, .acknowledge 2]

/-- The evaluation of the first SLO is completed, and that of the second fails. -/
def mixedRun : List Action :=
  [.trigger 1 (resolvedPair 1 (· + 10)), .triggerEnqueue 1, .triggerEnqueue 1,
    .deliver 1 0, .deliver 2 1] ++ List.replicate 6 (advance 1) ++ List.replicate 5 (timesOut 2) ++
    [.acknowledge 1, .acknowledge 2]

/-- Both evaluations fail, the workers die before they acknowledge, and the request is
sent again. -/
def resentRun : List Action :=
  [.trigger 1 (resolvedPair 1 (· + 10)), .triggerEnqueue 1, .triggerEnqueue 1,
    .deliver 1 0, .deliver 2 1] ++ List.replicate 5 (timesOut 1) ++ List.replicate 5 (timesOut 2) ++
    [.crash 1, .crash 2, .trigger 2 (resolvedPair 2 (· + 20)), .deliver 3 0, timesOut 3]

def isConflict {α : Type} : Except TriggerError α -> Bool
  | .error .conflict => true
  | _ => false

theorem isConflict_spec {α : Type} {outcome : Except TriggerError α}
    (conflict : isConflict outcome = true) : outcome = .error .conflict := by
  cases outcome with
  | ok value => cases conflict
  | error failure =>
      cases failure with
      | conflict => rfl
      | _ => cases conflict

end Sample

theorem failed_pair_retriggers :
    Exists fun w => Exists fun next => Exists fun ids =>
      exec (indexedStep {}) Sample.pairWorld Sample.bothFailed = some w ∧
        triggerEvaluate w.db Sample.pairAssignments Sample.pairRequest 2 (· + 20) =
          .ok (next, ids) := by
  have possible : (exec (indexedStep {}) Sample.pairWorld Sample.bothFailed).any (fun w =>
      decide (w.db.runs.find 2 = none ∧ (forall row, row ∈ w.db.evaluations.rows ->
        row.id < 20 ∧ row.status = .failed) ∧ resolveAllSlosForAsset w.db Sample.pairAssignments 1
          (listGroupIdsForAsset Sample.pairAssignments 1) ≠ []) &&
      (findAsset w.db "shop").any fun asset => decide (asset.id = 1)) = true := by
    decide +kernel
  have afresh : Along (indexedStep {}) TriggersAfresh Sample.pairWorld Sample.bothFailed := by
    decide +kernel
  rcases (Option.any_eq_true _ _).mp possible with ⟨w, ran, facts⟩
  rcases Bool.and_eq_true_iff.mp facts with ⟨facts, assetFacts⟩
  rcases of_decide_eq_true facts with ⟨newRun, failed, assigned⟩
  rcases (Option.any_eq_true _ _).mp assetFacts with ⟨asset, found, isOne⟩
  have isOne : asset.id = 1 := of_decide_eq_true isOne
  rw [<- isOne] at assigned
  have newRows : forall position : Nat, w.db.evaluations.find (position + 20) = none := by
    intro position
    cases present : w.db.evaluations.find (position + 20) with
    | none => rfl
    | some row =>
        have small := (failed row (find_mem present)).1
        rw [find_key present] at small
        omega
  have triggers : Triggers w.db Sample.pairAssignments Sample.pairRequest 2 (· + 20) asset :=
    ⟨found, assigned, newRun, fun first second same => Nat.add_right_cancel same, newRows⟩
  rcases ((retriggers Sample.pairWorld_initial afresh ran).2.2 _ _ _ _ _ triggers).mpr
    (fun _ _ row inside _ => (failed row inside).2) with ⟨next, ids, triggered, _⟩
  exact ⟨w, next, ids, ran, triggered⟩

/-- One completed SLO keeps the failed one beside it from being triggered again.  And
after a trigger has replaced two failed evaluations, the message of the first of them is
delivered again and phase 1 raises a violation. -/
theorem failed_evaluations_stick :
    (Exists fun w => exec (indexedStep {}) Sample.pairWorld Sample.mixedRun = some w ∧
      w.statusOf 10 = some .completed ∧ w.statusOf 11 = some .failed ∧
      triggerEvaluate w.db Sample.pairAssignments Sample.pairRequest 2 (· + 20) =
        .error .conflict) ∧
    Exists fun w => exec (indexedStep {}) Sample.pairWorld Sample.resentRun = some w ∧
      w.statusOf 10 = some .failed ∧ w.statusOf 20 = some .pending ∧
      RaisesViolation {} w (Sample.timesOut 3) := by
  constructor
  · have ran : (exec (indexedStep {}) Sample.pairWorld Sample.mixedRun).any (fun w =>
        decide (w.statusOf 10 = some .completed ∧ w.statusOf 11 = some .failed) &&
        Sample.isConflict (triggerEvaluate w.db Sample.pairAssignments Sample.pairRequest 2
          (· + 20))) = true := by
      decide +kernel
    rcases (Option.any_eq_true _ _).mp ran with ⟨w, ran, facts⟩
    rcases Bool.and_eq_true_iff.mp facts with ⟨statuses, conflict⟩
    rcases of_decide_eq_true statuses with ⟨first, second⟩
    exact ⟨w, ran, first, second, Sample.isConflict_spec conflict⟩
  · have ran : (exec (indexedStep {}) Sample.pairWorld Sample.resentRun).any (fun w =>
        decide (w.statusOf 10 = some .failed ∧ w.statusOf 20 = some .pending) &&
        (step {} w (Sample.timesOut 3)).any fun next =>
          decide (¬ RespectsIdentity next.db.evaluations)) = true := by
      decide +kernel
    rcases (Option.any_eq_true _ _).mp ran with ⟨w, ran, facts⟩
    rcases Bool.and_eq_true_iff.mp facts with ⟨statuses, raises⟩
    rcases of_decide_eq_true statuses with ⟨first, second⟩
    rcases (Option.any_eq_true _ _).mp raises with ⟨next, stepped, violated⟩
    exact ⟨w, ran, first, second, next, stepped, of_decide_eq_true violated⟩

end Worker
end Tropek
