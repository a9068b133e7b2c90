import Tropek.Finalization.Effects

namespace Tropek
namespace Finalization

open Library Engine Store Worker TransitionSystem KeyedTable

/-!
# At most one attempt finalizes a run

An attempt claims a run from its update on.  The lock keeps two uncommitted claims
apart, and the guard of the update keeps a claim away from a run that another
attempt has finalized.
-/

/-! ## The invariant -/

def Attempt.Claims (attempt : Attempt) (runId : Nat) : Prop :=
  attempt.runId = runId ∧ Exists fun children =>
    attempt.phase = .updated children ∨ attempt.phase = .returned children

def Attempt.Fits (attempt : Attempt) (runs : Runs) : Prop :=
  match attempt.phase with
  | .starting => True
  | .reading => Exists fun run => runs.find attempt.runId = some run
  | .deciding children =>
      AllDone children ∧ Exists fun run => runs.find attempt.runId = some run
  | .updated children =>
      AllDone children ∧
        Exists fun run => runs.find attempt.runId = some run ∧ run.status ≠ .completed
  | .returned children =>
      AllDone children ∧
        Exists fun run => runs.find attempt.runId = some run ∧ run.Carries (aggregate children)
  | .ended => True

/-- The invariant of the attempts: each one fits the runs as its phase says, and no two
of them have an uncommitted update of the same run. -/
structure Sound (w : RunWorld) : Prop where
  fits : forall id attempt, w.attempts.find id = some attempt -> attempt.Fits w.db.runs
  alone : forall runId id attempt other second, w.attempts.find id = some attempt ->
    w.attempts.find other = some second -> attempt.Claims runId -> second.Claims runId -> id = other

variable {attempt : Attempt} {runs : Runs} {runId : Nat} {phase : AttemptPhase}
  {w next start middle : RunWorld} {action : Action} {actions : List Action} {run : EvaluationRun}

theorem Attempt.Fits.of_find {first second : Runs}
    (keeps : forall run, first.find attempt.runId = some run ->
      second.find attempt.runId = some run)
    (fits : attempt.Fits first) : attempt.Fits second := by
  unfold Attempt.Fits at fits ⊢
  cases phase : attempt.phase with
  | starting => trivial
  | reading =>
      rw [phase] at fits
      rcases fits with ⟨run, found⟩
      exact ⟨run, keeps run found⟩
  | deciding children =>
      rw [phase] at fits
      rcases fits with ⟨done, run, found⟩
      exact ⟨done, run, keeps run found⟩
  | updated children =>
      rw [phase] at fits
      rcases fits with ⟨done, run, found, status⟩
      exact ⟨done, run, keeps run found, status⟩
  | returned children =>
      rw [phase] at fits
      rcases fits with ⟨done, run, found, carries⟩
      exact ⟨done, run, keeps run found, carries⟩
  | ended => trivial

theorem Attempt.Fits.of_unclaimed {first second : Runs} (unclaimed : ¬ attempt.Claims attempt.runId)
    (keeps : forall run, first.find attempt.runId = some run ->
      Exists fun run => second.find attempt.runId = some run)
    (fits : attempt.Fits first) : attempt.Fits second := by
  unfold Attempt.Fits at fits ⊢
  cases phase : attempt.phase with
  | starting => trivial
  | reading =>
      rw [phase] at fits
      rcases fits with ⟨run, found⟩
      exact keeps run found
  | deciding children =>
      rw [phase] at fits
      rcases fits with ⟨done, run, found⟩
      exact ⟨done, keeps run found⟩
  | updated children => exact absurd ⟨rfl, children, Or.inl phase⟩ unclaimed
  | returned children => exact absurd ⟨rfl, children, Or.inr phase⟩ unclaimed
  | ended => trivial

theorem Attempt.Fits.claimed (fits : attempt.Fits runs) (claims : attempt.Claims runId) :
    attempt.Holds runId = true ∨
      Exists fun run => runs.find runId = some run ∧ run.status = .completed := by
  rcases claims with ⟨sameRun, children, phase | phase⟩
  · refine Or.inl ?_
    unfold Attempt.Holds
    rw [phase, sameRun]
    simp
  · unfold Attempt.Fits at fits
    rw [phase] at fits
    rcases fits with ⟨_, run, found, carries⟩
    exact Or.inr ⟨run, sameRun ▸ found, carries.status⟩

theorem find_setPhase (w : RunWorld) (attemptId : Nat) (phase : AttemptPhase) (id : Nat) :
    (w.setPhase attemptId phase).attempts.find id =
      if id = attemptId then (w.attempts.find id).map (Attempt.setPhase phase)
      else w.attempts.find id :=
  find_update w.attempts attemptId _ (Attempt.setPhase_id phase) id

theorem find_setPhase_eq_some {found : Attempt} {id : Nat}
    (there : w.attempts.find attempt.id = some attempt)
    (looked : (w.setPhase attempt.id phase).attempts.find id = some found) :
    (id = attempt.id ∧ found = attempt.setPhase phase) ∨
      (id ≠ attempt.id ∧ w.attempts.find id = some found) := by
  rw [find_setPhase] at looked
  by_cases same : id = attempt.id
  · rw [if_pos same, same, there] at looked
    exact Or.inl ⟨same, (Option.some.inj looked).symm⟩
  · rw [if_neg same] at looked
    exact Or.inr ⟨same, looked⟩

/-! ## The step lemma -/

theorem initial_sound (initial : w.Initial) : Sound w where
  fits := by
    intro id attempt found
    rw [initial.noAttempts, find_empty] at found
    cases found
  alone := by
    intro runId id attempt other second found
    rw [initial.noAttempts, find_empty] at found
    cases found

/-- A moved attempt fits its new phase, and claims its run only when nobody else
does. -/
theorem moves_fits (sound : Sound w) (found : w.attempts.find attempt.id = some attempt)
    (moves : Moves w attempt action phase) :
    (attempt.setPhase phase).Fits w.db.runs ∧
      ((attempt.setPhase phase).Claims attempt.runId ->
        forall id second, w.attempts.find id = some second -> ¬ second.Claims attempt.runId) := by
  have before := sound.fits attempt.id attempt found
  cases moves with
  | runOver _ _ =>
      refine ⟨trivial, ?_⟩
      rintro ⟨_, children, impossible | impossible⟩ <;> cases impossible
  | runThere run _ there =>
      refine ⟨⟨run, (unfinalized_eq_some.mp there).1⟩, ?_⟩
      rintro ⟨_, children, impossible | impossible⟩ <;> cases impossible
  | childrenRead starts =>
      unfold Attempt.Fits at before
      rw [starts] at before
      unfold afterReading
      cases decided : decideFinalization (childrenOf w.db.evaluations attempt.runId) with
      | none =>
          refine ⟨trivial, ?_⟩
          rintro ⟨_, children, impossible | impossible⟩ <;> cases impossible
      | some values =>
          refine ⟨⟨(decideFinalization_eq_some.mp decided).1, before⟩, ?_⟩
          rintro ⟨_, children, impossible | impossible⟩ <;> cases impossible
  | runUpdated children starts unlocked =>
      unfold Attempt.Fits at before
      rw [starts] at before
      unfold afterUpdate
      cases there : unfinalized w.db.runs attempt.runId with
      | none =>
          refine ⟨trivial, ?_⟩
          rintro ⟨_, children, impossible | impossible⟩ <;> cases impossible
      | some run =>
          have stored := unfinalized_eq_some.mp there
          refine ⟨⟨before.1, run, stored⟩, fun _ id second looked claims => ?_⟩
          rcases (sound.fits id second looked).claimed claims with holds | ⟨other, stored', status⟩
          · have locked : w.locked attempt.runId = true :=
              List.any_eq_true.mpr ⟨second, find_mem looked, holds⟩
            rw [unlocked] at locked
            cases locked
          · cases Option.some.inj (stored.1.symm.trans stored')
            exact stored.2 status

theorem find_finalizeRun_of_ne {wanted : Nat} {values : RunValues} (different : wanted ≠ runId) :
    (finalizeRun runs runId values).find wanted = runs.find wanted := by
  rw [find_finalizeRun]
  cases found : runs.find wanted with
  | none => rfl
  | some run =>
      have notRun : ¬ (run.id = runId ∧ run.status ≠ .completed) := fun both =>
        different ((find_key found).symm.trans both.1)
      rw [Option.map_some, if_neg notRun]

theorem find_finalizeRun_held {children : List Child} (fits : attempt.Fits runs)
    (phase : attempt.phase = .updated children) :
    Exists fun run => (finalizeRun runs attempt.runId (aggregate children)).find attempt.runId =
      some run ∧ run.Carries (aggregate children) := by
  unfold Attempt.Fits at fits
  rw [phase] at fits
  rcases fits with ⟨_, run, found, status⟩
  refine ⟨run.setFinalized (aggregate children), ?_, EvaluationRun.setFinalized_carries _ run⟩
  rw [find_finalizeRun, found, Option.map_some, if_pos ⟨find_key found, status⟩]

/-! The five effects, one after the other. -/

section Effects

variable {w next : RunWorld} {attempt : Attempt}

theorem Sound.quiet (sound : Sound w) (attempts : next.attempts = w.attempts)
    (runs : RunsGrow w.db.runs next.db.runs) : Sound next where
  fits := by
    intro id attempt found
    rw [attempts] at found
    exact (sound.fits id attempt found).of_find fun run => runs.find
  alone := by
    rw [attempts]
    exact sound.alone

theorem Sound.started (sound : Sound w) (fresh : w.attempts.find attempt.id = none)
    (phase : attempt.phase = .starting) (attempts : next.attempts = w.attempts.insert attempt fresh)
    (db : next.db = w.db) : Sound next := by
  have isStarting : forall runId, ¬ attempt.Claims runId := by
    rintro runId ⟨_, children, impossible | impossible⟩ <;> rw [phase] at impossible <;>
      cases impossible
  refine ⟨fun id found looked => ?_, fun runId id first other second one two => ?_⟩
  · rw [attempts, find_insert] at looked
    rw [db]
    split at looked
    · cases looked
      unfold Attempt.Fits
      rw [phase]
      trivial
    · exact sound.fits id found looked
  · rw [attempts, find_insert] at one two
    split at one
    · cases one
      exact fun claims => absurd claims (isStarting runId)
    · split at two
      · cases two
        exact fun _ claims => absurd claims (isStarting runId)
      · exact sound.alone runId id first other second one two

/-- When only the phase of one attempt changes, a claim that it did not have before
must be the only one. -/
theorem Sound.alone_setPhase (sound : Sound w) {phase : AttemptPhase}
    (found : w.attempts.find attempt.id = some attempt)
    (claimsAlone : forall runId, (attempt.setPhase phase).Claims runId ->
      forall id second, w.attempts.find id = some second -> second.Claims runId -> id = attempt.id)
    (runId id : Nat) (first : Attempt) (other : Nat) (second : Attempt)
    (one : (w.setPhase attempt.id phase).attempts.find id = some first)
    (two : (w.setPhase attempt.id phase).attempts.find other = some second)
    (claims : first.Claims runId) (others : second.Claims runId) : id = other := by
  rcases find_setPhase_eq_some found one with ⟨isFirst, same⟩ | ⟨_, there⟩
  · rcases find_setPhase_eq_some found two with ⟨isSecond, _⟩ | ⟨_, otherThere⟩
    · exact isFirst.trans isSecond.symm
    · rw [same] at claims
      exact isFirst.trans (claimsAlone runId claims other second otherThere others).symm
  · rcases find_setPhase_eq_some found two with ⟨isSecond, same⟩ | ⟨_, otherThere⟩
    · rw [same] at others
      exact (claimsAlone runId others id first there claims).trans isSecond.symm
    · exact sound.alone runId id first other second there otherThere claims others

theorem Sound.moved (sound : Sound w) {action : Action} {phase : AttemptPhase}
    (found : w.attempts.find attempt.id = some attempt) (moves : Moves w attempt action phase)
    (attempts : next.attempts = (w.setPhase attempt.id phase).attempts) (db : next.db = w.db) :
    Sound next := by
  have moved := moves_fits sound found moves
  refine ⟨fun id other looked => ?_, ?_⟩
  · rw [attempts] at looked
    rw [db]
    rcases find_setPhase_eq_some found looked with ⟨_, same⟩ | ⟨_, there⟩
    · rw [same]
      exact moved.1
    · exact sound.fits id other there
  · rw [attempts]
    refine sound.alone_setPhase found fun runId claims id second there others => ?_
    cases claims.1
    exact absurd others (moved.2 claims id second there)

theorem Sound.committed (sound : Sound w) {children : List Child}
    (found : w.attempts.find attempt.id = some attempt) (phase : attempt.phase = .updated children)
    (attempts : next.attempts = (w.setPhase attempt.id (.returned children)).attempts)
    (db : next.db = { w.db with
      runs := finalizeRun w.db.runs attempt.runId (aggregate children) }) : Sound next := by
  have held := sound.fits attempt.id attempt found
  have claims : attempt.Claims attempt.runId := ⟨rfl, children, Or.inl phase⟩
  have done : AllDone children := by
    unfold Attempt.Fits at held
    rw [phase] at held
    exact held.1
  refine ⟨fun id other looked => ?_, ?_⟩
  · rw [attempts] at looked
    rw [db]
    rcases find_setPhase_eq_some found looked with ⟨_, same⟩ | ⟨different, there⟩
    · rw [same]
      exact ⟨done, find_finalizeRun_held held phase⟩
    · by_cases sameRun : other.runId = attempt.runId
      · refine (sound.fits id other there).of_unclaimed (fun others => different ?_) ?_
        · exact sound.alone attempt.runId id other attempt.id attempt there found
            (sameRun ▸ others) claims
        · intro run _
          rcases find_finalizeRun_held held phase with ⟨finalized, looked, _⟩
          exact ⟨finalized, sameRun ▸ looked⟩
      · refine (sound.fits id other there).of_find fun run isRun => ?_
        change (finalizeRun w.db.runs attempt.runId (aggregate children)).find other.runId = _
        rw [find_finalizeRun_of_ne sameRun]
        exact isRun
  · rw [attempts]
    refine sound.alone_setPhase found fun runId moved id second there others => ?_
    exact sound.alone runId id second attempt.id attempt there found others
      ⟨moved.1, children, Or.inl phase⟩

theorem Sound.crashed (sound : Sound w) (attempts : next.attempts = w.attempts.delete attempt.id)
    (db : next.db = w.db) : Sound next := by
  have survives : forall id other, next.attempts.find id = some other ->
      w.attempts.find id = some other := by
    intro id other looked
    rw [attempts, find_delete] at looked
    split at looked
    · cases looked
    · exact looked
  refine ⟨fun id other looked => ?_, fun runId id first other second one two => ?_⟩
  · rw [db]
    exact sound.fits id other (survives id other looked)
  · exact sound.alone runId id first other second (survives id first one)
      (survives other second two)

end Effects

theorem Sound.step (sound : Sound w) (stepped : step w action = some next) : Sound next := by
  cases step_effect stepped with
  | quiet attempts runs => exact sound.quiet attempts runs
  | started attempt fresh phase attempts db => exact sound.started fresh phase attempts db
  | moved attempt phase found moves attempts db => exact sound.moved found moves attempts db
  | committed attempt children found phase attempts db =>
      exact sound.committed found phase attempts db
  | crashed attempt found running attempts db => exact sound.crashed attempts db

theorem exec_sound (initial : start.Initial) (ran : exec step start actions = some w) : Sound w :=
  exec_preserves (fun _ _ _ sound stepped => sound.step stepped) (initial_sound initial) ran

/-! ## A completed run stays as it is -/

theorem step_completed (stepped : step w action = some next)
    (found : w.db.runs.find runId = some run) (completed : run.status = .completed) :
    next.db.runs.find runId = some run := by
  cases step_effect stepped with
  | quiet attempts runs => exact runs.find found
  | started attempt fresh phase attempts db => rw [db, found]
  | moved attempt phase there moves attempts db => rw [db, found]
  | crashed attempt there running attempts db => rw [db, found]
  | committed attempt children there phase attempts db =>
      rw [db]
      change (finalizeRun w.db.runs attempt.runId (aggregate children)).find runId = some run
      rw [find_finalizeRun, found, Option.map_some, if_neg fun both => both.2 completed]

theorem exec_completed {final : RunWorld} (ran : exec step w actions = some final)
    (found : w.db.runs.find runId = some run) (completed : run.status = .completed) :
    final.db.runs.find runId = some run :=
  exec_preserves (fun _ _ _ here stepped => step_completed stepped here completed) found ran

theorem step_run (stepped : step w action = some next)
    (found : (w.db.runs.find runId).isSome = true) : (next.db.runs.find runId).isSome = true := by
  rcases Option.isSome_iff_exists.mp found with ⟨run, there⟩
  cases step_effect stepped with
  | quiet attempts runs => rw [runs.find there, Option.isSome_some]
  | started attempt fresh phase attempts db => rw [db, there, Option.isSome_some]
  | moved attempt phase other moves attempts db => rw [db, there, Option.isSome_some]
  | crashed attempt other running attempts db => rw [db, there, Option.isSome_some]
  | committed attempt children other phase attempts db =>
      rw [db]
      change ((finalizeRun w.db.runs attempt.runId (aggregate children)).find runId).isSome = true
      rw [find_finalizeRun, there, Option.map_some, Option.isSome_some]

/-! ## What an attempt has read -/

def AttemptPhase.children : AttemptPhase -> Option (List Child)
  | .deciding children => some children
  | .updated children => some children
  | .returned children => some children
  | _ => none

/-- Among the actions there is a read by the attempt that found these children. -/
def ReadAt (start : RunWorld) (actions : List Action) (attemptId runId : Nat)
    (children : List Child) : Prop :=
  Exists fun before => Exists fun after => Exists fun middle =>
    actions = before ++ Action.readChildren attemptId :: after ∧
      exec step start before = some middle ∧
      children = childrenOf middle.db.evaluations runId

theorem ReadAt.later {attemptId : Nat} {children : List Child}
    (read : ReadAt start actions attemptId runId children) (action : Action) :
    ReadAt start (actions ++ [action]) attemptId runId children := by
  rcases read with ⟨before, after, middle, split, ran, same⟩
  refine ⟨before, after ++ [action], middle, ?_, ran, same⟩
  rw [split, List.append_assoc]
  rfl

/-- Why an attempt may have returned nothing: the run is completed, or it was not
there, or a child had not ended. -/
inductive EndsFor (start : RunWorld) (actions : List Action) (w : RunWorld) (attempt : Attempt) :
    Prop where
  | completed (run : EvaluationRun) (found : w.db.runs.find attempt.runId = some run)
      (status : run.status = .completed)
  | missing (before after : List Action) (middle : RunWorld) (split : actions = before ++ after)
      (ran : exec step start before = some middle)
      (absent : middle.db.runs.find attempt.runId = none)
  | unfinished (children : List Child)
      (read : ReadAt start actions attempt.id attempt.runId children) (notDone : ¬ AllDone children)

theorem EndsFor.later (ends : EndsFor start actions middle attempt)
    (stepped : step middle action = some next) :
    EndsFor start (actions ++ [action]) next attempt := by
  cases ends with
  | completed run found status =>
      exact .completed run (step_completed stepped found status) status
  | missing before after earlier split ran absent =>
      exact .missing before (after ++ [action]) earlier (by rw [split, List.append_assoc]) ran absent
  | unfinished children read notDone => exact .unfinished children (read.later action) notDone

structure Traced (start : RunWorld) (actions : List Action) (w : RunWorld) (attempt : Attempt) :
    Prop where
  read : forall children, attempt.phase.children = some children ->
    ReadAt start actions attempt.id attempt.runId children
  ends : attempt.phase = .ended -> EndsFor start actions w attempt

theorem Traced.later (traced : Traced start actions middle attempt)
    (stepped : step middle action = some next) :
    Traced start (actions ++ [action]) next attempt where
  read := fun children same => (traced.read children same).later action
  ends := fun ended => (traced.ends ended).later stepped

theorem moves_traced (ran : exec step start actions = some middle)
    (stepped : step middle action = some next)
    (known : attempt.phase ≠ .starting -> (middle.db.runs.find attempt.runId).isSome = true ∨
      attempt.phase = .ended)
    (traced : Traced start actions middle attempt) (moves : Moves middle attempt action phase) :
    Traced start (actions ++ [action]) next (attempt.setPhase phase) := by
  cases moves with
  | runOver starts missing =>
      refine ⟨fun children impossible => (Option.some_ne_none _ impossible.symm).elim, fun _ => ?_⟩
      cases there : middle.db.runs.find attempt.runId with
      | none => exact .missing actions [_] middle rfl ran there
      | some run =>
          by_cases completed : run.status = .completed
          · exact .completed run (step_completed stepped there completed) completed
          · rw [unfinalized_eq_some.mpr ⟨there, completed⟩] at missing
            cases missing
  | runThere run starts there =>
      refine ⟨fun children impossible => (Option.some_ne_none _ impossible.symm).elim, ?_⟩
      exact fun impossible => (AttemptPhase.noConfusion impossible)
  | childrenRead starts =>
      have read : ReadAt start (actions ++ [.readChildren attempt.id]) attempt.id attempt.runId
          (childrenOf middle.db.evaluations attempt.runId) := ⟨actions, [], middle, rfl, ran, rfl⟩
      unfold afterReading
      cases decided : decideFinalization (childrenOf middle.db.evaluations attempt.runId) with
      | none =>
          refine ⟨fun children impossible => (Option.some_ne_none _ impossible.symm).elim, fun _ => ?_⟩
          refine .unfinished _ read fun done => ?_
          rw [decideFinalization_eq_some.mpr ⟨done, rfl⟩] at decided
          cases decided
      | some values =>
          refine ⟨fun children same => ?_, fun impossible => AttemptPhase.noConfusion impossible⟩
          cases same
          exact read
  | runUpdated children starts unlocked =>
      unfold afterUpdate
      cases there : unfinalized middle.db.runs attempt.runId with
      | none =>
          refine ⟨fun children impossible => (Option.some_ne_none _ impossible.symm).elim, fun _ => ?_⟩
          have isThere := known (by rw [starts]; exact AttemptPhase.noConfusion)
          rcases isThere with isThere | impossible
          · rcases Option.isSome_iff_exists.mp isThere with ⟨run, found⟩
            by_cases completed : run.status = .completed
            · exact .completed run (step_completed stepped found completed) completed
            · rw [unfinalized_eq_some.mpr ⟨found, completed⟩] at there
              cases there
          · rw [starts] at impossible
            cases impossible
      | some run =>
          refine ⟨fun others same => ?_, fun impossible => AttemptPhase.noConfusion impossible⟩
          cases same
          exact (traced.read children (by rw [starts]; rfl)).later _

theorem Attempt.Fits.known (fits : attempt.Fits runs) (begun : attempt.phase ≠ .starting) :
    (runs.find attempt.runId).isSome = true ∨ attempt.phase = .ended := by
  unfold Attempt.Fits at fits
  cases phase : attempt.phase with
  | starting => exact absurd phase begun
  | reading =>
      rw [phase] at fits
      exact Or.inl (Option.isSome_iff_exists.mpr fits)
  | deciding children =>
      rw [phase] at fits
      exact Or.inl (Option.isSome_iff_exists.mpr fits.2)
  | updated children =>
      rw [phase] at fits
      rcases fits with ⟨_, run, found, _⟩
      exact Or.inl (Option.isSome_iff_exists.mpr ⟨run, found⟩)
  | returned children =>
      rw [phase] at fits
      rcases fits with ⟨_, run, found, _⟩
      exact Or.inl (Option.isSome_iff_exists.mpr ⟨run, found⟩)
  | ended => exact Or.inr rfl

theorem starting_traced (phase : attempt.phase = .starting) : Traced start actions w attempt where
  read := by
    intro children same
    rw [phase] at same
    cases same
  ends := by
    intro ended
    rw [phase] at ended
    cases ended

theorem exec_traced (sound : Sound start) {id : Nat} (absent : start.attempts.find id = none)
    (ran : exec step start actions = some w) (found : w.attempts.find id = some attempt) :
    Traced start actions w attempt := by
  let explained := fun (actions : List Action) (w : RunWorld) =>
    forall attempt, w.attempts.find id = some attempt -> Traced start actions w attempt
  have all : explained actions w := by
    apply exec_history ?_ ?_ ran
    · intro attempt found
      rw [absent] at found
      cases found
    · intro before action middle next earlier traced stepped attempt looked
      have middleSound : Sound middle :=
        exec_preserves (fun _ _ _ sound stepped => sound.step stepped) sound earlier
      cases step_effect stepped with
      | quiet attempts runs =>
          rw [attempts] at looked
          exact (traced attempt looked).later stepped
      | started other fresh phase attempts db =>
          rw [attempts, find_insert] at looked
          split at looked
          · cases looked
            exact starting_traced phase
          · exact (traced attempt looked).later stepped
      | moved other phase there moves attempts db =>
          rw [attempts] at looked
          rcases find_setPhase_eq_some there looked with ⟨isOther, same⟩ | ⟨_, here⟩
          · rw [same]
            exact moves_traced earlier stepped (middleSound.fits other.id other there).known
              (traced other (isOther ▸ there)) moves
          · exact (traced attempt here).later stepped
      | committed other children there phase attempts db =>
          rw [attempts] at looked
          rcases find_setPhase_eq_some there looked with ⟨isOther, same⟩ | ⟨_, here⟩
          · rw [same]
            refine ⟨fun others isRead => ?_, fun impossible => AttemptPhase.noConfusion impossible⟩
            cases isRead
            exact ((traced other (isOther ▸ there)).read children (by rw [phase]; rfl)).later action
          · exact (traced attempt here).later stepped
      | crashed other there running attempts db =>
          rw [attempts, find_delete] at looked
          split at looked
          · cases looked
          · exact (traced attempt looked).later stepped
  exact all attempt found

/-! ## The guarantee -/

def FindsDone (attempt : Attempt) (w : RunWorld) : Action -> Prop
  | .readChildren attemptId =>
      attemptId = attempt.id -> AllDone (childrenOf w.db.evaluations attempt.runId)
  | _ => True

instance decidableFindsDone (attempt : Attempt) (w : RunWorld) (action : Action) :
    Decidable (FindsDone attempt w action) :=
  match action with
  | .readChildren attemptId => inferInstanceAs (Decidable (attemptId = attempt.id ->
      AllDone (childrenOf w.db.evaluations attempt.runId)))
  | .configure _ | .trigger _ _ _ | .batch _ _ | .batchNext _ _ _ | .child _ | .operate _
  | .finalizeJob _ _ | .sweep _ _ | .sweepNext _ _ | .readRun _ | .update _ | .commit _
  | .crash _ => .isTrue trivial

def Returns (w : RunWorld) (attempt : Attempt) (children : List Child) : Prop :=
  w.attempts.find attempt.id = some attempt ∧ attempt.phase = .returned children

def IsCompleted (w : RunWorld) (runId : Nat) : Prop :=
  Exists fun run => w.db.runs.find runId = some run ∧ run.status = .completed

theorem along_split {guard : RunWorld -> Action -> Prop} {before after : List Action}
    (along : Along step guard start (before ++ action :: after))
    (ran : exec step start before = some middle) : guard middle action := by
  have rest := (along_append along ran).2
  unfold Along at rest
  exact rest.1

/-- An attempt on a run that is there leaves it completed, if it finds that all
children have ended. -/
theorem exec_over (sound : Sound middle) (absent : middle.attempts.find attempt.id = none)
    (there : (middle.db.runs.find attempt.runId).isSome = true)
    (along : Along step (FindsDone attempt) middle actions)
    (ran : exec step middle actions = some w) (found : w.attempts.find attempt.id = some attempt)
    (isOver : attempt.isOver = true) : IsCompleted w attempt.runId := by
  have later : Sound w := exec_preserves (fun _ _ _ sound stepped => sound.step stepped) sound ran
  unfold Attempt.isOver at isOver
  cases phase : attempt.phase with
  | returned children =>
      have fits := later.fits attempt.id attempt found
      unfold Attempt.Fits at fits
      rw [phase] at fits
      rcases fits with ⟨_, run, isRun, carries⟩
      exact ⟨run, isRun, carries.status⟩
  | ended =>
      cases (exec_traced sound absent ran found).ends phase with
      | completed run isRun status => exact ⟨run, isRun, status⟩
      | missing before after earlier split earlierRan missing =>
          have stays : (earlier.db.runs.find attempt.runId).isSome = true :=
            exec_preserves (fun _ _ _ here stepped => step_run stepped here) there earlierRan
          rw [missing] at stays
          cases stays
      | unfinished children read notDone =>
          rcases read with ⟨before, after, earlier, split, earlierRan, same⟩
          rw [split] at along
          rw [same] at notDone
          exact absurd (along_split along earlierRan rfl) notDone
  | _ =>
      rw [phase] at isOver
      cases isOver

/-- The run shows the worst result among the children that have one, and the sums
of their points, where null counts as zero and a zero sum is stored as null. -/
structure Aggregates (run : EvaluationRun) (children : List Child) : Prop where
  worst : forall result, run.result = some result ↔ IsWorst (children.filterMap (·.result)) result
  achieved : run.achievedPoints =
    pointsOrNone (children.map fun child => child.achievedPoints.getD 0).sum
  total : run.totalPoints = pointsOrNone (children.map fun child => child.totalPoints.getD 0).sum

theorem carries_aggregates {children : List Child} (carries : run.Carries (aggregate children)) :
    Aggregates run children where
  worst := by
    intro result
    rw [carries.result]
    exact aggregate_result children result
  achieved := carries.achievedPoints
  total := carries.totalPoints

/-- In every interleaving at most one attempt returns a run.  It has read children
of the run, all of them ended, and the run carries the aggregate of exactly those,
the worst of their results and the sums of their points.  And when an attempt has
run from its start to its end, and all children had ended when it read them, the run
is completed. -/
theorem finalize_exactly_once {start w : RunWorld} {actions : List Action} (initial : start.Initial)
    (ran : exec step start actions = some w) :
    (forall first second firstChildren secondChildren, Returns w first firstChildren ->
      Returns w second secondChildren -> first.runId = second.runId -> first = second) ∧
    (forall attempt children, Returns w attempt children ->
      AllDone children ∧ ReadAt start actions attempt.id attempt.runId children ∧
        Exists fun run => w.db.runs.find attempt.runId = some run ∧
          run.Carries (aggregate children) ∧ Aggregates run children) ∧
    (forall before after middle attempt, actions = before ++ after ->
      exec step start before = some middle -> middle.attempts.find attempt.id = none ->
      (middle.db.runs.find attempt.runId).isSome = true ->
      Along step (FindsDone attempt) middle after ->
      w.attempts.find attempt.id = some attempt -> attempt.isOver = true ->
      IsCompleted w attempt.runId) := by
  have sound := exec_sound initial ran
  refine ⟨?_, ?_, ?_⟩
  · rintro first second firstChildren secondChildren ⟨one, onePhase⟩ ⟨two, twoPhase⟩ sameRun
    have sameId := sound.alone second.runId first.id first second.id second one two
      ⟨sameRun, firstChildren, Or.inr onePhase⟩ ⟨rfl, secondChildren, Or.inr twoPhase⟩
    rw [sameId, two] at one
    exact (Option.some.inj one).symm
  · rintro attempt children ⟨found, phase⟩
    have fits := sound.fits attempt.id attempt found
    unfold Attempt.Fits at fits
    rw [phase] at fits
    have absent : start.attempts.find attempt.id = none := by
      rw [initial.noAttempts, find_empty]
    have traced := exec_traced (initial_sound initial) absent ran found
    rcases fits with ⟨done, run, isRun, carries⟩
    exact ⟨done, traced.read children (by rw [phase]; rfl), run, isRun, carries,
      carries_aggregates carries⟩
  · intro before after middle attempt split earlier absent there along found isOver
    rw [split, exec_append, earlier] at ran
    exact exec_over (exec_sound initial earlier) absent there along ran found isOver

/-! ## Two attempts at once -/

namespace Sample

def pendingRun : EvaluationRun :=
  { id := 7, assetId := 1, evalName := "nightly", periodStart := 0, periodEnd := 3600000000 }

def passedChild (id : Nat) : SLOEvaluation :=
  { id, evaluationId := 7, evaluationName := "nightly", assetId := 1, periodStart := 0,
    periodEnd := 3600000000, result := some .pass, score := some 100, achievedPoints := some 2,
    totalPoints := some 2, sloName := "billing", sloVersion := some 1, status := .completed }

def world : RunWorld :=
  { db :=
      { evaluations := empty.insert (passedChild 70) rfl
        runs := empty.insert pendingRun rfl
        sloDefinitions := .empty
        sliDefinitions := .empty
        dataSources := .empty
        assets := .empty } }

theorem world_initial : world.Initial :=
  ⟨rfl, rfl, rfl⟩

/-- A job and a tick of the sweeper read the children, and then both update. -/
def race : List Action :=
  [.finalizeJob 1 7, .readRun 1, .readChildren 1, .sweep 1 100, .sweepNext 1 2, .readRun 2,
    .readChildren 2, .update 1, .commit 1, .update 2]

end Sample

def Sample.winner : Attempt :=
  { id := 1, runId := 7, phase := .returned [(Sample.passedChild 70).child] }

theorem race_finalizes_once :
    Exists fun w => exec step Sample.world Sample.race = some w ∧
      (forall first second firstChildren secondChildren, Returns w first firstChildren ->
        Returns w second secondChildren -> first.runId = second.runId -> first = second) ∧
      (Exists fun run => w.db.runs.find 7 = some run ∧
        run.Carries (aggregate [(Sample.passedChild 70).child]) ∧
          Aggregates run [(Sample.passedChild 70).child]) ∧
      IsCompleted w 7 := by
  have ran : ((exec step Sample.world Sample.race).bind fun w => w.attempts.find 1) =
      some Sample.winner := by
    decide +kernel
  have along : Along step (FindsDone Sample.winner) Sample.world Sample.race := by
    decide +kernel
  rcases Option.bind_eq_some_iff.mp ran with ⟨w, ran, found⟩
  rcases finalize_exactly_once Sample.world_initial ran with ⟨once, returned, completed⟩
  refine ⟨w, ran, once, (returned Sample.winner _ ⟨found, rfl⟩).2.2, ?_⟩
  exact completed [] Sample.race Sample.world Sample.winner rfl rfl rfl rfl along found rfl

end Finalization
end Tropek
