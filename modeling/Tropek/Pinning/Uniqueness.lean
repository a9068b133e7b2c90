import Tropek.Pinning.Transactions

namespace Tropek
namespace Pinning

open Library Engine Store TransitionSystem KeyedTable

/-!
# One active pin for each asset and SLO

A transaction that pins takes off every active pin that its first statement sees.
It misses a pin that another transaction commits after that, and then both stay.
As long as no pin commits between the two statements of another one of the same
asset and SLO, at most one is active.
-/

def PinTransaction.Skips (tx : PinTransaction) (chosen : SLOEvaluation) : Prop :=
  tx.request = .pinBaseline chosen.id ∧ chosen.sloName = ""

instance (tx : PinTransaction) (chosen : SLOEvaluation) : Decidable (tx.Skips chosen) :=
  inferInstanceAs (Decidable (tx.request = .pinBaseline chosen.id ∧ chosen.sloName = ""))

/-- The rows that the first statement has reached include every active pin next to a
chosen evaluation. -/
def Covers (table : Evaluations) (tx : PinTransaction) (evalIds reached : List Nat) : Prop :=
  forall chosen, chosen ∈ table.rows -> chosen.id ∈ evalIds -> ¬ tx.Skips chosen ->
    forall row, row ∈ table.rows -> row.isPinned = true ->
      row.SameSeries chosen.assetId chosen.sloName -> row.id ∈ evalIds ∨ row.id ∈ reached

/-- The evaluations that a transaction pins, from the snapshot of its first statement
on. -/
def PinTransaction.pins (tx : PinTransaction) : List Nat :=
  match tx.phase with
  | .unpinning evalIds _ => evalIds
  | .unpinned evalIds _ => evalIds
  | .written pinned _ => pinned
  | _ => []

/-- The active pins that the first statement has selected, or has taken off. -/
def PinTransaction.reached (tx : PinTransaction) : List Nat :=
  match tx.phase with
  | .unpinning _ targets => targets
  | .unpinned _ taken => taken
  | .written _ taken => taken
  | _ => []

def PinTransaction.Selects (tx : PinTransaction) (table : Evaluations) : Prop :=
  match tx.phase with
  | .selected evalIds => tx.request.isPin = true ->
      Apart table evalIds ∧ forall evalId, tx.request = .pinBaseline evalId -> evalIds = [evalId]
  | .unpinning evalIds _ => tx.request.isPin = true ∧
      forall evalId, tx.request = .pinBaseline evalId -> evalIds = [evalId]
  | _ => True

structure PinTransaction.Fits (tx : PinTransaction) (table : Evaluations) : Prop where
  selects : tx.Selects table
  apart : Apart table tx.pins
  covers : Covers table tx tx.pins tx.reached

/-- The invariant without overlaps: one pin at most for an asset and SLO among the
committed rows, and every transaction fits what its statements have read and written. -/
structure Sound (w : PinWorld) : Prop where
  once : AtMostOnePin w.db
  fits : forall id tx, w.transactions.find id = some tx -> tx.Fits w.db

/-- When a pin commits, no other transaction that pins another evaluation of the asset
and SLO is between its first statement and its end.  And a pin that has left out the
first statement commits only when no other evaluation is actively pinned there. -/
def PinsApart (w : PinWorld) : PinAction -> Prop
  | .commit txId =>
      forall tx, tx ∈ w.transactions.rows -> tx.id = txId ->
        forall ev, ev ∈ w.db.rows -> ev.id ∈ tx.pinned ->
          (forall other, other ∈ w.transactions.rows -> other.id ≠ txId ->
            forall chosen, chosen ∈ w.db.rows -> chosen.id ∈ other.pins ->
              chosen.SameSeries ev.assetId ev.sloName -> chosen.id = ev.id) ∧
          (tx.Skips ev -> forall row, row ∈ w.db.rows -> row.isPinned = true ->
            row.SameSeries ev.assetId ev.sloName -> row.id = ev.id)
  | _ => True

instance (w : PinWorld) : DecidablePred (PinsApart w)
  | .start _ _ _ => isTrue trivial
  | .read _ => isTrue trivial
  | .unpinStart _ => isTrue trivial
  | .unpinEnd _ => isTrue trivial
  | .update _ => isTrue trivial
  | .commit txId =>
      inferInstanceAs (Decidable (forall tx, tx ∈ w.transactions.rows -> tx.id = txId ->
        forall ev, ev ∈ w.db.rows -> ev.id ∈ tx.pinned ->
          (forall other, other ∈ w.transactions.rows -> other.id ≠ txId ->
            forall chosen, chosen ∈ w.db.rows -> chosen.id ∈ other.pins ->
              chosen.SameSeries ev.assetId ev.sloName -> chosen.id = ev.id) ∧
          (tx.Skips ev -> forall row, row ∈ w.db.rows -> row.isPinned = true ->
            row.SameSeries ev.assetId ev.sloName -> row.id = ev.id)))
  | .abort _ => isTrue trivial

inductive Moves (w : PinWorld) (tx : PinTransaction) : PinPhase -> Prop where
  | selected (evalIds : List Nat) (phase : tx.phase = .starting)
      (selects : tx.request.select w.db = some evalIds) : Moves w tx (.selected evalIds)
  | unpinning (evalIds : List Nat) (phase : tx.phase = .selected evalIds)
      (isPin : tx.request.isPin = true) : Moves w tx (.unpinning evalIds (w.toUnpin tx evalIds))
  | unpinned (evalIds targets : List Nat) (phase : tx.phase = .unpinning evalIds targets) :
      Moves w tx (.unpinned evalIds
        ((w.toUnpin tx evalIds).filter fun evalId => targets.contains evalId))
  | unpins (evalIds : List Nat) (phase : tx.phase = .selected evalIds)
      (isUnpin : tx.request.isPin = false) : Moves w tx (.written [] evalIds)
  | pins (evalIds taken : List Nat) (phase : tx.phase = .unpinned evalIds taken) :
      Moves w tx (.written evalIds taken)

inductive Effect (w next : PinWorld) (action : PinAction) : Prop where
  | started (tx : PinTransaction) (fresh : w.transactions.find tx.id = none)
      (phase : tx.phase = .starting) (same : next = { w with transactions := w.transactions.insert tx fresh })
  | closed (txId : Nat) (same : next = { w with transactions := w.transactions.delete txId })
  | moved (tx : PinTransaction) (phase : PinPhase) (found : w.transactions.find tx.id = some tx)
      (moves : Moves w tx phase) (same : next = w.setPhase tx.id phase)
  | committed (tx : PinTransaction) (pinned taken : List Nat)
      (found : w.transactions.find tx.id = some tx) (phase : tx.phase = .written pinned taken)
      (commits : action = .commit tx.id)
      (same : next = { db := commitRows w.db tx, transactions := w.transactions.delete tx.id })

variable {w : PinWorld} {evalIds : List Nat} {table : Evaluations} {tx : PinTransaction}

theorem step_effect {next : PinWorld} {action : PinAction} (stepped : step w action = some next) :
    Effect w next action := by
  cases action with
  | start txId request now =>
      simp only [step] at stepped
      split at stepped
      · rename_i fresh
        exact .started { id := txId, request, now } fresh rfl (Option.some.inj stepped).symm
      · cases stepped
  | read txId =>
      rcases Option.bind_eq_some_iff.mp stepped with ⟨tx, found, stepped⟩
      cases find_key found
      split at stepped
      · rename_i phase
        split at stepped
        · exact .closed tx.id (Option.some.inj stepped).symm
        · rename_i evalIds selects
          exact .moved tx _ found (.selected evalIds phase selects) (Option.some.inj stepped).symm
      · cases stepped
  | unpinStart txId =>
      rcases Option.bind_eq_some_iff.mp stepped with ⟨tx, found, stepped⟩
      cases find_key found
      split at stepped
      · rename_i evalIds phase
        split at stepped
        · rename_i isPin
          exact .moved tx _ found (.unpinning evalIds phase isPin) (Option.some.inj stepped).symm
        · cases stepped
      · cases stepped
  | unpinEnd txId =>
      rcases Option.bind_eq_some_iff.mp stepped with ⟨tx, found, stepped⟩
      cases find_key found
      split at stepped
      · rename_i evalIds targets phase
        split at stepped
        · cases stepped
        · exact .moved tx _ found (.unpinned evalIds targets phase) (Option.some.inj stepped).symm
      · cases stepped
  | update txId =>
      rcases Option.bind_eq_some_iff.mp stepped with ⟨tx, found, stepped⟩
      cases find_key found
      split at stepped
      · rename_i evalIds phase
        split at stepped
        · cases stepped
        · rename_i accepted
          rw [Bool.not_eq_true, Bool.or_eq_false_iff] at accepted
          exact .moved tx _ found (.unpins evalIds phase accepted.1) (Option.some.inj stepped).symm
      · rename_i evalIds taken phase
        split at stepped
        · cases stepped
        · exact .moved tx _ found (.pins evalIds taken phase) (Option.some.inj stepped).symm
      · cases stepped
  | commit txId =>
      rcases Option.bind_eq_some_iff.mp stepped with ⟨tx, found, stepped⟩
      cases find_key found
      split at stepped
      · rename_i pinned taken phase
        exact .committed tx pinned taken found phase rfl (Option.some.inj stepped).symm
      · cases stepped
  | abort txId =>
      rcases Option.bind_eq_some_iff.mp stepped with ⟨tx, found, stepped⟩
      exact .closed txId (Option.some.inj stepped).symm

/-- A single pin chooses one evaluation at all, and a bulk pin one of each asset and
SLO. -/
theorem select_apart {request : PinRequest} (selects : request.select table = some evalIds)
    (isPin : request.isPin = true) :
    Apart table evalIds ∧ forall evalId, request = .pinBaseline evalId -> evalIds = [evalId] := by
  cases request with
  | pinBaseline evalId =>
      unfold PinRequest.select at selects
      dsimp only at selects
      split at selects
      · cases selects
      · split at selects
        · cases selects
          constructor
          · intro first _ second _ firstChosen secondChosen _
            rw [List.mem_singleton.mp firstChosen, List.mem_singleton.mp secondChosen]
          · intro other same
            cases same
            rfl
        · cases selects
  | pinBaselineMany evalIds =>
      unfold PinRequest.select at selects
      dsimp only at selects
      split at selects
      · cases selects
      · rename_i first rest newest
        cases selects
        rw [<- newest]
        exact ⟨newestPerGroup_apart table evalIds, fun _ impossible => PinRequest.noConfusion impossible⟩
  | unpinBaseline evalId => cases isPin
  | unpinBaselineMany evalIds => cases isPin

theorem covers_toUnpin (isPin : tx.request.isPin = true)
    (single : forall evalId, tx.request = .pinBaseline evalId -> evalIds = [evalId]) :
    Covers w.db tx evalIds (w.toUnpin tx evalIds) := by
  intro chosen chosenIn isChosen reached row member pinned series
  right
  rw [mem_toUnpin member]
  cases request : tx.request with
  | pinBaseline evalId =>
      rw [single evalId request, List.mem_singleton] at isChosen
      have named : chosen.sloName ≠ "" := by
        intro empty
        exact reached ⟨by rw [request, isChosen], empty⟩
      unfold PinRequest.takesOff inPinnedSeries
      dsimp only
      rw [<- isChosen, find_of_mem chosenIn]
      simp [named, series, pinned]
  | pinBaselineMany requested =>
      unfold PinRequest.takesOff inAffectedGroup
      dsimp only
      rw [pinned, Bool.and_true, List.any_eq_true]
      exact ⟨chosen, chosenIn, by simp [isChosen, series]⟩
  | unpinBaseline evalId =>
      rw [request] at isPin
      cases isPin
  | unpinBaselineMany requested =>
      rw [request] at isPin
      cases isPin

theorem apart_commitRows (apart : Apart table evalIds) (tx : PinTransaction) :
    Apart (commitRows table tx) evalIds := by
  intro first firstIn second secondIn firstChosen secondChosen series
  rcases mem_commitRows.mp firstIn with ⟨one, oneIn, rfl⟩
  rcases mem_commitRows.mp secondIn with ⟨two, twoIn, rfl⟩
  unfold SLOEvaluation.SameSeries at series
  simp only [PinTransaction.version_id, PinTransaction.version_assetId,
    PinTransaction.version_sloName] at firstChosen secondChosen series ⊢
  exact apart one oneIn two twoIn firstChosen secondChosen series

/-- A transaction keeps what it is sure of when another one commits, unless that one
pins next to a chosen evaluation. -/
theorem Covers.commitRows {table : Evaluations} {tx other : PinTransaction}
    {evalIds reached : List Nat} (covers : Covers table other evalIds reached)
    (away : forall ev, ev ∈ table.rows -> ev.id ∈ tx.pinned -> forall chosen, chosen ∈ table.rows ->
      chosen.id ∈ evalIds -> chosen.SameSeries ev.assetId ev.sloName -> chosen.id = ev.id) :
    Covers (commitRows table tx) other evalIds reached := by
  intro chosen chosenIn isChosen notSkipped row rowIn pinned series
  rcases mem_commitRows.mp chosenIn with ⟨oldChosen, oldChosenIn, rfl⟩
  rcases mem_commitRows.mp rowIn with ⟨old, oldIn, rfl⟩
  unfold SLOEvaluation.SameSeries at series
  unfold PinTransaction.Skips at notSkipped
  simp only [PinTransaction.version_id, PinTransaction.version_assetId,
    PinTransaction.version_sloName] at isChosen notSkipped series ⊢
  rcases (tx.version_isPinned old).mp pinned with fresh | ⟨stays, _⟩
  · have same := away old oldIn fresh oldChosen oldChosenIn isChosen ⟨series.1.symm, series.2.symm⟩
    exact Or.inl (same ▸ isChosen)
  · exact covers oldChosen oldChosenIn isChosen notSkipped old oldIn stays series

theorem atMostOnePin_commitRows (once : AtMostOnePin table) (apart : Apart table tx.pinned)
    (covers : forall chosen, chosen ∈ table.rows -> chosen.id ∈ tx.pinned ->
      forall row, row ∈ table.rows -> row.isPinned = true ->
      row.SameSeries chosen.assetId chosen.sloName -> row.id ∈ tx.pinned ∨ row.id ∈ tx.taken) :
    AtMostOnePin (commitRows table tx) := by
  refine atMostOnePin_of_old (fun row => row.id ∈ tx.pinned) (fun row => row.id ∈ tx.taken) once ?_
    apart covers
  intro row member pinned
  rcases mem_commitRows.mp member with ⟨before, beforeIn, rfl⟩
  exact ⟨before, beforeIn, ⟨tx.version_id before, tx.version_assetId before, tx.version_sloName before⟩,
    (tx.version_isPinned before).mp pinned⟩

theorem fits_of_no_pins (selects : tx.Selects table) (noPins : tx.pins = []) : tx.Fits table where
  selects := selects
  apart := by
    rw [noPins]
    exact fun _ _ _ _ impossible => absurd impossible List.not_mem_nil
  covers := by
    rw [noPins]
    exact fun _ _ impossible => absurd impossible List.not_mem_nil

theorem Moves.fits {w : PinWorld} {tx : PinTransaction} {phase : PinPhase} (moves : Moves w tx phase)
    (fits : tx.Fits w.db) : (tx.setPhase phase).Fits w.db := by
  rcases fits with ⟨selects, apart, covers⟩
  unfold PinTransaction.Selects at selects
  unfold PinTransaction.pins at apart covers
  unfold PinTransaction.reached at covers
  cases moves with
  | selected evalIds phase chosen =>
      exact fits_of_no_pins (fun isPin => select_apart chosen isPin) rfl
  | unpinning evalIds phase isPin =>
      rw [phase] at selects
      rcases selects isPin with ⟨apart, single⟩
      exact ⟨⟨isPin, single⟩, apart, covers_toUnpin isPin single⟩
  | unpinned evalIds targets phase =>
      rw [phase] at selects apart covers
      refine ⟨trivial, apart, ?_⟩
      intro chosen chosenIn isChosen notSkipped row member pinned series
      rcases covers chosen chosenIn isChosen notSkipped row member pinned series with own | target
      · exact Or.inl own
      · rcases covers_toUnpin selects.1 selects.2 chosen chosenIn isChosen notSkipped row member
          pinned series with own | now
        · exact Or.inl own
        · exact Or.inr (List.mem_filter.mpr ⟨now, List.contains_iff_mem.mpr target⟩)
  | unpins evalIds phase isUnpin => exact fits_of_no_pins trivial rfl
  | pins evalIds taken phase =>
      rw [phase] at apart covers
      exact ⟨trivial, apart, covers⟩

theorem Fits.commitRows {table : Evaluations} {tx other : PinTransaction} (fits : other.Fits table)
    (away : forall ev, ev ∈ table.rows -> ev.id ∈ tx.pinned -> forall chosen, chosen ∈ table.rows ->
      chosen.id ∈ other.pins -> chosen.SameSeries ev.assetId ev.sloName -> chosen.id = ev.id) :
    other.Fits (commitRows table tx) where
  selects := by
    have selects := fits.selects
    unfold PinTransaction.Selects at selects ⊢
    cases phase : other.phase with
    | selected evalIds =>
        rw [phase] at selects
        exact fun isPin => ⟨apart_commitRows (selects isPin).1 tx, (selects isPin).2⟩
    | unpinning evalIds targets =>
        rw [phase] at selects
        exact selects
    | _ => trivial
  apart := apart_commitRows fits.apart tx
  covers := fits.covers.commitRows away

theorem Sound.step {next : PinWorld} {action : PinAction} (sound : Sound w)
    (apart : PinsApart w action) (stepped : step w action = some next) : Sound next := by
  cases step_effect stepped with
  | started tx fresh phase same =>
      rw [same]
      refine ⟨sound.once, fun id other found => ?_⟩
      rw [find_insert] at found
      split at found
      · cases found
        exact fits_of_no_pins (by unfold PinTransaction.Selects; rw [phase]; trivial)
          (by unfold PinTransaction.pins; rw [phase])
      · exact sound.fits id other found
  | closed txId same =>
      rw [same]
      refine ⟨sound.once, fun id other found => ?_⟩
      rw [find_delete] at found
      split at found
      · cases found
      · exact sound.fits id other found
  | moved tx phase found moves same =>
      rw [same]
      refine ⟨sound.once, fun id other looked => ?_⟩
      unfold PinWorld.setPhase at looked
      dsimp only at looked
      rw [find_update] at looked
      split at looked
      · rename_i here
        rw [here, found] at looked
        cases looked
        exact moves.fits (sound.fits tx.id tx found)
      · exact sound.fits id other looked
  | committed tx pinned taken found phase commits same =>
      rw [commits] at apart
      have guard := apart tx (find_mem found) rfl
      have fits := sound.fits tx.id tx found
      have pinsAre : tx.pins = tx.pinned := by
        unfold PinTransaction.pins PinTransaction.pinned
        rw [phase]
      have reachedAre : tx.reached = tx.taken := by
        unfold PinTransaction.reached PinTransaction.taken
        rw [phase]
      rw [same]
      constructor
      · refine atMostOnePin_commitRows sound.once (pinsAre ▸ fits.apart) ?_
        intro chosen chosenIn isChosen row member pinned series
        by_cases skipped : tx.Skips chosen
        · have alone := (guard chosen chosenIn isChosen).2 skipped row member pinned series
          exact Or.inl (alone ▸ isChosen)
        · rw [<- pinsAre, <- reachedAre]
          exact fits.covers chosen chosenIn (pinsAre ▸ isChosen) skipped row member pinned series
      · intro id other looked
        rw [find_delete] at looked
        split at looked
        · cases looked
        · rename_i different
          refine Fits.commitRows (sound.fits id other looked) ?_
          intro ev evIn evPinned chosen chosenIn isChosen series
          have otherId : other.id ≠ tx.id := (find_key looked).symm ▸ different
          exact (guard ev evIn evPinned).1 other (find_mem looked) otherId chosen chosenIn
            isChosen series

/-- As long as pins of the same asset and SLO do not commit in between each other's
statements, at most one of them is active in every committed state. -/
theorem one_active_pin {start w : PinWorld} {actions : List PinAction} (initial : start.Initial)
    (once : AtMostOnePin start.db) (along : Along step PinsApart start actions)
    (ran : exec step start actions = some w) :
    AtMostOnePin w.db ∧ forall assetId sloName, getActivePin w.db assetId sloName ≠ none := by
  have sound : Sound start := by
    refine ⟨once, fun id tx found => ?_⟩
    rw [initial, find_empty] at found
    cases found
  have later := exec_preserves_along (fun _ _ _ sound apart stepped => Sound.step sound apart stepped)
    sound along ran
  exact ⟨later.once, getActivePin_of_atMostOne later.once⟩

namespace Sample

def hourly (id : Nat) (periodStart : Instant) : SLOEvaluation :=
  { id, evaluationId := 900 + id, evaluationName := "frontdoor hourly", assetId := 3, periodStart,
    periodEnd := periodStart + 3600000000, result := some .pass, sloName := "frontdoor",
    sloVersion := some 1, status := .completed }

def world : PinWorld :=
  { db := (empty.insert (hourly 10 0) rfl).insert (hourly 11 3600000000) rfl }

def pinning (txId : Nat) : List PinAction :=
  [.read txId, .unpinStart txId, .unpinEnd txId, .update txId]

def crossing : List PinAction :=
  [.start 1 (.pinBaseline 10) 100, .start 2 (.pinBaseline 11) 200] ++ pinning 1 ++ pinning 2 ++
    [.commit 1, .commit 2]

/-- The second transaction starts before the commit of the first one, and takes pins
off after it. -/
def inTurn : List PinAction :=
  [.start 1 (.pinBaseline 10) 100, .start 2 (.pinBaseline 11) 200] ++ pinning 1 ++ [.commit 1] ++
    pinning 2 ++ [.commit 2]

end Sample

theorem pins_in_turn :
    Exists fun w => exec step Sample.world Sample.inTurn = some w ∧ AtMostOnePin w.db ∧
      forall assetId sloName, getActivePin w.db assetId sloName ≠ none := by
  have ran : (exec step Sample.world Sample.inTurn).isSome = true := by decide +kernel
  have along : Along step PinsApart Sample.world Sample.inTurn := by decide +kernel
  have initial : Sample.world.Initial := rfl
  rcases Option.isSome_iff_exists.mp ran with ⟨w, ran⟩
  exact ⟨w, ran, one_active_pin initial (by decide +kernel) along ran⟩

/-- Two pins of different evaluations, neither of which sees the other, both stay, and
the lookup of the active pin raises. -/
theorem crossing_pins_both_stay :
    Exists fun w => Reachable w ∧ AtMostOnePin Sample.world.db ∧
      exec step Sample.world Sample.crossing = some w ∧ ¬ AtMostOnePin w.db ∧
      getActivePin w.db 3 "frontdoor" = none := by
  have ran : (exec step Sample.world Sample.crossing).map (fun w =>
      (decide (AtMostOnePin w.db), getActivePin w.db 3 "frontdoor")) = some (false, none) := by
    decide +kernel
  rcases Option.map_eq_some_iff.mp ran with ⟨w, ran, values⟩
  rcases Prod.mk.inj values with ⟨twice, raised⟩
  exact ⟨w, ⟨Sample.world, Sample.crossing, rfl, ran⟩, by decide +kernel, ran,
    of_decide_eq_false twice, raised⟩

end Pinning
end Tropek
