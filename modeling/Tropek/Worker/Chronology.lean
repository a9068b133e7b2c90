import Tropek.Worker.Snapshots

namespace Tropek
namespace Worker

open Library Engine Store TransitionSystem KeyedTable

/-!
# Chronological baselines

A job looks for an earlier evaluation of its asset and SLO that is still pending
or running, and defers while there is one.  The look, phase 1 and the reading of
the baselines are three transactions, so the question is what can have changed
between the first and the last.

An evaluation that has ended stays as it is, unless a transaction of a late job
or of the watchdog reopens it.  Apart from that, the only earlier evaluation that
can be live when the baselines are read is one that had been running for longer
than the threshold when the job looked: such an evaluation counts as dead, and
the watchdog may have requeued it in between.  When there is none, the baselines
are those that every later state of the database would give as well.
-/

/-- The action adds no evaluation to the series, and its transaction is not about
an evaluation of the series that has ended. -/
def sparesEnded (settings : Settings) (assetId : Nat) (sloName : String) (w : World)
    (action : Action) : Bool :=
  (match action with
    | .trigger _ request =>
        request.contexts.all fun entry => !(entry.2.assetId = assetId && entry.2.sloName = sloName)
    | _ => true) &&
  (match action.write settings w with
    | none => true
    | some write =>
        (w.db.evaluations.find write.evalId).all fun row =>
          !decide (row.SameSeries assetId sloName) || decide row.Live)

section Spares

variable {settings : Settings} {assetId : Nat} {sloName : String} {w next : World}
  {action : Action}

theorem rowAfter_of_ended (spared : sparesEnded settings assetId sloName w action = true)
    {id : Nat} {row : SLOEvaluation} (found : w.db.evaluations.find id = some row)
    (series : row.SameSeries assetId sloName) (ended : ¬ row.Live) :
    rowAfter (action.write settings w) row = row := by
  apply rowAfter_of_ne
  intro write written targeted
  have rowKey : row.id = id := find_key found
  have second := (Bool.and_eq_true_iff.mp spared).2
  rw [written] at second
  simp only [targeted, rowKey, found, Option.all_some, series, ended, decide_true, decide_false,
    Bool.not_true, Bool.or_self, Bool.false_eq_true] at second

theorem not_sameSeries_of_created
    {triggerId : Nat} {request : TriggerRequest} {row : SLOEvaluation}
    (spared : sparesEnded settings assetId sloName w (.trigger triggerId request) = true)
    (created : request.Creates row) : ¬ row.SameSeries assetId sloName := by
  rcases created with ⟨ctx, assetTags, member, rowIs⟩
  have first := (Bool.and_eq_true_iff.mp spared).1
  have other := List.all_eq_true.mp first (row.id, ctx) member
  intro series
  have sameAsset : ctx.assetId = assetId := by
    have here := series.1
    rw [rowIs] at here
    exact here
  have sameName : ctx.sloName = sloName := by
    have here := series.2
    rw [rowIs] at here
    exact here
  simp only [sameAsset, sameName, decide_true, Bool.and_self, Bool.not_true,
    Bool.false_eq_true] at other

end Spares

/-- A running evaluation has been started at some time, and no worker sets a pin. -/
structure Recorded (row : SLOEvaluation) : Prop where
  started : row.status = .running -> row.startedAt ≠ none
  notPinned : row.baselinePinnedAt = none

theorem RowChange.apply_recorded (change : RowChange) {row : SLOEvaluation}
    (recorded : Recorded row) : Recorded (change.apply row) := by
  cases change with
  | running now workerId => exact ⟨fun _ => Option.some_ne_none _, recorded.notPinned⟩
  | failed jobStats => exact ⟨nofun, recorded.notPinned⟩
  | requeued stuckJobRetries => exact ⟨nofun, recorded.notPinned⟩
  | completed values indicatorRows =>
      cases indicatorRows with
      | none => exact ⟨nofun, recorded.notPinned⟩
      | some rows => exact ⟨nofun, recorded.notPinned⟩

def AllRecorded (w : World) : Prop :=
  forall id row, w.db.evaluations.find id = some row -> Recorded row

variable {w : World} {settings : Settings}

theorem AllRecorded.step {next : World} {action : Action} (all : AllRecorded w)
    (stepped : Worker.step settings w action = some next) : AllRecorded next := by
  intro id row found
  rcases step_find_origin stepped found with
    ⟨old, oldFound, same⟩ | ⟨absent, triggerId, request, _, ctx, assetTags, _, same⟩
  · have recorded := all id old oldFound
    rw [same]
    rcases rowAfter_cases (action.write settings w) old with kept | ⟨write, _, _, applied⟩
    · rw [kept]
      exact recorded
    · rw [applied]
      exact write.change.apply_recorded recorded
  · rw [same]
    exact ⟨nofun, rfl⟩

theorem allRecorded_of_reachable (reached : Reachable settings w) : AllRecorded w := by
  refine reachable_preserves (fun start initial id row found => ?_)
    (fun _ _ _ (all : AllRecorded _) stepped => all.step stepped) reached
  rw [initial.noEvaluations, find_empty] at found
  cases found

section Series

variable {settings : Settings} {assetId : Nat} {sloName : String} {periodStart : Instant}
  {w next : World} {action : Action}

def Earlier (assetId : Nat) (sloName : String) (periodStart : Instant) (row : SLOEvaluation) :
    Prop :=
  row.SameSeries assetId sloName ∧ row.periodStart < periodStart

def LiveWithin (assetId : Nat) (sloName : String) (periodStart : Instant) (known : Nat -> Prop)
    (w : World) : Prop :=
  forall id row, w.db.evaluations.find id = some row -> Earlier assetId sloName periodStart row ->
    row.Live -> known id

theorem SameIdentity.earlier {row later : SLOEvaluation} (same : SameIdentity row later) :
    Earlier assetId sloName periodStart later ↔ Earlier assetId sloName periodStart row := by
  unfold Earlier SLOEvaluation.SameSeries
  rw [same.assetId, same.sloName, same.periodStart]

theorem LiveWithin.step {known : Nat -> Prop} (all : AllFit w)
    (within : LiveWithin assetId sloName periodStart known w)
    (spared : sparesEnded settings assetId sloName w action = true)
    (stepped : Worker.step settings w action = some next) :
    LiveWithin assetId sloName periodStart known next := by
  intro id row found earlier live
  rcases step_find_origin stepped found with
    ⟨old, oldFound, same⟩ | ⟨absent, triggerId, request, triggered, created⟩
  · have kept := rowAfter_identity settings action all oldFound
    rw [<- same] at kept
    have oldEarlier := kept.earlier.mp earlier
    by_cases oldLive : old.Live
    · exact within id old oldFound oldEarlier oldLive
    · rw [rowAfter_of_ended spared oldFound oldEarlier.1 oldLive] at same
      rw [same] at live
      exact absurd live oldLive
  · rw [triggered] at spared
    exact absurd earlier.1 (not_sameSeries_of_created spared created)

/-- When no earlier evaluation is live, a query over earlier evaluations gives the
same rows after the step. -/
theorem step_filter {selected : SLOEvaluation -> Bool} (all : AllFit w)
    (ended : LiveWithin assetId sloName periodStart (fun _ => False) w)
    (spared : sparesEnded settings assetId sloName w action = true)
    (stepped : Worker.step settings w action = some next)
    (selects : forall row, selected row = true -> Earlier assetId sloName periodStart row) :
    next.db.evaluations.rows.filter selected = w.db.evaluations.rows.filter selected := by
  rcases step_table stepped with ⟨created, rows, origin⟩
  have noneCreated : created.filter selected = [] := by
    apply List.filter_eq_nil_iff.mpr
    intro row member isSelected
    rcases origin row member with ⟨triggerId, request, triggered, creates⟩
    rw [triggered] at spared
    exact not_sameSeries_of_created spared creates (selects row isSelected).1
  rw [rows, List.filter_append, noneCreated, List.append_nil]
  apply filter_map_of_unchanged
  intro row member
  have found : w.db.evaluations.find row.id = some row := find_of_mem member
  by_cases earlier : Earlier assetId sloName periodStart row
  · have notLive : ¬ row.Live := ended row.id row found earlier
    exact Or.inl (rowAfter_of_ended spared found earlier.1 notLive)
  · have kept := rowAfter_identity settings action all found
    have laterNot : ¬ Earlier assetId sloName periodStart
        (rowAfter (action.write settings w) row) := fun later => earlier (kept.earlier.mp later)
    refine Or.inr ⟨?_, ?_⟩
    · exact Bool.eq_false_iff.mpr fun isSelected => earlier (selects row isSelected)
    · exact Bool.eq_false_iff.mpr fun isSelected => laterNot (selects _ isSelected)

/-- Two worlds in which every query over earlier evaluations gives the same rows. -/
def SameEarlier (assetId : Nat) (sloName : String) (periodStart : Instant) (w later : World) :
    Prop :=
  forall selected : SLOEvaluation -> Bool,
    (forall row, selected row = true -> Earlier assetId sloName periodStart row) ->
      later.db.evaluations.rows.filter selected = w.db.evaluations.rows.filter selected

structure Settled (assetId : Nat) (sloName : String) (periodStart : Instant)
    (known : Nat -> Prop) (w : World) : Prop where
  fit : AllFit w
  recorded : AllRecorded w
  live : LiveWithin assetId sloName periodStart known w

theorem Settled.step {known : Nat -> Prop} (settled : Settled assetId sloName periodStart known w)
    (spared : sparesEnded settings assetId sloName w action = true)
    (stepped : Worker.step settings w action = some next) :
    Settled assetId sloName periodStart known next where
  fit := settled.fit.step stepped
  recorded := settled.recorded.step stepped
  live := settled.live.step settled.fit spared stepped

theorem Settled.exec {known : Nat -> Prop} {actions : List Action}
    (settled : Settled assetId sloName periodStart known w)
    (spared : Along (Worker.step settings)
      (fun w action => sparesEnded settings assetId sloName w action = true) w actions)
    (ran : TransitionSystem.exec (Worker.step settings) w actions = some next) :
    Settled assetId sloName periodStart known next :=
  exec_preserves_along
    (fun _ _ _ (settled : Settled _ _ _ _ _) spared stepped => settled.step spared stepped)
    settled spared ran

theorem AllRecorded.noPin (recorded : AllRecorded w) :
    activePinStart w.db.evaluations assetId sloName = none := by
  apply activePinStart_eq_none
  intro row member
  have notPinned := (recorded row.id row (find_of_mem member)).notPinned
  unfold SLOEvaluation.isPinned
  rw [notPinned]
  rfl

/-- A job that read its baselines in the second world would read the same ones as
in the first. -/
theorem resolveBaselines_of_sameEarlier {snapshot : EvaluationSnapshot} {later : World}
    (same : SameEarlier snapshot.assetId snapshot.sloName snapshot.periodStart w later)
    (recorded : AllRecorded w) (laterRecorded : AllRecorded later) (slo : SLO)
    (evaluationName : String) :
    resolveBaselines later.db.evaluations slo snapshot evaluationName =
      resolveBaselines w.db.evaluations slo snapshot evaluationName := by
  have sameRows : forall limit, getEvaluationBaselines later.db.evaluations snapshot.assetId
      snapshot.sloName snapshot.periodStart slo.comparison.includeResultWithScore limit
      (some evaluationName) =
      getEvaluationBaselines w.db.evaluations snapshot.assetId snapshot.sloName
        snapshot.periodStart slo.comparison.includeResultWithScore limit (some evaluationName) := by
    intro limit
    unfold getEvaluationBaselines
    rw [recorded.noPin, laterRecorded.noPin, same]
    intro row selected
    have base := (Bool.and_eq_true_iff.mp selected).1
    unfold baseBaselineQuery at base
    simp only [Bool.and_eq_true, decide_eq_true_eq] at base
    exact base.1.1.1.1
  unfold resolveBaselines
  rw [sameRows]

end Series

/-- The evaluation has been running for longer than the threshold, so that the
predecessor check does not count it. -/
def StaleAt (settings : Settings) (w : World) (assetId : Nat) (sloName : String)
    (periodStart : Instant) (id : Nat) : Prop :=
  Exists fun row => w.db.evaluations.find id = some row ∧
    Earlier assetId sloName periodStart row ∧ row.status = .running ∧
      startedBefore row (w.now - settings.stuckJobThreshold) = true

theorem liveWithin_of_check {input : PhaseInput} {message : Message} {own : SLOEvaluation}
    (recorded : AllRecorded w) (now : input.now = w.now) (noError : input.checkFails = false)
    (underCap : message.deferCount < maxPredecessorDefers)
    (found : w.db.evaluations.find message.evalId = some own) (live : own.Live)
    (passes : defers settings input message w.db = false) :
    LiveWithin own.assetId own.sloName own.periodStart
      (StaleAt settings w own.assetId own.sloName own.periodStart) w := by
  have noPredecessor : hasPendingPredecessor w.db.evaluations own.assetId own.sloName
      own.periodStart (some (w.now - settings.stuckJobThreshold)) = false := by
    have examined : ¬ (own.status ≠ .pending ∧ own.status ≠ .running) :=
      fun neither => live.elim neither.1 neither.2
    unfold defers pendingPredecessor at passes
    simpa only [underCap, noError, found, if_neg examined, now, decide_true, Bool.not_false,
      Bool.and_true, Bool.true_and] using passes
  intro id row rowFound earlier rowLive
  have notCounted := hasPendingPredecessor_eq_false.mp noPredecessor row
    (find_mem rowFound)
  have facts := not_isPendingPredecessor earlier.1 earlier.2 notCounted
  have running : row.status = .running := rowLive.resolve_left facts.1
  rcases Option.ne_none_iff_exists'.mp ((recorded id row rowFound).started running) with
    ⟨started, startedIs⟩
  refine ⟨row, rowFound, earlier, running, ?_⟩
  unfold startedBefore
  rw [startedIs]
  exact decide_eq_true (facts.2 running started startedIs)

def RowsKept (w later : World) : Prop :=
  forall id row, w.db.evaluations.find id = some row ->
    Exists fun after => later.db.evaluations.find id = some after ∧ SameIdentity row after

theorem rowsKept_exec {next : World} {actions : List Action} (all : AllFit w)
    (ran : exec (step settings) w actions = some next) : RowsKept w next := by
  refine exec_relates_along (fun _ _ row found => ⟨row, found, .refl row⟩)
    (fun first second third earlier later id row found => ?_)
    (fun _ _ _ (all : AllFit _) _ stepped => all.step stepped)
    (fun _ _ _ all _ stepped id row found =>
      ⟨_, step_find stepped found, rowAfter_identity _ _ all found⟩)
    all (along_trivial w actions) ran
  rcases earlier id row found with ⟨middle, middleFound, first⟩
  rcases later id middle middleFound with ⟨last, lastFound, second⟩
  exact ⟨last, lastFound, second.assetId.trans first.assetId, second.sloName.trans first.sloName,
    second.sloVersion.trans first.sloVersion, second.periodStart.trans first.periodStart,
    second.baselinePinnedAt.trans first.baselinePinnedAt⟩

end Worker
end Tropek
