import Tropek.Finalization.Aggregates
import Tropek.ReEvaluation.Passes

namespace Tropek
namespace Finalization

open Library Engine Store Worker ReEvaluation TransitionSystem KeyedTable

/-!
# A completed run and its children

The aggregate of a run is written once.  An override, a restore, a re-evaluation and
a repeated job write to a child and leave the run.  So a completed run shows what its
children show for as long as nothing writes to them from the moment on when an
attempt has read them.  A failed child has no result and does not count, so that its
error is seen only next to a child whose result is an error.
-/

/-! ## What the children show -/

def Child.shown (child : Child) : Option ResultValue :=
  if child.status = .failed then some .error else child.result

def Child.showing (child : Child) : Option ResultValue × Option Int × Option Int :=
  (Child.shown child, child.achievedPoints, child.totalPoints)

/-- The run shows the worst of what the children show, and the sums of their points.
A sum of zero is stored as null. -/
structure Mirrors (run : EvaluationRun) (children : List Child) : Prop where
  worst : forall result, run.result = some result ↔ IsWorst (children.filterMap Child.shown) result
  achieved : run.achievedPoints =
    pointsOrNone (children.map fun child => child.achievedPoints.getD 0).sum
  total : run.totalPoints = pointsOrNone (children.map fun child => child.totalPoints.getD 0).sum

def FailuresShown (children : List Child) : Prop :=
  (Exists fun child => child ∈ children ∧ child.status = .failed) ->
    Exists fun child => child ∈ children ∧ child.result = some .error

instance (children : List Child) : Decidable (FailuresShown children) :=
  inferInstanceAs (Decidable ((Exists fun child => child ∈ children ∧ child.status = .failed) ->
    Exists fun child => child ∈ children ∧ child.result = some .error))

variable {run : EvaluationRun} {children others : List Child}

theorem isWorst_iff_error {results : List ResultValue} (member : .error ∈ results)
    (result : ResultValue) : IsWorst results result ↔ result = .error := by
  have greatest : forall other : ResultValue, other.rank ≤ ResultValue.error.rank := by
    intro other
    cases other <;> decide
  constructor
  · intro worst
    exact ResultValue.rank_injective (le_antisymm (greatest result) (worst.2 .error member))
  · rintro rfl
    exact ⟨member, fun other _ => greatest other⟩

/-- A run that shows the aggregate of children shows what they show exactly when their
failures are shown. -/
theorem mirrors_iff_failuresShown (aggregates : Aggregates run children) :
    Mirrors run children ↔ FailuresShown children := by
  constructor
  · rintro mirrors ⟨failed, inside, status⟩
    have shown : ResultValue.error ∈ children.filterMap Child.shown :=
      List.mem_filterMap.mpr ⟨failed, inside, if_pos status⟩
    have isError := (mirrors.worst .error).mpr ((isWorst_iff_error shown .error).mpr rfl)
    exact List.mem_filterMap.mp ((aggregates.worst .error).mp isError).1
  · intro failuresShown
    refine ⟨fun result => (aggregates.worst result).trans ?_, aggregates.achieved, aggregates.total⟩
    by_cases failure : Exists fun child => child ∈ children ∧ child.status = .failed
    · have counted : ResultValue.error ∈ children.filterMap (·.result) :=
        List.mem_filterMap.mpr (failuresShown failure)
      rcases failure with ⟨failed, inside, status⟩
      have shown : ResultValue.error ∈ children.filterMap Child.shown :=
        List.mem_filterMap.mpr ⟨failed, inside, if_pos status⟩
      rw [isWorst_iff_error counted, isWorst_iff_error shown]
    · have same : children.filterMap (·.result) = children.filterMap Child.shown :=
        List.filterMap_congr fun child inside =>
          (if_neg fun status => failure ⟨child, inside, status⟩).symm
      rw [same]

theorem Mirrors.of_showing (mirrors : Mirrors run children)
    (same : others.map Child.showing = children.map Child.showing) : Mirrors run others := by
  have shown : others.filterMap Child.shown = children.filterMap Child.shown := by
    simpa only [List.filterMap_map, Function.comp_def, Child.showing] using
      congrArg (List.filterMap Prod.fst) same
  have achieved := congrArg (List.map fun showing => showing.2.1.getD 0) same
  have total := congrArg (List.map fun showing => showing.2.2.getD 0) same
  simp only [List.map_map, Function.comp_def, Child.showing] at achieved total
  refine ⟨fun result => ?_, ?_, ?_⟩
  · rw [shown]
    exact mirrors.worst result
  · rw [achieved]
    exact mirrors.achieved
  · rw [total]
    exact mirrors.total

/-- Rows that belong to the same runs, and show the same where they belong to this
one. -/
theorem childrenOf_showing {first second : Evaluations} {runId : Nat}
    (rowByRow : List.Forall₂ (fun before after : SLOEvaluation =>
      after.evaluationId = before.evaluationId ∧ (before.evaluationId = runId ->
        Child.showing after.child = Child.showing before.child)) first.rows second.rows) :
    (childrenOf second runId).map Child.showing = (childrenOf first runId).map Child.showing := by
  unfold childrenOf
  generalize first.rows = rows at rowByRow
  generalize second.rows = laterRows at rowByRow
  induction rowByRow with
  | nil => rfl
  | @cons before after rows laterRows here _ ih =>
      by_cases inside : before.evaluationId = runId
      · rw [List.filter_cons_of_pos (by rw [here.1, inside]; simp),
          List.filter_cons_of_pos (by rw [inside]; simp)]
        simp only [List.map_cons, here.2 inside, ih]
      · rw [List.filter_cons_of_neg (by rw [here.1]; simpa using inside),
          List.filter_cons_of_neg (by simpa using inside), ih]

/-! ## Who writes to a child -/

def requestedEvaluations (assigned : Nat -> List String) (request : ReEvaluateRequest)
    (db : Database) : List SLOEvaluation :=
  match db.assets.rows.find? (·.name = request.assetName) with
  | none => []
  | some asset =>
      match requestedSlos assigned request asset.id with
      | .error _ => []
      | .ok names => names.flatMap fun name =>
          match resolveWindow request db asset.id name with
          | .error _ => []
          | .ok window => window.evaluations db.evaluations

def writesResult (db : Database) (row : SLOEvaluation) : Maintenance.Operation -> Bool
  | .reEvaluate assigned _ request =>
      !request.dryRun && (requestedEvaluations assigned request db).any (·.id = row.id)
  | .overrideStatus evalId newResult _ _ =>
      row.id = evalId && row.result ≠ some (.ofOutcome newResult)
  | .restoreOverride evalId =>
      row.id = evalId && row.originalResult.isSome && row.result ≠ row.originalResult
  | .overrideStatusMany evalIds newResult _ _ =>
      evalIds.contains row.id && row.status = .completed && row.result ≠ some (.ofOutcome newResult)
  | .restoreOverrideMany evalIds =>
      evalIds.contains row.id && row.originalResult.isSome && row.result ≠ row.originalResult
  | _ => false

/-- Two versions of a row, which show the same unless something writes to it. -/
def ShowsUnless (writes : SLOEvaluation -> Bool) (before after : SLOEvaluation) : Prop :=
  after.evaluationId = before.evaluationId ∧
    (writes before = false -> Child.showing after.child = Child.showing before.child)

theorem showsUnless_same (writes : SLOEvaluation -> Bool) (rows : List SLOEvaluation) :
    List.Forall₂ (ShowsUnless writes) rows rows :=
  List.forall₂_same.mpr fun _ _ => ⟨rfl, fun _ => rfl⟩

variable {writes : SLOEvaluation -> Bool} {db : Database} {operation : Maintenance.Operation}
  {attempt : Attempt}

theorem updateWhere_showsUnless (table : Evaluations) (condition : SLOEvaluation -> Bool)
    (change : SLOEvaluation -> SLOEvaluation) (keeps : forall row, (change row).id = row.id)
    (changed : forall row, condition row = true -> ShowsUnless writes row (change row)) :
    List.Forall₂ (ShowsUnless writes) table.rows (table.updateWhere condition change keeps).rows :=
  table.updateWhere_related condition change keeps (fun row _ => changed row)
    fun _ _ _ => ⟨rfl, fun _ => rfl⟩

theorem updateWhere_sameChild (table : Evaluations) (condition : SLOEvaluation -> Bool)
    (change : SLOEvaluation -> SLOEvaluation) (keeps : forall row, (change row).id = row.id)
    (same : forall row, (change row).evaluationId = row.evaluationId ∧
      (change row).child = row.child) :
    List.Forall₂ (ShowsUnless writes) table.rows (table.updateWhere condition change keeps).rows :=
  updateWhere_showsUnless table condition change keeps fun row _ =>
    ⟨(same row).1, fun _ => congrArg Child.showing (same row).2⟩

theorem pins_sameChild (table : Evaluations) (unpins pins : SLOEvaluation -> Bool) (now : Instant) :
    List.Forall₂ (ShowsUnless writes) table.rows
      (pinWhere (unpinWhere table unpins now) pins now).rows := by
  have unpinned : List.Forall₂ (ShowsUnless fun _ => false) table.rows
      (unpinWhere table unpins now).rows :=
    updateWhere_sameChild table _ _ (SLOEvaluation.setUnpinned_id now) fun _ => ⟨rfl, rfl⟩
  have pinned : List.Forall₂ (ShowsUnless fun _ => false) (unpinWhere table unpins now).rows
      (pinWhere (unpinWhere table unpins now) pins now).rows :=
    updateWhere_sameChild _ _ _ (SLOEvaluation.setPinned_id now) fun _ => ⟨rfl, rfl⟩
  refine (related_trans ?_ unpinned pinned).imp fun _ _ here => ⟨here.1, fun _ => here.2 rfl⟩
  exact fun _ _ _ one two => ⟨two.1.trans one.1, fun quiet => (two.2 rfl).trans (one.2 quiet)⟩

theorem showing_setResult {row after : SLOEvaluation} {result : Option ResultValue}
    (same : after.child = { row.child with result }) (already : row.result = result) :
    Child.showing after.child = Child.showing row.child := by
  rw [same, <- already]
  rfl

theorem onTable_showsUnless {next : Evaluations}
    (ran : operation.onTable db.evaluations = some next) :
    List.Forall₂ (ShowsUnless fun row => writesResult db row operation) db.evaluations.rows
      next.rows := by
  cases operation with
  | createSlo body firstId => cases ran
  | reEvaluate assigned clock request => cases ran
  | overrideStatus evalId newResult reason author =>
      rw [Maintenance.overrideStatus_onTable ran]
      refine updateWhere_showsUnless _ _ _ (SLOEvaluation.setOverridden_id _ reason author)
        fun row selected => ⟨rfl, fun quiet => ?_⟩
      simp only [writesResult, selected, Bool.true_and, decide_eq_false_iff_not, not_not] at quiet
      exact showing_setResult rfl quiet
  | restoreOverride evalId =>
      rw [Maintenance.restoreOverride_onTable ran]
      refine updateWhere_showsUnless _ _ _ SLOEvaluation.setRestored_id
        fun row selected => ⟨rfl, fun quiet => ?_⟩
      simp only [writesResult, selected, Bool.true_and, decide_eq_false_iff_not, not_not] at quiet
      exact showing_setResult rfl quiet
  | overrideStatusMany evalIds newResult reason author =>
      cases ran
      refine updateWhere_showsUnless _ _ _ (SLOEvaluation.setOverridden_id _ reason author)
        fun row selected => ⟨rfl, fun quiet => ?_⟩
      simp only [writesResult, selected, Bool.true_and, decide_eq_false_iff_not, not_not] at quiet
      exact showing_setResult rfl quiet
  | restoreOverrideMany evalIds =>
      cases ran
      refine updateWhere_showsUnless _ _ _ SLOEvaluation.setRestored_id
        fun row selected => ⟨rfl, fun quiet => ?_⟩
      simp only [writesResult, selected, Bool.true_and, decide_eq_false_iff_not, not_not] at quiet
      exact showing_setResult rfl quiet
  | invalidate evalId =>
      rcases Option.map_eq_some_iff.mp ran with ⟨_, _, rfl⟩
      exact updateWhere_sameChild _ _ _ (SLOEvaluation.setInvalidated_id true) fun _ => ⟨rfl, rfl⟩
  | restore evalId =>
      rcases Option.map_eq_some_iff.mp ran with ⟨_, _, rfl⟩
      exact updateWhere_sameChild _ _ _ (SLOEvaluation.setInvalidated_id false) fun _ => ⟨rfl, rfl⟩
  | invalidateMany evalIds =>
      cases ran
      exact updateWhere_sameChild _ _ _ (SLOEvaluation.setInvalidated_id true) fun _ => ⟨rfl, rfl⟩
  | restoreMany evalIds =>
      cases ran
      exact updateWhere_sameChild _ _ _ (SLOEvaluation.setInvalidated_id false) fun _ => ⟨rfl, rfl⟩
  | pinBaseline evalId now =>
      rcases Maintenance.pinBaseline_onTable ran with ⟨ev, _, _, rfl⟩
      exact pins_sameChild _ _ _ now
  | unpinBaseline evalId now =>
      rcases Option.map_eq_some_iff.mp ran with ⟨_, _, rfl⟩
      exact updateWhere_sameChild _ _ _ (SLOEvaluation.setUnpinned_id now) fun _ => ⟨rfl, rfl⟩
  | pinBaselineMany evalIds now =>
      cases ran
      exact pins_sameChild _ _ _ now
  | unpinBaselineMany evalIds now =>
      cases ran
      exact updateWhere_sameChild _ _ _ (SLOEvaluation.setUnpinned_id now) fun _ => ⟨rfl, rfl⟩

theorem reEvaluate_showsUnless {assigned : Nat -> List String} {clock : Nat -> Instant}
    {next : Database} {request : ReEvaluateRequest} {response : ReEvaluateResponse}
    (ran : reEvaluate assigned clock db request = .ok (next, response)) :
    List.Forall₂ (ShowsUnless fun row => writesResult db row (.reEvaluate assigned clock request))
      db.evaluations.rows next.evaluations.rows := by
  have rewrites := (reEvaluate_rewrites ran).2
  rcases reEvaluate_eq_ok.mp ran with ⟨asset, names, found, assetFound, requested, looped, _⟩
  cases dry : request.dryRun with
  | true =>
      have isDry : { request with dryRun := true } = request := by rw [<- dry]
      rw [<- isDry] at looped
      rw [reEvaluateSlos_dry looped]
      exact showsUnless_same _ _
  | false =>
      refine (Latest.related_with_members rewrites).imp ?_
      rintro before after ⟨stored, later, rewritten⟩
      refine ⟨rewritten.keepsPoints.evaluationId, fun quiet => ?_⟩
      have outside : before.id ∉ (allResults found).map (·.id) := by
        intro reported
        rcases reEvaluateSlos_reported looped reported with ⟨name, member, window, resolved, inside⟩
        rcases List.mem_map.mp inside with ⟨row, isRow, sameId⟩
        have requestedRow : row ∈ requestedEvaluations assigned request db := by
          unfold requestedEvaluations
          rw [assetFound]
          dsimp only
          rw [requested]
          refine List.mem_flatMap.mpr ⟨name, member, ?_⟩
          rw [resolved]
          exact isRow
        have writes : writesResult db before (.reEvaluate assigned clock request) = true := by
          change (!request.dryRun && _) = true
          rw [dry]
          exact List.any_eq_true.mpr ⟨row, requestedRow, decide_eq_true sameId⟩
        have impossible : true = false := writes.symm.trans quiet
        cases impossible
      have kept := reEvaluateSlos_keeps dry looped outside
      rw [find_of_mem stored, <- rewritten.history.id, find_of_mem later] at kept
      rw [Option.some.inj kept]

theorem operate_showsUnless {next : Database} (stepped : Maintenance.step db operation = some next) :
    List.Forall₂ (ShowsUnless fun row => writesResult db row operation) db.evaluations.rows
      next.evaluations.rows := by
  rcases Maintenance.step_cases stepped with
    ⟨body, firstId, _, created⟩ | ⟨assigned, clock, request, response, same, ran⟩ |
      ⟨evaluations, onTable, same⟩
  · rw [Maintenance.createSloDefinition_evaluations created]
    exact showsUnless_same _ _
  · rw [same]
    exact reEvaluate_showsUnless ran
  · rw [same]
    exact onTable_showsUnless onTable

/-! ## What a step does to the children of a run -/

/-- The run is completed, or an attempt goes on with children that it has read. -/
def RunWorld.isRead (w : RunWorld) (runId : Nat) : Bool :=
  (w.db.runs.find runId).any (fun run => run.status = .completed) ||
    w.attempts.rows.any fun attempt => attempt.runId = runId && attempt.phase.children.isSome

/-- Nothing writes to a child of the run once its children have been read.  And where
they are read, their failures are shown. -/
def SparesChildren (runId : Nat) (w : RunWorld) : Action -> Prop
  | .child write => w.isRead runId = true -> forall row, row ∈ w.db.evaluations.rows ->
      row.evaluationId = runId -> row.id = write.evalId ->
        Child.showing (write.change.apply row).child = Child.showing row.child
  | .operate operation => w.isRead runId = true -> forall row, row ∈ w.db.evaluations.rows ->
      row.evaluationId = runId -> writesResult w.db row operation = false
  | .readChildren attemptId => forall attempt, attempt ∈ w.attempts.rows ->
      attempt.id = attemptId -> attempt.runId = runId ->
        FailuresShown (childrenOf w.db.evaluations runId)
  | _ => True

instance decidableSparesChildren (runId : Nat) (w : RunWorld) (action : Action) :
    Decidable (SparesChildren runId w action) :=
  match action with
  | .child write => inferInstanceAs (Decidable (w.isRead runId = true ->
      forall row, row ∈ w.db.evaluations.rows -> row.evaluationId = runId ->
        row.id = write.evalId -> Child.showing (write.change.apply row).child =
          Child.showing row.child))
  | .operate operation => inferInstanceAs (Decidable (w.isRead runId = true ->
      forall row, row ∈ w.db.evaluations.rows -> row.evaluationId = runId ->
        writesResult w.db row operation = false))
  | .readChildren attemptId => inferInstanceAs (Decidable (forall attempt,
      attempt ∈ w.attempts.rows -> attempt.id = attemptId -> attempt.runId = runId ->
        FailuresShown (childrenOf w.db.evaluations runId)))
  | .configure _ | .trigger _ _ _ | .batch _ _ | .batchNext _ _ _ | .finalizeJob _ _ | .sweep _ _
  | .sweepNext _ _ | .readRun _ | .update _ | .commit _ | .crash _ => .isTrue trivial

variable {w next : RunWorld} {action : Action} {runId : Nat}

/-- To the evaluations a step does one of four things: nothing, a transaction on a
child, an operation, or the addition of the children of a new run. -/
theorem step_evaluations (stepped : step w action = some next) :
    next.db.evaluations = w.db.evaluations ∨
      (Exists fun write => action = .child write ∧
        next.db.evaluations = applyWrite (some write) w.db.evaluations) ∨
      (Exists fun operation => action = .operate operation ∧
        Maintenance.step w.db operation = some next.db) ∨
      (Exists fun created : List SLOEvaluation => Exists fun newRun =>
        w.db.runs.find newRun = none ∧
          next.db.evaluations.rows = w.db.evaluations.rows ++ created ∧
          forall row, row ∈ created -> row.evaluationId = newRun) := by
  have triggers : forall {request newRun newId db ids},
      triggerEvaluate w.db w.assignments request newRun newId = .ok (db, ids) ->
        Exists fun created : List SLOEvaluation => Exists fun newRun =>
          w.db.runs.find newRun = none ∧ db.evaluations.rows = w.db.evaluations.rows ++ created ∧
            forall row, row ∈ created -> row.evaluationId = newRun := by
    intro request newRun newId db ids triggered
    rcases triggerEvaluate_eq_ok triggered with ⟨_, resolved, _, _, _, committed, _⟩
    rcases committed.evaluations with ⟨created, rows, _, belong⟩
    exact ⟨created, resolved.runId, committed.fresh, rows, fun row inside => (belong row inside).1⟩
  cases action with
  | configure registry =>
      cases stepped
      exact Or.inl rfl
  | trigger request newRun newId =>
      rcases Option.bind_eq_some_iff.mp stepped with ⟨⟨db, ids⟩, triggered, same⟩
      cases same
      exact Or.inr (Or.inr (Or.inr (triggers (Fallible.toOption_eq_some.mp triggered))))
  | batch batchId request =>
      rcases Option.bind_eq_some_iff.mp stepped with ⟨remaining, _, stepped⟩
      dsimp only at stepped
      split at stepped <;> cases stepped
      exact Or.inl rfl
  | batchNext batchId newRun newId =>
      rcases Option.bind_eq_some_iff.mp stepped with ⟨batch, _, stepped⟩
      split at stepped
      · cases stepped
      · rename_i request rest _
        cases stepped
        unfold RunWorld.batchTrigger
        cases triggered : triggerEvaluate w.db w.assignments request newRun newId with
        | error failure => exact Or.inl rfl
        | ok result => exact Or.inr (Or.inr (Or.inr (triggers triggered)))
  | child write =>
      cases stepped
      exact Or.inr (Or.inl ⟨write, rfl, rfl⟩)
  | operate operation =>
      rcases Option.bind_eq_some_iff.mp stepped with ⟨db, operated, same⟩
      cases same
      exact Or.inr (Or.inr (Or.inl ⟨operation, rfl, operated⟩))
  | finalizeJob attemptId newRun =>
      rcases start_eq_some stepped with ⟨fresh, same⟩
      exact Or.inl (by rw [same])
  | sweep sweepId limit =>
      simp only [step] at stepped
      split at stepped <;> cases stepped
      exact Or.inl rfl
  | sweepNext sweepId attemptId =>
      rcases Option.bind_eq_some_iff.mp stepped with ⟨sweep, _, stepped⟩
      split at stepped
      · cases stepped
      · rcases start_eq_some stepped with ⟨fresh, same⟩
        exact Or.inl (by rw [same])
  | readRun attemptId =>
      rcases Option.bind_eq_some_iff.mp stepped with ⟨attempt, _, stepped⟩
      split at stepped
      · split at stepped <;> cases stepped <;> exact Or.inl rfl
      · cases stepped
  | readChildren attemptId =>
      rcases Option.bind_eq_some_iff.mp stepped with ⟨attempt, _, stepped⟩
      split at stepped <;> cases stepped
      exact Or.inl rfl
  | update attemptId =>
      rcases Option.bind_eq_some_iff.mp stepped with ⟨attempt, _, stepped⟩
      split at stepped
      · split at stepped <;> cases stepped
        exact Or.inl rfl
      · cases stepped
  | commit attemptId =>
      rcases Option.bind_eq_some_iff.mp stepped with ⟨attempt, _, stepped⟩
      split at stepped <;> cases stepped
      exact Or.inl rfl
  | crash attemptId =>
      rcases Option.bind_eq_some_iff.mp stepped with ⟨attempt, _, stepped⟩
      split at stepped <;> cases stepped
      exact Or.inl rfl

theorem applyWrite_showsUnless (write : Write) (table : Evaluations) (runId : Nat)
    (spares : forall row, row ∈ table.rows -> row.evaluationId = runId -> row.id = write.evalId ->
      Child.showing (write.change.apply row).child = Child.showing row.child) :
    List.Forall₂ (fun before after : SLOEvaluation => after.evaluationId = before.evaluationId ∧
      (before.evaluationId = runId -> Child.showing after.child = Child.showing before.child))
      table.rows (applyWrite (some write) table).rows := by
  rw [applyWrite_rows, List.forall₂_map_right_iff, List.forall₂_same]
  intro row stored
  rcases rowAfter_cases (some write) row with same | ⟨target, isTarget, targeted, same⟩
  · rw [same]
    exact ⟨rfl, fun _ => rfl⟩
  · cases isTarget
    rw [same]
    refine ⟨?_, fun inside => spares row stored inside targeted⟩
    cases write.change with
    | completed values indicatorRows => cases indicatorRows <;> rfl
    | _ => rfl

/-- A step that spares the children of a run leaves what they show, once they have been
read. -/
theorem step_showing (stepped : step w action = some next) (spares : SparesChildren runId w action)
    (there : w.db.runs.find runId ≠ none) (isRead : w.isRead runId = true) :
    (childrenOf next.db.evaluations runId).map Child.showing =
      (childrenOf w.db.evaluations runId).map Child.showing := by
  rcases step_evaluations stepped with
    same | ⟨write, rfl, same⟩ | ⟨operation, rfl, operated⟩ | ⟨created, newRun, fresh, rows, belong⟩
  · rw [same]
  · rw [same]
    exact childrenOf_showing (applyWrite_showsUnless write _ runId (spares isRead))
  · refine childrenOf_showing ((Latest.related_with_members (operate_showsUnless operated)).imp ?_)
    rintro before after ⟨stored, _, sameRun, shows⟩
    exact ⟨sameRun, fun inside => shows (spares isRead before stored inside)⟩
  · have different : newRun ≠ runId := fun same => there (same ▸ fresh)
    have none : created.filter (fun row => decide (row.evaluationId = runId)) = [] := by
      rw [List.filter_eq_nil_iff]
      intro row inside
      rw [belong row inside, decide_eq_true_eq]
      exact different
    unfold childrenOf
    rw [rows, List.filter_append, none, List.append_nil]

/-! ## Along a run -/

/-- An attempt has read what the children show, and their failures were shown. -/
def HasRead (table : Evaluations) (runId : Nat) (children : List Child) : Prop :=
  (childrenOf table runId).map Child.showing = children.map Child.showing ∧
    FailuresShown children

/-- The attempts that go on with children of the run have read what its children show,
and once it is completed, the run shows it. -/
structure RunFollows (w : RunWorld) (runId : Nat) : Prop where
  read : forall id attempt children, w.attempts.find id = some attempt -> attempt.runId = runId ->
    attempt.phase.children = some children -> HasRead w.db.evaluations runId children
  completed : forall run, w.db.runs.find runId = some run -> run.status = .completed ->
    Mirrors run (childrenOf w.db.evaluations runId)

theorem isRead_of_children {id : Nat} (found : w.attempts.find id = some attempt)
    (sameRun : attempt.runId = runId) (reads : attempt.phase.children = some children) :
    w.isRead runId = true := by
  unfold RunWorld.isRead
  rw [Bool.or_eq_true, List.any_eq_true]
  refine Or.inr ⟨attempt, find_mem found, ?_⟩
  rw [sameRun, reads]
  simp

theorem isRead_of_completed (found : w.db.runs.find runId = some run)
    (completed : run.status = .completed) : w.isRead runId = true := by
  unfold RunWorld.isRead
  rw [found, Option.any_some, completed]
  rfl

theorem Sound.run_found (sound : Sound w) {id : Nat} (found : w.attempts.find id = some attempt)
    (reads : attempt.phase.children = some children) : w.db.runs.find attempt.runId ≠ none := by
  have known := (sound.fits id attempt found).known fun starting => by
    rw [starting] at reads
    cases reads
  rcases known with there | ended
  · exact Option.isSome_iff_ne_none.mp there
  · rw [ended] at reads
    cases reads

/-- One statement of an attempt leaves it with children that it had, or with those
that it has just read. -/
theorem moves_read {phase : AttemptPhase} (found : w.attempts.find attempt.id = some attempt)
    (moves : Moves w attempt action phase) (spares : SparesChildren attempt.runId w action)
    (before : forall children, attempt.phase.children = some children ->
      HasRead w.db.evaluations attempt.runId children)
    (reads : phase.children = some children) : HasRead w.db.evaluations attempt.runId children := by
  cases moves with
  | runOver starts missing => cases reads
  | runThere run starts there => cases reads
  | childrenRead starts =>
      unfold afterReading at reads
      split at reads <;> cases reads
      exact ⟨rfl, spares attempt (find_mem found) rfl rfl⟩
  | runUpdated others starts unlocked =>
      unfold afterUpdate at reads
      split at reads <;> cases reads
      exact before children (by rw [starts]; rfl)

theorem RunFollows.step (sound : Sound w) (follows : RunFollows w runId)
    (spares : SparesChildren runId w action) (stepped : step w action = some next) :
    RunFollows next runId := by
  have kept := step_showing stepped spares
  cases step_effect stepped with
  | quiet attempts runs =>
      refine ⟨fun id attempt children found sameRun reads => ?_, fun run found completed => ?_⟩
      · rw [attempts] at found
        have read := follows.read id attempt children found sameRun reads
        have there := sound.run_found found reads
        rw [sameRun] at there
        exact ⟨(kept there (isRead_of_children found sameRun reads)).trans read.1, read.2⟩
      · rcases runs.find_back found with old | pending
        · refine (follows.completed run old completed).of_showing (kept ?_ ?_)
          · rw [old]
            exact Option.some_ne_none run
          · exact isRead_of_completed old completed
        · rw [pending] at completed
          cases completed
  | started attempt fresh phase attempts db =>
      refine ⟨fun id other children found sameRun reads => ?_, ?_⟩
      · rw [attempts, find_insert] at found
        rw [db]
        split at found
        · cases found
          rw [phase] at reads
          cases reads
        · exact follows.read id other children found sameRun reads
      · rw [db]
        exact follows.completed
  | moved attempt phase there moves attempts db =>
      refine ⟨fun id other children found sameRun reads => ?_, ?_⟩
      · rw [attempts] at found
        rw [db]
        rcases find_setPhase_eq_some there found with ⟨_, rfl⟩ | ⟨_, here⟩
        · have same : attempt.runId = runId := sameRun
          subst same
          exact moves_read there moves spares
            (fun others => follows.read attempt.id attempt others there rfl) reads
        · exact follows.read id other children here sameRun reads
      · rw [db]
        exact follows.completed
  | committed attempt children there phase attempts db =>
      have read := fun sameRun => follows.read attempt.id attempt children there sameRun
        (by rw [phase]; rfl)
      refine ⟨fun id other others found sameRun reads => ?_, fun run found completed => ?_⟩
      · rw [attempts] at found
        rw [db]
        rcases find_setPhase_eq_some there found with ⟨_, rfl⟩ | ⟨_, here⟩
        · cases reads
          exact read sameRun
        · exact follows.read id other others here sameRun reads
      · rw [db] at found ⊢
        change (finalizeRun w.db.runs attempt.runId (aggregate children)).find runId = some run at found
        by_cases sameRun : attempt.runId = runId
        · cases sameRun
          rcases find_finalizeRun_held (sound.fits attempt.id attempt there) phase with
            ⟨held, isHeld, carries⟩
          cases Option.some.inj (found.symm.trans isHeld)
          have mirrors := (mirrors_iff_failuresShown (carries_aggregates carries)).mpr (read rfl).2
          exact mirrors.of_showing (read rfl).1
        · rw [find_finalizeRun_of_ne (Ne.symm sameRun)] at found
          exact follows.completed run found completed
  | crashed attempt there running attempts db =>
      refine ⟨fun id other children found sameRun reads => ?_, ?_⟩
      · rw [attempts, find_delete] at found
        rw [db]
        split at found
        · cases found
        · exact follows.read id other children found sameRun reads
      · rw [db]
        exact follows.completed

/-- A run that has become completed shows the aggregate of the children that the
completing attempt had read, all of them ended, and no later action changes it.  When
nothing has written to its children since they were read, and their failures were
shown, it shows what they show. -/
theorem completed_run_aggregates {start : RunWorld} {actions : List Action}
    (initial : start.Initial) (ran : exec step start actions = some w)
    (unfinished : ¬ IsCompleted start runId) (found : w.db.runs.find runId = some run)
    (completed : run.status = .completed) :
    (Exists fun attemptId => Exists fun children =>
      ReadAt start actions attemptId runId children ∧ AllDone children ∧ Aggregates run children) ∧
    (forall later final, exec step w later = some final -> final.db.runs.find runId = some run) ∧
    (Along step (SparesChildren runId) start actions ->
      Mirrors run (childrenOf w.db.evaluations runId)) := by
  refine ⟨?_, fun later final further => exec_completed further found completed, fun spares => ?_⟩
  · rcases completed_was_read initial ran unfinished ⟨run, found, completed⟩ with
      ⟨attemptId, children, read, done, other, isOther, carries⟩
    cases Option.some.inj (found.symm.trans isOther)
    exact ⟨attemptId, children, read, done, carries_aggregates carries⟩
  · have begun : Sound start ∧ RunFollows start runId := by
      refine ⟨initial_sound initial, fun id attempt children there => ?_, fun other isRun ended => ?_⟩
      · rw [initial.noAttempts, find_empty] at there
        cases there
      · exact absurd ⟨other, isRun, ended⟩ unfinished
    have preserves : forall middle action next, Sound middle ∧ RunFollows middle runId ->
        SparesChildren runId middle action -> step middle action = some next ->
          Sound next ∧ RunFollows next runId := fun _ _ _ holds spared stepped =>
      ⟨holds.1.step stepped, holds.2.step holds.1 spared stepped⟩
    exact (exec_preserves_along preserves begun spares ran).2.completed run found completed

/-! ## An override, and a failed child -/

namespace Sample

def familyOf (second : SLOEvaluation) (fresh : world.db.evaluations.find second.id = none) :
    RunWorld :=
  { world with db := { world.db with evaluations := world.db.evaluations.insert second fresh } }

def warningChild : SLOEvaluation :=
  { passedChild 71 with sloName := "shipping", result := some .warning, score := some 75,
                        achievedPoints := some 1 }

def failedChild : SLOEvaluation :=
  { passedChild 71 with sloName := "shipping", result := none, score := none,
                        achievedPoints := none, totalPoints := none, status := .failed }

def family : RunWorld :=
  familyOf warningChild rfl

def failedFamily : RunWorld :=
  familyOf failedChild rfl

def finalization : List Action :=
  [.finalizeJob 1 7, .readRun 1, .readChildren 1, .update 1, .commit 1]

def overridden : Action :=
  .operate (.overrideStatus 70 .fail "degraded for users" "operator")

/-- The override comes before the children are read, and what comes later changes no
result. -/
def overriddenBefore : List Action :=
  overridden :: finalization ++ [.operate (.invalidate 71), .operate (.pinBaseline 70 4000000000)]

end Sample

theorem completed_run_keeps_aggregate :
    Exists fun w => Exists fun run =>
      exec step Sample.family Sample.overriddenBefore = some w ∧ w.db.runs.find 7 = some run ∧
        run.result = some .fail ∧ (run.achievedPoints, run.totalPoints) = (some 3, some 4) ∧
        (Exists fun attemptId => Exists fun children =>
          ReadAt Sample.family Sample.overriddenBefore attemptId 7 children ∧ AllDone children ∧
            Aggregates run children) ∧
        (forall later final, exec step w later = some final -> final.db.runs.find 7 = some run) ∧
        Mirrors run (childrenOf w.db.evaluations 7) := by
  have ran : ((exec step Sample.family Sample.overriddenBefore).bind fun w => w.db.runs.find 7).map
      (fun run => (run.status, run.result, run.achievedPoints, run.totalPoints)) =
        some (.completed, some .fail, some 3, some 4) := by
    decide +kernel
  have spares : Along step (SparesChildren 7) Sample.family Sample.overriddenBefore := by
    decide +kernel
  rcases Option.map_eq_some_iff.mp ran with ⟨run, ran, columns⟩
  rcases Option.bind_eq_some_iff.mp ran with ⟨w, ran, found⟩
  have unfinished : ¬ IsCompleted Sample.family 7 := by
    rintro ⟨pending, isPending, status⟩
    cases isPending
    cases status
  rcases completed_run_aggregates ⟨rfl, rfl, rfl⟩ ran unfinished found (congrArg Prod.fst columns) with
    ⟨read, kept, mirrors⟩
  exact ⟨w, run, ran, found, congrArg (·.2.1) columns, congrArg (·.2.2) columns, read, kept,
    mirrors spares⟩

theorem not_mirrors_of_worse {start : RunWorld} {actions : List Action}
    {result worse : ResultValue} {shown : List ResultValue}
    (ran : (exec step start actions).map (fun w =>
      ((w.db.runs.find runId).map fun run => (run.status, run.result),
        (childrenOf w.db.evaluations runId).filterMap Child.shown)) =
      some (some (.completed, some result), shown))
    (inside : worse ∈ shown) (isWorse : result.rank < worse.rank) :
    Exists fun w => Exists fun run => exec step start actions = some w ∧
      w.db.runs.find runId = some run ∧ run.status = .completed ∧
        ¬ Mirrors run (childrenOf w.db.evaluations runId) := by
  rcases Option.map_eq_some_iff.mp ran with ⟨w, ran, values⟩
  rcases Option.map_eq_some_iff.mp (congrArg Prod.fst values) with ⟨run, found, columns⟩
  refine ⟨w, run, ran, found, congrArg Prod.fst columns, fun mirrors => ?_⟩
  have worst := (mirrors.worst result).mp (congrArg Prod.snd columns)
  have sameShown : (childrenOf w.db.evaluations runId).filterMap Child.shown = shown :=
    congrArg Prod.snd values
  rw [sameShown] at worst
  exact absurd (worst.2 worse inside) (Nat.not_le.mpr isWorse)

/-- After an override the completed run shows the old result of the child, and a failed
child is not seen in the result of its run. -/
theorem override_leaves_run :
    (Exists fun w => Exists fun run =>
      exec step Sample.family (Sample.finalization ++ [Sample.overridden]) = some w ∧
        w.db.runs.find 7 = some run ∧ run.status = .completed ∧
          ¬ Mirrors run (childrenOf w.db.evaluations 7)) ∧
    (Exists fun w => Exists fun run =>
      exec step Sample.failedFamily Sample.finalization = some w ∧ w.db.runs.find 7 = some run ∧
        run.status = .completed ∧ ¬ Mirrors run (childrenOf w.db.evaluations 7)) ∧
    Sample.family.Initial ∧ Sample.failedFamily.Initial := by
  refine ⟨?_, ?_, ⟨rfl, rfl, rfl⟩, ⟨rfl, rfl, rfl⟩⟩
  · have ran : (exec step Sample.family (Sample.finalization ++ [Sample.overridden])).map (fun w =>
        ((w.db.runs.find 7).map fun run => (run.status, run.result),
          (childrenOf w.db.evaluations 7).filterMap Child.shown)) =
        some (some (.completed, some .warning), [.fail, .warning]) := by
      decide +kernel
    exact not_mirrors_of_worse ran List.mem_cons_self (by decide)
  · have ran : (exec step Sample.failedFamily Sample.finalization).map (fun w =>
        ((w.db.runs.find 7).map fun run => (run.status, run.result),
          (childrenOf w.db.evaluations 7).filterMap Child.shown)) =
        some (some (.completed, some .pass), [.pass, .error]) := by
      decide +kernel
    exact not_mirrors_of_worse ran (List.mem_cons_of_mem _ List.mem_cons_self) (by decide)

end Finalization
end Tropek
