import Tropek.ReEvaluation.Rewrites
import Tropek.Store.Pins

namespace Tropek
namespace Maintenance

open Library Engine Store Registry ReEvaluation Fallible

/-!
# Operations on stored evaluations

The actions that users take on evaluations that have been scored: overriding and
restoring results, invalidating, pinning, and re-evaluating against other
versions of an SLO, which may be created in between.  Each action is one
transaction.  An action that the endpoint refuses, or that raises, leaves the
database as it was.
-/

inductive Operation where
  | createSlo (body : SLODefinitionCreate) (firstId : Nat)
  | reEvaluate (assigned : Nat -> List String) (clock : Nat -> Instant) (request : ReEvaluateRequest)
  | overrideStatus (evalId : Nat) (newResult : EvaluationOutcome) (reason author : String)
  | restoreOverride (evalId : Nat)
  | overrideStatusMany (evalIds : List Nat) (newResult : EvaluationOutcome) (reason author : String)
  | restoreOverrideMany (evalIds : List Nat)
  | invalidate (evalId : Nat)
  | restore (evalId : Nat)
  | invalidateMany (evalIds : List Nat)
  | restoreMany (evalIds : List Nat)
  | pinBaseline (evalId : Nat) (now : Instant)
  | unpinBaseline (evalId : Nat) (now : Instant)
  | pinBaselineMany (evalIds : List Nat) (now : Instant)
  | unpinBaselineMany (evalIds : List Nat) (now : Instant)

/-- What an operation on the table of evaluations makes of it, when its endpoint
accepts it.  The two operations that are more than statements on this table are
left to `step`. -/
def Operation.onTable (table : Evaluations) : Operation -> Option Evaluations
  | .createSlo _ _ => none
  | .reEvaluate _ _ _ => none
  | .overrideStatus evalId newResult reason author =>
      match table.find evalId with
      | none => none
      | some ev =>
          if ev.status = .completed then
            some (Store.overrideStatus table evalId (.ofOutcome newResult) reason author)
          else none
  | .restoreOverride evalId =>
      match table.find evalId with
      | none => none
      | some ev =>
          if ev.originalResult.isSome then some (Store.restoreOverride table evalId) else none
  | .overrideStatusMany evalIds newResult reason author =>
      some (Store.overrideStatusMany table evalIds (.ofOutcome newResult) reason author)
  | .restoreOverrideMany evalIds => some (Store.restoreOverrideMany table evalIds)
  | .invalidate evalId => (table.find evalId).map fun _ => Store.invalidate table evalId
  | .restore evalId => (table.find evalId).map fun _ => Store.restore table evalId
  | .invalidateMany evalIds => some (Store.invalidateMany table evalIds)
  | .restoreMany evalIds => some (Store.restoreMany table evalIds)
  | .pinBaseline evalId now =>
      match table.find evalId with
      | none => none
      | some ev =>
          if ev.status = .completed ∧ ev.invalidated = false then
            some (Store.pinBaseline table evalId now)
          else none
  | .unpinBaseline evalId now => (table.find evalId).map fun _ => Store.unpinBaseline table evalId now
  | .pinBaselineMany evalIds now => some (Store.pinBaselineMany table evalIds now)
  | .unpinBaselineMany evalIds now => some (Store.unpinBaselineMany table evalIds now)

/-- An operation that succeeds, as its committed transaction leaves the database.  One
that raises is rolled back, and is no step. -/
def step (db : Database) (operation : Operation) : Option Database :=
  match operation with
  | .createSlo body firstId => (createSloDefinition db body firstId).toOption
  | .reEvaluate assigned clock request =>
      (reEvaluate assigned clock db request).toOption.map Prod.fst
  | operation =>
      (operation.onTable db.evaluations).map fun evaluations => { db with evaluations }

variable {next db : Database} {body : SLODefinitionCreate} {operation : Operation}
  {table : Evaluations} {evalId : Nat}

theorem createSloDefinition_evaluations {firstId : Nat}
    (created : createSloDefinition db body firstId = .ok next) :
    next.evaluations = db.evaluations := by
  rcases bind_eq_ok.mp created with ⟨_, _, created⟩
  rcases bind_eq_ok.mp created with ⟨_, _, created⟩
  dsimp only at created
  split at created
  · cases created
    rfl
  · cases created

theorem step_cases (stepped : step db operation = some next) :
    (Exists fun body => Exists fun firstId =>
        operation = .createSlo body firstId ∧ createSloDefinition db body firstId = .ok next) ∨
      (Exists fun assigned => Exists fun clock => Exists fun request => Exists fun response =>
        operation = .reEvaluate assigned clock request ∧
          reEvaluate assigned clock db request = .ok (next, response)) ∨
      (Exists fun evaluations =>
        operation.onTable db.evaluations = some evaluations ∧ next = { db with evaluations }) := by
  cases operation with
  | createSlo body firstId =>
      refine Or.inl ⟨body, firstId, rfl, ?_⟩
      change (createSloDefinition db body firstId).toOption = some next at stepped
      cases created : createSloDefinition db body firstId with
      | error failure =>
          rw [created] at stepped
          cases stepped
      | ok result =>
          rw [created] at stepped
          exact congrArg _ (Option.some.inj stepped)
  | reEvaluate assigned clock request =>
      change (reEvaluate assigned clock db request).toOption.map Prod.fst = some next at stepped
      cases ran : reEvaluate assigned clock db request with
      | error failure =>
          rw [ran] at stepped
          cases stepped
      | ok returned =>
          rw [ran] at stepped
          have same : returned.1 = next := Option.some.inj stepped
          refine Or.inr (Or.inl ⟨assigned, clock, request, returned.2, rfl, ?_⟩)
          rw [<- same]
          exact ran
  | _ =>
      simp only [step, Option.map_eq_some_iff] at stepped
      rcases stepped with ⟨evaluations, onTable, same⟩
      exact Or.inr (Or.inr ⟨evaluations, onTable, same.symm⟩)

theorem overrideStatus_onTable {next : Evaluations} {newResult : EvaluationOutcome}
    {reason author : String}
    (ran : (Operation.overrideStatus evalId newResult reason author).onTable table = some next) :
    next = Store.overrideStatus table evalId (.ofOutcome newResult) reason author := by
  unfold Operation.onTable at ran
  dsimp only at ran
  split at ran
  · cases ran
  · split at ran
    · exact (Option.some.inj ran).symm
    · cases ran

theorem restoreOverride_onTable {next : Evaluations}
    (ran : (Operation.restoreOverride evalId).onTable table = some next) :
    next = Store.restoreOverride table evalId := by
  unfold Operation.onTable at ran
  dsimp only at ran
  split at ran
  · cases ran
  · split at ran
    · exact (Option.some.inj ran).symm
    · cases ran

/-- A pin that is accepted is one of a completed and valid evaluation, and its two statements. -/
theorem pinBaseline_onTable {next : Evaluations} {now : Instant}
    (ran : (Operation.pinBaseline evalId now).onTable table = some next) :
    Exists fun ev => table.find evalId = some ev ∧
      (ev.status = .completed ∧ ev.invalidated = false) ∧
      next = pinWhere (unpinWhere table (inPinnedSeries ev) now) (fun row => row.id = evalId) now := by
  unfold Operation.onTable at ran
  dsimp only at ran
  split at ran
  · cases ran
  · rename_i ev found
    split at ran
    · rename_i accepted
      refine ⟨ev, found, accepted, ?_⟩
      rw [<- Option.some.inj ran]
      unfold pinBaseline
      rw [found]
    · cases ran

/-- A relation between two versions of a row that composes and that each kind of
change has. -/
structure KeptByOperations (related : SLOEvaluation -> SLOEvaluation -> Prop) : Prop where
  refl : forall row, related row row
  trans : forall first second third, related first second -> related second third ->
    related first third
  overridden : forall newResult reason author row,
    related row (row.setOverridden newResult reason author)
  restored : forall row, related row row.setRestored
  invalidated : forall invalidated row, related row (row.setInvalidated invalidated)
  pinned : forall now row, related row (row.setPinned now)
  unpinned : forall now row, related row (row.setUnpinned now)

section Kept

variable {related : SLOEvaluation -> SLOEvaluation -> Prop} (kept : KeptByOperations related)

include kept

theorem updateWhere_kept (table : Evaluations) (condition : SLOEvaluation -> Bool)
    (change : SLOEvaluation -> SLOEvaluation) (keeps : forall row, (change row).id = row.id)
    (changed : forall row, related row (change row)) :
    List.Forall₂ related table.rows (table.updateWhere condition change keeps).rows :=
  table.updateWhere_related condition change keeps (fun row _ _ => changed row)
    fun row _ _ => kept.refl row

theorem pinWhere_unpinWhere_kept (table : Evaluations) (unpins pins : SLOEvaluation -> Bool)
    (now : Instant) :
    List.Forall₂ related table.rows (pinWhere (unpinWhere table unpins now) pins now).rows :=
  related_trans kept.trans
    (updateWhere_kept kept table _ _ (SLOEvaluation.setUnpinned_id now) (kept.unpinned now))
    (updateWhere_kept kept (unpinWhere table unpins now) _ _ (SLOEvaluation.setPinned_id now)
      (kept.pinned now))

theorem onTable_kept {table next : Evaluations} {operation : Operation}
    (ran : operation.onTable table = some next) : List.Forall₂ related table.rows next.rows := by
  cases operation with
  | createSlo body firstId => cases ran
  | reEvaluate assigned clock request => cases ran
  | overrideStatus evalId newResult reason author =>
      rw [overrideStatus_onTable ran]
      exact updateWhere_kept kept table _ _ (SLOEvaluation.setOverridden_id _ reason author)
        (kept.overridden _ reason author)
  | restoreOverride evalId =>
      rw [restoreOverride_onTable ran]
      exact updateWhere_kept kept table _ _ SLOEvaluation.setRestored_id kept.restored
  | overrideStatusMany evalIds newResult reason author =>
      cases ran
      exact updateWhere_kept kept table _ _ (SLOEvaluation.setOverridden_id _ reason author)
        (kept.overridden _ reason author)
  | restoreOverrideMany evalIds =>
      cases ran
      exact updateWhere_kept kept table _ _ SLOEvaluation.setRestored_id kept.restored
  | invalidate evalId =>
      rcases Option.map_eq_some_iff.mp ran with ⟨_, _, same⟩
      cases same
      exact updateWhere_kept kept table _ _ (SLOEvaluation.setInvalidated_id true) (kept.invalidated true)
  | restore evalId =>
      rcases Option.map_eq_some_iff.mp ran with ⟨_, _, same⟩
      cases same
      exact updateWhere_kept kept table _ _ (SLOEvaluation.setInvalidated_id false) (kept.invalidated false)
  | invalidateMany evalIds =>
      cases ran
      exact updateWhere_kept kept table _ _ (SLOEvaluation.setInvalidated_id true) (kept.invalidated true)
  | restoreMany evalIds =>
      cases ran
      exact updateWhere_kept kept table _ _ (SLOEvaluation.setInvalidated_id false) (kept.invalidated false)
  | pinBaseline evalId now =>
      rcases pinBaseline_onTable ran with ⟨ev, _, _, rfl⟩
      exact pinWhere_unpinWhere_kept kept table _ _ now
  | unpinBaseline evalId now =>
      rcases Option.map_eq_some_iff.mp ran with ⟨_, _, same⟩
      cases same
      exact updateWhere_kept kept table _ _ (SLOEvaluation.setUnpinned_id now) (kept.unpinned now)
  | pinBaselineMany evalIds now =>
      cases ran
      exact pinWhere_unpinWhere_kept kept table _ _ now
  | unpinBaselineMany evalIds now =>
      cases ran
      exact updateWhere_kept kept table _ _ (SLOEvaluation.setUnpinned_id now) (kept.unpinned now)

theorem step_kept
    (rewritten : forall definitions before after, Rewritten definitions before after ->
      related before after)
    {db next : Database} {operation : Operation} (stepped : step db operation = some next) :
    List.Forall₂ related db.evaluations.rows next.evaluations.rows := by
  rcases step_cases stepped with
    ⟨body, firstId, _, created⟩ | ⟨assigned, clock, request, response, _, ran⟩ |
      ⟨evaluations, onTable, same⟩
  · rw [createSloDefinition_evaluations created]
    exact List.forall₂_same.mpr fun row _ => kept.refl row
  · exact (reEvaluate_rewrites ran).2.imp fun _ _ rewrites =>
      Rewrites.relates kept.refl kept.trans (rewritten _) rewrites
  · rw [same]
    exact onTable_kept kept onTable

end Kept

theorem onTable_indicatorRows {next : Evaluations} (ran : operation.onTable table = some next) :
    List.Forall₂ (fun before after : SLOEvaluation => after.id = before.id ∧
      after.indicatorRows = before.indicatorRows) table.rows next.rows := by
  refine onTable_kept ?_ ran
  exact {
    refl := fun _ => ⟨rfl, rfl⟩
    trans := fun _ _ _ one two => ⟨two.1.trans one.1, two.2.trans one.2⟩
    overridden := fun _ _ _ _ => ⟨rfl, rfl⟩
    restored := fun _ => ⟨rfl, rfl⟩
    invalidated := fun _ _ => ⟨rfl, rfl⟩
    pinned := fun _ _ => ⟨rfl, rfl⟩
    unpinned := fun _ _ => ⟨rfl, rfl⟩ }

theorem createSloDefinition_tables {firstId : Nat}
    (created : createSloDefinition db body firstId = .ok next) :
    next.runs = db.runs ∧ next.sliDefinitions = db.sliDefinitions := by
  rcases bind_eq_ok.mp created with ⟨_, _, created⟩
  rcases bind_eq_ok.mp created with ⟨_, _, created⟩
  dsimp only at created
  split at created
  · cases created
    exact ⟨rfl, rfl⟩
  · cases created

theorem step_runs (stepped : step db operation = some next) : next.runs = db.runs := by
  rcases step_cases stepped with
    ⟨body, firstId, _, created⟩ | ⟨assigned, clock, request, response, _, ran⟩ |
      ⟨evaluations, onTable, same⟩
  · exact (createSloDefinition_tables created).1
  · rw [(reEvaluate_rewrites ran).1]
  · rw [same]

end Maintenance
end Tropek
