import Tropek.Maintenance.MeasuredValues
import Tropek.Maintenance.Overrides

namespace Tropek
namespace Maintenance

open Library Engine Store ReEvaluation TransitionSystem

/-!
# What maintenance never changes

Evaluations are scored again, overridden, invalidated and pinned, but they stay the
evaluations that they were: none appears or disappears, and each keeps its asset, its SLO,
its period, its run and its status.  Nor does an operation change a version of an SLO that
is there, or a run.
-/

def identity (row : SLOEvaluation) :=
  (row.id, row.evaluationId, row.evaluationName, row.assetId, row.sloName, row.sliName,
    row.sliVersion, row.periodStart, row.periodEnd, row.status)

theorem identity_kept : KeptByOperations fun before after => identity after = identity before where
  refl _ := rfl
  trans _ _ _ one two := two.trans one
  overridden _ _ _ _ := rfl
  restored _ := rfl
  invalidated _ _ := rfl
  pinned _ _ := rfl
  unpinned _ _ := rfl

theorem rewritten_identity {definitions : SLODefinitions} {before after : SLOEvaluation}
    (rewritten : Rewritten definitions before after) : identity after = identity before := by
  have rewrites : Rewrites definitions before after := .single rewritten
  have history := rewrites.history
  simp [identity, rewrites.keepsPoints.evaluationId, history.id, history.evaluationName,
    history.assetId, history.sloName, history.sliName, history.sliVersion, history.periodStart,
    history.periodEnd, history.status]

/-- The evaluations are the same ones, in the same order, and what they refer to is still there. -/
structure SameRecords (start final : Database) : Prop where
  evaluations : final.evaluations.rows.map identity = start.evaluations.rows.map identity
  runs : final.runs = start.runs
  versions : forall key sloDef, start.sloDefinitions.find key = some sloDef ->
    final.sloDefinitions.find key = some sloDef

theorem step_versions {db next : Database} {operation : Operation}
    (stepped : step db operation = some next) {key : String × Int} {sloDef : SLODefinition}
    (found : db.sloDefinitions.find key = some sloDef) :
    next.sloDefinitions.find key = some sloDef := by
  rcases step_cases stepped with
    ⟨body, firstId, _, created⟩ | ⟨assigned, clock, request, response, _, ran⟩ |
      ⟨evaluations, onTable, same⟩
  · exact createSloDefinition_find created found
  · rw [(reEvaluate_rewrites ran).1]
    exact found
  · rw [same]
    exact found

/-- Between any two states of a run of operations, the evaluations, their runs and the versions
of the SLOs stay what they are. -/
theorem maintenance_keepsRecords {start final : Database} {operations : List Operation}
    (ran : exec step start operations = some final) : SameRecords start final := by
  induction operations generalizing start with
  | nil =>
      cases ran
      exact ⟨rfl, rfl, fun _ _ => id⟩
  | cons operation rest ih =>
      rcases exec_cons ran with ⟨next, stepped, later⟩
      have related := step_kept identity_kept (fun _ _ _ => rewritten_identity) stepped
      have same := Latest.map_eq_of_related (related.imp fun _ _ kept => kept.symm)
      exact {
        evaluations := (ih later).evaluations.trans same.symm
        runs := (ih later).runs.trans (step_runs stepped)
        versions := fun key sloDef found =>
          (ih later).versions key sloDef (step_versions stepped found) }

theorem roundTrip_keepsRecords : Exists fun start => Exists fun final =>
    exec step start (Sample.roundTrip 2) = some final ∧ SameRecords start final := by
  have ran : (Sample.roundTripRows 2).isSome = true := by decide +kernel
  rcases Option.isSome_iff_exists.mp ran with ⟨⟨⟨start, final⟩, before, after⟩, isRun⟩
  have executed := (Sample.roundTripRows_eq_some isRun).2.1
  exact ⟨start, final, executed, maintenance_keepsRecords executed⟩

end Maintenance
end Tropek
