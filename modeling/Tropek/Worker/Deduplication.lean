import Tropek.Worker.Snapshots

namespace Tropek
namespace Worker

open Library Engine Store TransitionSystem KeyedTable

/-!
# Deduplication

The worker is meant to skip an evaluation that has already been processed.  The
guard in phase 1 cannot do that, since it reads the status that the phase has
just written.  What does protect a completed evaluation is the unique constraint
on its indicator rows: a second completion inserts rows for the same objectives
and is rolled back.

A completed evaluation therefore keeps its status, result, score and indicator
rows in every run in which no other transaction commits on it.  Such a
transaction is a phase 1, a `_mark_failed` or a watchdog transaction, and each of
them does take the evaluation out of its status.
-/

/-- A completed row has an indicator row for every scored objective of its SLO
version, and a row that is not completed has none. -/
structure RowConsistent (db : Database) (row : SLOEvaluation) : Prop where
  completed : row.status = .completed -> Exists fun version => Exists fun sloDef =>
    row.sloVersion = some version ∧ db.sloDefinitions.find (row.sloName, version) = some sloDef ∧
      sloDef.objectives.rows ≠ [] ∧
      row.indicatorRows.rows.map (·.objective) = scoredObjectives sloDef
  unscored : row.status ≠ .completed -> row.indicatorRows.rows = []

structure Consistent (w : World) : Prop where
  rows : forall id row, w.db.evaluations.find id = some row -> RowConsistent w.db row
  executions : AllFit w

theorem Consistent.of_initial {w : World} (initial : w.Initial) : Consistent w where
  rows := by
    intro id row found
    rw [initial.noEvaluations, find_empty] at found
    cases found
  executions := AllFit.of_initial initial

theorem RowChange.apply_of_not_completion {change : RowChange} (row : SLOEvaluation)
    (other : change.isCompletion = false) :
    (change.apply row).status ≠ .completed ∧
      (change.apply row).indicatorRows = row.indicatorRows := by
  cases change with
  | running now workerId => exact ⟨nofun, rfl⟩
  | failed jobStats => exact ⟨nofun, rfl⟩
  | requeued stuckJobRetries => exact ⟨nofun, rfl⟩
  | completed values indicatorRows => cases other

section Consistent

variable {settings : Settings} {w next : World} {action : Action}

/-- A completion hits a row that is not completed, and gives it the values of
its own SLO version. -/
theorem completion_spec (consistent : Consistent w) {write : Write}
    (written : action.write settings w = some write)
    (completion : write.change.isCompletion = true) {row : SLOEvaluation}
    (found : w.db.evaluations.find write.evalId = some row) :
    row.status ≠ .completed ∧ RowConsistent w.db (write.change.apply row) := by
  rcases completion_values consistent.executions written completion found with
    ⟨version, sloDef, values, inserted, indicatorRows, changeIs, rowVersion, newVersion, newName,
      definition, nonempty, objectives, inserting⟩
  have notCompleted : row.status ≠ .completed := by
    intro completed
    rcases (consistent.rows _ _ found).completed completed with
      ⟨oldVersion, oldDef, oldVersionIs, oldFound, _, oldObjectives⟩
    have sameVersion : oldVersion = version :=
      Option.some.inj (oldVersionIs.symm.trans rowVersion)
    rw [sameVersion] at oldFound
    have sameDef : oldDef = sloDef := Option.some.inj (oldFound.symm.trans definition)
    rw [sameDef] at oldObjectives
    rw [bulkInsert_again nonempty objectives oldObjectives] at inserting
    cases inserting
  have noRows := (consistent.rows _ _ found).unscored notCompleted
  have rowsAfter : indicatorRows.rows.map (·.objective) = scoredObjectives sloDef := by
    rw [bulkInsert_rows inserting, noRows, List.nil_append]
    exact objectives
  rw [changeIs]
  refine ⟨notCompleted, fun _ => ⟨version, sloDef, ?_, ?_, nonempty, rowsAfter⟩, nofun⟩
  · change values.sloVersion.or row.sloVersion = some version
    rw [newVersion]
    rfl
  · change w.db.sloDefinitions.find (values.sloName.getD row.sloName, version) = some sloDef
    rw [newName]
    exact definition

/-- The transaction that the action commits is not a phase 1, a `_mark_failed` or
a watchdog transaction on an evaluation that is completed at that moment. -/
def sparesCompleted (settings : Settings) (w : World) (action : Action) : Bool :=
  match action.write settings w with
  | none => true
  | some write =>
      write.change.isCompletion ||
        !(w.db.evaluations.find write.evalId).any fun row => row.status = .completed

theorem sparesCompleted_spec {write : Write} (spared : sparesCompleted settings w action = true)
    (written : action.write settings w = some write) {row : SLOEvaluation}
    (found : w.db.evaluations.find write.evalId = some row) (completed : row.status = .completed) :
    write.change.isCompletion = true := by
  unfold sparesCompleted at spared
  simpa only [written, found, Option.any_some, completed, decide_true, Bool.not_true,
    Bool.or_false] using spared

theorem rowAfter_of_completed (consistent : Consistent w) {id : Nat} {row : SLOEvaluation}
    (spared : sparesCompleted settings w action = true)
    (found : w.db.evaluations.find id = some row) (completed : row.status = .completed) :
    rowAfter (action.write settings w) row = row := by
  apply rowAfter_of_ne
  intro write written targeted
  have rowKey : row.id = id := find_key found
  have here : w.db.evaluations.find write.evalId = some row := by
    rw [targeted, rowKey]
    exact found
  have completion := sparesCompleted_spec spared written here completed
  exact (completion_spec consistent written completion here).1 completed

theorem step_rows (consistent : Consistent w)
    (stepped : Worker.step settings w action = some next) {id : Nat} {row : SLOEvaluation}
    (spared : sparesCompleted settings w action = true)
    (found : next.db.evaluations.find id = some row) : RowConsistent next.db row := by
  have definitions := step_sloDefinitions stepped
  rcases step_find_origin stepped found with
    ⟨old, oldFound, same⟩ | ⟨absent, triggerId, request, _, ctx, assetTags, _, same⟩
  · have oldConsistent := consistent.rows id old oldFound
    rcases rowAfter_cases (action.write settings w) old with
      unchanged | ⟨write, written, targeted, applied⟩
    · rw [same, unchanged]
      refine ⟨fun completed => ?_, oldConsistent.unscored⟩
      rw [definitions]
      exact oldConsistent.completed completed
    · have oldKey : old.id = id := find_key oldFound
      have here : w.db.evaluations.find write.evalId = some old := by
        rw [<- targeted, oldKey]
        exact oldFound
      cases completion : write.change.isCompletion with
      | false =>
          have effect := write.change.apply_of_not_completion old completion
          have notCompleted : old.status ≠ .completed := by
            intro completed
            have contradiction := sparesCompleted_spec spared written here completed
            rw [completion] at contradiction
            cases contradiction
          rw [same, applied]
          refine ⟨fun completed => absurd completed effect.1, fun _ => ?_⟩
          rw [effect.2]
          exact oldConsistent.unscored notCompleted
      | true =>
          have completed := (completion_spec consistent written completion here).2
          rw [same, applied]
          refine ⟨fun isCompleted => ?_, completed.unscored⟩
          rw [definitions]
          exact completed.completed isCompleted
  · rw [same]
    exact ⟨nofun, fun _ => rfl⟩

theorem Consistent.step (consistent : Consistent w)
    (spared : sparesCompleted settings w action = true)
    (stepped : Worker.step settings w action = some next) : Consistent next where
  rows := fun _ _ found => step_rows consistent stepped spared found
  executions := consistent.executions.step stepped

/-- Every evaluation that is completed in the first world is completed in the
second, with the same result, score and indicator rows. -/
def KeepsCompleted (first second : World) : Prop :=
  forall id row, first.db.evaluations.find id = some row -> row.status = .completed ->
    Exists fun later => second.db.evaluations.find id = some later ∧ later.status = .completed ∧
      later.result = row.result ∧ later.score = row.score ∧
      later.indicatorRows = row.indicatorRows

theorem KeepsCompleted.refl (w : World) : KeepsCompleted w w :=
  fun _ row found completed => ⟨row, found, completed, rfl, rfl, rfl⟩

theorem KeepsCompleted.trans {first second third : World} (earlier : KeepsCompleted first second)
    (later : KeepsCompleted second third) : KeepsCompleted first third := by
  intro id row found completed
  rcases earlier id row found completed with ⟨middle, middleFound, middleCompleted, sameFirst⟩
  rcases later id middle middleFound middleCompleted with ⟨last, lastFound, lastCompleted, sameLast⟩
  exact ⟨last, lastFound, lastCompleted, sameLast.1.trans sameFirst.1,
    sameLast.2.1.trans sameFirst.2.1, sameLast.2.2.trans sameFirst.2.2⟩

theorem keepsCompleted_iff_spares (consistent : Consistent w)
    (stepped : Worker.step settings w action = some next) :
    KeepsCompleted w next ↔ sparesCompleted settings w action = true := by
  constructor
  · intro kept
    unfold sparesCompleted
    cases written : action.write settings w with
    | none => rfl
    | some write =>
        dsimp only
        cases completion : write.change.isCompletion with
        | true => rfl
        | false =>
            cases found : w.db.evaluations.find write.evalId with
            | none => rfl
            | some row =>
                by_cases completed : row.status = .completed
                · rcases kept write.evalId row found completed with
                    ⟨later, laterFound, laterCompleted, _⟩
                  have after := step_find stepped found
                  have rowKey : row.id = write.evalId := find_key found
                  have applied : rowAfter (action.write settings w) row = write.change.apply row := by
                    rw [written]
                    exact if_pos rowKey
                  have same : later = write.change.apply row := by
                    rw [<- applied]
                    exact Option.some.inj (laterFound.symm.trans after)
                  rw [same] at laterCompleted
                  exact absurd laterCompleted
                    (write.change.apply_of_not_completion row completion).1
                · simp [completed]
  · intro spared id row found completed
    refine ⟨row, ?_, completed, rfl, rfl, rfl⟩
    have after := step_find stepped found
    rw [rowAfter_of_completed consistent spared found completed] at after
    exact after

end Consistent

/-- In a run from an initial world, a completed evaluation keeps its status,
result, score and indicator rows for good if and only if no phase 1, no
`_mark_failed` and no watchdog transaction of the run commits on a completed
evaluation. -/
theorem completed_kept_iff {settings : Settings} {start final : World} {actions : List Action}
    (initial : start.Initial) (ran : exec (step settings) start actions = some final) :
    Throughout (step settings) KeepsCompleted start actions ↔
      Along (step settings) (fun w action => sparesCompleted settings w action = true) start
        actions :=
  throughout_iff_along KeepsCompleted.refl
    (fun _ _ _ earlier later => earlier.trans later)
    (fun _ _ _ (consistent : Consistent _) spared stepped => consistent.step spared stepped)
    (fun _ _ _ consistent stepped => keepsCompleted_iff_spares consistent stepped)
    (Consistent.of_initial initial) ran

/-- One message, delivered twice while no execution of it has ended: the second
completion is refused. -/
def Sample.duplicateDelivery : List Action :=
  [.trigger 1 (request 1 10 0), .triggerEnqueue 1, .deliver 1 0, .deliver 2 0] ++
    (List.replicate 5 [advance 1, advance 2]).flatten ++ [advance 1]

theorem duplicateDelivery_keeps_completed :
    Throughout (step {}) KeepsCompleted Sample.world Sample.duplicateDelivery := by
  have possible : (exec (step {}) Sample.world Sample.duplicateDelivery).isSome = true := by
    decide +kernel
  rcases Option.isSome_iff_exists.mp possible with ⟨final, ran⟩
  exact (completed_kept_iff Sample.world_initial ran).mpr (by decide +kernel)

/-- The message of a completed evaluation is delivered once more, and phase 1 is
committed. -/
def Sample.redelivery : List Action :=
  [.deliver 2 0, advance 2, advance 2]

theorem redelivery_restarts_completed :
    Sample.world.Initial ∧
      ¬ Throughout (step {}) KeepsCompleted Sample.world
        (Sample.completedRun ++ Sample.redelivery) := by
  refine ⟨Sample.world_initial, fun throughout => ?_⟩
  have before : (exec (step {}) Sample.world Sample.completedRun).bind (·.statusOf 10) =
      some .completed := by
    decide +kernel
  have after : (exec (step {}) Sample.world (Sample.completedRun ++ Sample.redelivery)).bind
      (·.statusOf 10) = some .running := by
    decide +kernel
  rcases Option.bind_eq_some_iff.mp before with ⟨first, ran, firstStatus⟩
  rcases Option.bind_eq_some_iff.mp after with ⟨second, redelivered, secondStatus⟩
  rcases Option.map_eq_some_iff.mp firstStatus with ⟨row, found, completed⟩
  rcases Option.map_eq_some_iff.mp secondStatus with ⟨last, lastFound, running⟩
  rw [exec_append, ran] at redelivered
  have kept := throughout Sample.completedRun Sample.redelivery [] first second
    (List.append_nil _).symm ran redelivered
  rcases kept 10 row found completed with ⟨later, laterFound, laterCompleted, _⟩
  have same : later = last := Option.some.inj (laterFound.symm.trans lastFound)
  rw [same, running] at laterCompleted
  cases laterCompleted

end Worker
end Tropek
