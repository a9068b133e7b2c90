import Tropek.Notes.Visibility

namespace Tropek
namespace Notes

open Library Engine Store TransitionSystem Fallible

/-!
# Notes last

A note is edited, hidden and handed over to another category.  No request removes it, moves it
to another parent or shows it again once it is hidden.
-/

structure SameNote (note later : EvaluationAnnotation) : Prop where
  id : later.id = note.id
  sloEvaluation : later.sloEvaluationId = note.sloEvaluationId
  evaluationRun : later.evaluationRunId = note.evaluationRunId
  hidden : note.hiddenAt.isSome = true -> later.hiddenAt.isSome = true

def NotesLast (before after : NoteTables) : Prop :=
  forall note, note ∈ before.annotations.rows ->
    Exists fun later => later ∈ after.annotations.rows ∧ SameNote note later

theorem NotesLast.of_same {before after : NoteTables}
    (same : after.annotations = before.annotations) : NotesLast before after :=
  fun note member => ⟨note, same ▸ member, rfl, rfl, rfl, id⟩

theorem NotesLast.trans {first second third : NoteTables} (one : NotesLast first second)
    (two : NotesLast second third) : NotesLast first third := by
  intro note member
  rcases one note member with ⟨later, inside, same⟩
  rcases two later inside with ⟨last, alsoInside, alsoSame⟩
  exact ⟨last, alsoInside, alsoSame.id.trans same.id, alsoSame.sloEvaluation.trans same.sloEvaluation,
    alsoSame.evaluationRun.trans same.evaluationRun, fun hidden => alsoSame.hidden (same.hidden hidden)⟩

section Requests

variable {tables next : NoteTables}

theorem insertAnnotation_last {note : EvaluationAnnotation}
    (inserted : insertAnnotation tables note = .ok next) : NotesLast tables next := by
  unfold insertAnnotation at inserted
  split at inserted
  · split at inserted
    · cases inserted
      exact fun old member => ⟨old, List.mem_append_left [note] member, rfl, rfl, rfl, id⟩
    · cases inserted
  · cases inserted

theorem changeNotes_last (condition : EvaluationAnnotation -> Bool)
    (change : EvaluationAnnotation -> EvaluationAnnotation)
    (keeps : forall note, (change note).id = note.id)
    (same : forall note, SameNote note (change note)) :
    NotesLast tables
      { tables with annotations := tables.annotations.updateWhere condition change keeps } := by
  intro note member
  refine ⟨_, (KeyedTable.mem_updateWhere _ condition change keeps _).mpr ⟨note, member, rfl⟩, ?_⟩
  split
  · exact same note
  · exact ⟨rfl, rfl, rfl, id⟩

theorem reEvaluate_last {input : ReEvaluationInput} {dropped : List Nat}
    (scored : reEvaluate tables input = .ok (next, dropped)) : NotesLast tables next := by
  rcases bind_eq_ok.mp scored with ⟨asset, _, scored⟩
  rcases bind_eq_ok.mp scored with ⟨sloNames, _, scored⟩
  rcases bind_eq_ok.mp scored with ⟨category, _, scored⟩
  rcases bind_eq_ok.mp scored with ⟨⟨db, response⟩, _, scored⟩
  dsimp only at scored
  split at scored
  · cases scored
    exact .of_same rfl
  · rcases bind_eq_ok.mp scored with ⟨noted, looped, scored⟩
    cases scored
    apply foldlM_preserves _ _ looped
    · exact fun state entry after _ last added => last.trans (insertAnnotation_last added)
    · exact .of_same rfl

theorem deleteCategory_last {categoryId : Nat} {now : Instant}
    (deleted : deleteCategory tables categoryId now = .ok next) : NotesLast tables next := by
  rcases bind_eq_ok.mp deleted with ⟨row, _, deleted⟩
  split at deleted
  · cases deleted
  · rcases bind_eq_ok.mp deleted with ⟨info, _, deleted⟩
    dsimp only at deleted
    split at deleted
    · cases deleted
    · cases deleted
      have moved : NotesLast tables (reassign tables categoryId info.id now) :=
        changeNotes_last _ _ _ fun _ => ⟨rfl, rfl, rfl, id⟩
      exact moved.trans (.of_same rfl)

theorem perform_last {action : NoteAction} (performed : action.perform tables = .ok next) :
    NotesLast tables next := by
  cases action with
  | createAnnotationSingular evalId body id now =>
      rcases bind_eq_ok.mp performed with ⟨_, _, inserted⟩
      exact insertAnnotation_last inserted
  | createRunAnnotationNew runId body id now =>
      rcases bind_eq_ok.mp performed with ⟨_, _, inserted⟩
      exact insertAnnotation_last inserted
  | updateAnnotationSingular annotationId body now =>
      simp only [NoteAction.perform, updateAnnotation] at performed
      split at performed
      · cases performed
      · split at performed
        · cases performed
          exact .of_same rfl
        · split at performed
          · cases performed
          · cases performed
            exact changeNotes_last _ _ _ fun _ => ⟨rfl, rfl, rfl, fun hidden => hidden⟩
  | hideAnnotationSingular annotationId body now =>
      simp only [NoteAction.perform, hideAnnotation] at performed
      split at performed
      · cases performed
      · cases performed
        exact changeNotes_last _ _ _ fun _ => ⟨rfl, rfl, rfl, fun _ => rfl⟩
  | createCategory body id now =>
      simp only [NoteAction.perform, createCategory] at performed
      split at performed
      · split at performed
        · cases performed
        · cases performed
          exact .of_same rfl
      · cases performed
  | updateCategory categoryId body now =>
      rcases bind_eq_ok.mp performed with ⟨row, _, updated⟩
      split at updated
      · cases updated
      · split at updated
        · cases updated
          exact .of_same rfl
        · split at updated
          · cases updated
          · cases updated
            exact .of_same rfl
  | deleteCategory categoryId now => exact deleteCategory_last performed
  | reEvaluate input =>
      simp only [NoteAction.perform] at performed
      cases scored : reEvaluate tables input with
      | error failure =>
          rw [scored] at performed
          cases performed
      | ok both =>
          rw [scored] at performed
          cases performed
          exact reEvaluate_last scored
  | _ =>
      cases performed
      exact .of_same rfl

end Requests

theorem noteStep_last {state left : NoteState} {action : NoteAction}
    (stepped : noteStep state action = some left) : NotesLast state.tables left.tables := by
  cases stepped
  dsimp only
  split
  · rename_i performed
    exact perform_last performed
  · exact .of_same rfl

/-- Between any two states of a run no note is lost, moved to another parent or shown again. -/
theorem notes_last {start final : NoteState} {actions : List NoteAction}
    (ran : exec noteStep start actions = some final) : NotesLast start.tables final.tables := by
  induction actions generalizing start with
  | nil =>
      cases ran
      exact .of_same rfl
  | cons action rest ih =>
      rcases exec_cons ran with ⟨next, stepped, later⟩
      exact (noteStep_last stepped).trans (ih later)

/-- The hidden note is edited, the evaluations are scored once more, and the category of the
notes about the first time is deleted. -/
def Sample.moreActions : List NoteAction :=
  [.updateAnnotationSingular 2 { content := some "cache was warm" } 11,
    .reEvaluate { again with noteGroupId := 2, newId := (6 + ·), now := 12 }, .deleteCategory 2 13]

theorem sample_notes_last : Exists fun middle => Exists fun final =>
    exec noteStep Sample.start Sample.actions = some middle ∧
      exec noteStep middle Sample.moreActions = some final ∧
      middle.tables.annotations.rows.length = 5 ∧
      final.tables.annotations.rows.map (·.categoryId) = List.replicate 7 1 ∧
      NotesLast middle.tables final.tables := by
  have ran : (exec noteStep Sample.start Sample.actions).bind (fun middle =>
      (exec noteStep middle Sample.moreActions).map fun final =>
        (middle.tables.annotations.rows.length, final.tables.annotations.rows.map (·.categoryId))) =
      some (5, List.replicate 7 1) := by
    decide +kernel
  rcases Option.bind_eq_some_iff.mp ran with ⟨middle, first, rest⟩
  rcases Option.map_eq_some_iff.mp rest with ⟨final, second, notes⟩
  rw [Prod.mk.injEq] at notes
  exact ⟨middle, final, first, second, notes.1, notes.2, notes_last second⟩

end Notes
end Tropek
