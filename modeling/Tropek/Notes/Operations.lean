import Tropek.Presentation.Heatmap
import Tropek.ReEvaluation.Service

namespace Tropek
namespace Notes

open Library Engine Store Presentation KeyedTable Fallible

/-!
# Notes and their categories

A note is attached to a run, or to one evaluation of an SLO.  The user interface adds notes
of both kinds, a re-evaluation adds one to each evaluation that it scores again.  A note is
edited and hidden but never removed, and a category that is deleted hands its notes over to
`info`.

The database keeps two rules about a note: exactly one parent, and a category that exists.
-/

inductive CategoryColor where
  | sky | green | amber | red | purple | pink | slate | gray
deriving DecidableEq, Repr

structure AnnotationCategory where
  id : Nat
  name : String
  label : String
  color : CategoryColor
  showOnGraph : Bool := true
  isSystem : Bool := false
  createdAt : Instant
  updatedAt : Option Instant := none
deriving DecidableEq, Repr

abbrev Tags : Type :=
  List (String × String)

/-- A row of `evaluation_annotations` with all its columns. -/
structure EvaluationAnnotation where
  id : Nat
  sloEvaluationId : Option Nat := none
  evaluationRunId : Option Nat := none
  content : String
  author : Option String := none
  categoryId : Nat
  tags : Tags := []
  noteGroupId : Option Nat := none
  noteGroupName : Option String := none
  hiddenAt : Option Instant := none
  hiddenBy : Option String := none
  hiddenReason : Option String := none
  createdAt : Instant
  updatedAt : Option Instant := none
deriving DecidableEq, Repr

/-- `ck_annotation_exactly_one_parent`. -/
def EvaluationAnnotation.OneParent (note : EvaluationAnnotation) : Prop :=
  note.sloEvaluationId.isNone ≠ note.evaluationRunId.isNone

instance (note : EvaluationAnnotation) : Decidable note.OneParent :=
  inferInstanceAs (Decidable (_ ≠ _))

/-- The tables of the notes and of their categories.  `others`: what the other requests
and the workers write. -/
structure NoteTables where
  others : TrendTables
  categories : KeyedTable AnnotationCategory.id
  annotations : KeyedTable EvaluationAnnotation.id

/-- How a request on notes fails.  `systemCategory`: `SystemCategoryError`; `integrity`:
a statement that a constraint of the database refuses; `unreadable`: a row that does not
fit the response model; `notSeeded`: the seeded category is missing. -/
inductive NoteError where
  | notFound
  | systemCategory
  | integrity
  | unreadable
  | reEvaluation (error : ReEvaluation.ReEvalError)
  | notSeeded
deriving DecidableEq, Repr

structure AnnotationCreate where
  content : String
  author : Option String := none
  categoryId : Nat
  tags : Tags := []

structure AnnotationUpdate where
  content : Option String := none
  author : Option String := none
  categoryId : Option Nat := none
  tags : Option Tags := none
deriving DecidableEq

structure AnnotationHide where
  reason : String
  author : Option String := none

structure AnnotationCategoryCreate where
  name : String
  label : String
  color : CategoryColor
  showOnGraph : Bool := true

structure AnnotationCategoryUpdate where
  name : Option String := none
  label : Option String := none
  color : Option CategoryColor := none
  showOnGraph : Option Bool := none
deriving DecidableEq

def parentExists (db : Database) (note : EvaluationAnnotation) : Bool :=
  note.sloEvaluationId.all (fun id => (db.evaluations.find id).isSome) &&
    note.evaluationRunId.all fun id => (db.runs.find id).isSome

/-- `INSERT`, with the constraints of the table. -/
def insertAnnotation (tables : NoteTables) (note : EvaluationAnnotation) : Except NoteError NoteTables :=
  if fresh : tables.annotations.find note.id = none then
    if note.OneParent ∧ parentExists tables.others.toDatabase note = true ∧
        (tables.categories.find note.categoryId).isSome = true then
      .ok { tables with annotations := tables.annotations.insert note fresh }
    else .error .integrity
  else .error .integrity

def addAnnotation (tables : NoteTables) (sloEvaluationId : Nat) (body : AnnotationCreate)
    (noteGroup : Option (Nat × String)) (id : Nat) (now : Instant) : Except NoteError NoteTables :=
  insertAnnotation tables {
    id
    sloEvaluationId := some sloEvaluationId
    content := body.content
    author := body.author
    categoryId := body.categoryId
    tags := body.tags
    noteGroupId := noteGroup.map Prod.fst
    noteGroupName := noteGroup.map Prod.snd
    createdAt := now }

def addRunAnnotation (tables : NoteTables) (evaluationRunId : Nat) (body : AnnotationCreate)
    (id : Nat) (now : Instant) : Except NoteError NoteTables :=
  insertAnnotation tables {
    id
    evaluationRunId := some evaluationRunId
    content := body.content
    author := body.author
    categoryId := body.categoryId
    tags := body.tags
    createdAt := now }

/-- `update_annotation`: only what is given is changed. -/
def updateAnnotation (tables : NoteTables) (annotationId : Nat) (body : AnnotationUpdate)
    (now : Instant) : Except NoteError NoteTables :=
  if (tables.annotations.find annotationId).isNone then .error .notFound
  else if body = {} then .ok tables
  else if body.categoryId.any fun id => (tables.categories.find id).isNone then .error .integrity
  else
    .ok { tables with
      annotations := tables.annotations.update annotationId
        (fun note => { note with
          content := body.content.getD note.content
          author := body.author.orElse fun _ => note.author
          categoryId := body.categoryId.getD note.categoryId
          tags := body.tags.getD note.tags
          updatedAt := some now }) fun _ => rfl }

def hideAnnotation (tables : NoteTables) (annotationId : Nat) (body : AnnotationHide)
    (now : Instant) : Except NoteError NoteTables :=
  if (tables.annotations.find annotationId).isNone then .error .notFound
  else
    .ok { tables with
      annotations := tables.annotations.update annotationId
        (fun note => { note with
          hiddenAt := some now
          hiddenBy := body.author
          hiddenReason := some body.reason
          updatedAt := some now }) fun _ => rfl }

/-- `POST /evaluation/{eval_id}/annotations`. -/
def createAnnotationSingular (tables : NoteTables) (evalId : Nat) (body : AnnotationCreate)
    (id : Nat) (now : Instant) : Except NoteError NoteTables := do
  let _ <- orRaise .notFound (tables.others.evaluations.find evalId)
  addAnnotation tables evalId body none id now

/-- `POST /evaluation-run/{run_id}/annotations`. -/
def createRunAnnotationNew (tables : NoteTables) (runId : Nat) (body : AnnotationCreate)
    (id : Nat) (now : Instant) : Except NoteError NoteTables := do
  let _ <- orRaise .notFound (tables.others.runs.find runId)
  addRunAnnotation tables runId body id now

def getCategoryByName (tables : NoteTables) (name : String) : Option AnnotationCategory :=
  tables.categories.rows.find? (·.name = name)

/-- `POST /note-categories`. -/
def createCategory (tables : NoteTables) (body : AnnotationCategoryCreate) (id : Nat) (now : Instant) :
    Except NoteError NoteTables :=
  let row : AnnotationCategory := {
    id, name := body.name, label := body.label, color := body.color
    showOnGraph := body.showOnGraph, createdAt := now }
  if fresh : tables.categories.find row.id = none then
    if (getCategoryByName tables body.name).isSome then .error .integrity
    else .ok { tables with categories := tables.categories.insert row fresh }
  else .error .integrity

/-- `PATCH /note-categories/{category_id}`. -/
def updateCategory (tables : NoteTables) (categoryId : Nat) (body : AnnotationCategoryUpdate)
    (now : Instant) : Except NoteError NoteTables := do
  let row <- orRaise .notFound (tables.categories.find categoryId)
  if row.isSystem && body.name.any (· ≠ row.name) then .error .systemCategory
  else if body = {} then .ok tables
  else if tables.categories.rows.any fun other => other.id ≠ categoryId && body.name = some other.name then
    .error .integrity
  else
    return { tables with
      categories := tables.categories.update categoryId
        (fun row => { row with
          name := body.name.getD row.name
          label := body.label.getD row.label
          color := body.color.getD row.color
          showOnGraph := body.showOnGraph.getD row.showOnGraph
          updatedAt := some now }) fun _ => rfl }

/-- `UPDATE ... SET category_id`. -/
def reassign (tables : NoteTables) (categoryId newId : Nat) (now : Instant) : NoteTables :=
  { tables with
    annotations := tables.annotations.updateWhere (fun note => note.categoryId = categoryId)
      (fun note => { note with categoryId := newId, updatedAt := some now }) fun _ => rfl }

/-- `DELETE /note-categories/{category_id}`.  The category `info` may be deleted itself, while
no note refers to it. -/
def deleteCategory (tables : NoteTables) (categoryId : Nat) (now : Instant) :
    Except NoteError NoteTables := do
  let row <- orRaise .notFound (tables.categories.find categoryId)
  if row.isSystem then .error .systemCategory
  else do
    let info <- orRaise .notFound (getCategoryByName tables "info")
    let reassigned := reassign tables categoryId info.id now
    if reassigned.annotations.rows.any fun note => note.categoryId = categoryId then .error .integrity
    else return { reassigned with categories := reassigned.categories.delete categoryId }

def resultName : ResultValue -> String
  | .pass => "pass"
  | .warning => "warning"
  | .fail => "fail"
  | .error => "error"

/-- A request to evaluate again, with what the service takes from its surroundings.
`newId`: the identifier of the note of each result, by its position; `scoreText`: how a
score is written. -/
structure ReEvaluationInput where
  request : ReEvaluation.ReEvaluateRequest
  assigned : Nat -> List String
  clock : Nat -> Instant
  now : Instant
  noteGroupId : Nat
  newId : Nat -> Nat
  scoreText : ℚ -> String

def reEvaluationCategoryName : String :=
  "re-evaluation"

def reevalContent (scoreText : ℚ -> String) (item : ReEvaluation.ReEvalResultItem) : String :=
  s!"{item.sloName}: {resultName item.oldResult} → {resultName item.newResult}, " ++
    s!"score {scoreText item.oldScore} → {scoreText item.newScore}"

def noteGroupName (sloNames : List String) : String :=
  match sloNames with
  | [sloName] => s!"re-evaluation — {sloName}"
  | _ => s!"re-evaluation — {sloNames.length} SLOs"

/-- `_add_reeval_annotation`, for one result. -/
def addReevalAnnotation (input : ReEvaluationInput) (categoryId : Nat) (sloNames : List String)
    (tables : NoteTables) (entry : ReEvaluation.ReEvalResultItem × Nat) :
    Except NoteError NoteTables :=
  addAnnotation tables entry.1.id {
      content := reevalContent input.scoreText entry.1
      author := some "system"
      categoryId }
    (some (input.noteGroupId, noteGroupName sloNames)) (input.newId entry.2) input.now

/-- `re_evaluate` with the notes that it adds, and the runs whose columns it drops from the
cache.  One that fails, or that is dry, leaves everything as it was. -/
def reEvaluate (tables : NoteTables) (input : ReEvaluationInput) :
    Except NoteError (NoteTables × List Nat) := do
  let db := tables.others.toDatabase
  let asset <- (orRaise (.valueError s!"asset '{input.request.assetName}' not found")
    (db.assets.rows.find? (·.name = input.request.assetName))).mapError .reEvaluation
  let sloNames <- (ReEvaluation.requestedSlos input.assigned input.request asset.id).mapError .reEvaluation
  let category <- orRaise .notSeeded (getCategoryByName tables reEvaluationCategoryName)
  let (next, response) <-
    (ReEvaluation.reEvaluate input.assigned input.clock db input.request).mapError .reEvaluation
  if input.request.dryRun then return (tables, [])
  else do
    let scored := { tables with others := { tables.others with toDatabase := next } }
    let addOne := addReevalAnnotation input category.id sloNames
    let noted <- response.results.zipIdx.foldlM addOne scored
    return (noted, response.results.filterMap fun item =>
      (next.evaluations.find item.id).map (·.evaluationId))

structure Consistent (tables : NoteTables) : Prop where
  oneParent : forall note, note ∈ tables.annotations.rows -> note.OneParent
  hasCategory : forall note, note ∈ tables.annotations.rows ->
    (tables.categories.find note.categoryId).isSome = true

variable {tables next : NoteTables} {id : Nat} {now : Instant} {body : AnnotationCreate}

section

variable (consistent : Consistent tables)

include consistent

theorem insert_consistent {note : EvaluationAnnotation}
    (inserted : insertAnnotation tables note = .ok next) : Consistent next := by
  unfold insertAnnotation at inserted
  by_cases fresh : tables.annotations.find note.id = none
  · rw [dif_pos fresh] at inserted
    by_cases allowed : note.OneParent ∧ parentExists tables.others.toDatabase note = true ∧
        (tables.categories.find note.categoryId).isSome = true
    · rw [if_pos allowed] at inserted
      cases inserted
      constructor
      · intro other member
        rcases (mem_insert _ note fresh other).mp member with older | same
        · exact consistent.oneParent other older
        · rw [same]
          exact allowed.1
      · intro other member
        rcases (mem_insert _ note fresh other).mp member with older | same
        · exact consistent.hasCategory other older
        · rw [same]
          exact allowed.2.2
    · rw [if_neg allowed] at inserted
      cases inserted
  · rw [dif_neg fresh] at inserted
    cases inserted

theorem change_consistent {condition : EvaluationAnnotation -> Bool}
    {change : EvaluationAnnotation -> EvaluationAnnotation}
    {keeps : forall note, (change note).id = note.id}
    (sloEvaluation : forall note, (change note).sloEvaluationId = note.sloEvaluationId)
    (evaluationRun : forall note, (change note).evaluationRunId = note.evaluationRunId)
    (category : forall note, note ∈ tables.annotations.rows ->
      (tables.categories.find (change note).categoryId).isSome = true) :
    Consistent { tables with annotations := tables.annotations.updateWhere condition change keeps } := by
  constructor
  · intro note member
    rcases (mem_updateWhere _ condition change keeps note).mp member with ⟨old, inside, same⟩
    have before := consistent.oneParent old inside
    rw [<- same]
    by_cases selected : condition old = true
    · rw [if_pos selected]
      unfold EvaluationAnnotation.OneParent
      rw [sloEvaluation, evaluationRun]
      exact before
    · rw [if_neg selected]
      exact before
  · intro note member
    rcases (mem_updateWhere _ condition change keeps note).mp member with ⟨old, inside, same⟩
    rw [<- same]
    by_cases selected : condition old = true
    · rw [if_pos selected]
      exact category old inside
    · rw [if_neg selected]
      exact consistent.hasCategory old inside

theorem updateAnnotation_consistent {body : AnnotationUpdate}
    (updated : updateAnnotation tables id body now = .ok next) : Consistent next := by
  unfold updateAnnotation at updated
  split at updated
  · cases updated
  · split at updated
    · cases updated
      exact consistent
    · split at updated
      · cases updated
      · rename_i known
        cases updated
        apply change_consistent consistent
        · intro note
          rfl
        · intro note
          rfl
        · intro note member
          cases given : body.categoryId with
          | none => exact consistent.hasCategory note member
          | some categoryId =>
              rw [given] at known
              rw [Option.isSome_iff_ne_none]
              simpa using known

theorem hideAnnotation_consistent {body : AnnotationHide}
    (hidden : hideAnnotation tables id body now = .ok next) : Consistent next := by
  unfold hideAnnotation at hidden
  split at hidden
  · cases hidden
  · cases hidden
    apply change_consistent consistent
    · intro note
      rfl
    · intro note
      rfl
    · intro note member
      exact consistent.hasCategory note member

theorem createAnnotation_consistent {evalId : Nat}
    (created : createAnnotationSingular tables evalId body id now = .ok next) :
    Consistent next := by
  rcases bind_eq_ok.mp created with ⟨_, _, inserted⟩
  exact insert_consistent consistent inserted

theorem createRunAnnotation_consistent {runId : Nat}
    (created : createRunAnnotationNew tables runId body id now = .ok next) : Consistent next := by
  rcases bind_eq_ok.mp created with ⟨_, _, inserted⟩
  exact insert_consistent consistent inserted

theorem consistent_of_categories {categories : KeyedTable AnnotationCategory.id}
    (kept : forall note, note ∈ tables.annotations.rows ->
      (categories.find note.categoryId).isSome = true) :
    Consistent { tables with categories } where
  oneParent := consistent.oneParent
  hasCategory := kept

theorem createCategory_consistent {body : AnnotationCategoryCreate}
    (created : createCategory tables body id now = .ok next) : Consistent next := by
  unfold createCategory at created
  dsimp only at created
  split at created
  · split at created
    · cases created
    · cases created
      apply consistent_of_categories consistent
      intro note member
      rw [find_insert]
      split
      · rfl
      · exact consistent.hasCategory note member
  · cases created

theorem updateCategory_consistent {categoryId : Nat} {body : AnnotationCategoryUpdate}
    (updated : updateCategory tables categoryId body now = .ok next) : Consistent next := by
  rcases bind_eq_ok.mp updated with ⟨row, _, updated⟩
  split at updated
  · cases updated
  · split at updated
    · cases updated
      exact consistent
    · split at updated
      · cases updated
      · cases updated
        apply consistent_of_categories consistent
        intro note member
        rw [find_update]
        split
        · rw [Option.isSome_map]
          exact consistent.hasCategory note member
        · exact consistent.hasCategory note member

theorem deleteCategory_consistent {categoryId : Nat}
    (deleted : deleteCategory tables categoryId now = .ok next) : Consistent next := by
  rcases bind_eq_ok.mp deleted with ⟨row, _, deleted⟩
  split at deleted
  · cases deleted
  · rcases bind_eq_ok.mp deleted with ⟨info, found, deleted⟩
    have isInfo := orRaise_eq_ok.mp found
    have moved : Consistent (reassign tables categoryId info.id now) := by
      apply change_consistent consistent
      · intro note
        rfl
      · intro note
        rfl
      · intro note _
        change (tables.categories.find info.id).isSome = true
        rw [find_of_mem (List.mem_of_find?_eq_some isInfo)]
        rfl
    dsimp only at deleted
    split at deleted
    · cases deleted
    · rename_i unused
      cases deleted
      apply consistent_of_categories moved
      intro note member
      rw [find_delete, if_neg]
      · exact moved.hasCategory note member
      · intro same
        exact unused (List.any_eq_true.mpr ⟨note, member, decide_eq_true same⟩)

theorem reEvaluate_consistent {input : ReEvaluationInput} {dropped : List Nat}
    (scored : reEvaluate tables input = .ok (next, dropped)) : Consistent next := by
  rcases bind_eq_ok.mp scored with ⟨asset, _, scored⟩
  rcases bind_eq_ok.mp scored with ⟨sloNames, _, scored⟩
  rcases bind_eq_ok.mp scored with ⟨category, _, scored⟩
  rcases bind_eq_ok.mp scored with ⟨⟨db, response⟩, _, scored⟩
  dsimp only at scored
  split at scored
  · cases scored
    exact consistent
  · rcases bind_eq_ok.mp scored with ⟨noted, looped, scored⟩
    cases scored
    have start : Consistent { tables with others := { tables.others with toDatabase := db } } :=
      ⟨consistent.oneParent, consistent.hasCategory⟩
    apply foldlM_preserves _ start looped
    intro state entry after _ holds added
    exact insert_consistent holds added

end

end Notes
end Tropek
