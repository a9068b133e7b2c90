import Tropek.Library.Grouping
import Tropek.Library.TransitionSystem
import Tropek.Notes.Operations

namespace Tropek
namespace Notes

open Library Engine Store Presentation KeyedTable Fallible

/-!
# Which notes are seen

Three queries decide which notes of a run are visible: the indicator of a heatmap column,
the list beside the column, and the notes under the points of a trend.  The indicator and
the trend reach a note through one union of both kinds of parents, the list asks for the
notes of the run and for those of each of its evaluations.

They agree because a note has exactly one parent: a note with both would be listed twice
beside its column and once under its point.
-/

/-! ## Responses -/

structure AnnotationRead where
  id : Nat
  sloEvaluationId : Option Nat
  evaluationRunId : Option Nat
  content : String
  author : Option String
  categoryId : Nat
  category : AnnotationCategory
  tags : Tags
  noteGroupId : Option Nat
  noteGroupName : Option String
  hiddenAt : Option Instant
  hiddenBy : Option String
  hiddenReason : Option String
  createdAt : Instant
  updatedAt : Option Instant
deriving DecidableEq

/-- `AnnotationRead.model_validate`.  A note without its category does not fit. -/
def toAnnotationRead (tables : NoteTables) (note : EvaluationAnnotation) : Except NoteError AnnotationRead := do
  let category <- orRaise .unreadable (tables.categories.find note.categoryId)
  return {
    id := note.id
    sloEvaluationId := note.sloEvaluationId
    evaluationRunId := note.evaluationRunId
    content := note.content
    author := note.author
    categoryId := note.categoryId
    category
    tags := note.tags
    noteGroupId := note.noteGroupId
    noteGroupName := note.noteGroupName
    hiddenAt := note.hiddenAt
    hiddenBy := note.hiddenBy
    hiddenReason := note.hiddenReason
    createdAt := note.createdAt
    updatedAt := note.updatedAt }

/-! ## The queries -/

def visible (tables : NoteTables) : List EvaluationAnnotation :=
  tables.annotations.rows.filter (·.hiddenAt.isNone)

def heatmapNote (note : EvaluationAnnotation) : Presentation.EvaluationAnnotation :=
  { id := note.id
    sloEvaluationId := note.sloEvaluationId
    evaluationRunId := note.evaluationRunId
    hidden := note.hiddenAt.isSome }

def heatmapTables (tables : NoteTables) : HeatmapTables :=
  { tables.others with annotations := tables.annotations.rows.map heatmapNote }

def listForRun (tables : NoteTables) (runId : Nat) : List EvaluationAnnotation :=
  Latest.sortBy EvaluationAnnotation.createdAt
    ((visible tables).filter fun note => note.evaluationRunId = some runId)

/-- The notes that `get_by_run_id` loads with an evaluation. -/
def visibleOf (tables : NoteTables) (sloEval : SLOEvaluation) : List EvaluationAnnotation :=
  (visible tables).filter fun note => note.sloEvaluationId = some sloEval.id

/-- `GET /evaluations/column-annotations`. -/
def getColumnAnnotations (tables : NoteTables) (evaluationId : Nat) :
    Except NoteError (List AnnotationRead) := do
  let _ <- orRaise .notFound (tables.others.runs.find evaluationId)
  let sloEvals := sloEvaluationsOf tables.others.toTables evaluationId
  let merged := listForRun tables evaluationId ++ sloEvals.flatMap (visibleOf tables)
  (Latest.sortBy EvaluationAnnotation.createdAt merged).mapM (toAnnotationRead tables)

def trendEvaluations (tables : NoteTables) (assetId : Nat) (sloName : String) : List SLOEvaluation :=
  tables.others.evaluations.rows.filter fun sloEval =>
    sloEval.assetId = assetId && sloEval.sloName = sloName

def runToSloEvals (sloEvals : List SLOEvaluation) (runId : Nat) : List Nat :=
  (sloEvals.filter (·.evaluationId = runId)).map (·.id)

/-- The notes of `list_for_trend`. -/
def listForTrend (tables : NoteTables) (sloEvals : List SLOEvaluation) : List EvaluationAnnotation :=
  Latest.sortBy EvaluationAnnotation.createdAt ((visible tables).filter fun note =>
    note.sloEvaluationId.any (sloEvals.map (·.id)).contains ||
      note.evaluationRunId.any (sloEvals.map (·.evaluationId)).contains)

def targetsOf (sloEvals : List SLOEvaluation) (note : EvaluationAnnotation) : List Nat :=
  match note.sloEvaluationId with
  | some sloEvaluationId => [sloEvaluationId]
  | none =>
      match note.evaluationRunId with
      | some runId => runToSloEvals sloEvals runId
      | none => []

/-- `out.setdefault(..., []).append(read)`. -/
def appendRead (notes : Option (List AnnotationRead)) (part : Nat × AnnotationRead) :
    List AnnotationRead :=
  notes.getD [] ++ [part.2]

/-- The notes of a response under each evaluation that a note is shown under. -/
def trendPart (tables : NoteTables) (sloEvals : List SLOEvaluation) (note : EvaluationAnnotation) :
    Except NoteError (List (Nat × AnnotationRead)) := do
  let read <- toAnnotationRead tables note
  return (targetsOf sloEvals note).map fun target => (target, read)

/-- The response of `GET /evaluations/trend-annotations`, keyed by the evaluations. -/
abbrev TrendAnnotations : Type :=
  AList fun _ : Nat => List AnnotationRead

def TrendAnnotations.under (trend : TrendAnnotations) (sloEvaluationId : Nat) : List AnnotationRead :=
  (trend.lookup sloEvaluationId).getD []

def getTrendAnnotations (tables : NoteTables) (assetName sloName : String) :
    Except NoteError TrendAnnotations := do
  let asset <- orRaise .notFound (Worker.findAsset tables.others.toDatabase assetName)
  let sloEvals := trendEvaluations tables asset.id sloName
  let parts <- (listForTrend tables sloEvals).mapM (trendPart tables sloEvals)
  return Grouping.collectAll Prod.fst appendRead parts.flatten

/-! ## Agreement -/

def IndicatorAgrees (tables : NoteTables) (cache : HeatmapCache) (run : EvaluationRun)
    (notes : List AnnotationRead) : Prop :=
  forall request response left,
    getGroupedMetricHeatmapNew (heatmapTables tables) cache request = .ok (response, left) ->
      forall column, column ∈ response.columns -> column.evaluationId = run.id ->
        (column.hasNotes = true ↔ notes ≠ [])

/-- The notes under each evaluation of the run are those of the run and its own. -/
def TrendAgrees (tables : NoteTables) (run : EvaluationRun) (notes : List AnnotationRead) : Prop :=
  forall assetName asset sloName,
    Worker.findAsset tables.others.toDatabase assetName = some asset ->
      Exists fun trend => getTrendAnnotations tables assetName sloName = .ok trend ∧
        forall sloEval, sloEval ∈ tables.others.evaluations.rows -> sloEval.evaluationId = run.id ->
          sloEval.assetId = asset.id -> sloEval.sloName = sloName ->
          (trend.under sloEval.id).Perm (notes.filter fun note =>
            note.evaluationRunId = some run.id || note.sloEvaluationId = some sloEval.id)

def NotesAgree (tables : NoteTables) (cache : HeatmapCache) : Prop :=
  forall run, run ∈ tables.others.runs.rows ->
    Exists fun notes => getColumnAnnotations tables run.id = .ok notes ∧
      IndicatorAgrees tables cache run notes ∧ TrendAgrees tables run notes

/-! ## Requests and workers -/

structure NoteState where
  tables : NoteTables
  cache : HeatmapCache

/-- The requests on notes, and what else changes the tables and the cached columns.
`others`: any other request, and the workers, change the other tables; `view`: a heatmap
is read, and leaves the columns that it has built; `warm`: the worker that completes a
run builds its column; `drop`: entries are deleted, or expire. -/
inductive NoteAction where
  | createAnnotationSingular (evalId : Nat) (body : AnnotationCreate) (id : Nat) (now : Instant)
  | createRunAnnotationNew (runId : Nat) (body : AnnotationCreate) (id : Nat) (now : Instant)
  | updateAnnotationSingular (annotationId : Nat) (body : AnnotationUpdate) (now : Instant)
  | hideAnnotationSingular (annotationId : Nat) (body : AnnotationHide) (now : Instant)
  | createCategory (body : AnnotationCategoryCreate) (id : Nat) (now : Instant)
  | updateCategory (categoryId : Nat) (body : AnnotationCategoryUpdate) (now : Instant)
  | deleteCategory (categoryId : Nat) (now : Instant)
  | reEvaluate (input : ReEvaluationInput)
  | others (next : TrendTables)
  | view (request : GroupedHeatmapRequest)
  | warm (runId : Nat)
  | drop (runIds : List Nat)

def NoteAction.perform (tables : NoteTables) : NoteAction -> Except NoteError NoteTables
  | .createAnnotationSingular evalId body id now => Notes.createAnnotationSingular tables evalId body id now
  | .createRunAnnotationNew runId body id now => Notes.createRunAnnotationNew tables runId body id now
  | .updateAnnotationSingular annotationId body now => updateAnnotation tables annotationId body now
  | .hideAnnotationSingular annotationId body now => hideAnnotation tables annotationId body now
  | .createCategory body id now => Notes.createCategory tables body id now
  | .updateCategory categoryId body now => Notes.updateCategory tables categoryId body now
  | .deleteCategory categoryId now => Notes.deleteCategory tables categoryId now
  | .reEvaluate input => (Notes.reEvaluate tables input).map Prod.fst
  | .others next => .ok { tables with others := next }
  | .view _ => .ok tables
  | .warm _ => .ok tables
  | .drop _ => .ok tables

def NoteAction.leaves (state : NoteState) : NoteAction -> HeatmapCache
  | .reEvaluate input =>
      match Notes.reEvaluate state.tables input with
      | .ok (_, runIds) => state.cache.deleteMany runIds
      | .error _ => state.cache
  | .view request =>
      match getGroupedMetricHeatmapNew (heatmapTables state.tables) state.cache request with
      | .ok (_, cache) => cache
      | .error _ => state.cache
  | .warm runId =>
      match (state.tables.others.runs.find runId).map
          (buildColumnFragment state.tables.others.toTables · false) with
      | some (.ok fragment) => state.cache.setMany (entriesOf [fragment])
      | _ => state.cache
  | .drop runIds => state.cache.deleteMany runIds
  | _ => state.cache

/-- A request that fails leaves the tables, and every action leaves the cached columns
that it does. -/
def noteStep (state : NoteState) (action : NoteAction) : Option NoteState :=
  some {
    tables := match action.perform state.tables with
      | .ok tables => tables
      | .error _ => state.tables
    cache := action.leaves state }

/-- No note is written and no column is cached.  Evaluations and categories are
arbitrary. -/
structure NoteState.Initial (state : NoteState) : Prop where
  noNotes : state.tables.annotations.rows = []
  noColumns : forall runId, state.cache runId = none

/-! ## Columns in the cache -/

def OwnColumns (cache : HeatmapCache) : Prop :=
  forall runId fragment, cache runId = some fragment -> fragment.column.evaluationId = runId

variable {fragment : HeatmapColumnFragment} {run : EvaluationRun}
  {rebuilt : List HeatmapColumnFragment} {cache fragmentsById : HeatmapCache}
  {response : GroupedMetricHeatmapResponse} {state : NoteState} {tables : NoteTables}
  {note : EvaluationAnnotation} {notes : List EvaluationAnnotation} {assetId : Nat}
  {sloEval : SLOEvaluation} {sloName : String} {sloEvals : List SLOEvaluation}

theorem buildColumnFragment_own {tables : Tables} {hasNotes : Bool}
    (built : buildColumnFragment tables run hasNotes = .ok fragment) :
    fragment.column.evaluationId = fragment.evaluationRunId := by
  rcases bind_eq_ok.mp built with ⟨_, _, same⟩
  cases same
  rfl

theorem rebuildFragments_own {tables : Tables} {asset : Asset} {missing : List Nat}
    (returned : rebuildFragments tables asset missing = .ok rebuilt) :
    forall fragment, fragment ∈ rebuilt -> fragment.column.evaluationId = fragment.evaluationRunId := by
  have looped := mapM_eq_ok.mp (mapError_eq_ok returned)
  intro fragment member
  rcases mem_related (List.Forall₂.flip looped) member with ⟨run, _, built⟩
  exact buildColumnFragment_own built

section

variable (own : OwnColumns cache)

include own

theorem OwnColumns.setMany
    (each : forall fragment, fragment ∈ rebuilt ->
      fragment.column.evaluationId = fragment.evaluationRunId) :
    OwnColumns (cache.setMany (entriesOf rebuilt)) := by
  intro runId fragment found
  rcases Cache.setMany_eq_some found with written | older
  · rcases List.mem_map.mp written with ⟨other, member, same⟩
    cases same
    exact each _ member
  · exact own runId fragment older

theorem OwnColumns.deleteMany (runIds : List Nat) : OwnColumns (cache.deleteMany runIds) := by
  intro runId fragment found
  exact own runId fragment (Cache.deleteMany_eq_some.mp found).2

theorem OwnColumns.ifUsed (used : Bool) : OwnColumns (if used then cache else fun _ => none) := by
  cases used with
  | true => exact own
  | false =>
      intro runId fragment found
      cases found

theorem heatmap_parts {tables : HeatmapTables} {left : HeatmapCache}
    {request : GroupedHeatmapRequest}
    (answered : getGroupedMetricHeatmapNew tables cache request = .ok (response, left)) :
    OwnColumns left ∧ Exists fun candidateRuns => Exists fun fragmentsById =>
      OwnColumns fragmentsById ∧
        respond tables request.assetName candidateRuns fragmentsById = .ok response := by
  rcases bind_eq_ok.mp answered with ⟨asset, _, answered⟩
  rcases bind_eq_ok.mp answered with ⟨rebuilt, rebuild, answered⟩
  rcases bind_eq_ok.mp answered with ⟨responded, responds, same⟩
  cases same
  have each := rebuildFragments_own rebuild
  refine ⟨?_, _, _, (own.ifUsed request.cache).setMany each, responds⟩
  cases request.cache with
  | true => exact own.setMany each
  | false => exact own

end

theorem leaves_own (own : OwnColumns state.cache) (action : NoteAction) :
    OwnColumns (action.leaves state) := by
  cases action with
  | reEvaluate input =>
      unfold NoteAction.leaves
      dsimp only
      split
      · exact own.deleteMany _
      · exact own
  | view request =>
      unfold NoteAction.leaves
      dsimp only
      split
      · rename_i answered
        exact (heatmap_parts own answered).1
      · exact own
  | warm runId =>
      unfold NoteAction.leaves
      dsimp only
      split
      · rename_i fragment built
        rcases Option.map_eq_some_iff.mp built with ⟨run, _, isBuilt⟩
        apply own.setMany
        intro other member
        rw [List.mem_singleton.mp member]
        exact buildColumnFragment_own isBuilt
      · exact own
  | drop runIds => exact own.deleteMany runIds
  | _ => exact own

/-! ## What every run keeps -/

structure NoteState.Kept (state : NoteState) : Prop where
  consistent : Consistent state.tables
  own : OwnColumns state.cache

theorem perform_consistent {next : NoteTables} (consistent : Consistent tables)
    {action : NoteAction} (performed : action.perform tables = .ok next) : Consistent next := by
  cases action with
  | createAnnotationSingular evalId body id now => exact createAnnotation_consistent consistent performed
  | createRunAnnotationNew runId body id now => exact createRunAnnotation_consistent consistent performed
  | updateAnnotationSingular annotationId body now => exact updateAnnotation_consistent consistent performed
  | hideAnnotationSingular annotationId body now => exact hideAnnotation_consistent consistent performed
  | createCategory body id now => exact createCategory_consistent consistent performed
  | updateCategory categoryId body now => exact updateCategory_consistent consistent performed
  | deleteCategory categoryId now => exact deleteCategory_consistent consistent performed
  | reEvaluate input =>
      unfold NoteAction.perform at performed
      dsimp only at performed
      cases scored : reEvaluate tables input with
      | error failure =>
          rw [scored] at performed
          cases performed
      | ok both =>
          rw [scored] at performed
          cases performed
          exact reEvaluate_consistent consistent scored
  | others other =>
      cases performed
      exact ⟨consistent.oneParent, consistent.hasCategory⟩
  | _ =>
      cases performed
      exact consistent

theorem NoteState.Kept.step {next : NoteState} (kept : state.Kept) {action : NoteAction}
    (stepped : noteStep state action = some next) : next.Kept := by
  cases stepped
  refine ⟨?_, leaves_own kept.own action⟩
  dsimp only
  split
  · rename_i performed
    exact perform_consistent kept.consistent performed
  · exact kept.consistent

theorem NoteState.Initial.kept (initial : state.Initial) : state.Kept where
  consistent := {
    oneParent := by
      rw [initial.noNotes]
      intro note impossible
      exact absurd impossible List.not_mem_nil
    hasCategory := by
      rw [initial.noNotes]
      intro note impossible
      exact absurd impossible List.not_mem_nil }
  own := by
    intro runId fragment found
    rw [initial.noColumns] at found
    cases found

/-! ## Reading notes -/

def reads (tables : NoteTables) (notes : List EvaluationAnnotation) : List AnnotationRead :=
  notes.filterMap fun note => (toAnnotationRead tables note).toOption

theorem toAnnotationRead_returns
    (hasCategory : (tables.categories.find note.categoryId).isSome = true) :
    Exists fun read => toAnnotationRead tables note = .ok read ∧
      read.sloEvaluationId = note.sloEvaluationId ∧ read.evaluationRunId = note.evaluationRunId := by
  rcases Option.isSome_iff_exists.mp hasCategory with ⟨category, found⟩
  unfold toAnnotationRead
  rw [found]
  exact ⟨_, rfl, rfl, rfl⟩

theorem reads_cons {read : AnnotationRead} (returned : toAnnotationRead tables note = .ok read)
    (rest : List EvaluationAnnotation) :
    reads tables (note :: rest) = read :: reads tables rest := by
  unfold reads
  rw [List.filterMap_cons, returned]
  rfl

section

variable
  (hasCategory : forall note, note ∈ notes ->
    (tables.categories.find note.categoryId).isSome = true)

include hasCategory

theorem mapM_toAnnotationRead :
    notes.mapM (toAnnotationRead tables) = .ok (reads tables notes) ∧
      (reads tables notes = [] ↔ notes = []) := by
  induction notes with
  | nil => exact ⟨rfl, iff_of_true rfl rfl⟩
  | cons note rest ih =>
      rcases toAnnotationRead_returns (hasCategory note List.mem_cons_self) with ⟨read, returned, _⟩
      have later := (ih fun other member =>
        hasCategory other (List.mem_cons_of_mem _ member)).1
      rw [reads_cons returned]
      constructor
      · rw [List.mapM_cons, returned, later]
        rfl
      · simp

theorem reads_filter (selected : Option Nat -> Option Nat -> Bool) :
    (reads tables notes).filter (fun read => selected read.evaluationRunId read.sloEvaluationId) =
      reads tables (notes.filter fun note => selected note.evaluationRunId note.sloEvaluationId) := by
  induction notes with
  | nil => rfl
  | cons note rest ih =>
      rcases toAnnotationRead_returns (hasCategory note List.mem_cons_self) with
        ⟨read, returned, sameEvaluation, sameRun⟩
      have later := ih fun other member =>
        hasCategory other (List.mem_cons_of_mem _ member)
      rw [reads_cons returned, List.filter_cons, List.filter_cons, sameEvaluation, sameRun, later]
      by_cases chosen : selected note.evaluationRunId note.sloEvaluationId = true
      · rw [if_pos chosen, if_pos chosen, reads_cons returned]
      · rw [if_neg chosen, if_neg chosen]

end

/-! ## The notes of a column -/

def columnNotes (tables : NoteTables) (runId : Nat) : List EvaluationAnnotation :=
  listForRun tables runId ++ (sloEvaluationsOf tables.others.toTables runId).flatMap (visibleOf tables)

theorem mem_columnNotes {runId : Nat} :
    note ∈ columnNotes tables runId ↔ note ∈ visible tables ∧
      (note.evaluationRunId = some runId ∨
        Exists fun sloEval => sloEval ∈ tables.others.evaluations.rows ∧
          sloEval.evaluationId = runId ∧ note.sloEvaluationId = some sloEval.id) := by
  unfold columnNotes listForRun visibleOf sloEvaluationsOf
  simp only [List.mem_append, List.mem_flatMap, List.mem_filter, decide_eq_true_eq,
    (Latest.sortBy_perm EvaluationAnnotation.createdAt _).mem_iff]
  constructor
  · rintro (⟨seen, onRun⟩ | ⟨sloEval, ⟨stored, ofRun⟩, seen, onEvaluation⟩)
    · exact ⟨seen, Or.inl onRun⟩
    · exact ⟨seen, Or.inr ⟨sloEval, stored, ofRun, onEvaluation⟩⟩
  · rintro ⟨seen, onRun | ⟨sloEval, stored, ofRun, onEvaluation⟩⟩
    · exact Or.inl ⟨seen, onRun⟩
    · exact Or.inr ⟨sloEval, ⟨stored, ofRun⟩, seen, onEvaluation⟩

theorem columnNotes_hasCategory (consistent : Consistent tables) (runId : Nat) :
    forall note, note ∈ Latest.sortBy EvaluationAnnotation.createdAt (columnNotes tables runId) ->
      (tables.categories.find note.categoryId).isSome = true := by
  intro note member
  have inColumn := (Latest.sortBy_perm EvaluationAnnotation.createdAt _).mem_iff.mp member
  exact consistent.hasCategory note (List.mem_filter.mp (mem_columnNotes.mp inColumn).1).1

theorem getColumnAnnotations_returns (consistent : Consistent tables)
    (stored : run ∈ tables.others.runs.rows) :
    getColumnAnnotations tables run.id =
      .ok (reads tables (Latest.sortBy EvaluationAnnotation.createdAt (columnNotes tables run.id))) := by
  apply bind_eq_ok.mpr
  refine ⟨run, orRaise_eq_ok.mpr (find_of_mem stored), ?_⟩
  exact (mapM_toAnnotationRead (columnNotes_hasCategory consistent run.id)).1

theorem filter_heatmapNotes (tables : NoteTables) :
    (heatmapTables tables).annotations.filter (!·.hidden) = (visible tables).map heatmapNote := by
  unfold heatmapTables visible
  rw [List.filter_map]
  congr 2
  funext note
  exact Option.not_isSome note.hiddenAt

theorem mem_getRunIdsWithNotes {runIds : List Nat} {runId : Nat} :
    runId ∈ getRunIdsWithNotes (heatmapTables tables) runIds ↔
      runId ∈ runIds ∧ columnNotes tables runId ≠ [] := by
  have listed : columnNotes tables runId ≠ [] ↔ Exists fun note => note ∈ columnNotes tables runId :=
    ⟨List.exists_mem_of_ne_nil _, fun ⟨_, member⟩ => List.ne_nil_of_mem member⟩
  rw [listed]
  unfold getRunIdsWithNotes
  rw [filter_heatmapNotes]
  simp only [List.mem_filter, List.mem_append, List.mem_filterMap, List.contains_iff_mem, List.mem_map]
  rw [and_comm]
  refine and_congr_right fun _ => ?_
  constructor
  · rintro (⟨_, ⟨note, seen, rfl⟩, joined⟩ | ⟨_, ⟨note, seen, rfl⟩, onRun⟩)
    · rcases Option.map_eq_some_iff.mp joined with ⟨sloEval, found, ofRun⟩
      rcases Option.bind_eq_some_iff.mp found with ⟨id, onEvaluation, found⟩
      refine ⟨note, mem_columnNotes.mpr ⟨seen, Or.inr ⟨sloEval, find_mem found, ofRun, ?_⟩⟩⟩
      rw [find_key found]
      exact onEvaluation
    · exact ⟨note, mem_columnNotes.mpr ⟨seen, Or.inl onRun⟩⟩
  · rintro ⟨note, member⟩
    rcases mem_columnNotes.mp member with ⟨seen, onRun | ⟨sloEval, stored, ofRun, onEvaluation⟩⟩
    · exact Or.inr ⟨_, ⟨note, seen, rfl⟩, onRun⟩
    · refine Or.inl ⟨_, ⟨note, seen, rfl⟩, ?_⟩
      change (note.sloEvaluationId.bind tables.others.evaluations.find).map _ = _
      rw [onEvaluation, Option.bind_some, find_of_mem stored]
      exact congrArg some ofRun

/-! ## The indicator -/

theorem notedFragment_column {noted : List Nat} (own : OwnColumns fragmentsById)
    (returned : notedFragment fragmentsById noted run = .ok fragment) :
    fragment.column.evaluationId = run.id ∧ fragment.column.hasNotes = noted.contains run.id := by
  rcases bind_eq_ok.mp returned with ⟨cached, found, same⟩
  cases same
  exact ⟨own run.id cached (orRaise_eq_ok.mp found), rfl⟩

theorem enrich_columns (tables : TrendTables) (orderedRuns : List EvaluationRun)
    (response : GroupedMetricHeatmapResponse) :
    (enrichHeatmapWithChangePoints tables orderedRuns response).columns = response.columns := by
  cases orderedRuns <;> rfl

/-- A displayed column is that of a candidate run, with the indicator of this request. -/
theorem respond_columns {tables : HeatmapTables} {assetName : String}
    {candidateRuns : List EvaluationRun} (own : OwnColumns fragmentsById)
    (responded : respond tables assetName candidateRuns fragmentsById = .ok response) :
    forall column, column ∈ response.columns -> Exists fun run => run ∈ candidateRuns ∧
      column.evaluationId = run.id ∧
        column.hasNotes = (getRunIdsWithNotes tables (candidateRuns.map (·.id))).contains run.id := by
  rcases bind_eq_ok.mp responded with ⟨fragments, looped, same⟩
  cases same
  intro column member
  rw [enrich_columns] at member
  rcases List.mem_map.mp member with ⟨fragment, inside, isColumn⟩
  have related := List.Forall₂.flip (mapM_eq_ok.mp looped)
  rcases mem_related related inside with ⟨run, ordered, returned⟩
  rw [<- isColumn]
  exact ⟨run, (Latest.sortBy_perm runKey candidateRuns).mem_iff.mp ordered,
    notedFragment_column own returned⟩

theorem indicator_agrees (own : OwnColumns cache) {notes : List AnnotationRead}
    (listed : notes = [] ↔ columnNotes tables run.id = []) :
    IndicatorAgrees tables cache run notes := by
  intro request response left answered column member isRun
  rcases (heatmap_parts own answered).2 with ⟨candidateRuns, fragmentsById, ownFragments, responded⟩
  rcases respond_columns ownFragments responded column member with ⟨shown, candidate, sameRun, indicator⟩
  have same : shown.id = run.id := sameRun.symm.trans isRun
  rw [indicator, List.contains_iff_mem, mem_getRunIdsWithNotes, same, Ne, Ne, not_congr listed]
  refine and_iff_right ?_
  rw [<- same]
  exact List.mem_map_of_mem candidate

/-! ## The trend -/

def attached (runId sloEvaluationId : Nat) (evaluationRun sloEvaluation : Option Nat) : Bool :=
  evaluationRun = some runId || sloEvaluation = some sloEvaluationId

theorem EvaluationAnnotation.OneParent.noRun (oneParent : note.OneParent) {id : Nat}
    (onEvaluation : note.sloEvaluationId = some id) : note.evaluationRunId = none := by
  unfold EvaluationAnnotation.OneParent at oneParent
  rw [onEvaluation] at oneParent
  cases onRun : note.evaluationRunId with
  | none => rfl
  | some runId =>
      rw [onRun] at oneParent
      exact absurd rfl oneParent

theorem appendReads (parts : List (Nat × AnnotationRead)) :
    (Grouping.entryOf appendRead parts).getD [] = parts.map Prod.snd := by
  unfold Grouping.entryOf
  induction parts using List.reverseRecOn with
  | nil => rfl
  | append_singleton rest part ih =>
      rw [List.foldl_append, List.foldl_cons, List.foldl_nil, Option.getD_some, appendRead,
        ih, List.map_append]
      rfl

section

variable (member : sloEval ∈ trendEvaluations tables assetId sloName)

include member

theorem runToSloEvals_filter (runId : Nat) :
    (runToSloEvals (trendEvaluations tables assetId sloName) runId).filter (fun id => id = sloEval.id) =
      if sloEval.evaluationId = runId then [sloEval.id] else [] := by
  have stored := (List.mem_filter.mp member).1
  have selected := (List.mem_filter.mp member).2
  have single : tables.others.evaluations.rows.filter (fun other => other.id = sloEval.id) = [sloEval] := by
    rw [filter_key, find_of_mem stored]
    rfl
  have swapped : ((trendEvaluations tables assetId sloName).filter (·.evaluationId = runId)).filter
      (fun other => other.id = sloEval.id) =
      ((tables.others.evaluations.rows.filter fun other => other.id = sloEval.id).filter fun other =>
        other.assetId = assetId && other.sloName = sloName).filter (·.evaluationId = runId) := by
    unfold trendEvaluations
    simp only [List.filter_filter]
    apply List.filter_congr
    intro other _
    ac_rfl
  unfold runToSloEvals
  rw [List.filter_map]
  change (((trendEvaluations tables assetId sloName).filter (·.evaluationId = runId)).filter
    (fun other => other.id = sloEval.id)).map (·.id) = _
  have kept : [sloEval].filter (fun other => other.assetId = assetId && other.sloName = sloName) =
      [sloEval] := List.filter_cons_of_pos selected
  rw [swapped, single, kept, List.filter_cons]
  by_cases ofRun : sloEval.evaluationId = runId
  · rw [if_pos (decide_eq_true ofRun), if_pos ofRun]
    rfl
  · rw [if_neg (by simpa using ofRun), if_neg ofRun]
    rfl

/-- A note is shown once under an evaluation that it is attached to, itself or by its run,
and under no other. -/
theorem targetsOf_filter (oneParent : note.OneParent) :
    (targetsOf (trendEvaluations tables assetId sloName) note).filter (fun id => id = sloEval.id) =
      if attached sloEval.evaluationId sloEval.id note.evaluationRunId note.sloEvaluationId then
        [sloEval.id]
      else [] := by
  unfold targetsOf attached
  cases onEvaluation : note.sloEvaluationId with
  | some id =>
      rw [oneParent.noRun onEvaluation]
      by_cases same : id = sloEval.id
      · simp [same]
      · simp [same]
  | none =>
      cases onRun : note.evaluationRunId with
      | none =>
          unfold EvaluationAnnotation.OneParent at oneParent
          rw [onEvaluation, onRun] at oneParent
          exact absurd rfl oneParent
      | some runId =>
          dsimp only
          rw [runToSloEvals_filter member]
          by_cases same : sloEval.evaluationId = runId
          · simp [same]
          · simp [same, Ne.symm same]

theorem trendParts_under (oneParent : forall note, note ∈ notes -> note.OneParent)
    {parts : List (List (Nat × AnnotationRead))}
    (looped : notes.mapM (trendPart tables (trendEvaluations tables assetId sloName)) = .ok parts) :
    (parts.flatten.filter fun part => part.1 = sloEval.id).map Prod.snd =
      reads tables (notes.filter fun note =>
        attached sloEval.evaluationId sloEval.id note.evaluationRunId note.sloEvaluationId) := by
  induction notes generalizing parts with
  | nil =>
      cases looped
      rfl
  | cons note rest ih =>
      rw [List.mapM_cons] at looped
      rcases bind_eq_ok.mp looped with ⟨part, first, looped⟩
      rcases bind_eq_ok.mp looped with ⟨others, looped, same⟩
      rcases bind_eq_ok.mp first with ⟨read, returned, isPart⟩
      have later := ih
        (fun other inside => oneParent other (List.mem_cons_of_mem _ inside)) looped
      have targets := targetsOf_filter member (oneParent note List.mem_cons_self)
      have here : (part.filter fun part => part.1 = sloEval.id).map Prod.snd =
          if attached sloEval.evaluationId sloEval.id note.evaluationRunId note.sloEvaluationId then
            [read]
          else [] := by
        rw [<- Except.ok.inj isPart, List.filter_map]
        change (((targetsOf (trendEvaluations tables assetId sloName) note).filter fun id =>
          id = sloEval.id).map fun target => (target, read)).map Prod.snd = _
        rw [targets]
        split <;> rfl
      rw [<- Except.ok.inj same, List.flatten_cons, List.filter_append, List.map_append, here, later,
        List.filter_cons]
      split
      · rw [reads_cons returned]
        rfl
      · rfl

end

theorem filter_or_perm {Item : Type} (items : List Item) (first second : Item -> Bool)
    (apart : forall item, item ∈ items -> first item = true -> second item = false) :
    (items.filter fun item => first item || second item).Perm
      (items.filter first ++ items.filter second) := by
  induction items with
  | nil => exact List.Perm.refl _
  | cons item rest ih =>
      have later := ih fun other member => apart other (List.mem_cons_of_mem _ member)
      cases isFirst : first item with
      | true =>
          have notSecond := apart item List.mem_cons_self isFirst
          simp only [List.filter_cons, isFirst, notSecond, Bool.true_or, if_true, Bool.false_eq_true,
            if_false, List.cons_append]
          exact later.cons item
      | false =>
          cases isSecond : second item with
          | true =>
              simp only [List.filter_cons, isFirst, isSecond, Bool.false_or, if_true,
                Bool.false_eq_true, if_false]
              exact (later.cons item).trans List.perm_middle.symm
          | false =>
              simp only [List.filter_cons, isFirst, isSecond, Bool.false_or, Bool.false_eq_true, if_false]
              exact later

theorem visibleOf_filter (consistent : Consistent tables) (runId : Nat)
    (sloEval other : SLOEvaluation) :
    (visibleOf tables other).filter (fun note =>
        attached runId sloEval.id note.evaluationRunId note.sloEvaluationId) =
      if other.id = sloEval.id then visibleOf tables sloEval else [] := by
  have parts : forall note, note ∈ visibleOf tables other ->
      attached runId sloEval.id note.evaluationRunId note.sloEvaluationId = decide (other.id = sloEval.id) := by
    intro note member
    rcases List.mem_filter.mp member with ⟨seen, onEvaluation⟩
    have oneParent := consistent.oneParent note (List.mem_filter.mp seen).1
    unfold attached
    rw [oneParent.noRun (of_decide_eq_true onEvaluation), of_decide_eq_true onEvaluation]
    simp
  rw [List.filter_congr parts]
  by_cases same : other.id = sloEval.id
  · rw [if_pos same]
    unfold visibleOf
    rw [same]
    simp
  · rw [if_neg same]
    simp [same]

theorem columnNotes_filter (consistent : Consistent tables)
    (stored : sloEval ∈ tables.others.evaluations.rows) :
    ((columnNotes tables sloEval.evaluationId).filter fun note =>
        attached sloEval.evaluationId sloEval.id note.evaluationRunId note.sloEvaluationId) =
      listForRun tables sloEval.evaluationId ++ visibleOf tables sloEval := by
  unfold columnNotes
  rw [List.filter_append, List.filter_flatMap]
  congr 1
  · apply List.filter_eq_self.mpr
    intro note member
    have inside := (Latest.sortBy_perm EvaluationAnnotation.createdAt _).mem_iff.mp member
    unfold attached
    rw [(List.mem_filter.mp inside).2]
    rfl
  · have chosen : (sloEvaluationsOf tables.others.toTables sloEval.evaluationId).filter
        (fun other => other.id = sloEval.id) = [sloEval] := by
      unfold sloEvaluationsOf
      rw [List.filter_comm, filter_key, find_of_mem stored]
      exact List.filter_cons_of_pos (decide_eq_true rfl)
    have onlyChosen (evaluations : List SLOEvaluation) :
        (evaluations.flatMap fun other =>
          if other.id = sloEval.id then visibleOf tables sloEval else []) =
          (evaluations.filter fun other => other.id = sloEval.id).flatMap fun _ =>
            visibleOf tables sloEval := by
      induction evaluations with
      | nil => rfl
      | cons other rest ih =>
          rw [List.flatMap_cons, List.filter_cons, ih]
          by_cases same : other.id = sloEval.id
          · simp [same]
          · simp [same]
    simp only [visibleOf_filter consistent]
    rw [onlyChosen, chosen, List.flatMap_cons, List.flatMap_nil, List.append_nil]

theorem listForTrend_filter (member : sloEval ∈ sloEvals) :
    ((listForTrend tables sloEvals).filter fun note =>
        attached sloEval.evaluationId sloEval.id note.evaluationRunId note.sloEvaluationId).Perm
      ((visible tables).filter fun note =>
        attached sloEval.evaluationId sloEval.id note.evaluationRunId note.sloEvaluationId) := by
  unfold listForTrend
  refine ((Latest.sortBy_perm EvaluationAnnotation.createdAt _).filter _).trans ?_
  rw [List.filter_filter]
  apply List.Perm.of_eq
  apply List.filter_congr
  intro note _
  cases isAttached : attached sloEval.evaluationId sloEval.id note.evaluationRunId note.sloEvaluationId with
  | false => rfl
  | true =>
      unfold attached at isAttached
      rw [Bool.or_eq_true, decide_eq_true_eq, decide_eq_true_eq] at isAttached
      rw [Bool.true_and]
      rcases isAttached with onRun | onEvaluation
      · rw [onRun]
        have listed : sloEval.evaluationId ∈ sloEvals.map (·.evaluationId) := List.mem_map_of_mem member
        simp [listed]
      · rw [onEvaluation]
        have listed : sloEval.id ∈ sloEvals.map (·.id) := List.mem_map_of_mem member
        simp [listed]

theorem attached_perm (consistent : Consistent tables) (member : sloEval ∈ sloEvals)
    (stored : sloEval ∈ tables.others.evaluations.rows) :
    ((listForTrend tables sloEvals).filter fun note =>
        attached sloEval.evaluationId sloEval.id note.evaluationRunId note.sloEvaluationId).Perm
      ((Latest.sortBy EvaluationAnnotation.createdAt (columnNotes tables sloEval.evaluationId)).filter
        fun note => attached sloEval.evaluationId sloEval.id note.evaluationRunId note.sloEvaluationId) := by
  have column := (Latest.sortBy_perm EvaluationAnnotation.createdAt
    (columnNotes tables sloEval.evaluationId)).filter fun note =>
      attached sloEval.evaluationId sloEval.id note.evaluationRunId note.sloEvaluationId
  rw [columnNotes_filter consistent stored] at column
  have ofRun : (listForRun tables sloEval.evaluationId).Perm
      ((visible tables).filter fun note => note.evaluationRunId = some sloEval.evaluationId) :=
    Latest.sortBy_perm EvaluationAnnotation.createdAt _
  have split := filter_or_perm (visible tables)
    (fun note => note.evaluationRunId = some sloEval.evaluationId)
    (fun note => note.sloEvaluationId = some sloEval.id)
    (by
      intro note seen onRun
      have oneParent := consistent.oneParent note (List.mem_filter.mp seen).1
      apply decide_eq_false
      intro onEvaluation
      have noRun := oneParent.noRun onEvaluation
      rw [of_decide_eq_true onRun] at noRun
      cases noRun)
  exact (listForTrend_filter member).trans (split.trans ((ofRun.symm.append_right _).trans column.symm))

theorem trend_agrees (consistent : Consistent tables) (run : EvaluationRun) :
    TrendAgrees tables run
      (reads tables (Latest.sortBy EvaluationAnnotation.createdAt (columnNotes tables run.id))) := by
  intro assetName asset sloName found
  have inTable : forall note, note ∈ listForTrend tables (trendEvaluations tables asset.id sloName) ->
      note ∈ tables.annotations.rows := by
    intro note member
    have listed := (Latest.sortBy_perm EvaluationAnnotation.createdAt _).mem_iff.mp member
    exact (List.mem_filter.mp (List.mem_filter.mp listed).1).1
  have looped : ((listForTrend tables (trendEvaluations tables asset.id sloName)).mapM
      (trendPart tables (trendEvaluations tables asset.id sloName))).isOk = true := by
    apply (mapM_isOk _ _).mpr
    intro note member
    rcases toAnnotationRead_returns (consistent.hasCategory note (inTable note member)) with
      ⟨read, returned, _⟩
    exact bind_isOk.mpr ⟨read, returned, rfl⟩
  rcases (isOk_iff _).mp looped with ⟨parts, looped⟩
  refine ⟨Grouping.collectAll Prod.fst appendRead parts.flatten, ?_, ?_⟩
  · apply bind_eq_ok.mpr
    refine ⟨asset, orRaise_eq_ok.mpr found, ?_⟩
    apply bind_eq_ok.mpr
    exact ⟨parts, looped, rfl⟩
  · intro sloEval stored ofRun onAsset isSlo
    have member : sloEval ∈ trendEvaluations tables asset.id sloName := by
      refine List.mem_filter.mpr ⟨stored, ?_⟩
      rw [onAsset, isSlo]
      simp
    unfold TrendAnnotations.under
    rw [Grouping.lookup_collectAll, appendReads,
      trendParts_under member (fun note inside => consistent.oneParent note (inTable note inside)) looped]
    change List.Perm _ ((reads tables _).filter fun read =>
      attached run.id sloEval.id read.evaluationRunId read.sloEvaluationId)
    rw [reads_filter (columnNotes_hasCategory consistent run.id), <- ofRun]
    exact (attached_perm consistent member stored).filterMap _

/-! ## Every reachable state -/

theorem notesAgree_of_kept (kept : state.Kept) : NotesAgree state.tables state.cache := by
  intro run stored
  refine ⟨_, getColumnAnnotations_returns kept.consistent stored, ?_, trend_agrees kept.consistent run⟩
  apply indicator_agrees kept.own
  rw [(mapM_toAnnotationRead (columnNotes_hasCategory kept.consistent run.id)).2]
  have reordered := Latest.sortBy_perm EvaluationAnnotation.createdAt (columnNotes state.tables run.id)
  rw [<- List.length_eq_zero_iff, reordered.length_eq, List.length_eq_zero_iff]

/-- Whatever notes are added, edited and hidden, whichever categories are deleted and whatever
is evaluated again: a displayed column has its indicator exactly when notes are listed beside
it, and the notes under a point are the listed ones of its run and of itself. -/
theorem notes_agree {state : NoteState}
    (reached : TransitionSystem.Reachable noteStep NoteState.Initial state) :
    NotesAgree state.tables state.cache :=
  notesAgree_of_kept (TransitionSystem.reachable_preserves (fun _ initial => initial.kept)
    (fun _ _ _ kept stepped => kept.step stepped) reached)

namespace Sample

def hourlyRun : EvaluationRun :=
  { id := 10, assetId := 1, evalName := "hourly", periodStart := 0, periodEnd := 3600000000,
    status := .completed }

def category (id : Nat) (name : String) : AnnotationCategory :=
  { id, name, label := name, color := .sky, createdAt := 0 }

def start : NoteState where
  tables := {
    others := { ReEvaluation.Sample.database with runs := empty.insert hourlyRun rfl }
    categories :=
      ⟨[category 1 "info", category 2 reEvaluationCategoryName, category 3 "incident"], by decide⟩
    annotations := .empty }
  cache _ := none

def again : ReEvaluationInput where
  request := ReEvaluation.Sample.request 2
  assigned _ := []
  clock _ := 0
  now := 9
  noteGroupId := 1
  newId position := 4 + position
  scoreText score := if score = 0 then "0" else "100"

/-- A note of the run and two of its evaluation, one of which is hidden again.  After a
re-evaluation the category of the visible ones is deleted. -/
def actions : List NoteAction :=
  [.createRunAnnotationNew 10 { content := "deployment", categoryId := 3 } 1 5,
    .createAnnotationSingular 10 { content := "cache was cold", categoryId := 1 } 2 6,
    .hideAnnotationSingular 2 { reason := "wrong hour" } 7,
    .createAnnotationSingular 10 { content := "disk was full", categoryId := 3 } 3 8, .warm 10,
    .reEvaluate again, .deleteCategory 3 10]

end Sample

theorem sample_notes_agree :
    Exists fun state => TransitionSystem.exec noteStep Sample.start Sample.actions = some state ∧
      (getColumnAnnotations state.tables 10).toOption.map (List.map fun note =>
          (note.content, note.categoryId)) =
        some [("deployment", 1), ("disk was full", 1),
          ("checkout: fail → pass, score 0 → 100", 2)] ∧
      NotesAgree state.tables state.cache := by
  have listed : (TransitionSystem.exec noteStep Sample.start Sample.actions).bind (fun state =>
      (getColumnAnnotations state.tables 10).toOption.map (List.map fun note =>
        (note.content, note.categoryId))) =
      some [("deployment", 1), ("disk was full", 1),
        ("checkout: fail → pass, score 0 → 100", 2)] := by
    decide +kernel
  rcases Option.bind_eq_some_iff.mp listed with ⟨state, ran, notes⟩
  exact ⟨state, ran, notes, notes_agree ⟨Sample.start, Sample.actions, ⟨rfl, fun _ => rfl⟩, ran⟩⟩

end Notes
end Tropek
