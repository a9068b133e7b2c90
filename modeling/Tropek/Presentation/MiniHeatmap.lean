import Tropek.Presentation.Heatmap

namespace Tropek
namespace Presentation

open Library Engine Store KeyedTable Fallible

/-!
# The mini heatmap of an SLO

The UI draws the section of an SLO as a header row with one cell for each column and, when
the section is expanded, a row for each metric.  The colour of a cell is decided by the
text of the result in the response.

The API fills a column in which the SLO did not run with a placeholder whose result is the
word `none`, and calls an informational objective `info`.  The UI knows neither word and
draws both as an error.

Two columns never have the same identifier, and no identifier of a column contains the
separator of the lookup keys, so that a key is a pair here.
-/

/-! ## The words of the response -/

def resultText : ResultValue -> String
  | .pass => "pass"
  | .warning => "warning"
  | .fail => "fail"
  | .error => "error"

def SummaryResult.text : SummaryResult -> String
  | .none => "none"
  | .invalidated => "invalidated"
  | .result value => resultText value

def CellResult.text : CellResult -> String
  | .invalidated => "invalidated"
  | .status .pass => "pass"
  | .status .warning => "warning"
  | .status .fail => "fail"
  | .status .info => "info"
  | .status .error => "error"

/-! ## The mappers -/

inductive HeatmapResult where
  | pass
  | warning
  | fail
  | error
  | invalidated
  | none
deriving DecidableEq, Repr

def normalizeResult (raw : Option String) : HeatmapResult :=
  match raw with
  | some "pass" => .pass
  | some "warning" => .warning
  | some "fail" => .fail
  | some "error" => .error
  | some "invalidated" => .invalidated
  | Option.none => .none
  | some "" => .none
  | some _ => .error

def canonicalSummaryResult (summary : HeatmapSummaryCell) : HeatmapResult :=
  if summary.invalidated then .invalidated else normalizeResult (some summary.result.text)

/-- `Math.round`, which rounds halves up. -/
def scoreToDisplay (raw : Option ℚ) : Int :=
  match raw with
  | none => 0
  | some score => ⌊score + 1 / 2⌋

/-- A cell of the drawn grid.  The value is the position of its column and of its row. -/
structure HeatmapEChartsCell where
  value : Nat × Nat
  result : HeatmapResult
  score : Int
  slot : Nat
  periodStart : Instant
  rowLabel : String
  columnKey : Nat
  evaluationName : String
  evalId : Option Nat := none
  isSloHeader : Bool := false
  sloName : String
  metricName : Option String := none
  changePoint : Option ChangePointMarker := none

structure MiniHeatmapView where
  rows : List String
  cells : List HeatmapEChartsCell
  headerRowIndices : List Nat

structure DisplayRow where
  label : String
  metricName : Option String

def headerCell (group : HeatmapSloGroupSection) (rowLabel : String) (xi rowYIndex : Nat)
    (column : EvaluationColumn) : HeatmapEChartsCell :=
  let summaryCell := Entries.last HeatmapSummaryCell.evaluationId column.evaluationId group.summary
  { value := (xi, rowYIndex)
    result := summaryCell.elim .none canonicalSummaryResult
    score := scoreToDisplay (summaryCell.map (·.score))
    slot := column.evaluationId
    periodStart := column.periodStart
    rowLabel
    columnKey := column.evaluationId
    evaluationName := column.evalName
    isSloHeader := true
    sloName := group.sloName }

def cellKey (cell : HeatmapCellGrouped) : Nat × String :=
  (cell.evaluationId, cell.metric)

def indicatorCell (group : HeatmapSloGroupSection) (rowLabel metricName : String)
    (xi rowYIndex : Nat) (column : EvaluationColumn) : HeatmapEChartsCell :=
  let cell := Entries.last cellKey (column.evaluationId, metricName) group.cells
  { value := (xi, rowYIndex)
    result := cell.elim .none fun cell => normalizeResult (some cell.result.text)
    score := scoreToDisplay (cell.map (·.score))
    slot := column.evaluationId
    periodStart := column.periodStart
    rowLabel
    columnKey := column.evaluationId
    evaluationName := column.evalName
    evalId := cell.map (·.sloEvaluationId)
    sloName := group.sloName
    metricName := some metricName
    changePoint := cell.bind (·.changePoint) }

def displayRowsOf (group : HeatmapSloGroupSection) (isExpanded : Bool) : List DisplayRow :=
  { label := group.sloName, metricName := none } ::
    if isExpanded then
      group.metrics.map fun metric => { label := metric.displayName, metricName := some metric.name }
    else []

def rowCells (group : HeatmapSloGroupSection) (columns : List EvaluationColumn) (rowYIndex : Nat)
    (displayRow : DisplayRow) : List HeatmapEChartsCell :=
  columns.zipIdx.map fun (column, xi) =>
    match displayRow.metricName with
    | none => headerCell group displayRow.label xi rowYIndex column
    | some metricName => indicatorCell group displayRow.label metricName xi rowYIndex column

def sloGroupToMiniView (group : HeatmapSloGroupSection) (columns : List EvaluationColumn)
    (isExpanded : Bool) : MiniHeatmapView :=
  let displayRows := displayRowsOf group isExpanded
  let yIndexFor := fun displayIndex => displayRows.length - 1 - displayIndex
  { rows := displayRows.reverse.map (·.label)
    cells := displayRows.zipIdx.flatMap fun (displayRow, displayIndex) =>
      rowCells group columns (yIndexFor displayIndex) displayRow
    headerRowIndices := displayRows.zipIdx.filterMap fun (displayRow, displayIndex) =>
      if displayRow.metricName = none then some (yIndexFor displayIndex) else none }

/-! ## What is stored for a cell -/

/-- The evaluation of an SLO in a run.  When there are several, the heatmap shows the last one. -/
def evaluationIn (tables : Tables) (run : EvaluationRun) (sloName : String) :
    Option SLOEvaluation :=
  Entries.last SLOEvaluation.sloName sloName (sloEvaluationsOf tables run.id)

def indicatorsIn (tables : Tables) (run : EvaluationRun) (sloName : String) :
    List (SLOEvaluation × IndicatorResultRow) :=
  ((sloEvaluationsOf tables run.id).filter (·.sloName = sloName)).flatMap fun evaluation =>
    evaluation.indicatorRows.rows.map fun row => (evaluation, row)

def indicatorIn (tables : Tables) (run : EvaluationRun) (sloName metric : String) :
    Option (SLOEvaluation × IndicatorResultRow) :=
  Entries.last (·.2.objective.sli) metric (indicatorsIn tables run sloName)

def HeatmapResult.ofResult : ResultValue -> HeatmapResult
  | .pass => .pass
  | .warning => .warning
  | .fail => .fail
  | .error => .error

def statedResult : Option SLOEvaluation -> HeatmapResult
  | none => .none
  | some evaluation =>
      if evaluation.invalidated then .invalidated else evaluation.result.elim .none .ofResult

/-- Every header cell shows the stored result of its evaluation, and no indicator cell shows
an error that is not stored. -/
structure ShowsStored (tables : Tables) (runs : List EvaluationRun) (sloName : String)
    (view : MiniHeatmapView) : Prop where
  header : (view.cells.filter (·.isSloHeader)).map (fun cell => (cell.columnKey, cell.result)) =
    runs.map fun run => (run.id, statedResult (evaluationIn tables run sloName))
  indicator : forall cell, cell ∈ view.cells -> forall metric, cell.metricName = some metric ->
    cell.result = .error -> Exists fun run => Exists fun found =>
      run ∈ runs ∧ run.id = cell.columnKey ∧
        indicatorIn tables run sloName metric = some found ∧ found.2.status = .error

/-- The SLO has a result in every column, or is invalidated there, and shows no informational
indicator that is valid. -/
structure RunsEverywhere (tables : Tables) (runs : List EvaluationRun) (sloName : String)
    (isExpanded : Bool) : Prop where
  ran : forall run, run ∈ runs -> Exists fun evaluation =>
    evaluationIn tables run sloName = some evaluation ∧
      (evaluation.invalidated = true ∨ evaluation.result ≠ none)
  scored : isExpanded = true -> forall run, run ∈ runs -> forall metric evaluation row,
    indicatorIn tables run sloName metric = some (evaluation, row) -> row.status = .info ->
      evaluation.invalidated = true

/-! ## What is shown for a cell -/

def shownResult (evaluation : Option SLOEvaluation) : HeatmapResult :=
  match evaluation with
  | none => .error
  | some evaluation =>
      if evaluation.invalidated then .invalidated else evaluation.result.elim .error .ofResult

def shownStatus (indicator : Option (SLOEvaluation × IndicatorResultRow)) : HeatmapResult :=
  match indicator with
  | none => .none
  | some (evaluation, row) =>
      if evaluation.invalidated then .invalidated
      else normalizeResult (some (CellResult.status row.status).text)

theorem shownResult_eq_statedResult (evaluation : Option SLOEvaluation) :
    shownResult evaluation = statedResult evaluation ↔ Exists fun found =>
      evaluation = some found ∧ (found.invalidated = true ∨ found.result ≠ none) := by
  cases evaluation with
  | none => simp [shownResult, statedResult]
  | some evaluation =>
      cases invalid : evaluation.invalidated with
      | true => simp [shownResult, statedResult, invalid]
      | false =>
          cases result : evaluation.result with
          | none => simp [shownResult, statedResult, invalid, result]
          | some value => simp [shownResult, statedResult, invalid, result]

theorem shownStatus_eq_error {indicator : Option (SLOEvaluation × IndicatorResultRow)}
    (shown : shownStatus indicator = .error) : Exists fun evaluation => Exists fun row =>
      indicator = some (evaluation, row) ∧ evaluation.invalidated = false ∧
        (row.status = .error ∨ row.status = .info) := by
  rcases indicator with _ | ⟨evaluation, row⟩
  · cases shown
  · refine ⟨evaluation, row, rfl, ?_⟩
    cases invalid : evaluation.invalidated with
    | true => simp [shownStatus, invalid] at shown
    | false =>
        cases status : row.status with
        | error => exact ⟨rfl, Or.inl rfl⟩
        | info => exact ⟨rfl, Or.inr rfl⟩
        | pass | warning | fail =>
            simp [shownStatus, invalid, status, CellResult.text, normalizeResult] at shown

/-! ## The cells of a built column -/

def BuiltFor (tables : Tables) (run : EvaluationRun) (fragment : HeatmapColumnFragment) : Prop :=
  Exists fun hasNotes => buildColumnFragment tables run hasNotes = .ok fragment

section Column

variable {tables : Tables} {run : EvaluationRun} {fragment : HeatmapColumnFragment}
  (built : BuiltFor tables run fragment)

include built

theorem BuiltFor.column : fragment.column.evaluationId = run.id := by
  rcases built with ⟨hasNotes, built⟩
  rcases bind_eq_ok.mp built with ⟨perSlo, _, same⟩
  cases same
  rfl

theorem BuiltFor.perSlo :
    List.Forall₂ (fun evaluation part => buildSloFragment tables run evaluation = .ok part)
      (sloEvaluationsOf tables run.id) fragment.perSlo := by
  rcases built with ⟨hasNotes, built⟩
  rcases bind_eq_ok.mp built with ⟨perSlo, looped, same⟩
  cases same
  exact mapM_eq_ok.mp looped

end Column

variable {part : HeatmapColumnSloFragment} {row : IndicatorResultRow}
  {fragment : HeatmapColumnFragment}

theorem buildSloFragment_summary {tables : Tables} {run : EvaluationRun}
    {evaluation : SLOEvaluation} (built : buildSloFragment tables run evaluation = .ok part) :
    part.sloName = evaluation.sloName ∧ part.summary.evaluationId = run.id ∧
      part.summary.invalidated = evaluation.invalidated ∧
      part.summary.result = sloSummaryResult evaluation ∧
      part.metrics = columnMetrics evaluation.indicatorRows.rows := by
  rcases bind_eq_ok.mp built with ⟨cells, _, same⟩
  cases same
  exact ⟨rfl, rfl, rfl, rfl, rfl⟩

theorem buildSloFragment_built {tables : Tables} {run : EvaluationRun} {evaluation : SLOEvaluation}
    (built : buildSloFragment tables run evaluation = .ok part) :
    List.Forall₂ (fun row cell => buildCell tables run evaluation row = .ok cell)
      evaluation.indicatorRows.rows part.cells := by
  rcases bind_eq_ok.mp built with ⟨cells, looped, same⟩
  cases same
  exact mapM_eq_ok.mp looped

theorem buildCell_shows {tables : Tables} {run : EvaluationRun} {evaluation : SLOEvaluation}
    {cell : HeatmapCellGrouped} (built : buildCell tables run evaluation row = .ok cell) :
    cellKey cell = (run.id, row.objective.sli) ∧
      cell.result = if evaluation.invalidated then .invalidated else .status row.status := by
  rcases bind_eq_ok.mp built with ⟨_, _, built⟩
  rcases bind_eq_ok.mp built with ⟨_, _, same⟩
  cases same
  exact ⟨rfl, rfl⟩

theorem BuiltFor.summary {tables : Tables} {run : EvaluationRun}
    (built : BuiltFor tables run fragment) (sloName : String) :
    (columnSummary sloName fragment).evaluationId = run.id ∧
      canonicalSummaryResult (columnSummary sloName fragment) =
        shownResult (evaluationIn tables run sloName) := by
  have related := Entries.last_related SLOEvaluation.sloName HeatmapColumnSloFragment.sloName
    sloName (fun _ _ here => (buildSloFragment_summary here).1) built.perSlo
  unfold columnSummary evaluationIn
  generalize Entries.last SLOEvaluation.sloName sloName _ = evaluation at related ⊢
  generalize Entries.last HeatmapColumnSloFragment.sloName sloName _ = part at related ⊢
  cases related with
  | none => exact ⟨built.column, rfl⟩
  | @some evaluation part here =>
      rcases buildSloFragment_summary here with ⟨_, isRun, invalid, result, _⟩
      refine ⟨isRun, ?_⟩
      change canonicalSummaryResult part.summary = shownResult (some evaluation)
      unfold canonicalSummaryResult shownResult
      rw [invalid, result]
      dsimp only
      cases invalidated : evaluation.invalidated with
      | true => rfl
      | false =>
          unfold sloSummaryResult
          rw [invalidated]
          rcases evaluation.result with _ | value
          · rfl
          · cases value <;> rfl

theorem BuiltFor.cells {tables : Tables} {run : EvaluationRun}
    (built : BuiltFor tables run fragment) (sloName : String) :
    List.Forall₂ (fun pair cell => buildCell tables run pair.1 pair.2 = .ok cell)
      (indicatorsIn tables run sloName) (columnCells sloName fragment) := by
  have parts := List.rel_filter (p := fun evaluation : SLOEvaluation => evaluation.sloName = sloName)
    (q := fun part : HeatmapColumnSloFragment => part.sloName = sloName)
    (fun evaluation part here => by simp only [(buildSloFragment_summary here).1]) built.perSlo
  refine List.rel_flatMap parts fun evaluation part here => ?_
  rw [List.forall₂_map_left_iff]
  exact buildSloFragment_built here

theorem mem_columnMetrics {rows : List IndicatorResultRow} (member : row ∈ rows) :
    row.objective.sli ∈ (columnMetrics rows).map (·.name) := by
  induction rows using List.reverseRecOn with
  | nil => exact absurd member List.not_mem_nil
  | append_singleton rest last ih =>
      unfold columnMetrics at ih ⊢
      rw [List.foldl_append, List.foldl_cons, List.foldl_nil]
      generalize rest.foldl _ [] = metrics at ih ⊢
      by_cases present : metrics.any (·.name = last.objective.sli) = true
      · rw [if_pos present]
        rcases List.mem_append.mp member with earlier | isLast
        · exact ih earlier
        · rcases List.any_eq_true.mp present with ⟨metric, inside, same⟩
          rw [List.mem_singleton.mp isLast]
          exact List.mem_map.mpr ⟨metric, inside, of_decide_eq_true same⟩
      · rw [if_neg present, List.map_append]
        rcases List.mem_append.mp member with earlier | isLast
        · exact List.mem_append_left _ (ih earlier)
        · rw [List.mem_singleton.mp isLast]
          exact List.mem_append_right _ List.mem_cons_self

/-! ## The cells of the view -/

section View

variable {tables : Tables} {runs : List EvaluationRun} {fragments : List HeatmapColumnFragment}
  {assetName : String} {group : HeatmapSloGroupSection}

theorem columns_of_built (built : List.Forall₂ (BuiltFor tables) runs fragments) :
    runs.map (·.id) = fragments.map (·.column.evaluationId) :=
  Latest.map_eq_of_related (built.imp fun _ _ here => here.column.symm)

variable {fragment : HeatmapColumnFragment} {columns : List EvaluationColumn}

theorem run_of_fragment (built : List.Forall₂ (BuiltFor tables) runs fragments)
    (member : fragment ∈ fragments) :
    Exists fun run => run ∈ runs ∧ BuiltFor tables run fragment := by
  rcases Latest.pairs_of_related built with ⟨pairs, isRuns, isFragments, all⟩
  rw [isFragments] at member
  rcases List.mem_map.mp member with ⟨pair, inside, same⟩
  exact ⟨pair.1, isRuns ▸ List.mem_map_of_mem inside, same ▸ all pair inside⟩

section

variable (distinct : (runs.map (·.id)).Nodup)
  (built : List.Forall₂ (BuiltFor tables) runs fragments) (merges : group.Merges fragments)
  (member : fragment ∈ fragments)

include distinct built merges member

theorem headerCell_result {run : EvaluationRun} (here : BuiltFor tables run fragment)
    (rowLabel : String) (xi rowYIndex : Nat) :
    (headerCell group rowLabel xi rowYIndex fragment.column).result =
      shownResult (evaluationIn tables run group.sloName) := by
  have keys : forall other, other ∈ fragments ->
      (columnSummary group.sloName other).evaluationId = other.column.evaluationId := by
    intro other inside
    rcases run_of_fragment built inside with ⟨_, _, itsRun⟩
    rw [(itsRun.summary group.sloName).1, itsRun.column]
  have nodup : (fragments.map (·.column.evaluationId)).Nodup := columns_of_built built ▸ distinct
  have found : Entries.last HeatmapSummaryCell.evaluationId fragment.column.evaluationId
      group.summary = some (columnSummary group.sloName fragment) := by
    rw [merges.summary, <- keys fragment member]
    refine Entries.last_of_unique (List.mem_map_of_mem member) fun other inside same => ?_
    rcases List.mem_map.mp inside with ⟨otherFragment, otherInside, isOther⟩
    rw [<- isOther, keys otherFragment otherInside, keys fragment member] at same
    rw [<- isOther, List.inj_on_of_nodup_map nodup otherInside member same]
  change (Entries.last HeatmapSummaryCell.evaluationId fragment.column.evaluationId
    group.summary).elim HeatmapResult.none canonicalSummaryResult = _
  rw [found]
  exact (here.summary group.sloName).2

theorem indicatorCell_result {run : EvaluationRun} (here : BuiltFor tables run fragment)
    (rowLabel metric : String) (xi rowYIndex : Nat) :
    (indicatorCell group rowLabel metric xi rowYIndex fragment.column).result =
      shownStatus (indicatorIn tables run group.sloName metric) := by
  have nodup : (fragments.map (·.column.evaluationId)).Nodup := columns_of_built built ▸ distinct
  have ownCells : forall other, other ∈ fragments ->
      forall cell, cell ∈ columnCells group.sloName other ->
        cellKey cell = (fragment.column.evaluationId, metric) -> other = fragment := by
    intro other inside cell ofOther isKey
    rcases run_of_fragment built inside with ⟨otherRun, _, itsRun⟩
    rcases Latest.pairs_of_related (itsRun.cells group.sloName) with ⟨pairs, _, isCells, all⟩
    rw [isCells] at ofOther
    rcases List.mem_map.mp ofOther with ⟨pair, pairInside, isCell⟩
    have itsKey := (buildCell_shows (all pair pairInside)).1
    rw [isCell, isKey] at itsKey
    refine List.inj_on_of_nodup_map nodup inside member ?_
    rw [itsRun.column]
    exact (Prod.mk.inj itsKey).1.symm
  have shown : Entries.last cellKey (fragment.column.evaluationId, metric) group.cells =
      Entries.last cellKey (run.id, metric) (columnCells group.sloName fragment) := by
    rw [merges.cells, Entries.last_flatMap member (List.Nodup.of_map _ nodup) ownCells, here.column]
  have related := Entries.last_related
    (fun pair : SLOEvaluation × IndicatorResultRow => (run.id, pair.2.objective.sli)) cellKey
    (run.id, metric) (fun _ _ isBuilt => (buildCell_shows isBuilt).1) (here.cells group.sloName)
  have sameKey : Entries.last (fun pair : SLOEvaluation × IndicatorResultRow =>
      (run.id, pair.2.objective.sli)) (run.id, metric) (indicatorsIn tables run group.sloName) =
      indicatorIn tables run group.sloName metric :=
    Entries.last_congr fun pair _ => by simp
  rw [sameKey] at related
  change (Entries.last cellKey (fragment.column.evaluationId, metric) group.cells).elim
    HeatmapResult.none (fun cell => normalizeResult (some cell.result.text)) = _
  rw [shown]
  generalize indicatorIn tables run group.sloName metric = indicator at related ⊢
  generalize Entries.last cellKey (run.id, metric) _ = cell at related ⊢
  cases related with
  | none => rfl
  | @some pair cell isBuilt =>
      change normalizeResult (some cell.result.text) = shownStatus (some (pair.1, pair.2))
      rw [(buildCell_shows isBuilt).2]
      unfold shownStatus
      dsimp only
      split <;> rfl

end

theorem filter_metricCells (yIndexFor : Nat -> Nat) {displayRows : List (DisplayRow × Nat)}
    (noHeader : forall entry, entry ∈ displayRows -> entry.1.metricName ≠ none) :
    (displayRows.flatMap fun (displayRow, displayIndex) =>
      rowCells group columns (yIndexFor displayIndex) displayRow).filter (·.isSloHeader) = [] := by
  refine List.filter_eq_nil_iff.mpr fun cell member isHeader => ?_
  rcases List.mem_flatMap.mp member with ⟨⟨displayRow, displayIndex⟩, inside, ofRow⟩
  rcases List.mem_map.mp ofRow with ⟨column, _, same⟩
  cases named : displayRow.metricName with
  | none => exact noHeader _ inside named
  | some metric =>
      dsimp only at same
      rw [named] at same
      rw [<- same] at isHeader
      cases isHeader

theorem filter_headerCells (columns : List EvaluationColumn) (rowYIndex : Nat) :
    ((rowCells group columns rowYIndex { label := group.sloName, metricName := none }).filter
        (·.isSloHeader)).map (fun cell => (cell.columnKey, cell.result)) =
      columns.map fun column =>
        (column.evaluationId, (headerCell group group.sloName 0 0 column).result) := by
  have allHeaders : forall cell, cell ∈ rowCells group columns rowYIndex
      { label := group.sloName, metricName := none } -> cell.isSloHeader = true := by
    intro cell member
    rcases List.mem_map.mp member with ⟨column, _, same⟩
    rw [<- same]
    rfl
  rw [List.filter_eq_self.mpr allHeaders]
  unfold rowCells
  rw [List.map_map]
  change columns.zipIdx.map ((fun column =>
    (column.evaluationId, (headerCell group group.sloName 0 0 column).result)) ∘ Prod.fst) = _
  rw [<- List.map_map, List.zipIdx_map_fst]

theorem header_cells (columns : List EvaluationColumn) (isExpanded : Bool) :
    ((sloGroupToMiniView group columns isExpanded).cells.filter (·.isSloHeader)).map
        (fun cell => (cell.columnKey, cell.result)) =
      columns.map fun column =>
        (column.evaluationId, (headerCell group group.sloName 0 0 column).result) := by
  let rest : List DisplayRow := if isExpanded then
    group.metrics.map fun metric => { label := metric.displayName, metricName := some metric.name }
    else []
  have noHeader : forall entry, entry ∈ rest.zipIdx 1 -> entry.1.metricName ≠ none := by
    intro entry inside
    have member := List.fst_mem_of_mem_zipIdx inside
    dsimp only [rest] at member
    split at member
    · rcases List.mem_map.mp member with ⟨metric, _, same⟩
      rw [<- same]
      exact Option.some_ne_none _
    · exact absurd member List.not_mem_nil
  unfold sloGroupToMiniView
  dsimp only
  generalize (displayRowsOf group isExpanded).length - 1 = top
  change (List.filter (·.isSloHeader) (rowCells group columns (top - 0)
    { label := group.sloName, metricName := none } ++ (rest.zipIdx 1).flatMap fun entry =>
      rowCells group columns (top - entry.2) entry.1)).map _ = _
  rw [List.filter_append, filter_metricCells (top - ·) noHeader, List.append_nil]
  exact filter_headerCells columns _

/-- The indicator cells of a view: a cell for each metric and column, when it is expanded. -/
theorem mem_indicator_cells {isExpanded : Bool} {metric : String} {cell : HeatmapEChartsCell} :
    (cell ∈ (sloGroupToMiniView group columns isExpanded).cells ∧ cell.metricName = some metric) ->
      isExpanded = true ∧ Exists fun column => Exists fun rowLabel => Exists fun xi =>
        Exists fun rowYIndex => column ∈ columns ∧
          cell = indicatorCell group rowLabel metric xi rowYIndex column := by
  rintro ⟨member, named⟩
  rcases List.mem_flatMap.mp member with ⟨⟨displayRow, displayIndex⟩, inside, ofRow⟩
  rcases List.mem_map.mp ofRow with ⟨⟨column, xi⟩, ofColumn, same⟩
  have isRow := List.fst_mem_of_mem_zipIdx inside
  cases itsMetric : displayRow.metricName with
  | none =>
      dsimp only at same
      rw [itsMetric] at same
      rw [<- same] at named
      cases named
  | some other =>
      dsimp only at same
      rw [itsMetric] at same
      rw [<- same] at named
      cases named
      refine ⟨?_, column, _, xi, _, List.fst_mem_of_mem_zipIdx ofColumn, same.symm⟩
      cases isExpanded with
      | true => rfl
      | false =>
          cases List.mem_singleton.mp isRow
          cases itsMetric

theorem indicator_cell_mem {metric : HeatmapMetric} (listed : metric ∈ group.metrics)
    {column : EvaluationColumn} (member : column ∈ columns) :
    Exists fun rowLabel => Exists fun xi => Exists fun rowYIndex =>
      indicatorCell group rowLabel metric.name xi rowYIndex column ∈
        (sloGroupToMiniView group columns true).cells := by
  have displayed : ({ label := metric.displayName, metricName := some metric.name } : DisplayRow) ∈
      displayRowsOf group true :=
    List.mem_cons_of_mem _ (List.mem_map.mpr ⟨metric, listed, rfl⟩)
  rcases Entries.exists_mem_zipIdx displayed with ⟨displayIndex, inside⟩
  rcases Entries.exists_mem_zipIdx member with ⟨xi, ofColumn⟩
  refine ⟨_, xi, _, List.mem_flatMap.mpr ⟨_, inside, List.mem_map.mpr ⟨_, ofColumn, rfl⟩⟩⟩

theorem metric_listed (built : List.Forall₂ (BuiltFor tables) runs fragments)
    (merges : group.Merges fragments) {run : EvaluationRun} (member : run ∈ runs)
    {pair : SLOEvaluation × IndicatorResultRow}
    (inside : pair ∈ indicatorsIn tables run group.sloName) :
    Exists fun metric => metric ∈ group.metrics ∧ metric.name = pair.2.objective.sli := by
  rcases Latest.pairs_of_related built with ⟨columns, isRuns, isFragments, all⟩
  rw [isRuns] at member
  rcases List.mem_map.mp member with ⟨column, ofColumns, isRun⟩
  have here := all column ofColumns
  rw [isRun] at here
  rcases List.mem_flatMap.mp inside with ⟨evaluation, selected, ofEvaluation⟩
  rcases List.mem_map.mp ofEvaluation with ⟨row, ofRow, isPair⟩
  subst isPair
  rcases List.mem_filter.mp selected with ⟨ofRun, isSlo⟩
  rcases Latest.pairs_of_related here.perSlo with ⟨parts, isEvaluations, isParts, allParts⟩
  rw [isEvaluations] at ofRun
  rcases List.mem_map.mp ofRun with ⟨part, ofParts, isEvaluation⟩
  have itsPart := allParts part ofParts
  rw [isEvaluation] at itsPart
  rcases buildSloFragment_summary itsPart with ⟨sameSlo, _, _, _, metrics⟩
  rcases List.mem_map.mp (mem_columnMetrics ofRow) with ⟨metric, ofPart, isName⟩
  have listed := merges.metrics column.2 (isFragments ▸ List.mem_map_of_mem ofColumns) part.2
    (isParts ▸ List.mem_map_of_mem ofParts) (sameSlo.trans (of_decide_eq_true isSlo)) metric
    (metrics ▸ ofPart)
  rcases List.mem_map.mp listed with ⟨shown, ofGroup, sameName⟩
  exact ⟨shown, ofGroup, sameName.trans isName⟩

end View

/-! ## Absent and informational cells -/

/-- The view of an SLO shows what is stored exactly when the SLO has a result in every
column and, when it is expanded, no informational indicator. -/
theorem miniView_showsStored_iff {tables : Tables} {runs : List EvaluationRun}
    {fragments : List HeatmapColumnFragment} {assetName : String} {group : HeatmapSloGroupSection}
    (distinct : (runs.map (·.id)).Nodup)
    (built : List.Forall₂ (BuiltFor tables) runs fragments)
    (member : group ∈ (assembleGroupedResponse assetName fragments).groups) (isExpanded : Bool) :
    ShowsStored tables runs group.sloName (sloGroupToMiniView group
        (assembleGroupedResponse assetName fragments).columns isExpanded) ↔
      RunsEverywhere tables runs group.sloName isExpanded := by
  have merges := assembleGroupedResponse_merges member
  change ShowsStored tables runs group.sloName
    (sloGroupToMiniView group (fragments.map (·.column)) isExpanded) ↔ _
  have headers : (fragments.map (·.column)).map (fun column =>
      (column.evaluationId, (headerCell group group.sloName 0 0 column).result)) =
      runs.map fun run => (run.id, shownResult (evaluationIn tables run group.sloName)) := by
    rw [List.map_map]
    refine (Latest.map_eq_of_related ((Latest.related_with_members built).imp ?_)).symm
    rintro run fragment ⟨_, inside, here⟩
    rw [Function.comp_apply, here.column, headerCell_result distinct built merges inside here]
  have shownStated : (runs.map fun run =>
      (run.id, shownResult (evaluationIn tables run group.sloName))) =
        (runs.map fun run => (run.id, statedResult (evaluationIn tables run group.sloName))) ↔
      forall run, run ∈ runs -> Exists fun evaluation =>
        evaluationIn tables run group.sloName = some evaluation ∧
          (evaluation.invalidated = true ∨ evaluation.result ≠ none) := by
    rw [List.map_inj_left]
    refine forall_congr' fun run => imp_congr_right fun _ => ?_
    rw [Prod.mk.injEq, <- shownResult_eq_statedResult]
    exact and_iff_right rfl
  have sameRun : forall {run other}, run ∈ runs -> other ∈ runs -> run.id = other.id ->
      run = other :=
    fun inside otherInside same => List.inj_on_of_nodup_map distinct inside otherInside same
  constructor
  · intro shows
    refine ⟨shownStated.mp ?_, ?_⟩
    · rw [<- headers, <- header_cells, shows.header]
    · rintro rfl run ofRuns metric evaluation row found informational
      by_contra valid
      rw [Bool.not_eq_true] at valid
      rcases Entries.last_eq_some found with ⟨ofSlo, isMetric⟩
      rcases metric_listed built merges ofRuns ofSlo with ⟨shown, listed, sameName⟩
      rw [isMetric] at sameName
      rcases Latest.pairs_of_related built with ⟨columns, isRuns, isFragments, all⟩
      rw [isRuns] at ofRuns
      rcases List.mem_map.mp ofRuns with ⟨column, ofColumns, isRun⟩
      have here := all column ofColumns
      rw [isRun] at here
      have inside : column.2 ∈ fragments := isFragments ▸ List.mem_map_of_mem ofColumns
      rcases indicator_cell_mem listed (List.mem_map_of_mem (f := fun other =>
        HeatmapColumnFragment.column other) inside) with ⟨rowLabel, xi, rowYIndex, cell⟩
      have result := indicatorCell_result distinct built merges inside here rowLabel shown.name xi
        rowYIndex
      rw [sameName, found] at result
      have isError : shownStatus (some (evaluation, row)) = .error := by
        unfold shownStatus
        simp only [valid, informational]
        rfl
      rw [isError] at result
      rcases shows.indicator _ cell metric (congrArg some sameName) (sameName ▸ result) with
        ⟨other, otherFound, ofOthers, sameId, stored, stated⟩
      have isOther : other = run := by
        refine sameRun ofOthers (isRuns ▸ ofRuns) ?_
        rw [sameId]
        exact here.column
      rw [isOther, found] at stored
      cases stored
      rw [informational] at stated
      cases stated
  · intro everywhere
    refine ⟨?_, fun cell inside metric named isError => ?_⟩
    · rw [header_cells, headers]
      exact shownStated.mpr everywhere.ran
    · rcases mem_indicator_cells ⟨inside, named⟩ with
        ⟨expanded, column, rowLabel, xi, rowYIndex, ofColumn, isCell⟩
      rcases List.mem_map.mp ofColumn with ⟨fragment, ofFragments, isColumn⟩
      rcases run_of_fragment built ofFragments with ⟨run, ofRuns, here⟩
      have result := indicatorCell_result distinct built merges ofFragments here rowLabel metric xi
        rowYIndex
      rw [isColumn, <- isCell, isError] at result
      rcases shownStatus_eq_error result.symm with ⟨evaluation, row, found, valid, status⟩
      refine ⟨run, (evaluation, row), ofRuns, ?_, found, ?_⟩
      · rw [isCell, <- isColumn]
        exact here.column.symm
      · rcases status with stored | informational
        · exact stored
        · have invalidated := everywhere.scored expanded run ofRuns metric evaluation row found
            informational
          rw [valid] at invalidated
          cases invalidated

namespace MiniSample

def objective (id : Nat) (sli : String) (passThreshold : List String) : SLOObjectiveRow :=
  { id, sli, passThreshold }

def indicator (objective : SLOObjectiveRow) (status : IndicatorStatus) : IndicatorResultRow :=
  { objective, value := some 10, comparedValue := none, changeAbsolute := none,
    changeRelativePct := none, status, score := 1, targets := { pass := [], warn := none } }

def evaluation (id runId : Nat) (sloName : String) (indicatorRows : IndicatorRows) : SLOEvaluation :=
  { id, evaluationId := runId, evaluationName := "hourly", assetId := 1, periodStart := 0,
    periodEnd := 3600000000, result := some .pass, score := some 100, achievedPoints := some 1,
    totalPoints := some 1, sloName, status := .completed, indicatorRows }

def checkout : SLOEvaluation :=
  evaluation 10 1 "checkout" ((empty.insert
    (indicator (objective 1 "latency" ["<=50"]) .pass) rfl).insert
      (indicator (objective 2 "load" []) .info) rfl)

def billing : SLOEvaluation :=
  evaluation 20 2 "billing" (empty.insert
    (indicator (objective 3 "errors" ["<=50"]) .pass) rfl)

def run (id : Nat) : EvaluationRun :=
  { id, assetId := 1, evalName := "hourly", periodStart := 0, periodEnd := 3600000000,
    status := .completed, result := some .pass, achievedPoints := some 1, totalPoints := some 1 }

def tables : Tables :=
  { evaluations := (empty.insert checkout rfl).insert billing rfl
    runs := (empty.insert (run 1) rfl).insert (run 2) rfl
    sloDefinitions := .empty
    sliDefinitions := .empty
    dataSources := .empty
    assets := ⟨[{ id := 1, name := "shop" }], List.nodup_singleton 1⟩ }

def fragments (runs : List EvaluationRun) : Option (List HeatmapColumnFragment) :=
  runs.mapM fun run => (buildColumnFragment tables run false).toOption

def view (runs : List EvaluationRun) (sloName : String) (isExpanded : Bool) :
    Option MiniHeatmapView :=
  (fragments runs).bind fun fragments =>
    let response := assembleGroupedResponse "shop" fragments
    (response.groups.find? (·.sloName = sloName)).map fun group =>
      sloGroupToMiniView group response.columns isExpanded

end MiniSample

theorem miniView_shows_billing :
    Exists fun view => MiniSample.view [MiniSample.run 2] "billing" true = some view ∧
      ShowsStored MiniSample.tables [MiniSample.run 2] "billing" view := by
  have shown : (MiniSample.view [MiniSample.run 2] "billing" true).isSome = true := by
    decide +kernel
  rcases Option.isSome_iff_exists.mp shown with ⟨view, isView⟩
  refine ⟨view, isView, ?_⟩
  rcases Option.bind_eq_some_iff.mp isView with ⟨fragments, built, isView⟩
  rcases Option.map_eq_some_iff.mp isView with ⟨group, found, isView⟩
  subst isView
  have member := List.mem_of_find?_eq_some found
  have selected := List.find?_some found
  rw [decide_eq_true_eq] at selected
  cases each : (buildColumnFragment MiniSample.tables (MiniSample.run 2) false).toOption with
  | none =>
      unfold MiniSample.fragments at built
      rw [List.mapM_cons, each] at built
      cases built
  | some fragment =>
      have isFragments : fragments = [fragment] := by
        unfold MiniSample.fragments at built
        rw [List.mapM_cons, each] at built
        cases built
        rfl
      have builtFor : List.Forall₂ (BuiltFor MiniSample.tables) [MiniSample.run 2] fragments := by
        rw [isFragments]
        exact .cons ⟨false, toOption_eq_some.mp each⟩ .nil
      rw [<- selected]
      apply (miniView_showsStored_iff (by decide) builtFor member true).mpr
      rw [selected]
      have facts : (evaluationIn MiniSample.tables (MiniSample.run 2) "billing").any
            (fun evaluation => evaluation.result = some .pass) = true ∧
          (indicatorsIn MiniSample.tables (MiniSample.run 2) "billing").all
            (fun pair => pair.2.status ≠ .info) = true := by
        decide +kernel
      refine ⟨fun run inside => ?_,
        fun _ run inside metric evaluation row stored informational => ?_⟩
      · rw [List.mem_singleton.mp inside]
        rcases (Option.any_eq_true _ _).mp facts.1 with ⟨evaluation, here, passed⟩
        refine ⟨evaluation, here, Or.inr ?_⟩
        rw [of_decide_eq_true passed]
        exact Option.some_ne_none _
      · rw [List.mem_singleton.mp inside] at stored
        have ofSlo := (Entries.last_eq_some stored).1
        exact absurd informational (of_decide_eq_true (List.all_eq_true.mp facts.2 _ ofSlo))

/-- The header of a column in which the SLO did not run is an error, and so is an
informational indicator. -/
theorem absent_and_informational_shown_as_error :
    (Exists fun view =>
      MiniSample.view [MiniSample.run 1, MiniSample.run 2] "checkout" false = some view ∧
        ¬ ShowsStored MiniSample.tables [MiniSample.run 1, MiniSample.run 2] "checkout" view) ∧
    (Exists fun view => MiniSample.view [MiniSample.run 1] "checkout" true = some view ∧
      ¬ ShowsStored MiniSample.tables [MiniSample.run 1] "checkout" view) := by
  have absent : (MiniSample.view [MiniSample.run 1, MiniSample.run 2] "checkout" false).any
      (fun view => (view.cells.filter (·.isSloHeader)).map
          (fun cell => (cell.columnKey, cell.result)) ≠
        [MiniSample.run 1, MiniSample.run 2].map fun run =>
          (run.id, statedResult (evaluationIn MiniSample.tables run "checkout"))) = true := by
    decide +kernel
  have informational : (MiniSample.view [MiniSample.run 1] "checkout" true).any (fun view =>
      view.cells.any fun cell => cell.metricName = some "load" ∧ cell.result = .error) = true := by
    decide +kernel
  have stored : (indicatorIn MiniSample.tables (MiniSample.run 1) "checkout" "load").all
      (fun found => found.2.status ≠ .error) = true := by
    decide +kernel
  constructor
  · rcases (Option.any_eq_true _ _).mp absent with ⟨view, isView, differs⟩
    exact ⟨view, isView, fun shows => of_decide_eq_true differs shows.header⟩
  · rcases (Option.any_eq_true _ _).mp informational with ⟨view, isView, cells⟩
    rcases List.any_eq_true.mp cells with ⟨cell, inside, shown⟩
    rcases of_decide_eq_true shown with ⟨isLoad, isError⟩
    refine ⟨view, isView, fun shows => ?_⟩
    rcases shows.indicator cell inside "load" isLoad isError with
      ⟨run, found, ofRuns, _, isFound, isStored⟩
    rw [List.mem_singleton.mp ofRuns] at isFound
    rw [isFound] at stored
    exact of_decide_eq_true stored isStored

end Presentation
end Tropek
