import Tropek.Presentation.MiniHeatmap

namespace Tropek
namespace Presentation

open Library Engine Store KeyedTable Fallible

/-!
# The heatmap by metric

The second heatmap endpoint returns one cell for each completed evaluation and one for
each of its indicator rows.  It reads the columns of the evaluation itself: the score of
its score cell is the stored score, and the metric cells of an overridden evaluation show
the result that it was overridden with.

The grouped heatmap reads the same rows.  The score of its summary comes from the points,
and its metric cells show the statuses of the indicator rows.  So the two agree on an
evaluation exactly when the columns of the evaluation agree.
-/

/-! ## The endpoint -/

structure HeatmapCell where
  slot : Instant
  metric : String
  displayName : String
  result : String
  score : ℚ
  evalId : Nat
  evaluationName : String
deriving DecidableEq

structure MetricHeatmapResponse where
  assetName : String
  slots : List Instant
  metrics : List HeatmapMetric
  cells : List HeatmapCell
deriving DecidableEq

structure MetricHeatmapRequest where
  assetName : String
  evaluationName : List String := []
  fromTs : Option Instant := none
  toTs : Option Instant := none
deriving DecidableEq, Repr

/-- The completed evaluations of the window, the newest first.  Without a window there are
at most five hundred. -/
def getMetricHeatmap (tables : Tables) (assetId : Nat) (request : MetricHeatmapRequest) :
    List SLOEvaluation :=
  let evaluations := Latest.newestFirst SLOEvaluation.periodStart
    (tables.evaluations.rows.filter fun evaluation =>
      evaluation.assetId = assetId && evaluation.status = .completed &&
        (request.evaluationName = [] ||
          request.evaluationName.contains evaluation.evaluationName) &&
        request.fromTs.all (· ≤ evaluation.periodStart) &&
        request.toTs.all (evaluation.periodStart ≤ ·))
  if request.fromTs.isNone && request.toTs.isNone then evaluations.take 500 else evaluations

def statusText (status : IndicatorStatus) : String :=
  (CellResult.status status).text

def scoreMetric : String :=
  "__score__"

def scoreCell (ev : SLOEvaluation) : HeatmapCell :=
  { slot := ev.periodStart
    metric := scoreMetric
    displayName := "Score"
    result := if ev.invalidated then "invalidated" else ev.result.elim "none" resultText
    score := ev.score.getD 0
    evalId := ev.id
    evaluationName := ev.evaluationName }

def metricCell (ev : SLOEvaluation) (row : IndicatorResultRow) : HeatmapCell :=
  { slot := ev.periodStart
    metric := row.objective.sli
    displayName := shownName row.objective
    result :=
      if ev.invalidated then "invalidated"
      else if ev.originalResult.isSome then ev.result.elim (statusText row.status) resultText
      else statusText row.status
    score := row.score
    evalId := ev.id
    evaluationName := ev.evaluationName }

def evaluationCells (ev : SLOEvaluation) : List HeatmapCell :=
  scoreCell ev :: ev.indicatorRows.rows.map (metricCell ev)

/-- `GET /evaluations/heatmap/by-metric`. -/
def getMetricHeatmapNew (tables : Tables) (request : MetricHeatmapRequest) :
    Except HeatmapError MetricHeatmapResponse := do
  let asset <- orRaise (.assetNotFound request.assetName)
    (Worker.findAsset tables.toDatabase request.assetName)
  let evals := getMetricHeatmap tables asset.id request
  return {
    assetName := request.assetName
    slots := evals.reverse.map (·.periodStart)
    metrics := columnMetrics (evals.reverse.flatMap (·.indicatorRows.rows)) ++
      [{ name := scoreMetric, displayName := "Score" }]
    cells := evals.reverse.flatMap evaluationCells }

/-! ## What agrees -/

structure CellsAgree (cell : HeatmapCell) (grouped : HeatmapCellGrouped) : Prop where
  metric : cell.metric = grouped.metric
  result : cell.result = grouped.result.text
  score : cell.score = grouped.score

/-- The cells of an evaluation are a score cell, which agrees with the summary of its SLO in
its run, and metric cells, which agree with the cells of its SLO in its run. -/
def EvaluationAgrees (byMetric : MetricHeatmapResponse) (grouped : GroupedMetricHeatmapResponse)
    (ev : SLOEvaluation) : Prop :=
  Exists fun group => group ∈ grouped.groups ∧ group.sloName = ev.sloName ∧
    Exists fun summary => summary ∈ group.summary ∧ summary.evaluationId = ev.evaluationId ∧
      Exists fun score => Exists fun cells =>
        byMetric.cells.filter (fun cell => cell.evalId = ev.id) = score :: cells ∧
          score.metric = scoreMetric ∧ score.result = summary.result.text ∧
          score.score = summary.score ∧
          List.Forall₂ CellsAgree cells
            (group.cells.filter fun cell => cell.evaluationId = ev.evaluationId)

def RowsShow (result : ResultValue) (rows : List IndicatorResultRow) : Prop :=
  forall row, row ∈ rows -> resultText result = statusText row.status

instance (result : ResultValue) (rows : List IndicatorResultRow) : Decidable (RowsShow result rows) :=
  List.decidableBAll _ _

structure ColumnsAgree (ev : SLOEvaluation) : Prop where
  statuses : ev.invalidated = false -> ev.originalResult ≠ none -> forall result,
    ev.result = some result -> RowsShow result ev.indicatorRows.rows
  points : ev.score.getD 0 = pointsScore ev.achievedPoints ev.totalPoints

instance (ev : SLOEvaluation) : Decidable (ColumnsAgree ev) :=
  decidable_of_iff
    ((ev.invalidated = false -> ev.originalResult ≠ none ->
        forall result, result ∈ ev.result -> RowsShow result ev.indicatorRows.rows) ∧
      ev.score.getD 0 = pointsScore ev.achievedPoints ev.totalPoints)
    ⟨fun both => ⟨both.1, both.2⟩, fun agree => ⟨agree.statuses, agree.points⟩⟩

/-! ## The cells by metric -/

variable {request : MetricHeatmapRequest} {tables : Tables} {ev : SLOEvaluation}
  {byMetric : MetricHeatmapResponse} {fragment : HeatmapColumnFragment} {run : EvaluationRun}
  {cache left : HeatmapCache} {grouped : GroupedMetricHeatmapResponse}

theorem mem_getMetricHeatmap {assetId : Nat} (listed : ev ∈ getMetricHeatmap tables assetId request) :
    ev ∈ tables.evaluations.rows ∧ ev.status = .completed := by
  have inWindow : ev ∈ tables.evaluations.rows.filter fun evaluation =>
      evaluation.assetId = assetId && evaluation.status = .completed &&
        (request.evaluationName = [] ||
          request.evaluationName.contains evaluation.evaluationName) &&
        request.fromTs.all (· ≤ evaluation.periodStart) &&
        request.toTs.all (evaluation.periodStart ≤ ·) := by
    unfold getMetricHeatmap at listed
    dsimp only at listed
    split at listed
    · exact (Latest.mem_newestFirst _).mp (List.mem_of_mem_take listed)
    · exact (Latest.mem_newestFirst _).mp listed
  rcases List.mem_filter.mp inWindow with ⟨stored, selected⟩
  simp only [Bool.and_eq_true, decide_eq_true_eq] at selected
  exact ⟨stored, selected.1.1.1.2⟩

theorem getMetricHeatmap_nodup (tables : Tables) (assetId : Nat) (request : MetricHeatmapRequest) :
    ((getMetricHeatmap tables assetId request).map (·.id)).Nodup := by
  unfold getMetricHeatmap
  dsimp only
  split
  · apply ((List.take_sublist _ _).map _).nodup
    apply Latest.newestFirst_nodup
    exact (List.filter_sublist.map _).nodup tables.evaluations.nodup
  · apply Latest.newestFirst_nodup
    exact (List.filter_sublist.map _).nodup tables.evaluations.nodup

theorem evaluationCells_evalId {cell : HeatmapCell} (member : cell ∈ evaluationCells ev) :
    cell.evalId = ev.id := by
  rcases List.mem_cons.mp member with isScore | ofMetric
  · rw [isScore]
    rfl
  · rcases List.mem_map.mp ofMetric with ⟨row, _, same⟩
    rw [<- same]
    rfl

theorem byMetric_cells (returned : getMetricHeatmapNew tables request = .ok byMetric) :
    Exists fun evals : List SLOEvaluation => byMetric.cells = evals.flatMap evaluationCells ∧
      (evals.map (·.id)).Nodup ∧
      forall ev, ev ∈ evals -> ev ∈ tables.evaluations.rows ∧ ev.status = .completed := by
  rcases bind_eq_ok.mp returned with ⟨asset, _, returned⟩
  cases returned
  refine ⟨_, rfl, ?_, fun ev listed => mem_getMetricHeatmap (List.mem_reverse.mp listed)⟩
  rw [List.map_reverse, List.nodup_reverse]
  exact getMetricHeatmap_nodup tables asset.id request

theorem byMetric_filter (returned : getMetricHeatmapNew tables request = .ok byMetric)
    (stored : ev ∈ tables.evaluations.rows)
    (shown : Exists fun cell => cell ∈ byMetric.cells ∧ cell.evalId = ev.id) :
    byMetric.cells.filter (fun cell => cell.evalId = ev.id) = evaluationCells ev ∧
      ev.status = .completed := by
  rcases byMetric_cells returned with ⟨evals, isCells, nodup, all⟩
  rcases shown with ⟨cell, member, isEv⟩
  rw [isCells] at member ⊢
  rcases List.mem_flatMap.mp member with ⟨other, listed, ofOther⟩
  have isOther : other = ev := by
    refine List.inj_on_of_nodup_map tables.evaluations.nodup (all other listed).1 stored ?_
    rw [<- evaluationCells_evalId ofOther, isEv]
  subst isOther
  exact ⟨Entries.filter_flatMap nodup (fun _ _ _ => evaluationCells_evalId) listed,
    (all other listed).2⟩

/-! ## The columns of the grouped heatmap -/

theorem builtFor_noted (built : buildColumnFragment tables run false = .ok fragment)
    (hasNotes : Bool) :
    BuiltFor tables run { fragment with column := { fragment.column with hasNotes } } := by
  rcases bind_eq_ok.mp built with ⟨perSlo, looped, same⟩
  cases same
  exact ⟨hasNotes, bind_eq_ok.mpr ⟨perSlo, looped, rfl⟩⟩

theorem rebuildFragments_coherent {asset : Asset} {missingIds : List Nat}
    {rebuilt : List HeatmapColumnFragment}
    (returned : rebuildFragments tables asset missingIds = .ok rebuilt)
    {entry : Nat × HeatmapColumnFragment} (member : entry ∈ entriesOf rebuilt) :
    columnFragment tables entry.1 = some entry.2 := by
  rcases List.mem_map.mp member with ⟨fragment, inside, same⟩
  subst same
  have looped := mapM_eq_ok.mp (mapError_eq_ok returned)
  rcases Latest.pairs_of_related looped with ⟨pairs, isRuns, isFragments, all⟩
  rw [isFragments] at inside
  rcases List.mem_map.mp inside with ⟨pair, ofPairs, isFragment⟩
  have built := all pair ofPairs
  rw [isFragment] at built
  have listed : pair.1 ∈ getGroupedMetricHeatmap tables asset.id missingIds :=
    isRuns ▸ List.mem_map_of_mem ofPairs
  exact (columnFragment_of_build listed built).1

theorem listRunsForHeatmap_nodup (tables : Tables) (request : HeatmapRequest) :
    ((listRunsForHeatmap tables request).map EvaluationRun.id).Nodup := by
  unfold listRunsForHeatmap
  dsimp only
  split
  · apply ((List.take_sublist _ _).map _).nodup
    apply Latest.newestFirst_nodup
    exact (List.filter_sublist.map _).nodup tables.runs.nodup
  · apply Latest.newestFirst_nodup
    exact (List.filter_sublist.map _).nodup tables.runs.nodup

theorem grouped_built {tables : HeatmapTables} {request : GroupedHeatmapRequest}
    (coherent : cache.Coherent (columnFragment tables.toTables))
    (returned : getGroupedMetricHeatmapNew tables cache request = .ok (grouped, left)) :
    Exists fun runs => Exists fun fragments =>
      (runs.map EvaluationRun.id).Nodup ∧ List.Forall₂ (BuiltFor tables.toTables) runs fragments ∧
        grouped = enrichHeatmapWithChangePoints tables.toTrendTables runs
          (assembleGroupedResponse request.assetName fragments) := by
  rcases bind_eq_ok.mp returned with ⟨asset, _, returned⟩
  rcases bind_eq_ok.mp returned with ⟨rebuilt, built, returned⟩
  rcases bind_eq_ok.mp returned with ⟨response, responded, same⟩
  cases same
  rcases bind_eq_ok.mp responded with ⟨fragments, looped, same⟩
  cases same
  have cached : (if request.cache then cache else fun _ => none).Coherent
      (columnFragment tables.toTables) := by
    split
    · exact coherent
    · intro key value impossible
      cases impossible
  have all := cached.setMany fun entry member => rebuildFragments_coherent built member
  have candidates : forall run, run ∈ listRunsForHeatmap tables.toTables (request.onAsset asset) ->
      run ∈ tables.runs.rows := fun run listed => (mem_listRunsForHeatmap listed).1
  refine ⟨_, fragments, ?_, ?_, rfl⟩
  · refine ((Latest.sortBy_perm _ _).map _).nodup_iff.mpr ?_
    exact listRunsForHeatmap_nodup tables.toTables (request.onAsset asset)
  · refine (Latest.related_with_members (mapM_eq_ok.mp looped)).imp ?_
    rintro run fragment ⟨ordered, _, noted⟩
    rcases bind_eq_ok.mp noted with ⟨base, found, same⟩
    cases same
    rcases columnFragment_eq_some.mp (all run.id base (orRaise_eq_ok.mp found)) with
      ⟨stored, isRun, _, isBuilt⟩
    rw [find_of_mem (candidates run ((Latest.sortBy_perm _ _).mem_iff.mp ordered))] at isRun
    cases isRun
    exact builtFor_noted isBuilt _

theorem group_listed (assetName : String) {fragments : List HeatmapColumnFragment}
    (member : fragment ∈ fragments) {part : HeatmapColumnSloFragment}
    (ofFragment : part ∈ fragment.perSlo) :
    Exists fun group => group ∈ (assembleGroupedResponse assetName fragments).groups ∧
      group.sloName = part.sloName := by
  rcases Entries.exists_mem_zipIdx member with ⟨position, inColumns⟩
  have listed : (position, part) ∈ (columnParts fragments).filter (·.2.sloName = part.sloName) :=
    List.mem_filter.mpr ⟨List.mem_flatMap.mpr
      ⟨(fragment, position), inColumns, List.mem_map_of_mem ofFragment⟩, decide_eq_true rfl⟩
  have present := (groups_collect (columnParts fragments) part.sloName).2
  cases found : ((columnParts fragments).foldl (fun groupsByName part =>
      addSloPart part.1 groupsByName part.2) (∅ : Dict GroupEntry)).lookup part.sloName with
  | none =>
      rw [present found] at listed
      exact absurd listed List.not_mem_nil
  | some entry =>
      let shown : HeatmapSloGroupSection :=
        { sloName := part.sloName
          metrics := entry.metricsByName
          cells := entry.cells
          summary := fragments.zipIdx.map fun column =>
            (entry.summaryByCol column.2).getD (emptySummaryForRun column.1) }
      refine ⟨shown, List.mem_filterMap.mpr ⟨part.sloName, ?_, ?_⟩, rfl⟩
      · rw [List.mem_insertionSort, foldl_columns, <- AList.mem_keys, <- AList.lookup_isSome, found]
        rfl
      · rw [foldl_columns, found]
        rfl

structure SameCell (before after : HeatmapCellGrouped) : Prop where
  evaluationId : after.evaluationId = before.evaluationId
  metric : after.metric = before.metric
  result : after.result = before.result
  score : after.score = before.score

theorem markCell_same (lookup : List (ChangePointKey × ChangePointRow))
    (orderedRuns : List EvaluationRun) (sloName : String) (cell : HeatmapCellGrouped) :
    SameCell cell (markCell lookup orderedRuns sloName cell) := by
  unfold markCell
  split
  · exact ⟨rfl, rfl, rfl, rfl⟩
  · split <;> exact ⟨rfl, rfl, rfl, rfl⟩

structure SameGroup (before after : HeatmapSloGroupSection) : Prop where
  sloName : after.sloName = before.sloName
  summary : after.summary = before.summary
  cells : List.Forall₂ SameCell before.cells after.cells

theorem enrich_same (tables : TrendTables) (orderedRuns : List EvaluationRun)
    (response : GroupedMetricHeatmapResponse) :
    (enrichHeatmapWithChangePoints tables orderedRuns response).columns = response.columns ∧
      List.Forall₂ SameGroup response.groups
        (enrichHeatmapWithChangePoints tables orderedRuns response).groups := by
  cases orderedRuns with
  | nil =>
      refine ⟨rfl, List.forall₂_same.mpr fun group _ => ⟨rfl, rfl, ?_⟩⟩
      exact List.forall₂_same.mpr fun cell _ => ⟨rfl, rfl, rfl, rfl⟩
  | cons first rest =>
      refine ⟨rfl, List.forall₂_map_right_iff.mpr (List.forall₂_same.mpr fun group _ =>
        ⟨rfl, rfl, ?_⟩)⟩
      exact List.forall₂_map_right_iff.mpr
        (List.forall₂_same.mpr fun cell _ => markCell_same _ _ _ cell)

/-! ## One evaluation in both responses -/

def OnlyOfSlo (evaluations : Evaluations) (ev : SLOEvaluation) : Prop :=
  forall other, other ∈ evaluations.rows -> other.evaluationId = ev.evaluationId ->
    other.sloName = ev.sloName -> other = ev

theorem filter_onlyOfSlo (stored : ev ∈ tables.evaluations.rows)
    (only : OnlyOfSlo tables.evaluations ev) :
    (sloEvaluationsOf tables ev.evaluationId).filter (·.sloName = ev.sloName) = [ev] := by
  have selected : ev ∈ (sloEvaluationsOf tables ev.evaluationId).filter (·.sloName = ev.sloName) :=
    List.mem_filter.mpr ⟨List.mem_filter.mpr ⟨stored, decide_eq_true rfl⟩, decide_eq_true rfl⟩
  have nodup : ((sloEvaluationsOf tables ev.evaluationId).filter (·.sloName = ev.sloName)).Nodup :=
    (List.Nodup.of_map _ tables.evaluations.nodup).filter _ |>.filter _
  have all : forall other,
      other ∈ (sloEvaluationsOf tables ev.evaluationId).filter (·.sloName = ev.sloName) ->
        other = ev := by
    intro other member
    rcases List.mem_filter.mp member with ⟨ofRun, sameSlo⟩
    rcases List.mem_filter.mp ofRun with ⟨inTable, sameRun⟩
    exact only other inTable (of_decide_eq_true sameRun) (of_decide_eq_true sameSlo)
  have repeated := List.eq_replicate_of_mem all
  rw [repeated, List.nodup_replicate] at nodup
  have positive := List.length_pos_of_mem selected
  rw [repeated, show List.length _ = 1 from le_antisymm nodup positive]
  rfl

section Column

variable {tables : Tables} {run : EvaluationRun} {fragment : HeatmapColumnFragment}
  {ev : SLOEvaluation} (built : BuiltFor tables run fragment)
  (stored : ev ∈ tables.evaluations.rows) (ofRun : run.id = ev.evaluationId)
  (only : OnlyOfSlo tables.evaluations ev)

include built stored ofRun only

theorem part_of_evaluation : Exists fun part =>
    fragment.perSlo.filter (·.sloName = ev.sloName) = [part] ∧
      buildSloFragment tables run ev = .ok part := by
  have parts := List.rel_filter (p := fun evaluation : SLOEvaluation => evaluation.sloName = ev.sloName)
    (q := fun part : HeatmapColumnSloFragment => part.sloName = ev.sloName)
    (fun evaluation part here => by simp only [(buildSloFragment_summary here).1]) built.perSlo
  rw [ofRun, filter_onlyOfSlo stored only] at parts
  generalize fragment.perSlo.filter _ = selected at parts ⊢
  cases parts with
  | cons here rest =>
      cases rest
      exact ⟨_, rfl, here⟩

theorem columnSummary_of_evaluation :
    (columnSummary ev.sloName fragment).result = sloSummaryResult ev ∧
      (columnSummary ev.sloName fragment).score = pointsScore ev.achievedPoints ev.totalPoints := by
  rcases part_of_evaluation built stored ofRun only with ⟨part, isPart, here⟩
  have last : Entries.last HeatmapColumnSloFragment.sloName ev.sloName fragment.perSlo =
      some part := by
    rw [<- Entries.last_filter, isPart]
    simp [Entries.last, (buildSloFragment_summary here).1]
  unfold columnSummary
  rw [last]
  rcases bind_eq_ok.mp here with ⟨cells, _, same⟩
  cases same
  exact ⟨rfl, rfl⟩

theorem columnCells_of_evaluation :
    List.Forall₂ (fun row cell => buildCell tables run ev row = .ok cell)
      ev.indicatorRows.rows (columnCells ev.sloName fragment) := by
  rcases part_of_evaluation built stored ofRun only with ⟨part, isPart, here⟩
  unfold columnCells
  rw [isPart, List.flatMap_singleton]
  exact buildSloFragment_built here

end Column

/-- A metric cell agrees with the cell of its row exactly when the row has the result that
an override shows instead. -/
theorem metricCell_agrees {row : IndicatorResultRow} {cell : HeatmapCellGrouped}
    (built : buildCell tables run ev row = .ok cell) :
    CellsAgree (metricCell ev row) cell ↔
      (ev.invalidated = false -> ev.originalResult ≠ none -> forall value,
        ev.result = some value -> resultText value = statusText row.status) := by
  have shows := buildCell_shows built
  have sameScore : cell.score = row.score := by
    rcases bind_eq_ok.mp built with ⟨_, _, built⟩
    rcases bind_eq_ok.mp built with ⟨_, _, same⟩
    cases same
    rfl
  have sameResult : CellsAgree (metricCell ev row) cell ↔ (metricCell ev row).result =
      (if ev.invalidated then CellResult.invalidated else .status row.status).text := by
    rw [<- shows.2]
    exact ⟨fun agree => agree.result, fun agree =>
      ⟨(congrArg Prod.snd shows.1).symm, agree, sameScore.symm⟩⟩
  rw [sameResult]
  cases invalidated : ev.invalidated with
  | true => simp [metricCell, invalidated, CellResult.text]
  | false =>
      cases original : ev.originalResult with
      | none => simp [metricCell, invalidated, original, statusText]
      | some first =>
          cases stored : ev.result with
          | none => simp [metricCell, invalidated, original, stored, statusText]
          | some value => simp [metricCell, invalidated, original, stored, statusText]

theorem forall₂_iff_forall {Row Cell : Type} {related agree : Row -> Cell -> Prop}
    {fits : Row -> Prop} (each : forall row cell, related row cell -> (agree row cell ↔ fits row))
    {rows : List Row} {cells : List Cell} (alike : List.Forall₂ related rows cells) :
    List.Forall₂ agree rows cells ↔ forall row, row ∈ rows -> fits row := by
  induction alike with
  | nil => simp
  | cons here _ ih =>
      rw [List.forall₂_cons, List.forall_mem_cons, ih, each _ _ here]

theorem cellsAgree_iff {cells shown : List HeatmapCellGrouped}
    (built : List.Forall₂ (fun row cell =>
      buildCell tables run ev row = .ok cell) ev.indicatorRows.rows cells)
    (marked : List.Forall₂ SameCell cells shown) :
    List.Forall₂ CellsAgree (ev.indicatorRows.rows.map (metricCell ev)) shown ↔
      forall row, row ∈ ev.indicatorRows.rows -> ev.invalidated = false ->
        ev.originalResult ≠ none -> forall value, ev.result = some value ->
          resultText value = statusText row.status := by
  have alike : List.Forall₂ (fun row cell => Exists fun before =>
      buildCell tables run ev row = .ok before ∧ SameCell before cell)
      ev.indicatorRows.rows shown :=
    Latest.related_comp (fun row before cell isBuilt same => ⟨before, isBuilt, same⟩)
      built marked
  rw [List.forall₂_map_left_iff]
  refine forall₂_iff_forall (fun row cell here => ?_) alike
  rcases here with ⟨before, isBuilt, same⟩
  rw [<- metricCell_agrees isBuilt]
  exact ⟨fun agree => ⟨agree.metric.trans same.metric, agree.result.trans (same.result ▸ rfl),
      agree.score.trans same.score⟩,
    fun agree => ⟨agree.metric.trans same.metric.symm, agree.result.trans (same.result ▸ rfl),
      agree.score.trans same.score.symm⟩⟩

section Group

variable {tables : Tables} {runs : List EvaluationRun} {fragments : List HeatmapColumnFragment}
  {fragment : HeatmapColumnFragment} {group : HeatmapSloGroupSection}
  (distinct : (runs.map (·.id)).Nodup) (built : List.Forall₂ (BuiltFor tables) runs fragments)
  (merges : group.Merges fragments) (member : fragment ∈ fragments)

include distinct built merges member

theorem summary_of_column {summary : HeatmapSummaryCell} (listed : summary ∈ group.summary) :
    summary.evaluationId = fragment.column.evaluationId ↔
      summary = columnSummary group.sloName fragment := by
  have keys : forall other, other ∈ fragments ->
      (columnSummary group.sloName other).evaluationId = other.column.evaluationId := by
    intro other inside
    rcases run_of_fragment built inside with ⟨_, _, itsRun⟩
    rw [(itsRun.summary group.sloName).1, itsRun.column]
  have nodup : (fragments.map (·.column.evaluationId)).Nodup := columns_of_built built ▸ distinct
  rw [merges.summary] at listed
  rcases List.mem_map.mp listed with ⟨other, inside, isSummary⟩
  constructor
  · intro same
    rw [<- isSummary, keys other inside] at same
    rw [<- isSummary, List.inj_on_of_nodup_map nodup inside member same]
  · intro same
    rw [same, keys fragment member]

theorem cells_of_column :
    group.cells.filter (fun cell => cell.evaluationId = fragment.column.evaluationId) =
      columnCells group.sloName fragment := by
  have nodup : (fragments.map (·.column.evaluationId)).Nodup := columns_of_built built ▸ distinct
  rw [merges.cells]
  refine Entries.filter_flatMap nodup (fun other inside cell ofOther => ?_) member
  rcases run_of_fragment built inside with ⟨otherRun, _, itsRun⟩
  rcases Latest.pairs_of_related (itsRun.cells group.sloName) with ⟨pairs, _, isCells, all⟩
  rw [isCells] at ofOther
  rcases List.mem_map.mp ofOther with ⟨pair, pairInside, isCell⟩
  have itsKey := (buildCell_shows (all pair pairInside)).1
  rw [isCell] at itsKey
  rw [itsRun.column]
  exact (Prod.mk.inj itsKey).1

end Group

/-- The section of an evaluation in the response, with the summary and the cells that its
run has there. -/
structure SectionShows (tables : Tables) (run : EvaluationRun) (ev : SLOEvaluation)
    (group : HeatmapSloGroupSection) : Prop where
  summary : forall summary, summary ∈ group.summary -> summary.evaluationId = ev.evaluationId ->
    summary.result = sloSummaryResult ev ∧
      summary.score = pointsScore ev.achievedPoints ev.totalPoints
  summarized : Exists fun summary => summary ∈ group.summary ∧
    summary.evaluationId = ev.evaluationId
  cells : Exists fun cells =>
    List.Forall₂ (fun row cell => buildCell tables run ev row = .ok cell)
      ev.indicatorRows.rows cells ∧
    List.Forall₂ SameCell cells
      (group.cells.filter fun cell => cell.evaluationId = ev.evaluationId)

theorem grouped_shows {tables : HeatmapTables} {request : GroupedHeatmapRequest}
    (coherent : cache.Coherent (columnFragment tables.toTables))
    (returned : getGroupedMetricHeatmapNew tables cache request = .ok (grouped, left))
    (stored : ev ∈ tables.evaluations.rows) (only : OnlyOfSlo tables.evaluations ev)
    (shown : Exists fun column => column ∈ grouped.columns ∧
      column.evaluationId = ev.evaluationId) :
    Exists fun run =>
      (Exists fun group => group ∈ grouped.groups ∧ group.sloName = ev.sloName) ∧
      forall group, group ∈ grouped.groups -> group.sloName = ev.sloName ->
        SectionShows tables.toTables run ev group := by
  rcases grouped_built coherent returned with ⟨runs, fragments, distinct, built, isGrouped⟩
  have enriched := enrich_same tables.toTrendTables runs
    (assembleGroupedResponse request.assetName fragments)
  rw [<- isGrouped] at enriched
  rcases shown with ⟨column, inColumns, ofRun⟩
  rw [enriched.1] at inColumns
  rcases List.mem_map.mp inColumns with ⟨fragment, member, isColumn⟩
  subst isColumn
  rcases run_of_fragment built member with ⟨run, _, itsRun⟩
  have sameRun : run.id = ev.evaluationId := itsRun.column.symm.trans ofRun
  rcases part_of_evaluation itsRun stored sameRun only with ⟨part, isPart, here⟩
  have ofFragment : part ∈ fragment.perSlo :=
    List.mem_of_mem_filter (isPart ▸ List.mem_cons_self)
  refine ⟨run, ?_, fun group listed isSlo => ?_⟩
  · rcases group_listed request.assetName member ofFragment with
      ⟨before, inside, isSlo⟩
    rcases mem_related enriched.2 inside with ⟨group, listed, same⟩
    refine ⟨group, listed, ?_⟩
    rw [same.sloName, isSlo, (buildSloFragment_summary here).1]
  · rcases mem_related enriched.2.flip listed with ⟨before, inside, same⟩
    have merges := assembleGroupedResponse_merges inside
    have named : before.sloName = ev.sloName := same.sloName.symm.trans isSlo
    refine ⟨fun summary inSummary isRun => ?_, ?_, ?_⟩
    · rw [same.summary] at inSummary
      rw [(summary_of_column distinct built merges member inSummary).mp (isRun.trans ofRun.symm),
        named]
      exact columnSummary_of_evaluation itsRun stored sameRun only
    · refine ⟨columnSummary before.sloName fragment, ?_, ?_⟩
      · rw [same.summary, merges.summary]
        exact List.mem_map_of_mem member
      · rw [(itsRun.summary before.sloName).1, sameRun]
    · refine ⟨columnCells ev.sloName fragment,
        columnCells_of_evaluation itsRun stored sameRun only, ?_⟩
      rw [<- named, <- cells_of_column distinct built merges member, <- ofRun]
      exact List.rel_filter (fun cell after alike => by simp only [alike.evaluationId]) same.cells

theorem evaluationAgrees_iff {tables : HeatmapTables} {groupedRequest : GroupedHeatmapRequest}
    (coherent : cache.Coherent (columnFragment tables.toTables))
    (returned : getMetricHeatmapNew tables.toTables request = .ok byMetric)
    (groupedReturned : getGroupedMetricHeatmapNew tables cache groupedRequest = .ok (grouped, left))
    (stored : ev ∈ tables.evaluations.rows) (only : OnlyOfSlo tables.evaluations ev)
    (inMetric : Exists fun cell => cell ∈ byMetric.cells ∧ cell.evalId = ev.id)
    (inGrouped : Exists fun column => column ∈ grouped.columns ∧
      column.evaluationId = ev.evaluationId) :
    EvaluationAgrees byMetric grouped ev ↔ ColumnsAgree ev := by
  rcases grouped_shows coherent groupedReturned stored only inGrouped with ⟨run, present, shows⟩
  have isCells := (byMetric_filter returned stored inMetric).1
  have sameText : (scoreCell ev).result = (sloSummaryResult ev).text := by
    unfold scoreCell sloSummaryResult
    cases ev.invalidated <;> cases ev.result <;> rfl
  constructor
  · rintro ⟨group, listed, isSlo, summary, inSummary, isRun, score, cells, filtered, _, _, sameScore,
      alike⟩
    rw [isCells] at filtered
    cases filtered
    have shown := shows group listed isSlo
    rcases shown.cells with ⟨before, isBuilt, marked⟩
    refine ⟨fun valid overridden value stored row member => ?_, ?_⟩
    · exact (cellsAgree_iff isBuilt marked).mp alike row member valid overridden value stored
    · rw [<- (shown.summary summary inSummary isRun).2]
      exact sameScore
  · intro agree
    rcases present with ⟨group, listed, isSlo⟩
    have shown := shows group listed isSlo
    rcases shown.summarized with ⟨summary, inSummary, isRun⟩
    rcases shown.cells with ⟨before, isBuilt, marked⟩
    rcases shown.summary summary inSummary isRun with ⟨sameResult, sameScore⟩
    refine ⟨group, listed, isSlo, summary, inSummary, isRun, _, _, isCells, rfl, ?_, ?_, ?_⟩
    · rw [sameResult]
      exact sameText
    · rw [sameScore]
      exact agree.points
    · refine (cellsAgree_iff isBuilt marked).mpr fun row member valid overridden value stored => ?_
      exact agree.statuses valid overridden value stored row member

end Presentation
end Tropek
