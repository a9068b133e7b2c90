import Mathlib.Data.Prod.Lex
import Tropek.Library.LastEntry
import Tropek.Presentation.Trends
import Tropek.Worker.Trigger

namespace Tropek
namespace Presentation

open Library Engine Store Fallible

/-!
# The grouped heatmap

A heatmap has one column for each completed run of an asset in a window.  The endpoint
takes the fragments that are cached, builds the missing ones, overlays the notes, merges
the columns into one section for each SLO, and overlays the change points.

A request without the cache builds every fragment.  A coherent cache makes no difference
to the response.
-/

/-- A row of `evaluation_annotations`, attached to an evaluation or to a run. -/
structure EvaluationAnnotation where
  id : Nat
  sloEvaluationId : Option Nat := none
  evaluationRunId : Option Nat := none
  hidden : Bool := false
deriving DecidableEq, Repr

structure HeatmapTables extends TrendTables where
  annotations : List EvaluationAnnotation := []

/-- The runs among the given ones that a visible note is attached to, or to one of whose
evaluations. -/
def getRunIdsWithNotes (tables : HeatmapTables) (runIds : List Nat) : List Nat :=
  let visible := tables.annotations.filter (!·.hidden)
  let sloLevelHits := visible.filterMap fun note =>
    (note.sloEvaluationId.bind tables.evaluations.find).map (·.evaluationId)
  let runLevelHits := visible.filterMap (·.evaluationRunId)
  (sloLevelHits ++ runLevelHits).filter runIds.contains

/-- The rows of one SLO in the grouped heatmap.  `summary`: one summary for each column.
-/
structure HeatmapSloGroupSection where
  sloName : String
  metrics : List HeatmapMetric
  cells : List HeatmapCellGrouped
  summary : List HeatmapSummaryCell
deriving DecidableEq

structure GroupedMetricHeatmapResponse where
  assetName : String
  columns : List EvaluationColumn
  groups : List HeatmapSloGroupSection
  composite : List HeatmapSummaryCell
deriving DecidableEq

structure GroupEntry where
  metricsByName : List HeatmapMetric
  cells : List HeatmapCellGrouped
  summaryByCol : Nat -> Option HeatmapSummaryCell

/-- `metrics_by_name[metric.name] = metric`. -/
def setMetric (metrics : List HeatmapMetric) (metric : HeatmapMetric) : List HeatmapMetric :=
  if metrics.any (·.name = metric.name) then
    metrics.map fun other => if other.name = metric.name then metric else other
  else metrics ++ [metric]

/-- `metrics_by_name.setdefault(metric.name, metric)`. -/
def setdefaultMetric (metrics : List HeatmapMetric) (metric : HeatmapMetric) : List HeatmapMetric :=
  if metrics.any (·.name = metric.name) then metrics else metrics ++ [metric]

def addSloPart (columnIndex : Nat) (groupsByName : Dict GroupEntry)
    (part : HeatmapColumnSloFragment) : Dict GroupEntry :=
  let entry := (groupsByName.lookup part.sloName).getD {
    metricsByName := part.metrics.foldl setMetric []
    cells := []
    summaryByCol := fun _ => none }
  groupsByName.insert part.sloName {
    metricsByName := part.metrics.foldl setdefaultMetric entry.metricsByName
    cells := entry.cells ++ part.cells
    summaryByCol := Function.update entry.summaryByCol columnIndex (some part.summary) }

def emptySummaryForRun (fragment : HeatmapColumnFragment) : HeatmapSummaryCell :=
  { evaluationId := fragment.column.evaluationId
    periodStart := fragment.column.periodStart
    result := .none
    score := 0 }

/-- Merge the fragments of the columns, which are in column order.  The SLOs are in
alphabetical order. -/
def assembleGroupedResponse (assetName : String) (fragments : List HeatmapColumnFragment) :
    GroupedMetricHeatmapResponse :=
  let groupsByName := fragments.zipIdx.foldl (fun groupsByName (fragment, columnIndex) =>
    fragment.perSlo.foldl (addSloPart columnIndex) groupsByName) ∅
  { assetName
    columns := fragments.map (·.column)
    groups := (groupsByName.keys.insertionSort (· ≤ ·)).filterMap fun sloName =>
      (groupsByName.lookup sloName).map fun entry =>
        { sloName
          metrics := entry.metricsByName
          cells := entry.cells
          summary := fragments.zipIdx.map fun (fragment, columnIndex) =>
            (entry.summaryByCol columnIndex).getD (emptySummaryForRun fragment) }
    composite := fragments.map (·.compositeSummary) }

def columnSummary (sloName : String) (fragment : HeatmapColumnFragment) : HeatmapSummaryCell :=
  ((Entries.last HeatmapColumnSloFragment.sloName sloName fragment.perSlo).map (·.summary)).getD
    (emptySummaryForRun fragment)

def columnCells (sloName : String) (fragment : HeatmapColumnFragment) : List HeatmapCellGrouped :=
  (fragment.perSlo.filter (·.sloName = sloName)).flatMap (·.cells)

def columnParts (fragments : List HeatmapColumnFragment) :
    List (Nat × HeatmapColumnSloFragment) :=
  fragments.zipIdx.flatMap fun (fragment, columnIndex) =>
    fragment.perSlo.map fun part => (columnIndex, part)

structure GroupEntry.Collects (entry : GroupEntry)
    (parts : List (Nat × HeatmapColumnSloFragment)) : Prop where
  cells : entry.cells = parts.flatMap (·.2.cells)
  summaries : forall columnIndex, entry.summaryByCol columnIndex =
    (Entries.last Prod.fst columnIndex parts).map (·.2.summary)
  metrics : forall part, part ∈ parts -> forall metric, metric ∈ part.2.metrics ->
    metric.name ∈ entry.metricsByName.map (·.name)

theorem mem_setdefaultMetric {metrics : List HeatmapMetric} {metric : HeatmapMetric}
    {name : String} : name ∈ (setdefaultMetric metrics metric).map (·.name) ↔
      name ∈ metrics.map (·.name) ∨ name = metric.name := by
  unfold setdefaultMetric
  split
  · rename_i present
    rcases List.any_eq_true.mp present with ⟨other, member, same⟩
    constructor
    · exact Or.inl
    · rintro (inside | isName)
      · exact inside
      · exact List.mem_map.mpr ⟨other, member, (of_decide_eq_true same).trans isName.symm⟩
  · simp

theorem mem_foldl_setdefaultMetric {added metrics : List HeatmapMetric} {name : String} :
    name ∈ (added.foldl setdefaultMetric metrics).map (·.name) ↔
      name ∈ metrics.map (·.name) ∨ name ∈ added.map (·.name) := by
  induction added generalizing metrics with
  | nil => simp
  | cons metric rest ih =>
      rw [List.foldl_cons, ih, mem_setdefaultMetric, List.map_cons, List.mem_cons,
        or_assoc]

theorem lookup_addSloPart (columnIndex : Nat) (groupsByName : Dict GroupEntry)
    (part : HeatmapColumnSloFragment) {sloName : String} (other : part.sloName ≠ sloName) :
    (addSloPart columnIndex groupsByName part).lookup sloName = groupsByName.lookup sloName :=
  AList.lookup_insert_ne (Ne.symm other)

theorem collects_addSloPart {groupsByName : Dict GroupEntry}
    {parts : List (Nat × HeatmapColumnSloFragment)} (part : Nat × HeatmapColumnSloFragment)
    (present : forall entry, groupsByName.lookup part.2.sloName = some entry ->
      entry.Collects parts)
    (absent : groupsByName.lookup part.2.sloName = none -> parts = []) :
    Exists fun entry =>
      (addSloPart part.1 groupsByName part.2).lookup part.2.sloName = some entry ∧
        entry.Collects (parts ++ [part]) := by
  refine ⟨_, AList.lookup_insert _, ?_⟩
  let start : GroupEntry := (groupsByName.lookup part.2.sloName).getD {
    metricsByName := part.2.metrics.foldl setMetric []
    cells := []
    summaryByCol := fun _ => none }
  have before : start.Collects parts := by
    cases found : groupsByName.lookup part.2.sloName with
    | none =>
        have isStart : start = {
            metricsByName := part.2.metrics.foldl setMetric []
            cells := []
            summaryByCol := fun _ => none } := by
          change (groupsByName.lookup part.2.sloName).getD _ = _
          rw [found]
          rfl
        rw [isStart, absent found]
        exact ⟨rfl, fun _ => rfl, fun _ impossible => absurd impossible List.not_mem_nil⟩
    | some entry =>
        have isStart : start = entry := by
          change (groupsByName.lookup part.2.sloName).getD _ = entry
          rw [found]
          rfl
        rw [isStart]
        exact present entry found
  change GroupEntry.Collects {
    metricsByName := part.2.metrics.foldl setdefaultMetric start.metricsByName
    cells := start.cells ++ part.2.cells
    summaryByCol := Function.update start.summaryByCol part.1 (some part.2.summary) } _
  refine ⟨?_, fun columnIndex => ?_, fun other member metric inside => ?_⟩
  · simp only [before.cells, List.flatMap_append, List.flatMap_singleton]
  · rw [Entries.last_concat]
    by_cases same : part.1 = columnIndex
    · simp [same]
    · simp only [Function.update_of_ne (Ne.symm same), if_neg same, before.summaries]
  · rw [mem_foldl_setdefaultMetric]
    rcases List.mem_append.mp member with earlier | isPart
    · exact Or.inl (before.metrics other earlier metric inside)
    · rw [List.mem_singleton.mp isPart] at inside
      exact Or.inr (List.mem_map_of_mem inside)

theorem groups_collect (parts : List (Nat × HeatmapColumnSloFragment)) (sloName : String) :
    (forall entry, (parts.foldl (fun groupsByName part =>
        addSloPart part.1 groupsByName part.2) ∅).lookup sloName = some entry ->
      entry.Collects (parts.filter (·.2.sloName = sloName))) ∧
    ((parts.foldl (fun groupsByName part =>
        addSloPart part.1 groupsByName part.2) ∅).lookup sloName = none ->
      parts.filter (·.2.sloName = sloName) = []) := by
  induction parts using List.reverseRecOn with
  | nil => exact ⟨fun _ impossible => (by cases impossible), fun _ => rfl⟩
  | append_singleton rest part ih =>
      rw [List.foldl_append, List.filter_append]
      change (forall entry, (addSloPart part.1 _ part.2).lookup sloName = some entry -> _) ∧
        ((addSloPart part.1 _ part.2).lookup sloName = none -> _)
      by_cases same : part.2.sloName = sloName
      · subst same
        rcases collects_addSloPart part ih.1 ih.2 with
          ⟨grown, found, collects⟩
        have only : [part].filter (fun other => other.2.sloName = part.2.sloName) = [part] := by
          simp
        rw [found, only]
        exact ⟨fun entry isEntry => Option.some.inj isEntry ▸ collects,
          fun impossible => (by cases impossible)⟩
      · have skipped : [part].filter (fun other => other.2.sloName = sloName) = [] := by
          simp [same]
        rw [lookup_addSloPart part.1 _ part.2 same, skipped, List.append_nil]
        exact ih

/-- The section of an SLO has a summary for each column and the cells of all columns, and
lists every metric of its parts. -/
structure HeatmapSloGroupSection.Merges (group : HeatmapSloGroupSection)
    (fragments : List HeatmapColumnFragment) : Prop where
  summary : group.summary = fragments.map (columnSummary group.sloName)
  cells : group.cells = fragments.flatMap (columnCells group.sloName)
  metrics : forall fragment, fragment ∈ fragments -> forall part, part ∈ fragment.perSlo ->
    part.sloName = group.sloName -> forall metric, metric ∈ part.metrics ->
      metric.name ∈ group.metrics.map (·.name)

theorem filter_columnParts (fragments : List HeatmapColumnFragment) (sloName : String) :
    (columnParts fragments).filter (·.2.sloName = sloName) =
      fragments.zipIdx.flatMap fun (fragment, columnIndex) =>
        (fragment.perSlo.filter (·.sloName = sloName)).map fun part => (columnIndex, part) := by
  unfold columnParts
  rw [List.filter_flatMap]
  simp only [List.filter_map, Function.comp_def]

theorem last_columnParts {fragments : List HeatmapColumnFragment}
    {entry : HeatmapColumnFragment × Nat} (member : entry ∈ fragments.zipIdx) (sloName : String) :
    Entries.last Prod.fst entry.2 ((columnParts fragments).filter (·.2.sloName = sloName)) =
      (Entries.last HeatmapColumnSloFragment.sloName sloName entry.1.perSlo).map
        fun part => (entry.2, part) := by
  have positions : (fragments.zipIdx.map Prod.snd).Nodup := by
    rw [List.zipIdx_map_snd]
    exact List.nodup_range'
  have single : forall other, other ∈ fragments.zipIdx -> other.2 = entry.2 -> other = entry :=
    fun other inside same => List.inj_on_of_nodup_map positions inside member same
  rw [filter_columnParts, Entries.last_flatMap member (List.Nodup.of_map _ positions)]
  · have ofSlo : forall part, part ∈ entry.1.perSlo.filter (·.sloName = sloName) ->
        part.sloName = sloName :=
      fun part inside => of_decide_eq_true (List.mem_filter.mp inside).2
    have shown := Entries.last_of_forall ofSlo
    rw [Entries.last_filter] at shown
    rw [Entries.last_map, Entries.last_of_forall fun _ _ => rfl, shown]
  · intro other inside part ofOther same
    rcases List.mem_map.mp ofOther with ⟨_, _, isPart⟩
    cases isPart
    exact single other inside same

theorem foldl_columns (fragments : List HeatmapColumnFragment) :
    (fragments.zipIdx.foldl (fun groupsByName (fragment, columnIndex) =>
      fragment.perSlo.foldl (addSloPart columnIndex) groupsByName) ∅) =
      (columnParts fragments).foldl (fun groupsByName part =>
        addSloPart part.1 groupsByName part.2) (∅ : Dict GroupEntry) := by
  unfold columnParts
  rw [List.foldl_flatMap]
  simp only [List.foldl_map]

theorem assembleGroupedResponse_merges {assetName : String} {fragments : List HeatmapColumnFragment}
    {group : HeatmapSloGroupSection}
    (member : group ∈ (assembleGroupedResponse assetName fragments).groups) :
    group.Merges fragments := by
  rcases List.mem_filterMap.mp member with ⟨sloName, _, shown⟩
  rw [foldl_columns] at shown
  rcases Option.map_eq_some_iff.mp shown with ⟨entry, found, isGroup⟩
  subst isGroup
  have collects := (groups_collect (columnParts fragments) sloName).1 entry found
  refine ⟨?_, ?_, ?_⟩
  · change fragments.zipIdx.map _ = _
    have summaries : forall column, column ∈ fragments.zipIdx ->
        (entry.summaryByCol column.2).getD (emptySummaryForRun column.1) =
          columnSummary sloName column.1 := by
      intro column inside
      rw [collects.summaries, last_columnParts inside, Option.map_map]
      rfl
    rw [List.map_congr_left summaries]
    change fragments.zipIdx.map (columnSummary sloName ∘ Prod.fst) = _
    rw [<- List.map_map, List.zipIdx_map_fst]
  · change entry.cells = _
    rw [collects.cells, filter_columnParts, List.flatMap_assoc]
    have columns : fragments.flatMap (columnCells sloName) =
        (fragments.zipIdx.map Prod.fst).flatMap (columnCells sloName) := by
      rw [List.zipIdx_map_fst]
    rw [columns, List.flatMap_map]
    refine List.flatMap_congr fun column _ => ?_
    rw [List.flatMap_map]
    rfl
  · intro fragment inside part ofFragment isSlo metric listed
    change metric.name ∈ entry.metricsByName.map (·.name)
    rcases Entries.exists_mem_zipIdx inside with ⟨position, inColumns⟩
    refine collects.metrics (position, part) ?_ metric listed
    rw [List.mem_filter]
    exact ⟨List.mem_flatMap.mpr ⟨(fragment, position), inColumns, List.mem_map_of_mem ofFragment⟩,
      decide_eq_true isSlo⟩

def getChangePointsForEvaluations (tables : TrendTables) (assetId : Nat)
    (periodStarts : List Instant) : List (ChangePointKey × ChangePointRow) :=
  changePointEntries tables (tables.changePoints.filter fun row =>
    row.assetId = assetId && periodStarts.contains row.periodStart && row.status ≠ "hidden")

/-- A cell takes the marker of its SLO, metric and run.  A cell without a run is left. -/
def markCell (lookup : List (ChangePointKey × ChangePointRow)) (orderedRuns : List EvaluationRun)
    (sloName : String) (cell : HeatmapCellGrouped) : HeatmapCellGrouped :=
  match orderedRuns.find? (·.id = cell.evaluationId) with
  | none => cell
  | some run =>
      match changePointFor lookup
          { sloName
            metricName := cell.metric
            periodStart := cell.periodStart
            periodEnd := some run.periodEnd
            evalName := run.evalName } with
      | none => cell
      | some marker => { cell with changePoint := some marker }

def enrichHeatmapWithChangePoints (tables : TrendTables) (orderedRuns : List EvaluationRun)
    (response : GroupedMetricHeatmapResponse) : GroupedMetricHeatmapResponse :=
  match orderedRuns with
  | [] => response
  | first :: _ =>
      let lookup := getChangePointsForEvaluations tables first.assetId (orderedRuns.map (·.periodStart))
      { response with groups := response.groups.map fun group =>
          { group with cells := group.cells.map (markCell lookup orderedRuns group.sloName) } }

structure GroupedHeatmapRequest where
  assetName : String
  evaluationName : List String := []
  fromTs : Option Instant := none
  toTs : Option Instant := none
  cache : Bool := true
deriving DecidableEq, Repr

def GroupedHeatmapRequest.onAsset (request : GroupedHeatmapRequest) (asset : Asset) :
    HeatmapRequest :=
  { assetId := asset.id
    evaluationName := request.evaluationName
    fromTs := request.fromTs
    toTs := request.toTs
    cache := request.cache }

/-- How a request for a heatmap fails.  `engine`: a criteria string does not parse;
`noFragment`: `KeyError`: a listed run has no fragment. -/
inductive HeatmapError where
  | assetNotFound (name : String)
  | engine (error : EngineError)
  | noFragment (runId : Nat)
deriving DecidableEq, Repr

abbrev HeatmapCache :=
  Cache Nat HeatmapColumnFragment

def runKey (run : EvaluationRun) : Instant ×ₗ String :=
  toLex (run.periodStart, run.evalName)

def rebuildFragments (tables : Tables) (asset : Asset) (missingIds : List Nat) :
    Except HeatmapError (List HeatmapColumnFragment) :=
  ((getGroupedMetricHeatmap tables asset.id missingIds).mapM fun run =>
    buildColumnFragment tables run false).mapError .engine

def entriesOf (rebuilt : List HeatmapColumnFragment) : List (Nat × HeatmapColumnFragment) :=
  rebuilt.map fun fragment => (fragment.evaluationRunId, fragment)

def notedFragment (fragmentsById : HeatmapCache) (notedRunIds : List Nat) (run : EvaluationRun) :
    Except HeatmapError HeatmapColumnFragment := do
  let fragment <- orRaise (.noFragment run.id) (fragmentsById run.id)
  return { fragment with
    column := { fragment.column with hasNotes := notedRunIds.contains run.id } }

def respond (tables : HeatmapTables) (assetName : String) (candidateRuns : List EvaluationRun)
    (fragmentsById : HeatmapCache) : Except HeatmapError GroupedMetricHeatmapResponse := do
  let notedRunIds := getRunIdsWithNotes tables (candidateRuns.map (·.id))
  let orderedRuns := Latest.sortBy runKey candidateRuns
  let orderedFragments <- orderedRuns.mapM (notedFragment fragmentsById notedRunIds)
  return enrichHeatmapWithChangePoints tables.toTrendTables orderedRuns
    (assembleGroupedResponse assetName orderedFragments)

/-- `GET /evaluations/heatmap`, with the cache that it leaves. -/
def getGroupedMetricHeatmapNew (tables : HeatmapTables) (cache : HeatmapCache)
    (request : GroupedHeatmapRequest) :
    Except HeatmapError (GroupedMetricHeatmapResponse × HeatmapCache) := do
  let asset <- orRaise (.assetNotFound request.assetName)
    (Worker.findAsset tables.toDatabase request.assetName)
  let candidateRuns := listRunsForHeatmap tables.toTables (request.onAsset asset)
  let cached := if request.cache then cache else fun _ => none
  let rebuilt <- rebuildFragments tables.toTables asset
    (cached.missing (candidateRuns.map (·.id)))
  let response <- respond tables request.assetName candidateRuns (cached.setMany (entriesOf rebuilt))
  return (response, if request.cache then cache.setMany (entriesOf rebuilt) else cache)

theorem columnFragment_eq_some {tables : Tables} {runId : Nat} {fragment : HeatmapColumnFragment} :
    columnFragment tables runId = some fragment ↔ Exists fun run =>
      tables.runs.find runId = some run ∧ run.status = .completed ∧
        buildColumnFragment tables run false = .ok fragment := by
  unfold columnFragment
  rw [Option.bind_eq_some_iff]
  refine exists_congr fun run => and_congr_right fun _ => ?_
  by_cases completed : run.status = .completed
  · rw [if_pos completed, toOption_eq_some]
    exact ⟨fun built => ⟨completed, built⟩, And.right⟩
  · rw [if_neg completed]
    exact ⟨fun impossible => absurd impossible.symm (Option.some_ne_none _),
      fun shown => absurd shown.1 completed⟩

theorem mem_listRunsForHeatmap {tables : Tables} {request : HeatmapRequest} {run : EvaluationRun}
    (listed : run ∈ listRunsForHeatmap tables request) :
    run ∈ tables.runs.rows ∧ run.assetId = request.assetId ∧ run.status = .completed := by
  have inWindow : run ∈ tables.runs.rows.filter fun run =>
      run.assetId = request.assetId && run.status = .completed &&
        (request.evaluationName = [] || request.evaluationName.contains run.evalName) &&
        request.fromTs.all (· ≤ run.periodStart) && request.toTs.all (run.periodStart ≤ ·) := by
    unfold listRunsForHeatmap at listed
    dsimp only at listed
    split at listed
    · exact (Latest.mem_newestFirst _).mp (List.mem_of_mem_take listed)
    · exact (Latest.mem_newestFirst _).mp listed
  rcases List.mem_filter.mp inWindow with ⟨stored, selected⟩
  simp only [Bool.and_eq_true, decide_eq_true_eq] at selected
  exact ⟨stored, selected.1.1.1⟩

end Presentation
end Tropek
