import Tropek.Library.Grouping
import Tropek.Presentation.MetricHeatmap

namespace Tropek
namespace Presentation

open Library Engine Store KeyedTable

/-!
# The columns of the grouped heatmap

The sections of the heatmap are merged out of the columns.  An SLO that ran in some
columns only has a placeholder in the others, and nothing of what a column has is lost
or shown twice.

The parts of one SLO alone make its section.  That is why the order in which a column
lists its SLOs makes no difference to the response.
-/

def HeatmapColumnFragment.ListsMetrics (fragment : HeatmapColumnFragment) : Prop :=
  forall part, part ∈ fragment.perSlo -> forall cell, cell ∈ part.cells ->
    cell.metric ∈ part.metrics.map (·.name)

variable {fragment : HeatmapColumnFragment} {fragments : List HeatmapColumnFragment}
  {metrics : List HeatmapMetric}

theorem buildColumnFragment_listsMetrics {tables : Tables} {run : EvaluationRun} {hasNotes : Bool}
    (built : buildColumnFragment tables run hasNotes = .ok fragment) : fragment.ListsMetrics := by
  intro part ofFragment cell ofPart
  have isBuilt : BuiltFor tables run fragment := ⟨hasNotes, built⟩
  rcases mem_related isBuilt.perSlo.flip ofFragment with ⟨evaluation, _, here⟩
  rcases mem_related (buildSloFragment_built here).flip ofPart with ⟨row, ofRow, isCell⟩
  rw [(buildSloFragment_summary here).2.2.2.2,
    show cell.metric = row.objective.sli from congrArg Prod.snd (buildCell_shows isCell).1]
  exact mem_columnMetrics ofRow

def addToEntry (before : Option GroupEntry) (part : Nat × HeatmapColumnSloFragment) : GroupEntry :=
  let entry := before.getD {
    metricsByName := part.2.metrics.foldl setMetric []
    cells := []
    summaryByCol := fun _ => none }
  { metricsByName := part.2.metrics.foldl setdefaultMetric entry.metricsByName
    cells := entry.cells ++ part.2.cells
    summaryByCol := Function.update entry.summaryByCol part.1 (some part.2.summary) }

def partSlo (part : Nat × HeatmapColumnSloFragment) : String :=
  part.2.sloName

def groupsOf (fragments : List HeatmapColumnFragment) : Dict GroupEntry :=
  Grouping.collectAll partSlo addToEntry (columnParts fragments)

def sectionOf (fragments : List HeatmapColumnFragment) (sloName : String) (entry : GroupEntry) :
    HeatmapSloGroupSection :=
  { sloName
    metrics := entry.metricsByName
    cells := entry.cells
    summary := fragments.zipIdx.map fun column =>
      (entry.summaryByCol column.2).getD (emptySummaryForRun column.1) }

theorem assembleGroupedResponse_groups (assetName : String)
    (fragments : List HeatmapColumnFragment) :
    (assembleGroupedResponse assetName fragments).groups =
      ((groupsOf fragments).keys.insertionSort (· ≤ ·)).filterMap fun sloName =>
        ((groupsOf fragments).lookup sloName).map (sectionOf fragments sloName) := by
  unfold assembleGroupedResponse
  dsimp only
  rw [foldl_columns]
  rfl

theorem groups_names (assetName : String) (fragments : List HeatmapColumnFragment) :
    (assembleGroupedResponse assetName fragments).groups.map (·.sloName) =
      (groupsOf fragments).keys.insertionSort (· ≤ ·) := by
  rw [assembleGroupedResponse_groups, List.map_filterMap]
  have named : forall sloName, sloName ∈ (groupsOf fragments).keys.insertionSort (· ≤ ·) ->
      (((groupsOf fragments).lookup sloName).map (sectionOf fragments sloName)).map (·.sloName) =
        some sloName := by
    intro sloName member
    have present := (List.mem_insertionSort _).mp member
    rw [<- AList.mem_keys, <- AList.lookup_isSome] at present
    rcases Option.isSome_iff_exists.mp present with ⟨entry, found⟩
    rw [found]
    rfl
  rw [List.filterMap_congr named, List.filterMap_some]

theorem mem_groupsOf_keys {sloName : String} :
    sloName ∈ (groupsOf fragments).keys ↔ Exists fun fragment => fragment ∈ fragments ∧
      Exists fun part => part ∈ fragment.perSlo ∧ part.sloName = sloName := by
  unfold groupsOf
  rw [Grouping.mem_keys_collectAll]
  constructor
  · rintro ⟨part, member, isSlo⟩
    rcases List.mem_flatMap.mp member with ⟨column, inColumns, ofColumn⟩
    rcases List.mem_map.mp ofColumn with ⟨own, ofFragment, isPart⟩
    subst isPart
    exact ⟨column.1, List.fst_mem_of_mem_zipIdx inColumns, own, ofFragment, isSlo⟩
  · rintro ⟨fragment, member, part, ofFragment, isSlo⟩
    rcases Entries.exists_mem_zipIdx member with ⟨position, inColumns⟩
    exact ⟨(position, part), List.mem_flatMap.mpr
      ⟨(fragment, position), inColumns, List.mem_map_of_mem ofFragment⟩, isSlo⟩

theorem setMetric_names (metrics : List HeatmapMetric) (metric : HeatmapMetric) :
    (setMetric metrics metric).map (·.name) = (setdefaultMetric metrics metric).map (·.name) := by
  unfold setMetric setdefaultMetric
  split
  · rw [List.map_map]
    refine List.map_congr_left fun other _ => ?_
    change (if other.name = metric.name then metric else other).name = other.name
    split
    · rename_i same
      exact same.symm
    · rfl
  · rfl

theorem setdefaultMetric_nodup (metric : HeatmapMetric) (distinct : (metrics.map (·.name)).Nodup) :
    ((setdefaultMetric metrics metric).map (·.name)).Nodup := by
  unfold setdefaultMetric
  split
  · exact distinct
  · rename_i absent
    rw [List.map_append, List.map_singleton]
    refine List.Nodup.append distinct (List.nodup_singleton _) ?_
    rw [List.disjoint_singleton]
    intro listed
    rcases List.mem_map.mp listed with ⟨other, member, same⟩
    exact absent (List.any_eq_true.mpr ⟨other, member, decide_eq_true same⟩)

theorem foldl_nodup {step : List HeatmapMetric -> HeatmapMetric -> List HeatmapMetric}
    (keeps : forall metrics metric, (metrics.map (·.name)).Nodup ->
      ((step metrics metric).map (·.name)).Nodup)
    (added : List HeatmapMetric) (distinct : (metrics.map (·.name)).Nodup) :
    ((added.foldl step metrics).map (·.name)).Nodup := by
  induction added generalizing metrics with
  | nil => exact distinct
  | cons metric rest ih => exact ih (keeps metrics metric distinct)

theorem groupsOf_metrics_nodup {sloName : String} {entry : GroupEntry}
    (found : (groupsOf fragments).lookup sloName = some entry) :
    (entry.metricsByName.map (·.name)).Nodup := by
  unfold groupsOf at found
  rw [Grouping.lookup_collectAll] at found
  refine Grouping.entryOf_invariant addToEntry
    (fun entry => (entry.metricsByName.map (·.name)).Nodup) ?_ found
  intro before part keeps
  refine foldl_nodup (fun _ metric => setdefaultMetric_nodup metric) _ ?_
  cases before with
  | some entry => exact keeps entry rfl
  | none =>
      refine foldl_nodup (fun metrics metric distinct => ?_) _ List.nodup_nil
      rw [setMetric_names]
      exact setdefaultMetric_nodup metric distinct

structure Reordered (first second : HeatmapColumnFragment) : Prop where
  column : second.column = first.column
  compositeSummary : second.compositeSummary = first.compositeSummary
  perSlo : first.perSlo.Perm second.perSlo

theorem map_zipIdx_related {Entry Image : Type} {related : Entry -> Entry -> Prop}
    {imageOf : Entry × Nat -> Image}
    (same : forall first second position, related first second ->
      imageOf (first, position) = imageOf (second, position))
    {firsts seconds : List Entry} (alike : List.Forall₂ related firsts seconds) :
    firsts.zipIdx.map imageOf = seconds.zipIdx.map imageOf := by
  generalize 0 = start
  induction alike generalizing start with
  | nil => rfl
  | cons here _ ih =>
      rw [List.zipIdx_cons, List.zipIdx_cons, List.map_cons, List.map_cons,
        same _ _ start here, ih]

structure SameParts (first second : HeatmapColumnFragment) : Prop where
  column : second.column = first.column
  compositeSummary : second.compositeSummary = first.compositeSummary
  parts : forall sloName, first.perSlo.filter (·.sloName = sloName) =
    second.perSlo.filter (·.sloName = sloName)

theorem Reordered.sameParts {first second : HeatmapColumnFragment}
    (reordered : Reordered first second)
    (distinct : (first.perSlo.map (·.sloName)).Nodup) : SameParts first second :=
  ⟨reordered.column, reordered.compositeSummary,
    Grouping.filter_of_perm HeatmapColumnSloFragment.sloName distinct reordered.perSlo⟩

theorem response_ext {first second : GroupedMetricHeatmapResponse}
    (assetName : first.assetName = second.assetName) (columns : first.columns = second.columns)
    (groups : first.groups = second.groups) (composite : first.composite = second.composite) :
    first = second := by
  cases first
  cases second
  cases assetName
  cases columns
  cases groups
  cases composite
  rfl

section SameParts

variable {fragments others : List HeatmapColumnFragment}
  (alike : List.Forall₂ SameParts fragments others)

include alike

theorem columnParts_alike : Grouping.Alike partSlo (columnParts fragments) (columnParts others) := by
  intro sloName
  change (columnParts fragments).filter (·.2.sloName = sloName) =
    (columnParts others).filter (·.2.sloName = sloName)
  rw [filter_columnParts, filter_columnParts, List.flatMap_def, List.flatMap_def]
  congr 1
  refine map_zipIdx_related (fun first second position same => ?_) alike
  dsimp only
  rw [same.parts sloName]

theorem sectionOf_alike (sloName : String) (entry : GroupEntry) :
    sectionOf fragments sloName entry = sectionOf others sloName entry := by
  unfold sectionOf
  congr 1
  refine map_zipIdx_related (fun first second position same => ?_) alike
  dsimp only
  rw [emptySummaryForRun, emptySummaryForRun, same.column]

theorem assembleGroupedResponse_alike (assetName : String) :
    assembleGroupedResponse assetName fragments = assembleGroupedResponse assetName others := by
  have parts := columnParts_alike alike
  have names : (groupsOf fragments).keys.insertionSort (· ≤ ·) =
      (groupsOf others).keys.insertionSort (· ≤ ·) :=
    List.Perm.eq_of_pairwise' (List.pairwise_insertionSort _ _)
      (List.pairwise_insertionSort _ _)
      ((List.perm_insertionSort _ _).trans ((Grouping.keys_of_alike partSlo addToEntry parts).trans
        (List.perm_insertionSort _ _).symm))
  have groups : (assembleGroupedResponse assetName fragments).groups =
      (assembleGroupedResponse assetName others).groups := by
    rw [assembleGroupedResponse_groups, assembleGroupedResponse_groups, names]
    congr 1
    funext sloName
    rw [groupsOf, groupsOf, Grouping.lookup_of_alike partSlo addToEntry parts,
      funext (sectionOf_alike alike sloName)]
  have columns : fragments.map (·.column) = others.map (·.column) :=
    List.forall₂_eq_eq_eq ▸ (List.forall₂_map_left_iff.mpr (List.forall₂_map_right_iff.mpr
      (alike.imp fun _ _ same => same.column.symm)))
  have composite : fragments.map (·.compositeSummary) = others.map (·.compositeSummary) :=
    List.forall₂_eq_eq_eq ▸ (List.forall₂_map_left_iff.mpr (List.forall₂_map_right_iff.mpr
      (alike.imp fun _ _ same => same.compositeSummary.symm)))
  exact response_ext rfl columns groups composite

end SameParts

/-- The summary of a column is that of the part of the SLO in it, or the placeholder. -/
def ShowsSummary (sloName : String) (fragment : HeatmapColumnFragment)
    (summary : HeatmapSummaryCell) : Prop :=
  (forall part, part ∈ fragment.perSlo -> part.sloName = sloName -> summary = part.summary) ∧
    ((forall part, part ∈ fragment.perSlo -> part.sloName ≠ sloName) ->
      summary = emptySummaryForRun fragment)

/-- A section with one summary for each column and the cells of all columns. -/
structure HeatmapSloGroupSection.Complete (group : HeatmapSloGroupSection)
    (fragments : List HeatmapColumnFragment) : Prop where
  summary : List.Forall₂ (ShowsSummary group.sloName) fragments group.summary
  cells : group.cells = fragments.flatMap fun fragment =>
    (fragment.perSlo.filter (·.sloName = group.sloName)).flatMap (·.cells)

def HeatmapSloGroupSection.ListsMetrics (group : HeatmapSloGroupSection) : Prop :=
  forall cell, cell ∈ group.cells -> (group.metrics.map (·.name)).count cell.metric = 1

theorem columnSummary_shows (distinct : (fragment.perSlo.map (·.sloName)).Nodup) (sloName : String) :
    ShowsSummary sloName fragment (columnSummary sloName fragment) := by
  constructor
  · intro part member isSlo
    have unique : forall other, other ∈ fragment.perSlo -> other.sloName = part.sloName ->
        other = part := fun other inside same => List.inj_on_of_nodup_map distinct inside member same
    have last := Entries.last_of_unique member unique
    rw [isSlo] at last
    rw [columnSummary, last]
    rfl
  · intro absent
    rw [columnSummary, Entries.last_eq_none.mpr absent]
    rfl

theorem group_complete {assetName : String}
    (distinct : forall fragment, fragment ∈ fragments -> (fragment.perSlo.map (·.sloName)).Nodup)
    {group : HeatmapSloGroupSection}
    (member : group ∈ (assembleGroupedResponse assetName fragments).groups) :
    group.Complete fragments := by
  have merges := assembleGroupedResponse_merges member
  refine ⟨?_, merges.cells⟩
  rw [merges.summary, List.forall₂_map_right_iff, List.forall₂_same]
  exact fun fragment inside => columnSummary_shows (distinct fragment inside) _

theorem group_listsMetrics {assetName : String}
    (listing : forall fragment, fragment ∈ fragments -> fragment.ListsMetrics)
    {group : HeatmapSloGroupSection}
    (member : group ∈ (assembleGroupedResponse assetName fragments).groups) :
    group.ListsMetrics := by
  have merges := assembleGroupedResponse_merges member
  intro cell ofGroup
  rw [merges.cells] at ofGroup
  rcases List.mem_flatMap.mp ofGroup with ⟨fragment, inside, ofColumn⟩
  rcases List.mem_flatMap.mp ofColumn with ⟨part, selected, ofPart⟩
  rcases List.mem_filter.mp selected with ⟨ofFragment, isSlo⟩
  rcases List.mem_map.mp (listing fragment inside part ofFragment cell ofPart) with
    ⟨metric, listed, isMetric⟩
  have present := merges.metrics fragment inside part ofFragment (of_decide_eq_true isSlo) metric
    listed
  refine List.count_eq_one_of_mem ?_ (isMetric ▸ present)
  rw [assembleGroupedResponse_groups] at member
  rcases List.mem_filterMap.mp member with ⟨sloName, _, shown⟩
  rcases Option.map_eq_some_iff.mp shown with ⟨entry, found, isGroup⟩
  subst isGroup
  exact groupsOf_metrics_nodup found

/-- A section for each SLO that ran, complete, whatever the order in the columns.  The
columns that are built list the metrics of their cells. -/
theorem assembleGroupedResponse_complete (assetName : String)
    (fragments : List HeatmapColumnFragment)
    (distinct : forall fragment, fragment ∈ fragments -> (fragment.perSlo.map (·.sloName)).Nodup) :
    ((assembleGroupedResponse assetName fragments).groups.map (·.sloName)).Nodup ∧
      (forall sloName, sloName ∈ (assembleGroupedResponse assetName fragments).groups.map (·.sloName) ↔
        Exists fun fragment => fragment ∈ fragments ∧
          Exists fun part => part ∈ fragment.perSlo ∧ part.sloName = sloName) ∧
      (forall group, group ∈ (assembleGroupedResponse assetName fragments).groups ->
        group.Complete fragments) ∧
      ((forall fragment, fragment ∈ fragments -> fragment.ListsMetrics) ->
        forall group, group ∈ (assembleGroupedResponse assetName fragments).groups ->
          group.ListsMetrics) ∧
      (forall (tables : Tables) run hasNotes fragment,
        buildColumnFragment tables run hasNotes = .ok fragment -> fragment.ListsMetrics) ∧
      forall others, List.Forall₂ Reordered fragments others ->
        assembleGroupedResponse assetName others = assembleGroupedResponse assetName fragments := by
  refine ⟨?_, fun sloName => ?_, fun group member => group_complete distinct member,
    fun listing group member => group_listsMetrics listing member, fun _ _ _ _ built => buildColumnFragment_listsMetrics built, fun others reordered => ?_⟩
  · rw [groups_names]
    exact (List.perm_insertionSort _ _).nodup_iff.mpr (AList.keys_nodup _)
  · rw [groups_names, List.mem_insertionSort, mem_groupsOf_keys]
  · have alike : List.Forall₂ SameParts fragments others := by
      induction reordered with
      | nil => exact .nil
      | cons here _ inductionHypothesis =>
          rw [List.forall_mem_cons] at distinct
          exact .cons (here.sameParts distinct.1) (inductionHypothesis distinct.2)
    exact (assembleGroupedResponse_alike alike assetName).symm

def passedSummary (evaluationId : Nat) (periodStart : Instant) : HeatmapSummaryCell :=
  { evaluationId, periodStart, result := .result .pass, score := 100 }

def passedCell (evaluationId : Nat) (periodStart : Instant) (metric : String) :
    HeatmapCellGrouped :=
  { evaluationId, sloEvaluationId := evaluationId, periodStart, metric, displayName := metric
    result := .status .pass, score := 1, value := some 40, comparedValue := none
    changeAbsolute := none, changeRelativePct := none, weight := 1, keySli := false
    passTargets := none, warningTargets := none, tabGroup := none, aggregation := none }

def latencyPart (evaluationId : Nat) (periodStart : Instant) : HeatmapColumnSloFragment :=
  { sloName := "latency"
    metrics := [{ name := "p95", displayName := "p95" }, { name := "p99", displayName := "p99" }]
    cells := [passedCell evaluationId periodStart "p95", passedCell evaluationId periodStart "p99"]
    summary := passedSummary evaluationId periodStart }

def errorsPart (evaluationId : Nat) (periodStart : Instant) : HeatmapColumnSloFragment :=
  { sloName := "errors", metrics := [{ name := "rate", displayName := "rate" }]
    cells := [passedCell evaluationId periodStart "rate"]
    summary := passedSummary evaluationId periodStart }

def columnsWithHole : List HeatmapColumnFragment :=
  [{ evaluationRunId := 1
     column := { evaluationId := 1, periodStart := 0, periodEnd := 10, evalName := "smoke",
                 hasNotes := false }
     perSlo := [latencyPart 1 0]
     compositeSummary := passedSummary 1 0 },
   { evaluationRunId := 2
     column := { evaluationId := 2, periodStart := 10, periodEnd := 20, evalName := "smoke",
                 hasNotes := true }
     perSlo := [latencyPart 2 10, errorsPart 2 10]
     compositeSummary := passedSummary 2 10 }]

theorem columnsWithHole_complete :
    (assembleGroupedResponse "server" columnsWithHole).groups.map (·.cells.length) = [1, 4] ∧
      ((assembleGroupedResponse "server" columnsWithHole).groups.map (·.sloName)).Nodup ∧
      forall group, group ∈ (assembleGroupedResponse "server" columnsWithHole).groups ->
        group.Complete columnsWithHole ∧ group.ListsMetrics := by
  have complete := assembleGroupedResponse_complete "server" columnsWithHole (by decide)
  have listing : forall fragment, fragment ∈ columnsWithHole -> fragment.ListsMetrics := by
    unfold HeatmapColumnFragment.ListsMetrics
    decide
  exact ⟨by decide +kernel, complete.1, fun group member =>
    ⟨complete.2.2.1 group member, complete.2.2.2.1 listing group member⟩⟩

end Presentation
end Tropek
