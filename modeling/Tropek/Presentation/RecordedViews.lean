import Tropek.Presentation.MetricHeatmap
import Tropek.Presentation.Recordings
import Tropek.Presentation.Unmeasured

namespace Tropek
namespace Presentation

open Library TransitionSystem Engine Store KeyedTable Fallible

/-!
# What the views show of a recorded evaluation

The heatmaps read the indicator rows, which phase 3a inserts, and the trends join them with
the values of phase 3b.  So a heatmap and a trend show the same metrics of an evaluation
once its values are stored, and until then the trend shows none.
-/

structure TrendRequest.Covers (request : TrendRequest) (ev : SLOEvaluation) : Prop where
  assetId : ev.assetId = request.assetId
  sloName : ev.sloName = request.sloName
  fromTs : request.fromTs ≤ ev.periodStart
  toTs : forall finish, request.toTs = some finish -> ev.periodStart ≤ finish

structure MetricHeatmapRequest.Covers (db : Database) (request : MetricHeatmapRequest)
    (ev : SLOEvaluation) : Prop where
  asset : Exists fun asset => Worker.findAsset db request.assetName = some asset ∧
    asset.id = ev.assetId
  evaluationName : request.evaluationName = [] ∨ ev.evaluationName ∈ request.evaluationName
  fromTs : forall start, request.fromTs = some start -> start ≤ ev.periodStart
  toTs : forall finish, request.toTs = some finish -> ev.periodStart ≤ finish
  windowed : request.fromTs ≠ none ∨ request.toTs ≠ none

def MetricHeatmapResponse.sources (response : MetricHeatmapResponse) : List (Nat × String) :=
  response.cells.map fun cell => (cell.evalId, cell.metric)

def HeatmapCellGrouped.source (cell : HeatmapCellGrouped) : Nat × String :=
  (cell.sloEvaluationId, cell.metric)

def GroupedMetricHeatmapResponse.sources (response : GroupedMetricHeatmapResponse) :
    List (Nat × String) :=
  response.groups.flatMap fun group => group.cells.map HeatmapCellGrouped.source

/-- The values of all indicator rows are stored.  As long as the evaluation is valid, the
trend of a metric has a point of it exactly if there is a cell for it, in the heatmap by
metric and in each grouped heatmap that has the column of its run. -/
structure Recorded (tables : HeatmapTables) (ev : SLOEvaluation) : Prop where
  values : forall row, row ∈ ev.indicatorRows.rows ->
    (ev.id, row.objective.sli) ∈ tables.sliValues.map SLIValue.key
  byMetric : ev.invalidated = false -> forall trendRequest : TrendRequest,
    trendRequest.Covers ev -> forall request : MetricHeatmapRequest,
      request.Covers tables.toDatabase ev -> forall byMetric,
        getMetricHeatmapNew tables.toTables request = .ok byMetric -> forall metric,
          metric ≠ scoreMetric ->
            (ev.id ∈ (getTrendByAssetSlo tables.toTrendTables trendRequest metric).map (·.evalId) ↔
              (ev.id, metric) ∈ byMetric.sources)
  grouped : ev.invalidated = false -> forall trendRequest : TrendRequest,
    trendRequest.Covers ev -> forall (cache left : HeatmapCache) (request : GroupedHeatmapRequest)
      (grouped : GroupedMetricHeatmapResponse),
      cache.Coherent (columnFragment tables.toTables) ->
        getGroupedMetricHeatmapNew tables cache request = .ok (grouped, left) ->
          ev.evaluationId ∈ grouped.columns.map (·.evaluationId) -> forall metric,
            (ev.id ∈ (getTrendByAssetSlo tables.toTrendTables trendRequest metric).map (·.evalId) ↔
              (ev.id, metric) ∈ grouped.sources)

section ByMetric

variable {tables : Tables} {request : MetricHeatmapRequest} {byMetric : MetricHeatmapResponse}
  {ev : SLOEvaluation}

section

variable (covers : request.Covers tables.toDatabase ev)
  (returned : getMetricHeatmapNew tables request = .ok byMetric)
  (stored : ev ∈ tables.evaluations.rows) (completed : ev.status = .completed)

include covers returned stored completed

theorem byMetric_listed : scoreCell ev ∈ byMetric.cells := by
  rcases bind_eq_ok.mp returned with ⟨asset, found, returned⟩
  cases returned
  rcases covers.asset with ⟨other, otherFound, isAsset⟩
  cases otherFound.symm.trans (orRaise_eq_ok.mp found)
  have selected : ev ∈ getMetricHeatmap tables asset.id request := by
    unfold getMetricHeatmap
    dsimp only
    rw [if_neg]
    · apply (Latest.mem_newestFirst _).mpr
      refine List.mem_filter.mpr ⟨stored, ?_⟩
      simp only [Bool.and_eq_true, Bool.or_eq_true, decide_eq_true_eq, Option.all_eq_true,
        List.contains_iff_mem]
      exact ⟨⟨⟨⟨isAsset.symm, completed⟩, covers.evaluationName⟩, covers.fromTs⟩, covers.toTs⟩
    · rw [Bool.and_eq_true, Option.isNone_iff_eq_none, Option.isNone_iff_eq_none]
      exact fun unbounded => covers.windowed.elim (· unbounded.1) (· unbounded.2)
  exact List.mem_flatMap.mpr ⟨ev, List.mem_reverse.mpr selected, List.mem_cons_self⟩

theorem byMetric_iff {metric : String} (ofObjective : metric ≠ scoreMetric) :
    (ev.id, metric) ∈ byMetric.sources ↔ metric ∈ metricsOf ev := by
  have isCells := (byMetric_filter returned stored
    ⟨scoreCell ev, byMetric_listed covers returned stored completed, rfl⟩).1
  unfold MetricHeatmapResponse.sources
  constructor
  · intro listed
    rcases List.mem_map.mp listed with ⟨cell, member, isSource⟩
    rcases Prod.mk.inj isSource with ⟨isEvaluation, isMetric⟩
    have ofEvaluation : cell ∈ evaluationCells ev := by
      rw [<- isCells]
      exact List.mem_filter.mpr ⟨member, decide_eq_true isEvaluation⟩
    rcases List.mem_cons.mp ofEvaluation with isScore | isRow
    · rw [isScore] at isMetric
      exact absurd isMetric.symm ofObjective
    · rcases List.mem_map.mp isRow with ⟨row, inside, same⟩
      rw [<- isMetric, <- same]
      exact List.mem_map_of_mem inside
  · intro measured
    rcases List.mem_map.mp measured with ⟨row, inside, isMetric⟩
    have ofEvaluation : metricCell ev row ∈ evaluationCells ev :=
      List.mem_cons_of_mem _ (List.mem_map_of_mem inside)
    rw [<- isCells] at ofEvaluation
    exact List.mem_map.mpr ⟨metricCell ev row, List.mem_of_mem_filter ofEvaluation,
      congrArg (Prod.mk ev.id) isMetric⟩

end

end ByMetric

theorem markCell_source (lookup : List (ChangePointKey × ChangePointRow))
    (orderedRuns : List EvaluationRun) (sloName : String) (cell : HeatmapCellGrouped) :
    (markCell lookup orderedRuns sloName cell).source = cell.source := by
  unfold markCell
  split
  · rfl
  · split <;> rfl

theorem enrich_sources (tables : TrendTables) (orderedRuns : List EvaluationRun)
    (response : GroupedMetricHeatmapResponse) :
    (enrichHeatmapWithChangePoints tables orderedRuns response).sources = response.sources := by
  cases orderedRuns with
  | nil => rfl
  | cons first rest =>
      unfold enrichHeatmapWithChangePoints GroupedMetricHeatmapResponse.sources
      dsimp only
      rw [List.flatMap_map]
      refine List.flatMap_congr fun group _ => ?_
      rw [List.map_map]
      exact List.map_congr_left fun cell _ => markCell_source _ _ _ cell

theorem buildSloFragment_sources {tables : Tables} {run : EvaluationRun} {ev : SLOEvaluation}
    {part : HeatmapColumnSloFragment} (built : buildSloFragment tables run ev = .ok part) :
    part.cells.map HeatmapCellGrouped.source = (metricsOf ev).map (Prod.mk ev.id) := by
  unfold metricsOf
  rw [List.map_map]
  refine (Latest.map_eq_of_related ((buildSloFragment_cells built).imp fun row cell here => ?_)).symm
  rcases bind_eq_ok.mp here with ⟨_, _, here⟩
  rcases bind_eq_ok.mp here with ⟨_, _, same⟩
  cases same
  rfl

section Grouped

variable {tables : Tables} {runs : List EvaluationRun} {fragments : List HeatmapColumnFragment}
  {assetName : String} (built : List.Forall₂ (BuiltFor tables) runs fragments)

include built

section

variable {ev : SLOEvaluation} (stored : ev ∈ tables.evaluations.rows)

include stored

theorem metric_of_assembled {metric : String}
    (listed : (ev.id, metric) ∈ (assembleGroupedResponse assetName fragments).sources) :
    metric ∈ metricsOf ev := by
  rcases List.mem_flatMap.mp listed with ⟨group, inResponse, inGroup⟩
  rcases List.mem_map.mp inGroup with ⟨cell, member, isSource⟩
  rw [(assembleGroupedResponse_merges inResponse).cells] at member
  rcases List.mem_flatMap.mp member with ⟨fragment, inside, ofFragment⟩
  rcases List.mem_flatMap.mp ofFragment with ⟨part, ofSlo, inPart⟩
  rcases run_of_fragment built inside with ⟨run, _, itsRun⟩
  rcases mem_related itsRun.perSlo.flip (List.mem_of_mem_filter ofSlo) with
    ⟨other, ofRun, here⟩
  have isCell : (ev.id, metric) ∈ part.cells.map HeatmapCellGrouped.source :=
    List.mem_map.mpr ⟨cell, inPart, isSource⟩
  rw [buildSloFragment_sources here] at isCell
  rcases List.mem_map.mp isCell with ⟨name, measured, same⟩
  rcases Prod.mk.inj same with ⟨sameId, sameMetric⟩
  cases eq_of_key (List.mem_of_mem_filter ofRun) stored sameId
  rw [<- sameMetric]
  exact measured

theorem assembled_of_metric {fragment : HeatmapColumnFragment} (inside : fragment ∈ fragments)
    (ofRun : fragment.column.evaluationId = ev.evaluationId) {metric : String}
    (measured : metric ∈ metricsOf ev) :
    (ev.id, metric) ∈ (assembleGroupedResponse assetName fragments).sources := by
  rcases run_of_fragment built inside with ⟨run, _, itsRun⟩
  have sameRun : ev.evaluationId = run.id := ofRun.symm.trans itsRun.column
  have inRun : ev ∈ sloEvaluationsOf tables run.id :=
    List.mem_filter.mpr ⟨stored, decide_eq_true sameRun⟩
  rcases mem_related itsRun.perSlo inRun with ⟨part, ofFragment, here⟩
  rcases group_listed assetName inside ofFragment with ⟨group, inResponse, isSlo⟩
  have isCell : (ev.id, metric) ∈ part.cells.map HeatmapCellGrouped.source := by
    rw [buildSloFragment_sources here]
    exact List.mem_map_of_mem measured
  rcases List.mem_map.mp isCell with ⟨cell, inPart, isSource⟩
  refine List.mem_flatMap.mpr ⟨group, inResponse, List.mem_map.mpr ⟨cell, ?_, isSource⟩⟩
  rw [(assembleGroupedResponse_merges inResponse).cells]
  exact List.mem_flatMap.mpr ⟨fragment, inside, List.mem_flatMap.mpr
    ⟨part, List.mem_filter.mpr ⟨ofFragment, decide_eq_true isSlo.symm⟩, inPart⟩⟩

end

end Grouped

theorem grouped_iff {tables : HeatmapTables} {cache left : HeatmapCache}
    {request : GroupedHeatmapRequest} {grouped : GroupedMetricHeatmapResponse} {ev : SLOEvaluation}
    (coherent : cache.Coherent (columnFragment tables.toTables))
    (returned : getGroupedMetricHeatmapNew tables cache request = .ok (grouped, left))
    (stored : ev ∈ tables.evaluations.rows)
    (shown : ev.evaluationId ∈ grouped.columns.map (·.evaluationId)) (metric : String) :
    (ev.id, metric) ∈ grouped.sources ↔ metric ∈ metricsOf ev := by
  rcases grouped_built coherent returned with ⟨runs, fragments, _, built, isGrouped⟩
  rw [isGrouped, (enrich_same _ _ _).1] at shown
  rw [isGrouped, enrich_sources]
  rcases List.mem_map.mp shown with ⟨column, inColumns, ofRun⟩
  rcases List.mem_map.mp inColumns with ⟨fragment, inside, isColumn⟩
  rw [<- isColumn] at ofRun
  constructor
  · intro listed
    exact metric_of_assembled built stored listed
  · intro measured
    exact assembled_of_metric built stored inside ofRun measured

structure Idle (w : Worker.World) (evalId : Nat) : Prop where
  queue : forall message, message ∈ w.queue -> message.evalId ≠ evalId
  executions : forall execution, execution ∈ w.executions.rows -> execution.message.evalId ≠ evalId

instance (w : Worker.World) (evalId : Nat) : Decidable (Idle w evalId) :=
  decidable_of_iff ((forall message, message ∈ w.queue -> message.evalId ≠ evalId) ∧
      forall execution, execution ∈ w.executions.rows -> execution.message.evalId ≠ evalId)
    ⟨fun both => ⟨both.1, both.2⟩, fun idle => ⟨idle.queue, idle.executions⟩⟩

theorem values_of_idle {s : Installation} {evalId : Nat} {ev : SLOEvaluation} (recording : Recording s)
    (covered : Covered s evalId) (idle : Idle s.world evalId)
    (found : s.world.db.evaluations.find evalId = some ev) :
    forall metric, metric ∈ metricsOf ev -> (evalId, metric) ∈ s.sliValues.map SLIValue.key := by
  rcases covered ev found with ⟨scored, inside, isEval⟩ | valued
  · rcases recording.awaits scored inside with ⟨execution, isExecution, itsMessage, _⟩
    exact absurd (itsMessage.trans isEval) (idle.executions execution (find_mem isExecution))
  · exact valued

/-- In every run in which no execution of the evaluation dies between phases 3a and 3b, a
completed evaluation without a job is recorded. -/
theorem completed_recorded {settings : Worker.Settings} {start final : Installation}
    {events : List RecordingEvent} {evalId : Nat} {ev : SLOEvaluation} {tables : HeatmapTables}
    (initial : start.Initial) (ran : exec (recordingStep settings) start events = some final)
    (spared : Along (recordingStep settings) (SparesValues evalId) start events)
    (idle : Idle final.world evalId) (found : final.world.db.evaluations.find evalId = some ev)
    (completed : ev.status = .completed) (reads : Reads final tables.toTrendTables) :
    Recorded tables ev := by
  rcases exec_covered initial ran spared with ⟨recording, covered⟩
  have isEval : ev.id = evalId := find_key found
  have stored : ev ∈ tables.evaluations.rows := by
    rw [reads.database]
    exact find_mem found
  have valued : forall metric, metric ∈ metricsOf ev ->
      (ev.id, metric) ∈ tables.sliValues.map SLIValue.key := by
    rw [isEval, reads.sliValues]
    exact values_of_idle recording covered idle found
  have trend : ev.invalidated = false -> forall request : TrendRequest, request.Covers ev ->
      forall metric,
        ev.id ∈ (getTrendByAssetSlo tables.toTrendTables request metric).map (·.evalId) ↔
          metric ∈ metricsOf ev := by
    intro valid request covers metric
    have inRange : inTrendRange request ev = true := by
      unfold inTrendRange
      rw [valid, Option.isSome_iff_ne_none.mpr (recording.results evalId ev found completed)]
      simp only [Bool.and_eq_true, decide_eq_true_eq, Option.all_eq_true, Bool.not_false, and_true]
      exact ⟨⟨⟨covers.assetId, covers.sloName⟩, covers.fromTs⟩, covers.toTs⟩
    rw [trendPoint_iff stored]
    exact ⟨fun shown => shown.2.1, fun measured => ⟨inRange, measured, valued metric measured⟩⟩
  refine ⟨fun row inside => valued _ (List.mem_map_of_mem inside), ?_, ?_⟩
  · intro valid trendRequest trendCovers request covers byMetric returned metric ofObjective
    rw [trend valid trendRequest trendCovers metric,
      byMetric_iff covers returned stored completed ofObjective]
  · intro valid trendRequest trendCovers cache left request grouped coherent returned shown metric
    rw [trend valid trendRequest trendCovers metric, grouped_iff coherent returned stored shown metric]

/-! ## A job that is delivered twice

Both executions have scored the evaluation when the first one commits phase 3a and dies.  The
second one is refused and acknowledges the job, so the evaluation stays completed without
values.
-/

namespace Sample

def proceed (executionId : Nat) : RecordingEvent :=
  .work (Worker.Sample.advance executionId)

def requested : List RecordingEvent :=
  [.work (.trigger 1 (Worker.Sample.request 1 10 0)), .work (.triggerEnqueue 1)]

def finalized : RecordingEvent :=
  .finalize 1 (aggregate [{
    status := .completed
    result := some .pass
    achievedPoints := some 1
    totalPoints := some 1 }])

def deliveredOnce : List RecordingEvent :=
  requested ++ [.work (.deliver 1 0)] ++ List.replicate 5 (proceed 1) ++
    [.writeSliValues 1, proceed 1, .work (.acknowledge 1)]

def deliveredTwice : List RecordingEvent :=
  requested ++ [.work (.deliver 1 0), .work (.deliver 2 0)] ++ List.replicate 4 (proceed 1) ++
    List.replicate 4 (proceed 2) ++
    [proceed 1, .work (.crash 1), proceed 2, .work (.acknowledge 2), finalized]

def viewsOf (installation : Installation) : HeatmapTables :=
  { toDatabase := installation.world.db, sliValues := installation.sliValues }

theorem viewsOf_reads (installation : Installation) :
    Reads installation (viewsOf installation).toTrendTables :=
  ⟨rfl, rfl⟩

def showLatency (installation : Installation) : Bool × Option Bool :=
  let tables := viewsOf installation
  (((getTrendByAssetSlo tables.toTrendTables latencyTrend "latency").map (·.evalId)).contains 10,
    (getGroupedMetricHeatmapNew tables (fun _ => none) { assetName := "shop" }).toOption.map
      fun outcome => outcome.1.sources.contains (10, "latency"))

/-- A valid completed evaluation without a job, which has an indicator row for the latency. -/
def isDone (installation : Installation) : Bool :=
  decide (Idle installation.world 10) && (installation.world.db.evaluations.find 10).any fun ev =>
    ev.status = .completed && !ev.invalidated && (metricsOf ev).contains "latency"

end Sample

/-- The second execution of a job makes up for nothing: the trend has no point, although the
heatmap has a cell.  And before the run is completed, the trend has a point that the grouped
heatmap has no column for. -/
theorem completed_unrecorded :
    (Exists fun final => exec (recordingStep {}) Sample.installation Sample.deliveredTwice = some final ∧
      Sample.isDone final = true ∧ (10, "latency") ∉ final.sliValues.map SLIValue.key ∧
      Sample.showLatency final = (false, some true)) ∧
    Exists fun final => exec (recordingStep {}) Sample.installation Sample.deliveredOnce = some final ∧
      Sample.isDone final = true ∧ Sample.showLatency final = (true, some false) := by
  have twice : (exec (recordingStep {}) Sample.installation Sample.deliveredTwice).map (fun final =>
      decide (Sample.isDone final = true ∧ (10, "latency") ∉ final.sliValues.map SLIValue.key ∧
        Sample.showLatency final = (false, some true))) = some true := by
    decide +kernel
  have once : (exec (recordingStep {}) Sample.installation Sample.deliveredOnce).map (fun final =>
      decide (Sample.isDone final = true ∧ Sample.showLatency final = (true, some false))) =
        some true := by
    decide +kernel
  rcases Option.map_eq_some_iff.mp twice with ⟨unwritten, ranTwice, parted⟩
  rcases Option.map_eq_some_iff.mp once with ⟨unlisted, ranOnce, early⟩
  exact ⟨⟨unwritten, ranTwice, of_decide_eq_true parted⟩, unlisted, ranOnce, of_decide_eq_true early⟩

/-- A job that is delivered once records its evaluation. -/
theorem delivered_once_recorded :
    Exists fun final => Exists fun ev =>
      exec (recordingStep {}) Sample.installation (Sample.deliveredOnce ++ [Sample.finalized]) = some final ∧
        final.world.db.evaluations.find 10 = some ev ∧
        Sample.showLatency final = (true, some true) ∧ Recorded (Sample.viewsOf final) ev := by
  have ran : (exec (recordingStep {}) Sample.installation
      (Sample.deliveredOnce ++ [Sample.finalized])).map (fun final =>
        decide (Idle final.world 10 ∧ Sample.showLatency final = (true, some true) ∧
          (final.world.db.evaluations.find 10).map (·.status) = some .completed)) = some true := by
    decide +kernel
  have spared : Along (recordingStep {}) (SparesValues 10) Sample.installation
      (Sample.deliveredOnce ++ [Sample.finalized]) := by
    decide +kernel
  rcases Option.map_eq_some_iff.mp ran with ⟨final, isRun, facts⟩
  rcases of_decide_eq_true facts with ⟨idle, shown, status⟩
  rcases Option.map_eq_some_iff.mp status with ⟨ev, found, completed⟩
  exact ⟨final, ev, isRun, found, shown, completed_recorded Sample.installation_initial isRun spared idle found
    completed (Sample.viewsOf_reads final)⟩

end Presentation
end Tropek
