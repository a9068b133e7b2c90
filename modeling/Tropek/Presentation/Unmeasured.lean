import Tropek.Presentation.Scorings
import Tropek.Presentation.Trends

namespace Tropek
namespace Presentation

open Library TransitionSystem Engine Store KeyedTable Fallible

/-!
# Metrics without a value

A metric that the adapter has no value for is null in the scoring, in the indicator row of
its objective and in the heatmap, and the baselines skip it.  The hypertable of the metric
values has no place for a null, and phase 3b stores a zero instead, which the trends show
like any other value.
-/

structure Reads (installation : Installation) (tables : TrendTables) : Prop where
  database : tables.toDatabase = installation.world.db
  sliValues : tables.sliValues = installation.sliValues

def withoutObjective (evaluation : SLOEvaluation) (objectiveId : Nat) : SLOEvaluation :=
  evaluation.setIndicatorRows (evaluation.indicatorRows.delete objectiveId)

/-- Neither the indicator row nor a heatmap cell has a value for the objective, and any
baselines are what they are without its row. -/
structure Valueless (tables : Tables) (evaluation : SLOEvaluation) (objectiveId : Nat) : Prop where
  indicator : forall row, evaluation.indicatorRows.find objectiveId = some row ->
    row.value = none ∧ row.changeAbsolute = none ∧ row.changeRelativePct = none
  heatmap : forall run fragment, buildSloFragment tables run evaluation = .ok fragment ->
    List.Forall₂ (fun row cell => row.sloObjectiveId = objectiveId ->
        cell.value = none ∧ cell.changeAbsolute = none ∧ cell.changeRelativePct = none)
      evaluation.indicatorRows.rows fragment.cells
  baseline : forall earlier later function,
    computeBaselines (earlier ++ evaluation :: later) function =
      computeBaselines (earlier ++ withoutObjective evaluation objectiveId :: later) function

structure NeverShown (tables : TrendTables) (evaluation : SLOEvaluation)
    (objective : SLOObjectiveRow) : Prop extends
    Valueless tables.toTables evaluation objective.id where
  trend : forall request point, point ∈ getTrendByAssetSlo tables request objective.sli ->
    point.evalId ≠ evaluation.id
  trends : forall events request point,
    point ∈ ((getSloTrends tables (cacheAfter tables events) request).1.lookup objective.sli).getD [] ->
      point.evalId ≠ evaluation.id

theorem foldl_collectValue_filter (measured : List (String × Option ℚ)) (collected : Dict (List ℚ)) :
    (measured.filter (·.2.isSome)).foldl collectValue collected =
      measured.foldl collectValue collected := by
  induction measured generalizing collected with
  | nil => rfl
  | cons head rest ih =>
      rcases head with ⟨metric, value⟩
      cases value with
      | none => exact ih collected
      | some value => exact ih _

theorem computeBaselines_of_values {first second : List SLOEvaluation} (function : AggregateFunction)
    (sameIds : first.map (·.id) = second.map (·.id))
    (sameValues : (first.flatMap measuredValues).filter (·.2.isSome) =
      (second.flatMap measuredValues).filter (·.2.isSome)) :
    computeBaselines first function = computeBaselines second function := by
  have sameEmpty : first = [] ↔ second = [] := by
    rw [<- List.map_eq_nil_iff (f := fun ev => ev.id), sameIds, List.map_eq_nil_iff]
  unfold computeBaselines
  by_cases empty : first = []
  · rw [if_pos empty, if_pos (sameEmpty.mp empty)]
  · rw [if_neg empty, if_neg (empty ∘ sameEmpty.mpr), <- foldl_collectValue_filter, sameValues,
      foldl_collectValue_filter, sameIds]

variable {evaluation : SLOEvaluation} {run : EvaluationRun} {objective : SLOObjectiveRow}
  {request : TrendRequest}

theorem measuredValues_without {objectiveId : Nat}
    (unmeasured : forall row, evaluation.indicatorRows.find objectiveId = some row ->
      row.value = none) :
    (measuredValues (withoutObjective evaluation objectiveId)).filter (·.2.isSome) =
      (measuredValues evaluation).filter (·.2.isSome) := by
  have rows : (withoutObjective evaluation objectiveId).indicatorRows.rows =
      evaluation.indicatorRows.rows.filter fun row => row.sloObjectiveId ≠ objectiveId :=
    rfl
  unfold measuredValues
  rw [rows, List.filter_map, List.filter_map, List.filter_filter]
  congr 1
  refine List.filter_congr fun row member => ?_
  by_cases isObjective : row.sloObjectiveId = objectiveId
  · have found := find_of_mem member
    rw [isObjective] at found
    simp only [Function.comp_apply, unmeasured row found, Option.isSome_none, Bool.false_and]
  · simp only [Function.comp_apply, isObjective, ne_eq, not_false_eq_true, decide_true, Bool.and_true]

theorem computeBaselines_without {objectiveId : Nat}
    (unmeasured : forall row, evaluation.indicatorRows.find objectiveId = some row ->
      row.value = none)
    (earlier later : List SLOEvaluation) (function : AggregateFunction) :
    computeBaselines (earlier ++ evaluation :: later) function =
      computeBaselines (earlier ++ withoutObjective evaluation objectiveId :: later) function := by
  refine computeBaselines_of_values function ?_ ?_
  · rw [List.map_append, List.map_append, List.map_cons, List.map_cons]
    rfl
  · rw [List.flatMap_append, List.flatMap_append, List.flatMap_cons, List.flatMap_cons,
      List.filter_append, List.filter_append, List.filter_append, List.filter_append,
      measuredValues_without unmeasured]

theorem buildCell_values {tables : Tables} {row : IndicatorResultRow} {cell : HeatmapCellGrouped}
    (built : buildCell tables run evaluation row = .ok cell) :
    cell.value = row.value ∧ cell.changeAbsolute = row.changeAbsolute ∧
      cell.changeRelativePct = row.changeRelativePct := by
  rcases bind_eq_ok.mp built with ⟨_, _, built⟩
  rcases bind_eq_ok.mp built with ⟨_, _, same⟩
  cases same
  exact ⟨rfl, rfl, rfl⟩

theorem buildSloFragment_cells {tables : Tables} {fragment : HeatmapColumnSloFragment}
    (built : buildSloFragment tables run evaluation = .ok fragment) :
    List.Forall₂ (fun row cell => buildCell tables run evaluation row = .ok cell)
      evaluation.indicatorRows.rows fragment.cells := by
  rcases bind_eq_ok.mp built with ⟨cells, looped, same⟩
  cases same
  exact mapM_eq_ok.mp looped

/-- Everything but the trends leaves an objective out that was scored without a value. -/
theorem valueless_of_scoring {scoring : Scoring} (tables : Tables)
    (shown : ShowsScoring scoring objective evaluation)
    (unmeasured : getValue scoring.metrics objective.sli = none) :
    Valueless tables evaluation objective.id := by
  rcases shown with ⟨indicator, found, _, hasValue⟩
  rw [unmeasured] at hasValue
  have rowValues : forall row, evaluation.indicatorRows.find objective.id = some row ->
      row.value = none ∧ row.changeAbsolute = none ∧ row.changeRelativePct = none := by
    intro row foundRow
    cases Option.some.inj (found.symm.trans foundRow)
    exact ⟨hasValue.value, hasValue.changeAbsolute, hasValue.changeRelativePct⟩
  exact {
    indicator := rowValues
    heatmap := by
      intro run fragment built
      have related := Latest.related_with_members (buildSloFragment_cells built)
      refine related.imp fun row cell here isObjective => ?_
      have foundRow := find_of_mem here.1
      rw [isObjective] at foundRow
      rcases buildCell_values here.2.2 with ⟨value, absolute, relative⟩
      rw [value, absolute, relative]
      exact rowValues row foundRow
    baseline := computeBaselines_without fun row foundRow => (rowValues row foundRow).1 }

/-- The trend of a metric has a point of an evaluation exactly if the evaluation is in its
range, has an indicator row for the metric, and has a stored value of it. -/
theorem trendPoint_iff {tables : TrendTables} {metricName : String}
    (stored : evaluation ∈ tables.evaluations.rows) :
    evaluation.id ∈ (getTrendByAssetSlo tables request metricName).map (·.evalId) ↔
      inTrendRange request evaluation = true ∧
        metricName ∈ evaluation.indicatorRows.rows.map (·.objective.sli) ∧
        (evaluation.id, metricName) ∈ tables.sliValues.map SLIValue.key := by
  constructor
  · intro listed
    rcases List.mem_map.mp listed with ⟨point, member, isEvaluation⟩
    rw [getTrendByAssetSlo_eq] at member
    rcases List.mem_map.mp member with ⟨row, inside, isPoint⟩
    rcases List.mem_flatMap.mp ((Latest.sortBy_perm rowKey _).subset inside) with
      ⟨other, selected, joined⟩
    rcases List.mem_filter.mp selected with ⟨otherStored, inRange⟩
    rcases List.mem_flatMap.mp joined with ⟨sliValue, chosen, expanded⟩
    rcases List.mem_filter.mp chosen with ⟨valued, isValue⟩
    rcases List.mem_map.mp expanded with ⟨indicator, ofMetric, isRow⟩
    rcases List.mem_filter.mp ofMetric with ⟨inRows, isMetric⟩
    simp only [Bool.and_eq_true, decide_eq_true_eq] at isValue
    have sameId : other.id = evaluation.id := by
      rw [<- isEvaluation, <- isPoint, <- isRow]
      rfl
    cases eq_of_key otherStored stored sameId
    refine ⟨inRange, List.mem_map.mpr ⟨indicator, inRows, of_decide_eq_true isMetric⟩, ?_⟩
    refine List.mem_map.mpr ⟨sliValue, valued, ?_⟩
    unfold SLIValue.key
    rw [isValue.1, isValue.2]
  · rintro ⟨inRange, measured, valued⟩
    rcases List.mem_map.mp measured with ⟨indicator, inRows, isMetric⟩
    rcases List.mem_map.mp valued with ⟨sliValue, inside, key⟩
    rcases Prod.mk.inj key with ⟨isEvaluation, named⟩
    let joined : TrendRow := { evaluation, sliValue, indicator }
    have inJoin : joined ∈ joinMetric tables metricName evaluation := by
      refine List.mem_flatMap.mpr ⟨sliValue, List.mem_filter.mpr ⟨inside, ?_⟩, ?_⟩
      · simp only [isEvaluation, named, decide_true, Bool.and_self]
      · exact List.mem_map.mpr
          ⟨indicator, List.mem_filter.mpr ⟨inRows, decide_eq_true isMetric⟩, rfl⟩
    have inJoined := List.mem_flatMap.mpr
      ⟨evaluation, List.mem_filter.mpr ⟨stored, inRange⟩, inJoin⟩
    let lookup := getChangePointsForSloRange tables request
    refine List.mem_map.mpr ⟨trendPointOf lookup request.sloName metricName joined, ?_, rfl⟩
    rw [getTrendByAssetSlo_eq]
    exact List.mem_map_of_mem ((Latest.sortBy_perm rowKey _).symm.subset inJoined)

def requestFrom (evaluation : SLOEvaluation) : TrendRequest :=
  { assetId := evaluation.assetId
    sloName := evaluation.sloName
    fromTs := evaluation.periodStart }

theorem inTrendRange_valid (inRange : inTrendRange request evaluation = true) :
    evaluation.invalidated = false ∧ evaluation.result ≠ none := by
  unfold inTrendRange at inRange
  simp only [Bool.and_eq_true, decide_eq_true_eq, Bool.not_eq_true'] at inRange
  exact ⟨inRange.1.1.1.2, Option.isSome_iff_ne_none.mp inRange.1.1.2⟩

theorem inTrendRange_requestFrom (valid : evaluation.invalidated = false)
    (completed : evaluation.result ≠ none) :
    inTrendRange (requestFrom evaluation) evaluation = true := by
  unfold inTrendRange
  rw [valid, Option.isSome_iff_ne_none.mpr completed]
  simp [requestFrom]

/-- The trends show the metric exactly of a valid evaluation with a result that has a stored
value. -/
theorem neverShown_iff {tables : TrendTables} {scoring : Scoring}
    (stored : evaluation ∈ tables.evaluations.rows)
    (shown : ShowsScoring scoring objective evaluation)
    (valueless : Valueless tables.toTables evaluation objective.id) :
    NeverShown tables evaluation objective ↔
      evaluation.invalidated = true ∨ evaluation.result = none ∨
        (evaluation.id, objective.sli) ∉ tables.sliValues.map SLIValue.key := by
  constructor
  · intro never
    by_contra visible
    rw [not_or, not_or, not_not] at visible
    rcases visible with ⟨valid, completed, valued⟩
    rcases shown with ⟨indicator, found, isObjective, _⟩
    have measured : objective.sli ∈ evaluation.indicatorRows.rows.map (·.objective.sli) :=
      List.mem_map.mpr ⟨indicator, find_mem found, congrArg SLOObjectiveRow.sli isObjective⟩
    have inRange := inTrendRange_requestFrom (Bool.eq_false_iff.mpr valid) completed
    rcases List.mem_map.mp ((trendPoint_iff stored).mpr ⟨inRange, measured, valued⟩) with
      ⟨point, member, isEvaluation⟩
    exact never.trend _ point member isEvaluation
  · intro hidden
    have absent : forall request point, point ∈ getTrendByAssetSlo tables request objective.sli ->
        point.evalId ≠ evaluation.id := by
      intro request point member isEvaluation
      have listed : evaluation.id ∈
          (getTrendByAssetSlo tables request objective.sli).map (·.evalId) :=
        List.mem_map.mpr ⟨point, member, isEvaluation⟩
      rcases (trendPoint_iff stored).mp listed with ⟨inRange, _, valued⟩
      rcases inTrendRange_valid inRange with ⟨valid, completed⟩
      rcases hidden with invalidated | unfinished | unvalued
      · rw [invalidated] at valid
        cases valid
      · exact completed unfinished
      · exact unvalued valued
    refine { toValueless := valueless, trend := absent, trends := ?_ }
    intro events request point member
    have same := sameTrend_of_coherent (cacheAfter_coherent tables events) request objective.sli
    exact absent request point (same.points.subset member)

/-- An objective that was scored without a value has none in the indicator row, in the
heatmap and in any baselines.  In the trends it has one exactly if the evaluation is valid,
has a result, and phase 3b has stored a value of the metric. -/
theorem unmeasured_shown_iff {settings : Worker.Settings} {start before after final : Installation}
    {earlier later : List Event} {event : Event} {evalId : Nat} {scoring : Scoring}
    {objective : SLOObjectiveRow} {tables : TrendTables} (initial : start.Initial)
    (ranEarlier : exec (step settings) start earlier = some before)
    (scores : Scores before event evalId scoring)
    (stepped : step settings before event = some after)
    (ranLater : exec (step settings) after later = some final)
    (lastScoring : Along (step settings)
      (fun state other => forall another, ¬ Scores state other evalId another) after later)
    (listed : objective ∈ scoring.sloDef.objectives.rows)
    (unmeasured : getValue scoring.metrics objective.sli = none) (reads : Reads final tables) :
    Exists fun evaluation => final.world.db.evaluations.find evalId = some evaluation ∧
      Valueless tables.toTables evaluation objective.id ∧
      (NeverShown tables evaluation objective ↔
        evaluation.invalidated = true ∨ evaluation.result = none ∨
          Along (step settings) (fun state other => ¬ WritesMetric evalId objective.sli state other)
            start (earlier ++ event :: later)) := by
  have measures := exec_allMeasure initial ranEarlier
  rcases scores.shows measures stepped listed with ⟨row, stored, shown⟩
  rcases exec_shows (step_allMeasure measures stepped) stored shown lastScoring ranLater with
    ⟨evaluation, found, shownLast⟩
  have valueless := valueless_of_scoring tables.toTables shownLast unmeasured
  have isEvaluation : evaluation.id = evalId := find_key found
  have inTables : evaluation ∈ tables.evaluations.rows := by
    rw [reads.database]
    exact find_mem found
  have ran : exec (step settings) start (earlier ++ event :: later) = some final := by
    rw [exec_append, ranEarlier, Option.bind_some, exec, stepped]
    exact ranLater
  refine ⟨evaluation, found, valueless, ?_⟩
  rw [neverShown_iff inTables shownLast valueless, reads.sliValues, isEvaluation,
    mem_sliValues_iff ran, initial.noValues, List.map_nil, or_iff_right List.not_mem_nil, not_not]

/-! ## A silent adapter

The adapter answers, but has no value for the latency.
-/

namespace Sample

def installation : Installation :=
  { world := Worker.Sample.world }

theorem installation_initial : installation.Initial :=
  ⟨Worker.Sample.world_initial, rfl, rfl⟩

def silentAdapter (_ : Worker.AdapterQuery) : Worker.AdapterOutcome :=
  .response ((∅ : Dict (Option ℚ)).insert "latency" none) ∅

def goOn : Event :=
  .work (.advance 1 (some "worker") false silentAdapter)

def untilScored : List Event :=
  [.work (.trigger 1 (Worker.Sample.request 1 10 0)), .work (.triggerEnqueue 1),
    .work (.deliver 1 0), goOn, goOn, goOn, goOn]

/-- What is about to be written, and the installation before phase 3a, after it and after
the later events. -/
def silentRun (later : List Event) :
    Option ((Worker.EvaluationSnapshot × SLODefinition × Worker.FetchAndEvaluateResult) ×
      Installation × Installation × Installation) :=
  (exec (step {}) installation untilScored).bind fun before =>
    (writingOf before.world 1).bind fun writing =>
      (step {} before goOn).bind fun after =>
        (exec (step {}) after later).map fun final => (writing, before, after, final)

theorem silentRun_eq_some {later : List Event}
    {writing : Worker.EvaluationSnapshot × SLODefinition × Worker.FetchAndEvaluateResult}
    {before after final : Installation}
    (ran : silentRun later = some (writing, before, after, final)) :
    exec (step {}) installation untilScored = some before ∧ writingOf before.world 1 = some writing ∧
      step {} before goOn = some after ∧ exec (step {}) after later = some final := by
  rcases Option.bind_eq_some_iff.mp ran with ⟨_, ranEarlier, ran⟩
  rcases Option.bind_eq_some_iff.mp ran with ⟨_, writes, ran⟩
  rcases Option.bind_eq_some_iff.mp ran with ⟨_, stepped, ran⟩
  rcases Option.map_eq_some_iff.mp ran with ⟨_, ranLater, same⟩
  cases same
  exact ⟨ranEarlier, writes, stepped, ranLater⟩

def Unmeasured
    (writing : Worker.EvaluationSnapshot × SLODefinition × Worker.FetchAndEvaluateResult) : Prop :=
  writing.1.evalId = 10 ∧ Worker.Sample.objective ∈ writing.2.1.objectives.rows ∧
    getValue writing.2.2.metricsFetched "latency" = none

instance (writing : Worker.EvaluationSnapshot × SLODefinition × Worker.FetchAndEvaluateResult) :
    Decidable (Unmeasured writing) :=
  inferInstanceAs (Decidable (_ ∧ _ ∧ _))

def tablesOf (installation : Installation) : TrendTables :=
  { toDatabase := installation.world.db, sliValues := installation.sliValues }

theorem tablesOf_reads (installation : Installation) : Reads installation (tablesOf installation) :=
  ⟨rfl, rfl⟩

def latencyTrend : TrendRequest :=
  { assetId := 1, sloName := "checkout", fromTs := 0 }

def crash : Event :=
  .work (.crash 1)

theorem crash_scores_nothing (state : Installation) :
    Along (step {}) (fun state other => forall another, ¬ Scores state other 10 another) state
      [crash] := by
  unfold Along
  constructor
  · intro another scores
    cases scores
  · split <;> trivial

end Sample

/-- When the execution dies before phase 3b, nothing shows the latency. -/
theorem latency_never_shown :
    Exists fun before => Exists fun after => Exists fun final => Exists fun evaluation =>
      exec (step {}) Sample.installation Sample.untilScored = some before ∧
        step {} before Sample.goOn = some after ∧
        exec (step {}) after [Sample.crash] = some final ∧
        final.world.db.evaluations.find 10 = some evaluation ∧
        NeverShown (Sample.tablesOf final) evaluation Worker.Sample.objective := by
  have ran : (Sample.silentRun [Sample.crash]).map (fun found => decide (Sample.Unmeasured found.1 ∧
      Along (step {}) (fun state other => ¬ WritesMetric 10 "latency" state other)
        Sample.installation (Sample.untilScored ++ Sample.goOn :: [Sample.crash]))) = some true := by
    decide +kernel
  rw [Option.map_eq_some_iff] at ran
  rcases ran with ⟨⟨⟨snapshot, sloDef, fetchResult⟩, before, after, final⟩, isRun, facts⟩
  rcases of_decide_eq_true facts with ⟨⟨isEvaluation, listed, unmeasured⟩, never⟩
  rcases Sample.silentRun_eq_some isRun with ⟨ranEarlier, writing, stepped, ranLater⟩
  have scores : Scores before Sample.goOn snapshot.evalId _ := Scores.worker writing
  have isTen : snapshot.evalId = 10 := isEvaluation
  rw [isTen] at scores
  rcases unmeasured_shown_iff Sample.installation_initial ranEarlier scores stepped ranLater
    (Sample.crash_scores_nothing after) listed unmeasured (Sample.tablesOf_reads final) with
    ⟨evaluation, found, _, hidden⟩
  exact ⟨before, after, final, evaluation, ranEarlier, stepped, ranLater, found,
    hidden.mpr (Or.inr (Or.inr never))⟩

/-- When the job goes on, the trend has a point with a zero for the latency. -/
theorem latency_shown_as_zero :
    Exists fun before => Exists fun after => Exists fun final => Exists fun scoring =>
      Exists fun evaluation =>
        exec (step {}) Sample.installation Sample.untilScored = some before ∧
          Scores before Sample.goOn 10 scoring ∧
          Worker.Sample.objective ∈ scoring.sloDef.objectives.rows ∧
          getValue scoring.metrics "latency" = none ∧
          step {} before Sample.goOn = some after ∧
          exec (step {}) after [.writeSliValues 1] = some final ∧
          final.world.db.evaluations.find 10 = some evaluation ∧
          (getTrendByAssetSlo (Sample.tablesOf final) Sample.latencyTrend "latency").map
              (fun point => (point.evalId, point.value, point.result)) = [(10, 0, .error)] ∧
          ¬ NeverShown (Sample.tablesOf final) evaluation Worker.Sample.objective := by
  have ran : (Sample.silentRun [.writeSliValues 1]).map (fun found =>
      decide (Sample.Unmeasured found.1 ∧
        (found.2.2.2.world.db.evaluations.find 10).isSome = true ∧
        (getTrendByAssetSlo (Sample.tablesOf found.2.2.2) Sample.latencyTrend "latency").map
          (fun point => (point.evalId, point.value, point.result)) = [(10, 0, .error)])) =
        some true := by
    decide +kernel
  rw [Option.map_eq_some_iff] at ran
  rcases ran with ⟨⟨⟨snapshot, sloDef, fetchResult⟩, before, after, final⟩, isRun, facts⟩
  rcases of_decide_eq_true facts with ⟨⟨isEvaluation, listed, unmeasured⟩, stored, points⟩
  rcases Sample.silentRun_eq_some isRun with ⟨ranEarlier, writing, stepped, ranLater⟩
  rcases Option.isSome_iff_exists.mp stored with ⟨evaluation, found⟩
  have scores : Scores before Sample.goOn snapshot.evalId _ := Scores.worker writing
  have isTen : snapshot.evalId = 10 := isEvaluation
  rw [isTen] at scores
  refine ⟨before, after, final, _, evaluation, ranEarlier, scores, listed, unmeasured, stepped, ranLater,
    found, points, fun never => ?_⟩
  have shown : (10, 0, IndicatorStatus.error) ∈
      (getTrendByAssetSlo (Sample.tablesOf final) Sample.latencyTrend "latency").map
        (fun point => (point.evalId, point.value, point.result)) := by
    rw [points]
    exact List.mem_cons_self
  rcases List.mem_map.mp shown with ⟨point, member, same⟩
  have isKey : evaluation.id = 10 := find_key found
  refine never.trend Sample.latencyTrend point member ?_
  rw [isKey]
  exact congrArg Prod.fst same

end Presentation
end Tropek
