import Tropek.Engine.Scoring
import Tropek.Worker.Execution

namespace Tropek
namespace ChangePoints

open Library Engine Store Worker Fallible

/-!
# Change point detection

After an evaluation is written, the worker looks for shifts in the history of each
metric.  It reads the baselines of the evaluation series once, extracts one series
of values for each enabled objective, and runs the detector on it.

The E-Divisive engine is a parameter: it takes the values of a series and returns
indices with the statistics of the segments on both sides, or raises one of the
exceptions that the loop over the objectives catches.
-/

inductive Direction where
  | regression
  | improvement
deriving DecidableEq, Repr

inductive Transition where
  | appeared
  | vanished
deriving DecidableEq, Repr

structure ChangePointResult where
  position : Nat
  timestamp : Instant
  detector : String
  direction : Direction
  changeRelativePct : Option ℚ
  changeAbsolute : ℚ
  pvalue : ℚ
  preSegmentMean : ℚ
  postSegmentMean : ℚ
  postSegmentStd : ℚ
  transition : Option Transition
deriving DecidableEq

/-- Config for a single metric, after the override is merged with the defaults. -/
structure ResolvedConfig where
  enabled : Bool
  higherIsBetter : Bool
  windowSize : Int
  maxPvalue : ℚ
  minMagnitude : ℚ
  minSampleSize : Int
  pvalueStrictThreshold : ℚ
  pvalueModerateThreshold : ℚ

/-- A change point of the engine, with `mean_1`, `mean_2`, `std_2` and `pvalue`
of its test. -/
structure EnginePoint where
  index : Nat
  preMean : ℚ
  postMean : ℚ
  postStd : ℚ
  pvalue : ℚ

inductive DetectionError where
  | engine
  | indexError
deriving DecidableEq, Repr

/-- `merge(split(series, effective_window, first_pass_pvalue), series, max_pvalue,
min_magnitude)`. -/
abbrev DivisiveEngine :=
  List ℚ -> Int -> ℚ -> ℚ -> ℚ -> Except DetectionError (List EnginePoint)

def minEffectiveWindow : Int := 4

/-- `round(value, digits)`. -/
def roundTo (digits : Nat) (value : ℚ) : ℚ :=
  roundHalfEven (value * 10 ^ digits) / 10 ^ digits

def firstPassPvalue (config : ResolvedConfig) : ℚ :=
  if config.maxPvalue < config.pvalueStrictThreshold then config.maxPvalue * 10
  else if config.maxPvalue < config.pvalueModerateThreshold then config.maxPvalue * 2
  else config.maxPvalue

def transitionOf (point : EnginePoint) : Option Transition :=
  if point.preMean = 0 then some .appeared
  else if point.postMean = 0 then some .vanished
  else none

def relativeChange (point : EnginePoint) : Option ℚ :=
  if point.preMean = 0 ∨ point.postMean = 0 then none
  else some ((point.postMean - point.preMean) / point.preMean * 100)

def directionOf (higherIsBetter : Bool) (point : EnginePoint) : Direction :=
  if higherIsBetter then
    if point.postMean < point.preMean then .regression else .improvement
  else if point.preMean < point.postMean then .regression else .improvement

def changePointResult (config : ResolvedConfig) (point : EnginePoint) (timestamp : Instant) :
    ChangePointResult :=
  { position := point.index
    timestamp
    detector := "e_divisive"
    direction := directionOf config.higherIsBetter point
    changeRelativePct := (relativeChange point).map (roundTo 2)
    changeAbsolute := roundTo 4 (point.postMean - point.preMean)
    pvalue := roundTo 6 point.pvalue
    preSegmentMean := roundTo 4 point.preMean
    postSegmentMean := roundTo 4 point.postMean
    postSegmentStd := roundTo 4 point.postStd
    transition := transitionOf point }

/-- The detected change points, ordered by position.  Points at the two ends of the
series are skipped, and a missing timestamp raises. -/
def detectChangePoints (engine : DivisiveEngine) (config : ResolvedConfig) (values : List ℚ)
    (timestamps : List Instant) : Except DetectionError (List ChangePointResult) :=
  let effectiveWindow := min config.windowSize values.length
  if (values.length : Int) < config.minSampleSize ∨ effectiveWindow < minEffectiveWindow then .ok []
  else do
    let detected <- engine values effectiveWindow (firstPassPvalue config) config.maxPvalue
      config.minMagnitude
    let inside := detected.filter fun point => 0 < point.index && point.index < values.length
    let results <- inside.mapM fun point =>
      orRaise .indexError (timestamps[point.index]?.map (changePointResult config point))
    return Latest.oldestFirst (fun result => (result.position : Int)) results

structure MetricSeries where
  values : List ℚ
  timestamps : List Instant
  periodEnds : List (Option Instant)
  evaluationRunIds : List Nat

/-- `items[:stop]`: a negative bound counts from the end. -/
def sliceTo {α : Type} (stop : Int) (items : List α) : List α :=
  if 0 ≤ stop then items.take stop.toNat else items.take (items.length + stop).toNat

def metricValue (metricName : String) (evaluation : SLOEvaluation) : Option ℚ :=
  evaluation.indicatorRows.rows.findSome? fun row =>
    if row.objective.sli = metricName then row.value else none

/-- The evaluations that contribute to the series of a metric, each with its value. -/
def measuredHistory (historyEvals : List SLOEvaluation) (metricName : String) (windowSize : Int) :
    List (SLOEvaluation × ℚ) :=
  (Latest.oldestFirst SLOEvaluation.periodStart (sliceTo windowSize historyEvals)).filterMap
    fun evaluation => (metricValue metricName evaluation).map fun value => (evaluation, value)

def extractMetricSeries (historyEvals : List SLOEvaluation) (metricName : String)
    (windowSize : Int) : MetricSeries :=
  let measured := measuredHistory historyEvals metricName windowSize
  { values := measured.map Prod.snd
    timestamps := measured.map fun pair => pair.1.periodStart
    periodEnds := measured.map fun pair => some pair.1.periodEnd
    evaluationRunIds := measured.map fun pair => pair.1.evaluationId }

/-- A candidate lies on the series: its timestamp is the one at its position. -/
def ChangePointResult.LiesOn (candidate : ChangePointResult) (series : MetricSeries) : Prop :=
  series.timestamps[candidate.position]? = some candidate.timestamp

instance (candidate : ChangePointResult) (series : MetricSeries) :
    Decidable (candidate.LiesOn series) :=
  inferInstanceAs (Decidable (series.timestamps[candidate.position]? = some candidate.timestamp))

structure EnabledObjective where
  metricName : String
  resolved : ResolvedConfig
  indicatorResultId : Nat

structure DetectedBatch where
  metricName : String
  indicatorResultId : Nat
  series : MetricSeries
  detected : List ChangePointResult

def detectForObjective (engine : DivisiveEngine) (sharedHistory : List SLOEvaluation)
    (objective : EnabledObjective) : Option DetectedBatch :=
  let series := extractMetricSeries sharedHistory objective.metricName objective.resolved.windowSize
  if (series.values.length : Int) < objective.resolved.minSampleSize then none
  else
    match detectChangePoints engine objective.resolved series.values series.timestamps with
    | .error _ => none
    | .ok [] => none
    | .ok detected =>
        some { metricName := objective.metricName, indicatorResultId := objective.indicatorResultId,
               series, detected }

def detectChangePointsForObjectives (engine : DivisiveEngine) (sharedHistory : List SLOEvaluation)
    (objectives : List EnabledObjective) : List DetectedBatch :=
  objectives.filterMap (detectForObjective engine sharedHistory)

theorem detectChangePoints_liesOn {engine : DivisiveEngine} {config : ResolvedConfig}
    {series : MetricSeries} {detected : List ChangePointResult}
    (ran : detectChangePoints engine config series.values series.timestamps = .ok detected)
    {candidate : ChangePointResult} (member : candidate ∈ detected) : candidate.LiesOn series := by
  unfold detectChangePoints at ran
  dsimp only at ran
  split at ran
  · cases ran
    exact absurd member List.not_mem_nil
  · rcases bind_eq_ok.mp ran with ⟨points, _, ran⟩
    rcases bind_eq_ok.mp ran with ⟨results, mapped, same⟩
    cases same
    have inside := (Latest.mem_oldestFirst _).mp member
    have pairs := mapM_eq_ok.mp mapped
    rcases KeyedTable.mem_related pairs.flip inside with ⟨point, _, raised⟩
    have found := orRaise_eq_ok.mp raised
    rcases Option.map_eq_some_iff.mp found with ⟨timestamp, looked, same⟩
    rw [<- same]
    exact looked

/-- A batch of detections belongs to one objective, and its candidates lie on the
series that it carries. -/
theorem detectForObjective_eq_some {engine : DivisiveEngine} {sharedHistory : List SLOEvaluation}
    {objective : EnabledObjective} {batch : DetectedBatch}
    (ran : detectForObjective engine sharedHistory objective = some batch) :
    batch.metricName = objective.metricName ∧
      batch.indicatorResultId = objective.indicatorResultId ∧
      batch.series = extractMetricSeries sharedHistory objective.metricName
        objective.resolved.windowSize ∧
      forall candidate, candidate ∈ batch.detected -> candidate.LiesOn batch.series := by
  unfold detectForObjective at ran
  dsimp only at ran
  split at ran
  · cases ran
  · split at ran
    · cases ran
    · cases ran
    · rename_i detected _ found
      cases ran
      exact ⟨rfl, rfl, rfl, fun candidate member => detectChangePoints_liesOn found member⟩

theorem mem_sliceTo {α : Type} {stop : Int} {items : List α} {item : α}
    (member : item ∈ sliceTo stop items) : item ∈ items := by
  unfold sliceTo at member
  split at member
  · exact List.mem_of_mem_take member
  · exact List.mem_of_mem_take member

theorem extractMetricSeries_run {historyEvals : List SLOEvaluation} {metricName : String}
    {windowSize : Int} {runId : Nat}
    (member : runId ∈ (extractMetricSeries historyEvals metricName windowSize).evaluationRunIds) :
    Exists fun evaluation => evaluation ∈ historyEvals ∧ evaluation.evaluationId = runId := by
  rcases List.mem_map.mp member with ⟨pair, inside, same⟩
  rcases List.mem_filterMap.mp inside with ⟨evaluation, sorted, found⟩
  rcases Option.map_eq_some_iff.mp found with ⟨value, _, isPair⟩
  have sliced := (Latest.mem_oldestFirst _).mp sorted
  refine ⟨evaluation, mem_sliceTo sliced, ?_⟩
  rw [<- same, <- isPair]

theorem extractMetricSeries_at {historyEvals : List SLOEvaluation} {metricName : String}
    {windowSize : Int} {position : Nat} {timestamp : Instant}
    (found : (extractMetricSeries historyEvals metricName windowSize).timestamps[position]? =
      some timestamp) :
    Exists fun evaluation => evaluation ∈ historyEvals ∧ evaluation.periodStart = timestamp ∧
      (extractMetricSeries historyEvals metricName windowSize).periodEnds[position]? =
        some (some evaluation.periodEnd) ∧
      (extractMetricSeries historyEvals metricName windowSize).evaluationRunIds[position]? =
        some evaluation.evaluationId := by
  let measured := measuredHistory historyEvals metricName windowSize
  have onMeasured : (measured.map fun pair => pair.1.periodStart)[position]? = some timestamp := found
  rw [List.getElem?_map] at onMeasured
  rcases Option.map_eq_some_iff.mp onMeasured with ⟨pair, atPosition, sameTimestamp⟩
  have columns : forall {Column : Type} (column : SLOEvaluation × ℚ -> Column),
      (measured.map column)[position]? = some (column pair) := by
    intro Column column
    rw [List.getElem?_map, atPosition]
    rfl
  have inside : pair.1 ∈ historyEvals := by
    rcases List.mem_filterMap.mp (List.mem_of_getElem? atPosition) with ⟨evaluation, sorted, isPair⟩
    rcases Option.map_eq_some_iff.mp isPair with ⟨value, _, same⟩
    rw [<- same]
    exact mem_sliceTo ((Latest.mem_oldestFirst _).mp sorted)
  exact ⟨pair.1, inside, sameTimestamp, columns _, columns _⟩

end ChangePoints
end Tropek
