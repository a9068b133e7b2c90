import Tropek.Adapter.Substitution
import Tropek.SloTest.Service
import Tropek.SloTest.Stored

namespace Tropek
namespace SloTest

open Library Engine Store Registry Worker Adapter ReEvaluation KeyedTable Fallible

/-!
# The worker and the dry run

Both sides are given the same inputs: a request for an asset, an SLO with its SLI and its data
source, a database and an adapter.  Each of them gets an answer or none, and what it hands to
the engine is read off the answer and the history of the asset.
-/

/-! ## The two sides -/

/-- What a dry run and a trigger of the same evaluation both start from.  `deactivated`:
the versions of SLIs that have been deactivated. -/
structure Inputs where
  db : Database
  deactivated : List (String × Int) := []
  adapter : AdapterRequest -> AdapterOutcome
  request : EvaluateSingleRequest
  asset : Asset
  sloDef : SLODefinition
  sliDef : SLIDefinition
  datasource : DataSource

namespace Inputs

/-- A trigger of the request, which compares with its own series, creates an evaluation of the
SLO with its raw SLI and the data source. -/
structure Creates (inputs : Inputs) (next : Database) (row : SLOEvaluation) : Prop where
  triggered : Exists fun assignments => Exists fun runId => Exists fun newId => Exists fun ids =>
    triggerEvaluate inputs.db assignments inputs.request runId newId = .ok (next, ids) ∧
      row.id ∈ ids
  stored : next.evaluations.find row.id = some row
  asset : findAsset inputs.db inputs.request.assetName = some inputs.asset
  loads : Loads inputs.db row inputs.sloDef inputs.sliDef inputs.datasource
  raw : inputs.sliDef.mode = .raw
  compareTo : inputs.request.compareTo = none

def bodyObjective (objective : SLOObjectiveRow) : SLOObjectiveIn :=
  { sli := objective.sli, displayName := objective.displayName,
    passThreshold := objective.passThreshold, warningThreshold := objective.warningThreshold,
    weight := objective.weight, keySli := objective.keySli }

/-- How many results the SLO is compared with, or the default of the parser. -/
def limit (inputs : Inputs) : Int :=
  inputs.sloDef.comparison.numberOfComparisonResults.getD 3

def body (inputs : Inputs) : SLOTestRequest :=
  { objectives := inputs.sloDef.objectives.rows.map bodyObjective
    totalScorePassThreshold := inputs.sloDef.totalScorePassThreshold
    totalScoreWarningThreshold := inputs.sloDef.totalScoreWarningThreshold
    comparison := inputs.sloDef.comparison
    sliName := inputs.sliDef.name
    dataSourceName := inputs.datasource.name
    assetName := inputs.request.assetName
    periodStart := inputs.request.periodStart
    periodEnd := inputs.request.periodEnd
    evaluationName := inputs.request.evalName
    baseline := some { mode := .assetHistory, limit := inputs.limit }
    vars := inputs.request.vars }

def tested (inputs : Inputs) : Except SLOTestError SLOTestResult :=
  runTest inputs.db inputs.deactivated inputs.adapter inputs.body

/-- The database after the job of an evaluation, once its predecessors have let it through. -/
def afterJob (inputs : Inputs) (settings : Settings) (now : Instant) (workerId : Option String)
    (message : Message) (next : Database) : Database :=
  (runPhases settings { now, workerId, adapter := fun query => inputs.adapter (.specs query) }
    message Phase.marking.rank next .marking).1

end Inputs

/-- The evaluation has the result, the score and the indicator results of the dry run, or none
when the dry run has raised. -/
def Agrees (sloDef : SLODefinition) (tested : Except SLOTestError SLOTestResult)
    (stored : SLOEvaluation) : Prop :=
  match tested with
  | .ok outcome =>
      stored.result = some (.ofOutcome outcome.result) ∧ stored.score = some outcome.score ∧
        stored.indicatorRows.rows = buildIndicatorRows sloDef outcome.indicatorResults
  | .error _ =>
      stored.result = none ∧ stored.score = none ∧ stored.indicatorRows.rows = []

/-! ## What the two sides read -/

def baselineOf (function : AggregateFunction) (pastEvals : List SLOEvaluation) (metric : String) :
    Option ℚ :=
  (aggregateValues (valuesOf metric (pastEvals.flatMap measuredValues)) function).toOption

namespace Inputs

/-- The variables of the worker.  The tags of the asset are stored with the evaluation. -/
def workerVariables (inputs : Inputs) : Dict String :=
  buildEvalVariables (some inputs.asset.name) inputs.request.evalName
    (isoformat inputs.request.periodStart) (isoformat inputs.request.periodEnd)
    inputs.asset.vars inputs.asset.tags inputs.sloDef.vars
    (inputs.request.vars ∪ inputs.asset.tags)

def workerQuery (inputs : Inputs) : AdapterQuery :=
  { adapterUrl := inputs.datasource.adapterUrl
    datasourceName := inputs.datasource.name
    queries := inputs.sliDef.indicators.entries.map fun entry =>
      (entry.1, .raw (replaceAll inputs.workerVariables (templatePieces entry.2)))
    vars := inputs.workerVariables
    start := isoformat inputs.request.periodStart
    finish := isoformat inputs.request.periodEnd
    token := inputs.datasource.token }

/-- Every template resolves, no metric is scored twice, and the adapter answers. -/
structure WorkerAnswered (inputs : Inputs) (values : Dict (Option ℚ)) (errors : Dict String) :
    Prop where
  defined : forall entry, entry ∈ inputs.sliDef.indicators.entries ->
    AllDefined inputs.workerVariables (templatePieces entry.2)
  distinct : inputs.sloDef.DistinctMetrics
  answered : inputs.adapter (.specs inputs.workerQuery) = .response values errors

def testQuery (inputs : Inputs) (latest : SLIDefinition) : PlainQuery :=
  plainQuery inputs.body inputs.datasource
    (resolveQueries latest.indicators (buildVariables inputs.body inputs.asset))

/-- There is a latest version of the SLI, it is raw, the limit is not negative, and the adapter
answers. -/
structure TestAnswered (inputs : Inputs) (latest : SLIDefinition) (values : Dict (Option ℚ)) :
    Prop where
  found : getLatestSli inputs.db inputs.deactivated inputs.sliDef.name = some latest
  raw : latest.mode = .raw
  limit : 0 ≤ inputs.limit
  answered : Exists fun errors =>
    inputs.adapter (.plain (inputs.testQuery latest)) = .response values errors

def history (inputs : Inputs) (slo : SLO) (sloName : String) (series : Option String) :
    List SLOEvaluation :=
  (getEvaluationBaselines inputs.db.evaluations inputs.asset.id sloName
    inputs.request.periodStart slo.comparison.includeResultWithScore inputs.limit series).getD []

/-- The two answers and the two histories have the same numbers for an objective.  The worker
takes a metric with an error for null, and the dry run has baselines for the indicators of its
SLI, from evaluations of an SLO that has the name of the SLI. -/
structure ReadsAlike (inputs : Inputs) (slo : SLO) (latest : SLIDefinition)
    (values : Dict (Option ℚ)) (errors : Dict String) (tested : Dict (Option ℚ))
    (metric : String) : Prop where
  value : (if metric ∈ errors then none else getValue values metric) = getValue tested metric
  baseline :
    baselineOf slo.comparison.aggregateFunction
        (inputs.history slo inputs.sloDef.name (some inputs.request.evalName)) metric =
      if metric ∈ latest.indicators then
        baselineOf slo.comparison.aggregateFunction
          (inputs.history slo inputs.sliDef.name none) metric
      else none

/-- Both sides get an answer or neither does, and two answers read alike for every objective,
unless the engine cannot read the SLO at all. -/
def Fits (inputs : Inputs) : Prop :=
  EngineReads inputs.sloDef ->
    ((Exists fun values => Exists fun errors => inputs.WorkerAnswered values errors) ↔
      Exists fun latest => Exists fun tested => inputs.TestAnswered latest tested) ∧
    forall slo latest values errors tested, buildSloModel inputs.sloDef = .ok slo ->
      inputs.WorkerAnswered values errors -> inputs.TestAnswered latest tested ->
        forall objective, objective ∈ inputs.sloDef.objectives.rows ->
          inputs.ReadsAlike slo latest values errors tested objective.sli

end Inputs

/-! ## The worker -/

section Worker

variable {sloDef : SLODefinition} {sliDef : SLIDefinition} {snapshot : EvaluationSnapshot}
  {datasource : DataSource}

theorem resolveQueries_eq_ok (raw : sliDef.mode = .raw) (vars : Dict String)
    (queries : List (String × String)) :
    Worker.resolveQueries sliDef vars = .ok queries ↔
      (forall entry, entry ∈ sliDef.indicators.entries ->
        AllDefined vars (templatePieces entry.2)) ∧
      sliDef.indicators.entries.map (fun entry =>
        (entry.1, replaceAll vars (templatePieces entry.2))) = queries := by
  have resolved : forall (entry : Sigma fun _ : String => String) (pair : String × String),
      Worker.resolveQuery vars entry = .ok pair ↔
        AllDefined vars (templatePieces entry.2) ∧
          (entry.1, replaceAll vars (templatePieces entry.2)) = pair := by
    intro entry pair
    unfold Worker.resolveQuery
    rw [bind_eq_ok]
    constructor
    · rintro ⟨query, substituted, same⟩
      rcases (substituteVariables_eq_ok _ _ _).mp substituted with ⟨defined, isQuery⟩
      exact ⟨defined, by rw [<- isQuery]; exact Except.ok.inj same⟩
    · rintro ⟨defined, same⟩
      exact ⟨_, (substituteVariables_eq_ok _ _ _).mpr ⟨defined, rfl⟩, congrArg Except.ok same⟩
  unfold Worker.resolveQueries
  rw [raw]
  dsimp only
  rw [mapM_eq_ok]
  simp only [resolved]
  rw [List.forall₂_and_left]
  refine and_congr_right fun _ => ?_
  rw [<- List.forall₂_map_left_iff (R := Eq), List.forall₂_eq_eq_eq]

theorem prepareQuery_eq_ok (raw : sliDef.mode = .raw) (slo : SLO) (query : AdapterQuery) :
    prepareQuery snapshot sloDef sliDef datasource = .ok (slo, query) ↔
      buildSloModel sloDef = .ok slo ∧
      (forall entry, entry ∈ sliDef.indicators.entries ->
        AllDefined (snapshotVariables snapshot sloDef) (templatePieces entry.2)) ∧
      query = {
        adapterUrl := datasource.adapterUrl
        datasourceName := datasource.name
        queries := sliDef.indicators.entries.map fun entry =>
          (entry.1, .raw (replaceAll (snapshotVariables snapshot sloDef) (templatePieces entry.2)))
        vars := snapshotVariables snapshot sloDef
        start := isoformat snapshot.periodStart
        finish := isoformat snapshot.periodEnd
        token := datasource.token } := by
  have specs : forall queries, buildQuerySpecs sliDef queries =
      .ok (queries.map fun pair => (pair.1, QuerySpec.raw pair.2)) := by
    intro queries
    unfold buildQuerySpecs
    rw [raw]
  unfold prepareQuery
  constructor
  · intro prepared
    rcases bind_eq_ok.mp prepared with ⟨built, building, prepared⟩
    rcases bind_eq_ok.mp prepared with ⟨queries, resolving, prepared⟩
    rcases bind_eq_ok.mp prepared with ⟨built', specified, same⟩
    rcases (resolveQueries_eq_ok raw _ _).mp (mapError_eq_ok resolving) with
      ⟨defined, isQueries⟩
    rw [specs] at specified
    cases specified
    cases same
    refine ⟨mapError_eq_ok building, defined, ?_⟩
    rw [<- isQueries, List.map_map]
    rfl
  · rintro ⟨built, defined, same⟩
    have resolving := (resolveQueries_eq_ok raw (snapshotVariables snapshot sloDef) _).mpr
      ⟨defined, rfl⟩
    rw [built]
    refine bind_eq_ok.mpr ⟨slo, rfl, ?_⟩
    dsimp only
    rw [resolving]
    refine bind_eq_ok.mpr ⟨_, rfl, ?_⟩
    refine bind_eq_ok.mpr ⟨_, specs _, ?_⟩
    rw [same, List.map_map]
    rfl

/-- Phase 2b has a result exactly when the adapter answers a query that was prepared, and the
answer is scored. -/
theorem fetchAndEvaluate_some_iff {table : Evaluations}
    {adapter : AdapterQuery -> AdapterOutcome} {fetchResult : FetchAndEvaluateResult} :
    fetchAndEvaluate table snapshot sloDef sliDef datasource adapter = .ok (some fetchResult) ↔
      Exists fun slo => Exists fun query => Exists fun values => Exists fun errors =>
        prepareQuery snapshot sloDef sliDef datasource = .ok (slo, query) ∧
          adapter query = .response values errors ∧
          evaluateResponse table snapshot slo values errors = .ok fetchResult := by
  unfold fetchAndEvaluate
  constructor
  · intro fetched
    rcases bind_eq_ok.mp fetched with ⟨⟨slo, query⟩, prepared, fetched⟩
    dsimp only at fetched
    cases outcome : adapter query with
    | response values errors =>
        rw [outcome] at fetched
        rcases bind_eq_ok.mp fetched with ⟨result, evaluated, same⟩
        cases same
        exact ⟨slo, query, values, errors, prepared, outcome, evaluated⟩
    | malformed => rw [outcome] at fetched; cases fetched
    | connectError => rw [outcome] at fetched; cases fetched
    | readError => rw [outcome] at fetched; cases fetched
    | timeout => rw [outcome] at fetched; cases fetched
    | httpStatusError => rw [outcome] at fetched; cases fetched
  · rintro ⟨slo, query, values, errors, prepared, answered, evaluated⟩
    refine bind_eq_ok.mpr ⟨(slo, query), prepared, ?_⟩
    dsimp only
    rw [answered]
    exact bind_eq_ok.mpr ⟨fetchResult, evaluated, rfl⟩

end Worker

/-! ## What the worker reads -/

theorem getValue_overridden (names : List String) (values : Dict (Option ℚ)) (metric : String) :
    getValue (names.foldl (fun metrics name => metrics.insert name none) values) metric =
      if metric ∈ names then none else getValue values metric := by
  induction names generalizing values with
  | nil => rw [List.foldl_nil, if_neg List.not_mem_nil]
  | cons name rest ih =>
      rw [List.foldl_cons, ih]
      unfold getValue
      by_cases same : metric = name
      · rw [same, AList.lookup_insert, if_pos List.mem_cons_self]
        exact ite_self _
      · simp only [List.mem_cons, same, false_or, AList.lookup_insert_ne same]

theorem getValue_overrideErrored (values : Dict (Option ℚ)) (errors : Dict String)
    (metric : String) :
    getValue (overrideErrored values errors) metric =
      if metric ∈ errors then none else getValue values metric :=
  (getValue_overridden errors.keys values metric).trans (if_congr AList.mem_keys.symm rfl rfl)

theorem baselineOf_nil (function : AggregateFunction) (metric : String) :
    baselineOf function [] metric = none :=
  rfl

theorem worker_baselines (table : Evaluations) (slo : SLO) (snapshot : EvaluationSnapshot)
    (evaluationName : String) :
    Exists fun baselines => Exists fun ids =>
      Worker.resolveBaselines table slo snapshot evaluationName = .ok (baselines, ids) ∧
        forall metric, getValue baselines metric =
          baselineOf slo.comparison.aggregateFunction
            ((getEvaluationBaselines table snapshot.assetId snapshot.sloName snapshot.periodStart
              slo.comparison.includeResultWithScore slo.comparison.numberOfComparisonResults
              (some evaluationName)).getD []) metric := by
  unfold Worker.resolveBaselines
  by_cases none : slo.comparison.numberOfComparisonResults ≤ 0
  · have empty : (getEvaluationBaselines table snapshot.assetId snapshot.sloName
        snapshot.periodStart slo.comparison.includeResultWithScore
        slo.comparison.numberOfComparisonResults (some evaluationName)).getD [] = [] := by
      unfold getEvaluationBaselines latestRows
      by_cases negative : slo.comparison.numberOfComparisonResults < 0
      · rw [if_pos negative]
        rfl
      · rw [if_neg negative, Int.toNat_of_nonpos none]
        rfl
    rw [if_pos none, empty]
    exact ⟨∅, [], rfl, fun metric => rfl⟩
  · have positive : ¬ slo.comparison.numberOfComparisonResults < 0 := fun negative =>
      none (le_of_lt negative)
    unfold getEvaluationBaselines latestRows
    rw [if_neg none, if_neg positive]
    dsimp only
    rcases computeBaselines_ok _ slo.comparison.aggregateFunction with
      ⟨baselines, computed, aggregated⟩
    rw [computed]
    exact ⟨baselines, _, rfl, aggregated⟩

namespace Inputs

structure Starts (inputs : Inputs) (next : Database) (row : SLOEvaluation) : Prop where
  unscored : Unscored row
  apart : row.inHistory = false
  assetId : row.assetId = inputs.asset.id
  sloName : row.sloName = inputs.sloDef.name
  stored : StoredFor inputs.request inputs.asset row
  compareTo : (snapshotOf next row).compareTo = none
  history : next.evaluations.rows.filter SLOEvaluation.inHistory =
    inputs.db.evaluations.rows.filter SLOEvaluation.inHistory
  loads : Loads next row inputs.sloDef inputs.sliDef inputs.datasource

variable {inputs : Inputs} {next : Database} {row : SLOEvaluation}

theorem Creates.starts (creates : inputs.Creates next row) : inputs.Starts next row := by
  rcases creates.triggered with ⟨assignments, runId, newId, ids, triggered, member⟩
  rcases triggerEvaluate_commits triggered with ⟨asset, found, _, commit, idsAre⟩
  cases Option.some.inj (found.symm.trans creates.asset)
  rcases triggerCommit_find commit (idsAre ▸ member) with ⟨ctx, listed, isStored⟩
  rcases resolvedContexts_asset found listed with ⟨snapshot, assetId⟩
  have isRow := Option.some.inj (creates.stored.symm.trans isStored)
  have runOf : row.evaluationId = runId := congrArg SLOEvaluation.evaluationId isRow
  have tables := (triggerCommit_committed commit).definitions
  have loads := creates.loads
  refine {
    unscored := ⟨congrArg SLOEvaluation.result isRow, congrArg SLOEvaluation.score isRow,
      congrArg SLOEvaluation.indicatorRows isRow⟩
    apart := congrArg SLOEvaluation.inHistory isRow
    assetId := (congrArg SLOEvaluation.assetId isRow).trans assetId
    sloName := ?_
    stored := {
      evaluationName := congrArg SLOEvaluation.evaluationName isRow
      periodStart := congrArg SLOEvaluation.periodStart isRow
      periodEnd := congrArg SLOEvaluation.periodEnd isRow
      assetSnapshot := (congrArg SLOEvaluation.assetSnapshot isRow).trans snapshot
      stored := ?_ }
    compareTo := ?_
    history := triggerCommit_history commit
    loads := ?_ }
  · rcases loads.slo with ⟨version, _, sloFound⟩
    exact (congrArg Prod.fst (find_key sloFound)).symm
  · rw [congrArg SLOEvaluation.vars isRow, assetId]
    exact congrArg (inputs.request.vars ∪ ·) (assetTagsOf_findAsset found)
  · have compareTo := triggerCommit_run commit
    change (next.runs.find row.evaluationId).bind (·.compareTo) = none
    rw [runOf]
    exact compareTo.trans creates.compareTo
  · rcases loads with ⟨dataSource, slo, sli⟩
    rw [<- tables.2.2.1] at dataSource
    rw [<- tables.1] at slo
    rw [<- tables.2.1] at sli
    exact ⟨dataSource, slo, sli⟩

theorem Starts.variables (starts : inputs.Starts next row) :
    snapshotVariables (snapshotOf next row) inputs.sloDef = inputs.workerVariables := by
  rcases starts.stored with ⟨evaluationName, periodStart, periodEnd, assetSnapshot, stored⟩
  unfold snapshotVariables snapshotOf workerVariables
  simp only [evaluationName, periodStart, periodEnd, assetSnapshot, stored]

theorem Starts.prepared_iff (starts : inputs.Starts next row) (raw : inputs.sliDef.mode = .raw)
    (slo : SLO) (query : AdapterQuery) :
    prepareQuery (snapshotOf next row) inputs.sloDef inputs.sliDef inputs.datasource =
        .ok (slo, query) ↔
      buildSloModel inputs.sloDef = .ok slo ∧
      (forall entry, entry ∈ inputs.sliDef.indicators.entries ->
        AllDefined inputs.workerVariables (templatePieces entry.2)) ∧
      query = inputs.workerQuery := by
  have periodStart : (snapshotOf next row).periodStart = inputs.request.periodStart :=
    starts.stored.periodStart
  have periodEnd : (snapshotOf next row).periodEnd = inputs.request.periodEnd :=
    starts.stored.periodEnd
  rw [prepareQuery_eq_ok raw, starts.variables, periodStart, periodEnd]
  rfl

section Evaluations

variable {slo : SLO} {evalResult : EvaluationResult} {table : Evaluations}

theorem limit_of_built (built : buildSloModel inputs.sloDef = .ok slo) :
    slo.comparison.numberOfComparisonResults = inputs.limit := by
  have validated := (buildSlo_eq_ok built).2.1
  unfold StoredComparison.validate at validated
  split at validated
  · rw [<- Except.ok.inj validated]
    rfl
  · cases validated
  · cases validated
  · cases validated

theorem Starts.answered (starts : inputs.Starts next row) (raw : inputs.sliDef.mode = .raw)
    (scored : jobOutcome inputs.sloDef (fetchAndEvaluate table (snapshotOf next row)
      inputs.sloDef inputs.sliDef inputs.datasource
      fun query => inputs.adapter (.specs query)) = some evalResult) :
    EngineReads inputs.sloDef ∧
      Exists fun values => Exists fun errors => inputs.WorkerAnswered values errors := by
  cases fetched : fetchAndEvaluate table (snapshotOf next row) inputs.sloDef inputs.sliDef
      inputs.datasource fun query => inputs.adapter (.specs query) with
  | error failure =>
      rw [fetched] at scored
      cases scored
  | ok result =>
      cases result with
      | none =>
          rw [fetched] at scored
          cases scored
      | some fetchResult =>
          rw [fetched] at scored
          unfold jobOutcome at scored
          dsimp only at scored
          split at scored
          · rename_i distinct
            rcases fetchAndEvaluate_some_iff.mp fetched with
              ⟨slo, query, values, errors, prepared, answered, evaluated⟩
            rcases (starts.prepared_iff raw slo query).mp prepared with ⟨built, defined, isQuery⟩
            rcases bind_eq_ok.mp evaluated with ⟨_, _, evaluated⟩
            rcases bind_eq_ok.mp evaluated with ⟨_, evaluated, _⟩
            exact ⟨engineReads_of_evaluated built (mapError_eq_ok evaluated),
              values, errors, defined, distinct, isQuery ▸ answered⟩
          · cases scored

theorem Starts.scores (starts : inputs.Starts next row) (raw : inputs.sliDef.mode = .raw)
    (sameHistory : table.rows.filter SLOEvaluation.inHistory =
      inputs.db.evaluations.rows.filter SLOEvaluation.inHistory)
    (built : buildSloModel inputs.sloDef = .ok slo) (reads : EngineReads inputs.sloDef)
    {values : Dict (Option ℚ)} {errors : Dict String}
    (answered : inputs.WorkerAnswered values errors) :
    Exists fun evalResult => Exists fun baselines => Exists fun ids =>
      jobOutcome inputs.sloDef (fetchAndEvaluate table (snapshotOf next row) inputs.sloDef
          inputs.sliDef inputs.datasource fun query => inputs.adapter (.specs query)) =
        some evalResult ∧
      evaluate slo (overrideErrored values errors) baselines ids = .ok evalResult ∧
      forall metric, getValue baselines metric =
        baselineOf slo.comparison.aggregateFunction
          (inputs.history slo inputs.sloDef.name (some inputs.request.evalName)) metric := by
  have comparisonName : resolveComparisonName (snapshotOf next row).compareTo
      (snapshotOf next row).evaluationName = inputs.request.evalName := by
    rw [starts.compareTo]
    exact starts.stored.evaluationName
  rcases worker_baselines table slo (snapshotOf next row) inputs.request.evalName with
    ⟨baselines, ids, resolved, aggregated⟩
  rcases reads.evaluated (overrideErrored values errors) baselines ids with
    ⟨other, evalResult, otherBuilt, evaluated⟩
  cases Except.ok.inj (otherBuilt.symm.trans built)
  have fetched : fetchAndEvaluate table (snapshotOf next row) inputs.sloDef inputs.sliDef
      inputs.datasource (fun query => inputs.adapter (.specs query)) = .ok (some {
        evalResult, metricsFetched := overrideErrored values errors, fetchErrors := errors,
        baselines, comparedEvalIds := ids }) := by
    refine fetchAndEvaluate_some_iff.mpr ⟨slo, inputs.workerQuery, values, errors,
      (starts.prepared_iff raw _ _).mpr ⟨built, answered.defined, rfl⟩, answered.answered, ?_⟩
    refine bind_eq_ok.mpr ⟨(baselines, ids), ?_, ?_⟩
    · rw [comparisonName]
      exact resolved
    · refine bind_eq_ok.mpr ⟨evalResult, ?_, rfl⟩
      rw [evaluated]
      rfl
  refine ⟨evalResult, baselines, ids, ?_, evaluated, fun metric => ?_⟩
  · rw [fetched]
    exact if_pos answered.distinct
  · have assetId : (snapshotOf next row).assetId = inputs.asset.id := starts.assetId
    have sloName : (snapshotOf next row).sloName = inputs.sloDef.name := starts.sloName
    have periodStart : (snapshotOf next row).periodStart = inputs.request.periodStart :=
      starts.stored.periodStart
    rw [aggregated metric, getEvaluationBaselines_congr sameHistory, assetId, sloName, periodStart,
      limit_of_built built]
    rfl

end Evaluations

/-! ## What the dry run reads -/

theorem parseSlo_body (inputs : Inputs) :
    parseSlo inputs.body = (buildSloModel inputs.sloDef).mapError .invalidSlo := by
  have sameObjectives : inputs.body.objectives.map dumpObjective =
      inputs.sloDef.objectives.rows.map SLOObjectiveRow.toModel := by
    change (inputs.sloDef.objectives.rows.map bodyObjective).map dumpObjective = _
    rw [List.map_map]
    rfl
  unfold parseSlo buildSloModel
  rw [sameObjectives]
  rfl

theorem historyBaselines_isOk {table : Evaluations} {body : SLOTestRequest} {slo : SLO}
    {sliDef : SLIDefinition} {asset : Asset} {limit : Int} {result : Dict ℚ × Option (Dict ℚ)}
    (resolved : SloTest.resolveBaselines table body slo sliDef asset
      { mode := .assetHistory, limit } = .ok result) : 0 ≤ limit := by
  rcases bind_eq_ok.mp resolved with ⟨pastEvals, found, _⟩
  have found := orRaise_eq_ok.mp found
  by_contra negative
  unfold getEvaluationBaselines latestRows at found
  rw [if_pos (not_le.mp negative)] at found
  cases found

theorem historyBaselines (table : Evaluations) (body : SLOTestRequest) (slo : SLO)
    (sliDef : SLIDefinition) (asset : Asset) {limit : Int} (allowed : 0 ≤ limit) :
    Exists fun baselines => Exists fun compared =>
      SloTest.resolveBaselines table body slo sliDef asset { mode := .assetHistory, limit } =
          .ok (baselines, compared) ∧
        forall metric, baselines.lookup metric =
          if metric ∈ sliDef.indicators then
            baselineOf slo.comparison.aggregateFunction
              ((getEvaluationBaselines table asset.id body.sliName body.periodStart
                slo.comparison.includeResultWithScore limit none).getD []) metric
          else none := by
  have isSome : (getEvaluationBaselines table asset.id body.sliName body.periodStart
      slo.comparison.includeResultWithScore limit none).isSome = true := by
    unfold getEvaluationBaselines latestRows
    rw [if_neg (not_lt.mpr allowed)]
    rfl
  rcases Option.isSome_iff_exists.mp isSome with ⟨pastEvals, found⟩
  unfold SloTest.resolveBaselines
  dsimp only
  rw [found]
  by_cases empty : pastEvals = []
  · refine ⟨∅, none, bind_eq_ok.mpr ⟨pastEvals, rfl, ?_⟩, fun metric => ?_⟩
    · exact if_pos empty
    · rw [Option.getD_some, empty, baselineOf_nil, ite_self]
      rfl
  · rcases addIndicatorBaselines_ok slo.comparison.aggregateFunction pastEvals
      sliDef.indicators.keys ∅ with ⟨baselines, looped, lookups⟩
    refine ⟨baselines, some baselines,
      bind_eq_ok.mpr ⟨pastEvals, rfl, ?_⟩, fun metric => ?_⟩
    · rw [if_neg empty]
      exact bind_eq_ok.mpr ⟨baselines, looped, rfl⟩
    · rw [lookups metric, AList.lookup_empty, Option.or_none, indicatorValues_eq]
      exact if_congr AList.mem_keys.symm rfl rfl

theorem Creates.datasource_found (creates : inputs.Creates next row) :
    inputs.db.dataSources.find inputs.datasource.name = some inputs.datasource := by
  rcases creates.loads.dataSource with ⟨name, _, found⟩
  rw [find_key found]
  exact found

theorem rejectAggregatedMode_eq_ok (sliDef : SLIDefinition) :
    rejectAggregatedMode sliDef = .ok () ↔ sliDef.mode = .raw := by
  unfold rejectAggregatedMode
  cases sliDef.mode with
  | raw => exact ⟨fun _ => rfl, fun _ => rfl⟩
  | aggregated =>
      constructor
      · intro impossible
        cases impossible
      · intro impossible
        cases impossible

theorem Creates.tested_answered (creates : inputs.Creates next row) {outcome : SLOTestResult}
    (tested : inputs.tested = .ok outcome) :
    EngineReads inputs.sloDef ∧
      Exists fun latest => Exists fun values => inputs.TestAnswered latest values := by
  rcases bind_eq_ok.mp tested with ⟨slo, parsed, tested⟩
  rcases bind_eq_ok.mp tested with ⟨latest, found, tested⟩
  rcases bind_eq_ok.mp tested with ⟨_, accepted, tested⟩
  rcases bind_eq_ok.mp tested with ⟨ds, source, tested⟩
  rcases bind_eq_ok.mp tested with ⟨asset, isAsset, tested⟩
  rcases bind_eq_ok.mp tested with ⟨fetched, queried, tested⟩
  rcases bind_eq_ok.mp tested with ⟨baselines, resolved, tested⟩
  rcases bind_eq_ok.mp tested with ⟨evalResult, evaluated, _⟩
  rw [parseSlo_body] at parsed
  have built := mapError_eq_ok parsed
  have source := orRaise_eq_ok.mp source
  have isAsset := orRaise_eq_ok.mp isAsset
  cases Option.some.inj (creates.datasource_found.symm.trans source)
  cases Option.some.inj (creates.asset.symm.trans isAsset)
  refine ⟨engineReads_of_evaluated built (mapError_eq_ok evaluated), latest, ?_⟩
  unfold queryAdapter at queried
  split at queried
  · rename_i values errors answered
    exact ⟨values, orRaise_eq_ok.mp found,
      (rejectAggregatedMode_eq_ok latest).mp accepted, historyBaselines_isOk resolved,
      errors, answered⟩
  · cases queried
  · cases queried
  · cases queried
  · cases queried
  · cases queried

theorem Creates.tested_scores (creates : inputs.Creates next row) {slo : SLO}
    (built : buildSloModel inputs.sloDef = .ok slo) (reads : EngineReads inputs.sloDef)
    {latest : SLIDefinition} {values : Dict (Option ℚ)}
    (answered : inputs.TestAnswered latest values) :
    Exists fun outcome => Exists fun evalResult => Exists fun baselines =>
      inputs.tested = .ok outcome ∧ outcome.result = evalResult.result ∧
      outcome.score = evalResult.score ∧
      outcome.indicatorResults = evalResult.indicatorResults ∧
      evaluate slo (nullable (fetchedMetrics values)) (nullable baselines) [] = .ok evalResult ∧
      forall metric, baselines.lookup metric =
        if metric ∈ latest.indicators then
          baselineOf slo.comparison.aggregateFunction
            (inputs.history slo inputs.sliDef.name none) metric
        else none := by
  rcases answered.answered with ⟨errors, isAnswer⟩
  rcases historyBaselines inputs.db.evaluations inputs.body slo latest inputs.asset answered.limit
    with ⟨baselines, compared, resolved, lookups⟩
  rcases reads.evaluated (nullable (fetchedMetrics values)) (nullable baselines) [] with
    ⟨other, evalResult, otherBuilt, evaluated⟩
  cases Except.ok.inj (otherBuilt.symm.trans built)
  let outcome : SLOTestResult := {
    result := evalResult.result
    score := evalResult.score
    indicatorResults := evalResult.indicatorResults
    baselineMode := .assetHistory
    metricsFetched := fetchedMetrics values
    fetchErrors := errors
    comparedValues := compared }
  refine ⟨outcome, evalResult, baselines, ?_, rfl, rfl, rfl, evaluated, lookups⟩
  refine bind_eq_ok.mpr ⟨slo, ?_, ?_⟩
  · rw [parseSlo_body, built]
    rfl
  refine bind_eq_ok.mpr
    ⟨latest, orRaise_eq_ok.mpr answered.found, ?_⟩
  refine bind_eq_ok.mpr
    ⟨(), (rejectAggregatedMode_eq_ok latest).mpr answered.raw, ?_⟩
  refine bind_eq_ok.mpr
    ⟨inputs.datasource, orRaise_eq_ok.mpr creates.datasource_found, ?_⟩
  refine bind_eq_ok.mpr
    ⟨inputs.asset, orRaise_eq_ok.mpr creates.asset, ?_⟩
  refine bind_eq_ok.mpr ⟨(fetchedMetrics values, errors), ?_, ?_⟩
  · unfold queryAdapter
    have sent : inputs.adapter (.plain (plainQuery inputs.body inputs.datasource
        (SloTest.resolveQueries latest.indicators (buildVariables inputs.body inputs.asset)))) =
        .response values errors := isAnswer
    rw [sent]
  refine bind_eq_ok.mpr ⟨(baselines, compared), resolved, ?_⟩
  refine bind_eq_ok.mpr ⟨evalResult, ?_, rfl⟩
  rw [evaluated]
  rfl

end Inputs

end SloTest
end Tropek
