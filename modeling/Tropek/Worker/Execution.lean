import Tropek.Registry.Definitions
import Tropek.Store.BaselineRepository

namespace Tropek
namespace Worker

open Library Engine Store Registry Fallible

/-!
# Executing one evaluation

The functions that `run_evaluation_job` calls between its commits.  Phase 1
marks the row as running and then reads it, phase 2 loads the definitions and
scores the metrics that the adapter returned, and phase 3a writes the result
with its indicator rows.

The adapter is outside the repository.  It appears as a function from the
query that the worker sends to one of the outcomes that the client lets
through, after its retries.  Logging, caches, annotations and the hypertable of
SLI values are left out: no decision of these functions reads them.
-/

structure EvaluationSnapshot where
  evalId : Nat
  parentRunId : Nat
  sloName : String
  sloVersion : Option Int
  sliName : Option String
  sliVersion : Option Int
  dataSourceName : Option String
  evaluationName : String
  periodStart : Instant
  periodEnd : Instant
  assetSnapshot : AssetSnapshot
  assetId : Nat
  vars : Dict String
  compareTo : Option (Dict String)

/-- The snapshot of a row, with the `compare_to` of its parent run. -/
def snapshotOf (db : Database) (evaluation : SLOEvaluation) : EvaluationSnapshot :=
  { evalId := evaluation.id
    parentRunId := evaluation.evaluationId
    sloName := evaluation.sloName
    sloVersion := evaluation.sloVersion
    sliName := evaluation.sliName
    sliVersion := evaluation.sliVersion
    dataSourceName := evaluation.dataSourceName
    evaluationName := evaluation.evaluationName
    periodStart := evaluation.periodStart
    periodEnd := evaluation.periodEnd
    assetSnapshot := evaluation.assetSnapshot
    assetId := evaluation.assetId
    vars := evaluation.vars
    compareTo := (db.runs.find evaluation.evaluationId).bind (·.compareTo) }

/-- Phase 1.  The row is marked as running before it is read, so the guard
against processed evaluations looks at the status that was just written. -/
def loadEvaluationSnapshot (db : Database) (now : Instant) (evalId : Nat)
    (workerId : Option String) : Database × Option EvaluationSnapshot :=
  let db := { db with evaluations := markRunning db.evaluations evalId now workerId }
  match db.evaluations.find evalId with
  | none => (db, none)
  | some evaluation =>
      if evaluation.status ≠ .pending ∧ evaluation.status ≠ .running then (db, none)
      else (db, some (snapshotOf db evaluation))

/-- Load the two definitions.  The error is the text of `DefinitionLoadError`. -/
def loadDefinitions (db : Database) (evaluation : EvaluationSnapshot) :
    Except String (SLODefinition × SLIDefinition) := do
  let sloVersion <- orRaise "evaluation has no slo_name or slo_version" evaluation.sloVersion
  let sloDef <- orRaise s!"slo '{evaluation.sloName}' v{sloVersion} not found"
    (db.sloDefinitions.find (evaluation.sloName, sloVersion))
  let sliName <- orRaise "evaluation has no sli_name or sli_version" evaluation.sliName
  let sliVersion <- orRaise "evaluation has no sli_name or sli_version" evaluation.sliVersion
  let sliDef <- orRaise s!"sli '{sliName}' v{sliVersion} not found"
    (db.sliDefinitions.find (sliName, sliVersion))
  return (sloDef, sliDef)

/-- The exceptions that leave a phase of the job.  `malformedResponse`: a response body
that is not the JSON shape of an adapter response; `database`: a statement that the
database refuses. -/
inductive WorkerError where
  | engine (error : EngineError)
  | registry (error : RegistryError)
  | malformedResponse
  | database
deriving DecidableEq, Repr

inductive QuerySpec where
  | raw (query : String)
  | aggregated (queryTemplate : String) (interval : Option String) (methods : Option (List String))
deriving DecidableEq, Repr

structure AdapterQuery where
  adapterUrl : String
  datasourceName : String
  queries : List (String × QuerySpec)
  vars : Dict String
  start : String
  finish : String
  token : Option String

/-- What a query can come back with.  The last four are the exceptions that the
worker catches. -/
inductive AdapterOutcome where
  | response (values : Dict (Option ℚ)) (errors : Dict String)
  | malformed
  | connectError
  | readError
  | timeout
  | httpStatusError

def snapshotVariables (evaluation : EvaluationSnapshot) (sloDef : SLODefinition) : Dict String :=
  buildEvalVariables evaluation.assetSnapshot.name evaluation.evaluationName
    (isoformat evaluation.periodStart) (isoformat evaluation.periodEnd)
    evaluation.assetSnapshot.vars evaluation.assetSnapshot.tags sloDef.vars evaluation.vars

def resolveQuery (vars : Dict String) (entry : Sigma fun _ : String => String) :
    Except EngineError (String × String) := do
  let query <- substituteVariables entry.2 vars
  return (entry.1, query)

/-- In raw mode the queries are resolved locally; in aggregated mode none is. -/
def resolveQueries (sliDef : SLIDefinition) (vars : Dict String) :
    Except EngineError (List (String × String)) :=
  match sliDef.mode with
  | .raw => sliDef.indicators.entries.mapM (resolveQuery vars)
  | .aggregated => .ok []

def buildQuerySpecs (sliDef : SLIDefinition) (resolvedQueries : List (String × String)) :
    Except WorkerError (List (String × QuerySpec)) :=
  match sliDef.mode with
  | .aggregated => do
      let templates <- (buildAggregatedTemplates sliDef).mapError .registry
      return templates.map fun (specKey, template) =>
        (specKey, .aggregated template sliDef.interval sliDef.methods)
  | .raw => .ok (resolvedQueries.map fun (name, query) => (name, .raw query))

def overrideErrored (metricsFetched : Dict (Option ℚ)) (fetchErrors : Dict String) :
    Dict (Option ℚ) :=
  fetchErrors.keys.foldl (fun metrics name => metrics.insert name none) metricsFetched

def resolveComparisonName (compareTo : Option (Dict String)) (evalName : String) : String :=
  match compareTo with
  | none => evalName
  | some comparison => (comparison.lookup "evaluation_name").getD evalName

def resolveBaselines (table : Evaluations) (slo : SLO) (evaluation : EvaluationSnapshot)
    (evaluationName : String) : Except WorkerError (Dict (Option ℚ) × List Nat) :=
  if slo.comparison.numberOfComparisonResults ≤ 0 then .ok (∅, [])
  else
    match getEvaluationBaselines table evaluation.assetId evaluation.sloName
        evaluation.periodStart slo.comparison.includeResultWithScore
        slo.comparison.numberOfComparisonResults (some evaluationName) with
    | none => .error .database
    | some baselineEvals =>
        (computeBaselines baselineEvals slo.comparison.aggregateFunction).mapError .engine

structure FetchAndEvaluateResult where
  evalResult : EvaluationResult
  metricsFetched : Dict (Option ℚ)
  fetchErrors : Dict String
  baselines : Dict (Option ℚ)
  comparedEvalIds : List Nat

def evaluateResponse (table : Evaluations) (snapshot : EvaluationSnapshot) (slo : SLO)
    (values : Dict (Option ℚ)) (errors : Dict String) :
    Except WorkerError FetchAndEvaluateResult := do
  let metricsFetched := overrideErrored values errors
  let comparisonName := resolveComparisonName snapshot.compareTo snapshot.evaluationName
  let (baselines, comparedEvalIds) <- resolveBaselines table slo snapshot comparisonName
  let evalResult <- (evaluate slo metricsFetched baselines comparedEvalIds).mapError .engine
  return { evalResult, metricsFetched, fetchErrors := errors, baselines, comparedEvalIds }

def prepareQuery (snapshot : EvaluationSnapshot) (sloDef : SLODefinition) (sliDef : SLIDefinition)
    (datasource : DataSource) : Except WorkerError (SLO × AdapterQuery) := do
  let slo <- (buildSloModel sloDef).mapError .engine
  let vars := snapshotVariables snapshot sloDef
  let resolvedQueries <- (resolveQueries sliDef vars).mapError .engine
  let queries <- buildQuerySpecs sliDef resolvedQueries
  return (slo, {
    adapterUrl := datasource.adapterUrl
    datasourceName := datasource.name
    queries
    vars
    start := isoformat snapshot.periodStart
    finish := isoformat snapshot.periodEnd
    token := datasource.token })

/-- Phase 2b.  The result is null when the adapter query failed with one of the
exceptions that are caught. -/
def fetchAndEvaluate (table : Evaluations) (snapshot : EvaluationSnapshot)
    (sloDef : SLODefinition) (sliDef : SLIDefinition) (datasource : DataSource)
    (adapter : AdapterQuery -> AdapterOutcome) :
    Except WorkerError (Option FetchAndEvaluateResult) := do
  let (slo, query) <- prepareQuery snapshot sloDef sliDef datasource
  match adapter query with
  | .response values errors =>
      let fetched <- evaluateResponse table snapshot slo values errors
      return some fetched
  | .malformed => .error .malformedResponse
  | .connectError | .readError | .timeout | .httpStatusError => return none

/-- The values that phase 3a hands to `mark_completed`. -/
def completedValues (snapshot : EvaluationSnapshot) (sloDef : SLODefinition)
    (fetchResult : FetchAndEvaluateResult) : CompletedValues :=
  { result := .ofOutcome fetchResult.evalResult.result
    score := fetchResult.evalResult.score
    achievedPoints :=
      some (fetchResult.evalResult.indicatorResults.map (roundHalfEven ·.score)).sum
    totalPoints := some (sloDef.objectives.rows.map (·.weight)).sum
    sloName := some snapshot.sloName
    sloVersion := snapshot.sloVersion
    jobStats := {
      fetchErrors := some (fetchResult.fetchErrors.entries.map fun entry => (entry.1, entry.2))
      totalScorePassThreshold := some sloDef.totalScorePassThreshold
      totalScoreWarningThreshold := some sloDef.totalScoreWarningThreshold }
    comparedEvaluationIds := some fetchResult.comparedEvalIds }

def insertIndicatorRows (table : Evaluations) (evalId : Nat) (rows : List IndicatorResultRow) :
    Option Evaluations :=
  match table.find evalId with
  | none => none
  | some evaluation =>
      (bulkInsert evaluation.indicatorRows rows).map fun indicatorRows =>
        table.update evalId (SLOEvaluation.setIndicatorRows indicatorRows)
          (SLOEvaluation.setIndicatorRows_id indicatorRows)

def writeResults (db : Database) (snapshot : EvaluationSnapshot) (sloDef : SLODefinition)
    (fetchResult : FetchAndEvaluateResult) : Option Database :=
  let completed :=
    markCompleted db.evaluations snapshot.evalId (completedValues snapshot sloDef fetchResult)
  let rows := buildIndicatorRows sloDef fetchResult.evalResult.indicatorResults
  if rows = [] then some { db with evaluations := completed }
  else
    (insertIndicatorRows completed snapshot.evalId rows).map fun evaluations =>
      { db with evaluations }

end Worker
end Tropek
