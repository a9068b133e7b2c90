import Tropek.Worker.Trigger

namespace Tropek
namespace SloTest

open Library Engine Store Registry Worker Fallible

/-!
# The dry run of an SLO

`SLOTestService.run_test` evaluates the SLO of its request body and stores nothing.  It
resolves the SLI, the data source and the asset by name, and from there on it goes the way of
the worker with code of its own: it merges the variables, posts the queries, selects the
baselines, and calls the same engine.

Where it differs from the worker it does so silently.  The latest version of the SLI stands
for the bound one, the variables of the SLO are not among the variables, a query that does not
resolve is sent as a text about the failure, and the history is looked up under the name of
the SLI.
-/

inductive BaselineMode where
  | none
  | assetHistory
  | manual
deriving DecidableEq, Repr

structure BaselineConfig where
  mode : BaselineMode := .none
  limit : Int := 3
  values : Option (Dict ℚ) := none

structure SLOTestRequest where
  objectives : List SLOObjectiveIn
  totalScorePassThreshold : ℚ := 90
  totalScoreWarningThreshold : ℚ := 75
  comparison : StoredComparison := {}
  sliName : String
  dataSourceName : String
  assetName : String
  periodStart : Instant
  periodEnd : Instant
  evaluationName : String := ""
  baseline : Option BaselineConfig := none
  vars : Dict String := ∅

structure SLOTestResult where
  result : EvaluationOutcome
  score : ℚ
  indicatorResults : List IndicatorResult
  baselineMode : BaselineMode
  metricsFetched : Dict ℚ
  fetchErrors : Dict String
  comparedValues : Option (Dict ℚ)

/-- How a dry run of an SLO fails.  `invalidSlo`: `invalid slo`, with the error of the
parser; `aggregatedSli`: `dry runs support raw mode only, not aggregated mode`;
`adapterUnreachable`: `could not reach adapter`, a 502; `adapterTimeout`: `adapter query
timed out`, a 504; `adapterRefused`: a response that is no success, a 502;
`adapterBroken`: a connection that broke off, or a body that cannot be read, and no
handler is there for either of them; `database`: a statement that the database refuses.
-/
inductive SLOTestError where
  | invalidSlo (error : EngineError)
  | sliNotFound (name : String)
  | aggregatedSli (name : String)
  | dataSourceNotFound (name : String)
  | assetNotFound (name : String)
  | adapterUnreachable (adapterUrl : String)
  | adapterTimeout
  | adapterRefused
  | adapterBroken
  | database
  | engine (error : EngineError)
deriving DecidableEq, Repr

/-- The body of a dry run's request to the adapter, with its address and its credential. -/
structure PlainQuery where
  adapterUrl : String
  queries : List (String × String)
  start : String
  finish : String
  token : Option String

/-- What an adapter is asked: the specs of the worker, or the plain texts of a dry run. -/
inductive AdapterRequest where
  | specs (query : AdapterQuery)
  | plain (query : PlainQuery)

/-- `SLOObjectiveIn.model_dump`, as far as the engine reads it. -/
def dumpObjective (objective : SLOObjectiveIn) : SLOObjective :=
  { sli := objective.sli, displayName := objective.displayName, weight := objective.weight,
    keySli := objective.keySli, passThreshold := objective.passThreshold,
    warningThreshold := objective.warningThreshold }

def parseSlo (body : SLOTestRequest) : Except SLOTestError SLO :=
  (buildSlo (body.objectives.map dumpObjective) body.totalScorePassThreshold
    body.totalScoreWarningThreshold body.comparison).mapError .invalidSlo

def getLatestSli (db : Database) (deactivated : List (String × Int)) (name : String) :
    Option SLIDefinition := do
  let active := db.sliDefinitions.rows.filter fun sliDef =>
    sliDef.name = name && !deactivated.contains (sliDef.name, sliDef.version)
  let version <- (active.map (·.version)).max?
  db.sliDefinitions.find (name, version)

def rejectAggregatedMode (sliDef : SLIDefinition) : Except SLOTestError Unit :=
  match sliDef.mode with
  | .aggregated => .error (.aggregatedSli sliDef.name)
  | .raw => .ok ()

/-- `build_variables` without metadata.  An empty name counts as absent. -/
def requestVariables (assetName evaluationName start finish : String) : Dict String :=
  let vars : Dict String := (∅ : Dict String).insert "start" start |>.insert "end" finish
  let vars :=
    if evaluationName = "" then vars
    else (vars.insert "evaluation_name" evaluationName).insert "test_name" evaluationName
  if assetName = "" then vars else vars.insert "asset_name" assetName

/-- The variables of the asset and then its tags fill in what is absent, and the variables of
the request overwrite. -/
def buildVariables (body : SLOTestRequest) (asset : Asset) : Dict String :=
  body.vars ∪ ((requestVariables asset.name body.evaluationName (isoformat body.periodStart)
    (isoformat body.periodEnd) ∪ asset.vars) ∪ asset.tags)

/-- The text of an `UnresolvedVariableError`. -/
def unresolvedText (name : String) (available : List String) : String :=
  "Unresolved variable '$" ++ name ++ "'. Available: [" ++
    String.intercalate ", " (available.map fun known => "'" ++ known ++ "'") ++ "]"

/-- The resolved query, or a text about the failure in its place.  Substitution raises
nothing but unresolved variables. -/
def resolveQuery (vars : Dict String) (entry : Sigma fun _ : String => String) :
    String × String :=
  match substituteVariables entry.2 vars with
  | .ok query => (entry.1, query)
  | .error (.unresolvedVariable name available) =>
      (entry.1, "ERROR: " ++ unresolvedText name available)
  | .error _ => (entry.1, "ERROR: ")

def resolveQueries (indicators : Dict String) (vars : Dict String) : List (String × String) :=
  indicators.entries.map (resolveQuery vars)

def plainQuery (body : SLOTestRequest) (ds : DataSource)
    (resolvedQueries : List (String × String)) : PlainQuery :=
  { adapterUrl := ds.adapterUrl
    queries := resolvedQueries
    start := isoformat body.periodStart
    finish := isoformat body.periodEnd
    token := ds.token.filter (· ≠ "") }

def addFetched (fetched : Dict ℚ) (entry : Sigma fun _ : String => Option ℚ) : Dict ℚ :=
  match entry.2 with
  | none => fetched
  | some value => fetched.insert entry.1 value

def fetchedMetrics (values : Dict (Option ℚ)) : Dict ℚ :=
  values.entries.foldl addFetched ∅

/-- One request, without retries.  A metric with an error keeps the value that the adapter
reports beside the error. -/
def queryAdapter (adapter : AdapterRequest -> AdapterOutcome) (query : PlainQuery) :
    Except SLOTestError (Dict ℚ × Dict String) :=
  match adapter (.plain query) with
  | .response values errors => .ok (fetchedMetrics values, errors)
  | .connectError => .error (.adapterUnreachable query.adapterUrl)
  | .timeout => .error .adapterTimeout
  | .httpStatusError => .error .adapterRefused
  | .readError => .error .adapterBroken
  | .malformed => .error .adapterBroken

/-- The values of an indicator in the past evaluations, in the order of the rows. -/
def indicatorValues (pastEvals : List SLOEvaluation) (indicatorName : String) : List ℚ :=
  pastEvals.flatMap fun ev => ev.indicatorRows.rows.filterMap fun row =>
    if row.objective.sli = indicatorName then row.value else none

def addIndicatorBaseline (function : AggregateFunction) (pastEvals : List SLOEvaluation)
    (baselines : Dict ℚ) (indicatorName : String) : Except SLOTestError (Dict ℚ) :=
  match indicatorValues pastEvals indicatorName with
  | [] => .ok baselines
  | value :: others => do
      let agg <- (aggregateValues (value :: others) function).mapError .engine
      return baselines.insert indicatorName agg

/-- The baselines and the compared values.  The history is that of the SLO with the name of the
SLI, in all its series. -/
def resolveBaselines (table : Evaluations) (body : SLOTestRequest) (slo : SLO)
    (sliDef : SLIDefinition) (asset : Asset) (baselineCfg : BaselineConfig) :
    Except SLOTestError (Dict ℚ × Option (Dict ℚ)) :=
  match baselineCfg.mode with
  | .none => .ok (∅, none)
  | .manual =>
      match baselineCfg.values with
      | none => .ok (∅, none)
      | some values => if values.entries = [] then .ok (∅, none) else .ok (values, some values)
  | .assetHistory => do
      let pastEvals <- orRaise .database (getEvaluationBaselines table asset.id
        body.sliName body.periodStart slo.comparison.includeResultWithScore baselineCfg.limit none)
      if pastEvals = [] then return (∅, none)
      else do
        let baselines <- sliDef.indicators.keys.foldlM
          (addIndicatorBaseline slo.comparison.aggregateFunction pastEvals) ∅
        return (baselines, some baselines)

def nullable (values : Dict ℚ) : Dict (Option ℚ) where
  entries := values.entries.map fun entry => ⟨entry.1, some entry.2⟩
  nodupKeys := by
    unfold List.NodupKeys List.keys
    rw [List.map_map]
    exact values.nodupKeys

/-- `run_test`: parse, look up, query, resolve the baselines and evaluate, with the
first failure as the answer.  Nothing is written. -/
def runTest (db : Database) (deactivated : List (String × Int))
    (adapter : AdapterRequest -> AdapterOutcome) (body : SLOTestRequest) :
    Except SLOTestError SLOTestResult := do
  let slo <- parseSlo body
  let sliDef <- orRaise (.sliNotFound body.sliName)
    (getLatestSli db deactivated body.sliName)
  rejectAggregatedMode sliDef
  let ds <- orRaise (.dataSourceNotFound body.dataSourceName)
    (db.dataSources.find body.dataSourceName)
  let asset <- orRaise (.assetNotFound body.assetName) (findAsset db body.assetName)
  let resolvedQueries := resolveQueries sliDef.indicators (buildVariables body asset)
  let (metricsFetched, fetchErrors) <- queryAdapter adapter (plainQuery body ds resolvedQueries)
  let baselineCfg := body.baseline.getD {}
  let (baselines, comparedValues) <-
    resolveBaselines db.evaluations body slo sliDef asset baselineCfg
  let evalResult <- (evaluate slo (nullable metricsFetched) (nullable baselines) []).mapError
    .engine
  return {
    result := evalResult.result
    score := evalResult.score
    indicatorResults := evalResult.indicatorResults
    baselineMode := baselineCfg.mode
    metricsFetched
    fetchErrors
    comparedValues }

theorem dlookup_nullable (entries : List (Sigma fun _ : String => ℚ)) (metric : String) :
    (entries.map fun entry => (⟨entry.1, some entry.2⟩ : Sigma fun _ : String => Option ℚ)).dlookup
      metric = (entries.dlookup metric).map some := by
  induction entries with
  | nil => rfl
  | cons head rest ih =>
      rcases head with ⟨name, value⟩
      rw [List.map_cons]
      by_cases same : metric = name
      · subst same
        rw [List.dlookup_cons_eq, List.dlookup_cons_eq]
        rfl
      · rw [List.dlookup_cons_ne _ _ same, List.dlookup_cons_ne _ _ same, ih]

theorem getValue_nullable (values : Dict ℚ) (metric : String) :
    getValue (nullable values) metric = values.lookup metric := by
  have looked : (nullable values).lookup metric = (values.lookup metric).map some :=
    dlookup_nullable values.entries metric
  unfold getValue
  rw [looked]
  cases values.lookup metric <;> rfl

theorem lookup_addFetched {entries : List (Sigma fun _ : String => Option ℚ)}
    (nodup : entries.NodupKeys) (fetched : Dict ℚ) (metric : String) :
    (entries.foldl addFetched fetched).lookup metric =
      ((entries.dlookup metric).join).or (fetched.lookup metric) := by
  induction entries generalizing fetched with
  | nil => rfl
  | cons head rest ih =>
      rcases head with ⟨name, value⟩
      rw [List.nodupKeys_cons] at nodup
      rw [List.foldl_cons, ih nodup.2]
      by_cases same : metric = name
      · subst same
        rw [List.dlookup_eq_none.mpr nodup.1, List.dlookup_cons_eq]
        cases value with
        | none => rfl
        | some value => exact AList.lookup_insert fetched
      · rw [List.dlookup_cons_ne _ _ same]
        cases value with
        | none => rfl
        | some value => exact congrArg _ (AList.lookup_insert_ne same)

theorem lookup_fetchedMetrics (values : Dict (Option ℚ)) (metric : String) :
    (fetchedMetrics values).lookup metric = getValue values metric := by
  unfold fetchedMetrics
  rw [lookup_addFetched values.nodupKeys, AList.lookup_empty, Option.or_none]
  rfl

theorem indicatorValues_eq (pastEvals : List SLOEvaluation) (indicatorName : String) :
    indicatorValues pastEvals indicatorName =
      valuesOf indicatorName (pastEvals.flatMap measuredValues) := by
  rw [valuesOf_flatMap]
  unfold indicatorValues valuesOf measuredValues
  simp only [List.filterMap_map, Function.comp_def]

/-- The loop over the indicators never raises, and it leaves an aggregated value for every
indicator that has been measured. -/
theorem addIndicatorBaselines_ok (function : AggregateFunction) (pastEvals : List SLOEvaluation)
    (indicatorNames : List String) (start : Dict ℚ) :
    Exists fun baselines =>
      indicatorNames.foldlM (addIndicatorBaseline function pastEvals) start = .ok baselines ∧
        forall metric, baselines.lookup metric =
          if metric ∈ indicatorNames then
            ((aggregateValues (indicatorValues pastEvals metric) function).toOption).or
              (start.lookup metric)
          else start.lookup metric := by
  induction indicatorNames generalizing start with
  | nil => exact ⟨start, rfl, fun metric => by rw [if_neg List.not_mem_nil]⟩
  | cons name rest ih =>
      have added : Exists fun middle =>
          addIndicatorBaseline function pastEvals start name = .ok middle ∧
            forall metric, middle.lookup metric =
              if metric = name then
                ((aggregateValues (indicatorValues pastEvals metric) function).toOption).or
                  (start.lookup metric)
              else start.lookup metric := by
        unfold addIndicatorBaseline
        cases measured : indicatorValues pastEvals name with
        | nil =>
            refine ⟨start, rfl, fun metric => ?_⟩
            by_cases same : metric = name
            · rw [if_pos same, same, measured]
              rfl
            · rw [if_neg same]
        | cons value others =>
            rcases aggregateValues_ok (List.cons_ne_nil value others) function with
              ⟨agg, aggregated⟩
            refine ⟨start.insert name agg, ?_, fun metric => ?_⟩
            · dsimp only
              rw [aggregated]
              rfl
            · by_cases same : metric = name
              · rw [if_pos same, same, measured, aggregated, AList.lookup_insert]
                rfl
              · rw [if_neg same, AList.lookup_insert_ne same]
      rcases added with ⟨middle, stepped, lookups⟩
      rcases ih middle with ⟨baselines, looped, values⟩
      refine ⟨baselines, ?_, fun metric => ?_⟩
      · rw [List.foldlM_cons]
        exact bind_eq_ok.mpr ⟨middle, stepped, looped⟩
      · rw [values metric, lookups metric]
        by_cases same : metric = name
        · rw [if_pos same, if_pos (List.mem_cons.mpr (Or.inl same))]
          by_cases again : metric ∈ rest
          · rw [if_pos again, <- Option.or_assoc, Option.or_self]
          · rw [if_neg again]
        · simp only [List.mem_cons, same, false_or, if_false]

end SloTest
end Tropek
