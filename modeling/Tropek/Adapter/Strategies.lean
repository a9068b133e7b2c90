import Tropek.Adapter.Jobs

namespace Tropek
namespace Adapter

open Library Engine Registry Fallible

/-!
# Query strategies

The two strategies of the Prometheus adapter.  A raw query is sent as it is, for one
value; an aggregated one is sent as a range query, for one value a method.  Both
substitute the variables of the job into the query first.

What Prometheus answers is an argument.  It is a value, a failure that the client reports
as a `PrometheusQueryError`, or any other exception.
-/

def isDottedChar (c : Char) : Bool :=
  isNameChar c || c == '.'

/-- The matches of `_VAR_PATTERN`, with the text between them. -/
def dottedPieces (template : String) : List Piece :=
  scanPieces isDottedChar .outside template.toList

def Piece.name? : Piece -> Option String
  | .text _ => none
  | .placeholder name => some name

/-- `f'{seconds}s'`, with the seconds rounded up. -/
def durationSeconds (start finish : Instant) : String :=
  toString (-((start - finish) / 1000000)) ++ "s"

def mergedVariables (vars : Dict String) (interval : Option String) (start finish : Instant) :
    Dict String :=
  let merged := match interval with
    | none => vars
    | some interval => vars.insert "interval" interval
  if "DURATION_SECONDS" ∈ merged then merged
  else merged.insert "DURATION_SECONDS" (durationSeconds start finish)

def unresolvedNames (merged : Dict String) (pieces : List Piece) : List String :=
  (((pieces.filterMap Piece.name?).filter (· ∉ merged)).dedup).insertionSort (· ≤ ·)

def unresolvedMessage (names : List String) : String :=
  "unresolved variables: " ++ ", ".intercalate (names.map ("$" ++ ·))

def replaceWith (merged : Dict String) : Piece -> String
  | .text c => String.singleton c
  | .placeholder name => (merged.lookup name).getD ("$" ++ name)

def substitute (template : String) (vars : Dict String) (interval : Option String)
    (start finish : Instant) : Except String String :=
  let merged := mergedVariables vars interval start finish
  let pieces := dottedPieces template
  if unresolvedNames merged pieces ≠ [] then
    .error (unresolvedMessage (unresolvedNames merged pieces))
  else .ok (String.join (pieces.map (replaceWith merged)))

inductive InstantAnswer where
  | value (value : ℚ)
  | queryError (message : String)
  | raised (message : String)

/-- The statistics of the samples and what is reported about them.  A failed chunk is
among the latter. -/
inductive RangeAnswer where
  | fetched (stats : AggregationMethod -> Option ℚ) (metadata : QueryMetadata)
  | raised (message : String)

structure PrometheusClient where
  instantQuery : String -> InstantAnswer
  fetchRange : String -> RangeAnswer

def single {α : Type} (name : String) (value : α) : Dict α :=
  (∅ : Dict α).insert name value

def answerRaw (sliName : String) : InstantAnswer -> StrategyOutcome
  | .value value => .answered (single sliName (some value)) ∅ none
  | .queryError message => .answered (single sliName none) (single sliName message) none
  | .raised message => .raised message

/-- The strategy for single values: one instant query, whose value is stored under the
name of the SLI.  A template that does not resolve is reported as the error of that
name. -/
def executeRaw (client : PrometheusClient) (sliName : String) (spec : SpecDict)
    (vars : Dict String) (start finish : Instant) : StrategyOutcome :=
  match spec.query with
  | none => .raised "KeyError: 'query'"
  | some template =>
      match substitute template vars none start finish with
      | .error message => .answered (single sliName none) (single sliName message) none
      | .ok query => answerRaw sliName (client.instantQuery query)

def allMethods : List AggregationMethod :=
  [.min, .mean, .max, .std, .sum, .median, .p75, .p90, .p95, .p99]

def parseMethod (name : String) : Option AggregationMethod :=
  allMethods.find? (·.name = name)

/-- `f'{sli_name}.{method}'`. -/
def methodKey (sliName : String) (method : AggregationMethod) : String :=
  sliName ++ "." ++ method.name

def byMethod {α : Type} (sliName : String) (methods : List AggregationMethod)
    (valueOf : AggregationMethod -> α) : Dict α :=
  methods.foldl (fun dict method => dict.insert (methodKey sliName method) (valueOf method)) ∅

def failAll (sliName : String) (methods : List AggregationMethod) (message : String) :
    StrategyOutcome :=
  .answered (byMethod sliName methods fun _ => none) (byMethod sliName methods fun _ => message) none

def aggregate (sliName : String) (methods : List AggregationMethod) : RangeAnswer -> StrategyOutcome
  | .raised message => .raised message
  | .fetched stats metadata =>
      .answered (byMethod sliName methods stats)
        (byMethod sliName (methods.filter fun method => (stats method).isNone) fun _ =>
          "no valid data points") (some metadata)

def invalidWindow (start finish : Instant) : String :=
  s!"window end must be after start: start={isoformat start} end={isoformat finish}"

/-- `[AggregationMethod(m) for m in method_strings]`. -/
def parseMethods (names : List String) : Except String (List AggregationMethod) :=
  names.mapM fun name =>
    orRaise s!"ValueError: '{name}' is not a valid AggregationMethod" (parseMethod name)

def aggregatedSpec (spec : SpecDict) : Except String (String × String × List AggregationMethod) := do
  let queryTemplate <- orRaise "KeyError: 'query_template'" spec.queryTemplate
  let interval <- orRaise "KeyError: 'interval'" spec.interval
  let methodStrings <- orRaise "KeyError: 'methods'" spec.methods
  let methods <- parseMethods methodStrings
  return (queryTemplate, interval, methods)

/-- The strategy for aggregated values: one range fetch, over which every method is
computed.  A window that ends before it starts, a template that does not resolve and a
failed fetch are reported under each `{sli}.{method}`; a spec that lacks a field raises.
-/
def executeAggregated (client : PrometheusClient) (sliName : String) (spec : SpecDict)
    (vars : Dict String) (start finish : Instant) : StrategyOutcome :=
  match aggregatedSpec spec with
  | .error message => .raised message
  | .ok (queryTemplate, interval, methods) =>
      if finish ≤ start then failAll sliName methods (invalidWindow start finish)
      else
        match substitute queryTemplate vars (some interval) start finish with
        | .error message => failAll sliName methods message
        | .ok query => aggregate sliName methods (client.fetchRange query)

def execute (client : PrometheusClient) (sliName : String) (spec : SpecDict) (vars : Dict String)
    (start finish : Instant) : StrategyOutcome :=
  if spec.modeName = "aggregated" then executeAggregated client sliName spec vars start finish
  else executeRaw client sliName spec vars start finish

/-- The writes of `_run_query` for a job that is not cancelled. -/
def runQueryCalls (client : PrometheusClient) (sliName : String) (spec : SpecDict)
    (vars : Dict String) (start finish : Instant) : List ResultCall :=
  if spec.isSupported then recordCalls sliName spec (execute client sliName spec vars start finish)
  else unsupportedCalls sliName spec

def receivedSpec : Worker.QuerySpec -> SpecDict
  | .raw query => { mode := some "raw", query := some query }
  | .aggregated queryTemplate interval methods =>
      { mode := some "aggregated", queryTemplate := some queryTemplate, interval, methods }

def ResultCall.indicator? : ResultCall -> Option String
  | .setResult indicator _ => some indicator
  | .count _ => none
  | .setMetadata _ _ => none

/-- The names of the methods are the values of `AggregationMethod`. -/
theorem parseMethod_name (method : AggregationMethod) : parseMethod method.name = some method := by
  cases method <;> decide

theorem parseMethods_names (methods : List AggregationMethod) :
    parseMethods (methods.map AggregationMethod.name) = .ok methods := by
  unfold parseMethods
  rw [mapM_eq_ok, List.forall₂_map_left_iff]
  apply List.forall₂_same.mpr
  intro method _
  exact orRaise_eq_ok.mpr (parseMethod_name method)

theorem aggregatedSpec_received (template interval : String) (methods : List AggregationMethod) :
    aggregatedSpec (receivedSpec (.aggregated template (some interval)
      (some (methods.map AggregationMethod.name)))) = .ok (template, interval, methods) := by
  change (parseMethods (methods.map AggregationMethod.name) >>= fun parsed =>
    .ok (template, interval, parsed)) = _
  rw [parseMethods_names]
  rfl

theorem receivedSpec_isSupported (spec : Worker.QuerySpec) :
    (receivedSpec spec).isSupported = true := by
  cases spec <;> simp [receivedSpec, SpecDict.isSupported, SpecDict.modeName]

theorem runQueryCalls_received (client : PrometheusClient) (sliName : String)
    (spec : Worker.QuerySpec) (vars : Dict String) (start finish : Instant) :
    runQueryCalls client sliName (receivedSpec spec) vars start finish =
      recordCalls sliName (receivedSpec spec)
        (execute client sliName (receivedSpec spec) vars start finish) := by
  unfold runQueryCalls
  rw [receivedSpec_isSupported]
  rfl

theorem execute_raw (client : PrometheusClient) (sliName query : String) (vars : Dict String)
    (start finish : Instant) :
    execute client sliName (receivedSpec (.raw query)) vars start finish =
      executeRaw client sliName (receivedSpec (.raw query)) vars start finish := by
  simp [execute, receivedSpec, SpecDict.modeName]

theorem execute_aggregated (client : PrometheusClient) (sliName template : String)
    (interval : Option String) (methods : Option (List String)) (vars : Dict String)
    (start finish : Instant) :
    execute client sliName (receivedSpec (.aggregated template interval methods)) vars start
        finish =
      executeAggregated client sliName (receivedSpec (.aggregated template interval methods))
        vars start finish := by
  simp [execute, receivedSpec, SpecDict.modeName]

end Adapter
end Tropek
