import Tropek.Adapter.Strategies

namespace Tropek
namespace Adapter

open Library Engine Store Registry Worker Fallible

/-!
# Names of results

The registry derives the metric names of an SLI definition, the worker derives the keys
of its query specs, and the adapter derives the names that it reports results under.
They agree for every answer of Prometheus that the client returns or reports as a
`PrometheusQueryError`.  Any other exception inside the aggregated strategy makes the
coordinator report one result under the spec key, without a method.
-/

def namesOf (calls : List ResultCall) : List String :=
  calls.filterMap ResultCall.indicator?

def reportedNames (clients : String -> PrometheusClient) (queries : List (String × QuerySpec))
    (vars : Dict String) (start finish : Instant) : List String :=
  namesOf (queries.flatMap fun query =>
    runQueryCalls (clients query.1) query.1 (receivedSpec query.2) vars start finish)

def Interrupted (client : PrometheusClient) (spec : QuerySpec) (vars : Dict String)
    (start finish : Instant) : Prop :=
  match spec with
  | .raw _ => False
  | .aggregated template interval _ =>
      start < finish ∧ Exists fun sent => Exists fun message =>
        substitute template vars interval start finish = .ok sent ∧
          client.fetchRange sent = .raised message

theorem namesOf_answered (sliName : String) (spec : SpecDict) (values : Dict (Option ℚ))
    (errors : Dict String) (metadata : Option QueryMetadata) :
    namesOf (recordCalls sliName spec (.answered values errors metadata)) = values.keys := by
  have metadataNames : namesOf (metadata.toList.map (ResultCall.setMetadata sliName)) = [] := by
    cases metadata <;> rfl
  have resultNames : forall entries : List (Sigma fun _ : String => Option ℚ),
      namesOf (entries.flatMap fun entry =>
        writeResult entry.1 entry.2 (errors.lookup entry.1).isNone
          ((errors.lookup entry.1).getD "") spec.queryExecuted) = entries.map Sigma.fst := by
    intro entries
    induction entries with
    | nil => rfl
    | cons entry rest ih => exact congrArg (List.cons entry.1) ih
  calc
    namesOf (recordCalls sliName spec (.answered values errors metadata))
        = namesOf (values.entries.flatMap fun entry =>
            writeResult entry.1 entry.2 (errors.lookup entry.1).isNone
              ((errors.lookup entry.1).getD "") spec.queryExecuted) ++
          namesOf (metadata.toList.map (ResultCall.setMetadata sliName)) := List.filterMap_append
    _ = values.keys := by
      rw [resultNames, metadataNames, List.append_nil]
      rfl

theorem namesOf_raw (client : PrometheusClient) (sliName query : String) (vars : Dict String)
    (start finish : Instant) :
    namesOf (runQueryCalls client sliName (receivedSpec (.raw query)) vars start finish) =
      [sliName] := by
  have oneName : forall value : Option ℚ, (single sliName value).keys = [sliName] := by
    intro value
    rfl
  rw [runQueryCalls_received, execute_raw]
  unfold executeRaw
  dsimp only [receivedSpec]
  cases substitute query vars none start finish with
  | error message => rw [namesOf_answered, oneName]
  | ok sent =>
      dsimp only
      cases client.instantQuery sent with
      | value value => exact (namesOf_answered _ _ _ _ _).trans (oneName _)
      | queryError message => exact (namesOf_answered _ _ _ _ _).trans (oneName _)
      | raised message => rfl

theorem mem_foldl_insert {α : Type} (sliName : String) (methods : List AggregationMethod)
    (valueOf : AggregationMethod -> α) (dict : Dict α) (name : String) :
    name ∈ methods.foldl (fun dict method => dict.insert (methodKey sliName method) (valueOf method))
        dict ↔
      name ∈ dict ∨ name ∈ methods.map (methodKey sliName) := by
  induction methods generalizing dict with
  | nil => simp
  | cons method rest ih =>
      rw [List.foldl_cons, ih, AList.mem_insert, List.map_cons, List.mem_cons]
      tauto

theorem mem_byMethod {α : Type} (sliName : String) (methods : List AggregationMethod)
    (valueOf : AggregationMethod -> α) (name : String) :
    name ∈ (byMethod sliName methods valueOf).keys ↔ name ∈ methods.map (methodKey sliName) := by
  have inserted := mem_foldl_insert sliName methods valueOf ∅ name
  simp only [AList.notMem_empty, false_or] at inserted
  exact AList.mem_keys.symm.trans inserted

/-- An aggregated query has a name for each method, unless the strategy is interrupted. -/
theorem mem_namesOf_aggregated (client : PrometheusClient) (sliName template interval : String)
    (methods : List AggregationMethod) (vars : Dict String) (start finish : Instant)
    (name : String) :
    let spec := QuerySpec.aggregated template (some interval)
      (some (methods.map AggregationMethod.name))
    (name ∈ namesOf (runQueryCalls client sliName (receivedSpec spec) vars start finish)) ↔
      (Interrupted client spec vars start finish ∧ name = sliName) ∨
        (¬ Interrupted client spec vars start finish ∧ name ∈ methods.map (methodKey sliName)) := by
  intro spec
  rw [runQueryCalls_received, execute_aggregated]
  unfold executeAggregated
  rw [aggregatedSpec_received]
  dsimp only
  by_cases inverted : finish ≤ start
  · have uninterrupted : ¬ Interrupted client spec vars start finish := by
      rintro ⟨ordered, _⟩
      exact absurd ordered (not_lt.mpr inverted)
    rw [if_pos inverted]
    unfold failAll
    rw [namesOf_answered, mem_byMethod]
    simp [uninterrupted]
  · rw [if_neg inverted]
    cases substituted : substitute template vars (some interval) start finish with
    | error message =>
        have uninterrupted : ¬ Interrupted client spec vars start finish := by
          rintro ⟨_, sent, _, isSent, _⟩
          rw [substituted] at isSent
          cases isSent
        dsimp only [failAll]
        rw [namesOf_answered, mem_byMethod]
        simp [uninterrupted]
    | ok query =>
        dsimp only
        cases answer : client.fetchRange query with
        | raised message =>
            have interrupted : Interrupted client spec vars start finish :=
              ⟨not_le.mp inverted, query, message, substituted, answer⟩
            change name ∈ [sliName] ↔ _
            simp [interrupted]
        | fetched stats metadata =>
            have uninterrupted : ¬ Interrupted client spec vars start finish := by
              rintro ⟨_, sent, message, isSent, isRaised⟩
              rw [substituted] at isSent
              cases isSent
              rw [answer] at isRaised
              cases isRaised
            dsimp only [aggregate]
            rw [namesOf_answered, mem_byMethod]
            simp [uninterrupted]

theorem mem_reportedNames (clients : String -> PrometheusClient)
    (queries : List (String × QuerySpec)) (vars : Dict String) (start finish : Instant)
    (name : String) :
    name ∈ reportedNames clients queries vars start finish ↔
      Exists fun query => query ∈ queries ∧ name ∈ namesOf
        (runQueryCalls (clients query.1) query.1 (receivedSpec query.2) vars start finish) := by
  unfold reportedNames namesOf
  rw [List.filterMap_flatMap, List.mem_flatMap]

variable {sliDef : SLIDefinition} {resolved templates : List (String × String)}
  {queries : List (String × QuerySpec)}

theorem prepareQuery_queries {snapshot : EvaluationSnapshot} {sloDef : SLODefinition}
    {datasource : DataSource} {slo : SLO} {query : AdapterQuery}
    (prepared : prepareQuery snapshot sloDef sliDef datasource = .ok (slo, query)) :
    Exists fun resolved =>
      resolveQueries sliDef (snapshotVariables snapshot sloDef) = .ok resolved ∧
        buildQuerySpecs sliDef resolved = .ok query.queries := by
  rcases bind_eq_ok.mp prepared with ⟨_, _, prepared⟩
  rcases bind_eq_ok.mp prepared with ⟨resolved, resolving, prepared⟩
  rcases bind_eq_ok.mp prepared with ⟨queries, built, prepared⟩
  cases prepared
  exact ⟨resolved, mapError_eq_ok resolving, built⟩

theorem resolveQueries_names {vars : Dict String} (isRaw : sliDef.mode = .raw)
    (resolving : resolveQueries sliDef vars = .ok resolved) :
    resolved.map Prod.fst = sliDef.indicators.keys := by
  unfold resolveQueries at resolving
  rw [isRaw] at resolving
  have related := mapM_eq_ok.mp resolving
  have sameNames : List.Forall₂ (fun name (entry : Sigma fun _ : String => String) =>
      name = entry.1) (resolved.map Prod.fst) sliDef.indicators.entries := by
    rw [List.forall₂_map_left_iff]
    refine related.flip.imp fun output input resolvedEntry => ?_
    rcases bind_eq_ok.mp resolvedEntry with ⟨_, _, same⟩
    cases same
    rfl
  exact List.forall₂_eq_eq_eq ▸ (List.forall₂_map_right_iff.mpr sameNames)

theorem notMem_of_isIdentifierKey {key : String} (identifier : isIdentifierKey key = true) :
    '.' ∉ key.toList := by
  unfold isIdentifierKey at identifier
  cases chars : key.toList with
  | nil => exact List.not_mem_nil
  | cons first rest =>
      rw [chars] at identifier
      simp only [Bool.and_eq_true, List.all_eq_true] at identifier
      intro dotted
      rcases List.mem_cons.mp dotted with first | later
      · subst first
        exact absurd identifier.1.1 (by decide)
      · exact absurd (identifier.1.2 '.' later) (by decide)

theorem specKey_ne (accepted : Accepted sliDef)
    (built : buildAggregatedTemplates sliDef = .ok templates) {template other : String × String}
    (present : template ∈ templates) (otherPresent : other ∈ templates) (method : String) :
    template.1 ≠ other.1 ++ "." ++ method := by
  intro same
  unfold buildAggregatedTemplates at built
  split at built
  · cases built
    rcases List.mem_map.mp present with ⟨entry, member, rfl⟩
    apply notMem_of_isIdentifierKey (accepted.indicatorNames member)
    change '.' ∈ (entry.1).toList
    rw [show entry.1 = _ from same]
    simp
  · split at built
    · cases built
    · cases built
      cases List.mem_singleton.mp present
      cases List.mem_singleton.mp otherPresent
      have lengths := congrArg String.length same
      have dot : ".".length = 1 := rfl
      simp only [String.length_append] at lengths
      omega

theorem aggregated_queries (isAggregated : sliDef.mode = .aggregated)
    (templatesBuilt : buildAggregatedTemplates sliDef = .ok templates)
    (built : buildQuerySpecs sliDef resolved = .ok queries) :
    queries = templates.map fun template =>
      (template.1, .aggregated template.2 sliDef.interval sliDef.methods) := by
  unfold buildQuerySpecs at built
  rw [isAggregated, templatesBuilt] at built
  cases built
  rfl

theorem raw_queries (isRaw : sliDef.mode = .raw)
    (built : buildQuerySpecs sliDef resolved = .ok queries) :
    queries = resolved.map fun entry => (entry.1, .raw entry.2) := by
  unfold buildQuerySpecs at built
  rw [isRaw] at built
  cases built
  rfl

/-- The metric names of an accepted aggregated SLI: its spec keys with each of its methods. -/
theorem mem_aggregatedKeys {methods : List AggregationMethod}
    (isAggregated : sliDef.mode = .aggregated) (nonempty : methods ≠ [])
    (areMethods : sliDef.methods = some (methods.map AggregationMethod.name))
    (templatesBuilt : buildAggregatedTemplates sliDef = .ok templates) :
    Exists fun keys => buildIndicatorKeys sliDef = .ok keys ∧ forall name, name ∈ keys ↔
      Exists fun template => template ∈ templates ∧ name ∈ methods.map (methodKey template.1) := by
  refine ⟨templates.flatMap fun template =>
    (methods.map AggregationMethod.name).map fun method => template.1 ++ "." ++ method, ?_, ?_⟩
  · unfold buildIndicatorKeys
    rw [isAggregated, areMethods, templatesBuilt]
    dsimp only [Option.getD_some]
    rw [if_neg (by simpa using nonempty)]
    rfl
  · intro name
    simp only [List.mem_flatMap, List.map_map]
    rfl

/-- The adapter reports results under the metric names of the definition exactly when no
query of the job is interrupted. -/
theorem reportedNames_eq_keys_iff {snapshot : EvaluationSnapshot} {sloDef : SLODefinition}
    {sliDef : SLIDefinition} {datasource : DataSource} {slo : SLO} {query : AdapterQuery}
    (accepted : Accepted sliDef)
    (prepared : prepareQuery snapshot sloDef sliDef datasource = .ok (slo, query))
    (clients : String -> PrometheusClient) :
    (Exists fun keys => buildIndicatorKeys sliDef = .ok keys ∧ forall name,
      name ∈ reportedNames clients query.queries query.vars snapshot.periodStart
        snapshot.periodEnd ↔ name ∈ keys) ↔
      forall entry, entry ∈ query.queries -> ¬ Interrupted (clients entry.1) entry.2 query.vars
        snapshot.periodStart snapshot.periodEnd := by
  rcases prepareQuery_queries prepared with ⟨resolved, resolving, built⟩
  cases modeIs : sliDef.mode with
  | raw =>
      have queriesAre := raw_queries modeIs built
      have keysAre : buildIndicatorKeys sliDef = .ok (resolved.map Prod.fst) := by
        rw [resolveQueries_names modeIs resolving]
        unfold buildIndicatorKeys
        rw [modeIs]
      constructor
      · intro _ entry member
        rw [queriesAre] at member
        rcases List.mem_map.mp member with ⟨_, _, rfl⟩
        exact id
      · intro _
        refine ⟨_, keysAre, fun name => ?_⟩
        rw [mem_reportedNames, queriesAre]
        simp [namesOf_raw, eq_comm]
  | aggregated =>
      rcases accepted.methods modeIs with ⟨interval, methods, isInterval, nonempty, areMethods⟩
      rcases (isOk_iff _).mp (accepted.templates modeIs) with ⟨templates, templatesBuilt⟩
      rcases mem_aggregatedKeys modeIs nonempty areMethods templatesBuilt with ⟨keys, keysAre, members⟩
      have queriesAre := aggregated_queries modeIs templatesBuilt built
      rw [isInterval, areMethods] at queriesAre
      have reported : forall name,
          name ∈ reportedNames clients query.queries query.vars snapshot.periodStart
            snapshot.periodEnd ↔
          Exists fun template => template ∈ templates ∧
            (Interrupted (clients template.1) (.aggregated template.2 (some interval)
                (some (methods.map AggregationMethod.name))) query.vars snapshot.periodStart
                snapshot.periodEnd ∧ name = template.1 ∨
              ¬ Interrupted (clients template.1) (.aggregated template.2 (some interval)
                (some (methods.map AggregationMethod.name))) query.vars snapshot.periodStart
                snapshot.periodEnd ∧ name ∈ methods.map (methodKey template.1)) := by
        intro name
        rw [mem_reportedNames, queriesAre]
        simp only [List.mem_map, exists_exists_and_eq_and, mem_namesOf_aggregated]
      constructor
      · rintro ⟨_, sameKeys, agree⟩ entry member interrupted
        rw [keysAre] at sameKeys
        cases sameKeys
        rw [queriesAre] at member
        rcases List.mem_map.mp member with ⟨template, present, rfl⟩
        have misplaced := (agree template.1).mp
          ((reported _).mpr ⟨template, present, Or.inl ⟨interrupted, rfl⟩⟩)
        rcases (members _).mp misplaced with ⟨other, otherPresent, isMetric⟩
        rcases List.mem_map.mp isMetric with ⟨method, _, isKey⟩
        exact specKey_ne accepted templatesBuilt present otherPresent method.name isKey.symm
      · intro uninterrupted
        refine ⟨keys, keysAre, fun name => ?_⟩
        rw [reported, members]
        refine exists_congr fun template => and_congr_right fun present => ?_
        have notHere := uninterrupted (template.1, _)
          (queriesAre ▸ List.mem_map.mpr ⟨template, present, rfl⟩)
        tauto

def percentileRequest : SLIDefinitionCreate :=
  { name := "latency"
    mode := "aggregated"
    queryTemplate := some "http_request_duration_seconds"
    interval := some "1m"
    methods := some [.p95] }

def percentileSli : SLIDefinition :=
  storedSli percentileRequest .aggregated 1 1

theorem percentileSli_accepted : Accepted percentileSli :=
  ⟨percentileRequest, .aggregated, rfl, rfl, rfl⟩

def percentileSlo : SLODefinition :=
  { name := "latency-slo"
    version := 1
    objectives := ⟨[{ id := 1, sli := "latency.p95", passThreshold := ["<600"] }], by decide⟩ }

def percentileSnapshot : EvaluationSnapshot :=
  { evalId := 1
    parentRunId := 1
    sloName := "latency-slo"
    sloVersion := some 1
    sliName := some "latency"
    sliVersion := some 1
    dataSourceName := some "prometheus"
    evaluationName := "nightly"
    periodStart := 0
    periodEnd := 60000000
    assetSnapshot := {}
    assetId := 1
    vars := ∅
    compareTo := none }

def disconnected : PrometheusClient :=
  { instantQuery := fun _ => .raised "ReadError: "
    fetchRange := fun _ => .raised "ReadError: " }

def withoutData : PrometheusClient :=
  { instantQuery := fun _ => .queryError "no data"
    fetchRange := fun _ => .fetched (fun _ => none)
      { expectedSamples := 2, actualSamples := 0, missingPct := 100, chunksFailed := 1 } }

theorem reportedNames_withoutData :
    Exists fun slo => Exists fun query =>
      prepareQuery percentileSnapshot percentileSlo percentileSli { name := "prometheus" } =
          .ok (slo, query) ∧
        Exists fun keys => buildIndicatorKeys percentileSli = .ok keys ∧ forall name,
          name ∈ reportedNames (fun _ => withoutData) query.queries query.vars
            percentileSnapshot.periodStart percentileSnapshot.periodEnd ↔ name ∈ keys := by
  have prepared : (prepareQuery percentileSnapshot percentileSlo percentileSli
      { name := "prometheus" }) = .ok (_, _) := rfl
  refine ⟨_, _, prepared, (reportedNames_eq_keys_iff percentileSli_accepted prepared _).mpr ?_⟩
  intro entry _ interrupted
  rcases entry with ⟨key, spec⟩
  cases spec with
  | raw query => exact interrupted
  | aggregated template interval methods =>
      rcases interrupted with ⟨_, _, _, _, raised⟩
      cases raised

/-- The objective on `latency.p95` finds neither a result nor an error. -/
theorem disconnected_loses_method :
    Exists fun slo => Exists fun query =>
      prepareQuery percentileSnapshot percentileSlo percentileSli { name := "prometheus" } =
          .ok (slo, query) ∧
        Accepted percentileSli ∧ buildIndicatorKeys percentileSli = .ok ["latency.p95"] ∧
        reportedNames (fun _ => disconnected) query.queries query.vars
          percentileSnapshot.periodStart percentileSnapshot.periodEnd = ["latency"] :=
  ⟨_, _, rfl, percentileSli_accepted, rfl, rfl⟩

end Adapter
end Tropek
