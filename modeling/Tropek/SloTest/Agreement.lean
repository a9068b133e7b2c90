import Tropek.SloTest.Sides

namespace Tropek
namespace SloTest

open Library Engine Store Registry Worker Adapter ReEvaluation KeyedTable Fallible

/-!
# A dry run beside the worker

An evaluation is triggered, and its job stores a result.  A dry run is given the same asset,
window and variables, the content of the SLO in its body, the names of the SLI and of the data
source, and the history of the asset with the limit of the SLO.

The two sides agree exactly when both get an answer or neither does, and the answers and the
histories have the same numbers for every objective.
-/

namespace Inputs

variable {inputs : Inputs} {next : Database} {row : SLOEvaluation}

variable {values otherValues : Dict (Option ℚ)} {latest : SLIDefinition}
  {evalResult : EvaluationResult} {stored : SLOEvaluation}

theorem WorkerAnswered.unique {errors otherErrors : Dict String}
    (one : inputs.WorkerAnswered values errors)
    (other : inputs.WorkerAnswered otherValues otherErrors) :
    (values, errors) = (otherValues, otherErrors) := by
  cases one.answered.symm.trans other.answered
  rfl

theorem TestAnswered.unique {otherLatest : SLIDefinition} (one : inputs.TestAnswered latest values)
    (other : inputs.TestAnswered otherLatest otherValues) :
    (latest, values) = (otherLatest, otherValues) := by
  cases Option.some.inj (one.found.symm.trans other.found)
  rcases one.answered with ⟨_, answered⟩
  rcases other.answered with ⟨_, again⟩
  cases answered.symm.trans again
  rfl

theorem agrees_iff_readsAlike {slo : SLO} {tested : Dict (Option ℚ)} {errors : Dict String}
    {baselines : Dict (Option ℚ)} {testBaselines : Dict ℚ} {ids : List Nat}
    {testResult : EvaluationResult} {outcome : SLOTestResult}
    (distinct : inputs.sloDef.DistinctMetrics) (built : buildSloModel inputs.sloDef = .ok slo)
    (evaluated : evaluate slo (overrideErrored values errors) baselines ids = .ok evalResult)
    (aggregated : forall metric, getValue baselines metric =
      baselineOf slo.comparison.aggregateFunction (inputs.history slo inputs.sloDef.name (some
      inputs.request.evalName)) metric)
    (testEvaluated : evaluate slo (nullable (fetchedMetrics tested)) (nullable testBaselines) [] =
      .ok testResult)
    (lookups : forall metric, testBaselines.lookup metric =
      if metric ∈ latest.indicators then baselineOf slo.comparison.aggregateFunction (inputs.history
      slo inputs.sliDef.name none) metric else none)
    (result : outcome.result = testResult.result) (score : outcome.score = testResult.score)
    (indicatorResults : outcome.indicatorResults = testResult.indicatorResults)
    (stores : Stores inputs.sloDef (some evalResult) stored) :
    Agrees inputs.sloDef (.ok outcome) stored ↔
      forall objective, objective ∈ inputs.sloDef.objectives.rows ->
        inputs.ReadsAlike slo latest values errors tested objective.sli := by
  have sameResult : stored.result = some (.ofOutcome testResult.result) ↔
      evalResult.result = testResult.result := by
    rw [stores.result, Option.map_some, Option.some_inj]
    cases evalResult.result <;> cases testResult.result <;> decide
  have sameScore : stored.score = some testResult.score ↔
      evalResult.score = testResult.score := by
    rw [stores.score, Option.map_some, Option.some_inj]
  have sameRows : stored.indicatorRows.rows =
      buildIndicatorRows inputs.sloDef evalResult.indicatorResults := stores.indicatorRows
  unfold Agrees
  dsimp only
  rw [result, score, indicatorResults, sameResult, sameScore, sameRows,
    sameOutcome_iff distinct built evaluated testEvaluated]
  refine forall_congr' fun objective => imp_congr_right fun _ => ?_
  rw [getValue_overrideErrored, aggregated, getValue_nullable, lookup_fetchedMetrics,
    getValue_nullable, lookups]
  exact ⟨fun same => ⟨same.1, same.2⟩, fun alike => ⟨alike.value, alike.baseline⟩⟩

theorem agrees_none_iff {tested : Except SLOTestError SLOTestResult}
    (stores : Stores inputs.sloDef none stored) :
    Agrees inputs.sloDef tested stored ↔ tested.isOk = false := by
  cases tested with
  | ok outcome =>
      refine ⟨fun agrees => ?_, fun impossible => absurd impossible.symm Bool.false_ne_true⟩
      have stored := agrees.1
      rw [stores.result] at stored
      cases stored
  | error failure => exact ⟨fun _ => rfl, fun _ => ⟨stores.result, stores.score, stores.indicatorRows⟩⟩

theorem not_agrees_error {failure : SLOTestError}
    (stores : Stores inputs.sloDef (some evalResult) stored) :
    ¬ Agrees inputs.sloDef (.error failure) stored := by
  intro agrees
  have stored := agrees.1
  rw [stores.result] at stored
  cases stored

/-- A dry run agrees with the evaluation that a trigger of the same inputs stores if and only if
the inputs fit. -/
theorem dryRun_agrees_iff (creates : inputs.Creates next row) (settings : Settings)
    (now : Instant) (workerId : Option String) {message : Message}
    (isMessage : message.evalId = row.id) :
    (Exists fun stored =>
      (inputs.afterJob settings now workerId message next).evaluations.find row.id = some stored ∧
        Agrees inputs.sloDef inputs.tested stored) ↔ inputs.Fits := by
  have starts := creates.starts
  have present : next.evaluations.find message.evalId = some row := isMessage ▸ creates.stored
  have sameHistory := (markRunning_history present starts.apart now workerId).trans starts.history
  rcases stored_of_job settings
    { now, workerId, adapter := fun query => inputs.adapter (.specs query) } starts.unscored present
    starts.loads with ⟨stored, found, stores⟩
  rw [isMessage] at found
  have only : (Exists fun other =>
      (inputs.afterJob settings now workerId message next).evaluations.find row.id = some other ∧
        Agrees inputs.sloDef inputs.tested other) ↔ Agrees inputs.sloDef inputs.tested stored := by
    constructor
    · rintro ⟨other, isStored, agrees⟩
      rw [Option.some.inj (found.symm.trans isStored)]
      exact agrees
    · intro agrees
      exact ⟨stored, found, agrees⟩
  rw [only]
  -- Neither side has a result without an answer that the engine can score.
  have unanswered : (EngineReads inputs.sloDef ->
      ¬ Exists fun values => Exists fun errors => inputs.WorkerAnswered values errors) ->
      Stores inputs.sloDef none stored := by
    intro silent
    cases scored : jobOutcome inputs.sloDef (fetchAndEvaluate
        (markRunning next.evaluations message.evalId now workerId) (snapshotOf next row)
        inputs.sloDef inputs.sliDef inputs.datasource
        fun query => inputs.adapter (.specs query)) with
    | none => exact scored ▸ stores
    | some evalResult =>
        have answered := starts.answered creates.raw scored
        exact absurd answered.2 (silent answered.1)
  by_cases reads : EngineReads inputs.sloDef
  · rcases (isOk_iff _).mp reads.1 with ⟨slo, built⟩
    by_cases worker : Exists fun values => Exists fun errors => inputs.WorkerAnswered values errors
    · rcases worker with ⟨values, errors, answered⟩
      rcases starts.scores creates.raw sameHistory built reads answered with
        ⟨evalResult, baselines, ids, scored, evaluated, aggregated⟩
      have stores : Stores inputs.sloDef (some evalResult) stored := scored ▸ stores
      by_cases test : Exists fun latest => Exists fun tested => inputs.TestAnswered latest tested
      · rcases test with ⟨latest, tested, testAnswered⟩
        rcases creates.tested_scores built reads testAnswered with
          ⟨outcome, testResult, testBaselines, returned, result, score, indicatorResults,
            testEvaluated, lookups⟩
        rw [returned, agrees_iff_readsAlike answered.distinct built evaluated aggregated
          testEvaluated lookups result score indicatorResults stores]
        constructor
        · intro alike _
          refine ⟨⟨fun _ => ⟨latest, tested, testAnswered⟩, fun _ => ⟨values, errors, answered⟩⟩, ?_⟩
          intro otherSlo otherLatest otherValues otherErrors otherTested otherBuilt otherAnswered
            otherTest
          cases Except.ok.inj (built.symm.trans otherBuilt)
          cases answered.unique otherAnswered
          cases testAnswered.unique otherTest
          exact alike
        · intro fits
          exact (fits reads).2 slo latest values errors tested built answered testAnswered
      · cases returned : inputs.tested with
        | ok outcome => exact absurd (creates.tested_answered returned).2 test
        | error failure =>
            refine ⟨fun agrees => absurd agrees (not_agrees_error stores), fun fits => ?_⟩
            exact absurd ((fits reads).1.mp ⟨values, errors, answered⟩) test
    · rw [agrees_none_iff (unanswered fun _ => worker)]
      cases returned : inputs.tested with
      | ok outcome =>
          refine ⟨fun impossible => absurd impossible.symm Bool.false_ne_true, fun fits => ?_⟩
          exact absurd ((fits reads).1.mpr (creates.tested_answered returned).2) worker
      | error failure =>
          refine ⟨fun _ _ => ⟨⟨fun answered => absurd answered worker, fun test => ?_⟩, ?_⟩,
            fun _ => rfl⟩
          · rcases test with ⟨latest, tested, testAnswered⟩
            rcases creates.tested_scores built reads testAnswered with ⟨outcome, _, _, isOk, _⟩
            cases returned.symm.trans isOk
          · intro _ _ values errors _ _ answered
            exact absurd ⟨values, errors, answered⟩ worker
  · rw [agrees_none_iff (unanswered fun impossible => absurd impossible reads)]
    refine ⟨fun _ impossible => absurd impossible reads, fun _ => ?_⟩
    cases returned : inputs.tested with
    | ok outcome => exact absurd (creates.tested_answered returned).1 reads
    | error failure => rfl

end Inputs

namespace Sample

def objective : SLOObjectiveRow :=
  { id := 1, sli := "latency", passThreshold := ["<=+10%"] }

def sloDefinition (name : String) : SLODefinition :=
  { name, version := 1, sliDefinitionId := some ("checkout-sli", 1),
    objectives := empty.insert objective rfl }

def measured : IndicatorResultRow :=
  { objective, value := some 40, comparedValue := none, changeAbsolute := none,
    changeRelativePct := none, status := .pass, score := 1, targets := { pass := [], warn := none } }

def earlier (name : String) : SLOEvaluation :=
  { id := 10, evaluationId := 1, evaluationName := "hourly", assetId := 1, periodStart := 0,
    periodEnd := 3600000000, sloName := name, status := .completed, result := some .pass,
    indicatorRows := empty.insert measured rfl }

def history (name : String) : Evaluations :=
  empty.insert (earlier name) rfl

def assignments (name : String) : Assignments :=
  { sloAssignments := [{ assetId := some 1, sloDefinitionId := (name, 1),
                         dataSourceName := "prometheus" }] }

def answer : Dict (Option ℚ) :=
  (∅ : Dict (Option ℚ)).insert "latency" (some 50)

def inputs (name : String) (evaluations : Evaluations) : Inputs :=
  { db := { Worker.Sample.database with
      evaluations
      sloDefinitions := empty.insert (sloDefinition name) rfl }
    adapter := fun _ => .response answer ∅
    request := { assetName := "shop", evalName := "hourly", periodStart := 3600000000,
                 periodEnd := 7200000000 }
    asset := { id := 1, name := "shop" }
    sloDef := sloDefinition name
    sliDef := Worker.Sample.sliDefinition
    datasource := Worker.Sample.dataSource }

def message : Message :=
  { jobId := 0, evalId := 51 }

def trigger (name : String) (evaluations : Evaluations) : Except TriggerError (Database × List Nat) :=
  triggerEvaluate (inputs name evaluations).db (assignments name) (inputs name evaluations).request 50 (· + 51)

structure References where
  sloName : String
  sloVersion : Option Int
  sliName : Option String
  sliVersion : Option Int
  dataSourceName : Option String
deriving DecidableEq

def references (name : String) : References :=
  { sloName := name, sloVersion := some 1, sliName := some "checkout-sli",
    sliVersion := some 1, dataSourceName := some "prometheus" }

/-- The new identifiers and the references of the evaluation, with the result that its job
stores and the result of the dry run. -/
def results (name : String) (evaluations : Evaluations) :
    Option ((List Nat × References) × Option ResultValue × Option EvaluationOutcome) :=
  (trigger name evaluations).toOption.bind fun committed =>
    (committed.1.evaluations.find 51).bind fun row =>
      (((inputs name evaluations).afterJob {} 0 none message committed.1).evaluations.find 51).map
        fun stored =>
          ((committed.2, {
            sloName := row.sloName
            sloVersion := row.sloVersion
            sliName := row.sliName
            sliVersion := row.sliVersion
            dataSourceName := row.dataSourceName }), stored.result,
            (inputs name evaluations).tested.toOption.map (·.result))

theorem creates {name : String} {evaluations : Evaluations} {stored : Option ResultValue}
    {tested : Option EvaluationOutcome}
    (ran : results name evaluations = some (([51], references name), stored, tested)) :
    Exists fun next => Exists fun row => (inputs name evaluations).Creates next row ∧ row.id = 51 ∧
      (((inputs name evaluations).afterJob {} 0 none message next).evaluations.find 51).map (·.result) =
          some stored ∧
        (inputs name evaluations).tested.toOption.map (·.result) = tested := by
  rcases Option.bind_eq_some_iff.mp ran with ⟨⟨next, ids⟩, triggered, ran⟩
  rcases Option.bind_eq_some_iff.mp ran with ⟨row, found, ran⟩
  rcases Option.map_eq_some_iff.mp ran with ⟨after, isStored, same⟩
  simp only [references, Prod.mk.injEq, References.mk.injEq] at same
  rcases same with ⟨⟨idsAre, sloName, sloVersion, sliName, sliVersion, dataSource⟩, result, outcome⟩
  have rowKey := find_key found
  have triggered := toOption_eq_some.mp triggered
  refine ⟨next, row, ?_, rowKey, by rw [isStored, Option.map_some, result], outcome⟩
  exact {
    triggered := ⟨assignments name, 50, (· + 51), ids, triggered, by rw [idsAre, rowKey]; simp⟩
    stored := by rw [rowKey]; exact found
    asset := rfl
    loads := ⟨⟨"prometheus", dataSource, rfl⟩, ⟨1, sloVersion, by
        rw [sloName]
        have stored : sloDefinition name ∈ (inputs name evaluations).db.sloDefinitions.rows :=
          List.mem_singleton_self _
        exact find_of_mem stored⟩,
      ⟨"checkout-sli", 1, sliName, sliVersion, rfl⟩⟩
    raw := rfl
    compareTo := rfl }

theorem workerAnswered (name : String) (evaluations : Evaluations) :
    (inputs name evaluations).WorkerAnswered answer ∅ where
  defined := by
    intro entry member
    have only : entry = ⟨"latency", "avg(latency)"⟩ := List.mem_singleton.mp member
    have noPlaceholder : forall piece, piece ∈ templatePieces "avg(latency)" ->
        forall name, piece ≠ .placeholder name := by
      have texts : (templatePieces "avg(latency)").filterMap Piece.name? = [] := by
        decide +kernel
      intro piece inside name isPlaceholder
      rw [isPlaceholder] at inside
      have named := List.mem_filterMap.mpr ⟨_, inside, (rfl : Piece.name? (.placeholder name) = some name)⟩
      rw [texts] at named
      exact List.not_mem_nil named
    rw [only]
    intro name inside
    exact absurd rfl (noPlaceholder _ inside name)
  distinct := by
    exact List.nodup_singleton _
  answered := rfl

theorem testAnswered (name : String) (evaluations : Evaluations) :
    (inputs name evaluations).TestAnswered Worker.Sample.sliDefinition answer :=
  ⟨rfl, rfl, Int.natCast_nonneg 3, ∅, rfl⟩

end Sample

/-- An evaluation in the series of an SLO whose name is that of its SLI: both sides compare
with it. -/
theorem sameName_dryRun_agrees :
    Exists fun next => Exists fun row =>
      (Sample.inputs "checkout-sli" (Sample.history "checkout-sli")).Creates next row ∧
        Exists fun stored =>
          ((Sample.inputs "checkout-sli" (Sample.history "checkout-sli")).afterJob {} 0 none
              Sample.message next).evaluations.find row.id = some stored ∧
            Agrees (Sample.sloDefinition "checkout-sli")
              (Sample.inputs "checkout-sli" (Sample.history "checkout-sli")).tested stored := by
  have ran : Sample.results "checkout-sli" (Sample.history "checkout-sli") =
      some (([51], Sample.references "checkout-sli"), some .fail, some .fail) := by
    decide +kernel
  rcases Sample.creates ran with ⟨next, row, creates, rowKey, _, _⟩
  refine ⟨next, row, creates,
    (Inputs.dryRun_agrees_iff creates {} 0 none rowKey.symm).mpr fun _ => ⟨⟨fun _ => ?_, fun _ => ?_⟩, ?_⟩⟩
  · exact ⟨_, _, Sample.testAnswered _ _⟩
  · exact ⟨_, _, Sample.workerAnswered _ _⟩
  · intro slo latest values errors tested built answered testAnswered objective listed
    cases answered.unique (Sample.workerAnswered _ _)
    cases testAnswered.unique (Sample.testAnswered _ _)
    have only : objective = Sample.objective := List.mem_singleton.mp listed
    rw [only]
    cases built
    exact ⟨by decide +kernel, by decide +kernel⟩

/-- With one evaluation in the series of the SLO, the worker fails what the dry run passes. -/
theorem dryRun_disagrees :
    Exists fun evaluations => Exists fun next => Exists fun row =>
      (Sample.inputs "checkout" evaluations).Creates next row ∧
        forall stored,
          ((Sample.inputs "checkout" evaluations).afterJob {} 0 none Sample.message next).evaluations.find
              row.id = some stored ->
            stored.result = some .fail ∧
              (Sample.inputs "checkout" evaluations).tested.toOption.map (·.result) = some .pass ∧
              ¬ Agrees (Sample.sloDefinition "checkout") (Sample.inputs "checkout" evaluations).tested stored := by
  refine ⟨Sample.history "checkout", ?_⟩
  have ran : Sample.results "checkout" (Sample.history "checkout") =
      some (([51], Sample.references "checkout"), some .fail, some .pass) := by
    decide +kernel
  rcases Sample.creates ran with ⟨next, row, creates, rowKey, result, outcome⟩
  refine ⟨next, row, creates, fun stored found => ?_⟩
  rw [<- rowKey, found] at result
  have failed : stored.result = some .fail := Option.some.inj result
  refine ⟨failed, outcome, fun agrees => ?_⟩
  rcases Option.map_eq_some_iff.mp outcome with ⟨returned, isReturned, passed⟩
  rw [toOption_eq_some.mp isReturned] at agrees
  have same := agrees.1
  rw [failed, passed] at same
  cases same

end SloTest
end Tropek
