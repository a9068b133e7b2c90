import Tropek.ReEvaluation.Reading
import Tropek.Worker.Snapshots

namespace Tropek
namespace ReEvaluation

open Library Engine Store Registry Worker KeyedTable Fallible

/-!
# Rows of objectives

An indicator result names a metric, and both writers look its objective up in a map
that has one objective per metric.  The table wants one row per objective.  The two
agree on the definitions in which no two objectives name the same metric; on any
other one the rows of such objectives share their identifier, and neither writer can
store its result.

The registry does not look for repeated metrics.
-/

def rowOf (objective : SLOObjectiveRow) (ir : IndicatorResult) : IndicatorResultRow :=
  { objective
    value := ir.value
    comparedValue := ir.comparedValue
    changeAbsolute := ir.changeAbsolute
    changeRelativePct := ir.changeRelativePct
    status := ir.status
    score := ir.score
    targets := { pass := ir.passTargets, warn := ir.warningTargets } }

/-- The row is linked to the objective and has the status, the score and the targets that
the objective scores. -/
def OwnRow (metrics baselines : Dict (Option ℚ)) (objective : SLOObjectiveRow)
    (row : IndicatorResultRow) : Prop :=
  Exists fun scored => evaluateObjective metrics baselines objective.toModel = .ok scored ∧
    row = rowOf objective scored.2

def HasOwnRows (sloDef : SLODefinition) (metrics baselines : Dict (Option ℚ))
    (row : SLOEvaluation) : Prop :=
  List.Forall₂ (OwnRow metrics baselines) sloDef.objectives.rows row.indicatorRows.rows

/-- The engine reads the definition: there is an objective, the comparison block has known
words, and the criteria parse. -/
def EngineReads (sloDef : SLODefinition) : Prop :=
  (buildSloModel sloDef).isOk = true ∧
    forall objective, objective ∈ sloDef.objectives.rows -> objective.toModel.CriteriaParse

instance (sloDef : SLODefinition) : Decidable (EngineReads sloDef) :=
  inferInstanceAs (Decidable (_ ∧ _))

/-- The worker scores the definition and completes the evaluation with a row for each
objective. -/
def CompletesWithOwnRows (db : Database) (snapshot : EvaluationSnapshot) (sloDef : SLODefinition)
    (metrics baselines : Dict (Option ℚ)) (comparedEvalIds : List Nat) (fetchErrors : Dict String) :
    Prop :=
  Exists fun slo => Exists fun evalResult => Exists fun next => Exists fun row =>
    buildSloModel sloDef = .ok slo ∧
      evaluate slo metrics baselines comparedEvalIds = .ok evalResult ∧
      writeResults db snapshot sloDef
        { evalResult, metricsFetched := metrics, fetchErrors, baselines, comparedEvalIds } =
          some next ∧
      next.evaluations.find snapshot.evalId = some row ∧ row.status = .completed ∧
      HasOwnRows sloDef metrics baselines row

/-- Whatever its window, a re-evaluation scores the definition again and leaves a row for each
objective. -/
def RescoresWithOwnRows (db : Database) (ev : SLOEvaluation) (now : Instant)
    (sloDef : SLODefinition) (metrics baselines : Dict (Option ℚ)) (comparedEvalIds : List Nat) :
    Prop :=
  Exists fun slo => Exists fun evalResult =>
    buildSloModel sloDef = .ok slo ∧
      evaluate slo metrics baselines comparedEvalIds = .ok evalResult ∧
      forall window : Window, window.sloDef = sloDef ->
        Exists fun next => Exists fun row =>
          persistReevalResult window now db ev evalResult = .ok next ∧
            next.evaluations.find ev.id = some row ∧ HasOwnRows sloDef metrics baselines row

section Evaluated

variable {sloDef : SLODefinition} {slo : SLO} {metrics baselines : Dict (Option ℚ)}
  {comparedEvalIds : List Nat} {evalResult : EvaluationResult}

theorem engineReads_of_evaluated (built : buildSloModel sloDef = .ok slo)
    (evaluated : evaluate slo metrics baselines comparedEvalIds = .ok evalResult) :
    EngineReads sloDef := by
  have parse := (evaluate_isOk slo metrics baselines comparedEvalIds).mp
    ((isOk_iff _).mpr ⟨evalResult, evaluated⟩)
  rw [buildSloModel_objectives built] at parse
  refine ⟨(isOk_iff _).mpr ⟨slo, built⟩, fun objective member => ?_⟩
  exact parse objective.toModel (List.mem_map_of_mem member)

theorem EngineReads.evaluated (reads : EngineReads sloDef) (metrics baselines : Dict (Option ℚ))
    (comparedEvalIds : List Nat) :
    Exists fun slo => Exists fun evalResult =>
      buildSloModel sloDef = .ok slo ∧
        evaluate slo metrics baselines comparedEvalIds = .ok evalResult := by
  rcases (isOk_iff _).mp reads.1 with ⟨slo, built⟩
  have parse : forall obj, obj ∈ slo.objectives -> obj.CriteriaParse := by
    rw [buildSloModel_objectives built]
    intro obj member
    rcases List.mem_map.mp member with ⟨objective, inside, same⟩
    exact same ▸ reads.2 objective inside
  rcases (isOk_iff _).mp ((evaluate_isOk slo metrics baselines comparedEvalIds).mpr parse)
    with ⟨evalResult, evaluated⟩
  exact ⟨slo, evalResult, built, evaluated⟩

theorem evaluated_names (built : buildSloModel sloDef = .ok slo)
    (evaluated : evaluate slo metrics baselines comparedEvalIds = .ok evalResult) :
    evalResult.indicatorResults.map (·.metric) = sloDef.objectives.rows.map (·.sli) := by
  rw [evaluate_metrics evaluated, buildSloModel_objectives built, List.map_map]
  rfl

/-- When no metric is named twice, the map gives every result back to the objective that it
was scored for. -/
theorem buildIndicatorRows_own (distinct : sloDef.DistinctMetrics)
    (built : buildSloModel sloDef = .ok slo)
    (evaluated : evaluate slo metrics baselines comparedEvalIds = .ok evalResult) :
    List.Forall₂ (OwnRow metrics baselines) sloDef.objectives.rows
      (buildIndicatorRows sloDef evalResult.indicatorResults) := by
  rcases evaluate_eq_ok evaluated with ⟨scored, related, -, -, same, -⟩
  rw [buildSloModel_objectives built, List.forall₂_map_left_iff] at related
  rw [same]
  have looked : forall objective, objective ∈ sloDef.objectives.rows ->
      objectiveLookup sloDef objective.sli = some objective :=
    fun objective member => objectiveLookup_of_distinct distinct member
  clear same
  unfold buildIndicatorRows
  generalize sloDef.objectives.rows = objectives at related looked
  induction related with
  | nil => exact .nil
  | @cons objective pair objectives scored first others ih =>
      rw [List.forall_mem_cons] at looked
      have isRow : buildIndicatorRow sloDef pair.2 = some (rowOf objective pair.2) := by
        unfold buildIndicatorRow
        rw [(evaluateObjective_eq_ok first).1]
        change (objectiveLookup sloDef objective.sli).map _ = _
        rw [looked.1]
        rfl
      rw [List.map_cons, List.filterMap_cons, isRow]
      exact .cons ⟨pair, first, rfl⟩ (ih looked.2)

end Evaluated

section Worker

variable {db : Database} {snapshot : EvaluationSnapshot} {evaluation : SLOEvaluation}
  {sloDef : SLODefinition}

/-- Phase 3a on an evaluation that has no rows yet succeeds exactly when the rows fit into an
empty table. -/
theorem writeResults_of_unscored {fetchResult : FetchAndEvaluateResult}
    (fits : fetchResult.FitsDefinition sloDef)
    (stored : db.evaluations.find snapshot.evalId = some evaluation)
    (unscored : evaluation.indicatorRows = .empty) :
    writeResults db snapshot sloDef fetchResult =
      (bulkInsert .empty
        (buildIndicatorRows sloDef fetchResult.evalResult.indicatorResults)).map
        fun indicatorRows => { db with
          evaluations := applyWrite (some {
            evalId := snapshot.evalId
            change := .completed (completedValues snapshot sloDef fetchResult)
              (some indicatorRows) }) db.evaluations } := by
  have objectives := buildIndicatorRows_objectives fits.1
  have nonempty : buildIndicatorRows sloDef fetchResult.evalResult.indicatorResults ≠ [] := by
    intro empty
    rw [empty] at objectives
    exact scoredObjectives_ne_nil fits.2 objectives.symm
  rw [writeResults_eq]
  unfold completedWrite
  dsimp only
  rw [if_neg nonempty, stored]
  dsimp only
  rw [unscored, Option.map_map]
  rfl

theorem completesWithOwnRows_iff
    (stored : db.evaluations.find snapshot.evalId = some evaluation)
    (unscored : evaluation.indicatorRows = .empty) (metrics baselines : Dict (Option ℚ))
    (comparedEvalIds : List Nat) (fetchErrors : Dict String) :
    CompletesWithOwnRows db snapshot sloDef metrics baselines comparedEvalIds fetchErrors ↔
      EngineReads sloDef ∧ sloDef.DistinctMetrics := by
  constructor
  · rintro ⟨slo, evalResult, next, row, built, evaluated, written, -, -, -⟩
    have names := evaluated_names built evaluated
    have reads := engineReads_of_evaluated built evaluated
    have nonempty : sloDef.objectives.rows ≠ [] := fun empty =>
      slo.nonempty (by rw [buildSloModel_objectives built, empty]; rfl)
    rw [writeResults_of_unscored ⟨names, nonempty⟩ stored unscored] at written
    refine ⟨reads, (bulkInsert_scored_isSome names).mp ?_⟩
    rcases Option.map_eq_some_iff.mp written with ⟨indicatorRows, inserted, -⟩
    exact Option.isSome_iff_exists.mpr ⟨indicatorRows, inserted⟩
  · rintro ⟨reads, distinct⟩
    rcases reads.evaluated metrics baselines comparedEvalIds with ⟨slo, evalResult, built, evaluated⟩
    have names := evaluated_names built evaluated
    have nonempty : sloDef.objectives.rows ≠ [] := fun empty =>
      slo.nonempty (by rw [buildSloModel_objectives built, empty]; rfl)
    rcases Option.isSome_iff_exists.mp ((bulkInsert_scored_isSome names).mpr distinct) with
      ⟨indicatorRows, inserted⟩
    let fetchResult : FetchAndEvaluateResult :=
      { evalResult, metricsFetched := metrics, fetchErrors, baselines, comparedEvalIds }
    let change : RowChange :=
      .completed (completedValues snapshot sloDef fetchResult) (some indicatorRows)
    refine ⟨slo, evalResult,
      { db with evaluations := applyWrite (some ⟨snapshot.evalId, change⟩) db.evaluations },
      change.apply evaluation, built, evaluated, ?_, ?_, rfl, ?_⟩
    · rw [writeResults_of_unscored ⟨names, nonempty⟩ stored unscored, inserted]
      rfl
    · change (applyWrite _ db.evaluations).find snapshot.evalId = _
      rw [find_applyWrite, stored, Option.map_some]
      unfold rowAfter
      dsimp only
      rw [if_pos (find_key stored)]
    · change List.Forall₂ _ sloDef.objectives.rows indicatorRows.rows
      have rows := bulkInsert_rows inserted
      change indicatorRows.rows = [] ++ _ at rows
      rw [rows, List.nil_append]
      exact buildIndicatorRows_own distinct built evaluated

end Worker

theorem rescoresWithOwnRows_iff {db : Database} {ev stored : SLOEvaluation}
    {sloDef : SLODefinition} (found : db.evaluations.find ev.id = some stored) (now : Instant)
    (metrics baselines : Dict (Option ℚ)) (comparedEvalIds : List Nat) :
    RescoresWithOwnRows db ev now sloDef metrics baselines comparedEvalIds ↔
      EngineReads sloDef ∧ sloDef.DistinctMetrics := by
  constructor
  · rintro ⟨slo, evalResult, built, evaluated, persists⟩
    let window : Window :=
      { assetId := ev.assetId, sloName := ev.sloName, sloDef, sloModel := slo, built,
        fromDate := ev.periodStart, skipPin := false }
    rcases persists window rfl with ⟨next, row, persisted, -, -⟩
    have names := evaluated_names built evaluated
    refine ⟨engineReads_of_evaluated built evaluated, (bulkInsert_scored_isSome names).mp ?_⟩
    have write : persistReevalResult window now db ev evalResult = _ :=
      persistReevalResult_of_metrics now names db
    rw [write, orRaise_eq_ok] at persisted
    rcases Option.map_eq_some_iff.mp persisted with ⟨indicatorRows, inserted, -⟩
    exact Option.isSome_iff_exists.mpr ⟨indicatorRows, inserted⟩
  · rintro ⟨reads, distinct⟩
    rcases reads.evaluated metrics baselines comparedEvalIds with ⟨slo, evalResult, built, evaluated⟩
    have names := evaluated_names built evaluated
    rcases Option.isSome_iff_exists.mp ((bulkInsert_scored_isSome names).mpr distinct) with
      ⟨indicatorRows, inserted⟩
    refine ⟨slo, evalResult, built, evaluated, fun window isDefinition => ?_⟩
    subst isDefinition
    have write : persistReevalResult window now db ev evalResult = _ :=
      persistReevalResult_of_metrics now names db
    rw [inserted] at write
    refine ⟨_, rescoredRow (resultItem window ev evalResult) now indicatorRows stored, write, ?_, ?_⟩
    · exact (find_update _ _ _ (rescoredRow_id _ now indicatorRows) _).trans
        (by rw [if_pos rfl, found]; rfl)
    · change List.Forall₂ _ window.sloDef.objectives.rows indicatorRows.rows
      have rows := bulkInsert_rows inserted
      change indicatorRows.rows = [] ++ _ at rows
      rw [rows, List.nil_append]
      exact buildIndicatorRows_own distinct built evaluated

/-- The worker and a re-evaluation store one row for each objective of a definition exactly
when the engine reads it and no two of its objectives name the same metric. -/
theorem objectiveRows_own_iff {db : Database} {snapshot : EvaluationSnapshot}
    {evaluation ev rescored : SLOEvaluation}
    (stored : db.evaluations.find snapshot.evalId = some evaluation)
    (unscored : evaluation.indicatorRows = .empty)
    (found : db.evaluations.find ev.id = some rescored) (now : Instant) (sloDef : SLODefinition)
    (metrics baselines : Dict (Option ℚ)) (comparedEvalIds : List Nat)
    (fetchErrors : Dict String) :
    (CompletesWithOwnRows db snapshot sloDef metrics baselines comparedEvalIds fetchErrors ↔
      EngineReads sloDef ∧ sloDef.DistinctMetrics) ∧
    (RescoresWithOwnRows db ev now sloDef metrics baselines comparedEvalIds ↔
      EngineReads sloDef ∧ sloDef.DistinctMetrics) :=
  ⟨completesWithOwnRows_iff stored unscored metrics baselines comparedEvalIds fetchErrors,
    rescoresWithOwnRows_iff found now metrics baselines comparedEvalIds⟩

namespace Sample

def pendingParams (sloVersion : Int) : EvalCreateParams :=
  { evaluationId := 1, evaluationName := "hourly", periodStart := 0, periodEnd := 3600000000,
    assetId := 1, sloName := "checkout", sloVersion := some sloVersion }

def unscored : SLOEvaluation :=
  pendingEvaluation (pendingParams 1) ∅ 10

def unscoredDatabase : Database :=
  { Worker.Sample.database with evaluations := empty.insert unscored rfl }

def latencyOf (value : ℚ) : Dict (Option ℚ) :=
  (∅ : Dict (Option ℚ)).insert "latency" (some value)

def repeated : SLODefinitionCreate :=
  { name := "checkout"
    objectives := [
      { sli := "latency", passThreshold := ["<=50"] },
      { sli := "latency", passThreshold := ["<=100"], keySli := true }]
    sliName := some "checkout-sli" }

end Sample

theorem objectiveRows_own_single :
    CompletesWithOwnRows Sample.unscoredDatabase
        (snapshotOf Sample.unscoredDatabase Sample.unscored) Worker.Sample.sloDefinition
        (Sample.latencyOf 40) ∅ [] ∅ ∧
      RescoresWithOwnRows Sample.unscoredDatabase Sample.unscored 0 Worker.Sample.sloDefinition
        (Sample.latencyOf 40) ∅ [] := by
  have holds : EngineReads Worker.Sample.sloDefinition ∧
      Worker.Sample.sloDefinition.DistinctMetrics := by
    decide +kernel
  have stored : Sample.unscoredDatabase.evaluations.find
      (snapshotOf Sample.unscoredDatabase Sample.unscored).evalId = some Sample.unscored :=
    rfl
  have found : Sample.unscoredDatabase.evaluations.find Sample.unscored.id =
      some Sample.unscored :=
    rfl
  have both := objectiveRows_own_iff stored rfl found 0 Worker.Sample.sloDefinition
    (Sample.latencyOf 40) ∅ [] ∅
  exact ⟨both.1.mpr holds, both.2.mpr holds⟩

/-- The registry accepts a version with two objectives for one metric, and neither writer can
store what the engine says about it. -/
theorem repeated_objectives_refused :
    Exists fun db => Exists fun sloDef => Exists fun pending => Exists fun row =>
      createSloDefinition Worker.Sample.database Sample.repeated 2 = .ok db ∧
        db.sloDefinitions.find ("checkout", 2) = some sloDef ∧
        createPending db (Sample.pendingParams 2) 10 = some pending ∧
        pending.evaluations.find 10 = some row ∧ EngineReads sloDef ∧
        ¬ CompletesWithOwnRows pending (snapshotOf pending row) sloDef (Sample.latencyOf 40) ∅ []
          ∅ ∧
        ¬ RescoresWithOwnRows pending row 0 sloDef (Sample.latencyOf 40) ∅ [] := by
  have facts : (createSloDefinition Worker.Sample.database Sample.repeated 2).toOption.any
      (fun db => (createPending db (Sample.pendingParams 2) 10).isSome &&
        (db.sloDefinitions.find ("checkout", 2)).any fun sloDef =>
          decide (EngineReads sloDef ∧ ¬ sloDef.DistinctMetrics)) = true := by
    decide +kernel
  rcases (Option.any_eq_true _ _).mp facts with ⟨db, accepted, facts⟩
  rcases Bool.and_eq_true_iff.mp facts with ⟨creates, facts⟩
  rcases Option.isSome_iff_exists.mp creates with ⟨pending, created⟩
  rcases (Option.any_eq_true _ _).mp facts with ⟨sloDef, found, facts⟩
  rcases of_decide_eq_true facts with ⟨reads, repeats⟩
  have stored := (createPending_eq_some created).2.1 10
  rw [if_pos rfl] at stored
  refine ⟨db, sloDef, pending, _, toOption_eq_some.mp accepted, found, created, stored,
    reads, fun completes => ?_, fun rescores => ?_⟩
  · exact repeats ((completesWithOwnRows_iff stored rfl _ _ _ _).mp completes).2
  · exact repeats ((rescoresWithOwnRows_iff stored _ _ _ _).mp rescores).2

end ReEvaluation
end Tropek
