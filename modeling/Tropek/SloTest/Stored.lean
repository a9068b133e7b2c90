import Tropek.ReEvaluation.ObjectiveRows
import Tropek.Worker.JobOutcome
import Tropek.Worker.QueryVariables

namespace Tropek
namespace SloTest

open Library Engine Store Registry Worker ReEvaluation KeyedTable Fallible

/-!
# What a job stores

The engine reads two numbers for each objective, the value of its metric and its baseline, and
the indicator row of the objective shows both.  A job that starts from an evaluation without a
result stores what the engine makes of the numbers, or no result at all.
-/

section Shown

variable {slo : SLO} {sloDef : SLODefinition} {metrics baselines otherMetrics otherBaselines :
  Dict (Option ℚ)} {ids otherIds : List Nat} {evalResult otherResult : EvaluationResult}

theorem evaluateObjective_shows {obj : SLOObjective} {pair : ObjectiveResult × IndicatorResult}
    (evaluated : evaluateObjective metrics baselines obj = .ok pair) :
    pair.2.value = getValue metrics obj.sli ∧ pair.2.comparedValue = getValue baselines obj.sli := by
  rcases bind_eq_ok.mp evaluated with ⟨_, _, evaluated⟩
  rcases bind_eq_ok.mp evaluated with ⟨_, _, evaluated⟩
  rcases bind_eq_ok.mp evaluated with ⟨_, _, same⟩
  cases same
  exact ⟨rfl, rfl⟩

theorem ownRow_shows {objective : SLOObjectiveRow} {row : IndicatorResultRow}
    (own : OwnRow metrics baselines objective row) :
    row.value = getValue metrics objective.sli ∧
      row.comparedValue = getValue baselines objective.sli := by
  rcases own with ⟨scored, evaluated, same⟩
  rw [same]
  exact evaluateObjective_shows evaluated

theorem ownRows_same {objectives : List SLOObjectiveRow} {rows : List IndicatorResultRow}
    (first : List.Forall₂ (OwnRow metrics baselines) objectives rows)
    (second : List.Forall₂ (OwnRow otherMetrics otherBaselines) objectives rows) :
    forall objective, objective ∈ objectives ->
      getValue metrics objective.sli = getValue otherMetrics objective.sli ∧
        getValue baselines objective.sli = getValue otherBaselines objective.sli := by
  induction first with
  | nil => exact fun objective impossible => absurd impossible List.not_mem_nil
  | cons here others ih =>
      cases second with
      | cons there rest =>
          rw [List.forall_mem_cons]
          have shown := ownRow_shows here
          have alsoShown := ownRow_shows there
          exact ⟨⟨shown.1.symm.trans alsoShown.1, shown.2.symm.trans alsoShown.2⟩,
            ih rest⟩

theorem evaluate_ids (evaluated : evaluate slo metrics baselines ids = .ok evalResult)
    (otherIds : List Nat) :
    evaluate slo metrics baselines otherIds =
      .ok { evalResult with comparedEvaluationIds := otherIds } := by
  rcases bind_eq_ok.mp evaluated with ⟨scored, looped, same⟩
  cases same
  exact bind_eq_ok.mpr ⟨scored, looped, rfl⟩

/-- Two evaluations of one SLO have the same outcome and the same indicator rows exactly when
they read the same numbers for every objective. -/
theorem sameOutcome_iff (distinct : sloDef.DistinctMetrics)
    (built : buildSloModel sloDef = .ok slo)
    (evaluated : evaluate slo metrics baselines ids = .ok evalResult)
    (otherEvaluated : evaluate slo otherMetrics otherBaselines otherIds = .ok otherResult) :
    (evalResult.result = otherResult.result ∧ evalResult.score = otherResult.score ∧
      buildIndicatorRows sloDef evalResult.indicatorResults =
        buildIndicatorRows sloDef otherResult.indicatorResults) ↔
      forall objective, objective ∈ sloDef.objectives.rows ->
        getValue metrics objective.sli = getValue otherMetrics objective.sli ∧
          getValue baselines objective.sli = getValue otherBaselines objective.sli := by
  constructor
  · rintro ⟨-, -, sameRows⟩
    have rows := buildIndicatorRows_own distinct built evaluated
    have otherRows := buildIndicatorRows_own distinct built otherEvaluated
    rw [<- sameRows] at otherRows
    exact ownRows_same rows otherRows
  · intro sameNumbers
    have numbers : forall obj, obj ∈ slo.objectives ->
        getValue metrics obj.sli = getValue otherMetrics obj.sli ∧
          getValue baselines obj.sli = getValue otherBaselines obj.sli := by
      rw [buildSloModel_objectives built]
      intro obj member
      rcases List.mem_map.mp member with ⟨objective, inside, same⟩
      rw [<- same]
      exact sameNumbers objective inside
    have congruent := evaluate_congr otherIds (fun obj member => (numbers obj member).1)
      fun obj member => (numbers obj member).2
    rw [evaluate_ids evaluated, otherEvaluated] at congruent
    rw [<- Except.ok.inj congruent]
    exact ⟨rfl, rfl, rfl⟩

end Shown

def jobOutcome (sloDef : SLODefinition) :
    Except WorkerError (Option FetchAndEvaluateResult) -> Option EvaluationResult
  | .ok (some fetchResult) =>
      if sloDef.DistinctMetrics then some fetchResult.evalResult else none
  | .ok none => none
  | .error _ => none

structure Stores (sloDef : SLODefinition) (outcome : Option EvaluationResult)
    (stored : SLOEvaluation) : Prop where
  result : stored.result = outcome.map fun evalResult => ResultValue.ofOutcome evalResult.result
  score : stored.score = outcome.map (·.score)
  indicatorRows : stored.indicatorRows.rows =
    (outcome.map fun evalResult => buildIndicatorRows sloDef evalResult.indicatorResults).getD []

structure Unscored (row : SLOEvaluation) : Prop where
  result : row.result = none
  score : row.score = none
  indicatorRows : row.indicatorRows = .empty

theorem Unscored.stores {row : SLOEvaluation} (unscored : Unscored row) (sloDef : SLODefinition) :
    Stores sloDef none row :=
  ⟨unscored.result, unscored.score, congrArg rows unscored.indicatorRows⟩

section Job

variable {settings : Settings} {input : PhaseInput} {message : Message} {db : Database}
  {row : SLOEvaluation} {sloDef : SLODefinition} {sliDef : SLIDefinition} {datasource : DataSource}

section

variable (unscored : Unscored row) (found : db.evaluations.find message.evalId = some row)

include unscored found

theorem stored_failing {fuel : Nat} {error : String} :
    Exists fun stored =>
      (runPhases settings input message (fuel + 1) db (.failing error)).1.evaluations.find
          message.evalId = some stored ∧ Stores sloDef none stored := by
  refine ⟨row.setFailed { error := some error }, ?_, unscored.result, unscored.score,
    congrArg rows unscored.indicatorRows⟩
  rw [runPhases_succ rfl]
  dsimp only
  rw [runPhases_finished]
  dsimp only
  unfold markFailed
  rw [find_update, if_pos rfl, found]
  rfl

theorem stored_writing {fuel : Nat} {snapshot : EvaluationSnapshot}
    {fetchResult : FetchAndEvaluateResult} (sameId : snapshot.evalId = message.evalId)
    (fits : fetchResult.FitsDefinition sloDef) :
    Exists fun stored =>
      (runPhases settings input message (fuel + 2) db
          (.writing snapshot sloDef fetchResult)).1.evaluations.find message.evalId = some stored ∧
        Stores sloDef (jobOutcome sloDef (.ok (some fetchResult))) stored := by
  have written := writeResults_of_unscored fits (sameId ▸ found) unscored.indicatorRows
  have inserted := bulkInsert_scored_isSome fits.1
  unfold jobOutcome
  dsimp only
  cases outcome : bulkInsert .empty
      (buildIndicatorRows sloDef fetchResult.evalResult.indicatorResults) with
  | none =>
      rw [outcome] at written inserted
      have repeated : ¬ sloDef.DistinctMetrics := fun distinct =>
        Bool.false_ne_true (inserted.mpr distinct)
      have advanced : advance settings input message db (.writing snapshot sloDef fetchResult) =
          some { db, phase := .raised .database } := by
        simp only [advance, written, Option.map_none]
      rw [if_neg repeated, runPhases_succ advanced, runPhases_raised]
      exact ⟨row, found, unscored.stores sloDef⟩
  | some indicatorRows =>
      rw [outcome] at written inserted
      have distinct := inserted.mp rfl
      let change : RowChange :=
        .completed (completedValues snapshot sloDef fetchResult) (some indicatorRows)
      have advanced : advance settings input message db (.writing snapshot sloDef fetchResult) =
          some {
            db := { db with
              evaluations := applyWrite (some ⟨snapshot.evalId, change⟩) db.evaluations }
            phase := .wrappingUp snapshot.parentRunId } := by
        simp only [advance, written, Option.map_some]
        rfl
      rw [if_pos distinct, runPhases_succ advanced, runPhases_succ rfl]
      dsimp only
      rw [runPhases_finished]
      refine ⟨change.apply row, ?_, ⟨rfl, rfl, ?_⟩⟩
      · dsimp only
        rw [find_applyWrite, found, Option.map_some]
        unfold rowAfter
        dsimp only
        rw [if_pos ((find_key found).trans sameId.symm)]
      · exact bulkInsert_rows outcome

end

/-- The job of an evaluation that has not been scored stores what phase 2b comes to, once its
predecessors have let it through. -/
theorem stored_of_job (settings : Settings) (input : PhaseInput) (unscored : Unscored row)
    (found : db.evaluations.find message.evalId = some row)
    (loads : Loads db row sloDef sliDef datasource) :
    Exists fun stored =>
      (runPhases settings input message 5 db .marking).1.evaluations.find message.evalId =
          some stored ∧
        Stores sloDef (jobOutcome sloDef (fetchAndEvaluate
          (markRunning db.evaluations message.evalId input.now input.workerId) (snapshotOf db row)
          sloDef sliDef datasource input.adapter)) stored := by
  let marked : Database := { db with
    evaluations := markRunning db.evaluations message.evalId input.now input.workerId }
  let markedRow := row.setRunning input.now input.workerId
  have markedFound : marked.evaluations.find message.evalId = some markedRow := by
    change (markRunning db.evaluations message.evalId _ _).find message.evalId = _
    unfold markRunning
    rw [find_update, if_pos rfl, found]
    rfl
  have stillUnscored : Unscored markedRow :=
    ⟨unscored.result, unscored.score, unscored.indicatorRows⟩
  have loading : loadingPhase marked (snapshotOf db row) =
      .fetching (snapshotOf db row) sloDef sliDef datasource := by
    rcases loadingPhase_cases db row with ⟨otherSlo, otherSli, otherSource, others, isPhase⟩ | missing
    · have same := loads.unique others
      change loadingPhase db (snapshotOf db row) = _
      rw [isPhase, same.1, same.2.1, same.2.2]
    · exact absurd loads (missing.1 _ _ _)
  have marking : advance settings input message db .marking =
      some { db := marked, phase := .loading (snapshotOf db row) } := by
    rw [advance_marking, found]
    rfl
  rw [runPhases_succ marking, runPhases_succ rfl]
  dsimp only
  rw [loading, runPhases_succ rfl]
  dsimp only
  change Exists fun stored => _ ∧ Stores sloDef (jobOutcome sloDef (fetchAndEvaluate
    marked.evaluations (snapshotOf db row) sloDef sliDef datasource input.adapter)) stored
  have rowKey : row.id = message.evalId := find_key found
  cases fetched : fetchAndEvaluate marked.evaluations (snapshotOf db row) sloDef sliDef datasource
      input.adapter with
  | error failure =>
      have raised : fetchingPhase marked (snapshotOf db row) sloDef sliDef datasource
          input.adapter = .raised failure := by
        unfold fetchingPhase
        rw [fetched]
      rw [raised, runPhases_raised]
      exact ⟨markedRow, markedFound, stillUnscored.stores sloDef⟩
  | ok result =>
      cases result with
      | none =>
          have failing : fetchingPhase marked (snapshotOf db row) sloDef sliDef datasource
              input.adapter = .failing "adapter query failed" := by
            unfold fetchingPhase
            rw [fetched]
          rw [failing]
          exact stored_failing stillUnscored markedFound
      | some fetchResult =>
          have writing : fetchingPhase marked (snapshotOf db row) sloDef sliDef datasource
              input.adapter = .writing (snapshotOf db row) sloDef fetchResult := by
            unfold fetchingPhase
            rw [fetched]
          rw [writing]
          exact stored_writing stillUnscored markedFound rowKey (fetchingPhase_writing writing).2.2

end Job

section

variable {request : TriggerRequest} {db next : Database}
  (committed : triggerCommit request db = some next)

include committed

theorem triggerCommit_history :
    next.evaluations.rows.filter SLOEvaluation.inHistory =
      db.evaluations.rows.filter SLOEvaluation.inHistory := by
  unfold triggerCommit at committed
  split at committed
  · rcases createAll_rows committed with ⟨rows, appended, origin⟩
    have none : rows.filter SLOEvaluation.inHistory = [] := by
      apply List.filter_eq_nil_iff.mpr
      intro row member
      rcases origin row member with ⟨ctx, assetTags, _, same⟩
      rw [same]
      exact Bool.false_ne_true
    rw [appended, List.filter_append, none, List.append_nil]
  · cases committed

theorem triggerCommit_run :
    (next.runs.find request.runId).bind (·.compareTo) = request.compareTo := by
  unfold triggerCommit at committed
  split at committed
  · rw [(createAll_committed ?_ committed).1]
    · dsimp only
      rw [find_insert, if_pos rfl]
      rfl
    · dsimp only
      rw [find_insert, if_pos rfl]
      exact Option.some_ne_none _
  · cases committed

end

theorem markRunning_history {table : Evaluations} {id : Nat} {row : SLOEvaluation}
    (found : table.find id = some row) (apart : row.inHistory = false) (now : Instant)
    (workerId : Option String) :
    (markRunning table id now workerId).rows.filter SLOEvaluation.inHistory =
      table.rows.filter SLOEvaluation.inHistory := by
  unfold markRunning
  rw [update_rows]
  apply filter_map_of_unchanged
  intro other member
  by_cases same : other.id = id
  · have isRow : other = row := by
      rw [<- same, find_of_mem member] at found
      exact Option.some.inj found
    rw [if_pos same, isRow]
    have unpinned : row.isPinned = false := (Bool.or_eq_false_iff.mp apart).2
    exact Or.inr ⟨apart, unpinned⟩
  · exact Or.inl (if_neg same)

end SloTest
end Tropek
