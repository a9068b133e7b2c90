import Tropek.Maintenance.Operations
import Tropek.Presentation.Fragments
import Tropek.ReEvaluation.Recorded
import Tropek.Worker.Snapshots

namespace Tropek
namespace Presentation

open Library TransitionSystem Engine Store ReEvaluation KeyedTable Fallible

/-!
# Scorings and measured values

An evaluation is scored by the worker, and again by every re-evaluation whose window holds
it.  A scoring leaves one indicator row for each objective of the version, with the value
that it had for the metric.

The worker then stores the values of the metrics a second time, for the trends.  That is
phase 3b of the job, in a transaction of its own: when the execution dies before it, the
evaluation stays without them.  A re-evaluation neither reads nor writes them.
-/

/-! ## Phase 3b -/

/-- The row of `_build_sli_rows` for one result. -/
def buildSliRow (evalId : Nat) (indicatorResult : IndicatorResult) : SLIValue :=
  { sloEvaluationId := evalId
    metricName := indicatorResult.metric
    value := indicatorResult.value.getD 0 }

def buildSliRows (evalId : Nat) (indicatorResults : List IndicatorResult) : List SLIValue :=
  indicatorResults.map (buildSliRow evalId)

/-- The primary key.  Its other two columns, the start of the period and the aggregation,
follow from the evaluation and the metric. -/
def SLIValue.key (sliValue : SLIValue) : Nat × String :=
  (sliValue.sloEvaluationId, sliValue.metricName)

def writeSliValues (table rows : List SLIValue) : Option (List SLIValue) :=
  if ((table ++ rows).map SLIValue.key).Nodup then some (table ++ rows) else none

/-! ## The worker and the users together -/

structure ScoredExecution where
  executionId : Nat
  evalId : Nat
  indicatorResults : List IndicatorResult

structure Installation where
  world : Worker.World
  sliValues : List SLIValue := []
  scored : List ScoredExecution := []

inductive Event where
  | work (action : Worker.Action)
  | writeSliValues (executionId : Nat)
  | maintain (operation : Maintenance.Operation)

/-- What an execution is about to commit in phase 3a, unless the database refuses it. -/
def writingOf (w : Worker.World) (executionId : Nat) :
    Option (Worker.EvaluationSnapshot × SLODefinition × Worker.FetchAndEvaluateResult) :=
  (w.executions.find executionId).bind fun execution =>
    match execution.phase with
    | .writing snapshot sloDef fetchResult =>
        if (Worker.writeResults w.db snapshot sloDef fetchResult).isSome then
          some (snapshot, sloDef, fetchResult)
        else none
    | _ => none

/-- The executions whose phase 3b comes next, after an action of the worker. -/
def scoredAfter (installation : Installation) : Worker.Action -> List ScoredExecution
  | .advance executionId _ _ _ =>
      match writingOf installation.world executionId with
      | none => installation.scored
      | some (snapshot, _, fetchResult) => installation.scored ++ [{
          executionId
          evalId := snapshot.evalId
          indicatorResults := fetchResult.evalResult.indicatorResults }]
  | .crash executionId => installation.scored.filter (·.executionId ≠ executionId)
  | _ => installation.scored

def awaitsValues (installation : Installation) : Worker.Action -> Bool
  | .advance executionId _ _ _ => installation.scored.any (·.executionId = executionId)
  | _ => false

def raised (execution : Worker.Execution) : Worker.Execution :=
  { execution with phase := .raised .database }

theorem raised_id (execution : Worker.Execution) : (raised execution).id = execution.id :=
  rfl

def Event.sliRows (installation : Installation) : Event -> List SLIValue
  | .writeSliValues executionId =>
      match installation.scored.find? (·.executionId = executionId) with
      | none => []
      | some scored =>
          let rows := buildSliRows scored.evalId scored.indicatorResults
          if (Presentation.writeSliValues installation.sliValues rows).isSome then rows else []
  | _ => []

/-- Phase 3b comes after the commit of phase 3a and before anything else that the job
does.  When its insertion is refused, the job raises, and the evaluation stays
completed. -/
def step (settings : Worker.Settings) (installation : Installation) : Event -> Option Installation
  | .work action =>
      if awaitsValues installation action then none
      else do
        let world <- Worker.step settings installation.world action
        some { installation with world, scored := scoredAfter installation action }
  | .writeSliValues executionId => do
      let scored <- installation.scored.find? (·.executionId = executionId)
      let remaining := installation.scored.filter (·.executionId ≠ executionId)
      let rows := buildSliRows scored.evalId scored.indicatorResults
      match Presentation.writeSliValues installation.sliValues rows with
      | some sliValues => some { installation with sliValues, scored := remaining }
      | none => some { installation with
          scored := remaining
          world := { installation.world with
            executions := installation.world.executions.update executionId raised raised_id } }
  | .maintain operation => do
      let db <- Maintenance.step installation.world.db operation
      some { installation with world := { installation.world with db } }

/-- No evaluation has been triggered, and no value is stored. -/
structure Installation.Initial (installation : Installation) : Prop where
  world : installation.world.Initial
  noValues : installation.sliValues = []
  noneScored : installation.scored = []

/-! ## Scorings -/

/-- The values that an evaluation is scored on, and the version that has the objectives. -/
structure Scoring where
  metrics : Dict (Option ℚ)
  sloDef : SLODefinition

/-- The event scores the evaluation: it commits phase 3a, or it is a re-evaluation after
which the row of the evaluation is what this scoring has written. -/
inductive Scores (installation : Installation) : Event -> Nat -> Scoring -> Prop where
  | worker {executionId : Nat} {workerId : Option String} {checkFails : Bool}
      {adapter : Worker.AdapterQuery -> Worker.AdapterOutcome}
      {snapshot : Worker.EvaluationSnapshot} {sloDef : SLODefinition}
      {fetchResult : Worker.FetchAndEvaluateResult}
      (writing : writingOf installation.world executionId = some (snapshot, sloDef, fetchResult)) :
      Scores installation (.work (.advance executionId workerId checkFails adapter)) snapshot.evalId
        { metrics := fetchResult.metricsFetched, sloDef }
  | reEvaluation {assigned : Nat -> List String} {clock : Nat -> Instant}
      {request : ReEvaluateRequest} {last : Database} {response : ReEvaluateResponse} {asset : Asset}
      {names : List String} {window : Window} {evalId : Nat} {middle after : SLOEvaluation}
      {baselines : Dict (Option ℚ)} {comparedIds : List Nat} {evalResult : EvaluationResult}
      (ran : reEvaluate assigned clock installation.world.db request = .ok (last, response))
      (real : request.dryRun = false)
      (scoring : LastScoring request clock asset.id installation.world.db names evalId window middle
        baselines comparedIds evalResult)
      (stored : last.evaluations.find evalId = some after)
      (written : Written window evalResult middle after) :
      Scores installation (.maintain (.reEvaluate assigned clock request)) evalId
        { metrics := metricsFromIndicatorRows middle.indicatorRows.rows, sloDef := window.sloDef }

/-! ## The row of a scored objective -/

/-- An indicator result has the value of its metric, and the changes that follow. -/
structure Measures (metrics : Dict (Option ℚ)) (indicator : IndicatorResult) : Prop where
  value : indicator.value = getValue metrics indicator.metric
  changeAbsolute :
    indicator.changeAbsolute = Engine.changeAbsolute indicator.value indicator.comparedValue
  changeRelativePct :
    indicator.changeRelativePct = Engine.changeRelativePct indicator.value indicator.comparedValue

variable {baselines metrics : Dict (Option ℚ)} {objective : SLOObjectiveRow}
  {indicatorResults : List IndicatorResult} {sloDef : SLODefinition}
  {fetchResult : Worker.FetchAndEvaluateResult} {snapshot : Worker.EvaluationSnapshot}
  {settings : Worker.Settings} {action : Worker.Action} {w : Worker.World} {write : Worker.Write}

theorem evaluateObjective_measures {objective : SLOObjective}
    {pair : ObjectiveResult × IndicatorResult}
    (evaluated : evaluateObjective metrics baselines objective = .ok pair) :
    Measures metrics pair.2 := by
  rcases bind_eq_ok.mp evaluated with ⟨_, _, evaluated⟩
  rcases bind_eq_ok.mp evaluated with ⟨_, _, evaluated⟩
  rcases bind_eq_ok.mp evaluated with ⟨_, _, same⟩
  cases same
  exact ⟨rfl, rfl, rfl⟩

theorem evaluate_measures {slo : SLO} {ids : List Nat} {evalResult : EvaluationResult}
    (evaluated : evaluate slo metrics baselines ids = .ok evalResult) :
    forall indicator, indicator ∈ evalResult.indicatorResults -> Measures metrics indicator := by
  rcases evaluate_eq_ok evaluated with ⟨scored, related, _, _, same, _⟩
  intro indicator member
  rw [same] at member
  rcases List.mem_map.mp member with ⟨pair, inside, isPair⟩
  rcases mem_related related.flip inside with ⟨objective, _, here⟩
  rw [<- isPair]
  exact evaluateObjective_measures here

structure HasValue (expected : Option ℚ) (row : IndicatorResultRow) : Prop where
  value : row.value = expected
  changeAbsolute : row.changeAbsolute = Engine.changeAbsolute expected row.comparedValue
  changeRelativePct : row.changeRelativePct = Engine.changeRelativePct expected row.comparedValue

theorem exists_row (distinct : sloDef.DistinctMetrics)
    (named : indicatorResults.map (·.metric) = sloDef.objectives.rows.map (·.sli))
    (measured : forall indicator, indicator ∈ indicatorResults -> Measures metrics indicator)
    (listed : objective ∈ sloDef.objectives.rows) :
    Exists fun row => row ∈ buildIndicatorRows sloDef indicatorResults ∧
      row.objective = objective ∧ HasValue (getValue metrics objective.sli) row := by
  have metric : objective.sli ∈ indicatorResults.map (·.metric) :=
    named ▸ List.mem_map_of_mem listed
  rcases List.mem_map.mp metric with ⟨indicator, member, isMetric⟩
  have built : Exists fun row => buildIndicatorRow sloDef indicator = some row ∧
      row.objective = objective ∧ row.value = indicator.value ∧
      row.comparedValue = indicator.comparedValue ∧
      row.changeAbsolute = indicator.changeAbsolute ∧
      row.changeRelativePct = indicator.changeRelativePct := by
    unfold buildIndicatorRow
    rw [isMetric, objectiveLookup_of_distinct distinct listed]
    exact ⟨_, rfl, rfl, rfl, rfl, rfl, rfl⟩
  rcases built with ⟨row, isRow, isObjective, value, compared, absolute, relative⟩
  have measures := measured indicator member
  have same : indicator.value = getValue metrics objective.sli := isMetric ▸ measures.value
  refine ⟨row, List.mem_filterMap.mpr ⟨indicator, member, isRow⟩, isObjective, ?_⟩
  exact {
    value := value.trans same
    changeAbsolute := by
      rw [absolute, measures.changeAbsolute, compared, same]
    changeRelativePct := by
      rw [relative, measures.changeRelativePct, compared, same] }

theorem distinct_of_inserted
    (named : indicatorResults.map (·.metric) = sloDef.objectives.rows.map (·.sli))
    (inserted : ((buildIndicatorRows sloDef indicatorResults).map
      IndicatorResultRow.sloObjectiveId).Nodup) :
    sloDef.DistinctMetrics := by
  have ids : (buildIndicatorRows sloDef indicatorResults).map IndicatorResultRow.sloObjectiveId =
      (scoredObjectives sloDef).map (·.id) := by
    rw [<- buildIndicatorRows_objectives named, List.map_map]
    rfl
  rw [ids] at inserted
  exact (scoredObjectives_nodup sloDef).mp inserted

/-- After a scoring, the evaluation has a row for the objective, with the value that the
metric had in the scoring. -/
def ShowsScoring (scoring : Scoring) (objective : SLOObjectiveRow) (row : SLOEvaluation) : Prop :=
  Exists fun indicator => row.indicatorRows.find objective.id = some indicator ∧
    indicator.objective = objective ∧
      HasValue (getValue scoring.metrics objective.sli) indicator

theorem showsScoring_of_rows {scoring : Scoring} {row : SLOEvaluation}
    {others : List IndicatorResultRow}
    (rows : row.indicatorRows.rows = others ++ buildIndicatorRows scoring.sloDef indicatorResults)
    (named : indicatorResults.map (·.metric) = scoring.sloDef.objectives.rows.map (·.sli))
    (measured : forall indicator, indicator ∈ indicatorResults ->
      Measures scoring.metrics indicator)
    (listed : objective ∈ scoring.sloDef.objectives.rows) : ShowsScoring scoring objective row := by
  have distinct : scoring.sloDef.DistinctMetrics := by
    have nodup := row.indicatorRows.nodup
    rw [rows, List.map_append] at nodup
    exact distinct_of_inserted named (List.nodup_append.mp nodup).2.1
  rcases exists_row distinct named measured listed with ⟨indicator, member, isObjective, value⟩
  have inside : indicator ∈ row.indicatorRows.rows := by
    rw [rows]
    exact List.mem_append_right _ member
  have found := find_of_mem inside
  have isId : indicator.sloObjectiveId = objective.id := congrArg SLOObjectiveRow.id isObjective
  rw [isId] at found
  exact ⟨indicator, found, isObjective, value⟩

/-! ## Scorings of the worker -/

/-- What an execution is about to write was scored on the metrics that it has fetched. -/
structure ResultMeasures (sloDef : SLODefinition) (fetchResult : Worker.FetchAndEvaluateResult) :
    Prop where
  fits : fetchResult.FitsDefinition sloDef
  measures : forall indicator, indicator ∈ fetchResult.evalResult.indicatorResults ->
    Measures fetchResult.metricsFetched indicator

def AllMeasure (w : Worker.World) : Prop :=
  forall execution, execution ∈ w.executions.rows -> forall snapshot sloDef fetchResult,
    execution.phase = .writing snapshot sloDef fetchResult -> ResultMeasures sloDef fetchResult

theorem evaluateResponse_measures {table : Evaluations} {slo : SLO} {values : Dict (Option ℚ)}
    {errors : Dict String}
    (evaluated : Worker.evaluateResponse table snapshot slo values errors = .ok fetchResult) :
    forall indicator, indicator ∈ fetchResult.evalResult.indicatorResults ->
      Measures fetchResult.metricsFetched indicator := by
  rcases bind_eq_ok.mp evaluated with ⟨_, _, evaluated⟩
  rcases bind_eq_ok.mp evaluated with ⟨evalResult, scored, same⟩
  cases same
  exact evaluate_measures (mapError_eq_ok scored)

theorem nextPhase_measures {input : Worker.PhaseInput} {message : Worker.Message} {db : Database}
    {phase : Worker.Phase}
    (writes : Worker.nextPhase settings input message db phase =
      .writing snapshot sloDef fetchResult) :
    ResultMeasures sloDef fetchResult := by
  cases phase with
  | fetching other otherDef sliDef datasource =>
      have scored : Worker.fetchingPhase db other otherDef sliDef datasource input.adapter =
          .writing snapshot sloDef fetchResult := writes
      rcases Worker.fetchingPhase_eq_writing scored with ⟨_, _, fetched⟩
      rcases Worker.fetchAndEvaluate_eq_some fetched with ⟨_, _, _, _, evaluated⟩
      exact ⟨(Worker.fetchingPhase_writing scored).2.1 ▸ (Worker.fetchingPhase_writing scored).2.2,
        evaluateResponse_measures evaluated⟩
  | checking =>
      unfold Worker.nextPhase at writes
      dsimp only at writes
      split at writes <;> cases writes
  | marking =>
      unfold Worker.nextPhase at writes
      dsimp only at writes
      cases found : db.evaluations.find message.evalId with
      | none =>
          rw [found] at writes
          cases writes
      | some row =>
          rw [found] at writes
          cases writes
  | loading other =>
      have loaded : Worker.loadingPhase db other = .writing snapshot sloDef fetchResult := writes
      rcases Worker.loadingPhase_snapshot? db other with ⟨_, _, _, fetching⟩ | empty
      · rw [fetching] at loaded
        cases loaded
      · rw [loaded] at empty
        cases empty
  | writing other otherDef otherResult =>
      unfold Worker.nextPhase at writes
      dsimp only at writes
      split at writes <;> cases writes
  | _ => cases writes

theorem AllMeasure.step {next : Worker.World} (all : AllMeasure w)
    (stepped : Worker.step settings w action = some next) : AllMeasure next := by
  intro execution member snapshot sloDef fetchResult phase
  rcases Worker.step_execution stepped member with inside | delivered | ⟨old, input, inside, same, _⟩
  · exact all execution inside snapshot sloDef fetchResult phase
  · rw [delivered] at phase
    cases phase
  · rw [same] at phase
    exact nextPhase_measures phase

theorem writingOf_eq_some {executionId : Nat}
    (writing : writingOf w executionId = some (snapshot, sloDef, fetchResult)) :
    (Exists fun execution => w.executions.find executionId = some execution ∧
      execution.phase = .writing snapshot sloDef fetchResult) ∧
    Exists fun write =>
      Worker.completedWrite w.db.evaluations snapshot sloDef fetchResult = some write := by
  rcases Option.bind_eq_some_iff.mp writing with ⟨execution, found, writing⟩
  cases phase : execution.phase with
  | writing heldSnapshot heldDef heldResult =>
      rw [phase] at writing
      dsimp only at writing
      split at writing
      · rename_i accepted
        cases writing
        refine ⟨⟨execution, found, phase⟩, ?_⟩
        rw [Worker.writeResults_eq, Option.isSome_map] at accepted
        exact Option.isSome_iff_exists.mp accepted
      · cases writing
  | _ =>
      rw [phase] at writing
      cases writing

theorem completedWrite_rows (fits : fetchResult.FitsDefinition sloDef)
    (written : Worker.completedWrite w.db.evaluations snapshot sloDef fetchResult = some write) :
    write.evalId = snapshot.evalId ∧ Exists fun before =>
      w.db.evaluations.find snapshot.evalId = some before ∧
        (Worker.rowAfter (some write) before).indicatorRows.rows = before.indicatorRows.rows ++
          buildIndicatorRows sloDef fetchResult.evalResult.indicatorResults := by
  rcases Worker.completedWrite_eq_some fits written with
    ⟨before, indicatorRows, found, inserted, same⟩
  have isBefore : before.id = snapshot.evalId := find_key found
  rw [same]
  refine ⟨rfl, before, found, ?_⟩
  unfold Worker.rowAfter
  dsimp only
  rw [if_pos isBefore]
  exact bulkInsert_rows inserted

theorem write_completes (written : action.write settings w = some write)
    (completion : write.change.isCompletion = true) :
    Exists fun executionId => Exists fun workerId => Exists fun checkFails => Exists fun adapter =>
      Exists fun snapshot => Exists fun sloDef => Exists fun fetchResult =>
        action = .advance executionId workerId checkFails adapter ∧
          writingOf w executionId = some (snapshot, sloDef, fetchResult) ∧
          Worker.completedWrite w.db.evaluations snapshot sloDef fetchResult = some write := by
  cases action with
  | advance executionId workerId checkFails adapter =>
      rcases Option.bind_eq_some_iff.mp written with ⟨execution, found, written⟩
      cases phase : execution.phase with
      | writing snapshot sloDef fetchResult =>
          rw [phase] at written
          have accepted : Worker.completedWrite w.db.evaluations snapshot sloDef fetchResult =
              some write := written
          refine ⟨executionId, workerId, checkFails, adapter, snapshot, sloDef, fetchResult, rfl,
            ?_, accepted⟩
          unfold writingOf
          rw [found, Option.bind_some, phase]
          dsimp only
          rw [Worker.writeResults_eq, accepted]
          rfl
      | marking =>
          rw [phase] at written
          cases written
          cases completion
      | failing error =>
          rw [phase] at written
          cases written
          cases completion
      | _ =>
          rw [phase] at written
          cases written
  | watchdogUpdate tickId =>
      rcases Option.bind_eq_some_iff.mp written with ⟨tick, found, written⟩
      rcases Option.map_eq_some_iff.mp written with ⟨stuckEval, _, same⟩
      subst same
      unfold Worker.watchdogWrite at completion
      dsimp only at completion
      split at completion <;> cases completion
  | _ => cases written

/-! ## One event -/

section Events

variable {settings : Worker.Settings} {installation next : Installation} {event : Event}

theorem step_work {action : Worker.Action}
    (stepped : step settings installation (.work action) = some next) :
    Exists fun world => Worker.step settings installation.world action = some world ∧
      next = { installation with world, scored := scoredAfter installation action } := by
  unfold step at stepped
  dsimp only at stepped
  split at stepped
  · cases stepped
  · rcases Option.bind_eq_some_iff.mp stepped with ⟨world, worked, same⟩
    exact ⟨world, worked, (Option.some.inj same).symm⟩

theorem step_maintain {operation : Maintenance.Operation}
    (stepped : step settings installation (.maintain operation) = some next) :
    Exists fun db => Maintenance.step installation.world.db operation = some db ∧
      next = { installation with world := { installation.world with db } } := by
  rcases Option.bind_eq_some_iff.mp stepped with ⟨db, maintained, same⟩
  exact ⟨db, maintained, (Option.some.inj same).symm⟩

theorem step_writeSliValues {executionId : Nat}
    (stepped : step settings installation (.writeSliValues executionId) = some next) :
    next.world.db = installation.world.db ∧
      next.sliValues =
        installation.sliValues ++ (Event.writeSliValues executionId).sliRows installation ∧
      (forall execution, execution ∈ next.world.executions.rows ->
        execution ∈ installation.world.executions.rows ∨ execution.phase = .raised .database) := by
  rcases Option.bind_eq_some_iff.mp stepped with ⟨scored, found, stepped⟩
  have inserts : (Event.writeSliValues executionId).sliRows installation =
      if (writeSliValues installation.sliValues
          (buildSliRows scored.evalId scored.indicatorResults)).isSome then
        buildSliRows scored.evalId scored.indicatorResults
      else [] := by
    unfold Event.sliRows
    dsimp only
    rw [found]
  dsimp only at stepped
  rw [inserts]
  unfold writeSliValues at stepped ⊢
  split at stepped
  · rename_i sliValues accepted
    cases stepped
    split at accepted
    · rename_i fresh
      cases accepted
      rw [if_pos fresh]
      exact ⟨rfl, rfl, fun execution member => Or.inl member⟩
    · cases accepted
  · rename_i refused
    cases stepped
    split at refused
    · cases refused
    · rename_i taken
      rw [if_neg taken]
      refine ⟨rfl, (List.append_nil _).symm, fun execution member => ?_⟩
      rcases (mem_update _ _ _ raised_id _).mp member with ⟨inside, _⟩ | ⟨old, _, same⟩
      · exact Or.inl inside
      · rw [<- same]
        exact Or.inr rfl

theorem step_sliValues (stepped : step settings installation event = some next) :
    next.sliValues = installation.sliValues ++ event.sliRows installation := by
  cases event with
  | work action =>
      rcases step_work stepped with ⟨world, _, same⟩
      rw [same]
      exact (List.append_nil _).symm
  | maintain operation =>
      rcases step_maintain stepped with ⟨db, _, same⟩
      rw [same]
      exact (List.append_nil _).symm
  | writeSliValues executionId => exact (step_writeSliValues stepped).2.1

theorem step_allMeasure (all : AllMeasure installation.world)
    (stepped : step settings installation event = some next) : AllMeasure next.world := by
  cases event with
  | work action =>
      rcases step_work stepped with ⟨world, worked, same⟩
      rw [same]
      exact all.step worked
  | maintain operation =>
      rcases step_maintain stepped with ⟨db, _, same⟩
      rw [same]
      exact all
  | writeSliValues executionId =>
      intro execution member snapshot sloDef fetchResult phase
      rcases (step_writeSliValues stepped).2.2 execution member with inside | raised
      · exact all execution inside snapshot sloDef fetchResult phase
      · rw [raised] at phase
        cases phase

theorem Scores.shows {evalId : Nat} {scoring : Scoring} {objective : SLOObjectiveRow}
    (scores : Scores installation event evalId scoring) (all : AllMeasure installation.world)
    (stepped : step settings installation event = some next)
    (listed : objective ∈ scoring.sloDef.objectives.rows) :
    Exists fun row => next.world.db.evaluations.find evalId = some row ∧
      ShowsScoring scoring objective row := by
  cases scores with
  | @worker executionId workerId checkFails adapter snapshot sloDef fetchResult writing =>
      rcases writingOf_eq_some writing with ⟨⟨execution, found, phase⟩, write, completed⟩
      have result := all execution (find_mem found) _ _ _ phase
      rcases completedWrite_rows result.fits completed with ⟨_, before, stored, rows⟩
      rcases step_work stepped with ⟨world, worked, same⟩
      have written : (Worker.Action.advance executionId workerId checkFails adapter).write settings
          installation.world = some write := by
        unfold Worker.Action.write
        dsimp only
        rw [found, Option.bind_some, phase]
        exact completed
      have after := Worker.step_find worked stored
      rw [written] at after
      rw [same]
      exact ⟨_, after, showsScoring_of_rows rows result.fits.1 result.measures listed⟩
  | @reEvaluation assigned clock request last response asset names window _ middle after baselines
      comparedIds evalResult ran real scoring stored written =>
      rcases step_maintain stepped with ⟨db, maintained, same⟩
      have isLast : db = last := by
        unfold Maintenance.step at maintained
        dsimp only at maintained
        rw [ran] at maintained
        exact (Option.some.inj maintained).symm
      rw [same, isLast]
      refine ⟨after, stored, ?_⟩
      rcases scoring.pass with ⟨_, _, _, _, _, _, _, _, _, _, _, _, _, scored⟩
      rcases written with ⟨now, indicatorRows, rows, isAfter⟩
      have named := evaluate_metrics scored.evaluated
      rw [window.metrics] at named
      have alone : after.indicatorRows.rows =
          [] ++ buildIndicatorRows window.sloDef evalResult.indicatorResults := by
        rw [isAfter]
        exact rows
      exact showsScoring_of_rows alone named (evaluate_measures scored.evaluated) listed

theorem indicatorRows_of_unscored {evalId : Nat} {row : SLOEvaluation}
    (all : AllMeasure installation.world)
    (stepped : step settings installation event = some next)
    (stored : installation.world.db.evaluations.find evalId = some row)
    (unscored : forall scoring, ¬ Scores installation event evalId scoring) :
    Exists fun after => next.world.db.evaluations.find evalId = some after ∧
      after.indicatorRows = row.indicatorRows := by
  cases event with
  | writeSliValues executionId =>
      rw [(step_writeSliValues stepped).1]
      exact ⟨row, stored, rfl⟩
  | work action =>
      rcases step_work stepped with ⟨world, worked, same⟩
      rw [same]
      refine ⟨_, Worker.step_find worked stored, ?_⟩
      rcases Worker.rowAfter_cases (action.write settings installation.world) row with
        same | ⟨write, written, targeted, same⟩
      · rw [same]
      · rw [same]
        cases completion : write.change.isCompletion with
        | false =>
            cases changeIs : write.change with
            | completed values indicatorRows =>
                rw [changeIs] at completion
                cases completion
            | _ => rfl
        | true =>
            rcases write_completes written completion with
              ⟨executionId, workerId, checkFails, adapter, snapshot, sloDef, fetchResult, isAdvance,
                writing, completed⟩
            rcases writingOf_eq_some writing with ⟨⟨execution, found, phase⟩, _⟩
            have result := all execution (find_mem found) _ _ _ phase
            have isTarget := (completedWrite_rows result.fits completed).1
            have isRow : row.id = evalId := find_key stored
            have isEval : snapshot.evalId = evalId := by
              rw [<- isTarget, <- targeted, isRow]
            rw [isAdvance, <- isEval] at unscored
            exact absurd (Scores.worker writing) (unscored _)
  | maintain operation =>
      rcases step_maintain stepped with ⟨db, maintained, same⟩
      rw [same]
      rcases Maintenance.step_cases maintained with
        ⟨body, firstId, isCreate, created⟩ | ⟨assigned, clock, request, response, isReEvaluation, ran⟩ |
          ⟨evaluations, onTable, isNext⟩
      · refine ⟨row, ?_, rfl⟩
        change db.evaluations.find evalId = some row
        rw [Maintenance.createSloDefinition_evaluations created]
        exact stored
      · have isRow : row.id = evalId := find_key stored
        cases dry : request.dryRun with
        | true =>
            rcases reEvaluate_eq_ok.mp ran with ⟨_, _, _, _, _, looped, _⟩
            have sameRequest : { request with dryRun := true } = request := by rw [<- dry]
            rw [<- sameRequest] at looped
            refine ⟨row, ?_, rfl⟩
            change db.evaluations.find evalId = some row
            rw [reEvaluateSlos_dry looped]
            exact stored
        | false =>
            rcases reEvaluate_recorded dry ran with ⟨kept, rewritten⟩
            by_cases reported : evalId ∈ response.results.map (·.id)
            · rw [<- isRow] at reported
              rcases rewritten row (find_mem stored) reported with
                ⟨asset, names, window, middle, baselines, comparedIds, evalResult, after, _, _, scoring,
                  found, written, _⟩
              rw [isReEvaluation] at unscored
              rw [isRow] at scoring found
              exact absurd (Scores.reEvaluation ran dry scoring found written) (unscored _)
            · exact ⟨row, (kept evalId reported).trans stored, rfl⟩
      · have unchanged := Maintenance.onTable_indicatorRows onTable
        rcases find_related (fun _ _ here => here.1) unchanged stored with
          ⟨after, found, _, sameRows⟩
        refine ⟨after, ?_, sameRows⟩
        change db.evaluations.find evalId = some after
        rw [isNext]
        exact found

end Events

/-! ## Runs -/

def WritesMetric (evalId : Nat) (metric : String) (installation : Installation) (event : Event) :
    Prop :=
  (evalId, metric) ∈ (event.sliRows installation).map SLIValue.key

instance (evalId : Nat) (metric : String) (installation : Installation) (event : Event) :
    Decidable (WritesMetric evalId metric installation event) :=
  inferInstanceAs (Decidable (_ ∈ _))

section Runs

variable {settings : Worker.Settings} {evalId : Nat} {start final : Installation}
  {events : List Event}

theorem mem_sliValues_iff {metric : String}
    (ran : exec (step settings) start events = some final) :
    (evalId, metric) ∈ final.sliValues.map SLIValue.key ↔
      (evalId, metric) ∈ start.sliValues.map SLIValue.key ∨
        ¬ Along (step settings) (fun state event => ¬ WritesMetric evalId metric state event)
          start events := by
  induction events generalizing start with
  | nil =>
      cases ran
      exact ⟨Or.inl, fun either => either.resolve_right fun never => never trivial⟩
  | cons event rest ih =>
      rcases exec_cons ran with ⟨next, stepped, ran⟩
      rw [ih ran, along_cons_iff stepped, step_sliValues stepped, List.map_append,
        List.mem_append]
      unfold WritesMetric
      by_cases writes : (evalId, metric) ∈ (event.sliRows start).map SLIValue.key
      · exact ⟨fun _ => Or.inr fun both => both.1 writes, fun _ => Or.inl (Or.inr writes)⟩
      · rw [or_iff_left writes, and_iff_right writes]

theorem exec_allMeasure (initial : start.Initial)
    (ran : exec (step settings) start events = some final) : AllMeasure final.world := by
  let invariant (state : Installation) : Prop := AllMeasure state.world
  have holds : invariant start := by
    intro execution member
    rw [initial.world.noExecutions] at member
    exact absurd member List.not_mem_nil
  have kept : invariant final :=
    exec_preserves (fun _ _ _ all stepped => step_allMeasure all stepped) holds ran
  exact kept

theorem exec_shows {scoring : Scoring} {objective : SLOObjectiveRow} {row : SLOEvaluation}
    (all : AllMeasure start.world) (stored : start.world.db.evaluations.find evalId = some row)
    (shown : ShowsScoring scoring objective row)
    (unscored : Along (step settings)
      (fun state event => forall other, ¬ Scores state event evalId other) start events)
    (ran : exec (step settings) start events = some final) :
    Exists fun after => final.world.db.evaluations.find evalId = some after ∧
      ShowsScoring scoring objective after := by
  let invariant (state : Installation) : Prop := AllMeasure state.world ∧
    Exists fun after => state.world.db.evaluations.find evalId = some after ∧
      ShowsScoring scoring objective after
  have kept : invariant final := by
    refine exec_preserves_along ?_ ⟨all, row, stored, shown⟩ unscored ran
    rintro state event next ⟨measures, before, found, shownBefore⟩ spared stepped
    refine ⟨step_allMeasure measures stepped, ?_⟩
    rcases indicatorRows_of_unscored measures stepped found spared with ⟨after, foundAfter, same⟩
    refine ⟨after, foundAfter, ?_⟩
    unfold ShowsScoring
    rw [same]
    exact shownBefore
  exact kept.2

end Runs

end Presentation
end Tropek
