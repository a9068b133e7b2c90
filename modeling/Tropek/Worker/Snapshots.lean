import Tropek.Worker.Transactions

namespace Tropek
namespace Worker

open Library Engine Store TransitionSystem KeyedTable

/-!
# Snapshots

A job copies the row of its message in phase 1 and works with the copy from then
on.  What identifies an evaluation and what it is scored with are the same in the
copy and in the row in every reachable world: no transaction changes them, not
even a completion, which writes the SLO name and version of the copy.
-/

def Phase.snapshot? : Phase -> Option EvaluationSnapshot
  | .loading snapshot => some snapshot
  | .fetching snapshot _ _ _ => some snapshot
  | .writing snapshot _ _ => some snapshot
  | _ => none

def Phase.sloDef? : Phase -> Option SLODefinition
  | .fetching _ sloDef _ _ => some sloDef
  | .writing _ sloDef _ => some sloDef
  | _ => none

/-- The copy and the row agree on the series, the period and the SLO version. -/
structure EvaluationSnapshot.Fits (snapshot : EvaluationSnapshot) (row : SLOEvaluation) : Prop where
  assetId : row.assetId = snapshot.assetId
  sloName : row.sloName = snapshot.sloName
  sloVersion : row.sloVersion = snapshot.sloVersion
  periodStart : row.periodStart = snapshot.periodStart

/-- What an execution has in hand belongs to the row of its message and to the
SLO version that the row names. -/
structure ExecutionFits (db : Database) (execution : Execution) : Prop where
  row : forall snapshot, execution.phase.snapshot? = some snapshot ->
    snapshot.evalId = execution.message.evalId ∧
      Exists fun row => db.evaluations.find snapshot.evalId = some row ∧ snapshot.Fits row
  definition : forall snapshot sloDef, execution.phase.snapshot? = some snapshot ->
    execution.phase.sloDef? = some sloDef -> Exists fun version =>
      snapshot.sloVersion = some version ∧
        db.sloDefinitions.find (snapshot.sloName, version) = some sloDef
  result : forall snapshot sloDef fetchResult,
    execution.phase = .writing snapshot sloDef fetchResult -> fetchResult.FitsDefinition sloDef

def AllFit (w : World) : Prop :=
  forall execution, execution ∈ w.executions.rows -> ExecutionFits w.db execution

def RowChange.isCompletion : RowChange -> Bool
  | .completed _ _ => true
  | _ => false

theorem completedWrite_eq_some {table : Evaluations} {snapshot : EvaluationSnapshot}
    {sloDef : SLODefinition} {fetchResult : FetchAndEvaluateResult} {write : Write}
    (fits : fetchResult.FitsDefinition sloDef)
    (written : completedWrite table snapshot sloDef fetchResult = some write) :
    Exists fun evaluation => Exists fun indicatorRows =>
      table.find snapshot.evalId = some evaluation ∧
        bulkInsert evaluation.indicatorRows
          (buildIndicatorRows sloDef fetchResult.evalResult.indicatorResults) =
            some indicatorRows ∧
        write = {
          evalId := snapshot.evalId
          change := .completed (completedValues snapshot sloDef fetchResult)
            (some indicatorRows) } := by
  have objectives := buildIndicatorRows_objectives fits.1
  have nonempty : buildIndicatorRows sloDef fetchResult.evalResult.indicatorResults ≠ [] := by
    intro empty
    rw [empty] at objectives
    exact scoredObjectives_ne_nil fits.2 objectives.symm
  unfold completedWrite at written
  dsimp only at written
  rw [if_neg nonempty] at written
  cases found : table.find snapshot.evalId with
  | none =>
      rw [found] at written
      cases written
  | some evaluation =>
      rw [found] at written
      rcases Option.map_eq_some_iff.mp written with ⟨indicatorRows, inserted, same⟩
      exact ⟨evaluation, indicatorRows, rfl, inserted, same.symm⟩

section AllFit

variable {settings : Settings} {w next : World} {action : Action}

theorem write_completion {write : Write} (written : action.write settings w = some write)
    (completion : write.change.isCompletion = true) :
    Exists fun execution => Exists fun snapshot => Exists fun sloDef => Exists fun fetchResult =>
      execution ∈ w.executions.rows ∧ execution.phase = .writing snapshot sloDef fetchResult ∧
        completedWrite w.db.evaluations snapshot sloDef fetchResult = some write := by
  cases action with
  | advance executionId workerId checkFails adapter =>
      rcases Option.bind_eq_some_iff.mp written with ⟨execution, found, written⟩
      cases phaseIs : execution.phase with
      | writing snapshot sloDef fetchResult =>
          rw [phaseIs] at written
          exact ⟨execution, snapshot, sloDef, fetchResult, find_mem found, phaseIs,
            written⟩
      | marking =>
          rw [phaseIs] at written
          cases written
          cases completion
      | failing error =>
          rw [phaseIs] at written
          cases written
          cases completion
      | _ =>
          rw [phaseIs] at written
          cases written
  | watchdogUpdate tickId =>
      rcases Option.bind_eq_some_iff.mp written with ⟨tick, found, written⟩
      rcases Option.map_eq_some_iff.mp written with ⟨stuckEval, _, same⟩
      subst same
      unfold watchdogWrite at completion
      dsimp only at completion
      split at completion <;> cases completion
  | _ => cases written

variable {row : SLOEvaluation} {execution : Execution}

/-- A completion inserts a row for every scored objective of the SLO version that
its row names, and writes that name and version again. -/
theorem completion_values (all : AllFit w) {write : Write}
    (written : action.write settings w = some write) (completion : write.change.isCompletion = true)
    (found : w.db.evaluations.find write.evalId = some row) :
    Exists fun version => Exists fun sloDef => Exists fun values => Exists fun inserted =>
      Exists fun indicatorRows =>
        write.change = .completed values (some indicatorRows) ∧
          row.sloVersion = some version ∧ values.sloVersion = some version ∧
          values.sloName = some row.sloName ∧
          w.db.sloDefinitions.find (row.sloName, version) = some sloDef ∧
          sloDef.objectives.rows ≠ [] ∧
          inserted.map (·.objective) = scoredObjectives sloDef ∧
          bulkInsert row.indicatorRows inserted = some indicatorRows := by
  rcases write_completion written completion with
    ⟨execution, snapshot, sloDef, fetchResult, member, phaseIs, completing⟩
  have fits := all execution member
  have resultFits := fits.result snapshot sloDef fetchResult phaseIs
  rcases completedWrite_eq_some resultFits completing with
    ⟨evaluation, indicatorRows, present, inserted, writeIs⟩
  rcases fits.row snapshot (by rw [phaseIs]; rfl) with ⟨_, fitting, fittingFound, fitted⟩
  rcases fits.definition snapshot sloDef (by rw [phaseIs]; rfl) (by rw [phaseIs]; rfl) with
    ⟨version, snapshotVersion, definitionFound⟩
  subst writeIs
  have sameEvaluation : evaluation = row := Option.some.inj (present.symm.trans found)
  have sameFitting : fitting = row := Option.some.inj (fittingFound.symm.trans found)
  rw [sameEvaluation] at inserted
  rw [sameFitting] at fitted
  refine ⟨version, sloDef, completedValues snapshot sloDef fetchResult, _, indicatorRows, rfl,
    fitted.sloVersion.trans snapshotVersion, snapshotVersion, ?_, ?_, resultFits.2,
    buildIndicatorRows_objectives resultFits.1, inserted⟩
  · rw [fitted.sloName]
    rfl
  · rw [fitted.sloName]
    exact definitionFound

structure SameIdentity (row later : SLOEvaluation) : Prop where
  assetId : later.assetId = row.assetId
  sloName : later.sloName = row.sloName
  sloVersion : later.sloVersion = row.sloVersion
  periodStart : later.periodStart = row.periodStart
  baselinePinnedAt : later.baselinePinnedAt = row.baselinePinnedAt

theorem SameIdentity.refl (row : SLOEvaluation) : SameIdentity row row :=
  ⟨rfl, rfl, rfl, rfl, rfl⟩

theorem SameIdentity.trans {first second third : SLOEvaluation}
    (before : SameIdentity first second) (after : SameIdentity second third) :
    SameIdentity first third :=
  ⟨after.assetId.trans before.assetId, after.sloName.trans before.sloName,
    after.sloVersion.trans before.sloVersion, after.periodStart.trans before.periodStart,
    after.baselinePinnedAt.trans before.baselinePinnedAt⟩

theorem rowAfter_identity (settings : Settings) (action : Action) (all : AllFit w) {id : Nat}
    (found : w.db.evaluations.find id = some row) :
    SameIdentity row (rowAfter (action.write settings w) row) := by
  rcases rowAfter_cases (action.write settings w) row with same | ⟨write, written, targeted, same⟩
  · rw [same]
    exact .refl row
  · rw [same]
    cases changeIs : write.change with
    | running now workerId => exact ⟨rfl, rfl, rfl, rfl, rfl⟩
    | failed jobStats => exact ⟨rfl, rfl, rfl, rfl, rfl⟩
    | requeued stuckJobRetries => exact ⟨rfl, rfl, rfl, rfl, rfl⟩
    | completed values indicatorRows =>
        have here : w.db.evaluations.find write.evalId = some row := by
          rw [<- targeted, find_key found]
          exact found
        have completion : write.change.isCompletion = true := by
          rw [changeIs]
          rfl
        rcases completion_values all written completion here with
          ⟨version, _, newValues, _, newRows, sameChange, rowVersion, newVersion, newName, _⟩
        rw [changeIs] at sameChange
        cases sameChange
        refine ⟨rfl, ?_, ?_, rfl, rfl⟩
        · change values.sloName.getD row.sloName = row.sloName
          rw [newName]
          rfl
        · change values.sloVersion.or row.sloVersion = row.sloVersion
          rw [newVersion, rowVersion]
          rfl

theorem ExecutionFits.step (all : AllFit w) (stepped : Worker.step settings w action = some next)
    (fits : ExecutionFits w.db execution) : ExecutionFits next.db execution where
  row := by
    intro snapshot holds
    rcases fits.row snapshot holds with ⟨same, row, found, fitted⟩
    have kept := rowAfter_identity settings action all found
    refine ⟨same, _, step_find stepped found, ?_⟩
    exact ⟨kept.assetId.trans fitted.assetId, kept.sloName.trans fitted.sloName,
      kept.sloVersion.trans fitted.sloVersion, kept.periodStart.trans fitted.periodStart⟩
  definition := by
    intro snapshot sloDef holds loaded
    rw [step_sloDefinitions stepped]
    exact fits.definition snapshot sloDef holds loaded
  result := fits.result

theorem ExecutionFits.of_empty {db : Database} (noSnapshot : execution.phase.snapshot? = none) :
    ExecutionFits db execution where
  row := by
    intro snapshot holds
    rw [noSnapshot] at holds
    cases holds
  definition := by
    intro snapshot sloDef holds
    rw [noSnapshot] at holds
    cases holds
  result := by
    intro snapshot sloDef fetchResult isWriting
    rw [isWriting] at noSnapshot
    cases noSnapshot

theorem loadingPhase_snapshot? (db : Database) (snapshot : EvaluationSnapshot) :
    (Exists fun sloDef => Exists fun sliDef => Exists fun datasource =>
      loadingPhase db snapshot = .fetching snapshot sloDef sliDef datasource) ∨
      (loadingPhase db snapshot).snapshot? = none := by
  unfold loadingPhase
  cases snapshot.dataSourceName with
  | none => exact Or.inr rfl
  | some dataSourceName =>
      cases loadDefinitions db snapshot with
      | error text => exact Or.inr rfl
      | ok definitions =>
          dsimp only
          cases db.dataSources.find dataSourceName with
          | none => exact Or.inr rfl
          | some datasource => exact Or.inl ⟨definitions.1, definitions.2, datasource, rfl⟩

theorem fetchingPhase_snapshot? (db : Database) (snapshot : EvaluationSnapshot)
    (sloDef : SLODefinition) (sliDef : SLIDefinition) (datasource : DataSource)
    (adapter : AdapterQuery -> AdapterOutcome) :
    (Exists fun fetchResult =>
      fetchingPhase db snapshot sloDef sliDef datasource adapter =
        .writing snapshot sloDef fetchResult) ∨
      (fetchingPhase db snapshot sloDef sliDef datasource adapter).snapshot? = none := by
  unfold fetchingPhase
  cases fetchAndEvaluate db.evaluations snapshot sloDef sliDef datasource adapter with
  | error failure => exact Or.inr rfl
  | ok fetched =>
      cases fetched with
      | none => exact Or.inr rfl
      | some fetchResult => exact Or.inl ⟨fetchResult, rfl⟩

theorem ExecutionFits.advance {db : Database} {input : PhaseInput}
    (fits : ExecutionFits db execution) :
    ExecutionFits db { execution with
      phase := nextPhase settings input execution.message db execution.phase } := by
  cases phaseIs : execution.phase with
  | checking =>
      refine .of_empty ?_
      change (if defers settings input execution.message db then Phase.deferring
        else Phase.marking).snapshot? = none
      cases defers settings input execution.message db <;> rfl
  | marking =>
      change ExecutionFits db { execution with
        phase := ((db.evaluations.find execution.message.evalId).map
          fun row => Phase.loading (snapshotOf db row)).getD .finished }
      cases found : db.evaluations.find execution.message.evalId with
      | none => exact .of_empty rfl
      | some row =>
          have rowKey : row.id = execution.message.evalId := find_key found
          have here : db.evaluations.find row.id = some row := by
            rw [rowKey]
            exact found
          refine ⟨fun snapshot holds => ?_, fun snapshot sloDef _ loaded => ?_,
            fun snapshot sloDef fetchResult isWriting => ?_⟩
          · have same : snapshotOf db row = snapshot := Option.some.inj holds
            subst same
            exact ⟨rowKey, row, here, rfl, rfl, rfl, rfl⟩
          · cases loaded
          · cases isWriting
  | loading snapshot =>
      change ExecutionFits db { execution with phase := loadingPhase db snapshot }
      have row := fits.row snapshot (by rw [phaseIs]; rfl)
      rcases loadingPhase_snapshot? db snapshot with ⟨sloDef, sliDef, datasource, loaded⟩ | empty
      · rw [loaded]
        refine ⟨fun held holds => ?_, fun held heldDef holds definition => ?_,
          fun held heldDef heldResult isWriting => ?_⟩
        · cases holds
          exact row
        · cases holds
          cases definition
          exact (loadingPhase_fetching loaded).2
        · cases isWriting
      · exact .of_empty empty
  | fetching snapshot sloDef sliDef datasource =>
      change ExecutionFits db { execution with
        phase := fetchingPhase db snapshot sloDef sliDef datasource input.adapter }
      have row := fits.row snapshot (by rw [phaseIs]; rfl)
      have definition := fits.definition snapshot sloDef (by rw [phaseIs]; rfl)
        (by rw [phaseIs]; rfl)
      rcases fetchingPhase_snapshot? db snapshot sloDef sliDef datasource input.adapter with
        ⟨fetchResult, scored⟩ | empty
      · rw [scored]
        refine ⟨fun held holds => ?_, fun held heldDef holds loaded => ?_,
          fun held heldDef heldResult isWriting => ?_⟩
        · cases holds
          exact row
        · cases holds
          cases loaded
          exact definition
        · cases isWriting
          exact (fetchingPhase_writing scored).2.2
      · exact .of_empty empty
  | writing snapshot sloDef fetchResult =>
      refine .of_empty ?_
      change (if (writeResults db snapshot sloDef fetchResult).isSome then
        Phase.wrappingUp snapshot.parentRunId else Phase.raised .database).snapshot? = none
      cases (writeResults db snapshot sloDef fetchResult).isSome <;> rfl
  | _ => exact .of_empty rfl

/-- Where an execution comes from: it was there before, it has just been delivered, or it
has gone on to its next phase. -/
theorem step_execution (stepped : Worker.step settings w action = some next)
    (member : execution ∈ next.executions.rows) :
    execution ∈ w.executions.rows ∨ execution.phase = .checking ∨
      Exists fun old => Exists fun input => old ∈ w.executions.rows ∧
        execution = { old with phase := nextPhase settings input old.message w.db old.phase } ∧
          input.now = w.now ∧
            action = .advance old.id input.workerId input.checkFails input.adapter := by
  cases step_cases stepped with
  | deliver executionId jobId message queued jobIs delivered deliveredIs fresh =>
      rcases (mem_insert w.executions delivered fresh execution).mp member with
        inside | same
      · exact Or.inl inside
      · subst same
        subst deliveredIs
        exact Or.inr (Or.inl rfl)
  | advance executionId workerId checkFails adapter advancing outcome found advanced =>
      have inTable : execution ∈ (w.executions.update executionId
          (fun execution => { execution with phase := outcome.phase }) fun _ => rfl).rows := by
        cases enqueued : outcome.enqueued with
        | none =>
            rw [enqueued] at member
            exact member
        | some message =>
            rw [enqueued, Option.elim_some, enqueue_executions] at member
            exact member
      rcases (mem_update _ _ _ _ _).mp inTable with ⟨inside, _⟩ | ⟨old, oldFound, same⟩
      · exact Or.inl inside
      · subst same
        have sameOld : old = advancing := Option.some.inj (oldFound.symm.trans found)
        subst sameOld
        refine Or.inr (Or.inr ⟨old, { now := w.now, workerId, checkFails, adapter },
          find_mem found, ?_⟩)
        rw [advance_phase advanced]
        exact ⟨rfl, rfl, by rw [find_key found]⟩
  | acknowledge executionId ended found isEnded =>
      exact Or.inl ((mem_delete _ _ _).mp member).1
  | crash executionId => exact Or.inl ((mem_delete _ _ _).mp member).1
  | triggerEnqueue triggerId process evalId rest found waiting =>
      refine Or.inl ?_
      rw [<- enqueue_executions w (.runEvaluation evalId 0)]
      exact member
  | watchdogEnqueue tickId tick evalId found waiting =>
      refine Or.inl ?_
      rw [<- enqueue_executions w (.runEvaluation evalId 0)]
      exact member
  | _ => exact Or.inl member

theorem step_find_execution (stepped : Worker.step settings w action = some next) {id : Nat}
    (found : w.executions.find id = some execution) (unfinished : ¬ execution.phase.Ended) :
    next.executions.find id = some execution ∨ action = .crash id ∨
      Exists fun workerId => Exists fun checkFails => Exists fun adapter =>
        action = .advance id workerId checkFails adapter := by
  cases step_cases stepped with
  | deliver executionId jobId message queued jobIs delivered deliveredIs fresh =>
      refine Or.inl ?_
      have other : id ≠ delivered.id := by
        intro same
        rw [same, fresh] at found
        cases found
      change (w.executions.insert delivered fresh).find id = some execution
      rw [find_insert, if_neg other]
      exact found
  | advance executionId workerId checkFails adapter advancing outcome advancingFound advanced =>
      by_cases same : id = executionId
      · subst same
        exact Or.inr (Or.inr ⟨workerId, checkFails, adapter, rfl⟩)
      · have kept : (w.executions.update executionId
            (fun execution => { execution with phase := outcome.phase }) fun _ => rfl).find id =
              some execution := by
          rw [find_update_of_ne _ _ _ same]
          exact found
        refine Or.inl ?_
        cases outcome.enqueued with
        | none => exact kept
        | some message =>
            rw [Option.elim_some, enqueue_executions]
            exact kept
  | acknowledge executionId ended endedFound isEnded =>
      have other : id ≠ executionId := by
        intro same
        rw [<- same, found] at endedFound
        cases endedFound
        exact unfinished isEnded
      refine Or.inl ?_
      change (w.executions.delete executionId).find id = some execution
      rw [find_delete, if_neg other]
      exact found
  | crash executionId =>
      by_cases same : id = executionId
      · subst same
        exact Or.inr (Or.inl rfl)
      · refine Or.inl ?_
        change (w.executions.delete executionId).find id = some execution
        rw [find_delete, if_neg same]
        exact found
  | triggerEnqueue triggerId process evalId rest triggerFound waiting =>
      refine Or.inl ?_
      rw [<- enqueue_executions w (.runEvaluation evalId 0)] at found
      exact found
  | watchdogEnqueue tickId tick evalId tickFound waiting =>
      refine Or.inl ?_
      rw [<- enqueue_executions w (.runEvaluation evalId 0)] at found
      exact found
  | _ => exact Or.inl found

theorem AllFit.step (all : AllFit w) (stepped : Worker.step settings w action = some next) :
    AllFit next := by
  intro execution member
  rcases step_execution stepped member with inside | delivered | ⟨old, input, inside, same, _⟩
  · exact (all execution inside).step all stepped
  · exact .of_empty (by rw [delivered]; rfl)
  · have fits : ExecutionFits w.db execution := by
      rw [same]
      exact (all old inside).advance
    exact fits.step all stepped

theorem AllFit.of_initial (initial : w.Initial) : AllFit w := by
  intro execution member
  rw [initial.noExecutions] at member
  exact absurd member List.not_mem_nil

theorem allFit_of_reachable (reached : Reachable settings w) : AllFit w :=
  reachable_preserves (fun _ => AllFit.of_initial)
    (fun _ _ _ (all : AllFit _) stepped => all.step stepped) reached

end AllFit

end Worker
end Tropek
