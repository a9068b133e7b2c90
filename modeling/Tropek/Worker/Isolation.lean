import Tropek.Worker.JobOutcome

namespace Tropek
namespace Worker

open Library Engine Store Registry KeyedTable

/-!
# A job and the other evaluations

A job carries the evaluation of its message from phase to phase, and each of its transactions
is about that evaluation.  So it ends with every other evaluation, and every other table, as it
found them, also when it raises or when its definitions are missing.
-/

def Phase.IsFor (evalId : Nat) : Phase -> Prop
  | .loading snapshot => snapshot.evalId = evalId
  | .fetching snapshot _ _ _ => snapshot.evalId = evalId
  | .writing snapshot _ _ => snapshot.evalId = evalId
  | _ => True

section Phases

variable {settings : Settings} {input : PhaseInput} {message : Message} {db : Database}

variable {snapshot : EvaluationSnapshot} {sloDef : SLODefinition} {phase : Phase}

theorem loadingPhase_isFor {evalId : Nat} (isFor : snapshot.evalId = evalId) :
    (loadingPhase db snapshot).IsFor evalId := by
  unfold loadingPhase
  cases snapshot.dataSourceName with
  | none => trivial
  | some dataSourceName =>
      cases loadDefinitions db snapshot with
      | error text => trivial
      | ok definitions =>
          dsimp only
          cases db.dataSources.find dataSourceName with
          | none => trivial
          | some datasource => exact isFor

theorem fetchingPhase_isFor {sliDef : SLIDefinition} {datasource : DataSource} {evalId : Nat}
    (isFor : snapshot.evalId = evalId) :
    (fetchingPhase db snapshot sloDef sliDef datasource input.adapter).IsFor evalId := by
  unfold fetchingPhase
  cases fetchAndEvaluate db.evaluations snapshot sloDef sliDef datasource input.adapter with
  | error failure => trivial
  | ok fetched =>
      cases fetched with
      | none => trivial
      | some fetchResult => exact isFor

theorem nextPhase_isFor (isFor : phase.IsFor message.evalId) :
    (nextPhase settings input message db phase).IsFor message.evalId := by
  cases phase with
  | checking =>
      change (if defers settings input message db then Phase.deferring else Phase.marking).IsFor _
      split <;> trivial
  | marking =>
      change (((db.evaluations.find message.evalId).map
        fun row => Phase.loading (snapshotOf db row)).getD .finished).IsFor _
      cases found : db.evaluations.find message.evalId with
      | none => trivial
      | some row =>
          have sameId : row.id = message.evalId := find_key found
          exact sameId
  | loading snapshot => exact loadingPhase_isFor isFor
  | fetching snapshot sloDef sliDef datasource => exact fetchingPhase_isFor isFor
  | writing snapshot sloDef fetchResult =>
      change (if (writeResults db snapshot sloDef fetchResult).isSome then
        Phase.wrappingUp snapshot.parentRunId else Phase.raised .database).IsFor _
      split <;> trivial
  | _ => trivial

theorem phaseWrite_evalId (isFor : phase.IsFor message.evalId) {write : Write}
    (written : phaseWrite input message db.evaluations phase = some write) :
    write.evalId = message.evalId := by
  cases phase with
  | writing snapshot sloDef fetchResult =>
      rcases completedWrite_change written with ⟨_, rfl⟩
      exact isFor
  | _ =>
      cases written
      try rfl

theorem runPhases_alone {fuel : Nat} (db : Database) (isFor : phase.IsFor message.evalId) :
    Exists fun evaluations =>
      (runPhases settings input message fuel db phase).1 = { db with evaluations } ∧
        forall id, id ≠ message.evalId -> evaluations.find id = db.evaluations.find id := by
  induction fuel generalizing db phase with
  | zero => exact ⟨db.evaluations, rfl, fun _ _ => rfl⟩
  | succ fuel ih =>
      unfold runPhases
      cases advanced : advance settings input message db phase with
      | none => exact ⟨db.evaluations, rfl, fun _ _ => rfl⟩
      | some outcome =>
          have goesOn : outcome.phase.IsFor message.evalId := by
            rw [advance_phase advanced]
            exact nextPhase_isFor isFor
          rcases ih outcome.db goesOn with ⟨evaluations, left, others⟩
          refine ⟨evaluations, ?_, fun id different => ?_⟩
          · refine left.trans ?_
            rw [advance_db advanced]
          · rw [others id different, advance_db advanced, find_applyWrite]
            cases found : db.evaluations.find id with
            | none => rfl
            | some row =>
                rw [Option.map_some, rowAfter_of_ne]
                intro write written same
                rw [phaseWrite_evalId isFor written, find_key found] at same
                exact different same.symm

end Phases

/-- Whatever the adapter answers and whatever is missing, a job ends, and it leaves every other
evaluation and all the other tables as they were. -/
theorem runEvaluationJob_alone (settings : Settings) (now : Instant) (workerId : Option String)
    (outcome : AdapterOutcome) (message : Message) (db : Database) :
    (runEvaluationJob settings now workerId outcome message db).2.Ended ∧
      Exists fun evaluations =>
        (runEvaluationJob settings now workerId outcome message db).1 = { db with evaluations } ∧
          forall id, id ≠ message.evalId -> evaluations.find id = db.evaluations.find id :=
  ⟨runEvaluationJob_ended settings now workerId outcome message db, runPhases_alone db trivial⟩

end Worker
end Tropek
