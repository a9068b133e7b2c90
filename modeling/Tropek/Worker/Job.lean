import Tropek.Worker.Execution

namespace Tropek
namespace Worker

open Library Engine Store Fallible

/-!
# The evaluation job

`run_evaluation_job` commits several times.  A phase is the point between two of
its commits together with what the job has in hand there, and `advance` runs the
job from one phase to the next.  The same function serves two purposes: run
alone it is the whole job, and as a step of the system it is what interleaves
with other jobs, with the watchdog and with crashes.

Only three phases write to the evaluations, and each of them writes to the one
row that the message names.
-/

/-- The settings that the watchdog reads.  `stuckJobThreshold`:
`stuck_job_threshold_seconds`, in microseconds. -/
structure Settings where
  stuckJobThreshold : Int := 180000000
  maxStuckJobRetries : Nat := 3
deriving DecidableEq, Repr

def maxPredecessorDefers : Nat := 60

/-- The arguments of a queued `run_evaluation_job`. -/
structure Message where
  jobId : Nat
  evalId : Nat
  deferCount : Nat := 0
deriving DecidableEq, Repr

inductive Enqueued where
  | runEvaluation (evalId deferCount : Nat)
  | finalizeRun (runId : Nat)
deriving DecidableEq, Repr

/-- Where an execution of the job is, between its transactions, where its process may
die.  `checking`: delivered, the predecessor check comes next; `deferring`: a
predecessor is pending, the job is about to enqueue itself again; `marking`: the check
let the job through, phase 1 comes next; `loading`: phase 1 is committed, phase 2a comes
next; `fetching`: the definitions are loaded, phase 2b comes next; `failing`:
`_mark_failed` comes next; `writing`: the evaluation is scored, phase 3a comes next;
`wrappingUp`: the results are written, the finalize job of the parent run is enqueued
after phase 3b and the change point step; `finished`: the job has returned; `raised`:
the job has raised. -/
inductive Phase where
  | checking
  | deferring
  | marking
  | loading (snapshot : EvaluationSnapshot)
  | fetching (snapshot : EvaluationSnapshot) (sloDef : SLODefinition) (sliDef : SLIDefinition)
      (datasource : DataSource)
  | failing (error : String)
  | writing (snapshot : EvaluationSnapshot) (sloDef : SLODefinition)
      (fetchResult : FetchAndEvaluateResult)
  | wrappingUp (parentRunId : Nat)
  | finished
  | raised (error : WorkerError)

def Phase.Ended : Phase -> Prop
  | .finished => True
  | .raised _ => True
  | _ => False

instance : forall phase : Phase, Decidable phase.Ended
  | .finished => .isTrue trivial
  | .raised _ => .isTrue trivial
  | .checking => .isFalse id
  | .deferring => .isFalse id
  | .marking => .isFalse id
  | .loading _ => .isFalse id
  | .fetching _ _ _ _ => .isFalse id
  | .failing _ => .isFalse id
  | .writing _ _ _ => .isFalse id
  | .wrappingUp _ => .isFalse id

/-- What a phase meets from outside: the time, the identity of the worker,
whether the predecessor check hits a database error, and the adapter. -/
structure PhaseInput where
  now : Instant
  workerId : Option String := none
  checkFails : Bool := false
  adapter : AdapterQuery -> AdapterOutcome

structure PhaseOutcome where
  db : Database
  phase : Phase
  enqueued : Option Enqueued := none

/-- `_has_pending_predecessor`, when the database answers. -/
def pendingPredecessor (settings : Settings) (db : Database) (now : Instant) (evalId : Nat) :
    Bool :=
  match db.evaluations.find evalId with
  | none => false
  | some ev =>
      if ev.status ≠ .pending ∧ ev.status ≠ .running then false
      else
        hasPendingPredecessor db.evaluations ev.assetId ev.sloName ev.periodStart
          (some (now - settings.stuckJobThreshold))

/-- The decision of the first lines of the job.  A database error in the check
counts as no predecessor. -/
def defers (settings : Settings) (input : PhaseInput) (message : Message) (db : Database) : Bool :=
  message.deferCount < maxPredecessorDefers && !input.checkFails &&
    pendingPredecessor settings db input.now message.evalId

/-- Phase 2a: a missing definition, or a missing data source, fails the
evaluation. -/
def loadingPhase (db : Database) (snapshot : EvaluationSnapshot) : Phase :=
  match snapshot.dataSourceName with
  | none => .failing "evaluation has no data_source_name"
  | some dataSourceName =>
      match loadDefinitions db snapshot with
      | .error text => .failing text
      | .ok (sloDef, sliDef) =>
          match db.dataSources.find dataSourceName with
          | none => .failing s!"datasource '{dataSourceName}' not found"
          | some datasource => .fetching snapshot sloDef sliDef datasource

/-- Phase 2b: an exception that `fetch_and_evaluate` does not catch ends the
job. -/
def fetchingPhase (db : Database) (snapshot : EvaluationSnapshot) (sloDef : SLODefinition)
    (sliDef : SLIDefinition) (datasource : DataSource) (adapter : AdapterQuery -> AdapterOutcome) :
    Phase :=
  match fetchAndEvaluate db.evaluations snapshot sloDef sliDef datasource adapter with
  | .error error => .raised error
  | .ok none => .failing "adapter query failed"
  | .ok (some fetchResult) => .writing snapshot sloDef fetchResult

def advance (settings : Settings) (input : PhaseInput) (message : Message) (db : Database) :
    Phase -> Option PhaseOutcome
  | .checking =>
      some { db, phase := if defers settings input message db then .deferring else .marking }
  | .deferring =>
      some { db, phase := .finished,
             enqueued := some (.runEvaluation message.evalId (message.deferCount + 1)) }
  | .marking =>
      match loadEvaluationSnapshot db input.now message.evalId input.workerId with
      | (db, none) => some { db, phase := .finished }
      | (db, some snapshot) => some { db, phase := .loading snapshot }
  | .loading snapshot => some { db, phase := loadingPhase db snapshot }
  | .fetching snapshot sloDef sliDef datasource =>
      some { db, phase := fetchingPhase db snapshot sloDef sliDef datasource input.adapter }
  | .failing error =>
      some { db := { db with
               evaluations := markFailed db.evaluations message.evalId { error := some error } },
             phase := .finished }
  | .writing snapshot sloDef fetchResult =>
      match writeResults db snapshot sloDef fetchResult with
      | none => some { db, phase := .raised .database }
      | some db => some { db, phase := .wrappingUp snapshot.parentRunId }
  | .wrappingUp parentRunId =>
      some { db, phase := .finished, enqueued := some (.finalizeRun parentRunId) }
  | .finished => none
  | .raised _ => none

/-- The guard of phase 1 reads the status that `mark_running` has just written.
It therefore passes for every existing row, whatever its status was before. -/
theorem loadEvaluationSnapshot_eq (db : Database) (now : Instant) (evalId : Nat)
    (workerId : Option String) :
    loadEvaluationSnapshot db now evalId workerId =
      ({ db with evaluations := markRunning db.evaluations evalId now workerId },
        (db.evaluations.find evalId).map (snapshotOf db)) := by
  have marked : (markRunning db.evaluations evalId now workerId).find evalId =
      (db.evaluations.find evalId).map (SLOEvaluation.setRunning now workerId) := by
    unfold markRunning
    rw [KeyedTable.find_update, if_pos rfl]
  unfold loadEvaluationSnapshot
  dsimp only
  rw [marked]
  cases db.evaluations.find evalId with
  | none => rfl
  | some row =>
      have running : (row.setRunning now workerId).status = .running := rfl
      simp only [Option.map_some, running]
      rfl

theorem advance_marking (settings : Settings) (input : PhaseInput) (message : Message)
    (db : Database) :
    advance settings input message db .marking = some {
      db := { db with
        evaluations := markRunning db.evaluations message.evalId input.now input.workerId }
      phase := ((db.evaluations.find message.evalId).map
        fun row => Phase.loading (snapshotOf db row)).getD .finished } := by
  unfold advance
  rw [loadEvaluationSnapshot_eq]
  cases db.evaluations.find message.evalId <;> rfl

/-- The phase that `advance` reaches, on its own. -/
def nextPhase (settings : Settings) (input : PhaseInput) (message : Message) (db : Database) :
    Phase -> Phase
  | .checking => if defers settings input message db then .deferring else .marking
  | .marking =>
      ((db.evaluations.find message.evalId).map fun row => Phase.loading (snapshotOf db row)).getD
        .finished
  | .loading snapshot => loadingPhase db snapshot
  | .fetching snapshot sloDef sliDef datasource =>
      fetchingPhase db snapshot sloDef sliDef datasource input.adapter
  | .writing snapshot sloDef fetchResult =>
      if (writeResults db snapshot sloDef fetchResult).isSome then .wrappingUp snapshot.parentRunId
      else .raised .database
  | .raised error => .raised error
  | _ => .finished

variable {db : Database} {sloDef scoredDef : SLODefinition} {fetchResult : FetchAndEvaluateResult}
  {snapshot scoredSnapshot : EvaluationSnapshot} {adapter : AdapterQuery -> AdapterOutcome}
  {sliDef : SLIDefinition} {datasource : DataSource}

theorem advance_phase {settings : Settings} {input : PhaseInput} {message : Message} {phase : Phase}
    {outcome : PhaseOutcome} (advanced : advance settings input message db phase = some outcome) :
    outcome.phase = nextPhase settings input message db phase := by
  cases phase with
  | checking => exact (congrArg PhaseOutcome.phase (Option.some.inj advanced)).symm
  | deferring => exact (congrArg PhaseOutcome.phase (Option.some.inj advanced)).symm
  | marking =>
      rw [advance_marking] at advanced
      exact (congrArg PhaseOutcome.phase (Option.some.inj advanced)).symm
  | loading snapshot => exact (congrArg PhaseOutcome.phase (Option.some.inj advanced)).symm
  | fetching snapshot sloDef sliDef datasource =>
      exact (congrArg PhaseOutcome.phase (Option.some.inj advanced)).symm
  | failing error => exact (congrArg PhaseOutcome.phase (Option.some.inj advanced)).symm
  | writing snapshot sloDef fetchResult =>
      unfold advance at advanced
      unfold nextPhase
      dsimp only at advanced ⊢
      cases written : writeResults db snapshot sloDef fetchResult with
      | none =>
          rw [written] at advanced
          exact (congrArg PhaseOutcome.phase (Option.some.inj advanced)).symm
      | some next =>
          rw [written] at advanced
          exact (congrArg PhaseOutcome.phase (Option.some.inj advanced)).symm
  | wrappingUp parentRunId =>
      exact (congrArg PhaseOutcome.phase (Option.some.inj advanced)).symm
  | finished => cases advanced
  | raised error => cases advanced

/-- The result names the objectives of the definition that it was scored with. -/
def FetchAndEvaluateResult.FitsDefinition (fetchResult : FetchAndEvaluateResult)
    (sloDef : SLODefinition) : Prop :=
  fetchResult.evalResult.indicatorResults.map (·.metric) =
    sloDef.objectives.rows.map (·.sli) ∧ sloDef.objectives.rows ≠ []

theorem buildSloModel_objectives {slo : SLO} (built : buildSloModel sloDef = .ok slo) :
    slo.objectives = sloDef.objectives.rows.map SLOObjectiveRow.toModel :=
  (buildSlo_eq_ok built).1

theorem evaluateResponse_fits {table : Evaluations} {slo : SLO} {values : Dict (Option ℚ)}
    {errors : Dict String} (built : buildSloModel sloDef = .ok slo)
    (evaluated : evaluateResponse table snapshot slo values errors = .ok fetchResult) :
    fetchResult.FitsDefinition sloDef := by
  rcases bind_eq_ok.mp evaluated with ⟨_, _, evaluated⟩
  rcases bind_eq_ok.mp evaluated with ⟨evalResult, scored, same⟩
  cases same
  have objectives := buildSloModel_objectives built
  have metrics := evaluate_metrics (mapError_eq_ok scored)
  rw [objectives, List.map_map] at metrics
  refine ⟨metrics, fun empty => slo.nonempty ?_⟩
  rw [objectives, empty]
  rfl

/-- A scored response comes from the adapter and is scored with the model that the
definition builds. -/
theorem fetchAndEvaluate_eq_some {table : Evaluations}
    (fetched : fetchAndEvaluate table snapshot sloDef sliDef datasource adapter =
      .ok (some fetchResult)) :
    Exists fun slo => Exists fun values => Exists fun errors =>
      buildSloModel sloDef = .ok slo ∧
        evaluateResponse table snapshot slo values errors = .ok fetchResult := by
  rcases bind_eq_ok.mp fetched with ⟨⟨slo, query⟩, prepared, fetched⟩
  rcases bind_eq_ok.mp prepared with ⟨slo', built, prepared⟩
  rcases bind_eq_ok.mp prepared with ⟨resolved, _, prepared⟩
  rcases bind_eq_ok.mp prepared with ⟨queries, _, same⟩
  cases same
  dsimp only at fetched
  cases outcome : adapter _ with
  | response values errors =>
      rw [outcome] at fetched
      rcases bind_eq_ok.mp fetched with ⟨_, evaluated, same⟩
      cases same
      exact ⟨slo, values, errors, mapError_eq_ok built, evaluated⟩
  | malformed => rw [outcome] at fetched; cases fetched
  | connectError => rw [outcome] at fetched; cases fetched
  | readError => rw [outcome] at fetched; cases fetched
  | timeout => rw [outcome] at fetched; cases fetched
  | httpStatusError => rw [outcome] at fetched; cases fetched

section

variable
  (scored : fetchingPhase db snapshot sloDef sliDef datasource adapter =
    .writing scoredSnapshot scoredDef fetchResult)

include scored

theorem fetchingPhase_eq_writing :
    scoredSnapshot = snapshot ∧ scoredDef = sloDef ∧
      fetchAndEvaluate db.evaluations snapshot sloDef sliDef datasource adapter =
        .ok (some fetchResult) := by
  unfold fetchingPhase at scored
  cases fetched : fetchAndEvaluate db.evaluations snapshot sloDef sliDef datasource adapter with
  | error failure =>
      rw [fetched] at scored
      cases scored
  | ok found =>
      rw [fetched] at scored
      cases found with
      | none => cases scored
      | some result =>
          cases scored
          exact ⟨rfl, rfl, rfl⟩

theorem fetchingPhase_writing :
    scoredSnapshot = snapshot ∧ scoredDef = sloDef ∧ fetchResult.FitsDefinition sloDef := by
  rcases fetchingPhase_eq_writing scored with ⟨sameSnapshot, sameDef, fetched⟩
  rcases fetchAndEvaluate_eq_some fetched with ⟨slo, values, errors, built, evaluated⟩
  exact ⟨sameSnapshot, sameDef, evaluateResponse_fits built evaluated⟩

end

theorem loadingPhase_fetching {loadedSnapshot : EvaluationSnapshot}
    (loaded : loadingPhase db snapshot = .fetching loadedSnapshot sloDef sliDef datasource) :
    loadedSnapshot = snapshot ∧ Exists fun version =>
      snapshot.sloVersion = some version ∧
        db.sloDefinitions.find (snapshot.sloName, version) = some sloDef := by
  unfold loadingPhase at loaded
  cases named : snapshot.dataSourceName with
  | none =>
      rw [named] at loaded
      cases loaded
  | some dataSourceName =>
      rw [named] at loaded
      dsimp only at loaded
      cases definitions : loadDefinitions db snapshot with
      | error text =>
          rw [definitions] at loaded
          cases loaded
      | ok pair =>
          rw [definitions] at loaded
          rcases pair with ⟨foundSlo, foundSli⟩
          dsimp only at loaded
          cases source : db.dataSources.find dataSourceName with
          | none =>
              rw [source] at loaded
              cases loaded
          | some foundSource =>
              rw [source] at loaded
              cases loaded
              refine ⟨rfl, ?_⟩
              rcases bind_eq_ok.mp definitions with ⟨version, versioned, rest⟩
              rcases bind_eq_ok.mp rest with ⟨found, looked, rest⟩
              rcases bind_eq_ok.mp rest with ⟨_, _, rest⟩
              rcases bind_eq_ok.mp rest with ⟨_, _, rest⟩
              rcases bind_eq_ok.mp rest with ⟨_, _, same⟩
              cases same
              exact ⟨version, orRaise_eq_ok.mp versioned,
                orRaise_eq_ok.mp looked⟩

end Worker
end Tropek
