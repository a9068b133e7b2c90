import Tropek.Library.TransitionSystem
import Tropek.Maintenance.Operations
import Tropek.Store.RunRepository
import Tropek.Worker.Transactions
import Tropek.Worker.Trigger

namespace Tropek
namespace Finalization

open Library Engine Store Worker

/-!
# The life of a run

A world is the database with the assignments, the batch requests that still have
triggers ahead, and the finalize attempts.  An attempt comes from a
`finalize_run_job` or from a tick of the sweeper, and both run the same three
statements, each of which sees what is committed when it starts.  Between any two
statements of an attempt anything else may happen: other attempts, triggers,
transactions of workers and of the watchdog on the children, and every operation
of a user on them.

The guarded update locks the run until its transaction ends.  Other updates of the
run wait for that, and its effect is visible to others from the commit on.
-/

/-- Where an attempt to finalize a run is, between its statements.  `reading`: the run
was there and not completed; `deciding`: the children that were read have all ended;
`updated`: the update has met the run, and is not committed; `returned`: the attempt is
over and has returned the run; `ended`: the attempt is over and has returned nothing. -/
inductive AttemptPhase where
  | starting
  | reading
  | deciding (children : List Child)
  | updated (children : List Child)
  | returned (children : List Child)
  | ended
deriving DecidableEq, Repr

structure Attempt where
  id : Nat
  runId : Nat
  phase : AttemptPhase := .starting
deriving DecidableEq, Repr

structure Sweep where
  id : Nat
  remaining : List Nat

structure Batch where
  id : Nat
  remaining : List EvaluateSingleRequest

structure RegistryState where
  sloDefinitions : KeyedTable fun sloDef : SLODefinition => (sloDef.name, sloDef.version)
  sliDefinitions : KeyedTable fun sliDef : SLIDefinition => (sliDef.name, sliDef.version)
  dataSources : KeyedTable DataSource.name
  assets : KeyedTable Asset.id
  assignments : Assignments

/-- The database with the assignments, and what is under way: batches of triggers,
attempts to finalize a run, and sweeps. -/
structure RunWorld where
  db : Database
  assignments : Assignments := {}
  batches : KeyedTable Batch.id := .empty
  attempts : KeyedTable Attempt.id := .empty
  sweeps : KeyedTable Sweep.id := .empty

/-- What happens to runs and their children, in any order.  `configure`: the registries
and the assignments change in any way; `batchNext`: the next trigger of a batch, which
ends with it when it raises; `child`: a transaction of a worker or of the watchdog on
one child; `operate`: an operation of a user; `finalizeJob`: a `finalize_run_job`
starts; `sweepNext`: the next attempt of a sweep starts; `crash`: the process of an
attempt dies, and its transaction is rolled back. -/
inductive Action where
  | configure (registry : RegistryState)
  | trigger (request : EvaluateSingleRequest) (runId : Nat) (newId : Nat -> Nat)
  | batch (batchId : Nat) (request : EvaluateBatchRequest)
  | batchNext (batchId runId : Nat) (newId : Nat -> Nat)
  | child (write : Write)
  | operate (operation : Maintenance.Operation)
  | finalizeJob (attemptId runId : Nat)
  | sweep (sweepId limit : Nat)
  | sweepNext (sweepId attemptId : Nat)
  | readRun (attemptId : Nat)
  | readChildren (attemptId : Nat)
  | update (attemptId : Nat)
  | commit (attemptId : Nat)
  | crash (attemptId : Nat)

def Attempt.setPhase (phase : AttemptPhase) (attempt : Attempt) : Attempt :=
  { attempt with phase }

theorem Attempt.setPhase_id (phase : AttemptPhase) (attempt : Attempt) :
    (attempt.setPhase phase).id = attempt.id :=
  rfl

def RunWorld.setPhase (w : RunWorld) (attemptId : Nat) (phase : AttemptPhase) : RunWorld :=
  { w with attempts := w.attempts.update attemptId (Attempt.setPhase phase) (Attempt.setPhase_id phase) }

def Attempt.Holds (attempt : Attempt) (runId : Nat) : Bool :=
  attempt.runId = runId &&
    match attempt.phase with
    | .updated _ => true
    | _ => false

def RunWorld.locked (w : RunWorld) (runId : Nat) : Bool :=
  w.attempts.rows.any fun attempt => attempt.Holds runId

def Attempt.isOver (attempt : Attempt) : Bool :=
  match attempt.phase with
  | .returned _ => true
  | .ended => true
  | _ => false

def RunWorld.start (w : RunWorld) (attemptId runId : Nat) : Option RunWorld :=
  let attempt : Attempt := { id := attemptId, runId }
  if fresh : w.attempts.find attempt.id = none then
    some { w with attempts := w.attempts.insert attempt fresh }
  else none

def afterReading (children : List Child) : AttemptPhase :=
  match decideFinalization children with
  | none => .ended
  | some _ => .deciding children

/-- The phase after the guarded update: a run that another attempt has completed
matches no row. -/
def afterUpdate (w : RunWorld) (runId : Nat) (children : List Child) : AttemptPhase :=
  match unfinalized w.db.runs runId with
  | none => .ended
  | some _ => .updated children

def RunWorld.batchTrigger (w : RunWorld) (batchId : Nat) (request : EvaluateSingleRequest)
    (rest : List EvaluateSingleRequest) (runId : Nat) (newId : Nat -> Nat) : RunWorld :=
  match triggerEvaluate w.db w.assignments request runId newId with
  | .error _ => { w with batches := w.batches.delete batchId }
  | .ok (db, _) =>
      { w with db, batches := w.batches.update batchId
                     (fun batch => { batch with remaining := rest }) fun _ => rfl }

def step (w : RunWorld) : Action -> Option RunWorld
  | .configure registry =>
      some { w with
        db := { w.db with
          sloDefinitions := registry.sloDefinitions
          sliDefinitions := registry.sliDefinitions
          dataSources := registry.dataSources
          assets := registry.assets }
        assignments := registry.assignments }
  | .trigger request runId newId => do
      let (db, _) <- (triggerEvaluate w.db w.assignments request runId newId).toOption
      some { w with db }
  | .batch batchId request => do
      let remaining <- (batchRequests request).toOption
      let batch : Batch := { id := batchId, remaining }
      if fresh : w.batches.find batch.id = none then
        some { w with batches := w.batches.insert batch fresh }
      else none
  | .batchNext batchId runId newId => do
      let batch <- w.batches.find batchId
      match batch.remaining with
      | [] => none
      | request :: rest => some (w.batchTrigger batchId request rest runId newId)
  | .child write => some { w with db := { w.db with evaluations := applyWrite (some write) w.db.evaluations } }
  | .operate operation => do
      let db <- Maintenance.step w.db operation
      some { w with db }
  | .finalizeJob attemptId runId => w.start attemptId runId
  | .sweep sweepId limit =>
      let sweep : Sweep := { id := sweepId, remaining := findFinalizablePendingIds w.db limit }
      if fresh : w.sweeps.find sweep.id = none then
        some { w with sweeps := w.sweeps.insert sweep fresh }
      else none
  | .sweepNext sweepId attemptId => do
      let sweep <- w.sweeps.find sweepId
      match sweep.remaining with
      | [] => none
      | runId :: rest =>
          RunWorld.start { w with
            sweeps := w.sweeps.update sweepId (fun sweep => { sweep with remaining := rest })
              fun _ => rfl } attemptId runId
  | .readRun attemptId => do
      let attempt <- w.attempts.find attemptId
      match attempt.phase with
      | .starting =>
          match unfinalized w.db.runs attempt.runId with
          | none => some (w.setPhase attemptId .ended)
          | some _ => some (w.setPhase attemptId .reading)
      | _ => none
  | .readChildren attemptId => do
      let attempt <- w.attempts.find attemptId
      match attempt.phase with
      | .reading =>
          some (w.setPhase attemptId (afterReading (childrenOf w.db.evaluations attempt.runId)))
      | _ => none
  | .update attemptId => do
      let attempt <- w.attempts.find attemptId
      match attempt.phase with
      | .deciding children =>
          if w.locked attempt.runId then none
          else some (w.setPhase attemptId (afterUpdate w attempt.runId children))
      | _ => none
  | .commit attemptId => do
      let attempt <- w.attempts.find attemptId
      match attempt.phase with
      | .updated children =>
          some { w.setPhase attemptId (.returned children) with
            db := { w.db with runs := finalizeRun w.db.runs attempt.runId (aggregate children) } }
      | _ => none
  | .crash attemptId => do
      let attempt <- w.attempts.find attemptId
      if attempt.isOver then none
      else some { w with attempts := w.attempts.delete attemptId }

/-- Nothing is under way.  The database may contain anything. -/
structure RunWorld.Initial (w : RunWorld) : Prop where
  noBatches : w.batches = .empty
  noAttempts : w.attempts = .empty
  noSweeps : w.sweeps = .empty

def Reachable : RunWorld -> Prop :=
  TransitionSystem.Reachable step RunWorld.Initial

end Finalization
end Tropek
