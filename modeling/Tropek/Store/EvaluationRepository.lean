import Tropek.Store.Rows

namespace Tropek
namespace Store

open Library Engine

/-!
# The evaluation repository

The statements that create evaluations and move them between statuses.  Every
update selects its row by identifier alone: none of them looks at the status
that the row has when the statement runs.
-/

abbrev Evaluations := KeyedTable SLOEvaluation.id

/-- The values that `mark_running` writes.  The stats are merged, so that the
retry counter of the watchdog survives. -/
def SLOEvaluation.setRunning (now : Instant) (workerId : Option String) (row : SLOEvaluation) :
    SLOEvaluation :=
  let workerId := workerId.filter (· ≠ "")
  { row with status := .running, startedAt := some now, jobStats := row.jobStats.merge { workerId } }

structure CompletedValues where
  result : ResultValue
  score : ℚ
  achievedPoints : Option Int
  totalPoints : Option Int
  sloName : Option String
  sloVersion : Option Int
  jobStats : JobStats
  comparedEvaluationIds : Option (List Nat)
deriving DecidableEq, Repr

/-- The values that `mark_completed` writes. -/
def SLOEvaluation.setCompleted (values : CompletedValues) (row : SLOEvaluation) : SLOEvaluation :=
  { row with
    status := .completed
    result := some values.result
    score := some values.score
    achievedPoints := values.achievedPoints
    totalPoints := values.totalPoints
    jobStats := values.jobStats.merge { comparedEvaluationIds := values.comparedEvaluationIds }
    sloName := values.sloName.getD row.sloName
    sloVersion := values.sloVersion.or row.sloVersion }

/-- The values that `mark_failed` writes. -/
def SLOEvaluation.setFailed (jobStats : JobStats) (row : SLOEvaluation) : SLOEvaluation :=
  { row with status := .failed, jobStats }

/-- The values that `requeue_stuck` writes. -/
def SLOEvaluation.setRequeued (stuckJobRetries : Nat) (row : SLOEvaluation) : SLOEvaluation :=
  { row with status := .pending, startedAt := none,
             jobStats := { stuckJobRetries := some stuckJobRetries } }

/-- The indicator rows are another table; this replaces those of one evaluation. -/
def SLOEvaluation.setIndicatorRows (indicatorRows : IndicatorRows) (row : SLOEvaluation) :
    SLOEvaluation :=
  { row with indicatorRows }

def SLOEvaluation.Live (row : SLOEvaluation) : Prop :=
  row.status = .pending ∨ row.status = .running

instance (row : SLOEvaluation) : Decidable row.Live :=
  inferInstanceAs (Decidable (row.status = .pending ∨ row.status = .running))

def SLOEvaluation.SameSeries (row : SLOEvaluation) (assetId : Nat) (sloName : String) : Prop :=
  row.assetId = assetId ∧ row.sloName = sloName

instance (row : SLOEvaluation) (assetId : Nat) (sloName : String) :
    Decidable (row.SameSeries assetId sloName) :=
  inferInstanceAs (Decidable (row.assetId = assetId ∧ row.sloName = sloName))

theorem SLOEvaluation.setRunning_id (now : Instant) (workerId : Option String)
    (row : SLOEvaluation) : (row.setRunning now workerId).id = row.id :=
  rfl

theorem SLOEvaluation.setCompleted_id (values : CompletedValues) (row : SLOEvaluation) :
    (row.setCompleted values).id = row.id :=
  rfl

theorem SLOEvaluation.setFailed_id (jobStats : JobStats) (row : SLOEvaluation) :
    (row.setFailed jobStats).id = row.id :=
  rfl

theorem SLOEvaluation.setRequeued_id (stuckJobRetries : Nat) (row : SLOEvaluation) :
    (row.setRequeued stuckJobRetries).id = row.id :=
  rfl

theorem SLOEvaluation.setIndicatorRows_id (indicatorRows : IndicatorRows) (row : SLOEvaluation) :
    (row.setIndicatorRows indicatorRows).id = row.id :=
  rfl

def markRunning (table : Evaluations) (evalId : Nat) (now : Instant) (workerId : Option String) :
    Evaluations :=
  table.update evalId (SLOEvaluation.setRunning now workerId)
    (SLOEvaluation.setRunning_id now workerId)

def markCompleted (table : Evaluations) (evalId : Nat) (values : CompletedValues) : Evaluations :=
  table.update evalId (SLOEvaluation.setCompleted values)
    (SLOEvaluation.setCompleted_id values)

def markFailed (table : Evaluations) (evalId : Nat) (jobStats : JobStats) : Evaluations :=
  table.update evalId (SLOEvaluation.setFailed jobStats)
    (SLOEvaluation.setFailed_id jobStats)

def requeueStuck (table : Evaluations) (evalId stuckJobRetries : Nat) : Evaluations :=
  table.update evalId (SLOEvaluation.setRequeued stuckJobRetries)
    (SLOEvaluation.setRequeued_id stuckJobRetries)

/-- `started_at < cutoff`; a null `started_at` satisfies no comparison. -/
def startedBefore (row : SLOEvaluation) (cutoff : Instant) : Bool :=
  row.startedAt.any (· < cutoff)

/-- The condition of `find_stuck`. -/
def isStuck (cutoff : Instant) (row : SLOEvaluation) : Bool :=
  row.status = .running && startedBefore row cutoff

def findStuck (table : Evaluations) (now threshold : Instant) : List SLOEvaluation :=
  table.rows.filter (isStuck (now - threshold))

/-- The condition of `has_pending_predecessor` on one row.  With a cutoff, a row
that has been running since before it does not count. -/
def isPendingPredecessor (assetId : Nat) (sloName : String) (periodStart : Instant)
    (staleRunningCutoff : Option Instant) (row : SLOEvaluation) : Bool :=
  row.SameSeries assetId sloName && row.periodStart < periodStart &&
    (row.status = .pending ||
      (row.status = .running &&
        match staleRunningCutoff with
        | none => true
        | some cutoff => row.startedAt.any (cutoff ≤ ·)))

def hasPendingPredecessor (table : Evaluations) (assetId : Nat) (sloName : String)
    (periodStart : Instant) (staleRunningCutoff : Option Instant) : Bool :=
  0 < (table.rows.filter
    (isPendingPredecessor assetId sloName periodStart staleRunningCutoff)).length

structure EvalCreateParams where
  evaluationId : Nat
  evaluationName : String
  periodStart : Instant
  periodEnd : Instant
  assetSnapshot : AssetSnapshot := {}
  vars : Dict String := ∅
  assetId : Nat
  sloName : String
  sloVersion : Option Int := none
  sliName : Option String := none
  sliVersion : Option Int := none
  dataSourceName : Option String := none

/-- The columns of the unique index `uq_slo_evaluations_identity`. -/
def SLOEvaluation.identity (row : SLOEvaluation) : Nat × String × String × Instant × Instant :=
  (row.assetId, row.sloName, row.evaluationName, row.periodStart, row.periodEnd)

/-- The row that `create_pending` builds.  Asset tags are defaults for the
variables. -/
def pendingEvaluation (params : EvalCreateParams) (assetTags : Dict String) (id : Nat) :
    SLOEvaluation :=
  { id
    evaluationId := params.evaluationId
    evaluationName := params.evaluationName
    periodStart := params.periodStart
    periodEnd := params.periodEnd
    assetSnapshot := params.assetSnapshot
    vars := params.vars ∪ assetTags
    assetId := params.assetId
    sloName := params.sloName
    sloVersion := params.sloVersion
    sliName := params.sliName
    sliVersion := params.sliVersion
    dataSourceName := params.dataSourceName
    status := .pending }

def identityTaken (table : Evaluations) (row : SLOEvaluation) : Bool :=
  table.rows.any fun other => other.status ≠ .failed && other.identity = row.identity

def assetTagsOf (db : Database) (assetId : Nat) : Dict String :=
  ((db.assets.find assetId).map (·.tags)).getD ∅

/-- Create an evaluation in status pending, with the given fresh identifier.  A
missing parent run is created along with it.  A duplicate raises. -/
def createPending (db : Database) (params : EvalCreateParams) (id : Nat) : Option Database :=
  let runs :=
    if missing : db.runs.find params.evaluationId = none then
      db.runs.insert
        { id := params.evaluationId, assetId := params.assetId, evalName := params.evaluationName,
          periodStart := params.periodStart, periodEnd := params.periodEnd } missing
    else db.runs
  let row := pendingEvaluation params (assetTagsOf db params.assetId) id
  if identityTaken db.evaluations row then none
  else if fresh : db.evaluations.find row.id = none then
    some { db with runs, evaluations := db.evaluations.insert row fresh }
  else none

/-- A creation adds one pending row, and changes neither the other rows nor the
definitions. -/
theorem createPending_eq_some {db next : Database} {params : EvalCreateParams} {id : Nat}
    (created : createPending db params id = some next) :
    db.evaluations.find id = none ∧
      (forall other, next.evaluations.find other =
        if other = id then some (pendingEvaluation params (assetTagsOf db params.assetId) id)
        else db.evaluations.find other) ∧
      next.sloDefinitions = db.sloDefinitions ∧ next.sliDefinitions = db.sliDefinitions ∧
      next.dataSources = db.dataSources := by
  unfold createPending at created
  dsimp only at created
  split at created
  · cases created
  · split at created
    · rename_i fresh
      cases created
      refine ⟨fresh, fun other => ?_, rfl, rfl, rfl⟩
      exact KeyedTable.find_insert _ _ fresh other
    · cases created

theorem createPending_rows {db next : Database} {params : EvalCreateParams} {id : Nat}
    (created : createPending db params id = some next) :
    next.evaluations.rows = db.evaluations.rows ++
      [pendingEvaluation params (assetTagsOf db params.assetId) id] := by
  unfold createPending at created
  dsimp only at created
  split at created
  · cases created
  · split at created
    · cases created
      rfl
    · cases created

/-- The values that `override_status` writes.  The original is kept from the
first override on. -/
def SLOEvaluation.setOverridden (newResult : ResultValue) (reason author : String)
    (row : SLOEvaluation) : SLOEvaluation :=
  { row with result := some newResult, overrideReason := some reason, overrideAuthor := some author,
             originalResult := row.originalResult.or row.result }

/-- The values that `restore_override` writes. -/
def SLOEvaluation.setRestored (row : SLOEvaluation) : SLOEvaluation :=
  { row with result := row.originalResult, originalResult := none, overrideReason := none,
             overrideAuthor := none }

theorem SLOEvaluation.setOverridden_id (newResult : ResultValue) (reason author : String)
    (row : SLOEvaluation) : (row.setOverridden newResult reason author).id = row.id :=
  rfl

theorem SLOEvaluation.setRestored_id (row : SLOEvaluation) : row.setRestored.id = row.id :=
  rfl

def overrideStatus (table : Evaluations) (evalId : Nat) (newResult : ResultValue)
    (reason author : String) : Evaluations :=
  table.update evalId (SLOEvaluation.setOverridden newResult reason author)
    (SLOEvaluation.setOverridden_id newResult reason author)

def restoreOverride (table : Evaluations) (evalId : Nat) : Evaluations :=
  table.updateWhere (fun row => row.id = evalId && row.originalResult.isSome)
    SLOEvaluation.setRestored SLOEvaluation.setRestored_id

def overrideStatusMany (table : Evaluations) (evalIds : List Nat) (newResult : ResultValue)
    (reason author : String) : Evaluations :=
  table.updateWhere (fun row => evalIds.contains row.id && row.status = .completed)
    (SLOEvaluation.setOverridden newResult reason author)
    (SLOEvaluation.setOverridden_id newResult reason author)

def restoreOverrideMany (table : Evaluations) (evalIds : List Nat) : Evaluations :=
  table.updateWhere (fun row => evalIds.contains row.id && row.originalResult.isSome)
    SLOEvaluation.setRestored SLOEvaluation.setRestored_id

theorem mem_findStuck {table : Evaluations} {now threshold : Instant} {row : SLOEvaluation} :
    row ∈ findStuck table now threshold ↔
      row ∈ table.rows ∧ row.status = .running ∧
        startedBefore row (now - threshold) = true := by
  unfold findStuck isStuck
  rw [List.mem_filter, Bool.and_eq_true, decide_eq_true_eq]

theorem hasPendingPredecessor_eq_false {table : Evaluations} {assetId : Nat} {sloName : String}
    {periodStart : Instant} {cutoff : Option Instant} :
    hasPendingPredecessor table assetId sloName periodStart cutoff = false ↔
      forall row, row ∈ table.rows ->
        isPendingPredecessor assetId sloName periodStart cutoff row = false := by
  unfold hasPendingPredecessor
  rw [decide_eq_false_iff_not, Nat.not_lt, Nat.le_zero, List.length_eq_zero_iff,
    List.filter_eq_nil_iff]
  exact forall_congr' fun row => imp_congr_right fun _ => Bool.eq_false_iff.symm

/-- A row that is no predecessor although it is earlier has ended, or has been
running since before the cutoff, or has the status `partial`. -/
theorem not_isPendingPredecessor {assetId : Nat} {sloName : String} {periodStart cutoff : Instant}
    {row : SLOEvaluation} (series : row.SameSeries assetId sloName)
    (earlier : row.periodStart < periodStart)
    (none : isPendingPredecessor assetId sloName periodStart (some cutoff) row = false) :
    row.status ≠ .pending ∧
      (row.status = .running -> forall started, row.startedAt = some started -> started < cutoff) := by
  unfold isPendingPredecessor at none
  simp only [series, earlier, decide_true, Bool.true_and, Bool.or_eq_false_iff,
    decide_eq_false_iff_not] at none
  refine ⟨none.1, fun running started same => ?_⟩
  have late := none.2
  simp only [running, same, decide_true, Bool.true_and, Option.any_some,
    decide_eq_false_iff_not] at late
  exact not_le.mp late

end Store
end Tropek
