import Tropek.Maintenance.Operations

namespace Tropek
namespace Maintenance

open Library Engine Store

namespace BulkActions

/-!
# Actions on one evaluation and on many

Every action that a user takes on a stored evaluation has two endpoints.  One takes the
identifier in its path: it reads the row, refuses a row that the action does not apply to,
writes by identifier and deletes the cache entries of that row.  The other takes a list of
identifiers and writes with one statement; what it does not apply to is left out by the
statement and listed in the answer.

The two are written apart from each other.  Here they stand side by side, with the columns
that only they write and with the cache entries that they delete.
-/

structure EvaluationRow extends SLOEvaluation where
  invalidationNote : Option String := none
  baselinePinReason : Option String := none
  baselinePinAuthor : Option String := none

def EvaluationRow.key (row : EvaluationRow) : Nat := row.id

abbrev EvaluationRows := KeyedTable EvaluationRow.key

inductive CacheEntry where
  | baseline (assetId : Nat) (sloName : String)
  | heatmapColumn (runId : Nat)
deriving DecidableEq, Repr

def EvaluationRow.setInvalidated (note : String) (row : EvaluationRow) : EvaluationRow :=
  { row with invalidated := true, invalidationNote := some note }

def EvaluationRow.setValid (row : EvaluationRow) : EvaluationRow :=
  { row with invalidated := false, invalidationNote := none }

def EvaluationRow.setPinned (reason author : String) (now : Instant) (row : EvaluationRow) :
    EvaluationRow :=
  { row with baselinePinnedAt := some now, baselineUnpinnedAt := none,
             baselinePinReason := some reason, baselinePinAuthor := some author }

def EvaluationRow.setUnpinned (now : Instant) (row : EvaluationRow) : EvaluationRow :=
  { row with baselineUnpinnedAt := some now }

/-- The values that `override_status` writes after it has read the row as `ev`.  The
original is among them on the first override only. -/
def EvaluationRow.setOverridden (newResult : ResultValue) (reason author : String)
    (ev row : EvaluationRow) : EvaluationRow :=
  { row with
    result := some newResult
    overrideReason := some reason
    overrideAuthor := some author
    originalResult := if ev.originalResult = none then ev.result else row.originalResult }

/-- The values of the bulk statement, with `coalesce(original_result, result)`. -/
def EvaluationRow.setOverriddenCoalescing (newResult : ResultValue) (reason author : String)
    (row : EvaluationRow) : EvaluationRow :=
  { row with
    result := some newResult
    overrideReason := some reason
    overrideAuthor := some author
    originalResult := row.originalResult.or row.result }

def EvaluationRow.setRestored (original : Option ResultValue) (row : EvaluationRow) :
    EvaluationRow :=
  { row with result := original, originalResult := none, overrideReason := none,
             overrideAuthor := none }

/-- `result = original_result`, from the row itself. -/
def EvaluationRow.setRestoredOwn (row : EvaluationRow) : EvaluationRow :=
  row.setRestored row.originalResult

theorem EvaluationRow.setInvalidated_key (note : String) (row : EvaluationRow) :
    (row.setInvalidated note).key = row.key :=
  rfl

theorem EvaluationRow.setValid_key (row : EvaluationRow) : row.setValid.key = row.key :=
  rfl

theorem EvaluationRow.setPinned_key (reason author : String) (now : Instant) (row : EvaluationRow) :
    (row.setPinned reason author now).key = row.key :=
  rfl

theorem EvaluationRow.setUnpinned_key (now : Instant) (row : EvaluationRow) :
    (row.setUnpinned now).key = row.key :=
  rfl

theorem EvaluationRow.setOverridden_key (newResult : ResultValue) (reason author : String)
    (ev row : EvaluationRow) : (ev.setOverridden newResult reason author row).key = row.key :=
  rfl

theorem EvaluationRow.setOverriddenCoalescing_key (newResult : ResultValue) (reason author : String)
    (row : EvaluationRow) : (row.setOverriddenCoalescing newResult reason author).key = row.key :=
  rfl

theorem EvaluationRow.setRestored_key (original : Option ResultValue) (row : EvaluationRow) :
    (row.setRestored original).key = row.key :=
  rfl

theorem EvaluationRow.setRestoredOwn_key (row : EvaluationRow) : row.setRestoredOwn.key = row.key :=
  rfl

/-- `_invalidate_baseline_cache`: an empty SLO name counts as none. -/
def invalidateBaselineCache (assetId : Nat) (sloName : String) : List CacheEntry :=
  if sloName = "" then [] else [.baseline assetId sloName]

def invalidateHeatmapColumn (runId : Nat) : List CacheEntry :=
  [.heatmapColumn runId]

def cachesOf (ev : EvaluationRow) : List CacheEntry :=
  invalidateBaselineCache ev.assetId ev.sloName ++ invalidateHeatmapColumn ev.evaluationId

/-- `_invalidate_caches_for`: each distinct key once. -/
def invalidateCachesFor (rows : List EvaluationRow) : List CacheEntry :=
  ((rows.map fun row => (row.assetId, row.sloName)).dedup.flatMap fun baselineKey =>
      invalidateBaselineCache baselineKey.1 baselineKey.2) ++
    (rows.map fun row => row.evaluationId).dedup.map .heatmapColumn

/-- The table after an action, and the cache entries that the action has deleted. -/
structure Changed where
  rows : EvaluationRows
  deleted : List CacheEntry := []

/-- What the repository methods for one evaluation share: the row is read, and when there
is one, the statements run and its cache entries are deleted. -/
def singular (table : EvaluationRows) (evalId : Nat)
    (statements : EvaluationRow -> EvaluationRows) : Option Changed :=
  match table.find evalId with
  | none => none
  | some ev => some { rows := statements ev, deleted := cachesOf ev }

def invalidate (table : EvaluationRows) (evalId : Nat) (note : String) : Option Changed :=
  singular table evalId fun _ =>
    table.update evalId (EvaluationRow.setInvalidated note) (EvaluationRow.setInvalidated_key note)

def restore (table : EvaluationRows) (evalId : Nat) : Option Changed :=
  singular table evalId fun _ =>
    table.update evalId EvaluationRow.setValid EvaluationRow.setValid_key

/-- The first statement of a pin: the active pin of the series is taken off, unless the SLO
name is empty. -/
def unpinSeries (table : EvaluationRows) (ev : EvaluationRow) (now : Instant) : EvaluationRows :=
  if ev.sloName ≠ "" then
    table.updateWhere (fun row => row.SameSeries ev.assetId ev.sloName && row.isPinned)
      (EvaluationRow.setUnpinned now) (EvaluationRow.setUnpinned_key now)
  else table

def pinBaseline (table : EvaluationRows) (evalId : Nat) (reason author : String) (now : Instant) :
    Option Changed :=
  singular table evalId fun ev =>
    (unpinSeries table ev now).update evalId (EvaluationRow.setPinned reason author now)
      (EvaluationRow.setPinned_key reason author now)

def unpinBaseline (table : EvaluationRows) (evalId : Nat) (now : Instant) : Option Changed :=
  singular table evalId fun _ =>
    table.update evalId (EvaluationRow.setUnpinned now) (EvaluationRow.setUnpinned_key now)

def overrideStatus (table : EvaluationRows) (evalId : Nat) (newResult : ResultValue)
    (reason author : String) : Option Changed :=
  singular table evalId fun ev =>
    table.update evalId (EvaluationRow.setOverridden newResult reason author ev)
      (EvaluationRow.setOverridden_key newResult reason author ev)

def restoreOverride (table : EvaluationRows) (evalId : Nat) : Option Changed :=
  match table.find evalId with
  | none => none
  | some ev =>
      if ev.originalResult = none then some { rows := table }
      else
        some {
          rows := table.update evalId (EvaluationRow.setRestored ev.originalResult)
            (EvaluationRow.setRestored_key ev.originalResult)
          deleted := cachesOf ev }

inductive Refusal where
  | notFound (entity : String) (name : Nat)
  | conflict (entity : String) (name : Nat) (reason : String)
deriving DecidableEq, Repr

/-- `if updated is None: raise NotFoundError`. -/
def orNotFound (evalId : Nat) : Option Changed -> Except Refusal Changed
  | none => .error (.notFound "evaluation" evalId)
  | some changed => .ok changed

/-- What the endpoints with a precondition share: the row is read, checked, and the
repository method follows. -/
def checked (table : EvaluationRows) (evalId : Nat) (refusal : EvaluationRow -> Option String)
    (method : Option Changed) : Except Refusal Changed :=
  match table.find evalId with
  | none => .error (.notFound "evaluation" evalId)
  | some ev =>
      match refusal ev with
      | some reason => .error (.conflict "evaluation" evalId reason)
      | none => orNotFound evalId method

def invalidateEvaluationSingular (table : EvaluationRows) (evalId : Nat) (note : String) :
    Except Refusal Changed :=
  orNotFound evalId (invalidate table evalId note)

def restoreEvaluationSingular (table : EvaluationRows) (evalId : Nat) : Except Refusal Changed :=
  orNotFound evalId (restore table evalId)

def pinRefusal (ev : EvaluationRow) : Option String :=
  if ev.status ≠ .completed then some "only completed evaluations can be pinned"
  else if ev.invalidated then some "cannot pin an invalidated evaluation"
  else none

def pinBaselineSingular (table : EvaluationRows) (evalId : Nat) (reason author : String)
    (now : Instant) : Except Refusal Changed :=
  checked table evalId pinRefusal (pinBaseline table evalId reason author now)

def unpinBaselineSingular (table : EvaluationRows) (evalId : Nat) (now : Instant) :
    Except Refusal Changed :=
  checked table evalId (fun _ => none) (unpinBaseline table evalId now)

def overrideRefusal (ev : EvaluationRow) : Option String :=
  if ev.status ≠ .completed then some "only completed evaluations can be overridden" else none

def overrideStatusSingular (table : EvaluationRows) (evalId : Nat) (newResult : ResultValue)
    (reason author : String) : Except Refusal Changed :=
  checked table evalId overrideRefusal (overrideStatus table evalId newResult reason author)

def restoreOverrideRefusal (ev : EvaluationRow) : Option String :=
  if ev.originalResult = none then some "has no override to restore" else none

def restoreOverrideSingular (table : EvaluationRows) (evalId : Nat) : Except Refusal Changed :=
  checked table evalId restoreOverrideRefusal (restoreOverride table evalId)

/-- The table after a bulk action, the rows that it returns and the entries that it has
deleted. -/
structure ChangedMany where
  rows : EvaluationRows
  affected : List EvaluationRow := []
  deleted : List CacheEntry := []

def fetchByIds (table : EvaluationRows) (evalIds : List Nat) : List EvaluationRow :=
  table.rows.filter fun row => evalIds.contains row.id

/-- What the bulk methods share: one statement for the rows of the identifiers, which are
then fetched for the answer and for the caches. -/
def updateMany (table : EvaluationRows) (evalIds : List Nat)
    (change : EvaluationRow -> EvaluationRow) (keeps : forall row, (change row).key = row.key) :
    ChangedMany :=
  if evalIds = [] then { rows := table }
  else
    let rows := table.updateWhere (fun row => evalIds.contains row.id) change keeps
    let affected := fetchByIds rows evalIds
    { rows, affected, deleted := invalidateCachesFor affected }

/-- `SELECT id ... WHERE id IN (...) AND condition`. -/
def eligibleIds (table : EvaluationRows) (evalIds : List Nat) (condition : EvaluationRow -> Bool) :
    List Nat :=
  (table.rows.filter fun row => evalIds.contains row.id && condition row).map fun row => row.id

def invalidateMany (table : EvaluationRows) (evalIds : List Nat) (note : String) : ChangedMany :=
  updateMany table evalIds (EvaluationRow.setInvalidated note)
    (EvaluationRow.setInvalidated_key note)

def restoreMany (table : EvaluationRows) (evalIds : List Nat) : ChangedMany :=
  updateMany table evalIds EvaluationRow.setValid EvaluationRow.setValid_key

def overrideStatusMany (table : EvaluationRows) (evalIds : List Nat) (newResult : ResultValue)
    (reason author : String) : ChangedMany :=
  updateMany table (eligibleIds table evalIds fun row => row.status = .completed)
    (EvaluationRow.setOverriddenCoalescing newResult reason author)
    (EvaluationRow.setOverriddenCoalescing_key newResult reason author)

def restoreOverrideMany (table : EvaluationRows) (evalIds : List Nat) : ChangedMany :=
  updateMany table (eligibleIds table evalIds fun row => row.originalResult.isSome)
    EvaluationRow.setRestoredOwn EvaluationRow.setRestoredOwn_key

def eligibleRows (table : EvaluationRows) (evalIds : List Nat) : List EvaluationRow :=
  table.rows.filter fun row =>
    evalIds.contains row.id && row.status = .completed && !row.invalidated

/-- The identifiers that a bulk pin chooses: of each asset and SLO the newest one. -/
def pinIds (eligible : List EvaluationRow) : List Nat :=
  (newestPerGroup (eligible.map EvaluationRow.toSLOEvaluation)).map fun row => row.id

def inGroupOf (table : EvaluationRows) (chosenIds : List Nat) (row : EvaluationRow) : Bool :=
  table.rows.any fun chosen =>
    chosenIds.contains chosen.id && row.SameSeries chosen.assetId chosen.sloName

def pinBaselineMany (table : EvaluationRows) (evalIds : List Nat) (reason author : String)
    (now : Instant) : ChangedMany :=
  let eligible := eligibleRows table evalIds
  if eligible.isEmpty then { rows := table }
  else
    let chosenIds := pinIds eligible
    let unpinned := table.updateWhere
      (fun row => inGroupOf table chosenIds row && row.isPinned)
      (EvaluationRow.setUnpinned now) (EvaluationRow.setUnpinned_key now)
    updateMany unpinned chosenIds (EvaluationRow.setPinned reason author now)
      (EvaluationRow.setPinned_key reason author now)

def unpinBaselineMany (table : EvaluationRows) (evalIds : List Nat) (now : Instant) : ChangedMany :=
  updateMany table evalIds (EvaluationRow.setUnpinned now) (EvaluationRow.setUnpinned_key now)

/-- The answer to a bulk request.  A result is an identifier with the status `success`. -/
structure BulkActionResponse where
  results : List Nat
  updated : Nat
  notFound : List Nat
deriving DecidableEq, Repr

def bulkResponse (requestedIds : List Nat) (affectedRows : List EvaluationRow) :
    BulkActionResponse :=
  let affectedIds := affectedRows.map fun row => row.id
  { results := affectedIds
    updated := affectedIds.length
    notFound := requestedIds.filter fun evalId => !affectedIds.contains evalId }

inductive BulkAction where
  | invalidate (note : String)
  | restore
  | overrideStatus (newResult : EvaluationOutcome) (reason author : String)
  | restoreOverride
  | pinBaseline (reason author : String)
  | unpinBaseline
deriving DecidableEq, Repr

def BulkAction.single (action : BulkAction) (table : EvaluationRows) (evalId : Nat)
    (now : Instant) : Except Refusal Changed :=
  match action with
  | .invalidate note => invalidateEvaluationSingular table evalId note
  | .restore => restoreEvaluationSingular table evalId
  | .overrideStatus newResult reason author =>
      overrideStatusSingular table evalId (.ofOutcome newResult) reason author
  | .restoreOverride => restoreOverrideSingular table evalId
  | .pinBaseline reason author => pinBaselineSingular table evalId reason author now
  | .unpinBaseline => unpinBaselineSingular table evalId now

def BulkAction.many (action : BulkAction) (table : EvaluationRows) (evalIds : List Nat)
    (now : Instant) : ChangedMany :=
  match action with
  | .invalidate note => invalidateMany table evalIds note
  | .restore => restoreMany table evalIds
  | .overrideStatus newResult reason author =>
      overrideStatusMany table evalIds (.ofOutcome newResult) reason author
  | .restoreOverride => restoreOverrideMany table evalIds
  | .pinBaseline reason author => pinBaselineMany table evalIds reason author now
  | .unpinBaseline => unpinBaselineMany table evalIds now

def BulkAction.bulk (action : BulkAction) (table : EvaluationRows) (evalIds : List Nat)
    (now : Instant) : Changed × BulkActionResponse :=
  let changed := action.many table evalIds now
  ({ rows := changed.rows, deleted := changed.deleted }, bulkResponse evalIds changed.affected)

/-- What the calls for one evaluation each leave behind, one call after the other.
`applied`: the identifiers of the calls that went through; `refused`: the identifiers of
the calls that were answered with not found or conflict. -/
structure SingleCalls extends Changed where
  applied : List Nat := []
  refused : List Nat := []

def BulkAction.call (action : BulkAction) (calls : SingleCalls) (request : Nat × Instant) :
    SingleCalls :=
  match action.single calls.rows request.1 request.2 with
  | .error _ => { calls with refused := calls.refused ++ [request.1] }
  | .ok changed =>
      { rows := changed.rows
        deleted := calls.deleted ++ changed.deleted
        applied := calls.applied ++ [request.1]
        refused := calls.refused }

def BulkAction.singles (action : BulkAction) (table : EvaluationRows)
    (requests : List (Nat × Instant)) : SingleCalls :=
  requests.foldl action.call { rows := table }

theorem contains_eligibleIds {table : EvaluationRows} (evalIds : List Nat)
    (condition : EvaluationRow -> Bool) {row : EvaluationRow} (member : row ∈ table.rows) :
    (eligibleIds table evalIds condition).contains row.id =
      (evalIds.contains row.id && condition row) := by
  rw [Bool.eq_iff_iff, List.contains_iff_mem]
  unfold eligibleIds
  rw [List.mem_map]
  constructor
  · rintro ⟨other, eligible, same⟩
    rcases List.mem_filter.mp eligible with ⟨inside, accepted⟩
    rwa [KeyedTable.eq_of_key inside member same] at accepted
  · exact fun accepted => ⟨row, List.mem_filter.mpr ⟨member, accepted⟩, rfl⟩

end BulkActions
end Maintenance
end Tropek
