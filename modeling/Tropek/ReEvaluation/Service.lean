import Tropek.Registry.Definitions
import Tropek.Store.BaselineRepository

namespace Tropek
namespace ReEvaluation

open Library Engine Store KeyedTable Fallible

/-!
# Re-evaluation

A re-evaluation scores the completed evaluations of a window again, against a
version of their SLO and in chronological order.  The measured values come from
the indicator rows that the evaluations already have.  A real run overwrites
the result, the score and the indicator rows of each evaluation before it goes
on to the next one; a dry run reports the same items and writes nothing.

One request is one transaction: an exception leaves the database as it was.
The automatic annotation and the caches are left out.  The names of the SLOs
that are assigned to an asset come from tables that a re-evaluation does not
write, and are an argument.
-/

inductive PinStrategy where
  | skipToPin
  | ignorePin
deriving DecidableEq, Repr

structure ReEvaluateRequest where
  assetName : String
  sloName : Option String := none
  sloNames : Option (List String) := none
  fromDate : Option Instant := none
  fromBaseline : Bool := false
  fromEvaluationId : Option Nat := none
  sloVersion : Option Int := none
  dryRun : Bool := false
  pinStrategy : Option PinStrategy := none
deriving DecidableEq, Repr

structure ReEvalResultItem where
  id : Nat
  evaluationName : String
  sloName : String
  sloVersion : Int
  periodStart : Instant
  periodEnd : Instant
  oldResult : ResultValue
  newResult : ResultValue
  oldScore : ℚ
  newScore : ℚ
deriving DecidableEq, Repr

structure ReEvaluateResponse where
  affectedEvaluations : Nat
  sloVersionUsed : Option Int
  results : List ReEvalResultItem
deriving DecidableEq, Repr

/-- How a re-evaluation fails.  `valueError`: a `ValueError`, with its text; `database`:
a statement that the database refuses, or a query with more rows than the code expects.
-/
inductive ReEvalError where
  | valueError (message : String)
  | baselinePinConflict (pinDate : Instant) (pinEvalId : Nat)
  | engine (error : EngineError)
  | database
deriving DecidableEq, Repr

def loadSloDefinition (db : Database) (sloName : String) (sloVersion : Option Int) :
    Option SLODefinition :=
  match sloVersion with
  | some version => db.sloDefinitions.find (sloName, version)
  | none =>
      (Latest.latest SLODefinition.version 1 (db.sloDefinitions.rows.filter fun sloDef =>
        sloDef.name = sloName && sloDef.active)).head?

def resolveFromDate (request : ReEvaluateRequest) (table : Evaluations) (assetId : Nat)
    (sloName : String) : Except ReEvalError Instant :=
  match request.fromDate, request.fromEvaluationId with
  | some fromDate, _ => .ok fromDate
  | none, some evaluationId =>
      match table.find evaluationId with
      | none => .error (.valueError s!"evaluation '{evaluationId}' not found")
      | some anchor => .ok anchor.periodStart
  | none, none =>
      let recentEvals := loadEvaluationsForReeval table assetId sloName none
      match recentEvals.reverse.find? (·.isPinned) with
      | none => .error (.valueError
          s!"no evaluation with pinned baseline found for slo '{sloName}'")
      | some ev => .ok ev.periodStart

/-- The start of the window after the pin strategy, and whether the baseline
queries skip the pin filter. -/
def resolvePinConflict (request : ReEvaluateRequest) (table : Evaluations) (fromDate : Instant)
    (assetId : Nat) (sloName : String) : Except ReEvalError (Instant × Bool) :=
  if request.fromBaseline then .ok (fromDate, false)
  else
    match getActivePin table assetId sloName with
    | none => .error .database
    | some none => .ok (fromDate, false)
    | some (some (pinDate, pinEvalId)) =>
        if pinDate ≤ fromDate then .ok (fromDate, false)
        else
          match request.pinStrategy with
          | none => .error (.baselinePinConflict pinDate pinEvalId)
          | some .skipToPin => .ok (pinDate, false)
          | some .ignorePin => .ok (fromDate, true)

/-- The range of SLI versions that a version compares with.  An empty name and
the version zero count as absent. -/
def resolveSliVersionRange (db : Database) (sliName : Option String) (sliVersion : Option Int) :
    Option (Int × Int) := do
  let name <- sliName.filter (· ≠ "")
  let version <- sliVersion.filter (· ≠ 0)
  let sliDef <- db.sliDefinitions.find (name, version)
  return (sliDef.comparableFromVersion, sliDef.version)

/-- What a request settles for one SLO before any evaluation is loaded.  The
model is the one built from the definition. -/
structure Window where
  assetId : Nat
  sloName : String
  sloDef : SLODefinition
  sloModel : SLO
  built : buildSloModel sloDef = .ok sloModel
  fromDate : Instant
  skipPin : Bool

/-- The first half of `_re_evaluate_single_slo`. -/
def resolveWindow (request : ReEvaluateRequest) (db : Database) (assetId : Nat)
    (sloName : String) : Except ReEvalError Window := do
  let sloDef <- orRaise (.valueError s!"slo '{sloName}' not found")
    (loadSloDefinition db sloName request.sloVersion)
  match built : buildSloModel sloDef with
  | .error error => .error (.engine error)
  | .ok sloModel => do
      let fromDate <- resolveFromDate request db.evaluations assetId sloName
      let (fromDate, skipPin) <-
        resolvePinConflict request db.evaluations fromDate assetId sloName
      return { assetId, sloName, sloDef, sloModel, built, fromDate, skipPin }

def Window.evaluations (window : Window) (table : Evaluations) : List SLOEvaluation :=
  loadEvaluationsForReeval table window.assetId window.sloName (some window.fromDate)

def Window.baselines (window : Window) (table : Evaluations) (periodStartBefore : Instant)
    (sliRange : Option (Int × Int)) (restrictToIds : Option (List Nat)) :
    Except ReEvalError (List SLOEvaluation) :=
  orRaise .database (getReevalBaselines table window.assetId window.sloName
    periodStartBefore window.sloModel.comparison.includeResultWithScore
    window.sloModel.comparison.numberOfComparisonResults sliRange restrictToIds window.skipPin)

/-- `{row.objective.sli: row.value for row in indicator_rows}`. -/
def metricsFromIndicatorRows (indicatorRows : List IndicatorResultRow) : Dict (Option ℚ) :=
  indicatorRows.foldl (fun metrics row => metrics.insert row.objective.sli row.value) ∅

/-- `restrict_to_ids=eligible_ids if eligible_ids else None`. -/
def restriction (eligibleIds : List Nat) : Option (List Nat) :=
  if eligibleIds = [] then none else some eligibleIds

def scoreAgainst (window : Window) (ev : SLOEvaluation) (baselineEvals : List SLOEvaluation) :
    Except ReEvalError EvaluationResult := do
  let metrics := metricsFromIndicatorRows ev.indicatorRows.rows
  let (baselines, comparedIds) <-
    (computeBaselines baselineEvals window.sloModel.comparison.aggregateFunction).mapError .engine
  (evaluate window.sloModel metrics baselines comparedIds).mapError .engine

/-- The part of `_rescore_single` that computes the new result. -/
def rescore (window : Window) (defaultRange : Option (Int × Int)) (db : Database)
    (eligibleIds : List Nat) (ev : SLOEvaluation) : Except ReEvalError EvaluationResult := do
  let sliRange := (resolveSliVersionRange db ev.sliName ev.sliVersion).or defaultRange
  let baselineEvals <-
    window.baselines db.evaluations ev.periodStart sliRange (restriction eligibleIds)
  scoreAgainst window ev baselineEvals

/-- `ev.result or 'error'`. -/
def oldResult (ev : SLOEvaluation) : ResultValue :=
  ev.result.getD .error

def oldScore (ev : SLOEvaluation) : ℚ :=
  ev.score.getD 0

def resultItem (window : Window) (ev : SLOEvaluation) (evalResult : EvaluationResult) :
    ReEvalResultItem :=
  { id := ev.id
    evaluationName := ev.evaluationName
    sloName := window.sloName
    sloVersion := window.sloDef.version
    periodStart := ev.periodStart
    periodEnd := ev.periodEnd
    oldResult := oldResult ev
    newResult := .ofOutcome evalResult.result
    oldScore := oldScore ev
    newScore := evalResult.score }

/-- The stats that `_update_evaluation_row` writes.  The first original is kept. -/
def reEvalStats (stats : JobStats) (oldResult : ResultValue) (oldScore : ℚ) (now : Instant)
    (sloVersion : Int) : JobStats :=
  let stats :=
    if stats.originalResult.isNone then
      { stats with originalResult := some oldResult, originalScore := some oldScore }
    else stats
  { stats with reEvaluatedAt := some now, reEvalSloVersion := some sloVersion }

/-- The values that `_update_evaluation_row` writes. -/
def setReEvaluated (item : ReEvalResultItem) (now : Instant) (row : SLOEvaluation) :
    SLOEvaluation :=
  { row with
    result := some item.newResult
    score := some item.newScore
    jobStats := reEvalStats row.jobStats item.oldResult item.oldScore now item.sloVersion
    sloVersion := some item.sloVersion }

theorem setReEvaluated_id (item : ReEvalResultItem) (now : Instant) (row : SLOEvaluation) :
    (setReEvaluated item now row).id = row.id :=
  rfl

def updateEvaluationRow (table : Evaluations) (item : ReEvalResultItem) (now : Instant) :
    Evaluations :=
  table.update item.id (setReEvaluated item now) (setReEvaluated_id item now)

/-- Delete the indicator rows of the evaluation and insert those of the version
it was scored against. -/
def replaceIndicatorRows (table : Evaluations) (evaluationId : Nat) (sloDef : SLODefinition)
    (indicatorResults : List IndicatorResult) : Option Evaluations :=
  (bulkInsert .empty (buildIndicatorRows sloDef indicatorResults)).map fun indicatorRows =>
    table.update evaluationId (SLOEvaluation.setIndicatorRows indicatorRows)
      (SLOEvaluation.setIndicatorRows_id indicatorRows)

/-- Overwrite the stored result.  The indicator rows stay when there is nothing
to replace them with. -/
def persistReevalResult (window : Window) (now : Instant) (db : Database)
    (ev : SLOEvaluation) (evalResult : EvaluationResult) : Except ReEvalError Database :=
  let updated := updateEvaluationRow db.evaluations (resultItem window ev evalResult) now
  if evalResult.indicatorResults = [] ∨ window.sloDef.objectives.rows = [] then
    .ok { db with evaluations := updated }
  else
    orRaise .database
      ((replaceIndicatorRows updated ev.id window.sloDef evalResult.indicatorResults).map
        fun evaluations => { db with evaluations })

def persistUnlessDry (window : Window) (now : Instant) (dryRun : Bool) (db : Database)
    (ev : SLOEvaluation) (evalResult : EvaluationResult) : Except ReEvalError Database :=
  if dryRun then .ok db else persistReevalResult window now db ev evalResult

def rescoreSingle (window : Window) (defaultRange : Option (Int × Int)) (clock : Nat -> Instant)
    (dryRun : Bool) (db : Database) (eligibleIds : List Nat) (ev : SLOEvaluation) :
    Except ReEvalError (Database × ReEvalResultItem) := do
  let evalResult <- rescore window defaultRange db eligibleIds ev
  let next <- persistUnlessDry window (clock ev.id) dryRun db ev evalResult
  return (next, resultItem window ev evalResult)

/-- The loop over the evaluations of the window.  Each one becomes eligible as a
baseline of those after it. -/
def rescoreAll (window : Window) (defaultRange : Option (Int × Int)) (clock : Nat -> Instant)
    (dryRun : Bool) (db : Database) (eligibleIds : List Nat) :
    List SLOEvaluation -> Except ReEvalError (Database × List ReEvalResultItem)
  | [] => .ok (db, [])
  | ev :: rest => do
      let (next, item) <- rescoreSingle window defaultRange clock dryRun db eligibleIds ev
      let (last, items) <-
        rescoreAll window defaultRange clock dryRun next (eligibleIds ++ [ev.id]) rest
      return (last, item :: items)

/-- The second half of `_re_evaluate_single_slo`.  The first evaluation sets the
default range, and the latest baselines before the window are eligible. -/
def rescoreWindow (window : Window) (clock : Nat -> Instant) (dryRun : Bool) (db : Database) :
    Except ReEvalError (Database × List ReEvalResultItem) :=
  match window.evaluations db.evaluations with
  | [] => .ok (db, [])
  | first :: rest => do
      let defaultRange := resolveSliVersionRange db first.sliName first.sliVersion
      let preBaselines <- window.baselines db.evaluations window.fromDate defaultRange none
      rescoreAll window defaultRange clock dryRun db (preBaselines.map (·.id)) (first :: rest)

def reEvaluateSingleSlo (request : ReEvaluateRequest) (clock : Nat -> Instant) (assetId : Nat)
    (db : Database) (sloName : String) :
    Except ReEvalError (Database × Int × List ReEvalResultItem) := do
  let window <- resolveWindow request db assetId sloName
  let (next, items) <- rescoreWindow window clock request.dryRun db
  return (next, window.sloDef.version, items)

/-- The SLOs of a request: those that it names, or those assigned to the asset. -/
def requestedSlos (assigned : Nat -> List String) (request : ReEvaluateRequest)
    (assetId : Nat) : Except ReEvalError (List String) :=
  match request.sloNames, request.sloName with
  | some names, _ => .ok names
  | none, some name => .ok [name]
  | none, none =>
      if assigned assetId = [] then
        .error (.valueError s!"no slo assignments found for asset '{request.assetName}'")
      else .ok (assigned assetId)

def reEvaluateSlos (request : ReEvaluateRequest) (clock : Nat -> Instant) (assetId : Nat)
    (db : Database) :
    List String -> Except ReEvalError (Database × List (Int × List ReEvalResultItem))
  | [] => .ok (db, [])
  | sloName :: rest => do
      let (next, found) <- reEvaluateSingleSlo request clock assetId db sloName
      let (last, others) <- reEvaluateSlos request clock assetId next rest
      return (last, found :: others)

def reEvaluate (assigned : Nat -> List String) (clock : Nat -> Instant) (db : Database)
    (request : ReEvaluateRequest) : Except ReEvalError (Database × ReEvaluateResponse) := do
  let asset <- orRaise (.valueError s!"asset '{request.assetName}' not found")
    (db.assets.rows.find? (·.name = request.assetName))
  let names <- requestedSlos assigned request asset.id
  let (next, perSlo) <- reEvaluateSlos request clock asset.id db names
  let results := perSlo.flatMap Prod.snd
  return (next, {
    affectedEvaluations := results.length
    sloVersionUsed := match perSlo with
      | [(version, _)] => some version
      | _ => none
    results })

/-! ## A small history

One asset and one SLO with two versions.  Both evaluations have failed the first
version, which asks for at most 50; the second version compares with the latest
evaluation that passed.
-/

namespace Sample

def fixedObjective : SLOObjectiveRow :=
  { id := 1, sli := "latency", passThreshold := ["<=50"] }

def relativeObjective : SLOObjectiveRow :=
  { id := 2, sli := "latency", passThreshold := ["<=+10%"] }

def firstVersion : SLODefinition :=
  { name := "checkout", version := 1, objectives := empty.insert fixedObjective rfl }

def secondVersion : SLODefinition :=
  { name := "checkout", version := 2
    comparison := { numberOfComparisonResults := some 1, includeResultWithScore := some "pass" }
    objectives := empty.insert relativeObjective rfl }

def failedRow (value : ℚ) : IndicatorResultRow :=
  { objective := fixedObjective, value := some value, comparedValue := none, changeAbsolute := none,
    changeRelativePct := none, status := .fail, score := 0,
    targets := { pass := [⟨"<=50", 50, true⟩], warn := none } }

def failedEvaluation (id : Nat) (periodStart : Instant) (value : ℚ) : SLOEvaluation :=
  { id, evaluationId := id, evaluationName := "hourly", assetId := 1, periodStart,
    periodEnd := periodStart + 3600000000, result := some .fail, score := some 0,
    achievedPoints := some 0, totalPoints := some 1, sloName := "checkout", sloVersion := some 1,
    status := .completed, indicatorRows := empty.insert (failedRow value) rfl }

def database : Database :=
  { evaluations := (empty.insert (failedEvaluation 10 0 100) rfl).insert
      (failedEvaluation 11 3600000000 200) rfl
    runs := .empty
    sloDefinitions := (empty.insert firstVersion rfl).insert secondVersion rfl
    sliDefinitions := .empty
    dataSources := .empty
    assets := empty.insert { id := 1, name := "storefront" } rfl }

def request (sloVersion : Int) : ReEvaluateRequest :=
  { assetName := "storefront", sloName := some "checkout", fromDate := some 0,
    sloVersion := some sloVersion }

def run (request : ReEvaluateRequest) : Except ReEvalError (Database × ReEvaluateResponse) :=
  reEvaluate (fun _ => []) (fun _ => 0) database request

end Sample

end ReEvaluation
end Tropek
