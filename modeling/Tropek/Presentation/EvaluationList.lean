import Mathlib.Data.List.Dedup
import Tropek.Library.Paging
import Tropek.Store.Rows

namespace Tropek
namespace Presentation

open Library Engine Store

/-!
# The list of evaluations

The endpoint answers with one page of the evaluations that match the filters, newest first,
and with a total.  The query sorts by the start of the period alone, so that the database
may arrange evaluations of one period in any order, and differently for every page.  The
total counts the runs of the matching evaluations.

The user interface fetches page after page until it has as many evaluations as the total
says, or gets a short page, or has as many as it may show.
-/

/-- The tables that `list_evaluations` reads.  `groupMembers`: the assets in a group,
unless there is no group of the name; `dateMatches`: whether the text of a timestamp is
`LIKE` the prefix. -/
structure ListTables extends Database where
  groupMembers : String -> Option (List Nat) := fun _ => none
  dateMatches : String -> Instant -> Bool := fun _ _ => false

structure ListRequest where
  assetName : Option String := none
  sloName : Option String := none
  evaluationName : Option (List String) := none
  result : Option String := none
  date : Option String := none
  groupName : Option String := none
  fromTs : Option Instant := none
  toTs : Option Instant := none

/-- How a request for a page of evaluations fails.  `requestValidation`: a query
parameter is out of its range. -/
inductive ListError where
  | requestValidation
  | domainValidation (message : String)
  | notFound (kind key : String)
deriving DecidableEq

structure ResolvedAssetScope where
  assetId : Option Nat := none
  assetIds : Option (List Nat) := none

structure Page where
  items : List SLOEvaluation
  total : Nat

def given (text : Option String) : Option String :=
  text.filter (· ≠ "")

def resolveAssetIds (tables : ListTables) (assetName groupName : Option String) :
    Except ListError ResolvedAssetScope :=
  let assetIds := (given groupName).bind tables.groupMembers
  match given assetName with
  | none => .ok { assetIds }
  | some name =>
      match tables.assets.rows.find? (·.name = name) with
      | none => .error (.notFound "asset" name)
      | some asset => .ok { assetId := some asset.id, assetIds }

def resultColumn : ResultValue -> String
  | .pass => "pass"
  | .warning => "warning"
  | .fail => "fail"
  | .error => "error"

/-- The `WHERE` clauses.  An empty list of names or of assets is no filter. -/
def matchesRequest (tables : ListTables) (scope : ResolvedAssetScope) (request : ListRequest)
    (row : SLOEvaluation) : Bool :=
  scope.assetId.all (row.assetId = ·) &&
    (given request.sloName).all (row.sloName = ·) &&
    request.evaluationName.all (fun names => names.isEmpty || names.contains row.evaluationName) &&
    (given request.result).all (fun result => row.result.map resultColumn = some result) &&
    (given request.date).all (tables.dateMatches · row.periodStart) &&
    scope.assetIds.all (fun assetIds => assetIds.isEmpty || assetIds.contains row.assetId) &&
    request.fromTs.all (· ≤ row.periodStart) &&
    request.toTs.all (row.periodStart ≤ ·)

def matchingEvaluations (tables : ListTables) (scope : ResolvedAssetScope) (request : ListRequest) :
    List SLOEvaluation :=
  tables.evaluations.rows.filter (matchesRequest tables scope request)

/-- `count(distinct evaluation_id)`. -/
def distinctRuns (evaluations : List SLOEvaluation) : Nat :=
  ((evaluations.map (·.evaluationId)).dedup).length

abbrev Arrangement :=
  List SLOEvaluation -> List SLOEvaluation

/-- `ORDER BY period_start DESC`. -/
def Arrangement.Sorts (arrange : Arrangement) : Prop :=
  forall rows, Paging.Answers SLOEvaluation.periodStart rows (arrange rows)

def listWithCounts (tables : ListTables) (scope : ResolvedAssetScope) (request : ListRequest)
    (limit offset : Nat) (arrange : Arrangement) : Page :=
  let matching := matchingEvaluations tables scope request
  { items := ((arrange matching).drop offset).take limit
    total := distinctRuns matching }

def listScope (tables : ListTables) (request : ListRequest) : Except ListError ResolvedAssetScope :=
  if (given request.date).isSome ∧ (request.fromTs.isSome ∨ request.toTs.isSome) then
    .error (.domainValidation "date and from/to filters are mutually exclusive")
  else resolveAssetIds tables request.assetName request.groupName

def listEvaluations (tables : ListTables) (request : ListRequest) (limit offset : Nat)
    (arrange : Arrangement) : Except ListError Page :=
  if 500 < limit ∨ 1000000 < offset then .error .requestValidation
  else do
    let scope <- listScope tables request
    return listWithCounts tables scope request limit offset arrange

structure UIConfig where
  maxEvaluations : Nat := 5000
  pageSize : Nat := 200

structure EvaluationList where
  items : List SLOEvaluation
  total : Nat
  truncated : Bool

def fetchLoop (fetch : Nat -> Except ListError Page) (config : UIConfig) :
    Nat -> Nat -> List SLOEvaluation -> Option (Except ListError (List SLOEvaluation × Nat))
  | 0, _, _ => none
  | fuel + 1, offset, allItems =>
      match fetch offset with
      | .error failure => some (.error failure)
      | .ok page =>
          let allItems := allItems ++ page.items
          if page.total ≤ allItems.length ∨ page.items.length < config.pageSize then
            some (.ok (allItems, page.total))
          else if config.maxEvaluations ≤ allItems.length then some (.ok (allItems, page.total))
          else fetchLoop fetch config fuel (offset + config.pageSize) allItems

/-- `fetchEvaluations`, given how the endpoint answers at each offset. -/
def fetchEvaluations (fetch : Nat -> Except ListError Page) (config : UIConfig) (fuel : Nat) :
    Option (Except ListError EvaluationList) :=
  (fetchLoop fetch config fuel 0 []).map fun outcome =>
    outcome.map fun fetched =>
      { items := fetched.1.take config.maxEvaluations
        total := fetched.2
        truncated := config.maxEvaluations < fetched.2 }

end Presentation
end Tropek
