import Tropek.Library.TransitionSystem
import Tropek.Manifest.Effects

namespace Tropek
namespace Catalog

open Library Manifest KeyedTable Fallible

/-!
# Assignments and the definitions that they pin

An assignment has the name of an SLO in a column of its own, beside the version that it
is pinned to.  The column is written when the row is created, and the unique index is on
it, while whoever resolves assignments reads the name of the pinned version.

The two agree as long as nobody moves an assignment to a version of another SLO, which
the route that moves assignments does not check.
-/

inductive AssignmentRequest where
  | put (target : Target) (sloDefinitionId : Uuid) (dataSourceName : String)
  | delete (target : Target) (sloDefinitionId : Uuid)
  | upgrade (asset : String) (assignmentId sloDefinitionId : Uuid)
deriving DecidableEq, Repr

def AssignmentRequest.command : AssignmentRequest -> Command
  | .put target sloDefinitionId dataSourceName =>
      putSloAssignment target sloDefinitionId dataSourceName
  | .delete target sloDefinitionId => deleteSloAssignment target sloDefinitionId
  | .upgrade asset assignmentId sloDefinitionId =>
      upgradeSloAssignment asset assignmentId sloDefinitionId

/-- A request that is accepted.  One that is refused leaves the state as it is. -/
def AssignmentRequest.step (api : Api) (request : AssignmentRequest) : Option Api :=
  (request.command api).toOption

/-- Every assignment is named after the version that it pins, and no target pins two
versions of one name. -/
structure Agreed (api : Api) : Prop where
  named : forall row, row ∈ api.sloAssignments.rows ->
    Exists fun slo => api.slos.find row.sloDefinition = some slo ∧ slo.name = row.sloName
  once : forall first second slo other,
    first ∈ api.sloAssignments.rows -> second ∈ api.sloAssignments.rows ->
    first.target = second.target -> api.slos.find first.sloDefinition = some slo ->
    api.slos.find second.sloDefinition = some other -> slo.name = other.name -> first = second

def KeepsName (api : Api) : AssignmentRequest -> Prop
  | .upgrade asset assignmentId sloDefinitionId => forall row slo,
      row ∈ api.assignmentsOf (.asset asset) -> row.id = assignmentId ->
      api.sloById sloDefinitionId = some slo -> slo.name = row.sloName
  | .put _ _ _ | .delete _ _ => True

instance decidableKeepsName (api : Api) : DecidablePred (KeepsName api)
  | .put _ _ _ | .delete _ _ => .isTrue trivial
  | .upgrade asset assignmentId sloDefinitionId =>
      decidable_of_iff (forall row, row ∈ api.assignmentsOf (.asset asset) -> row.id = assignmentId ->
          forall slo, slo ∈ api.sloById sloDefinitionId -> slo.name = row.sloName)
        ⟨fun bounded row slo member isRow isSlo => bounded row member isRow slo isSlo,
          fun keeps row member isRow slo isSlo => keeps row slo member isRow isSlo⟩

variable {api later : Api} {target : Target} {sloDefinitionId : Uuid}

theorem agreed_of_named
    (named : forall row, row ∈ api.sloAssignments.rows ->
      Exists fun slo => api.slos.find row.sloDefinition = some slo ∧ slo.name = row.sloName) :
    Agreed api := by
  refine ⟨named, fun first second slo other firstIn secondIn sameTarget isSlo isOther same => ?_⟩
  rcases named first firstIn with ⟨_, found, firstNamed⟩
  rw [isSlo] at found
  cases found
  rcases named second secondIn with ⟨_, found, secondNamed⟩
  rw [isOther] at found
  cases found
  refine eq_of_key firstIn secondIn (Prod.ext sameTarget ?_)
  exact firstNamed.symm.trans (same.trans secondNamed)

theorem sloById_eq_some {id : Uuid} {slo : SLO} (found : api.sloById id = some slo) :
    api.slos.find slo.key = some slo := by
  cases id with
  | sloDefinition name version => exact find_of_mem (find_mem found)
  | sloAssignment target sloName => cases found

theorem mem_assignmentsOf {row : SLOAssignment} (member : row ∈ api.assignmentsOf target) :
    row ∈ api.sloAssignments.rows ∧ row.target = target := by
  rcases List.mem_filter.mp member with ⟨inside, same⟩
  exact ⟨inside, of_decide_eq_true same⟩

theorem deleteSloAssignment_eq_ok
    (accepted : deleteSloAssignment target sloDefinitionId api = .ok later) :
    Exists fun condition =>
      later = { api with sloAssignments := api.sloAssignments.deleteWhere condition } := by
  unfold deleteSloAssignment at accepted
  simp only [bind_eq_ok] at accepted
  rcases accepted with ⟨_, _, slo, _, finished⟩
  cases finished
  exact ⟨_, rfl⟩

theorem put_agreed {dataSourceName : String} (agreed : Agreed api)
    (accepted : putSloAssignment target sloDefinitionId dataSourceName api = .ok later) :
    Agreed later := by
  rcases putSloAssignment_eq_ok accepted with ⟨_, _, slo, isSlo, dataSource, _, stored⟩
  rcases upsertSloAssignment_eq_ok stored with ⟨_, fresh, left⟩ | ⟨row, _, _, left⟩
  · subst left
    refine agreed_of_named fun row member => ?_
    rcases (mem_insert _ _ fresh row).mp member with old | new
    · exact agreed.named row old
    · subst new
      exact ⟨slo, sloById_eq_some isSlo, rfl⟩
  · subst left
    let change := SLOAssignment.useDataSource dataSource.name
    refine agreed_of_named fun other member => ?_
    rcases (mem_update _ _ change (fun _ => rfl) other).mp member with
      ⟨old, _⟩ | ⟨old, found, changed⟩
    · exact agreed.named other old
    · subst changed
      exact agreed.named old (find_mem found)

theorem delete_agreed (agreed : Agreed api)
    (accepted : deleteSloAssignment target sloDefinitionId api = .ok later) : Agreed later := by
  rcases deleteSloAssignment_eq_ok accepted with ⟨condition, left⟩
  subst left
  exact agreed_of_named fun row member => agreed.named row (List.mem_filter.mp member).1

theorem upgrade_agreed_iff {asset : String} {assignmentId : Uuid} (agreed : Agreed api)
    (accepted : upgradeSloAssignment asset assignmentId sloDefinitionId api = .ok later) :
    Agreed later ↔ KeepsName api (.upgrade asset assignmentId sloDefinitionId) := by
  rcases upgradeSloAssignment_eq_ok accepted with ⟨slo, isSlo, row, assigned, isRow, left⟩
  have stored := sloById_eq_some isSlo
  have here := mem_assignmentsOf assigned
  have found := find_of_mem here.1
  subst left
  constructor
  · intro agreedLater other version otherIn isOther isVersion
    have only : other = row := by
      refine eq_of_key (mem_assignmentsOf otherIn).1 here.1 ?_
      have sameId : other.id = row.id := isOther.trans isRow.symm
      unfold SLOAssignment.id at sameId
      injection sameId with sameTarget sameName
      exact Prod.ext sameTarget sameName
    rw [isSlo] at isVersion
    cases isVersion
    subst only
    have moved : SLOAssignment.pin slo.key other ∈ (api.sloAssignments.update other.key
        (SLOAssignment.pin slo.key) fun _ => rfl).rows :=
      (mem_update _ _ _ _ _).mpr (Or.inr ⟨other, found, rfl⟩)
    rcases agreedLater.named _ moved with ⟨pinned, isPinned, named⟩
    have same : some slo = some pinned := stored.symm.trans isPinned
    cases same
    exact named
  · intro keeps
    refine agreed_of_named fun other member => ?_
    let change := SLOAssignment.pin slo.key
    rcases (mem_update _ _ change (fun _ => rfl) other).mp member with
      ⟨old, _⟩ | ⟨old, isOld, changed⟩
    · exact agreed.named other old
    · have same : row = old := Option.some.inj (found.symm.trans isOld)
      subst same
      subst changed
      exact ⟨slo, stored, keeps row slo assigned isRow isSlo⟩

theorem step_agreed_iff (api : Api) (request : AssignmentRequest) (later : Api)
    (agreed : Agreed api) (stepped : AssignmentRequest.step api request = some later) :
    Agreed later ↔ KeepsName api request := by
  have accepted := toOption_eq_some.mp stepped
  cases request with
  | put target sloDefinitionId dataSourceName =>
      exact iff_of_true (put_agreed agreed accepted) trivial
  | delete target sloDefinitionId => exact iff_of_true (delete_agreed agreed accepted) trivial
  | upgrade asset assignmentId sloDefinitionId => exact upgrade_agreed_iff agreed accepted

/-- From a state without assignments, all of them agree with their definitions at every
moment of a run exactly when no upgrade of the run changes the SLO. -/
theorem always_agreed_iff {api final : Api} {requests : List AssignmentRequest}
    (start : api.sloAssignments.rows = [])
    (ran : TransitionSystem.exec AssignmentRequest.step api requests = some final) :
    TransitionSystem.Always AssignmentRequest.step Agreed api requests ↔
      TransitionSystem.Along AssignmentRequest.step KeepsName api requests := by
  refine TransitionSystem.always_iff_along step_agreed_iff (agreed_of_named fun row member => ?_) ran
  rw [start] at member
  exact absurd member List.not_mem_nil

def after (requests : List Command) : Api :=
  (requests.foldlM (fun api (request : Command) => request api) Api.empty).toOption.getD Api.empty

/-- Two SLOs, the second one in two versions, and an asset without assignments. -/
def latencyApi : Api :=
  let latency : SLODefinitionCreate := { name := "latency", objectives := [{ sli := "p99" }] }
  let errors : SLODefinitionCreate := { name := "errors", objectives := [{ sli := "rate" }] }
  after [createAssetType { name := "pod" }, createAsset { name := "api-1", typeName := "pod" },
    createDataSource { name := "mimir", adapterType := "prometheus", adapterUrl := "http://mimir" },
    createSlo latency, createSlo errors, createSlo errors]

/-- The assignment of the first SLO is moved to the second one, which is then assigned
once more. -/
def movedAssignment : List AssignmentRequest :=
  let asset := Target.asset "api-1"
  [.put asset (.sloDefinition "latency" 1) "mimir",
    .upgrade "api-1" (.sloAssignment asset "latency") (.sloDefinition "errors" 1),
    .put asset (.sloDefinition "errors" 2) "mimir"]

def upgradedAssignment : List AssignmentRequest :=
  [.put (.asset "api-1") (.sloDefinition "errors" 1) "mimir",
    .upgrade "api-1" (.sloAssignment (.asset "api-1") "errors") (.sloDefinition "errors" 2)]

/-- An assignment that moves to the next version of its SLO agrees throughout. -/
theorem upgraded_agreed :
    TransitionSystem.Always AssignmentRequest.step Agreed latencyApi upgradedAssignment := by
  have start : latencyApi.sloAssignments.rows = [] := by decide +kernel
  have accepted : (TransitionSystem.exec AssignmentRequest.step latencyApi
      upgradedAssignment).isSome = true := by decide +kernel
  rcases Option.isSome_iff_exists.mp accepted with ⟨final, ran⟩
  exact (always_agreed_iff start ran).mpr (by decide +kernel)

/-- The moved assignment is named after another SLO than the one that it pins, and in the
end the asset pins two versions of that one. -/
theorem moved_not_agreed : Exists fun final =>
    TransitionSystem.exec AssignmentRequest.step latencyApi movedAssignment = some final ∧
      (final.sloAssignments.rows.map fun row => (row.target, row.sloName, row.sloDefinition)) =
        [(.asset "api-1", "latency", ("errors", 1)), (.asset "api-1", "errors", ("errors", 2))] ∧
      ¬ TransitionSystem.Always AssignmentRequest.step Agreed latencyApi movedAssignment := by
  have accepted : ((TransitionSystem.exec AssignmentRequest.step latencyApi movedAssignment).map
      fun final => final.sloAssignments.rows.map fun row =>
        (row.target, row.sloName, row.sloDefinition)) =
      some [(.asset "api-1", "latency", ("errors", 1)), (.asset "api-1", "errors", ("errors", 2))] := by
    decide +kernel
  rcases Option.map_eq_some_iff.mp accepted with ⟨final, ran, rows⟩
  refine ⟨final, ran, rows, fun always => ?_⟩
  have agreed := always movedAssignment [] final (List.append_nil _).symm ran
  have listed : (Target.asset "api-1", "latency", ("errors", (1 : Int))) ∈
      final.sloAssignments.rows.map fun row => (row.target, row.sloName, row.sloDefinition) := by
    rw [rows]
    exact List.mem_cons_self
  rcases List.mem_map.mp listed with ⟨row, member, isRow⟩
  rcases agreed.named row member with ⟨slo, found, named⟩
  have sloKey := find_key found
  have rowName : row.sloName = "latency" := congrArg (fun entry => entry.2.1) isRow
  have rowKey : row.sloDefinition = ("errors", 1) := congrArg (fun entry => entry.2.2) isRow
  have sloName : slo.name = "errors" := congrArg Prod.fst (sloKey.trans rowKey)
  rw [sloName, rowName] at named
  exact absurd named (by decide)

end Catalog
end Tropek
