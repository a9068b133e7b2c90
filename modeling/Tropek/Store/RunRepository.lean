import Mathlib.Data.List.MinMax
import Tropek.Library.Latest
import Tropek.Store.EvaluationRepository

namespace Tropek
namespace Store

open Library Engine

/-!
# The run repository

A parent run is finalized by one attempt that reads its children and then writes
their aggregate with a guarded update.  An attempt consists of three statements,
which are given here on their own and then one after the other.
-/

abbrev Runs := KeyedTable EvaluationRun.id

structure Child where
  status : EvaluationStatus
  result : Option ResultValue
  achievedPoints : Option Int
  totalPoints : Option Int
deriving DecidableEq, Repr

def SLOEvaluation.child (row : SLOEvaluation) : Child :=
  { status := row.status, result := row.result, achievedPoints := row.achievedPoints,
    totalPoints := row.totalPoints }

def childrenOf (table : Evaluations) (runId : Nat) : List Child :=
  (table.rows.filter fun row => row.evaluationId = runId).map SLOEvaluation.child

/-- `pending_statuses`. -/
def EvaluationStatus.isUnfinished : EvaluationStatus -> Bool
  | .pending => true
  | .running => true
  | .partially => true
  | .completed => false
  | .failed => false

def AllDone (children : List Child) : Prop :=
  children ≠ [] ∧ forall child, child ∈ children -> child.status.isUnfinished = false

instance (children : List Child) : Decidable (AllDone children) :=
  inferInstanceAs (Decidable (children ≠ [] ∧
    forall child, child ∈ children -> child.status.isUnfinished = false))

structure RunValues where
  result : Option ResultValue
  achievedPoints : Option Int
  totalPoints : Option Int
deriving DecidableEq, Repr

/-- The body of the loop that keeps the worst result.  A child without a result
does not count. -/
def worseResult (worst : Option ResultValue) (child : Child) : Option ResultValue :=
  match child.result, worst with
  | none, worst => worst
  | some result, none => some result
  | some result, some current => if current.rank < result.rank then some result else some current

def pointsOrNone (points : Int) : Option Int :=
  if points = 0 then none else some points

def aggregate (children : List Child) : RunValues :=
  { result := children.foldl worseResult none
    achievedPoints := pointsOrNone (children.map fun child => child.achievedPoints.getD 0).sum
    totalPoints := pointsOrNone (children.map fun child => child.totalPoints.getD 0).sum }

def decideFinalization (children : List Child) : Option RunValues :=
  if children = [] then none
  else if children.any (·.status.isUnfinished) then none
  else some (aggregate children)

theorem ResultValue.rank_injective : Function.Injective ResultValue.rank := by
  intro first second same
  cases first <;> cases second <;> first | rfl | cases same

theorem worst_eq_argmax (children : List Child) :
    children.foldl worseResult none = (children.filterMap (·.result)).argmax ResultValue.rank := by
  unfold List.argmax
  generalize (none : Option ResultValue) = worst
  induction children generalizing worst with
  | nil => rfl
  | cons child rest ih =>
      rw [List.foldl_cons, ih]
      cases result : child.result with
      | none =>
          rw [List.filterMap_cons_none result]
          unfold worseResult
          rw [result]
      | some value =>
          rw [List.filterMap_cons_some result, List.foldl_cons]
          unfold worseResult List.argAux
          rw [result]
          cases worst <;> rfl

def IsWorst (results : List ResultValue) (result : ResultValue) : Prop :=
  result ∈ results ∧ forall other, other ∈ results -> other.rank ≤ result.rank

/-- The aggregated result is the worst one that a child has, and null when no child
has one. -/
theorem aggregate_result (children : List Child) (result : ResultValue) :
    (aggregate children).result = some result ↔
      IsWorst (children.filterMap (·.result)) result := by
  change children.foldl worseResult none = some result ↔ _
  rw [worst_eq_argmax]
  constructor
  · intro worst
    exact ⟨List.argmax_mem worst, fun other member => List.le_of_mem_argmax member worst⟩
  · rintro ⟨member, greatest⟩
    cases found : (children.filterMap (·.result)).argmax ResultValue.rank with
    | none =>
        rw [List.argmax_eq_none.mp found] at member
        exact absurd member List.not_mem_nil
    | some worst =>
        have below := List.le_of_mem_argmax member found
        have above := greatest worst (List.argmax_mem found)
        rw [ResultValue.rank_injective (le_antisymm above below)]

theorem decideFinalization_eq_some {children : List Child} {values : RunValues} :
    decideFinalization children = some values ↔
      AllDone children ∧ values = aggregate children := by
  unfold decideFinalization AllDone
  by_cases childless : children = []
  · rw [if_pos childless]
    constructor
    · intro impossible
      cases impossible
    · rintro ⟨⟨some, _⟩, _⟩
      exact absurd childless some
  · rw [if_neg childless]
    by_cases unfinished : children.any (·.status.isUnfinished) = true
    · rw [if_pos unfinished]
      rcases List.any_eq_true.mp unfinished with ⟨child, inside, pending⟩
      constructor
      · intro impossible
        cases impossible
      · rintro ⟨⟨_, ended⟩, _⟩
        rw [ended child inside] at pending
        cases pending
    · rw [if_neg unfinished]
      have ended : forall child, child ∈ children -> child.status.isUnfinished = false := by
        intro child inside
        cases pending : child.status.isUnfinished with
        | true => exact absurd (List.any_eq_true.mpr ⟨child, inside, pending⟩) unfinished
        | false => rfl
      constructor
      · intro same
        exact ⟨⟨childless, ended⟩, (Option.some.inj same).symm⟩
      · rintro ⟨_, same⟩
        rw [same]

def EvaluationRun.setFinalized (values : RunValues) (run : EvaluationRun) : EvaluationRun :=
  { run with status := .completed, result := values.result,
             achievedPoints := values.achievedPoints, totalPoints := values.totalPoints }

theorem EvaluationRun.setFinalized_id (values : RunValues) (run : EvaluationRun) :
    (run.setFinalized values).id = run.id :=
  rfl

def finalizeRun (runs : Runs) (runId : Nat) (values : RunValues) : Runs :=
  runs.updateWhere (fun run => run.id = runId && run.status ≠ .completed)
    (EvaluationRun.setFinalized values) (EvaluationRun.setFinalized_id values)

structure EvaluationRun.Carries (run : EvaluationRun) (values : RunValues) : Prop where
  status : run.status = .completed
  result : run.result = values.result
  achievedPoints : run.achievedPoints = values.achievedPoints
  totalPoints : run.totalPoints = values.totalPoints

theorem EvaluationRun.setFinalized_carries (values : RunValues) (run : EvaluationRun) :
    (run.setFinalized values).Carries values :=
  ⟨rfl, rfl, rfl, rfl⟩

theorem find_finalizeRun (runs : Runs) (runId : Nat) (values : RunValues) (wanted : Nat) :
    (finalizeRun runs runId values).find wanted =
      (runs.find wanted).map fun run =>
        if run.id = runId ∧ run.status ≠ .completed then run.setFinalized values else run := by
  unfold finalizeRun
  rw [KeyedTable.find_updateWhere]
  simp only [Bool.and_eq_true, decide_eq_true_eq]

/-- The row that an attempt goes on with: one that is there and not completed. -/
def unfinalized (runs : Runs) (runId : Nat) : Option EvaluationRun :=
  (runs.find runId).filter fun run => run.status ≠ .completed

def finalizeIfAllDone (db : Database) (runId : Nat) : Database × Option EvaluationRun :=
  match unfinalized db.runs runId with
  | none => (db, none)
  | some _ =>
      match decideFinalization (childrenOf db.evaluations runId) with
      | none => (db, none)
      | some values =>
          let runs := finalizeRun db.runs runId values
          ({ db with runs }, runs.find runId)

theorem unfinalized_eq_some {runs : Runs} {runId : Nat} {run : EvaluationRun} :
    unfinalized runs runId = some run ↔ runs.find runId = some run ∧ run.status ≠ .completed := by
  unfold unfinalized
  rw [Option.filter_eq_some_iff, decide_eq_true_eq]

/-- An attempt that runs without interruption finalizes exactly the runs that are
not completed and whose children have all ended. -/
theorem finalizeIfAllDone_returns (db : Database) (runId : Nat) :
    (finalizeIfAllDone db runId).2.isSome = true ↔
      (unfinalized db.runs runId).isSome = true ∧ AllDone (childrenOf db.evaluations runId) := by
  unfold finalizeIfAllDone
  cases found : unfinalized db.runs runId with
  | none =>
      constructor
      · intro impossible
        cases impossible
      · intro impossible
        cases impossible.1
  | some run =>
      have stored := unfinalized_eq_some.mp found
      cases decided : decideFinalization (childrenOf db.evaluations runId) with
      | none =>
          constructor
          · intro impossible
            cases impossible
          · rintro ⟨_, done⟩
            have decides := decideFinalization_eq_some.mpr ⟨done, rfl⟩
            rw [decided] at decides
            cases decides
      | some values =>
          dsimp only
          rw [find_finalizeRun, stored.1]
          exact ⟨fun _ => ⟨rfl, (decideFinalization_eq_some.mp decided).1⟩, fun _ => rfl⟩

/-- The condition of `find_finalizable_pending_ids` on one run. -/
def isFinalizable (table : Evaluations) (run : EvaluationRun) : Bool :=
  run.status ≠ .completed && (table.rows.any fun row => row.evaluationId = run.id) &&
    !(table.rows.any fun row => row.evaluationId = run.id && row.status.isUnfinished)

def findFinalizablePendingIds (db : Database) (limit : Nat) : List Nat :=
  ((Latest.oldestFirst EvaluationRun.periodEnd
    (db.runs.rows.filter (isFinalizable db.evaluations))).take limit).map (·.id)

theorem isFinalizable_iff (table : Evaluations) (run : EvaluationRun) :
    isFinalizable table run = true ↔
      run.status ≠ .completed ∧ AllDone (childrenOf table run.id) := by
  unfold isFinalizable AllDone childrenOf
  simp only [Bool.and_eq_true, decide_eq_true_eq, Bool.not_eq_true', ne_eq, List.map_eq_nil_iff,
    List.filter_eq_nil_iff, List.mem_map, List.mem_filter, forall_exists_index, and_imp,
    List.any_eq_true, List.any_eq_false, not_and, Bool.not_eq_true, and_assoc, not_forall,
    not_not, exists_prop]
  refine and_congr_right fun _ => and_congr_right fun _ => ?_
  constructor
  · rintro ended child row member sameRun rfl
    exact ended row member sameRun
  · intro ended row member sameRun
    exact ended row.child row member sameRun rfl

theorem mem_findFinalizablePendingIds {db : Database} {run : EvaluationRun}
    (stored : run ∈ db.runs.rows) (finalizable : isFinalizable db.evaluations run = true)
    {limit : Nat} (enough : db.runs.rows.length ≤ limit) :
    run.id ∈ findFinalizablePendingIds db limit := by
  unfold findFinalizablePendingIds
  have all : (Latest.oldestFirst EvaluationRun.periodEnd
      (db.runs.rows.filter (isFinalizable db.evaluations))).length ≤ limit := by
    unfold Latest.oldestFirst
    rw [List.length_insertionSort]
    exact (List.length_filter_le _ _).trans enough
  rw [List.take_of_length_le all]
  refine List.mem_map_of_mem ((Latest.mem_oldestFirst EvaluationRun.periodEnd).mpr ?_)
  exact List.mem_filter.mpr ⟨stored, finalizable⟩

theorem of_mem_findFinalizablePendingIds {db : Database} {runId limit : Nat}
    (member : runId ∈ findFinalizablePendingIds db limit) :
    AllDone (childrenOf db.evaluations runId) := by
  unfold findFinalizablePendingIds at member
  rcases List.mem_map.mp member with ⟨run, selected, rfl⟩
  have sorted := List.mem_of_mem_take selected
  have finalizable := (List.mem_filter.mp ((Latest.mem_oldestFirst EvaluationRun.periodEnd).mp sorted)).2
  exact ((isFinalizable_iff _ _).mp finalizable).2

end Store
end Tropek
