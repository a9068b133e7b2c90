import Mathlib.Data.List.MinMax
import Tropek.ChangePoints.Persistence
import Tropek.ReEvaluation.Rewrites

namespace Tropek
namespace ChangePoints

open Library Engine Store Worker ReEvaluation KeyedTable

/-!
# The change point phase

After an evaluation is written, the phase reads the indicator rows of the evaluation
and the history of its series, detects change points for each enabled objective, and
records them.  The configuration of an objective is a parameter, as is the engine.

Indicator rows get new primary keys whenever they are inserted.  A re-evaluation
deletes the rows of an evaluation before it inserts new ones, and the foreign key of
the change points sets their references to the deleted rows to null.
-/

structure ChangePointInputs where
  comparisonName : String
  enabledObjectives : List EnabledObjective
  sharedHistory : List SLOEvaluation

def Tables.indicatorKey (t : Tables) (sloEvaluationId sloObjectiveId : Nat) :
    Option IndicatorKey :=
  t.indicatorKeys.rows.find? fun key =>
    key.sloEvaluationId = sloEvaluationId && key.sloObjectiveId = sloObjectiveId

/-- `indicator_lookup.get(sli)`: the last row of the metric wins. -/
def Tables.indicatorLookup (t : Tables) (evalId : Nat) (sli : String) : Option IndicatorKey := do
  let evaluation <- t.evaluations.find evalId
  let row <- evaluation.indicatorRows.rows.reverse.find? fun row => row.objective.sli = sli
  t.indicatorKey evalId row.sloObjectiveId

def enabledObjective (t : Tables) (evalId : Nat) (resolve : SLOObjectiveRow -> ResolvedConfig)
    (objective : SLOObjectiveRow) : Option EnabledObjective :=
  match t.indicatorLookup evalId objective.sli with
  | none => none
  | some key =>
      if (resolve objective).enabled then
        some { metricName := objective.sli, resolved := resolve objective,
               indicatorResultId := key.id }
      else none

/-- The read phase.  It has nothing to do for a comparison with another series, or when
no objective is enabled.  The database refuses a negative window. -/
def loadChangePointInputs (t : Tables) (resolve : SLOObjectiveRow -> ResolvedConfig)
    (snapshot : EvaluationSnapshot) (sloDef : SLODefinition) : Option (Option ChangePointInputs) :=
  let comparisonName := resolveComparisonName snapshot.compareTo snapshot.evaluationName
  if comparisonName ≠ snapshot.evaluationName then some none
  else
    match sloDef.objectives.rows.filterMap (enabledObjective t snapshot.evalId resolve) with
    | [] => some none
    | first :: others =>
        let maxWindow := others.foldl (fun window objective => max window objective.resolved.windowSize)
          first.resolved.windowSize
        (getEvaluationBaselines t.evaluations snapshot.assetId snapshot.sloName snapshot.periodEnd
            .all maxWindow (some comparisonName)).map fun sharedHistory =>
          some { comparisonName, enabledObjectives := first :: others, sharedHistory }

def batchContext (snapshot : EvaluationSnapshot) (comparisonName : String)
    (batch : DetectedBatch) : PersistContext :=
  { snapshot, comparisonName, metricName := batch.metricName,
    indicatorResultId := batch.indicatorResultId, series := batch.series }

def persistDetectedChangePoints (snapshot : EvaluationSnapshot) (comparisonName : String)
    (t : Tables) : List DetectedBatch -> Option Tables
  | [] => some t
  | batch :: rest =>
      match persistChangePoints (batchContext snapshot comparisonName batch) t batch.detected with
      | none => none
      | some next => persistDetectedChangePoints snapshot comparisonName next rest

/-- The change point phase of the job: nothing when the evaluation compares with another
name or no objective has it enabled, otherwise the points that are detected in the
history are persisted.  It fails with the first statement that the database refuses. -/
def runChangePointPhase (engine : DivisiveEngine) (resolve : SLOObjectiveRow -> ResolvedConfig)
    (t : Tables) (snapshot : EvaluationSnapshot) (sloDef : SLODefinition) : Option Tables :=
  match loadChangePointInputs t resolve snapshot sloDef with
  | none => none
  | some none => some t
  | some (some cpInputs) =>
      persistDetectedChangePoints snapshot cpInputs.comparisonName t
        (detectChangePointsForObjectives engine cpInputs.sharedHistory cpInputs.enabledObjectives)

def freshKeyId (keys : IndicatorKeys) : Nat :=
  (keys.rows.map IndicatorKey.id).foldr max 0 + 1

theorem find_freshKeyId (keys : IndicatorKeys) : keys.find (freshKeyId keys) = none := by
  cases found : keys.find (freshKeyId keys) with
  | none => rfl
  | some key =>
      have largest : key.id ≤ (keys.rows.map IndicatorKey.id).foldr max 0 :=
        List.le_max_of_le (List.mem_map_of_mem (find_mem found)) (le_refl _)
      have same : key.id = freshKeyId keys := find_key found
      unfold freshKeyId at same
      omega

def addKey (keys : IndicatorKeys) (row : Nat × Nat) : IndicatorKeys :=
  if keys.rows.any fun key => key.sloEvaluationId = row.1 && key.sloObjectiveId = row.2 then keys
  else keys.insert { id := freshKeyId keys, sloEvaluationId := row.1, sloObjectiveId := row.2 }
    (find_freshKeyId keys)

def indicatorRowsOf (table : Evaluations) : List (Nat × Nat) :=
  table.rows.flatMap fun evaluation =>
    evaluation.indicatorRows.rows.map fun row => (evaluation.id, row.sloObjectiveId)

def identify (keys : IndicatorKeys) (table : Evaluations) : IndicatorKeys :=
  (indicatorRowsOf table).foldl addKey keys

def ChangePoint.setNull (keys : IndicatorKeys) (changePoint : ChangePoint) : ChangePoint :=
  { changePoint with
    indicatorResultId := changePoint.indicatorResultId.filter fun id => (keys.find id).isSome }

/-- Delete the indicator rows of some evaluations, with `ON DELETE SET NULL`. -/
def Tables.deleteIndicatorRows (t : Tables) (evaluationIds : List Nat) : Tables :=
  let keys := t.indicatorKeys.deleteWhere fun key => evaluationIds.contains key.sloEvaluationId
  { t with indicatorKeys := keys, changePoints := t.changePoints.map (ChangePoint.setNull keys) }

/-- The evaluations whose indicator rows a request replaces: all that it reports, since
a definition without objectives cannot be scored. -/
def replacedEvaluations (request : ReEvaluateRequest) (response : ReEvaluateResponse) : List Nat :=
  if request.dryRun then [] else response.results.map (·.id)

variable {keys : IndicatorKeys} {key : IndicatorKey} {id : Nat} {t next : Tables}
  {resolve : SLOObjectiveRow -> ResolvedConfig} {snapshot : EvaluationSnapshot}
  {sloDef : SLODefinition} {batches : List DetectedBatch}

theorem find_addKey {row : Nat × Nat} (found : keys.find id = some key) :
    (addKey keys row).find id = some key := by
  unfold addKey
  split
  · exact found
  · have apart : id ≠ freshKeyId keys := by
      intro same
      rw [same, find_freshKeyId] at found
      cases found
    rw [find_insert, if_neg apart]
    exact found

theorem find_identify (found : keys.find id = some key) (table : Evaluations) :
    (identify keys table).find id = some key := by
  unfold identify
  induction indicatorRowsOf table generalizing keys with
  | nil => exact found
  | cons row rest ih => exact ih (find_addKey found)

theorem indicatorLookup_eq_some {evalId : Nat} {sli : String}
    (found : t.indicatorLookup evalId sli = some key) :
    t.indicatorKeys.find key.id = some key ∧ key.sloEvaluationId = evalId := by
  rcases Option.bind_eq_some_iff.mp found with ⟨evaluation, _, found⟩
  rcases Option.bind_eq_some_iff.mp found with ⟨row, _, found⟩
  have selected := List.find?_some found
  simp only [Bool.and_eq_true, decide_eq_true_eq] at selected
  exact ⟨find_of_mem (List.mem_of_find?_eq_some found), selected.1⟩

theorem ChangePoint.setNull_eq_self {changePoint : ChangePoint}
    (isId : changePoint.indicatorResultId = some id) (found : keys.find id = some key) :
    changePoint.setNull keys = changePoint := by
  have kept : changePoint.indicatorResultId.filter (fun id => (keys.find id).isSome) =
      changePoint.indicatorResultId := by
    rw [isId, Option.filter_some, found]
    rfl
  unfold ChangePoint.setNull
  rw [kept]

theorem runChangePointPhase_eq_some {engine : DivisiveEngine}
    (ran : runChangePointPhase engine resolve t snapshot sloDef = some next) :
    next = t ∨ Exists fun cpInputs =>
      loadChangePointInputs t resolve snapshot sloDef = some (some cpInputs) ∧
        persistDetectedChangePoints snapshot cpInputs.comparisonName t
          (detectChangePointsForObjectives engine cpInputs.sharedHistory
            cpInputs.enabledObjectives) = some next := by
  unfold runChangePointPhase at ran
  split at ran
  · cases ran
  · cases ran
    exact Or.inl rfl
  · rename_i cpInputs loaded
    exact Or.inr ⟨cpInputs, loaded, ran⟩

theorem persistDetectedChangePoints_appends {comparisonName : String}
    (ran : persistDetectedChangePoints snapshot comparisonName t batches = some next) :
    Exists fun changePoints => next = t.setChangePoints changePoints := by
  induction batches generalizing t with
  | nil => exact ⟨t.changePoints, (Option.some.inj ran).symm⟩
  | cons batch rest ih =>
      unfold persistDetectedChangePoints at ran
      split at ran
      · cases ran
      · rename_i middle persisted
        rcases persistFrom_appends persisted with ⟨rows, isMiddle⟩
        rcases ih ran with ⟨changePoints, same⟩
        exact ⟨changePoints, by rw [same, isMiddle]; rfl⟩

/-- What is stored after a phase was there before or is the row of a detected candidate. -/
theorem mem_persistDetectedChangePoints {comparisonName : String}
    (ran : persistDetectedChangePoints snapshot comparisonName t batches = some next)
    {changePoint : ChangePoint} (member : changePoint ∈ next.changePoints) :
    changePoint ∈ t.changePoints ∨ Exists fun batch => batch ∈ batches ∧
      Exists fun candidate => candidate ∈ batch.detected ∧
        changePoint = (batchContext snapshot comparisonName batch).row candidate := by
  induction batches generalizing t with
  | nil =>
      cases ran
      exact Or.inl member
  | cons batch rest ih =>
      unfold persistDetectedChangePoints at ran
      split at ran
      · cases ran
      · rename_i middle persisted
        rcases ih ran with before | ⟨other, inRest, ofOther⟩
        · rcases mem_persistFrom persisted before with older | ofBatch
          · exact Or.inl older
          · exact Or.inr ⟨batch, List.mem_cons_self, ofBatch⟩
        · exact Or.inr ⟨other, List.mem_cons_of_mem _ inRest, ofOther⟩

/-- The inputs are about the evaluation series of the snapshot: its own indicator rows,
and a history of evaluations with its name, asset and SLO. -/
theorem loadChangePointInputs_eq_some {cpInputs : ChangePointInputs}
    (loaded : loadChangePointInputs t resolve snapshot sloDef = some (some cpInputs)) :
    cpInputs.comparisonName = snapshot.evaluationName ∧
      (forall objective, objective ∈ cpInputs.enabledObjectives -> Exists fun key =>
        t.indicatorKeys.find objective.indicatorResultId = some key ∧
          key.sloEvaluationId = snapshot.evalId) ∧
      forall evaluation, evaluation ∈ cpInputs.sharedHistory ->
        evaluation ∈ t.evaluations.rows ∧ evaluation.evaluationName = cpInputs.comparisonName ∧
          evaluation.SameSeries snapshot.assetId snapshot.sloName := by
  unfold loadChangePointInputs at loaded
  dsimp only at loaded
  split at loaded
  · cases loaded
  · rename_i sameName
    have enabled : forall objective,
        objective ∈ sloDef.objectives.rows.filterMap (enabledObjective t snapshot.evalId resolve) ->
        Exists fun key => t.indicatorKeys.find objective.indicatorResultId = some key ∧
          key.sloEvaluationId = snapshot.evalId := by
      intro objective member
      rcases List.mem_filterMap.mp member with ⟨row, _, made⟩
      unfold enabledObjective at made
      split at made
      · cases made
      · rename_i key looked
        split at made
        · cases made
          exact ⟨key, indicatorLookup_eq_some looked⟩
        · cases made
    split at loaded
    · cases loaded
    · rename_i first others isEnabled
      rcases Option.map_eq_some_iff.mp loaded with ⟨sharedHistory, history, same⟩
      cases same
      rw [isEnabled] at enabled
      refine ⟨not_not.mp sameName, enabled, fun evaluation member => ?_⟩
      unfold getEvaluationBaselines latestRows at history
      split at history
      · cases history
      · cases history
        have inside := List.mem_filter.mp (Latest.mem_of_mem_latest _ member)
        have selected := (Bool.and_eq_true_iff.mp inside.2).1
        unfold baseBaselineQuery at selected
        simp only [Bool.and_eq_true, decide_eq_true_eq] at selected
        exact ⟨inside.1, selected.1.2, selected.1.1.1.1.1⟩

end ChangePoints
end Tropek
