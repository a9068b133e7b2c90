import Tropek.Library.Latest
import Tropek.Store.EvaluationRepository

namespace Tropek
namespace Store

open Library Engine Fallible

/-!
# Baselines

Scoring and re-scoring select their baselines with two queries over one base:
completed and valid evaluations of the asset and SLO that start earlier.  The
worker narrows it to an evaluation series, the re-evaluator to a range of SLI
versions and to a list of identifiers.  Both follow the active pin unless told
otherwise, and both take the latest rows up to a limit.

Rows that start at the same instant come in the order of the table.
-/

def includesResult (mode : IncludeResultWithScore) (result : Option ResultValue) : Bool :=
  match mode with
  | .all => true
  | .passOrWarn => result = some .pass || result = some .warning
  | .pass => result = some .pass

/-- The condition of `_base_baseline_query`. -/
def baseBaselineQuery (assetId : Nat) (sloName : String) (periodStartBefore : Instant)
    (mode : IncludeResultWithScore) (evaluationName : Option String) (row : SLOEvaluation) : Bool :=
  row.SameSeries assetId sloName && row.periodStart < periodStartBefore &&
    row.status = .completed && !row.invalidated &&
    (match evaluationName with
      | none => true
      | some name => row.evaluationName = name) &&
    includesResult mode row.result

def SLOEvaluation.isPinned (row : SLOEvaluation) : Bool :=
  row.baselinePinnedAt.isSome && row.baselineUnpinnedAt.isNone

/-- `max(period_start)` over the active pins of the asset and SLO. -/
def activePinStart (table : Evaluations) (assetId : Nat) (sloName : String) : Option Instant :=
  ((table.rows.filter fun row => row.SameSeries assetId sloName && row.isPinned).map
    (·.periodStart)).max?

theorem activePinStart_eq_none {table : Evaluations}
    (notPinned : forall row, row ∈ table.rows -> row.isPinned = false) (assetId : Nat)
    (sloName : String) : activePinStart table assetId sloName = none := by
  have empty : (table.rows.filter fun row => row.SameSeries assetId sloName && row.isPinned) = [] := by
    apply List.filter_eq_nil_iff.mpr
    intro row member selected
    have pinned := (Bool.and_eq_true_iff.mp selected).2
    rw [notPinned row member] at pinned
    cases pinned
  unfold activePinStart
  rw [empty]
  rfl

/-- The condition of `_apply_pin_filter`. -/
def pinAllows (pinStart : Option Instant) (row : SLOEvaluation) : Bool :=
  match pinStart with
  | none => true
  | some start => start ≤ row.periodStart

/-- `ORDER BY period_start DESC LIMIT limit`.  The database refuses a negative
limit. -/
def latestRows (limit : Int) (rows : List SLOEvaluation) : Option (List SLOEvaluation) :=
  if limit < 0 then none else some (Latest.latest SLOEvaluation.periodStart limit.toNat rows)

def getEvaluationBaselines (table : Evaluations) (assetId : Nat) (sloName : String)
    (periodStartBefore : Instant) (mode : IncludeResultWithScore) (limit : Int)
    (evaluationName : Option String) : Option (List SLOEvaluation) :=
  latestRows limit (table.rows.filter fun row =>
    baseBaselineQuery assetId sloName periodStartBefore mode evaluationName row &&
      pinAllows (activePinStart table assetId sloName) row)

/-- The rows that a baseline query of a new evaluation looks at: those that it can select and
those that can be its pin. -/
def SLOEvaluation.inHistory (row : SLOEvaluation) : Bool :=
  row.status = .completed || row.isPinned

section

variable {first second : Evaluations}
  (same : first.rows.filter SLOEvaluation.inHistory = second.rows.filter SLOEvaluation.inHistory)

include same

theorem filter_of_history {condition : SLOEvaluation -> Bool}
    (inside : forall row, condition row = true -> row.inHistory = true) :
    first.rows.filter condition = second.rows.filter condition := by
  have narrowed : forall rows : List SLOEvaluation,
      rows.filter condition = (rows.filter SLOEvaluation.inHistory).filter condition := by
    intro rows
    rw [List.filter_filter]
    apply List.filter_congr
    intro row _
    cases selected : condition row with
    | true => rw [inside row selected, Bool.and_true]
    | false => rw [Bool.false_and]
  rw [narrowed, same, <- narrowed]

theorem getEvaluationBaselines_congr (assetId : Nat) (sloName : String)
    (periodStartBefore : Instant) (mode : IncludeResultWithScore) (limit : Int)
    (evaluationName : Option String) :
    getEvaluationBaselines first assetId sloName periodStartBefore mode limit evaluationName =
      getEvaluationBaselines second assetId sloName periodStartBefore mode limit
        evaluationName := by
  have samePin : activePinStart first assetId sloName = activePinStart second assetId sloName := by
    unfold activePinStart
    rw [filter_of_history same]
    intro row selected
    exact Bool.or_eq_true_iff.mpr (Or.inr (Bool.and_eq_true_iff.mp selected).2)
  unfold getEvaluationBaselines
  rw [samePin, filter_of_history same]
  intro row selected
  have completed : row.status = .completed := by
    simp only [baseBaselineQuery, Bool.and_eq_true, decide_eq_true_eq] at selected
    exact selected.1.1.1.1.2
  exact Bool.or_eq_true_iff.mpr (Or.inl (decide_eq_true completed))

end

def inVersionRange (range : Option (Int × Int)) (row : SLOEvaluation) : Bool :=
  match range with
  | none => true
  | some (lowest, highest) =>
      row.sliVersion.any fun version => lowest ≤ version && version ≤ highest

/-- The baselines of a re-evaluation.  The code also accepts filters on tags and
on the series, which no caller passes. -/
def getReevalBaselines (table : Evaluations) (assetId : Nat) (sloName : String)
    (periodStartBefore : Instant) (mode : IncludeResultWithScore) (limit : Int)
    (sliVersionRange : Option (Int × Int)) (restrictToIds : Option (List Nat))
    (skipPinFilter : Bool) : Option (List SLOEvaluation) :=
  latestRows limit (table.rows.filter fun row =>
    baseBaselineQuery assetId sloName periodStartBefore mode none row &&
      inVersionRange sliVersionRange row &&
      (match restrictToIds with
        | none => true
        | some ids => ids.contains row.id) &&
      (skipPinFilter || pinAllows (activePinStart table assetId sloName) row))

def loadEvaluationsForReeval (table : Evaluations) (assetId : Nat) (sloName : String)
    (fromDate : Option Instant) : List SLOEvaluation :=
  Latest.oldestFirst SLOEvaluation.periodStart (table.rows.filter fun row =>
    row.SameSeries assetId sloName && fromDate.all (· ≤ row.periodStart) &&
      row.status = .completed && !row.invalidated)

/-- The active pin, with the evaluation that carries it.  More than one raises. -/
def getActivePin (table : Evaluations) (assetId : Nat) (sloName : String) :
    Option (Option (Instant × Nat)) :=
  match table.rows.filter fun row => row.SameSeries assetId sloName && row.isPinned with
  | [] => some none
  | [row] => some (some (row.periodStart, row.id))
  | _ => none

def measuredValues (ev : SLOEvaluation) : List (String × Option ℚ) :=
  ev.indicatorRows.rows.map fun row => (row.objective.sli, row.value)

/-- `metric_values.setdefault(metric, []).append(value)` for a value that is
not null. -/
def collectValue (collected : Dict (List ℚ)) (measured : String × Option ℚ) : Dict (List ℚ) :=
  match measured.2 with
  | none => collected
  | some value =>
      collected.insert measured.1 (((collected.lookup measured.1).getD []) ++ [value])

def addBaseline (function : AggregateFunction) (baselines : Dict (Option ℚ))
    (entry : Sigma fun _ : String => List ℚ) : Except EngineError (Dict (Option ℚ)) := do
  let aggregated <- aggregateValues entry.2 function
  return baselines.insert entry.1 (some aggregated)

def computeBaselines (baselineEvals : List SLOEvaluation) (function : AggregateFunction) :
    Except EngineError (Dict (Option ℚ) × List Nat) :=
  if baselineEvals = [] then .ok (∅, [])
  else do
    let collected := (baselineEvals.flatMap measuredValues).foldl collectValue ∅
    let baselines <- collected.entries.foldlM (addBaseline function) ∅
    return (baselines, baselineEvals.map (·.id))

def valuesOf (metric : String) (measured : List (String × Option ℚ)) : List ℚ :=
  measured.filterMap fun pair => if pair.1 = metric then pair.2 else none

theorem lookup_collectValue (collected : Dict (List ℚ)) (measured : String × Option ℚ)
    (metric : String) :
    ((collectValue collected measured).lookup metric).getD [] =
      (collected.lookup metric).getD [] ++ valuesOf metric [measured] := by
  rcases measured with ⟨name, value⟩
  cases value with
  | none => simp [collectValue, valuesOf]
  | some value =>
      unfold collectValue valuesOf
      by_cases same : name = metric
      · subst same
        simp [AList.lookup_insert]
      · rw [AList.lookup_insert_ne (Ne.symm same)]
        simp [same]

theorem lookup_collected (measured : List (String × Option ℚ)) (start : Dict (List ℚ))
    (metric : String) :
    ((measured.foldl collectValue start).lookup metric).getD [] =
      (start.lookup metric).getD [] ++ valuesOf metric measured := by
  induction measured generalizing start with
  | nil => simp [valuesOf]
  | cons head rest ih =>
      rw [List.foldl_cons, ih, lookup_collectValue, List.append_assoc]
      congr 1
      unfold valuesOf
      rw [<- List.filterMap_append, List.singleton_append]

theorem collected_ne_nil {measured : List (String × Option ℚ)} {start : Dict (List ℚ)}
    (nonempty : forall metric, start.lookup metric ≠ some []) (metric : String) :
    (measured.foldl collectValue start).lookup metric ≠ some [] := by
  induction measured generalizing start with
  | nil => exact nonempty metric
  | cons head rest ih =>
      rw [List.foldl_cons]
      refine ih fun other => ?_
      rcases head with ⟨name, value⟩
      cases value with
      | none => exact nonempty other
      | some value =>
          unfold collectValue
          by_cases same : other = name
          · subst same
            simp [AList.lookup_insert]
          · rw [AList.lookup_insert_ne same]
            exact nonempty other

theorem addBaselines_ok (function : AggregateFunction)
    {entries : List (Sigma fun _ : String => List ℚ)} (nodup : entries.NodupKeys)
    (nonempty : forall entry, entry ∈ entries -> entry.2 ≠ []) (start : Dict (Option ℚ)) :
    Exists fun baselines =>
      entries.foldlM (addBaseline function) start = .ok baselines ∧
        forall metric, getValue baselines metric =
          match entries.dlookup metric with
          | none => getValue start metric
          | some values => (aggregateValues values function).toOption := by
  induction entries generalizing start with
  | nil => exact ⟨start, rfl, fun _ => rfl⟩
  | cons head rest ih =>
      rw [List.nodupKeys_cons] at nodup
      rcases aggregateValues_ok (nonempty head List.mem_cons_self) function with
        ⟨aggregated, succeeded⟩
      rcases ih nodup.2
        (fun entry member => nonempty entry (List.mem_cons_of_mem _ member))
        (start.insert head.1 (some aggregated)) with ⟨baselines, looped, values⟩
      refine ⟨baselines, ?_, fun metric => ?_⟩
      · rw [List.foldlM_cons]
        refine bind_eq_ok.mpr ⟨start.insert head.1 (some aggregated), ?_, looped⟩
        exact bind_eq_ok.mpr ⟨aggregated, succeeded, rfl⟩
      · rw [values metric]
        by_cases same : metric = head.1
        · have absent : rest.dlookup metric = none := by
            rw [same]
            exact List.dlookup_eq_none.mpr nodup.1
          rw [absent, same]
          cases head with
          | mk name headValues =>
              rw [List.dlookup_cons_eq]
              dsimp only at succeeded ⊢
              rw [succeeded]
              unfold getValue
              rw [AList.lookup_insert]
              rfl
        · cases head with
          | mk name headValues =>
              rw [List.dlookup_cons_ne _ _ same]
              unfold getValue
              rw [AList.lookup_insert_ne same]

/-- Computing baselines never raises, and the baseline of a metric aggregates
the non-null values that the baseline evaluations measured for it. -/
theorem computeBaselines_ok (baselineEvals : List SLOEvaluation) (function : AggregateFunction) :
    Exists fun baselines =>
      computeBaselines baselineEvals function = .ok (baselines, baselineEvals.map (·.id)) ∧
        forall metric, getValue baselines metric =
          (aggregateValues (valuesOf metric (baselineEvals.flatMap measuredValues))
            function).toOption := by
  by_cases empty : baselineEvals = []
  · subst empty
    exact ⟨∅, rfl, fun _ => rfl⟩
  · generalize measuredIs : baselineEvals.flatMap measuredValues = measured
    let collected := measured.foldl collectValue ∅
    have nonempty : forall metric, collected.lookup metric ≠ some [] :=
      fun metric => collected_ne_nil (fun _ => by simp) metric
    have entriesNonempty : forall entry, entry ∈ collected.entries -> entry.2 ≠ [] := by
      intro entry member isEmpty
      refine nonempty entry.1 ?_
      rw [<- isEmpty]
      exact AList.mem_lookup_iff.mpr member
    rcases addBaselines_ok function collected.nodupKeys entriesNonempty ∅ with
      ⟨baselines, looped, values⟩
    refine ⟨baselines, ?_, fun metric => ?_⟩
    · unfold computeBaselines
      rw [if_neg empty, measuredIs]
      exact bind_eq_ok.mpr ⟨baselines, looped, rfl⟩
    · rw [values metric]
      have collectedValues := lookup_collected measured ∅ metric
      change (collected.lookup metric).getD [] = _ at collectedValues
      change (match collected.lookup metric with
        | none => getValue ∅ metric
        | some values => (aggregateValues values function).toOption) = _
      cases looked : collected.lookup metric with
      | none =>
          rw [looked] at collectedValues
          simp only [AList.lookup_empty, Option.getD_none, List.nil_append] at collectedValues
          rw [<- collectedValues]
          rfl
      | some metricValues =>
          rw [looked] at collectedValues
          simp only [AList.lookup_empty, Option.getD_none, Option.getD_some,
            List.nil_append] at collectedValues
          rw [collectedValues]

/-- Two versions of one evaluation that agree on every column that a
re-evaluation does not write. -/
structure SLOEvaluation.SameHistory (first second : SLOEvaluation) : Prop where
  id : second.id = first.id
  assetId : second.assetId = first.assetId
  sloName : second.sloName = first.sloName
  evaluationName : second.evaluationName = first.evaluationName
  periodStart : second.periodStart = first.periodStart
  periodEnd : second.periodEnd = first.periodEnd
  status : second.status = first.status
  invalidated : second.invalidated = first.invalidated
  sliName : second.sliName = first.sliName
  sliVersion : second.sliVersion = first.sliVersion
  pinnedAt : second.baselinePinnedAt = first.baselinePinnedAt
  unpinnedAt : second.baselineUnpinnedAt = first.baselineUnpinnedAt

namespace SLOEvaluation.SameHistory

theorem refl (row : SLOEvaluation) : row.SameHistory row :=
  ⟨rfl, rfl, rfl, rfl, rfl, rfl, rfl, rfl, rfl, rfl, rfl, rfl⟩

variable {first second : SLOEvaluation} (same : first.SameHistory second)

include same

theorem symm : second.SameHistory first :=
  ⟨same.id.symm, same.assetId.symm, same.sloName.symm, same.evaluationName.symm,
    same.periodStart.symm, same.periodEnd.symm, same.status.symm, same.invalidated.symm,
    same.sliName.symm, same.sliVersion.symm, same.pinnedAt.symm, same.unpinnedAt.symm⟩

theorem trans {third : SLOEvaluation} (next : second.SameHistory third) :
    first.SameHistory third :=
  ⟨next.id.trans same.id, next.assetId.trans same.assetId, next.sloName.trans same.sloName,
    next.evaluationName.trans same.evaluationName, next.periodStart.trans same.periodStart,
    next.periodEnd.trans same.periodEnd, next.status.trans same.status,
    next.invalidated.trans same.invalidated, next.sliName.trans same.sliName,
    next.sliVersion.trans same.sliVersion, next.pinnedAt.trans same.pinnedAt,
    next.unpinnedAt.trans same.unpinnedAt⟩

theorem series (assetId : Nat) (sloName : String) :
    second.SameSeries assetId sloName ↔ first.SameSeries assetId sloName := by
  unfold SameSeries
  rw [same.assetId, same.sloName]

theorem isPinned : second.isPinned = first.isPinned := by
  unfold SLOEvaluation.isPinned
  rw [same.pinnedAt, same.unpinnedAt]

end SLOEvaluation.SameHistory

section Related

variable {related : SLOEvaluation -> SLOEvaluation -> Prop} {first second : Evaluations}

theorem activePinStart_related (same : List.Forall₂ SLOEvaluation.SameHistory first.rows second.rows)
    (assetId : Nat) (sloName : String) :
    activePinStart first assetId sloName = activePinStart second assetId sloName := by
  have pins := List.rel_filter
    (p := fun row => row.SameSeries assetId sloName && row.isPinned)
    (q := fun row => row.SameSeries assetId sloName && row.isPinned)
    (fun row other same => by simp only [same.series, same.isPinned]) same
  have starts := Latest.map_eq_of_related (pins.imp fun _ _ same => same.periodStart.symm)
  unfold activePinStart
  rw [starts]

theorem loadEvaluationsForReeval_related
    (history : forall row other, related row other -> row.SameHistory other)
    (rowByRow : List.Forall₂ related first.rows second.rows) (assetId : Nat) (sloName : String)
    (fromDate : Option Instant) :
    List.Forall₂ related (loadEvaluationsForReeval first assetId sloName fromDate)
      (loadEvaluationsForReeval second assetId sloName fromDate) := by
  unfold loadEvaluationsForReeval
  apply Latest.oldestFirst_related
  · exact fun row other here => (history row other here).periodStart
  · refine List.rel_filter (fun row other here => ?_) rowByRow
    have same := history row other here
    simp only [same.series, same.periodStart, same.status, same.invalidated]

theorem getActivePin_related (same : List.Forall₂ SLOEvaluation.SameHistory first.rows second.rows)
    (assetId : Nat) (sloName : String) :
    getActivePin first assetId sloName = getActivePin second assetId sloName := by
  have pins := List.rel_filter
    (p := fun row => row.SameSeries assetId sloName && row.isPinned)
    (q := fun row => row.SameSeries assetId sloName && row.isPinned)
    (fun row other same => by simp only [same.series, same.isPinned]) same
  unfold getActivePin
  generalize first.rows.filter _ = firstPins at pins ⊢
  generalize second.rows.filter _ = secondPins at pins ⊢
  cases pins with
  | nil => rfl
  | cons here others =>
      cases others with
      | nil =>
          dsimp only
          rw [here.periodStart, here.id]
      | cons _ _ => rfl

/-- The baselines of a re-evaluation are found again, row by row, when the filter
on the result answers alike within the series. -/
theorem getReevalBaselines_related {assetId : Nat} {sloName : String}
    {mode : IncludeResultWithScore}
    (history : forall row other, related row other -> row.SameHistory other)
    (included : forall row other, related row other -> row.SameSeries assetId sloName ->
      includesResult mode other.result = includesResult mode row.result)
    (rowByRow : List.Forall₂ related first.rows second.rows) (periodStartBefore : Instant)
    (limit : Int) (sliVersionRange : Option (Int × Int)) (restrictToIds : Option (List Nat))
    (skipPinFilter : Bool) :
    Option.Rel (List.Forall₂ related)
      (getReevalBaselines first assetId sloName periodStartBefore mode limit sliVersionRange
        restrictToIds skipPinFilter)
      (getReevalBaselines second assetId sloName periodStartBefore mode limit sliVersionRange
        restrictToIds skipPinFilter) := by
  have samePins := activePinStart_related (rowByRow.imp history) assetId sloName
  unfold getReevalBaselines latestRows
  by_cases negative : limit < 0
  · rw [if_pos negative, if_pos negative]
    exact .none
  · rw [if_neg negative, if_neg negative]
    refine .some (Latest.latest_related _ (fun row other here => (history row other here).periodStart)
      _ (List.rel_filter (fun row other here => ?_) rowByRow))
    have same := history row other here
    have sameBase : baseBaselineQuery assetId sloName periodStartBefore mode none other =
        baseBaselineQuery assetId sloName periodStartBefore mode none row := by
      unfold baseBaselineQuery
      by_cases series : row.SameSeries assetId sloName
      · simp only [same.series, same.periodStart, same.status, same.invalidated,
          included row other here series]
      · simp only [same.series, series, decide_false, Bool.false_and]
    have sameRange : inVersionRange sliVersionRange other = inVersionRange sliVersionRange row := by
      unfold inVersionRange
      rw [same.sliVersion]
    have samePinned : pinAllows (activePinStart second assetId sloName) other =
        pinAllows (activePinStart first assetId sloName) row := by
      unfold pinAllows
      rw [samePins, same.periodStart]
    dsimp only
    rw [sameBase, sameRange, samePinned, same.id]

end Related

theorem valuesOf_flatMap (metric : String) (rows : List SLOEvaluation) :
    valuesOf metric (rows.flatMap measuredValues) =
      rows.flatMap fun row => valuesOf metric (measuredValues row) := by
  induction rows with
  | nil => rfl
  | cons head rest ih =>
      rw [List.flatMap_cons, List.flatMap_cons, <- ih]
      unfold valuesOf
      rw [List.filterMap_append]

end Store
end Tropek
