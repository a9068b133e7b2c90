import Tropek.ReEvaluation.Rewriting

namespace Tropek
namespace ReEvaluation

open Library Engine Store KeyedTable Fallible

/-!
# Dry runs

A dry run is meant to report what the real run will do.  Both score every
evaluation of the window on the same values and against baselines that pass the
filter on stored results.  The real run has rewritten the results of the earlier
evaluations of the window by then and the dry run has not, so the two can select
different baselines.

The condition below compares the two selections on the stored database alone: an
evaluation is scored once as it is stored, and once with the earlier evaluations
of the window carrying the results that their own stored values give.
-/

/-! ## The condition -/

def outcomeOf (rescored : Except ReEvalError EvaluationResult) :
    Option (EvaluationOutcome × ℚ) :=
  rescored.toOption.map fun evalResult => (evalResult.result, evalResult.score)

def setResult (result : Option ResultValue) (row : SLOEvaluation) : SLOEvaluation :=
  { row with result }

theorem setResult_id (result : Option ResultValue) (row : SLOEvaluation) :
    (setResult result row).id = row.id :=
  rfl

/-- A table in which the evaluations of a list carry the results that their
stored values give. -/
def withPredictions (window : Window) (defaultRange : Option (Int × Int)) (db : Database) :
    Evaluations -> List Nat -> List SLOEvaluation -> Evaluations
  | table, _, [] => table
  | table, eligibleIds, ev :: rest =>
      let predicted := (outcomeOf (rescore window defaultRange db eligibleIds ev)).map
        fun outcome => .ofOutcome outcome.1
      withPredictions window defaultRange db
        (table.update ev.id (setResult predicted) (setResult_id predicted))
        (eligibleIds ++ [ev.id]) rest

/-- Every evaluation of a list scores the same whether the filter on results
meets the stored results of the evaluations before it or the predicted ones. -/
def FilterAgrees (window : Window) (defaultRange : Option (Int × Int)) (db : Database)
    (table : Evaluations) (eligibleIds : List Nat) (evals : List SLOEvaluation) : Prop :=
  forall before ev after, evals = before ++ ev :: after ->
    outcomeOf (rescore window defaultRange
        { db with evaluations := withPredictions window defaultRange db table eligibleIds before }
        (eligibleIds ++ before.map (·.id)) ev) =
      outcomeOf (rescore window defaultRange db (eligibleIds ++ before.map (·.id)) ev)

variable {db : Database} {ev : SLOEvaluation} {window : Window} {clock : Nat -> Instant}
  {items : List ReEvalResultItem}

theorem filterAgrees_cons {defaultRange : Option (Int × Int)} {table : Evaluations}
    {eligibleIds : List Nat} {rest : List SLOEvaluation} {predicted : Option ResultValue}
    (isPredicted : (outcomeOf (rescore window defaultRange db eligibleIds ev)).map (fun outcome =>
      ResultValue.ofOutcome outcome.1) = predicted) :
    FilterAgrees window defaultRange db table eligibleIds (ev :: rest) ↔
      outcomeOf (rescore window defaultRange { db with evaluations := table } eligibleIds ev) =
          outcomeOf (rescore window defaultRange db eligibleIds ev) ∧
        FilterAgrees window defaultRange db
          (table.update ev.id (setResult predicted) (setResult_id predicted))
          (eligibleIds ++ [ev.id]) rest := by
  have shifted : forall before : List SLOEvaluation,
      eligibleIds ++ (ev :: before).map (·.id) = eligibleIds ++ [ev.id] ++ before.map (·.id) := by
    intro before
    rw [List.map_cons, List.append_assoc, List.singleton_append]
  constructor
  · intro agrees
    constructor
    · have here := agrees [] ev rest rfl
      rw [List.map_nil, List.append_nil] at here
      exact here
    · intro before other after split
      have later := agrees (ev :: before) other after (congrArg _ split)
      rw [shifted, withPredictions, isPredicted] at later
      exact later
  · rintro ⟨here, later⟩ before other after split
    cases before with
    | nil =>
        cases split
        rw [List.map_nil, List.append_nil]
        exact here
    | cons head others =>
        cases split
        rw [shifted, withPredictions, isPredicted]
        exact later others other after rfl

/-! ## One pass -/

theorem rescore_isOk (window : Window) (defaultRange : Option (Int × Int)) (db : Database)
    (eligibleIds : List Nat) (ev : SLOEvaluation) :
    (rescore window defaultRange db eligibleIds ev).isOk = true ↔
      0 ≤ window.sloModel.comparison.numberOfComparisonResults ∧
        forall obj, obj ∈ window.sloModel.objectives -> obj.CriteriaParse := by
  unfold rescore Window.baselines getReevalBaselines latestRows
  dsimp only
  by_cases negative : window.sloModel.comparison.numberOfComparisonResults < 0
  · rw [if_pos negative]
    constructor
    · intro impossible
      cases impossible
    · intro both
      exact absurd both.1 (not_le.mpr negative)
  · rw [if_neg negative]
    have scored : forall baselineEvals, (scoreAgainst window ev baselineEvals).isOk = true ↔
        forall obj, obj ∈ window.sloModel.objectives -> obj.CriteriaParse := by
      intro baselineEvals
      rcases scoreAgainst_eq window ev baselineEvals with ⟨baselines, same, _⟩
      rw [same, mapError_isOk, evaluate_isOk]
    exact ((scored _).trans (and_iff_right (not_lt.mp negative)).symm)

theorem ScoredAlike.refl (window : Window) (row : SLOEvaluation) : ScoredAlike window row row :=
  ⟨.refl row, fun _ _ => rfl⟩

theorem resultValue_ofOutcome_inj {first second : EvaluationOutcome}
    (same : ResultValue.ofOutcome first = .ofOutcome second) : first = second := by
  cases first <;> cases second <;> first | rfl | cases same

theorem resultItem_inj {first second : EvaluationResult} :
    resultItem window ev first = resultItem window ev second ↔
      outcomeOf (.ok first) = outcomeOf (.ok second) := by
  unfold resultItem outcomeOf
  constructor
  · intro same
    injection same with _ _ _ _ _ _ _ sameResult _ sameScore
    change some (first.result, first.score) = some (second.result, second.score)
    rw [resultValue_ofOutcome_inj sameResult, sameScore]
  · intro same
    have pairs : (first.result, first.score) = (second.result, second.score) :=
      Option.some.inj same
    rw [(Prod.mk.inj pairs).1, (Prod.mk.inj pairs).2]

section Pass

variable {window : Window} {defaultRange : Option (Int × Int)} {clock : Nat -> Instant}

theorem rescoreAll_cons {dryRun : Bool} {db last : Database} {eligibleIds : List Nat}
    {ev : SLOEvaluation} {rest : List SLOEvaluation} {items : List ReEvalResultItem} :
    rescoreAll window defaultRange clock dryRun db eligibleIds (ev :: rest) = .ok (last, items) ↔
      Exists fun evalResult => Exists fun next => Exists fun others =>
        rescore window defaultRange db eligibleIds ev = .ok evalResult ∧
          persistUnlessDry window (clock ev.id) dryRun db ev evalResult = .ok next ∧
          rescoreAll window defaultRange clock dryRun next (eligibleIds ++ [ev.id]) rest =
            .ok (last, others) ∧
          items = resultItem window ev evalResult :: others := by
  rw [rescoreAll, bind_eq_ok]
  constructor
  · rintro ⟨⟨next, item⟩, single, looped⟩
    rcases bind_eq_ok.mp looped with ⟨⟨final, others⟩, ran, same⟩
    cases same
    rcases rescoreSingle_eq_ok.mp single with ⟨evalResult, rescored, isItem, persisted⟩
    exact ⟨evalResult, next, others, rescored, persisted, ran, by rw [isItem]⟩
  · rintro ⟨evalResult, next, others, rescored, persisted, ran, same⟩
    refine ⟨(next, resultItem window ev evalResult),
      rescoreSingle_eq_ok.mpr ⟨evalResult, rescored, rfl, persisted⟩, ?_⟩
    exact bind_eq_ok.mpr ⟨(last, others), ran, by rw [same]; rfl⟩

theorem ReadsAlike.setResult {first second : SLOEvaluation} (alike : ReadsAlike window first second)
    (result : Option ResultValue) :
    ReadsAlike window (setResult result first) (setResult result second) :=
  ⟨⟨alike.history.id, alike.history.assetId, alike.history.sloName, alike.history.evaluationName,
    alike.history.periodStart, alike.history.periodEnd, alike.history.status,
    alike.history.invalidated, alike.history.sliName, alike.history.sliVersion,
    alike.history.pinnedAt, alike.history.unpinnedAt⟩, fun _ => rfl, alike.values⟩

theorem predicted_readsAlike {predicted current : SLOEvaluation} {evalResult : EvaluationResult}
    {baselines : Dict (Option ℚ)} {comparedIds : List Nat} {item : ReEvalResultItem}
    {now : Instant} {indicatorRows : IndicatorRows}
    (distinct : window.sloDef.DistinctMetrics) (once : MeasuresOnce current)
    (evaluated : evaluate window.sloModel (metricsFromIndicatorRows current.indicatorRows.rows)
      baselines comparedIds = .ok evalResult)
    (rows : indicatorRows.rows = buildIndicatorRows window.sloDef evalResult.indicatorResults)
    (alike : ReadsAlike window predicted current) :
    ReadsAlike window (setResult (some item.newResult) predicted)
      (rescoredRow item now indicatorRows current) := by
  exact (alike.setResult _).trans (rescoredRow_readsAlike distinct once evaluated rows rfl)

/-- A real run that starts from the stored database reports the items of the dry
run exactly when the filter agrees for every evaluation. -/
theorem rescoreAll_agrees {db current : Database} {predicted : Evaluations}
    {eligibleIds : List Nat} {evals : List SLOEvaluation} {items : List ReEvalResultItem}
    (distinct : window.sloDef.DistinctMetrics)
    (once : forall ev, ev ∈ evals -> MeasuresOnce ev) (nodup : (evals.map (·.id)).Nodup)
    (stored : forall ev, ev ∈ evals -> ev ∈ current.evaluations.rows)
    (sameSli : current.sliDefinitions = db.sliDefinitions)
    (alike : List.Forall₂ (ReadsAlike window) predicted.rows current.evaluations.rows)
    (dry : rescoreAll window defaultRange clock true db eligibleIds evals = .ok (db, items)) :
    (Exists fun last =>
        rescoreAll window defaultRange clock false current eligibleIds evals = .ok (last, items)) ↔
      FilterAgrees window defaultRange db predicted eligibleIds evals := by
  induction evals generalizing current predicted eligibleIds items with
  | nil =>
      cases dry
      refine ⟨fun _ before ev after split => ?_, fun _ => ⟨current, rfl⟩⟩
      exact absurd split.symm (List.append_ne_nil_of_right_ne_nil _ (List.cons_ne_nil _ _))
  | cons ev rest ih =>
      rcases rescoreAll_cons.mp dry with ⟨dryResult, next, others, dryRescored, unchanged, looped, same⟩
      cases unchanged
      rw [List.map_cons, List.nodup_cons] at nodup
      rw [List.forall_mem_cons] at once stored
      -- The real run scores on the same grounds as the stored table with predictions.
      let marked : Database := { db with evaluations := predicted }
      have sameScore : rescore window defaultRange current eligibleIds ev =
          rescore window defaultRange marked eligibleIds ev := by
        have sliOfMarked : current.sliDefinitions = marked.sliDefinitions := sameSli
        exact rescore_alike sliOfMarked alike (.refl window ev) defaultRange eligibleIds
      have succeeds : (rescore window defaultRange current eligibleIds ev).isOk = true := by
        rw [rescore_isOk, <- rescore_isOk window defaultRange db eligibleIds ev, dryRescored]
        rfl
      rcases (isOk_iff _).mp succeeds with ⟨realResult, realRescored⟩
      rcases (isOk_iff _).mp
        ((persistReevalResult_isOk (clock ev.id) realRescored current).mpr distinct)
        with ⟨written, persisted⟩
      rcases persistReevalResult_eq_ok realRescored persisted with ⟨indicatorRows, rows, isWritten⟩
      rcases rescore_eq_ok realRescored with ⟨baselines, comparedIds, evaluated⟩
      have isPredicted : (outcomeOf (rescore window defaultRange db eligibleIds ev)).map
          (fun outcome => ResultValue.ofOutcome outcome.1) =
            some (resultItem window ev dryResult).newResult := by
        rw [dryRescored]
        rfl
      have later (sameItem : resultItem window ev realResult = resultItem window ev dryResult) :
          (Exists fun last => rescoreAll window defaultRange clock false written
              (eligibleIds ++ [ev.id]) rest = .ok (last, others)) ↔
            FilterAgrees window defaultRange db (predicted.update ev.id
              (setResult (some (resultItem window ev dryResult).newResult)) (setResult_id _))
              (eligibleIds ++ [ev.id]) rest := by
        have writtenRows : written.evaluations.rows = current.evaluations.rows.map fun row =>
            if row.id = ev.id then
              rescoredRow (resultItem window ev realResult) (clock ev.id) indicatorRows row
            else row := by
          rw [isWritten]
          exact update_rows current.evaluations ev.id _ (rescoredRow_id _ _ _)
        apply ih once.2 nodup.2
        · intro other member
          have apart : other.id ≠ ev.id :=
            fun collide => nodup.1 (collide ▸ List.mem_map_of_mem member)
          rw [writtenRows]
          exact List.mem_map.mpr ⟨other, stored.2 other member, if_neg apart⟩
        · rw [isWritten]
          exact sameSli
        · rw [writtenRows, update_rows, List.forall₂_map_left_iff,
            List.forall₂_map_right_iff]
          refine (Latest.related_with_members alike).imp fun row other here => ?_
          rcases here with ⟨_, otherMember, here⟩
          by_cases isEv : row.id = ev.id
          · have otherIsEv : other.id = ev.id := here.history.id.trans isEv
            have sameRow : other = ev := by
              have found := find_of_mem otherMember
              rw [otherIsEv, find_of_mem stored.1] at found
              exact (Option.some.inj found).symm
            rw [if_pos isEv, if_pos otherIsEv, <- sameItem]
            exact predicted_readsAlike distinct (sameRow ▸ once.1) (sameRow ▸ evaluated) rows here
          · rw [if_neg isEv, if_neg fun otherIsEv => isEv (here.history.id.symm.trans otherIsEv)]
            exact here
        · exact looped
      rw [filterAgrees_cons isPredicted, <- sameScore]
      constructor
      · rintro ⟨last, ran⟩
        rcases rescoreAll_cons.mp ran with ⟨evalResult, next, remaining, rescored, wrote, ran, split⟩
        rw [realRescored] at rescored
        cases rescored
        have sameNext : next = written := by
          have both := wrote.symm.trans persisted
          exact Except.ok.inj both
        rw [same] at split
        have heads := (List.cons.inj split).1
        have tails := (List.cons.inj split).2
        rw [sameNext, <- tails] at ran
        refine ⟨?_, (later heads.symm).mp ⟨last, ran⟩⟩
        rw [realRescored, dryRescored]
        exact resultItem_inj.mp heads.symm
      · rintro ⟨here, agrees⟩
        rw [realRescored, dryRescored] at here
        have sameItem := (resultItem_inj.mpr here : resultItem window ev realResult = resultItem window ev dryResult)
        rcases (later sameItem).mpr agrees with ⟨last, ran⟩
        refine ⟨last, rescoreAll_cons.mpr ⟨realResult, written, others, realRescored, persisted, ran, ?_⟩⟩
        rw [same, sameItem]

end Pass

/-! ## One window -/

def Window.defaultRange (window : Window) (db : Database) : Option (Int × Int) :=
  match window.evaluations db.evaluations with
  | [] => none
  | first :: _ => resolveSliVersionRange db first.sliName first.sliVersion

def Window.preBaselines (window : Window) (db : Database) :
    Except ReEvalError (List SLOEvaluation) :=
  window.baselines db.evaluations window.fromDate (window.defaultRange db) none

def Window.eligibleIds (window : Window) (db : Database) : List Nat :=
  ((window.preBaselines db).toOption.getD []).map (·.id)

/-- A pass is the loop over the evaluations of the window, once the baselines
before the window are found. -/
theorem rescoreWindow_eq_ok {dryRun : Bool} {last : Database} :
    rescoreWindow window clock dryRun db = .ok (last, items) ↔
      (window.evaluations db.evaluations ≠ [] -> (window.preBaselines db).isOk = true) ∧
        rescoreAll window (window.defaultRange db) clock dryRun db (window.eligibleIds db)
          (window.evaluations db.evaluations) = .ok (last, items) := by
  unfold rescoreWindow Window.eligibleIds Window.preBaselines Window.defaultRange
  cases window.evaluations db.evaluations with
  | nil => exact ⟨fun ran => ⟨fun nonempty => absurd rfl nonempty, ran⟩, fun both => both.2⟩
  | cons first rest =>
      dsimp only
      cases window.baselines db.evaluations window.fromDate
          (resolveSliVersionRange db first.sliName first.sliVersion) none with
      | error failure =>
          constructor
          · intro impossible
            cases impossible
          · intro both
            cases both.1 (List.cons_ne_nil _ _)
      | ok preBaselines => exact ⟨fun ran => ⟨fun _ => rfl, ran⟩, fun both => both.2⟩

theorem Window.evaluations_stored {table : Evaluations} (member : ev ∈ window.evaluations table) :
    ev ∈ table.rows ∧ ev.SameSeries window.assetId window.sloName := by
  have inside := (Latest.mem_oldestFirst SLOEvaluation.periodStart).mp member
  rcases List.mem_filter.mp inside with ⟨stored, selected⟩
  simp only [Bool.and_eq_true, decide_eq_true_eq] at selected
  exact ⟨stored, selected.1.1.1⟩

theorem Window.evaluations_nodup (window : Window) (table : Evaluations) :
    ((window.evaluations table).map (·.id)).Nodup := by
  have sorted := List.perm_insertionSort
    (fun first second : SLOEvaluation => first.periodStart ≤ second.periodStart)
    (table.rows.filter fun row =>
      row.SameSeries window.assetId window.sloName && (some window.fromDate).all (· ≤ row.periodStart) &&
        row.status = .completed && !row.invalidated)
  exact (sorted.map (·.id)).nodup_iff.mpr
    (List.Nodup.sublist (List.Sublist.map _ List.filter_sublist) table.nodup)

theorem rescoreWindow_distinct {last : Database}
    (ran : rescoreWindow window clock false db = .ok (last, items))
    (nonempty : window.evaluations db.evaluations ≠ []) : window.sloDef.DistinctMetrics := by
  have looped := (rescoreWindow_eq_ok.mp ran).2
  cases evalsAre : window.evaluations db.evaluations with
  | nil => exact absurd evalsAre nonempty
  | cons first rest =>
      rw [evalsAre] at looped
      rcases rescoreAll_cons.mp looped with ⟨evalResult, next, _, rescored, persisted, _⟩
      refine (persistReevalResult_isOk (clock first.id) rescored db).mp ?_
      exact (isOk_iff _).mpr ⟨next, persisted⟩

/-- The dry run of a window predicts its real run, as far as the window goes. -/
def WindowAgrees (window : Window) (db : Database) : Prop :=
  window.evaluations db.evaluations ≠ [] ->
    window.sloDef.DistinctMetrics ∧
      FilterAgrees window (window.defaultRange db) db db.evaluations (window.eligibleIds db)
        (window.evaluations db.evaluations)

theorem rescoreWindow_agrees (once : forall row, row ∈ db.evaluations.rows -> MeasuresOnce row)
    (dry : rescoreWindow window clock true db = .ok (db, items)) :
    (Exists fun last => rescoreWindow window clock false db = .ok (last, items)) ↔
      WindowAgrees window db := by
  rcases rescoreWindow_eq_ok.mp dry with ⟨found, dryRan⟩
  have stored : forall ev, ev ∈ window.evaluations db.evaluations -> ev ∈ db.evaluations.rows :=
    fun ev member => (Window.evaluations_stored member).1
  have agrees (distinct : window.sloDef.DistinctMetrics) := rescoreAll_agrees distinct
    (fun ev member => once ev (stored ev member)) (window.evaluations_nodup db.evaluations) stored
    rfl (List.forall₂_same.mpr fun row _ => ReadsAlike.refl window row) dryRan
  constructor
  · rintro ⟨last, real⟩ nonempty
    have realRan := (rescoreWindow_eq_ok.mp real).2
    have distinct := rescoreWindow_distinct real nonempty
    exact ⟨distinct, (agrees distinct).mp ⟨last, realRan⟩⟩
  · intro windowAgrees
    by_cases empty : window.evaluations db.evaluations = []
    · refine ⟨db, rescoreWindow_eq_ok.mpr ⟨found, ?_⟩⟩
      rw [empty] at dryRan ⊢
      exact dryRan
    · rcases windowAgrees empty with ⟨distinct, filterAgrees⟩
      rcases (agrees distinct).mpr filterAgrees with ⟨last, ran⟩
      exact ⟨last, rescoreWindow_eq_ok.mpr ⟨found, ran⟩⟩

/-! ## Databases with the same window -/

section SameHistory

variable {first second : Database}
  (same : List.Forall₂ SLOEvaluation.SameHistory first.evaluations.rows second.evaluations.rows)

include same

theorem resolveFromDate_related (request : ReEvaluateRequest) (assetId : Nat) (sloName : String) :
    resolveFromDate request second.evaluations assetId sloName =
      resolveFromDate request first.evaluations assetId sloName := by
  have anchors (evaluationId : Nat) : Option.Rel SLOEvaluation.SameHistory
      (first.evaluations.rows.find? fun row => row.id = evaluationId)
      (second.evaluations.rows.find? fun row => row.id = evaluationId) :=
    Latest.find?_related (fun _ _ here => by simp only [here.id]) same
  have loaded := List.rel_reverse
    (loadEvaluationsForReeval_related (fun _ _ here => here) same assetId sloName none)
  have pins := Latest.find?_related (fun _ _ here => here.isPinned) loaded
  unfold resolveFromDate
  cases request.fromDate with
  | some fromDate => rfl
  | none =>
      cases request.fromEvaluationId with
      | some evaluationId =>
          have anchor := anchors evaluationId
          change Option.Rel _ (first.evaluations.find evaluationId)
            (second.evaluations.find evaluationId) at anchor
          dsimp only
          generalize first.evaluations.find evaluationId = found at anchor ⊢
          generalize second.evaluations.find evaluationId = otherFound at anchor ⊢
          cases anchor with
          | none => rfl
          | some here =>
              dsimp only
              rw [here.periodStart]
      | none =>
          dsimp only
          generalize (loadEvaluationsForReeval first.evaluations assetId sloName none).reverse.find?
            _ = found at pins ⊢
          generalize (loadEvaluationsForReeval second.evaluations assetId sloName none).reverse.find?
            _ = otherFound at pins ⊢
          cases pins with
          | none => rfl
          | some here =>
              dsimp only
              rw [here.periodStart]

theorem resolvePinConflict_related (request : ReEvaluateRequest) (fromDate : Instant)
    (assetId : Nat) (sloName : String) :
    resolvePinConflict request second.evaluations fromDate assetId sloName =
      resolvePinConflict request first.evaluations fromDate assetId sloName := by
  unfold resolvePinConflict
  rw [getActivePin_related same]

theorem resolveWindow_related (sameSlo : second.sloDefinitions = first.sloDefinitions)
    (request : ReEvaluateRequest) (assetId : Nat) (sloName : String) :
    resolveWindow request second assetId sloName = resolveWindow request first assetId sloName := by
  have sameLoad : loadSloDefinition second sloName request.sloVersion =
      loadSloDefinition first sloName request.sloVersion := by
    unfold loadSloDefinition
    rw [sameSlo]
  unfold resolveWindow
  simp only [sameLoad, resolveFromDate_related same, resolvePinConflict_related same]

end SameHistory

structure ShownAlike (window : Window) (first second : SLOEvaluation) : Prop where
  reads : ReadsAlike window first second
  metrics : first.SameSeries window.assetId window.sloName ->
    forall obj, obj ∈ window.sloModel.objectives ->
      getValue (metricsFromIndicatorRows second.indicatorRows.rows) obj.sli =
        getValue (metricsFromIndicatorRows first.indicatorRows.rows) obj.sli
  result : first.SameSeries window.assetId window.sloName -> oldResult second = oldResult first
  score : first.SameSeries window.assetId window.sloName -> oldScore second = oldScore first

theorem ShownAlike.refl (window : Window) (row : SLOEvaluation) : ShownAlike window row row :=
  ⟨.refl window row, fun _ _ _ => rfl, fun _ => rfl, fun _ => rfl⟩

theorem ShownAlike.trans {first second third : SLOEvaluation} (one : ShownAlike window first second)
    (two : ShownAlike window second third) : ShownAlike window first third := by
  have onward (series : first.SameSeries window.assetId window.sloName) :=
    (one.reads.history.series window.assetId window.sloName).mpr series
  refine ⟨one.reads.trans two.reads, fun series obj member => ?_, fun series => ?_, fun series => ?_⟩
  · exact (two.metrics (onward series) obj member).trans (one.metrics series obj member)
  · exact (two.result (onward series)).trans (one.result series)
  · exact (two.score (onward series)).trans (one.score series)

section Related

variable {window : Window} {first second : Database}
  (sameSli : second.sliDefinitions = first.sliDefinitions)
  (shown : List.Forall₂ (ShownAlike window) first.evaluations.rows second.evaluations.rows)

include shown in
theorem Window.evaluations_related :
    List.Forall₂ (fun row other => ShownAlike window row other ∧
        row.SameSeries window.assetId window.sloName)
      (window.evaluations first.evaluations) (window.evaluations second.evaluations) := by
  have related := loadEvaluationsForReeval_related (fun _ _ here => here.reads.history) shown
    window.assetId window.sloName (some window.fromDate)
  refine (Latest.related_with_members related).imp fun row other here => ⟨here.2.2, ?_⟩
  exact (Window.evaluations_stored here.1).2

include sameSli shown

theorem Window.defaultRange_related : window.defaultRange second = window.defaultRange first := by
  have evals := Window.evaluations_related shown
  unfold Window.defaultRange
  generalize window.evaluations first.evaluations = firstEvals at evals ⊢
  generalize window.evaluations second.evaluations = secondEvals at evals ⊢
  cases evals with
  | nil => rfl
  | cons here _ =>
      dsimp only
      rw [here.1.reads.history.sliName, here.1.reads.history.sliVersion,
        resolveSliVersionRange_congr sameSli]

theorem Window.preBaselines_related :
    (window.preBaselines second).isOk = (window.preBaselines first).isOk ∧
      window.eligibleIds second = window.eligibleIds first := by
  have selected := getReevalBaselines_related (fun _ _ here => here.history)
    (fun _ _ here => here.included) (shown.imp fun _ _ here => here.reads) window.fromDate
    window.sloModel.comparison.numberOfComparisonResults (window.defaultRange first) none
    window.skipPin
  unfold Window.eligibleIds Window.preBaselines Window.baselines
  rw [Window.defaultRange_related sameSli shown]
  generalize getReevalBaselines first.evaluations _ _ _ _ _ _ _ _ = firstFound at selected ⊢
  generalize getReevalBaselines second.evaluations _ _ _ _ _ _ _ _ = secondFound at selected ⊢
  cases selected with
  | none => exact ⟨rfl, rfl⟩
  | some rowByRow =>
      exact ⟨rfl, (Latest.map_eq_of_related (rowByRow.imp fun _ _ here => here.history.id.symm)).symm⟩

variable {defaultRange : Option (Int × Int)} {evals others : List SLOEvaluation}
  {clock : Nat -> Instant} {items : List ReEvalResultItem}

theorem rescoreAll_dry_related {eligibleIds : List Nat}
    (related : List.Forall₂ (fun row other => ShownAlike window row other ∧
      row.SameSeries window.assetId window.sloName) evals others)
    (dry : rescoreAll window defaultRange clock true first eligibleIds evals = .ok (first, items)) :
    rescoreAll window defaultRange clock true second eligibleIds others = .ok (second, items) := by
  induction related generalizing eligibleIds items with
  | nil =>
      cases dry
      rfl
  | @cons row other _ _ here _ ih =>
      rcases rescoreAll_cons.mp dry with ⟨evalResult, next, remaining, rescored, unchanged, ran, same⟩
      cases unchanged
      have alike := rescore_alike sameSli (shown.imp fun _ _ here => here.reads)
        ⟨here.1.reads.history, here.1.metrics here.2⟩ defaultRange eligibleIds
      have sameItem : resultItem window other evalResult = resultItem window row evalResult := by
        unfold resultItem
        rw [here.1.reads.history.id, here.1.reads.history.evaluationName,
          here.1.reads.history.periodStart, here.1.reads.history.periodEnd, here.1.result here.2,
          here.1.score here.2]
      refine rescoreAll_cons.mpr ⟨evalResult, second, remaining, alike.trans rescored, rfl, ?_, ?_⟩
      · rw [here.1.reads.history.id]
        exact ih ran
      · rw [same, sameItem]

theorem rescoreWindow_dry_related (dry : rescoreWindow window clock true first = .ok (first, items)) :
    rescoreWindow window clock true second = .ok (second, items) := by
  have evals := Window.evaluations_related shown
  have before := Window.preBaselines_related sameSli shown
  rcases rescoreWindow_eq_ok.mp dry with ⟨found, ran⟩
  refine rescoreWindow_eq_ok.mpr ⟨fun nonempty => ?_, ?_⟩
  · rw [before.1]
    refine found fun empty => nonempty ?_
    rw [empty] at evals
    exact List.forall₂_nil_left_iff.mp evals
  · rw [before.2, Window.defaultRange_related sameSli shown]
    exact rescoreAll_dry_related sameSli shown evals ran

theorem filterAgrees_related {table otherTable : Evaluations} {eligibleIds : List Nat}
    (tables : List.Forall₂ (ReadsAlike window) table.rows otherTable.rows)
    (related : List.Forall₂ (fun row other => ShownAlike window row other ∧
      row.SameSeries window.assetId window.sloName) evals others) :
    FilterAgrees window defaultRange second otherTable eligibleIds others ↔
      FilterAgrees window defaultRange first table eligibleIds evals := by
  induction related generalizing table otherTable eligibleIds with
  | nil =>
      have noSplit : forall before ev after, ([] : List SLOEvaluation) ≠ before ++ ev :: after :=
        fun before ev after split =>
          List.append_ne_nil_of_right_ne_nil before (List.cons_ne_nil ev after) split.symm
      exact ⟨fun _ before ev after split => absurd split (noSplit before ev after),
        fun _ before ev after split => absurd split (noSplit before ev after)⟩
  | @cons row other _ _ here _ ih =>
      have scored : ScoredAlike window row other :=
        ⟨here.1.reads.history, here.1.metrics here.2⟩
      have sameStored := rescore_alike sameSli (shown.imp fun _ _ here => here.reads) scored
        defaultRange eligibleIds
      let firstMarked : Database := { first with evaluations := table }
      let secondMarked : Database := { second with evaluations := otherTable }
      have sameMarked : rescore window defaultRange secondMarked eligibleIds other =
          rescore window defaultRange firstMarked eligibleIds row := by
        have sliOfMarked : secondMarked.sliDefinitions = firstMarked.sliDefinitions := sameSli
        exact rescore_alike sliOfMarked tables scored defaultRange eligibleIds
      rw [filterAgrees_cons rfl, filterAgrees_cons rfl, sameStored, sameMarked,
        here.1.reads.history.id]
      refine and_congr_right fun _ => ih ?_
      rw [update_rows, update_rows, List.forall₂_map_left_iff,
        List.forall₂_map_right_iff]
      refine tables.imp fun stored otherStored alike => ?_
      have sameId := alike.history.id
      by_cases marked : stored.id = row.id
      · rw [if_pos marked, if_pos (sameId.trans marked)]
        exact alike.setResult _
      · rw [if_neg marked, if_neg fun isMarked => marked (sameId.symm.trans isMarked)]
        exact alike

theorem windowAgrees_related : WindowAgrees window second ↔ WindowAgrees window first := by
  have evals := Window.evaluations_related shown
  have sameEmpty : window.evaluations second.evaluations = [] ↔
      window.evaluations first.evaluations = [] := by
    constructor
    · intro empty
      rw [empty] at evals
      exact List.forall₂_nil_right_iff.mp evals
    · intro empty
      rw [empty] at evals
      exact List.forall₂_nil_left_iff.mp evals
  unfold WindowAgrees
  rw [(Window.preBaselines_related sameSli shown).2, Window.defaultRange_related sameSli shown,
    filterAgrees_related sameSli shown (shown.imp fun _ _ here => here.reads) evals]
  exact imp_congr (not_congr sameEmpty) Iff.rfl

end Related

end ReEvaluation
end Tropek
