import Tropek.Maintenance.Operations
import Tropek.ReEvaluation.Recorded

namespace Tropek
namespace Maintenance

open Library TransitionSystem Engine Store Registry ReEvaluation KeyedTable Fallible

/-!
# Overridden results

Three kinds of actions write the result of a completed evaluation.  An override puts
the result of its author in the place of the engine's and keeps the latter aside, a
restore puts it back, and a re-evaluation writes a new result, score and indicator rows.
The first two look at the result that is kept aside; the third one does not.
-/

/-! ## What the engine says -/

def statusScore (sloDef : SLODefinition) (row : SLOEvaluation) : TotalScore :=
  calculateTotalScore
    (row.indicatorRows.rows.map fun indicator => .ofStatus indicator.objective.toModel indicator.status)
    { passThreshold := sloDef.totalScorePassThreshold
      warningThreshold := sloDef.totalScoreWarningThreshold }

/-- The engine's outcome for the version, the score and the indicator rows of the
evaluation. -/
def EngineOutcome (definitions : SLODefinitions) (row : SLOEvaluation)
    (outcome : EvaluationOutcome) : Prop :=
  Exists fun sloDef => row.sloVersion = some sloDef.version ∧
    definitions.find (row.sloName, sloDef.version) = some sloDef ∧
    row.score = some (roundTwoPlaces (statusScore sloDef row).score) ∧
    outcome = (statusScore sloDef row).result

variable {sloDef : SLODefinition} {baselines metrics : Dict (Option ℚ)} {row : SLOEvaluation}
  {value : Option EvaluationOutcome} {operation : Operation} {clock : Nat -> Instant}
  {db next : Database} {evalId : Nat} {request : ReEvaluateRequest} {operations : List Operation}

/-- Indicator rows of different objectives carry the statuses that the engine has
given. -/
theorem statuses_eq (distinct : sloDef.DistinctMetrics) {objectives : List SLOObjectiveRow}
    (stored : forall obj, obj ∈ objectives -> obj ∈ sloDef.objectives.rows)
    {scored : List (ObjectiveResult × IndicatorResult)}
    (related : List.Forall₂ (fun obj pair => evaluateObjective metrics baselines obj =
      .ok pair) (objectives.map SLOObjectiveRow.toModel) scored) :
    (buildIndicatorRows sloDef (scored.map Prod.snd)).map
        (fun indicator => ObjectiveResult.ofStatus indicator.objective.toModel indicator.status) =
      scored.map Prod.fst := by
  induction objectives generalizing scored with
  | nil =>
      cases related
      rfl
  | cons obj rest ih =>
      rcases List.forall₂_cons_left_iff.mp related with ⟨pair, others, first, later, same⟩
      rw [List.forall_mem_cons] at stored
      rcases evaluateObjective_eq_ok first with ⟨metric, _, _, _, ofStatus⟩
      have looked : objectiveLookup sloDef pair.2.metric = some obj := by
        rw [metric]
        exact objectiveLookup_of_distinct distinct stored.1
      have tail := ih stored.2 later
      rw [same]
      unfold buildIndicatorRows at tail ⊢
      rw [List.map_cons, List.map_cons, List.filterMap_cons]
      unfold buildIndicatorRow at tail ⊢
      rw [looked]
      dsimp only [Option.map_some]
      rw [List.map_cons, tail, <- ofStatus]

/-- A row with the version, the score and the indicator rows of an engine result has the
outcome of that result. -/
theorem engineOutcome_of_evaluated {definitions : SLODefinitions} {slo : SLO} {ids : List Nat}
    {evalResult : EvaluationResult} (built : buildSloModel sloDef = .ok slo)
    (evaluated : evaluate slo metrics baselines ids = .ok evalResult)
    (found : definitions.find (row.sloName, sloDef.version) = some sloDef)
    (version : row.sloVersion = some sloDef.version) (score : row.score = some evalResult.score)
    (rows : row.indicatorRows.rows = buildIndicatorRows sloDef evalResult.indicatorResults) :
    EngineOutcome definitions row evalResult.result := by
  rcases buildSlo_eq_ok built with ⟨objectives, _, thresholds⟩
  rcases evaluate_eq_ok evaluated with ⟨scored, related, isResult, isScore, indicators, _⟩
  rw [objectives] at related
  have metricsSame : evalResult.indicatorResults.map (·.metric) =
      sloDef.objectives.rows.map (·.sli) := by
    rw [evaluate_metrics evaluated, objectives, List.map_map]
    rfl
  have distinct : sloDef.DistinctMetrics := by
    rw [<- scoredObjectives_nodup, <- buildIndicatorRows_objectives metricsSame, <- rows, List.map_map]
    exact row.indicatorRows.nodup
  have same : statusScore sloDef row = calculateTotalScore (scored.map Prod.fst) slo.totalScore := by
    unfold statusScore
    rw [rows, indicators, statuses_eq distinct (fun _ member => member) related, thresholds]
  refine ⟨sloDef, version, found, ?_, ?_⟩
  · rw [score, isScore, same]
  · rw [isResult, same]

/-! ## The author's value -/

/-- The result that the author of the last override has given, after one more
operation. -/
def Operation.authored (evalId : Nat) (previous : Option EvaluationOutcome) :
    Operation -> Option EvaluationOutcome
  | .overrideStatus overridden newResult _ _ => if evalId = overridden then some newResult else previous
  | .overrideStatusMany evalIds newResult _ _ => if evalIds.contains evalId then some newResult else previous
  | .restoreOverride restored => if evalId = restored then none else previous
  | .restoreOverrideMany evalIds => if evalIds.contains evalId then none else previous
  | _ => previous

def authorValue (evalId : Nat) (operations : List Operation) : Option EvaluationOutcome :=
  operations.foldl (Operation.authored evalId) none

/-- The columns of an evaluation say whether it is overridden, present the author's
value while it is, and keep the engine's outcome. -/
structure Marked (definitions : SLODefinitions) (value : Option EvaluationOutcome)
    (row : SLOEvaluation) : Prop where
  original : row.originalResult.isSome = value.isSome
  reason : row.overrideReason.isSome = value.isSome
  presented : forall authored, value = some authored -> row.result = some (.ofOutcome authored)
  kept : Exists fun outcome => EngineOutcome definitions row outcome ∧
    row.originalResult.or row.result = some (.ofOutcome outcome)

theorem Marked.setOverridden {definitions : SLODefinitions} (marked : Marked definitions value row)
    (newResult : EvaluationOutcome) (reason author : String) :
    Marked definitions (some newResult) (row.setOverridden (.ofOutcome newResult) reason author) := by
  rcases marked.kept with ⟨outcome, engine, kept⟩
  refine ⟨?_, rfl, ?_, outcome, engine, ?_⟩
  · change (row.originalResult.or row.result).isSome = true
    rw [kept]
    rfl
  · intro authored same
    cases same
    rfl
  · change (row.originalResult.or row.result).or _ = _
    rw [kept]
    rfl

theorem Marked.setRestored {definitions : SLODefinitions} (marked : Marked definitions value row)
    (overridden : row.originalResult.isSome = true) : Marked definitions none row.setRestored := by
  rcases marked.kept with ⟨outcome, engine, kept⟩
  rcases Option.isSome_iff_exists.mp overridden with ⟨original, isOriginal⟩
  refine ⟨rfl, rfl, nofun, outcome, engine, ?_⟩
  change row.originalResult = _
  rw [isOriginal] at kept ⊢
  exact kept

theorem Marked.unrestored {definitions : SLODefinitions} (marked : Marked definitions value row)
    (untouched : row.originalResult.isSome = false) : Marked definitions none row := by
  have noValue : value = none := by
    rw [marked.original] at untouched
    cases value with
    | none => rfl
    | some authored => cases untouched
  rw [<- noValue]
  exact marked

/-! ## One operation -/

def MarksFollow (operation : Operation) (before after : SLOEvaluation) : Prop :=
  after.id = before.id ∧ after.status = before.status ∧
    forall definitions value, before.status = .completed -> Marked definitions value before ->
      Marked definitions (operation.authored before.id value) after

theorem updateWhere_marks (table : Evaluations) (condition : SLOEvaluation -> Bool)
    (change : SLOEvaluation -> SLOEvaluation) (keeps : forall row, (change row).id = row.id)
    (status : forall row, (change row).status = row.status)
    (changed : forall row definitions value, condition row = true -> row.status = .completed ->
      Marked definitions value row ->
      Marked definitions (operation.authored row.id value) (change row))
    (unchanged : forall row definitions value, condition row = false -> row.status = .completed ->
      Marked definitions value row -> Marked definitions (operation.authored row.id value) row) :
    List.Forall₂ (MarksFollow operation) table.rows (table.updateWhere condition change keeps).rows :=
  table.updateWhere_related condition change keeps
    (fun row _ selected => ⟨keeps row, status row, fun definitions value =>
      changed row definitions value selected⟩)
    (fun row _ selected => ⟨rfl, rfl, fun definitions value =>
      unchanged row definitions value selected⟩)

structure KeepsMarks (before after : SLOEvaluation) : Prop where
  id : after.id = before.id
  status : after.status = before.status
  series : after.sloName = before.sloName
  version : after.sloVersion = before.sloVersion
  result : after.result = before.result
  score : after.score = before.score
  indicatorRows : after.indicatorRows = before.indicatorRows
  original : after.originalResult = before.originalResult
  reason : after.overrideReason = before.overrideReason

theorem KeepsMarks.refl (row : SLOEvaluation) : KeepsMarks row row :=
  ⟨rfl, rfl, rfl, rfl, rfl, rfl, rfl, rfl, rfl⟩

theorem KeepsMarks.trans {first second third : SLOEvaluation} (one : KeepsMarks first second)
    (two : KeepsMarks second third) : KeepsMarks first third :=
  ⟨two.id.trans one.id, two.status.trans one.status, two.series.trans one.series,
    two.version.trans one.version, two.result.trans one.result, two.score.trans one.score,
    two.indicatorRows.trans one.indicatorRows, two.original.trans one.original,
    two.reason.trans one.reason⟩

theorem KeepsMarks.marked {definitions : SLODefinitions} {value : Option EvaluationOutcome}
    {before after : SLOEvaluation} (keeps : KeepsMarks before after)
    (marked : Marked definitions value before) : Marked definitions value after := by
  rcases marked.kept with ⟨outcome, ⟨sloDef, version, found, score, isOutcome⟩, kept⟩
  have sameScore : statusScore sloDef after = statusScore sloDef before := by
    unfold statusScore
    rw [keeps.indicatorRows]
  refine ⟨keeps.original ▸ marked.original, keeps.reason ▸ marked.reason, ?_, outcome,
    ⟨sloDef, keeps.version.trans version, keeps.series ▸ found, ?_, ?_⟩, ?_⟩
  · intro authored same
    rw [keeps.result]
    exact marked.presented authored same
  · rw [sameScore, keeps.score]
    exact score
  · rw [sameScore]
    exact isOutcome
  · rw [keeps.original, keeps.result]
    exact kept

theorem updateWhere_keepsMarks (table : Evaluations) (condition : SLOEvaluation -> Bool)
    (change : SLOEvaluation -> SLOEvaluation) (keeps : forall row, (change row).id = row.id)
    (changed : forall row, KeepsMarks row (change row)) :
    List.Forall₂ KeepsMarks table.rows (table.updateWhere condition change keeps).rows :=
  table.updateWhere_related condition change keeps (fun row _ _ => changed row)
    fun row _ _ => KeepsMarks.refl row

theorem setInvalidated_keepsMarks (invalidated : Bool) (row : SLOEvaluation) :
    KeepsMarks row (row.setInvalidated invalidated) :=
  ⟨rfl, rfl, rfl, rfl, rfl, rfl, rfl, rfl, rfl⟩

theorem setPinned_keepsMarks (now : Instant) (row : SLOEvaluation) :
    KeepsMarks row (row.setPinned now) :=
  ⟨rfl, rfl, rfl, rfl, rfl, rfl, rfl, rfl, rfl⟩

theorem setUnpinned_keepsMarks (now : Instant) (row : SLOEvaluation) :
    KeepsMarks row (row.setUnpinned now) :=
  ⟨rfl, rfl, rfl, rfl, rfl, rfl, rfl, rfl, rfl⟩

theorem pins_keepMarks (table : Evaluations) (unpins pins : SLOEvaluation -> Bool) (now : Instant) :
    List.Forall₂ KeepsMarks table.rows (pinWhere (unpinWhere table unpins now) pins now).rows :=
  related_trans (fun _ _ _ one two => one.trans two)
    (updateWhere_keepsMarks table _ _ (SLOEvaluation.setUnpinned_id now) (setUnpinned_keepsMarks now))
    (updateWhere_keepsMarks (unpinWhere table unpins now) _ _ (SLOEvaluation.setPinned_id now)
      (setPinned_keepsMarks now))

theorem marksFollow_of_keeps (silent : forall evalId value, operation.authored evalId value = value)
    {rows others : List SLOEvaluation} (keeps : List.Forall₂ KeepsMarks rows others) :
    List.Forall₂ (MarksFollow operation) rows others := by
  refine keeps.imp fun before after here => ⟨here.id, here.status, ?_⟩
  intro definitions value _ marked
  rw [silent]
  exact here.marked marked

theorem override_marks (operation : Operation) (table : Evaluations)
    (condition : SLOEvaluation -> Bool) (newResult : EvaluationOutcome) (reason author : String)
    (applies : forall row value, row.status = .completed ->
      operation.authored row.id value = if condition row then some newResult else value) :
    List.Forall₂ (MarksFollow operation) table.rows
      (table.updateWhere condition (SLOEvaluation.setOverridden (.ofOutcome newResult) reason author)
        (SLOEvaluation.setOverridden_id (.ofOutcome newResult) reason author)).rows := by
  refine updateWhere_marks table condition _ _ (fun _ => rfl) ?_ ?_
  · intro row definitions value selected completed marked
    rw [applies row value completed, if_pos selected]
    exact marked.setOverridden newResult reason author
  · intro row definitions value unselected completed marked
    rw [applies row value completed, unselected, if_neg Bool.false_ne_true]
    exact marked

theorem restore_marks (operation : Operation) (table : Evaluations)
    (named : SLOEvaluation -> Bool)
    (applies : forall row value, operation.authored row.id value =
      if named row then none else value) :
    List.Forall₂ (MarksFollow operation) table.rows
      (table.updateWhere (fun row => named row && row.originalResult.isSome)
        SLOEvaluation.setRestored SLOEvaluation.setRestored_id).rows := by
  refine updateWhere_marks table _ _ _ (fun _ => rfl) ?_ ?_
  · intro row definitions value selected _ marked
    rcases Bool.and_eq_true_iff.mp selected with ⟨isNamed, overridden⟩
    rw [applies row value, if_pos isNamed]
    exact marked.setRestored overridden
  · intro row definitions value unselected _ marked
    rw [applies row value]
    by_cases isNamed : named row = true
    · rw [isNamed, Bool.true_and] at unselected
      rw [if_pos isNamed]
      exact marked.unrestored unselected
    · rw [if_neg isNamed]
      exact marked

theorem onTable_marks {table next : Evaluations} (ran : operation.onTable table = some next) :
    List.Forall₂ (MarksFollow operation) table.rows next.rows := by
  cases operation with
  | createSlo body firstId => cases ran
  | reEvaluate assigned clock request => cases ran
  | overrideStatus evalId newResult reason author =>
      rw [overrideStatus_onTable ran]
      refine override_marks _ table _ newResult reason author fun row value _ => ?_
      simp only [Operation.authored, decide_eq_true_eq]
  | restoreOverride evalId =>
      rw [restoreOverride_onTable ran]
      refine restore_marks _ table (fun row => row.id = evalId) fun row value => ?_
      simp only [Operation.authored, decide_eq_true_eq]
  | overrideStatusMany evalIds newResult reason author =>
      cases ran
      refine override_marks _ table _ newResult reason author fun row value completed => ?_
      simp only [Operation.authored, completed, decide_true, Bool.and_true]
  | restoreOverrideMany evalIds =>
      cases ran
      exact restore_marks _ table (fun row => evalIds.contains row.id) fun row value => rfl
  | invalidate evalId =>
      rcases Option.map_eq_some_iff.mp ran with ⟨_, _, same⟩
      cases same
      exact marksFollow_of_keeps (fun _ _ => rfl) (updateWhere_keepsMarks table _ _
        (SLOEvaluation.setInvalidated_id true) (setInvalidated_keepsMarks true))
  | restore evalId =>
      rcases Option.map_eq_some_iff.mp ran with ⟨_, _, same⟩
      cases same
      exact marksFollow_of_keeps (fun _ _ => rfl) (updateWhere_keepsMarks table _ _
        (SLOEvaluation.setInvalidated_id false) (setInvalidated_keepsMarks false))
  | invalidateMany evalIds =>
      cases ran
      exact marksFollow_of_keeps (fun _ _ => rfl) (updateWhere_keepsMarks table _ _
        (SLOEvaluation.setInvalidated_id true) (setInvalidated_keepsMarks true))
  | restoreMany evalIds =>
      cases ran
      exact marksFollow_of_keeps (fun _ _ => rfl) (updateWhere_keepsMarks table _ _
        (SLOEvaluation.setInvalidated_id false) (setInvalidated_keepsMarks false))
  | pinBaseline evalId now =>
      rcases pinBaseline_onTable ran with ⟨ev, _, _, rfl⟩
      exact marksFollow_of_keeps (fun _ _ => rfl) (pins_keepMarks table _ _ now)
  | unpinBaseline evalId now =>
      rcases Option.map_eq_some_iff.mp ran with ⟨_, _, same⟩
      cases same
      exact marksFollow_of_keeps (fun _ _ => rfl) (updateWhere_keepsMarks table _ _
        (SLOEvaluation.setUnpinned_id now) (setUnpinned_keepsMarks now))
  | pinBaselineMany evalIds now =>
      cases ran
      exact marksFollow_of_keeps (fun _ _ => rfl) (pins_keepMarks table _ _ now)
  | unpinBaselineMany evalIds now =>
      cases ran
      exact marksFollow_of_keeps (fun _ _ => rfl) (updateWhere_keepsMarks table _ _
        (SLOEvaluation.setUnpinned_id now) (setUnpinned_keepsMarks now))

/-! ## Re-evaluations -/

/-- A rewriting of an evaluation that is not overridden leaves the engine's outcome as
its result. -/
theorem Rewritten.marked {definitions : SLODefinitions} {before after : SLOEvaluation}
    (rewritten : Rewritten definitions before after) (marked : Marked definitions none before) :
    Marked definitions none after := by
  rcases rewritten with ⟨window, item, rewriting⟩
  rcases rewriting.rescored with
    ⟨evalResult, baselines, comparedIds, now, indicatorRows, evaluated, isItem, rows, same⟩
  have kept := rescoredRow_keepsPoints item now indicatorRows before
  rw [<- same] at kept
  have found := rewriting.version
  rw [<- rewriting.series.2, <- rewriting.rescored.history.sloName] at found
  have isResult := rewriting.rescored.result
  rw [isItem] at isResult same
  have noOriginal : after.originalResult = none := by
    rw [kept.originalResult, <- Option.isNone_iff_eq_none, <- Option.not_isSome, marked.original]
    rfl
  refine ⟨?_, ?_, nofun, evalResult.result, ?_, ?_⟩
  · rw [noOriginal]
    rfl
  · rw [same]
    exact marked.reason
  · refine engineOutcome_of_evaluated window.built evaluated found ?_ isResult.2 ?_
    · rw [same]
      rfl
    · rw [same]
      exact rows
  · rw [noOriginal, Option.none_or, isResult.1]
    rfl

theorem Rewrites.marked {definitions : SLODefinitions} {before after : SLOEvaluation}
    (rewrites : Rewrites definitions before after) (marked : Marked definitions none before) :
    Marked definitions none after := by
  induction rewrites with
  | refl => exact marked
  | tail _ last ih => exact Rewritten.marked last ih

def WindowsUntouched (assigned : Nat -> List String) (db : Database) (request : ReEvaluateRequest) :
    Prop :=
  forall asset names name window,
    db.assets.rows.find? (·.name = request.assetName) = some asset ->
    requestedSlos assigned request asset.id = .ok names -> name ∈ names ->
    resolveWindow request db asset.id name = .ok window ->
    forall ev, ev ∈ window.evaluations db.evaluations -> ev.originalResult = none

/-- A real re-evaluation is requested for windows without overridden evaluations. -/
def LeavesOverridden (db : Database) : Operation -> Prop
  | .reEvaluate assigned _ request => request.dryRun = false -> WindowsUntouched assigned db request
  | _ => True

theorem reported_in_window {assetId : Nat} {last : Database} {names : List String}
    {found : List (Int × List ReEvalResultItem)} (real : request.dryRun = false)
    (looped : reEvaluateSlos request clock assetId db names = .ok (last, found))
    (reported : evalId ∈ (allResults found).map (·.id)) :
    Exists fun name => Exists fun window => Exists fun ev => name ∈ names ∧
      resolveWindow request db assetId name = .ok window ∧
      ev ∈ window.evaluations db.evaluations ∧ ev.id = evalId := by
  rcases reEvaluateSlos_lastScoring real looped reported with
    ⟨window, middle, _, _, _, _, scoring, _, _⟩
  rcases scoring.pass with
    ⟨done, name, rest, passDb, _, split, earlier, resolved, foundMiddle, before, behind, _, isWindow, _⟩
  rcases reEvaluateSlos_rewrites earlier with ⟨onlyTable, rewrites⟩
  have history : List.Forall₂ SLOEvaluation.SameHistory db.evaluations.rows passDb.evaluations.rows :=
    rewrites.imp fun _ _ here => ReEvaluation.Rewrites.history here
  have sameSlo : passDb.sloDefinitions = db.sloDefinitions := by rw [onlyTable]
  rw [resolveWindow_related history sameSlo] at resolved
  have inside : evalId ∈ (window.evaluations passDb.evaluations).map (·.id) := by
    rw [isWindow, <- find_key foundMiddle]
    exact List.mem_map_of_mem (List.mem_append_right _ List.mem_cons_self)
  rw [Window.evaluations_ids history] at inside
  rcases List.mem_map.mp inside with ⟨ev, member, same⟩
  refine ⟨name, window, ev, ?_, resolved, member, same⟩
  rw [split]
  exact List.mem_append_right _ List.mem_cons_self

theorem reEvaluate_marks {assigned : Nat -> List String} {last : Database}
    {response : ReEvaluateResponse}
    (untouched : request.dryRun = false -> WindowsUntouched assigned db request)
    (ran : reEvaluate assigned clock db request = .ok (last, response)) :
    List.Forall₂ (fun before after => after.id = before.id ∧ after.status = before.status ∧
        forall value, Marked db.sloDefinitions value before -> Marked db.sloDefinitions value after)
      db.evaluations.rows last.evaluations.rows := by
  rcases reEvaluate_eq_ok.mp ran with ⟨asset, names, found, named, requested, looped, _⟩
  cases dry : request.dryRun with
  | true =>
      have sameRequest : { request with dryRun := true } = request := by rw [<- dry]
      rw [<- sameRequest] at looped
      rw [reEvaluateSlos_dry looped]
      exact List.forall₂_same.mpr fun row _ => ⟨rfl, rfl, fun _ marked => marked⟩
  | false =>
      refine (Latest.related_with_members (reEvaluate_rewrites ran).2).imp ?_
      rintro before after ⟨stored, storedAfter, rewrites⟩
      have history := ReEvaluation.Rewrites.history rewrites
      refine ⟨history.id, history.status, fun value marked => ?_⟩
      by_cases reported : before.id ∈ (allResults found).map (·.id)
      · rcases reported_in_window dry looped reported with
          ⟨name, window, ev, member, resolved, inside, sameId⟩
        have noOriginal := untouched dry asset names name window named requested member resolved ev inside
        have isBefore : ev = before :=
          eq_of_key (Window.evaluations_stored inside).1 stored sameId
        rw [isBefore] at noOriginal
        have noValue : value = none := by
          rw [<- Option.isNone_iff_eq_none, <- Option.not_isSome, <- marked.original, noOriginal]
          rfl
        rw [noValue] at marked ⊢
        exact Rewrites.marked rewrites marked
      · have kept := reEvaluateSlos_keeps dry looped reported
        rw [find_of_mem stored, <- history.id, find_of_mem storedAfter] at kept
        rw [Option.some.inj kept]
        exact marked

/-! ## Runs -/

theorem createSloDefinition_find {body : SLODefinitionCreate} {firstId : Nat}
    (created : createSloDefinition db body firstId = .ok next) {key : String × Int}
    (found : db.sloDefinitions.find key = some sloDef) :
    next.sloDefinitions.find key = some sloDef := by
  rcases bind_eq_ok.mp created with ⟨_, _, created⟩
  rcases bind_eq_ok.mp created with ⟨_, _, created⟩
  dsimp only at created
  split at created
  · rename_i fresh
    cases created
    rw [find_insert]
    rw [if_neg]
    · exact found
    · intro same
      rw [same, fresh] at found
      cases found
  · cases created

theorem Marked.definitions {definitions others : SLODefinitions}
    (more : forall key sloDef, definitions.find key = some sloDef -> others.find key = some sloDef)
    (marked : Marked definitions value row) : Marked others value row := by
  rcases marked.kept with ⟨outcome, ⟨sloDef, version, found, rest⟩, kept⟩
  exact ⟨marked.original, marked.reason, marked.presented, outcome,
    ⟨sloDef, version, more _ _ found, rest⟩, kept⟩

def AllMarked (operations : List Operation) (db : Database) : Prop :=
  forall row, row ∈ db.evaluations.rows -> row.status = .completed ->
    Marked db.sloDefinitions (authorValue row.id operations) row

theorem authorValue_append (evalId : Nat) (operations : List Operation) (operation : Operation) :
    authorValue evalId (operations ++ [operation]) =
      operation.authored evalId (authorValue evalId operations) := by
  unfold authorValue
  rw [List.foldl_append]
  rfl

theorem step_allMarked (marked : AllMarked operations db) (leaves : LeavesOverridden db operation)
    (stepped : step db operation = some next) : AllMarked (operations ++ [operation]) next := by
  have rowByRow : List.Forall₂ (fun before after => after.id = before.id ∧
      after.status = before.status ∧ forall value, before.status = .completed ->
        Marked db.sloDefinitions value before ->
          Marked next.sloDefinitions (operation.authored before.id value) after)
      db.evaluations.rows next.evaluations.rows := by
    rcases step_cases stepped with
      ⟨body, firstId, same, created⟩ | ⟨assigned, clock, request, response, same, ran⟩ |
        ⟨evaluations, onTable, same⟩
    · rw [createSloDefinition_evaluations created, same]
      exact List.forall₂_same.mpr fun row _ => ⟨rfl, rfl, fun value _ marked =>
        marked.definitions fun _ _ => createSloDefinition_find created⟩
    · have sameSlo : next.sloDefinitions = db.sloDefinitions := by rw [(reEvaluate_rewrites ran).1]
      rw [same] at leaves ⊢
      rw [sameSlo]
      exact (reEvaluate_marks leaves ran).imp fun _ _ here =>
        ⟨here.1, here.2.1, fun value _ => here.2.2 value⟩
    · rw [same]
      exact (onTable_marks onTable).imp fun _ _ here =>
        ⟨here.1, here.2.1, fun value => here.2.2 _ value⟩
  intro row member completed
  rcases mem_related (List.Forall₂.flip rowByRow) member with
    ⟨before, stored, sameId, sameStatus, follows⟩
  rw [authorValue_append, sameId]
  rw [sameStatus] at completed
  exact follows _ completed (marked before stored completed)

theorem exec_allMarked {start final : Database} (marked : AllMarked [] start)
    (ran : exec step start operations = some final)
    (leaves : Along step LeavesOverridden start operations) : AllMarked operations final :=
  exec_history_along marked
    (fun _ _ _ _ holds guarded stepped => step_allMarked holds guarded stepped) leaves ran

def Operation.restores (evalId : Nat) : Operation -> Bool
  | .restoreOverride restored => evalId = restored
  | .restoreOverrideMany evalIds => evalIds.contains evalId
  | _ => false

theorem restores_authored (restores : operation.restores evalId = true)
    (value : Option EvaluationOutcome) : operation.authored evalId value = none := by
  cases operation with
  | restoreOverride restored => exact if_pos (of_decide_eq_true restores)
  | restoreOverrideMany evalIds => exact if_pos restores
  | _ => cases restores

theorem restores_leaves (db : Database) (restores : operation.restores evalId = true) :
    LeavesOverridden db operation := by
  cases operation with
  | reEvaluate assigned clock request => cases restores
  | _ => trivial

structure KeepsScoring (before after : SLOEvaluation) : Prop where
  id : after.id = before.id
  status : after.status = before.status
  score : after.score = before.score
  indicatorRows : after.indicatorRows = before.indicatorRows

theorem restore_keepsScoring (table : Evaluations) (condition : SLOEvaluation -> Bool) :
    List.Forall₂ KeepsScoring table.rows
      (table.updateWhere condition SLOEvaluation.setRestored SLOEvaluation.setRestored_id).rows :=
  table.updateWhere_related condition _ _ (fun _ _ _ => ⟨rfl, rfl, rfl, rfl⟩)
    fun _ _ _ => ⟨rfl, rfl, rfl, rfl⟩

theorem restores_keepsScoring (restores : operation.restores evalId = true)
    (stepped : step db operation = some next) :
    List.Forall₂ KeepsScoring db.evaluations.rows next.evaluations.rows := by
  cases operation with
  | restoreOverride restored =>
      rcases Option.map_eq_some_iff.mp stepped with ⟨table, ran, same⟩
      unfold Operation.onTable at ran
      dsimp only at ran
      rw [<- same]
      split at ran
      · cases ran
      · split at ran
        · cases ran
          exact restore_keepsScoring db.evaluations _
        · cases ran
  | restoreOverrideMany evalIds =>
      have same : { db with evaluations := restoreOverrideMany db.evaluations evalIds } = next :=
        Option.some.inj stepped
      rw [<- same]
      exact restore_keepsScoring db.evaluations _
  | _ => cases restores

/-- As long as no re-evaluation is requested for a window with an overridden
evaluation: the original result of a completed evaluation is kept exactly while it is
overridden, its result is then the author's value, otherwise it is the engine's outcome
for the stored score and indicator rows, and so it is after every restore, which leaves
score and indicator rows as they are. -/
theorem overrides_hold {start final : Database} {operations : List Operation}
    (scored : AllMarked [] start) (ran : exec step start operations = some final)
    (leaves : Along step LeavesOverridden start operations) :
    forall row, row ∈ final.evaluations.rows -> row.status = .completed ->
      (row.originalResult.isSome = (authorValue row.id operations).isSome ∧
        row.overrideReason.isSome = (authorValue row.id operations).isSome) ∧
      (forall value, authorValue row.id operations = some value ->
        row.result = some (.ofOutcome value)) ∧
      (authorValue row.id operations = none -> Exists fun outcome =>
        EngineOutcome final.sloDefinitions row outcome ∧ row.result = some (.ofOutcome outcome)) ∧
      (forall operation next, operation.restores row.id = true -> step final operation = some next ->
        Exists fun restored => Exists fun outcome =>
          next.evaluations.find row.id = some restored ∧ restored.score = row.score ∧
            restored.indicatorRows = row.indicatorRows ∧ restored.originalResult = none ∧
            EngineOutcome next.sloDefinitions restored outcome ∧
            restored.result = some (.ofOutcome outcome)) := by
  have settled {definitions : SLODefinitions} {row : SLOEvaluation}
      (marked : Marked definitions none row) : row.originalResult = none ∧ Exists fun outcome =>
        EngineOutcome definitions row outcome ∧ row.result = some (.ofOutcome outcome) := by
    have noOriginal : row.originalResult = none := by
      rw [<- Option.isNone_iff_eq_none, <- Option.not_isSome, marked.original]
      rfl
    rcases marked.kept with ⟨outcome, engine, kept⟩
    rw [noOriginal, Option.none_or] at kept
    exact ⟨noOriginal, outcome, engine, kept⟩
  have all := exec_allMarked scored ran leaves
  intro row member completed
  have marked := all row member completed
  refine ⟨⟨marked.original, marked.reason⟩, marked.presented, ?_, ?_⟩
  · intro noValue
    rw [noValue] at marked
    exact (settled marked).2
  · intro operation next restores stepped
    have nextMarked := step_allMarked all (restores_leaves final restores) stepped
    rcases find_related (fun _ _ here => here.id) (restores_keepsScoring restores stepped)
      (find_of_mem member) with ⟨restored, found, kept⟩
    have markedAfter := nextMarked restored (find_mem found) (kept.status.trans completed)
    rw [authorValue_append, kept.id, restores_authored restores] at markedAfter
    rcases settled markedAfter with ⟨noOriginal, outcome, engine, result⟩
    exact ⟨restored, outcome, found, kept.score, kept.indicatorRows, noOriginal, engine, result⟩

/-! ## An override on a re-evaluated evaluation -/

theorem marked_of_fits {definitions : SLODefinitions}
    (fits : row.sloVersion = some sloDef.version ∧
      row.score = some (roundTwoPlaces (statusScore sloDef row).score) ∧
      row.result = some (.ofOutcome (statusScore sloDef row).result) ∧ row.originalResult = none ∧
      row.overrideReason = none)
    (found : definitions.find (row.sloName, sloDef.version) = some sloDef) :
    Marked definitions none row := by
  rcases fits with ⟨version, score, result, original, reason⟩
  refine ⟨?_, ?_, nofun, _, ⟨sloDef, version, found, score, rfl⟩, ?_⟩
  · rw [original]
    rfl
  · rw [reason]
    rfl
  · rw [original, Option.none_or]
    exact result

namespace Sample

def stricter : Operation :=
  .createSlo { name := "ledger", objectives := [{ sli := "lag", passThreshold := ["<=30"] }] } 34

def rescore : Operation :=
  .reEvaluate (fun _ => []) (fun _ => 0) (ReEvaluation.Sample.ledgerRequest 4)

def patientOperations : List Operation :=
  [stricter, .overrideStatus 30 .warning "known outage" "operator", .restoreOverride 30, rescore,
    .overrideStatusMany [30] .pass "accepted" "operator"]

def hastyOperations : List Operation :=
  [stricter, .overrideStatus 30 .warning "known outage" "operator", rescore]

/-- Neither the stored evaluation nor any in a window is overridden at first. -/
def startFits (db : Database) : Bool :=
  db.evaluations.rows.all fun row => (row.sloVersion.bind fun version =>
    db.sloDefinitions.find (row.sloName, version)).any fun sloDef =>
      decide (row.sloVersion = some sloDef.version ∧
        row.score = some (roundTwoPlaces (statusScore sloDef row).score) ∧
        row.result = some (.ofOutcome (statusScore sloDef row).result) ∧
        row.originalResult = none ∧ row.overrideReason = none)

theorem allMarked_of_startFits {db : Database} (fits : startFits db = true) : AllMarked [] db := by
  intro row member _
  have fitsRow := List.all_eq_true.mp fits row member
  cases found : row.sloVersion.bind fun version => db.sloDefinitions.find (row.sloName, version) with
  | none =>
      rw [found] at fitsRow
      cases fitsRow
  | some sloDef =>
      rw [found] at fitsRow
      have facts := of_decide_eq_true fitsRow
      rcases Option.bind_eq_some_iff.mp found with ⟨version, isVersion, stored⟩
      refine marked_of_fits facts ?_
      have same := facts.1
      rw [isVersion] at same
      rw [<- Option.some.inj same]
      exact stored

def noneOverridden (db : Database) : Operation -> Bool
  | .reEvaluate _ _ _ => db.evaluations.rows.all (·.originalResult.isNone)
  | _ => true

theorem leaves_of_noneOverridden {db : Database} {operation : Operation}
    (checked : noneOverridden db operation = true) : LeavesOverridden db operation := by
  cases operation with
  | reEvaluate assigned clock request =>
      intro _ asset names name window _ _ _ _ ev inside
      have none := List.all_eq_true.mp checked ev (Window.evaluations_stored inside).1
      exact Option.isNone_iff_eq_none.mp none
  | _ => trivial

/-- The evaluation as the worker has left it and as the operations leave it. -/
def ledgerAfter (operations : List Operation) : Option (Database × Database × SLOEvaluation) :=
  ReEvaluation.Sample.ledgerScored.bind fun start =>
    (exec step start operations).bind fun final =>
      (final.evaluations.find 30).map fun row => (start, final, row)

theorem ledgerAfter_eq_some {operations : List Operation} {start final : Database}
    {row : SLOEvaluation} (ran : ledgerAfter operations = some (start, final, row)) :
    ReEvaluation.Sample.ledgerScored = some start ∧ exec step start operations = some final ∧
      final.evaluations.find 30 = some row := by
  unfold ledgerAfter at ran
  rw [Option.bind_eq_some_iff] at ran
  rcases ran with ⟨scored, isScored, ran⟩
  rw [Option.bind_eq_some_iff] at ran
  rcases ran with ⟨last, executed, ran⟩
  rw [Option.map_eq_some_iff] at ran
  rcases ran with ⟨found, stored, same⟩
  cases same
  exact ⟨isScored, executed, stored⟩

end Sample

theorem patient_overrides_hold :
    Exists fun start => Exists fun final => Exists fun row =>
      ReEvaluation.Sample.ledgerScored = some start ∧
        exec step start Sample.patientOperations = some final ∧
        final.evaluations.find 30 = some row ∧ row.result = some .pass ∧
        row.originalResult.isSome = true := by
  have ran : (Sample.ledgerAfter Sample.patientOperations).map (fun found =>
      Sample.startFits found.1 && decide (Along step
        (fun db operation => Sample.noneOverridden db operation = true) found.1
        Sample.patientOperations) && found.2.2.status = .completed) = some true := by
    decide +kernel
  rw [Option.map_eq_some_iff] at ran
  rcases ran with ⟨⟨start, final, row⟩, isRun, checked⟩
  simp only [Bool.and_eq_true, decide_eq_true_eq] at checked
  rcases checked with ⟨⟨fits, along⟩, completed⟩
  rcases Sample.ledgerAfter_eq_some isRun with ⟨scored, executed, stored⟩
  have leaves : Along step LeavesOverridden start Sample.patientOperations :=
    along_mono (fun _ _ checked => Sample.leaves_of_noneOverridden checked) along
  have isRow : row.id = 30 := find_key stored
  have holds := overrides_hold (Sample.allMarked_of_startFits fits) executed leaves row
    (find_mem stored) completed
  have value : authorValue row.id Sample.patientOperations = some .pass := by
    rw [isRow]
    decide
  refine ⟨start, final, row, scored, executed, stored, holds.2.1 .pass value, ?_⟩
  rw [holds.1.1, value]
  rfl

/-- A re-evaluation takes the result of an override away and leaves its marks.  The
restore then puts a result back that the new score and indicator rows do not have. -/
theorem rewritten_override_is_lost :
    Exists fun start => Exists fun final => Exists fun row => Exists fun restored =>
      Exists fun row' =>
        ReEvaluation.Sample.ledgerScored = some start ∧ AllMarked [] start ∧
        exec step start Sample.hastyOperations = some final ∧
        final.evaluations.find 30 = some row ∧
        authorValue 30 Sample.hastyOperations = some .warning ∧
        row.originalResult.isSome = true ∧ row.result = some .fail ∧
        step final (.restoreOverride 30) = some restored ∧
        restored.evaluations.find 30 = some row' ∧ row'.result = some .pass ∧
        forall outcome, EngineOutcome restored.sloDefinitions row' outcome -> outcome = .fail := by
  have ran : ((Sample.ledgerAfter Sample.hastyOperations).bind fun found =>
      (step found.2.1 (.restoreOverride 30)).bind fun restored =>
        (restored.evaluations.find 30).map fun row' =>
          Sample.startFits found.1 && decide (found.2.2.originalResult.isSome = true ∧
            found.2.2.result = some .fail ∧ row'.result = some .pass ∧ row'.sloVersion = some 4) &&
          (restored.sloDefinitions.find (row'.sloName, 4)).all fun sloDef =>
            decide ((statusScore sloDef row').result = .fail)) = some true := by
    decide +kernel
  rw [Option.bind_eq_some_iff] at ran
  rcases ran with ⟨⟨start, final, row⟩, isRun, ran⟩
  rw [Option.bind_eq_some_iff] at ran
  rcases ran with ⟨restored, stepped, ran⟩
  rw [Option.map_eq_some_iff] at ran
  rcases ran with ⟨row', found, checked⟩
  simp only [Bool.and_eq_true, decide_eq_true_eq] at checked
  rcases checked with ⟨⟨fits, original, result, result', version⟩, outcomes⟩
  rcases Sample.ledgerAfter_eq_some isRun with ⟨scored, executed, stored⟩
  refine ⟨start, final, row, restored, row', scored, Sample.allMarked_of_startFits fits, executed,
    stored, by decide, original, result, stepped, found, result', ?_⟩
  rintro outcome ⟨sloDef, isVersion, defined, _, isOutcome⟩
  rw [version] at isVersion
  rw [<- Option.some.inj isVersion] at defined
  rw [defined] at outcomes
  rw [isOutcome]
  exact of_decide_eq_true outcomes

end Maintenance
end Tropek
