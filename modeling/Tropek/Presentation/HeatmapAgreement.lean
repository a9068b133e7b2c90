import Tropek.Presentation.MetricHeatmap
import Tropek.Presentation.Scorings

namespace Tropek
namespace Presentation

open Library TransitionSystem Engine Store ReEvaluation KeyedTable Fallible

/-!
# The two heatmaps over time

The worker completes evaluations, and users override, restore, invalidate and re-evaluate
them.  A run has one evaluation of each SLO throughout.  So the two heatmaps show a
completed evaluation alike as long as its columns agree, and each kind of step can part the
columns in its own way: a completion or a re-evaluation whose score is not the one that the
stored points give, and an override that is shown beside indicator rows of another status.
-/

/-! ## Triggers as the endpoint makes them -/

/-- The endpoint resolves the references of a trigger for the asset of its request. -/
def Event.OnAsset : Event -> Prop
  | .work (.trigger _ request) => request.OnAsset
  | _ => True

instance (event : Event) : Decidable event.OnAsset :=
  match event with
  | .work (.trigger _ request) => inferInstanceAs (Decidable request.OnAsset)
  | .work (.wait _) | .work (.triggerEnqueue _) | .work (.triggerEnd _) | .work (.deliver _ _)
  | .work (.advance _ _ _ _) | .work (.acknowledge _) | .work (.crash _)
  | .work (.watchdogFind _) | .work (.watchdogUpdate _) | .work (.watchdogEnqueue _)
  | .work (.watchdogEnd _) | .writeSliValues _ | .maintain _ => inferInstanceAs (Decidable True)

def stepOnAsset (settings : Worker.Settings) (installation : Installation) (event : Event) :
    Option Installation :=
  if event.OnAsset then step settings installation event else none

variable {installation : Installation} {settings : Worker.Settings} {next db : Database}
  {snapshot : Worker.EvaluationSnapshot} {operation : Maintenance.Operation} {w : Worker.World}
  {table : Evaluations}

theorem stepOnAsset_eq_some {next : Installation} {event : Event}
    (stepped : stepOnAsset settings installation event = some next) :
    event.OnAsset ∧ step settings installation event = some next := by
  unfold stepOnAsset at stepped
  split at stepped
  · rename_i onAsset
    exact ⟨onAsset, stepped⟩
  · cases stepped

/-! ## One evaluation of each SLO -/

def place (ev : SLOEvaluation) : Nat × String :=
  (ev.evaluationId, ev.sloName)

theorem onlyOfSlo_of_places {evaluations : Evaluations}
    (places : (evaluations.rows.map place).Nodup) {ev : SLOEvaluation}
    (stored : ev ∈ evaluations.rows) : OnlyOfSlo evaluations ev :=
  fun _ inside sameRun sameSlo =>
    List.inj_on_of_nodup_map places inside stored (Prod.ext sameRun sameSlo)

structure Placed (db : Database) : Prop where
  places : (db.evaluations.rows.map place).Nodup
  known : forall row, row ∈ db.evaluations.rows -> db.runs.find row.evaluationId ≠ none

theorem Placed.of_same (placed : Placed db)
    (places : next.evaluations.rows.map place = db.evaluations.rows.map place)
    (runs : next.runs = db.runs) : Placed next := by
  refine ⟨places ▸ placed.places, fun row member => ?_⟩
  have inBefore : place row ∈ db.evaluations.rows.map place :=
    places ▸ List.mem_map_of_mem member
  rcases List.mem_map.mp inBefore with ⟨old, stored, same⟩
  rw [runs, show row.evaluationId = old.evaluationId from congrArg Prod.fst same.symm]
  exact placed.known old stored

theorem Placed.trigger {request : Worker.TriggerRequest} (placed : Placed db)
    (onAsset : request.OnAsset) (committed : Worker.triggerCommit request db = some next) :
    Placed next := by
  have inserted := Worker.triggerCommit_committed committed
  rcases Worker.triggerCommit_slos onAsset committed with ⟨created, appended, each, slos⟩
  rcases inserted.runs with ⟨run, isRun, _, runs⟩
  have known : forall other, other ∈ db.runs.rows ++ [run] -> next.runs.find other.id ≠ none := by
    intro other member
    rw [<- runs] at member
    rw [find_of_mem member]
    exact Option.some_ne_none _
  constructor
  · rw [appended, List.map_append, List.nodup_append]
    refine ⟨placed.places, ?_, ?_⟩
    · have pairs : created.map place = (created.map (·.sloName)).map (Prod.mk request.runId) := by
        rw [List.map_map]
        exact List.map_congr_left fun row member => congrArg (Prod.mk · _) (each row member).1
      rw [pairs]
      exact slos.map fun _ _ same => (Prod.mk.inj same).2
    · intro old inOld new inNew same
      rcases List.mem_map.mp inOld with ⟨row, stored, isOld⟩
      rcases List.mem_map.mp inNew with ⟨other, member, isNew⟩
      have sameRun : row.evaluationId = request.runId := by
        rw [<- (each other member).1]
        exact congrArg Prod.fst (isOld.trans (same.trans isNew.symm))
      exact placed.known row stored (sameRun ▸ inserted.fresh)
  · intro row member
    rw [appended] at member
    rcases List.mem_append.mp member with stored | isNew
    · rcases Option.ne_none_iff_exists'.mp (placed.known row stored) with ⟨old, found⟩
      rw [<- find_key found]
      exact known old (List.mem_append_left _ (find_mem found))
    · rw [(each row isNew).1, <- isRun]
      exact known run (List.mem_append_right _ List.mem_cons_self)

/-! ## The worker -/

structure WorldPlaced (w : Worker.World) : Prop where
  db : Placed w.db
  named : forall execution, execution ∈ w.executions.rows ->
    forall snapshot, execution.phase.snapshot? = some snapshot -> Exists fun row =>
      w.db.evaluations.find snapshot.evalId = some row ∧ row.sloName = snapshot.sloName
  measured : AllMeasure w

theorem nextPhase_snapshot {input : Worker.PhaseInput} {message : Worker.Message}
    {phase : Worker.Phase}
    (holds : (Worker.nextPhase settings input message db phase).snapshot? = some snapshot) :
    phase.snapshot? = some snapshot ∨ Exists fun row =>
      db.evaluations.find snapshot.evalId = some row ∧ row.sloName = snapshot.sloName := by
  cases phase with
  | checking =>
      have empty : (if Worker.defers settings input message db then Worker.Phase.deferring
          else Worker.Phase.marking).snapshot? = some snapshot := holds
      split at empty <;> cases empty
  | marking =>
      have loaded : (((db.evaluations.find message.evalId).map
          fun row => Worker.Phase.loading (Worker.snapshotOf db row)).getD .finished).snapshot? =
            some snapshot := holds
      cases found : db.evaluations.find message.evalId with
      | none =>
          rw [found] at loaded
          cases loaded
      | some row =>
          rw [found] at loaded
          have same : Worker.snapshotOf db row = snapshot := Option.some.inj loaded
          subst same
          refine Or.inr ⟨row, ?_, rfl⟩
          have isKey : row.id = message.evalId := find_key found
          change db.evaluations.find row.id = some row
          rw [isKey]
          exact found
  | loading other =>
      have loaded : (Worker.loadingPhase db other).snapshot? = some snapshot := holds
      rcases Worker.loadingPhase_snapshot? db other with ⟨_, _, _, fetching⟩ | empty
      · rw [fetching] at loaded
        exact Or.inl loaded
      · rw [empty] at loaded
        cases loaded
  | fetching other sloDef sliDef datasource =>
      have fetched : (Worker.fetchingPhase db other sloDef sliDef datasource input.adapter).snapshot? =
          some snapshot := holds
      rcases Worker.fetchingPhase_snapshot? db other sloDef sliDef datasource input.adapter with
        ⟨_, writing⟩ | empty
      · rw [writing] at fetched
        exact Or.inl fetched
      · rw [empty] at fetched
        cases fetched
  | writing other sloDef fetchResult =>
      have ended : (if (Worker.writeResults db other sloDef fetchResult).isSome then
          Worker.Phase.wrappingUp other.parentRunId else .raised .database).snapshot? =
            some snapshot := holds
      split at ended <;> cases ended
  | _ => cases holds

section Work

variable {settings : Worker.Settings} {w next : Worker.World} {action : Worker.Action}

theorem WorldPlaced.rowAfter_place (placed : WorldPlaced w) (action : Worker.Action)
    {row : SLOEvaluation} (stored : row ∈ w.db.evaluations.rows) :
    place (Worker.rowAfter (action.write settings w) row) = place row := by
  rcases Worker.rowAfter_cases (action.write settings w) row with
    same | ⟨write, written, targeted, same⟩
  · rw [same]
  · rw [same]
    cases completion : write.change.isCompletion with
    | false =>
        cases changeIs : write.change with
        | completed values indicatorRows =>
            rw [changeIs] at completion
            cases completion
        | _ => rfl
    | true =>
        rcases Worker.write_completion written completion with
          ⟨execution, snapshot, sloDef, fetchResult, member, phase, completed⟩
        have fits := (placed.measured execution member _ _ _ phase).fits
        rcases Worker.completedWrite_eq_some fits completed with ⟨_, _, _, _, isWrite⟩
        rcases placed.named execution member snapshot (by rw [phase]; rfl) with
          ⟨named, found, sameName⟩
        subst isWrite
        have isSnapshot : row.id = snapshot.evalId := targeted
        rw [<- isSnapshot, find_of_mem stored] at found
        cases found
        exact congrArg (Prod.mk _) sameName.symm

theorem WorldPlaced.work (placed : WorldPlaced w)
    (stepped : Worker.step settings w action = some next)
    (onAsset : (Event.work action).OnAsset) : WorldPlaced next := by
  refine ⟨?_, fun execution member snapshot holds => ?_, placed.measured.step stepped⟩
  · by_cases triggered : Exists fun triggerId => Exists fun request =>
        action = .trigger triggerId request
    · rcases triggered with ⟨triggerId, request, same⟩
      subst same
      cases Worker.step_cases stepped with
      | trigger _ _ db committed process processIs fresh =>
          exact placed.db.trigger onAsset committed
    · have sameDb := Worker.step_db stepped
        fun triggerId request same => triggered ⟨triggerId, request, same⟩
      rw [sameDb]
      refine placed.db.of_same ?_ rfl
      dsimp only
      rw [Worker.applyWrite_rows, List.map_map]
      exact List.map_congr_left fun row stored => placed.rowAfter_place action stored
  · have before : Exists fun row => w.db.evaluations.find snapshot.evalId = some row ∧
        row.sloName = snapshot.sloName := by
      rcases Worker.step_execution stepped member with
        inside | delivered | ⟨old, input, inside, same, _⟩
      · exact placed.named execution inside snapshot holds
      · rw [delivered] at holds
        cases holds
      · rw [same] at holds
        rcases nextPhase_snapshot holds with earlier | taken
        · exact placed.named old inside snapshot earlier
        · exact taken
    rcases before with ⟨row, found, isName⟩
    refine ⟨_, Worker.step_find stepped found, ?_⟩
    rw [<- isName]
    exact congrArg Prod.snd (placed.rowAfter_place action (find_mem found))

end Work

/-! ## One event -/

theorem Placed.maintain (placed : Placed db) (stepped : Maintenance.step db operation = some next) :
    Placed next ∧
      List.Forall₂ (fun before after : SLOEvaluation =>
        after.id = before.id ∧ place after = place before)
        db.evaluations.rows next.evaluations.rows := by
  let kept : Maintenance.KeptByOperations fun before after =>
      after.id = before.id ∧ place after = place before := {
    refl := fun _ => ⟨rfl, rfl⟩
    trans := fun _ _ _ one two => ⟨two.1.trans one.1, two.2.trans one.2⟩
    overridden := fun _ _ _ _ => ⟨rfl, rfl⟩
    restored := fun _ => ⟨rfl, rfl⟩
    invalidated := fun _ _ => ⟨rfl, rfl⟩
    pinned := fun _ _ => ⟨rfl, rfl⟩
    unpinned := fun _ _ => ⟨rfl, rfl⟩ }
  have rowByRow := Maintenance.step_kept kept (fun definitions before after rewritten => by
    rcases rewritten.columns with ⟨_, _, _, _, _, same⟩
    rw [same]
    exact ⟨rfl, rfl⟩) stepped
  refine ⟨placed.of_same ?_ (Maintenance.step_runs stepped), rowByRow⟩
  exact (Latest.map_eq_of_related (rowByRow.imp fun _ _ here => here.2.symm)).symm

theorem WorldPlaced.maintain (placed : WorldPlaced w)
    (maintained : Maintenance.step w.db operation = some db) : WorldPlaced { w with db } := by
  rcases placed.db.maintain maintained with ⟨stays, rowByRow⟩
  refine ⟨stays, fun execution member snapshot holds => ?_, placed.measured⟩
  rcases placed.named execution member snapshot holds with ⟨row, found, isName⟩
  rcases find_related (fun _ _ here => here.1) rowByRow found with
    ⟨after, foundAfter, samePlace⟩
  exact ⟨after, foundAfter, (congrArg Prod.snd samePlace.2).trans isName⟩

theorem WorldPlaced.event {settings : Worker.Settings} {installation next : Installation}
    {event : Event} (placed : WorldPlaced installation.world)
    (stepped : stepOnAsset settings installation event = some next) : WorldPlaced next.world := by
  rcases stepOnAsset_eq_some stepped with ⟨onAsset, stepped⟩
  cases event with
  | work action =>
      rcases step_work stepped with ⟨world, worked, same⟩
      rw [same]
      exact placed.work worked onAsset
  | maintain operation =>
      rcases step_maintain stepped with ⟨db, maintained, same⟩
      rw [same]
      exact placed.maintain maintained
  | writeSliValues executionId =>
      have measured := step_allMeasure placed.measured stepped
      rcases step_writeSliValues stepped with ⟨sameDb, _, executions⟩
      refine ⟨sameDb ▸ placed.db, fun execution member snapshot holds => ?_, measured⟩
      rcases executions execution member with inside | raised
      · rw [sameDb]
        exact placed.named execution inside snapshot holds
      · rw [raised] at holds
        cases holds

theorem WorldPlaced.of_initial (initial : w.Initial) : WorldPlaced w := by
  have noRows : w.db.evaluations.rows = [] := by rw [initial.noEvaluations]; rfl
  have noExecutions : w.executions.rows = [] := by rw [initial.noExecutions]; rfl
  refine ⟨⟨?_, fun row member => ?_⟩, fun execution member => ?_, fun execution member => ?_⟩
  · rw [noRows]
    exact List.nodup_nil
  · rw [noRows] at member
    exact absurd member List.not_mem_nil
  · rw [noExecutions] at member
    exact absurd member List.not_mem_nil
  · rw [noExecutions] at member
    exact absurd member List.not_mem_nil

/-! ## What keeps the columns -/

/-- The score of a completion is the one that its points give.  When the evaluation is
overridden, its indicator rows have the status of the new result. -/
structure CompletionFits (table : Evaluations) (snapshot : Worker.EvaluationSnapshot)
    (sloDef : SLODefinition) (fetchResult : Worker.FetchAndEvaluateResult) : Prop where
  points : fetchResult.evalResult.score =
    pointsScore (some (fetchResult.evalResult.indicatorResults.map (roundHalfEven ·.score)).sum)
      (some (sloDef.objectives.rows.map (·.weight)).sum)
  statuses : forall row, table.find snapshot.evalId = some row -> row.invalidated = false ->
    row.originalResult ≠ none -> RowsShow (.ofOutcome fetchResult.evalResult.result)
      (row.indicatorRows.rows ++ buildIndicatorRows sloDef fetchResult.evalResult.indicatorResults)

/-- The score of a re-evaluation is the one that the stored points give.  When the
evaluation is overridden, its new indicator rows have the status of the new result. -/
structure RescoringFits (window : Window) (row : SLOEvaluation) (evalResult : EvaluationResult) :
    Prop where
  points : evalResult.score = pointsScore row.achievedPoints row.totalPoints
  statuses : row.originalResult ≠ none -> RowsShow (.ofOutcome evalResult.result)
    (buildIndicatorRows window.sloDef evalResult.indicatorResults)

/-- An operation that shows a result instead of the statuses of indicator rows finds these
statuses alike. -/
def OperationFits (db : Database) : Maintenance.Operation -> Prop
  | .overrideStatus evalId newResult _ _ => forall row, row ∈ db.evaluations.rows ->
      row.id = evalId -> row.invalidated = false ->
        RowsShow (.ofOutcome newResult) row.indicatorRows.rows
  | .overrideStatusMany evalIds newResult _ _ => forall row, row ∈ db.evaluations.rows ->
      row.id ∈ evalIds -> row.invalidated = false ->
        RowsShow (.ofOutcome newResult) row.indicatorRows.rows
  | .restore evalId => forall row, row ∈ db.evaluations.rows -> row.id = evalId ->
      row.originalResult ≠ none -> forall result, row.result = some result ->
        RowsShow result row.indicatorRows.rows
  | .restoreMany evalIds => forall row, row ∈ db.evaluations.rows -> row.id ∈ evalIds ->
      row.originalResult ≠ none -> forall result, row.result = some result ->
        RowsShow result row.indicatorRows.rows
  | .reEvaluate assigned clock request => request.dryRun = false ->
      forall asset names evalId window middle baselines comparedIds evalResult,
        db.assets.rows.find? (·.name = request.assetName) = some asset ->
        requestedSlos assigned request asset.id = .ok names ->
        LastScoring request clock asset.id db names evalId window middle baselines comparedIds
          evalResult -> RescoringFits window middle evalResult
  | _ => True

def EventFits (installation : Installation) : Event -> Prop
  | .work (.advance executionId _ _ _) => forall snapshot sloDef fetchResult,
      writingOf installation.world executionId = some (snapshot, sloDef, fetchResult) ->
        CompletionFits installation.world.db.evaluations snapshot sloDef fetchResult
  | .maintain operation => OperationFits installation.world.db operation
  | _ => True

def AllAgree (evaluations : Evaluations) : Prop :=
  forall row, row ∈ evaluations.rows -> row.status = .completed -> ColumnsAgree row

section

variable (all : AllAgree table)

include all

/-- A statement on the table whose change keeps the columns of the rows that it selects. -/
theorem AllAgree.updateWhere {condition : SLOEvaluation -> Bool}
    {change : SLOEvaluation -> SLOEvaluation} (keeps : forall row, (change row).id = row.id)
    (status : forall row, (change row).status = row.status)
    (changed : forall row, row ∈ table.rows -> condition row = true -> ColumnsAgree row ->
      ColumnsAgree (change row)) :
    AllAgree (table.updateWhere condition change keeps) := by
  intro row member completed
  rcases (mem_updateWhere _ _ _ _ _).mp member with ⟨old, stored, same⟩
  cases selected : condition old with
  | true =>
      rw [selected, if_pos rfl] at same
      rw [<- same] at completed ⊢
      exact changed old stored selected (all old stored ((status old).symm.trans completed))
  | false =>
      rw [selected, if_neg Bool.false_ne_true] at same
      rw [<- same] at completed ⊢
      exact all old stored completed

theorem AllAgree.override (condition : SLOEvaluation -> Bool) (newResult : ResultValue)
    (reason author : String)
    (shown : forall row, row ∈ table.rows -> condition row = true -> row.invalidated = false ->
      RowsShow newResult row.indicatorRows.rows) :
    AllAgree (table.updateWhere condition (SLOEvaluation.setOverridden newResult reason author)
      (SLOEvaluation.setOverridden_id newResult reason author)) := by
  refine all.updateWhere _ (fun _ => rfl) fun row stored selected agree =>
    ⟨fun valid _ result isResult => ?_, agree.points⟩
  cases isResult
  exact shown row stored selected valid

theorem AllAgree.restoreOverride (condition : SLOEvaluation -> Bool) :
    AllAgree (table.updateWhere condition SLOEvaluation.setRestored SLOEvaluation.setRestored_id) :=
  all.updateWhere _ (fun _ => rfl) fun _ _ _ agree =>
    ⟨fun _ overridden => absurd rfl overridden, agree.points⟩

theorem AllAgree.invalidate (condition : SLOEvaluation -> Bool) :
    AllAgree (table.updateWhere condition (SLOEvaluation.setInvalidated true)
      (SLOEvaluation.setInvalidated_id true)) :=
  all.updateWhere _ (fun _ => rfl) fun _ _ _ agree =>
    ⟨fun impossible => (by cases impossible), agree.points⟩

theorem AllAgree.restore (condition : SLOEvaluation -> Bool)
    (shown : forall row, row ∈ table.rows -> condition row = true -> row.originalResult ≠ none ->
      forall result, row.result = some result -> RowsShow result row.indicatorRows.rows) :
    AllAgree (table.updateWhere condition (SLOEvaluation.setInvalidated false)
      (SLOEvaluation.setInvalidated_id false)) :=
  all.updateWhere _ (fun _ => rfl) fun row stored selected agree =>
    ⟨fun _ => shown row stored selected, agree.points⟩

theorem AllAgree.unpin (condition : SLOEvaluation -> Bool) (now : Instant) :
    AllAgree (table.updateWhere condition (SLOEvaluation.setUnpinned now)
      (SLOEvaluation.setUnpinned_id now)) :=
  all.updateWhere _ (fun _ => rfl) fun _ _ _ agree => ⟨agree.statuses, agree.points⟩

theorem AllAgree.pin (condition : SLOEvaluation -> Bool) (now : Instant) :
    AllAgree (pinWhere table condition now) :=
  all.updateWhere _ (fun _ => rfl) fun _ _ _ agree => ⟨agree.statuses, agree.points⟩

end

theorem AllAgree.onTable {next : Evaluations} (all : AllAgree db.evaluations)
    (fits : OperationFits db operation) (ran : operation.onTable db.evaluations = some next) :
    AllAgree next := by
  cases operation with
  | createSlo body firstId => cases ran
  | reEvaluate assigned clock request => cases ran
  | overrideStatus evalId newResult reason author =>
      rw [Maintenance.overrideStatus_onTable ran]
      exact all.override _ _ reason author fun row stored selected =>
        fits row stored (of_decide_eq_true selected)
  | restoreOverride evalId =>
      rw [Maintenance.restoreOverride_onTable ran]
      exact all.restoreOverride _
  | overrideStatusMany evalIds newResult reason author =>
      cases ran
      refine all.override _ _ reason author fun row stored selected => fits row stored ?_
      exact List.contains_iff_mem.mp (Bool.and_eq_true_iff.mp selected).1
  | restoreOverrideMany evalIds =>
      cases ran
      exact all.restoreOverride _
  | invalidate evalId =>
      rcases Option.map_eq_some_iff.mp ran with ⟨_, _, same⟩
      cases same
      exact all.invalidate _
  | restore evalId =>
      rcases Option.map_eq_some_iff.mp ran with ⟨_, _, same⟩
      cases same
      exact all.restore _ fun row stored selected => fits row stored (of_decide_eq_true selected)
  | invalidateMany evalIds =>
      cases ran
      exact all.invalidate _
  | restoreMany evalIds =>
      cases ran
      exact all.restore _ fun row stored selected =>
        fits row stored (List.contains_iff_mem.mp selected)
  | pinBaseline evalId now =>
      rcases Maintenance.pinBaseline_onTable ran with ⟨ev, _, _, rfl⟩
      exact (all.unpin _ now).pin _ now
  | unpinBaseline evalId now =>
      rcases Option.map_eq_some_iff.mp ran with ⟨_, _, same⟩
      cases same
      exact all.unpin _ now
  | pinBaselineMany evalIds now =>
      cases ran
      exact (all.unpin _ now).pin _ now
  | unpinBaselineMany evalIds now =>
      cases ran
      exact all.unpin _ now

theorem Written.columnsAgree {window : Window} {evalResult : EvaluationResult}
    {before after : SLOEvaluation} (written : Written window evalResult before after)
    (fits : RescoringFits window before evalResult) : ColumnsAgree after := by
  rcases written with ⟨now, indicatorRows, rows, same⟩
  rw [same]
  refine ⟨fun _ overridden result isResult => ?_, fits.points⟩
  cases isResult
  change RowsShow _ indicatorRows.rows
  rw [rows]
  exact fits.statuses overridden

theorem AllAgree.reEvaluate {last : Database} {assigned : Nat -> List String}
    {clock : Nat -> Instant} {request : ReEvaluateRequest} {response : ReEvaluateResponse}
    (all : AllAgree db.evaluations) (fits : OperationFits db (.reEvaluate assigned clock request))
    (ran : ReEvaluation.reEvaluate assigned clock db request = .ok (last, response)) :
    AllAgree last.evaluations := by
  cases dry : request.dryRun with
  | true =>
      rcases reEvaluate_eq_ok.mp ran with ⟨_, _, _, _, _, looped, _⟩
      have sameRequest : { request with dryRun := true } = request := by rw [<- dry]
      rw [<- sameRequest] at looped
      rw [reEvaluateSlos_dry looped]
      exact all
  | false =>
      rcases reEvaluate_recorded dry ran with ⟨kept, rewritten⟩
      intro row member completed
      have found := find_of_mem member
      by_cases reported : row.id ∈ response.results.map (·.id)
      · rcases mem_related (reEvaluate_rewrites ran).2.flip member with
          ⟨before, stored, rewrites⟩
        have sameId := (Rewrites.history rewrites).id
        rw [sameId] at reported found
        rcases rewritten before stored reported with
          ⟨asset, names, window, middle, baselines, comparedIds, evalResult, after, isAsset, requested,
            scoring, foundAfter, written, _⟩
        rw [found] at foundAfter
        cases foundAfter
        exact Written.columnsAgree written
          (fits dry asset names _ window middle baselines comparedIds evalResult isAsset requested scoring)
      · rw [kept row.id reported] at found
        exact all row (find_mem found) completed

theorem AllAgree.maintain (all : AllAgree db.evaluations) (fits : OperationFits db operation)
    (stepped : Maintenance.step db operation = some next) : AllAgree next.evaluations := by
  rcases Maintenance.step_cases stepped with
    ⟨body, firstId, _, created⟩ | ⟨assigned, clock, request, response, same, ran⟩ |
      ⟨evaluations, onTable, same⟩
  · rw [Maintenance.createSloDefinition_evaluations created]
    exact all
  · subst same
    exact all.reEvaluate fits ran
  · rw [same]
    exact all.onTable fits onTable

/-! ## Completions -/

theorem CompletionFits.columnsAgree {sloDef : SLODefinition}
    {fetchResult : Worker.FetchAndEvaluateResult} {write : Worker.Write} {row : SLOEvaluation}
    (completion : CompletionFits table snapshot sloDef fetchResult)
    (fits : fetchResult.FitsDefinition sloDef)
    (completed : Worker.completedWrite table snapshot sloDef fetchResult = some write)
    (found : table.find snapshot.evalId = some row) : ColumnsAgree (write.change.apply row) := by
  rcases Worker.completedWrite_eq_some fits completed with
    ⟨evaluation, indicatorRows, foundRow, inserted, same⟩
  rw [found] at foundRow
  cases foundRow
  rw [same]
  refine ⟨fun valid overridden result isResult => ?_, completion.points⟩
  cases isResult
  change RowsShow _ indicatorRows.rows
  rw [bulkInsert_rows inserted]
  exact completion.statuses row found valid overridden

/-- The only transaction of the worker after which an evaluation is completed and was not
so before is a completion. -/
theorem AllAgree.work {world : Worker.World} {action : Worker.Action}
    (all : AllAgree installation.world.db.evaluations) (measured : AllMeasure installation.world)
    (fits : EventFits installation (.work action))
    (worked : Worker.step settings installation.world action = some world) :
    AllAgree world.db.evaluations := by
  rcases Worker.step_table worked with ⟨created, rows, origin⟩
  intro row member completed
  rw [rows] at member
  rcases List.mem_append.mp member with old | isNew
  · rcases List.mem_map.mp old with ⟨before, stored, same⟩
    subst same
    rcases Worker.rowAfter_cases (action.write settings installation.world) before with
      same | ⟨write, written, targeted, same⟩
    · rw [same] at completed ⊢
      exact all before stored completed
    · rw [same] at completed ⊢
      cases completion : write.change.isCompletion with
      | false =>
          cases changeIs : write.change with
          | completed values indicatorRows =>
              rw [changeIs] at completion
              cases completion
          | _ =>
              rw [changeIs] at completed
              cases completed
      | true =>
          rcases write_completes written completion with
            ⟨executionId, workerId, checkFails, adapter, snapshot, sloDef, fetchResult, isAdvance,
              writing, isCompleted⟩
          subst isAdvance
          rcases writingOf_eq_some writing with ⟨⟨execution, found, phase⟩, _⟩
          have result := measured execution (find_mem found) _ _ _ phase
          have isTarget := (completedWrite_rows result.fits isCompleted).1
          refine (fits snapshot sloDef fetchResult writing).columnsAgree result.fits isCompleted ?_
          rw [<- isTarget, <- targeted]
          exact find_of_mem stored
  · rcases origin row isNew with ⟨_, request, _, ctx, assetTags, _, isRow⟩
    rw [isRow] at completed
    cases completed

/-! ## Runs -/

/-- Both responses show every completed evaluation alike that is inside both windows,
whatever runs, definitions, notes and other tables there are, and with any cache whose
fragments are those that would be built. -/
def HeatmapsAgree (evaluations : Evaluations) : Prop :=
  forall (tables : HeatmapTables) (cache left : HeatmapCache) (request : MetricHeatmapRequest)
    (groupedRequest : GroupedHeatmapRequest) (byMetric : MetricHeatmapResponse)
    (grouped : GroupedMetricHeatmapResponse), tables.evaluations = evaluations ->
      cache.Coherent (columnFragment tables.toTables) ->
      getMetricHeatmapNew tables.toTables request = .ok byMetric ->
      getGroupedMetricHeatmapNew tables cache groupedRequest = .ok (grouped, left) ->
      forall ev, ev ∈ evaluations.rows ->
        (Exists fun cell => cell ∈ byMetric.cells ∧ cell.evalId = ev.id) ->
        (Exists fun column => column ∈ grouped.columns ∧ column.evaluationId = ev.evaluationId) ->
          EvaluationAgrees byMetric grouped ev

theorem heatmapsAgree_of_columns {evaluations : Evaluations}
    (places : (evaluations.rows.map place).Nodup) (all : AllAgree evaluations) :
    HeatmapsAgree evaluations := by
  rintro tables cache left request groupedRequest byMetric grouped rfl coherent returned
    groupedReturned ev stored inMetric inGrouped
  have completed := (byMetric_filter returned stored inMetric).2
  exact (evaluationAgrees_iff coherent returned groupedReturned stored
    (onlyOfSlo_of_places places stored) inMetric inGrouped).mpr (all ev stored completed)

section Runs

variable {settings : Worker.Settings} {start final : Installation} {events : List Event}

section

variable (initial : start.Initial) (ran : exec (stepOnAsset settings) start events = some final)

include initial ran

theorem exec_placed : WorldPlaced final.world := by
  let invariant (state : Installation) : Prop := WorldPlaced state.world
  have holds : invariant start := WorldPlaced.of_initial initial.world
  have kept : invariant final :=
    exec_preserves (fun _ _ _ placed stepped => placed.event stepped) holds ran
  exact kept

theorem exec_allAgree (fits : Along (stepOnAsset settings) EventFits start events) :
    AllAgree final.world.db.evaluations := by
  let invariant (state : Installation) : Prop :=
    WorldPlaced state.world ∧ AllAgree state.world.db.evaluations
  have holds : invariant start := by
    refine ⟨WorldPlaced.of_initial initial.world, fun row member => ?_⟩
    rw [initial.world.noEvaluations] at member
    exact absurd member List.not_mem_nil
  have kept : invariant final := by
    refine exec_preserves_along ?_ holds fits ran
    rintro state event next ⟨placed, all⟩ eventFits stepped
    refine ⟨placed.event stepped, ?_⟩
    have taken := (stepOnAsset_eq_some stepped).2
    cases event with
    | work action =>
        rcases step_work taken with ⟨world, worked, same⟩
        rw [same]
        exact all.work placed.measured eventFits worked
    | maintain operation =>
        rcases step_maintain taken with ⟨db, maintained, same⟩
        rw [same]
        exact all.maintain eventFits maintained
    | writeSliValues executionId =>
        rw [(step_writeSliValues taken).1]
        exact all
  exact kept.2

end

/-- The two heatmaps agree in every state of a run in which every completion and every
re-evaluation has the score that the points give, and an override is not shown beside
indicator rows of another status. -/
theorem heatmaps_agree (initial : start.Initial)
    (ran : exec (stepOnAsset settings) start events = some final)
    (fits : Along (stepOnAsset settings) EventFits start events) :
    HeatmapsAgree final.world.db.evaluations :=
  heatmapsAgree_of_columns (exec_placed initial ran).db.places (exec_allAgree initial ran fits)

end Runs

/-! ## Three runs

The worker completes an evaluation that passes.  In the first run it is then overridden with
the result that it has, invalidated and restored.  In the second one it is overridden with
another result, and in the third one it is scored against a stricter version.
-/

namespace Sample

def shop : Installation :=
  { world := Worker.Sample.world }

theorem shop_initial : shop.Initial :=
  ⟨Worker.Sample.world_initial, rfl, rfl⟩

def scored : List Event :=
  [.work (.trigger 1 (Worker.Sample.request 1 10 0)), .work (.triggerEnqueue 1),
    .work (.deliver 1 0)] ++ List.replicate 5 (.work (Worker.Sample.advance 1))

def overridden (newResult : EvaluationOutcome) : List Event :=
  scored ++ [.maintain (.overrideStatus 10 newResult "checked by hand" "operator")]

def restored : List Event :=
  overridden .pass ++ [.maintain (.invalidate 10), .maintain (.restore 10)]

def rescored : List Event :=
  scored ++ [
    .maintain (.createSlo
      { name := "checkout", objectives := [{ sli := "latency", passThreshold := ["<=30"] }] } 2),
    .maintain (.reEvaluate (fun _ => []) (fun _ => 0)
      { assetName := "shop", sloName := some "checkout", fromDate := some 0, sloVersion := some 2 })]

def tablesAfter (installation : Installation) : HeatmapTables :=
  let run : EvaluationRun :=
    { id := 1, assetId := 1, evalName := "hourly", periodStart := 0, periodEnd := 3600000000,
      status := .completed }
  { toDatabase := { installation.world.db with runs := empty.insert run rfl } }

def shownIn (final : Installation) : Bool :=
  (final.world.db.evaluations.find 10).any fun ev =>
    (getMetricHeatmapNew (tablesAfter final).toTables { assetName := "shop" }).toOption.any
        (fun byMetric => byMetric.cells.any (·.evalId = ev.id)) &&
      (getGroupedMetricHeatmapNew (tablesAfter final) (fun _ => none)
          { assetName := "shop" }).toOption.any
        fun outcome => outcome.1.columns.any (·.evaluationId = ev.evaluationId)

def partedIn (final : Installation) : Bool :=
  shownIn final && (final.world.db.evaluations.find 10).any fun ev => !decide (ColumnsAgree ev)

theorem heatmaps_differ {events : List Event}
    (parted : (exec (stepOnAsset {}) shop events).map partedIn = some true) :
    Exists fun final => exec (stepOnAsset {}) shop events = some final ∧
      ¬ HeatmapsAgree final.world.db.evaluations := by
  rcases Option.map_eq_some_iff.mp parted with ⟨final, ran, isParted⟩
  refine ⟨final, ran, fun agree => ?_⟩
  rcases Bool.and_eq_true_iff.mp isParted with ⟨shown, differ⟩
  rcases (Option.any_eq_true _ _).mp shown with ⟨ev, found, inBoth⟩
  rcases (Option.any_eq_true _ _).mp differ with ⟨other, alsoFound, disagree⟩
  rw [found] at alsoFound
  cases alsoFound
  rcases Bool.and_eq_true_iff.mp inBoth with ⟨inMetric, inGrouped⟩
  rcases (Option.any_eq_true _ _).mp inMetric with ⟨byMetric, isMetric, cell⟩
  rcases (Option.any_eq_true _ _).mp inGrouped with ⟨⟨grouped, left⟩, isGrouped, column⟩
  have returned := toOption_eq_some.mp isMetric
  have groupedReturned := toOption_eq_some.mp isGrouped
  have hasCell : Exists fun cell => cell ∈ byMetric.cells ∧ cell.evalId = ev.id := by
    simpa using cell
  have hasColumn : Exists fun column => column ∈ grouped.columns ∧
      column.evaluationId = ev.evaluationId := by
    simpa using column
  have coherent : Cache.Coherent (columnFragment (tablesAfter final).toTables) fun _ => none := by
    intro key value impossible
    cases impossible
  have stored := find_mem found
  have only := onlyOfSlo_of_places (exec_placed shop_initial ran).db.places stored
  have agrees := agree (tablesAfter final) _ left _ _ byMetric grouped rfl coherent returned
    groupedReturned ev stored hasCell hasColumn
  have columns := (evaluationAgrees_iff coherent returned groupedReturned stored only hasCell
    hasColumn).mp agrees
  rw [decide_eq_true columns] at disagree
  cases disagree

def fitsAlone (installation : Installation) : Event -> Bool
  | .work (.advance executionId _ _ _) =>
      (writingOf installation.world executionId).all fun (snapshot, sloDef, fetchResult) =>
        decide (fetchResult.evalResult.score = pointsScore
          (some (fetchResult.evalResult.indicatorResults.map (roundHalfEven ·.score)).sum)
          (some (sloDef.objectives.rows.map (·.weight)).sum)) &&
        (installation.world.db.evaluations.find snapshot.evalId).all (·.originalResult.isNone)
  | .maintain (.overrideStatus _ newResult _ _) =>
      installation.world.db.evaluations.rows.all fun row =>
        decide (RowsShow (.ofOutcome newResult) row.indicatorRows.rows)
  | .maintain (.restore _) =>
      installation.world.db.evaluations.rows.all fun row =>
        row.result.all fun result => decide (RowsShow result row.indicatorRows.rows)
  | .maintain (.invalidate _) => true
  | .maintain _ => false
  | _ => true

theorem eventFits_of_alone {installation : Installation} {event : Event}
    (fits : fitsAlone installation event = true) : EventFits installation event := by
  cases event with
  | writeSliValues executionId => trivial
  | work action =>
      cases action with
      | advance executionId workerId checkFails adapter =>
          intro snapshot sloDef fetchResult writing
          have both := (Option.all_eq_true _ _).mp fits _ writing
          rcases Bool.and_eq_true_iff.mp both with ⟨points, none⟩
          refine ⟨of_decide_eq_true points, fun row found _ overridden => ?_⟩
          have isNone := (Option.all_eq_true _ _).mp none row found
          exact absurd (Option.isNone_iff_eq_none.mp isNone) overridden
      | _ => trivial
  | maintain operation =>
      cases operation with
      | overrideStatus evalId newResult reason author =>
          exact fun row stored _ _ => of_decide_eq_true (List.all_eq_true.mp fits row stored)
      | restore evalId =>
          intro row stored _ _ result isResult
          have all := List.all_eq_true.mp fits row stored
          exact of_decide_eq_true ((Option.all_eq_true _ _).mp all result isResult)
      | invalidate evalId => trivial
      | _ => cases fits

end Sample

/-- An override with the result that every indicator row has. -/
theorem restored_heatmaps_agree :
    Exists fun final => exec (stepOnAsset {}) Sample.shop Sample.restored = some final ∧
      Sample.shownIn final = true ∧ HeatmapsAgree final.world.db.evaluations := by
  have ran : (exec (stepOnAsset {}) Sample.shop Sample.restored).map (fun final =>
      Sample.shownIn final && decide (Along (stepOnAsset {})
        (fun state event => Sample.fitsAlone state event = true) Sample.shop Sample.restored)) =
        some true := by
    decide +kernel
  rcases Option.map_eq_some_iff.mp ran with ⟨final, executed, checked⟩
  rcases Bool.and_eq_true_iff.mp checked with ⟨shown, along⟩
  have fits : Along (stepOnAsset {}) EventFits Sample.shop Sample.restored :=
    along_mono (fun _ _ => Sample.eventFits_of_alone) (of_decide_eq_true along)
  exact ⟨final, executed, shown, heatmaps_agree Sample.shop_initial executed fits⟩

/-- After an override the metric cells differ, and after a re-evaluation the scores do. -/
theorem parted_heatmaps_differ :
    (Exists fun final =>
      exec (stepOnAsset {}) Sample.shop (Sample.overridden .fail) = some final ∧
        ¬ HeatmapsAgree final.world.db.evaluations) ∧
    Exists fun final => exec (stepOnAsset {}) Sample.shop Sample.rescored = some final ∧
      ¬ HeatmapsAgree final.world.db.evaluations :=
  ⟨Sample.heatmaps_differ (by decide +kernel), Sample.heatmaps_differ (by decide +kernel)⟩

end Presentation
end Tropek
