import Tropek.ChangePoints.Uniqueness
import Tropek.Presentation.HeatmapAgreement
import Tropek.Presentation.Markers
import Tropek.Store.RunRepository

namespace Tropek
namespace Presentation

open Library TransitionSystem Engine Store KeyedTable

/-!
# Markers over time

Evaluations, change point phases and re-evaluations go on as before.  In addition runs are
finalized, and users triage change points, one by one or many at a time.  None of this
moves an evaluation, a run or a change point.  So the columns by which the views find each
other's rows agree in every state, even with fragments that were cached in an earlier one.
-/

/-! ## The system -/

structure PresentationColumns where
  invalidationNote : Nat -> Option String := fun _ => none
  sliMetadata : Nat -> Dict SliMetadata := fun _ => ∅
  tabGroup : Nat -> Option String := fun _ => none
  sliValues : List SLIValue := []
  annotations : List EvaluationAnnotation := []

/-- The primary key of a change point is its position in the order of insertion. -/
structure TriagedInstallation where
  detected : ChangePoints.Installation
  status : Nat -> String := fun _ => "unprocessed"

def directionText : ChangePoints.Direction -> String
  | .regression => "regression"
  | .improvement => "improvement"

def transitionText : ChangePoints.Transition -> String
  | .appeared => "appeared"
  | .vanished => "vanished"

def changePointRow (status : String) (changePoint : ChangePoints.ChangePoint) : ChangePointRow :=
  { evaluationRunId := changePoint.evaluationRunId
    assetId := changePoint.assetId
    sloName := changePoint.sloName
    metricName := changePoint.metricName
    periodStart := changePoint.periodStart
    periodEnd := changePoint.periodEnd
    direction := directionText changePoint.direction
    changeRelativePct := changePoint.changeRelativePct
    changeAbsolute := changePoint.changeAbsolute
    transition := changePoint.transition.map transitionText
    status }

def TriagedInstallation.changePointRows (s : TriagedInstallation) : List ChangePointRow :=
  s.detected.changePoints.zipIdx.map fun (changePoint, id) => changePointRow (s.status id) changePoint

def TriagedInstallation.tables (s : TriagedInstallation) (columns : PresentationColumns) :
    HeatmapTables :=
  { s.detected.world.db with
    invalidationNote := columns.invalidationNote
    sliMetadata := columns.sliMetadata
    tabGroup := columns.tabGroup
    sliValues := columns.sliValues
    changePoints := s.changePointRows
    annotations := columns.annotations }

/-- What happens to evaluations, their runs, change points and the triage of these.
`finalize`: the guarded update of an attempt to finalize a run, with the values that it
computed. -/
inductive TriagedEvent where
  | act (action : ChangePoints.Action)
  | finalize (runId : Nat) (values : RunValues)
  | triage (changePointId : Nat) (status : String)
  | bulkTriage (ids : List Nat) (status : String)

def actsOnAsset : ChangePoints.Action -> Bool
  | .worker action => (Event.work action).OnAsset
  | _ => true

/-- `UPDATE change_points SET status`. -/
def TriagedInstallation.setStatus (s : TriagedInstallation) (condition : Nat -> Bool)
    (status : String) : TriagedInstallation :=
  { s with
    status := fun id =>
      if condition id && id < s.detected.changePoints.length then status else s.status id }

def TriagedInstallation.setRuns (s : TriagedInstallation) (runs : Runs) : TriagedInstallation :=
  { s with detected := { s.detected with world := { s.detected.world with
      db := { s.detected.world.db with runs } } } }

/-- A phase of the worker or a re-evaluation for the asset, the completion of a run, or
a triage of change points. -/
def triagedStep (settings : Worker.Settings) (s : TriagedInstallation) :
    TriagedEvent -> Option TriagedInstallation
  | .act action =>
      if actsOnAsset action then
        (ChangePoints.step settings s.detected action).map fun detected => { s with detected }
      else none
  | .finalize runId values => some (s.setRuns (finalizeRun s.detected.world.db.runs runId values))
  | .triage changePointId status =>
      if changePointId < s.detected.changePoints.length then
        some (s.setStatus (fun id => id = changePointId) status)
      else none
  | .bulkTriage ids status => some (s.setStatus ids.contains status)

structure TriagedInstallation.Initial (s : TriagedInstallation) : Prop where
  detected : s.detected.Initial
  untriaged : s.status = fun _ => "unprocessed"

/-! ## Columns that stay -/

structure SameColumns (first second : SLOEvaluation) : Prop where
  evaluationId : second.evaluationId = first.evaluationId
  sloName : second.sloName = first.sloName
  assetId : second.assetId = first.assetId
  evaluationName : second.evaluationName = first.evaluationName
  periodStart : second.periodStart = first.periodStart
  periodEnd : second.periodEnd = first.periodEnd

structure SameRunColumns (first second : EvaluationRun) : Prop where
  assetId : second.assetId = first.assetId
  evalName : second.evalName = first.evalName
  periodStart : second.periodStart = first.periodStart
  periodEnd : second.periodEnd = first.periodEnd

structure KeepsColumns (first second : Database) : Prop where
  evaluation : forall id row, first.evaluations.find id = some row -> Exists fun other =>
    second.evaluations.find id = some other ∧ SameColumns row other
  run : forall id run, first.runs.find id = some run -> Exists fun other =>
    second.runs.find id = some other ∧ SameRunColumns run other

theorem SameColumns.refl (row : SLOEvaluation) : SameColumns row row :=
  ⟨rfl, rfl, rfl, rfl, rfl, rfl⟩

theorem SameRunColumns.refl (run : EvaluationRun) : SameRunColumns run run :=
  ⟨rfl, rfl, rfl, rfl⟩

theorem KeepsColumns.refl (db : Database) : KeepsColumns db db :=
  ⟨fun _ row found => ⟨row, found, .refl row⟩, fun _ run found => ⟨run, found, .refl run⟩⟩

theorem KeepsColumns.trans {first second third : Database} (one : KeepsColumns first second)
    (two : KeepsColumns second third) : KeepsColumns first third := by
  constructor
  · intro id row found
    rcases one.evaluation id row found with ⟨middle, foundMiddle, same⟩
    rcases two.evaluation id middle foundMiddle with ⟨last, foundLast, next⟩
    exact ⟨last, foundLast, next.evaluationId.trans same.evaluationId, next.sloName.trans same.sloName,
      next.assetId.trans same.assetId, next.evaluationName.trans same.evaluationName,
      next.periodStart.trans same.periodStart, next.periodEnd.trans same.periodEnd⟩
  · intro id run found
    rcases one.run id run found with ⟨middle, foundMiddle, same⟩
    rcases two.run id middle foundMiddle with ⟨last, foundLast, next⟩
    exact ⟨last, foundLast, next.assetId.trans same.assetId, next.evalName.trans same.evalName,
      next.periodStart.trans same.periodStart, next.periodEnd.trans same.periodEnd⟩

section Kept

variable {first second : Database} (keeps : KeepsColumns first second)

include keeps

theorem KeepsColumns.aligned {row other : SLOEvaluation} (aligned : Aligned first row)
    (same : SameColumns row other) : Aligned second other := by
  rcases aligned with ⟨run, found, asset, name, periodStart, periodEnd⟩
  rcases keeps.run _ run found with ⟨later, foundLater, sameRun⟩
  refine ⟨later, same.evaluationId ▸ foundLater, ?_, ?_, ?_, ?_⟩
  · exact sameRun.assetId.trans (asset.trans same.assetId.symm)
  · exact sameRun.evalName.trans (name.trans same.evaluationName.symm)
  · exact sameRun.periodStart.trans (periodStart.trans same.periodStart.symm)
  · exact sameRun.periodEnd.trans (periodEnd.trans same.periodEnd.symm)

theorem KeepsColumns.attributed {row : ChangePointRow} (attributed : Attributed first row) :
    Attributed second row := by
  rcases attributed with ⟨run, found, asset, periodStart, periodEnd⟩
  rcases Option.bind_eq_some_iff.mp found with ⟨id, isId, foundRun⟩
  rcases keeps.run id run foundRun with ⟨later, foundLater, same⟩
  refine ⟨later, ?_, same.assetId.trans asset, same.periodStart.trans periodStart, ?_⟩
  · rw [isId]
    exact foundLater
  · rw [same.periodEnd, periodEnd]

theorem KeepsColumns.fitsEvaluation {id : Nat} {fragment : TrendColumnFragment}
    (fits : FitsEvaluation first id fragment) : FitsEvaluation second id fragment := by
  rcases fits with ⟨isId, evaluation, found, sloName, periodStart, periodEnd, name⟩
  rcases keeps.evaluation id evaluation found with ⟨later, foundLater, same⟩
  exact ⟨isId, later, foundLater, sloName.trans same.sloName.symm,
    periodStart.trans same.periodStart.symm, periodEnd.trans same.periodEnd.symm,
    name.trans same.evaluationName.symm⟩

theorem KeepsColumns.fitsRun {id : Nat} {fragment : HeatmapColumnFragment}
    (fits : FitsRun first id fragment) : FitsRun second id fragment := by
  rcases fits with ⟨run, found, cells⟩
  rcases keeps.run id run found with ⟨later, foundLater, same⟩
  have sameId : later.id = run.id :=
    (find_key foundLater).trans (find_key found).symm
  refine ⟨later, foundLater, fun part member cell inside => ?_⟩
  have here := cells part member cell inside
  refine ⟨here.evaluationId.trans sameId.symm, here.periodStart.trans same.periodStart.symm,
    here.unmarked, ?_⟩
  rcases here.evaluation with ⟨evaluation, foundEvaluation, ofRun, isSlo⟩
  rcases keeps.evaluation _ evaluation foundEvaluation with ⟨other, foundOther, sameColumns⟩
  exact ⟨other, foundOther, (sameColumns.evaluationId.trans ofRun).trans sameId.symm,
    sameColumns.sloName.trans isSlo⟩

end Kept

/-! ## Each kind of step -/

section Worker

variable {settings : Worker.Settings} {w next : Worker.World} {action : Worker.Action}

theorem rowAfter_columns (write : Option Worker.Write) (row : SLOEvaluation) :
    (Worker.rowAfter write row).assetId = row.assetId ∧
      (Worker.rowAfter write row).periodStart = row.periodStart ∧
      (Worker.rowAfter write row).periodEnd = row.periodEnd := by
  cases write with
  | none => exact ⟨rfl, rfl, rfl⟩
  | some write =>
      unfold Worker.rowAfter
      dsimp only
      split
      · cases write.change with
        | completed values indicatorRows => cases indicatorRows <;> exact ⟨rfl, rfl, rfl⟩
        | _ => exact ⟨rfl, rfl, rfl⟩
      · exact ⟨rfl, rfl, rfl⟩

theorem rowAfter_sameColumns (placed : WorldPlaced w) (action : Worker.Action) {row : SLOEvaluation}
    (stored : row ∈ w.db.evaluations.rows) :
    SameColumns row (Worker.rowAfter (action.write settings w) row) := by
  have samePlace : place (Worker.rowAfter (action.write settings w) row) = place row :=
    placed.rowAfter_place action stored
  rcases rowAfter_columns (action.write settings w) row with ⟨asset, periodStart, periodEnd⟩
  exact ⟨congrArg Prod.fst samePlace, congrArg Prod.snd samePlace, asset,
    (ChangePoints.rowAfter_names _ row).2, periodStart, periodEnd⟩

theorem KeepsColumns.worker (placed : WorldPlaced w)
    (stepped : Worker.step settings w action = some next) : KeepsColumns w.db next.db := by
  constructor
  · intro id row found
    exact ⟨_, Worker.step_find stepped found,
      rowAfter_sameColumns placed action (find_mem found)⟩
  · intro id run found
    exact ⟨run, (ChangePoints.worker_keepsRuns stepped).run id run found, .refl run⟩

theorem aligned_worker (placed : WorldPlaced w)
    (aligned : forall evaluation, evaluation ∈ w.db.evaluations.rows -> Aligned w.db evaluation)
    (onAsset : (Event.work action).OnAsset)
    (stepped : Worker.step settings w action = some next) {evaluation : SLOEvaluation}
    (stored : evaluation ∈ next.db.evaluations.rows) : Aligned next.db evaluation := by
  rcases Worker.step_find_origin stepped (find_of_mem stored) with
    ⟨old, older, same⟩ | ⟨_, triggerId, request, isTrigger, created⟩
  · have inTable := find_mem older
    rw [same]
    exact (KeepsColumns.worker placed stepped).aligned (aligned old inTable)
      (rowAfter_sameColumns placed action inTable)
  · subst isTrigger
    rcases created with ⟨ctx, assetTags, listed, rowIs⟩
    cases Worker.step_cases stepped with
    | trigger _ _ db committed process processIs fresh =>
        rcases (ChangePoints.triggerCommit_runs committed).2 with
          ⟨run, found, name, asset, periodStart, periodEnd⟩
        have sameAsset : ctx.assetId = request.assetId := onAsset _ listed
        rw [rowIs]
        exact ⟨run, found, asset.trans sameAsset.symm, name, periodStart, periodEnd⟩

end Worker

section ReEvaluate

variable {assigned : Nat -> List String} {clock : Nat -> Instant} {db next : Database}
  {request : ReEvaluation.ReEvaluateRequest} {response : ReEvaluation.ReEvaluateResponse}
  (ran : ReEvaluation.reEvaluate assigned clock db request = .ok (next, response))

include ran

theorem reEvaluate_sameColumns :
    next.runs = db.runs ∧
      List.Forall₂ (fun before after : SLOEvaluation =>
        after.id = before.id ∧ SameColumns before after)
        db.evaluations.rows next.evaluations.rows := by
  rcases ReEvaluation.reEvaluate_rewrites ran with ⟨others, rewrites⟩
  refine ⟨by rw [others], rewrites.imp fun before after rewritten => ?_⟩
  have history := ReEvaluation.Rewrites.history rewritten
  exact ⟨history.id, (ReEvaluation.Rewrites.keepsPoints rewritten).evaluationId, history.sloName,
    history.assetId, history.evaluationName, history.periodStart, history.periodEnd⟩

theorem KeepsColumns.reEvaluate : KeepsColumns db next := by
  rcases reEvaluate_sameColumns ran with ⟨runs, rowByRow⟩
  constructor
  · intro id row found
    rcases find_related (fun _ _ here => here.1) rowByRow found with ⟨other, foundOther, here⟩
    exact ⟨other, foundOther, here.2⟩
  · intro id run found
    exact ⟨run, runs ▸ found, .refl run⟩

theorem aligned_reEvaluate
    (aligned : forall evaluation, evaluation ∈ db.evaluations.rows -> Aligned db evaluation)
    {evaluation : SLOEvaluation} (stored : evaluation ∈ next.evaluations.rows) :
    Aligned next evaluation := by
  rcases mem_related (reEvaluate_sameColumns ran).2.flip stored with ⟨old, older, same⟩
  exact (KeepsColumns.reEvaluate ran).aligned (aligned old older) same.2

end ReEvaluate

theorem KeepsColumns.finalizeRun (db : Database) (runId : Nat) (values : RunValues) :
    KeepsColumns db { db with runs := finalizeRun db.runs runId values } := by
  refine ⟨fun id row found => ⟨row, found, .refl row⟩, fun id run found => ?_⟩
  refine ⟨_, (find_finalizeRun db.runs runId values id).trans (by rw [found]; rfl), ?_⟩
  dsimp only
  split
  · exact ⟨rfl, rfl, rfl, rfl⟩
  · exact .refl run

/-- What a phase records is about the evaluation of its history that stands at the position
of the candidate. -/
theorem attributed_of_detected {t : ChangePoints.Tables} {engine : ChangePoints.DivisiveEngine}
    {resolve : SLOObjectiveRow -> ChangePoints.ResolvedConfig}
    {snapshot : Worker.EvaluationSnapshot} {sloDef : SLODefinition}
    {cpInputs : ChangePoints.ChangePointInputs} {batch : ChangePoints.DetectedBatch}
    {candidate : ChangePoints.ChangePointResult}
    (aligned : forall evaluation, evaluation ∈ t.evaluations.rows ->
      Aligned t.toDatabase evaluation)
    (loaded : ChangePoints.loadChangePointInputs t resolve snapshot sloDef = some (some cpInputs))
    (member : batch ∈ ChangePoints.detectChangePointsForObjectives engine cpInputs.sharedHistory
      cpInputs.enabledObjectives)
    (detected : candidate ∈ batch.detected) (status : String) :
    Attributed t.toDatabase (changePointRow status
      ((ChangePoints.batchContext snapshot cpInputs.comparisonName batch).row candidate)) := by
  rcases ChangePoints.loadChangePointInputs_eq_some loaded with ⟨_, _, history⟩
  rcases List.mem_filterMap.mp member with ⟨objective, _, ran⟩
  rcases ChangePoints.detectForObjective_eq_some ran with ⟨_, _, isSeries, liesOn⟩
  have onSeries := liesOn candidate detected
  unfold ChangePoints.ChangePointResult.LiesOn at onSeries
  rw [isSeries] at onSeries
  rcases ChangePoints.extractMetricSeries_at onSeries with
    ⟨evaluation, inHistory, timestamp, periodEnd, runId⟩
  rw [<- isSeries] at periodEnd runId
  rcases history evaluation inHistory with ⟨stored, _, sameAsset, _⟩
  rcases aligned evaluation stored with ⟨run, found, asset, _, runStart, runEnd⟩
  refine ⟨run, ?_, asset.trans sameAsset, runStart.trans timestamp, ?_⟩
  · change (some (batch.series.evaluationRunIds[candidate.position]?.getD snapshot.parentRunId)).bind
      t.runs.find = some run
    rw [runId]
    exact found
  · change some run.periodEnd =
      batch.series.periodEnds[candidate.position]?.getD (some snapshot.periodEnd)
    rw [periodEnd, runEnd]
    rfl

/-! ## Every run -/

structure Traceable (s : TriagedInstallation) : Prop where
  world : WorldPlaced s.detected.world
  aligned : forall evaluation, evaluation ∈ s.detected.world.db.evaluations.rows ->
    Aligned s.detected.world.db evaluation
  attributed : forall changePoint, changePoint ∈ s.detected.changePoints -> forall status,
    Attributed s.detected.world.db (changePointRow status changePoint)

theorem Traceable.act {settings : Worker.Settings} {s : TriagedInstallation}
    {action : ChangePoints.Action} {detected : ChangePoints.Installation} (traceable : Traceable s)
    (onAsset : actsOnAsset action = true)
    (stepped : ChangePoints.step settings s.detected action = some detected) :
    Traceable { s with detected } ∧ KeepsColumns s.detected.world.db detected.world.db := by
  cases action with
  | worker action =>
      rcases Option.bind_eq_some_iff.mp stepped with ⟨world, worked, same⟩
      cases same
      have triggers : (Event.work action).OnAsset := of_decide_eq_true onAsset
      have keeps := KeepsColumns.worker traceable.world worked
      refine ⟨⟨traceable.world.work worked triggers, fun evaluation stored => ?_,
        fun changePoint member status => ?_⟩, keeps⟩
      · exact aligned_worker traceable.world traceable.aligned triggers worked stored
      · exact keeps.attributed (traceable.attributed changePoint member status)
  | changePoints evalId sloVersion resolve engine =>
      rcases Option.bind_eq_some_iff.mp stepped with ⟨⟨snapshot, sloDef⟩, _, stepped⟩
      rcases Option.bind_eq_some_iff.mp stepped with ⟨t, ran, same⟩
      cases same
      refine ⟨⟨traceable.world, traceable.aligned, fun changePoint member status => ?_⟩, .refl _⟩
      rcases ChangePoints.runChangePointPhase_eq_some ran with unchanged | ⟨cpInputs, loaded, persisted⟩
      · rw [unchanged] at member
        exact traceable.attributed changePoint member status
      · rcases ChangePoints.mem_persistDetectedChangePoints persisted member with
          before | ⟨batch, inBatches, candidate, isDetected, isRow⟩
        · exact traceable.attributed changePoint before status
        · rw [isRow]
          exact attributed_of_detected traceable.aligned loaded inBatches
            isDetected status
  | reEvaluate assigned clock request =>
      rcases Option.bind_eq_some_iff.mp stepped with ⟨⟨db, response⟩, outcome, same⟩
      cases same
      have ran := Fallible.toOption_eq_some.mp outcome
      have keeps := KeepsColumns.reEvaluate ran
      have maintained : Maintenance.step s.detected.world.db (.reEvaluate assigned clock request) =
          some db := by
        change (ReEvaluation.reEvaluate assigned clock _ request).toOption.map Prod.fst = some db
        rw [outcome]
        rfl
      refine ⟨⟨traceable.world.maintain maintained, fun evaluation stored => ?_,
        fun changePoint member status => ?_⟩, keeps⟩
      · exact aligned_reEvaluate ran traceable.aligned stored
      · rcases List.mem_map.mp member with ⟨before, stored, isNull⟩
        rw [<- isNull]
        exact keeps.attributed (traceable.attributed before stored status)

theorem Traceable.step {settings : Worker.Settings} {s next : TriagedInstallation}
    {event : TriagedEvent} (traceable : Traceable s)
    (stepped : triagedStep settings s event = some next) :
    Traceable next ∧ KeepsColumns s.detected.world.db next.detected.world.db := by
  cases event with
  | act action =>
      unfold triagedStep at stepped
      dsimp only at stepped
      split at stepped
      · rename_i onAsset
        rcases Option.map_eq_some_iff.mp stepped with ⟨detected, acted, same⟩
        subst same
        exact traceable.act onAsset acted
      · cases stepped
  | finalize runId values =>
      cases stepped
      have keeps := KeepsColumns.finalizeRun s.detected.world.db runId values
      refine ⟨⟨⟨⟨traceable.world.db.places, fun row member => ?_⟩, traceable.world.named,
        traceable.world.measured⟩, fun evaluation stored => ?_, fun changePoint member status => ?_⟩,
        keeps⟩
      · rcases Option.ne_none_iff_exists'.mp (traceable.world.db.known row member) with ⟨run, found⟩
        rcases keeps.run _ run found with ⟨later, foundLater, _⟩
        rw [show (s.setRuns _).detected.world.db.runs.find row.evaluationId = some later from foundLater]
        exact Option.some_ne_none later
      · exact keeps.aligned (traceable.aligned evaluation stored) (.refl evaluation)
      · exact keeps.attributed (traceable.attributed changePoint member status)
  | triage changePointId status =>
      unfold triagedStep at stepped
      dsimp only at stepped
      split at stepped
      · cases stepped
        exact ⟨⟨traceable.world, traceable.aligned, traceable.attributed⟩, .refl _⟩
      · cases stepped
  | bulkTriage ids status =>
      cases stepped
      exact ⟨⟨traceable.world, traceable.aligned, traceable.attributed⟩, .refl _⟩

theorem TriagedInstallation.Initial.traceable {s : TriagedInstallation} (initial : s.Initial) :
    Traceable s := by
  refine ⟨WorldPlaced.of_initial initial.detected.world, fun evaluation stored => ?_,
    fun changePoint member => ?_⟩
  · rw [initial.detected.world.noEvaluations] at stored
    exact absurd stored List.not_mem_nil
  · rw [initial.detected.noChangePoints] at member
    exact absurd member List.not_mem_nil

section Runs

variable {settings : Worker.Settings} {start final : TriagedInstallation}
  {events : List TriagedEvent}

theorem Traceable.exec (traceable : Traceable start)
    (ran : exec (triagedStep settings) start events = some final) :
    Traceable final ∧ KeepsColumns start.detected.world.db final.detected.world.db := by
  let invariant (s : TriagedInstallation) : Prop :=
    Traceable s ∧ KeepsColumns start.detected.world.db s.detected.world.db
  have holds : invariant start := ⟨traceable, .refl _⟩
  have kept : invariant final := by
    refine exec_preserves ?_ holds ran
    rintro s event next ⟨here, keeps⟩ stepped
    rcases here.step stepped with ⟨there, keepsOn⟩
    exact ⟨there, keeps.trans keepsOn⟩
  exact kept

def BuiltDuring {Fragment : Type} (settings : Worker.Settings) (start : TriagedInstallation)
    (events : List TriagedEvent) (build : Tables -> Nat -> Option Fragment)
    (cache : Cache Nat Fragment) : Prop :=
  forall id fragment, cache id = some fragment -> Exists fun before => Exists fun state =>
    Exists fun columns : PresentationColumns => before <+: events ∧
      exec (triagedStep settings) start before = some state ∧
      build (state.tables columns).toTables id = some fragment

structure MarkersAgree (settings : Worker.Settings) (start : TriagedInstallation)
    (events : List TriagedEvent) (final : TriagedInstallation) : Prop where
  trend : forall (columns : PresentationColumns) (request : TrendRequest) (metricName : String)
    (point : TrendPoint),
    point ∈ getTrendByAssetSlo (final.tables columns).toTrendTables request metricName ->
      point.Marked (final.tables columns).toTrendTables request metricName
  trends : forall (columns : PresentationColumns) (cache : TrendCache),
    BuiltDuring settings start events trendFragment cache ->
      forall (request : TrendRequest) (metricName : String) (point : TrendPoint),
        point ∈ ((getSloTrends (final.tables columns).toTrendTables cache request).1.lookup
          metricName).getD [] -> point.Marked (final.tables columns).toTrendTables request metricName
  heatmap : forall (columns : PresentationColumns) (cache left : HeatmapCache),
    BuiltDuring settings start events columnFragment cache ->
      forall (request : GroupedHeatmapRequest) (grouped : GroupedMetricHeatmapResponse),
        getGroupedMetricHeatmapNew (final.tables columns) cache request = .ok (grouped, left) ->
          forall group, group ∈ grouped.groups -> forall cell, cell ∈ group.cells ->
            Exists fun asset =>
              Worker.findAsset final.detected.world.db request.assetName = some asset ∧
                cell.Marked (final.tables columns).toTrendTables asset.id group.sloName

def SingleChangePoints (s : TriagedInstallation) : Prop :=
  (s.changePointRows.map (changePointSubject s.detected.world.db)).Nodup

instance (s : TriagedInstallation) : Decidable (SingleChangePoints s) :=
  inferInstanceAs (Decidable (List.Nodup _))

theorem BuiltDuring.fits {Fragment : Type} {build : Tables -> Nat -> Option Fragment}
    {cache : Cache Nat Fragment} {Fits : Database -> Nat -> Fragment -> Prop}
    (builtDuring : BuiltDuring settings start events build cache) (traceable : Traceable start)
    (ran : exec (triagedStep settings) start events = some final)
    (built : forall {tables : Tables} {id : Nat} {fragment : Fragment},
      build tables id = some fragment -> Fits tables.toDatabase id fragment)
    (keeps : forall {first second : Database} {id : Nat} {fragment : Fragment},
      KeepsColumns first second -> Fits first id fragment -> Fits second id fragment)
    (id : Nat) (fragment : Fragment) (found : cache id = some fragment) :
    Fits final.detected.world.db id fragment := by
  rcases builtDuring id fragment found with ⟨before, state, columns, ⟨rest, isRun⟩, reached, build⟩
  rw [<- isRun, exec_append, reached] at ran
  exact keeps ((traceable.exec reached).1.exec ran).2 (built build)

/-- In every state of every run, a marker is on exactly the points of its change point, in
the trends and in the heatmap, with any fragments that were cached on the way. -/
theorem markers_agree (initial : start.Initial)
    (ran : exec (triagedStep settings) start events = some final)
    (single : SingleChangePoints final) : MarkersAgree settings start events final := by
  have traceable := (initial.traceable.exec ran).1
  have attribution : forall columns, Attribution (final.tables columns).toTrendTables := by
    refine fun columns => ⟨traceable.aligned, fun row member => ?_, single⟩
    rcases List.mem_map.mp member with ⟨⟨changePoint, id⟩, indexed, isRow⟩
    rw [<- isRow]
    exact traceable.attributed changePoint (List.fst_mem_of_mem_zipIdx indexed) _
  refine ⟨fun columns request metricName point member => ?_,
    fun columns cache builtDuring request metricName point member => ?_,
    fun columns cache left builtDuring request grouped returned group listed cell inGroup => ?_⟩
  · exact (attribution columns).getTrendByAssetSlo member
  · exact (attribution columns).getSloTrends (builtDuring.fits initial.traceable ran
      fitsEvaluation_of_built fun keeps => keeps.fitsEvaluation) member
  · exact (attribution columns).getGroupedMetricHeatmap (builtDuring.fits initial.traceable ran
      fitsRun_of_built fun keeps => keeps.fitsRun) returned listed inGroup

end Runs

/-! ## A change point that is hidden

The phase of the fourth hour finds the shift of the third one, which is then hidden.
-/

namespace Sample

def shift : TriagedInstallation :=
  { detected := ChangePoints.Sample.installation }

def fourHours : List TriagedEvent :=
  ChangePoints.Sample.fourHours.map TriagedEvent.act ++
    [.finalize 3 { result := some .pass, achievedPoints := some 1, totalPoints := some 1 }]

def latencies : PresentationColumns :=
  { sliValues := [10, 10, 50, 50].zipIdx.map fun (value, hour) =>
      { sloEvaluationId := 11 + hour, metricName := "latency", value } }

def request : TrendRequest :=
  { assetId := 1, sloName := "checkout", fromTs := 0 }

def markers (s : TriagedInstallation) : List (Option String) × Option (List (Option String)) :=
  let direction : Option ChangePointMarker -> Option String := Option.map (·.direction)
  ((getTrendByAssetSlo (s.tables latencies).toTrendTables request "latency").map
      fun point => direction point.changePoint,
    (getGroupedMetricHeatmapNew (s.tables latencies) (fun _ => none)
        { assetName := "shop" }).toOption.map fun (grouped, _) =>
      grouped.groups.flatMap fun group => group.cells.map fun cell => direction cell.changePoint)

theorem shift_initial : shift.Initial :=
  ⟨⟨Worker.Sample.world_initial, rfl, rfl⟩, rfl⟩

end Sample

/-- The shift is marked in its hour, and nowhere once it is hidden. -/
theorem markers_agree_sample :
    (Exists fun final => exec (triagedStep {}) Sample.shift Sample.fourHours = some final ∧
      Sample.markers final = ([none, none, some "regression", none], some [some "regression"]) ∧
      MarkersAgree {} Sample.shift Sample.fourHours final) ∧
    Exists fun final =>
      exec (triagedStep {}) Sample.shift (Sample.fourHours ++ [.triage 0 "hidden"]) = some final ∧
        Sample.markers final = ([none, none, none, none], some [none]) ∧
        MarkersAgree {} Sample.shift (Sample.fourHours ++ [.triage 0 "hidden"]) final := by
  have ran : ((exec (triagedStep {}) Sample.shift Sample.fourHours).map fun final =>
      (Sample.markers final, decide (SingleChangePoints final))) =
        some (([none, none, some "regression", none], some [some "regression"]), true) := by
    decide +kernel
  have hidden : ((exec (triagedStep {}) Sample.shift
      (Sample.fourHours ++ [.triage 0 "hidden"])).map fun final =>
        (Sample.markers final, decide (SingleChangePoints final))) =
          some (([none, none, none, none], some [none]), true) := by
    decide +kernel
  rcases Option.map_eq_some_iff.mp ran with ⟨final, reached, shown⟩
  rcases Option.map_eq_some_iff.mp hidden with ⟨after, alsoReached, notShown⟩
  exact ⟨⟨final, reached, congrArg Prod.fst shown, markers_agree Sample.shift_initial reached
      (of_decide_eq_true (congrArg Prod.snd shown))⟩,
    after, alsoReached, congrArg Prod.fst notShown, markers_agree Sample.shift_initial alsoReached
      (of_decide_eq_true (congrArg Prod.snd notShown))⟩

end Presentation
end Tropek
