import Tropek.ChangePoints.Phase
import Tropek.Worker.Transactions

namespace Tropek
namespace ChangePoints

open Library Engine Store Worker ReEvaluation TransitionSystem KeyedTable

/-!
# Change points over the life of an installation

Workers evaluate, change point phases record what they detect, and re-evaluations
rewrite evaluations, in any order.  A change point is recorded once as long as every
later lookup finds it.  The lookups go through the indicator row of the evaluation that
found it, so it is lost to them once a re-evaluation replaces that row.
-/

/-! ## The system -/

structure Installation where
  world : World
  indicatorKeys : IndicatorKeys := .empty
  changePoints : List ChangePoint := []

def Installation.tables (s : Installation) : Tables :=
  { s.world.db with indicatorKeys := s.indicatorKeys, changePoints := s.changePoints }

/-- What happens to evaluations and change points.  `changePoints`: the phase of an
evaluation whose job has loaded the given version of its SLO. -/
inductive Action where
  | worker (action : Worker.Action)
  | changePoints (evalId : Nat) (sloVersion : Int) (resolve : SLOObjectiveRow -> ResolvedConfig)
      (engine : DivisiveEngine)
  | reEvaluate (assigned : Nat -> List String) (clock : Nat -> Instant) (request : ReEvaluateRequest)

def Installation.phaseInput (s : Installation) (evalId : Nat) (sloVersion : Int) :
    Option (EvaluationSnapshot × SLODefinition) := do
  let evaluation <- s.world.db.evaluations.find evalId
  let sloDef <- s.world.db.sloDefinitions.find (evaluation.sloName, sloVersion)
  return (snapshotOf s.world.db evaluation, sloDef)

def step (settings : Settings) (s : Installation) : Action -> Option Installation
  | .worker action => do
      let world <- Worker.step settings s.world action
      return { s with world, indicatorKeys := identify s.indicatorKeys world.db.evaluations }
  | .changePoints evalId sloVersion resolve engine => do
      let (snapshot, sloDef) <- s.phaseInput evalId sloVersion
      let t <- runChangePointPhase engine resolve s.tables snapshot sloDef
      return { s with changePoints := t.changePoints }
  | .reEvaluate assigned clock request => do
      let (db, response) <- (reEvaluate assigned clock s.world.db request).toOption
      let t := s.tables.deleteIndicatorRows (replacedEvaluations request response)
      return { world := { s.world with db }
               indicatorKeys := identify t.indicatorKeys db.evaluations
               changePoints := t.changePoints }

structure Installation.Initial (s : Installation) : Prop where
  world : s.world.Initial
  noKeys : s.indicatorKeys = .empty
  noChangePoints : s.changePoints = []

/-! ## What is claimed of every state -/

/-- The series of a change point: the name of the run at which the metric shifted. -/
def Tables.seriesOf (t : Tables) (changePoint : ChangePoint) : Option String :=
  (changePoint.evaluationRunId.bind t.runs.find).map EvaluationRun.evalName

/-- What a change point is about: a metric of a series that shifts at an instant. -/
structure Shift where
  assetId : Nat
  sloName : String
  metricName : String
  series : Option String
  periodStart : Instant
deriving DecidableEq

def Tables.shiftOf (t : Tables) (changePoint : ChangePoint) : Shift :=
  { assetId := changePoint.assetId, sloName := changePoint.sloName,
    metricName := changePoint.metricName, series := t.seriesOf changePoint,
    periodStart := changePoint.periodStart }

/-- No two change points are about the same shift, and a lookup around the period of a
change point finds it in its series. -/
structure RecordedOnce (t : Tables) : Prop where
  unique : (t.changePoints.map t.shiftOf).Nodup
  found : forall changePoint, changePoint ∈ t.changePoints -> Exists fun name =>
    t.seriesOf changePoint = some name ∧
      forall nearbyTimestamps, changePoint.periodStart ∈ nearbyTimestamps ->
        hasNearbyChangePoint t
          { assetId := changePoint.assetId, sloName := changePoint.sloName,
            metricName := changePoint.metricName, evaluationName := some name }
          nearbyTimestamps = true

/-! ## The condition on a step -/

def Installation.detectedBatches (s : Installation) (evalId : Nat) (sloVersion : Int)
    (resolve : SLOObjectiveRow -> ResolvedConfig) (engine : DivisiveEngine) : List DetectedBatch :=
  match s.phaseInput evalId sloVersion with
  | none => []
  | some (snapshot, sloDef) =>
      match loadChangePointInputs s.tables resolve snapshot sloDef with
      | some (some cpInputs) =>
          detectChangePointsForObjectives engine cpInputs.sharedHistory cpInputs.enabledObjectives
      | _ => []

/-- The evaluations whose indicator rows a request would replace in a state. -/
def Installation.replaced (s : Installation) (assigned : Nat -> List String)
    (clock : Nat -> Instant) (request : ReEvaluateRequest) : List Nat :=
  match reEvaluate assigned clock s.world.db request with
  | .error _ => []
  | .ok (_, response) => replacedEvaluations request response

def Installation.referenced (s : Installation) (changePoint : ChangePoint) : Option Nat :=
  (changePoint.indicatorResultId.bind s.indicatorKeys.find).map IndicatorKey.sloEvaluationId

/-- A phase detects at most one change point for each instant in a metric, and a
re-evaluation replaces no indicator row that a change point references. -/
def Spares (s : Installation) : Action -> Prop
  | .worker _ => True
  | .changePoints evalId sloVersion resolve engine =>
      forall batch, batch ∈ s.detectedBatches evalId sloVersion resolve engine ->
        (batch.detected.map ChangePointResult.timestamp).Nodup
  | .reEvaluate assigned clock request =>
      forall changePoint, changePoint ∈ s.changePoints ->
        forall evalId, evalId ∈ s.replaced assigned clock request ->
          s.referenced changePoint ≠ some evalId

instance (s : Installation) : forall action, Decidable (Spares s action)
  | .worker _ => .isTrue trivial
  | .changePoints evalId sloVersion resolve engine =>
      inferInstanceAs (Decidable (forall batch,
        batch ∈ s.detectedBatches evalId sloVersion resolve engine ->
          (batch.detected.map ChangePointResult.timestamp).Nodup))
  | .reEvaluate assigned clock request =>
      inferInstanceAs (Decidable (forall changePoint, changePoint ∈ s.changePoints ->
        forall evalId, evalId ∈ s.replaced assigned clock request ->
          s.referenced changePoint ≠ some evalId))

/-! ## Names of runs -/

def RunsNamed (db : Database) : Prop :=
  forall evaluation, evaluation ∈ db.evaluations.rows -> Exists fun run =>
    db.runs.find evaluation.evaluationId = some run ∧ run.evalName = evaluation.evaluationName

structure KeepsRuns (first second : Database) : Prop where
  evaluation : forall id row, first.evaluations.find id = some row -> Exists fun other =>
    second.evaluations.find id = some other ∧ other.evaluationId = row.evaluationId
  run : forall id run, first.runs.find id = some run -> second.runs.find id = some run

variable {next db : Database} {run : EvaluationRun} {request : TriggerRequest}
  {action : Worker.Action} {response : ReEvaluateResponse} {clock : Nat -> Instant}
  {assigned : Nat -> List String} {t : Tables}

theorem createPending_runs {params : EvalCreateParams} {id : Nat}
    (created : createPending db params id = some next) {runId : Nat}
    (found : db.runs.find runId = some run) : next.runs.find runId = some run := by
  unfold createPending at created
  dsimp only at created
  split at created
  · cases created
  · split at created
    · cases created
      dsimp only
      split
      · rename_i missing
        have apart : runId ≠ params.evaluationId := by
          intro same
          rw [same, missing] at found
          cases found
        rw [find_insert, if_neg apart]
        exact found
      · exact found
    · cases created

theorem createAll_runs {contexts : List (Nat × TriggerContext)}
    (created : createAll request db contexts = some next) {runId : Nat}
    (found : db.runs.find runId = some run) : next.runs.find runId = some run := by
  induction contexts generalizing db with
  | nil =>
      cases created
      exact found
  | cons head rest ih =>
      rcases createAll_cons created with ⟨middle, first, created⟩
      exact ih created (createPending_runs first found)

theorem triggerCommit_runs (committed : triggerCommit request db = some next) :
    (forall id run, db.runs.find id = some run -> next.runs.find id = some run) ∧
      Exists fun run => next.runs.find request.runId = some run ∧ run.evalName = request.evalName ∧
        run.assetId = request.assetId ∧ run.periodStart = request.periodStart ∧
        run.periodEnd = request.periodEnd := by
  unfold triggerCommit at committed
  split at committed
  · rename_i fresh
    have kept : forall id run, (db.runs.insert
          { id := request.runId, assetId := request.assetId, evalName := request.evalName,
            compareTo := request.compareTo, periodStart := request.periodStart,
            periodEnd := request.periodEnd, status := .pending } fresh).find id = some run ->
        next.runs.find id = some run :=
      fun _ _ found => createAll_runs committed found
    constructor
    · intro id run found
      have apart : id ≠ request.runId := by
        intro same
        rw [same, fresh] at found
        cases found
      refine kept id run ?_
      rw [find_insert, if_neg apart]
      exact found
    · have created := kept request.runId _ ((find_insert _ _ fresh _).trans (if_pos rfl))
      exact ⟨_, created, rfl, rfl, rfl, rfl⟩
  · cases committed

theorem rowAfter_names (write : Option Write) (row : SLOEvaluation) :
    (rowAfter write row).evaluationId = row.evaluationId ∧
      (rowAfter write row).evaluationName = row.evaluationName := by
  cases write with
  | none => exact ⟨rfl, rfl⟩
  | some write =>
      unfold rowAfter
      dsimp only
      split
      · cases write.change with
        | completed values indicatorRows => cases indicatorRows <;> exact ⟨rfl, rfl⟩
        | _ => exact ⟨rfl, rfl⟩
      · exact ⟨rfl, rfl⟩

theorem worker_keepsRuns {settings : Settings} {w next : World}
    (stepped : Worker.step settings w action = some next) : KeepsRuns w.db next.db := by
  refine ⟨fun id row found => ⟨_, step_find stepped found, (rowAfter_names _ row).1⟩, ?_⟩
  by_cases triggered : Exists fun triggerId => Exists fun request =>
      action = .trigger triggerId request
  · rcases triggered with ⟨triggerId, request, same⟩
    subst same
    cases step_cases stepped with
    | trigger _ _ db committed process processIs fresh => exact (triggerCommit_runs committed).1
  · rw [step_db stepped fun triggerId request same => triggered ⟨triggerId, request, same⟩]
    exact fun _ _ found => found

theorem worker_runsNamed {settings : Settings} {w next : World} (named : RunsNamed w.db)
    (stepped : Worker.step settings w action = some next) : RunsNamed next.db := by
  intro evaluation stored
  rcases step_find_origin stepped (find_of_mem stored) with
    ⟨old, older, same⟩ | ⟨_, triggerId, request, isTrigger, created⟩
  · rcases named old (find_mem older) with ⟨run, found, sameName⟩
    rw [same, (rowAfter_names _ old).1, (rowAfter_names _ old).2]
    exact ⟨run, (worker_keepsRuns stepped).run _ run found, sameName⟩
  · subst isTrigger
    rcases created with ⟨ctx, assetTags, _, rowIs⟩
    cases step_cases stepped with
    | trigger _ _ db committed process processIs fresh =>
        rcases (triggerCommit_runs committed).2 with ⟨run, found, sameName, _⟩
        rw [rowIs]
        exact ⟨run, found, sameName⟩

theorem reEvaluate_keepsRuns {request : ReEvaluateRequest}
    (ran : reEvaluate assigned clock db request = .ok (next, response)) : KeepsRuns db next := by
  rcases reEvaluate_rewrites ran with ⟨others, rewrites⟩
  refine ⟨fun id row found => ?_, fun id run found => by rw [others]; exact found⟩
  rcases find_related (fun _ _ rewritten => rewritten.history.id) rewrites found with
    ⟨other, stored, rewritten⟩
  exact ⟨other, stored, rewritten.keepsPoints.evaluationId⟩

theorem reEvaluate_runsNamed {request : ReEvaluateRequest} (named : RunsNamed db)
    (ran : reEvaluate assigned clock db request = .ok (next, response)) : RunsNamed next := by
  rcases reEvaluate_rewrites ran with ⟨others, rewrites⟩
  intro evaluation stored
  rcases mem_related rewrites.flip stored with ⟨old, older, rewritten⟩
  rcases named old older with ⟨run, found, sameName⟩
  have kept := Rewrites.keepsPoints rewritten
  rw [others, kept.evaluationId, (Rewrites.history rewritten).evaluationName]
  exact ⟨run, found, sameName⟩

/-! ## The invariant -/

/-- Every change point belongs to one series, by its run and by its indicator row. -/
structure Sound (t : Tables) : Prop where
  named : RunsNamed t.toDatabase
  attributed : forall changePoint, changePoint ∈ t.changePoints -> Exists fun name =>
    t.seriesOf changePoint = some name ∧
      changePoint.indicatorResultId.bind t.indicatorSeries = some name
  unique : (t.changePoints.map t.shiftOf).Nodup

theorem Tables.indicatorSeries_eq_some {id : Nat} {name : String} :
    t.indicatorSeries id = some name ↔
      Exists fun key => Exists fun evaluation => Exists fun run =>
        t.indicatorKeys.find id = some key ∧
          t.evaluations.find key.sloEvaluationId = some evaluation ∧
          t.runs.find evaluation.evaluationId = some run ∧ run.evalName = name := by
  constructor
  · intro found
    rcases Option.bind_eq_some_iff.mp found with ⟨key, keyFound, found⟩
    rcases Option.bind_eq_some_iff.mp found with ⟨evaluation, evaluationFound, found⟩
    rcases Option.bind_eq_some_iff.mp found with ⟨run, runFound, same⟩
    exact ⟨key, evaluation, run, keyFound, evaluationFound, runFound, Option.some.inj same⟩
  · rintro ⟨key, evaluation, run, keyFound, evaluationFound, runFound, same⟩
    unfold Tables.indicatorSeries
    rw [keyFound, Option.bind_eq_bind, Option.bind_some, evaluationFound, Option.bind_eq_bind,
      Option.bind_some, runFound, <- same]
    rfl

theorem Sound.recordedOnce (sound : Sound t) : RecordedOnce t := by
  refine ⟨sound.unique, fun changePoint member => ?_⟩
  rcases sound.attributed changePoint member with ⟨name, series, joined⟩
  refine ⟨name, series, fun nearbyTimestamps near => ?_⟩
  refine hasNearbyChangePoint_iff.mpr ⟨changePoint, List.mem_filter.mpr ⟨member, ?_⟩, near⟩
  exact (Tables.matches_iff rfl).mpr ⟨rfl, rfl, rfl, joined⟩

/-- Change points stay attributed when runs and evaluations stay, and the keys of the
rows that they reference do. -/
theorem Sound.of_keeps {next : Tables} (sound : Sound t)
    (keeps : KeepsRuns t.toDatabase next.toDatabase) (named : RunsNamed next.toDatabase)
    (sameChangePoints : next.changePoints = t.changePoints)
    (keysStay : forall changePoint, changePoint ∈ t.changePoints ->
      forall id key, changePoint.indicatorResultId = some id ->
      t.indicatorKeys.find id = some key -> next.indicatorKeys.find id = some key) :
    Sound next := by
  have series : forall changePoint, changePoint ∈ t.changePoints ->
      next.seriesOf changePoint = t.seriesOf changePoint := by
    intro changePoint member
    rcases sound.attributed changePoint member with ⟨name, series, _⟩
    rcases Option.map_eq_some_iff.mp series with ⟨run, found, same⟩
    rcases Option.bind_eq_some_iff.mp found with ⟨runId, isRun, stored⟩
    rw [series]
    unfold Tables.seriesOf
    rw [isRun, Option.bind_some, keeps.run runId run stored, Option.map_some, same]
  refine ⟨named, ?_, ?_⟩
  · rw [sameChangePoints]
    intro changePoint member
    rcases sound.attributed changePoint member with ⟨name, inSeries, joined⟩
    refine ⟨name, (series changePoint member).trans inSeries, ?_⟩
    rcases Option.bind_eq_some_iff.mp joined with ⟨id, isId, found⟩
    rcases Tables.indicatorSeries_eq_some.mp found with
      ⟨key, evaluation, run, keyFound, evaluationFound, runFound, same⟩
    rcases keeps.evaluation _ evaluation evaluationFound with ⟨other, otherFound, sameRun⟩
    rw [isId]
    refine Tables.indicatorSeries_eq_some.mpr ⟨key, other, run,
      keysStay changePoint member id key isId keyFound, otherFound, ?_, same⟩
    rw [sameRun]
    exact keeps.run _ run runFound
  · rw [sameChangePoints]
    have sameShifts : t.changePoints.map next.shiftOf = t.changePoints.map t.shiftOf := by
      refine List.map_congr_left fun changePoint member => ?_
      unfold Tables.shiftOf
      rw [series changePoint member]
    rw [sameShifts]
    exact sound.unique

/-! ## Phases -/

/-- What a phase hands to the write phase for one metric: candidates on a series of the
evaluation series, at different instants. -/
structure BatchFits (t : Tables) (context : PersistContext) (detected : List ChangePointResult) :
    Prop where
  recordedIn : t.indicatorSeries context.indicatorResultId = some context.comparisonName
  onSeries : forall candidate, candidate ∈ detected -> candidate.LiesOn context.series
  inSeries : forall candidate, candidate ∈ detected ->
    t.seriesOf (context.row candidate) = some context.comparisonName
  apart : (detected.map ChangePointResult.timestamp).Nodup

theorem Sound.append (sound : Sound t) {changePoint : ChangePoint} {name : String}
    (series : t.seriesOf changePoint = some name)
    (joined : changePoint.indicatorResultId.bind t.indicatorSeries = some name)
    (new : t.shiftOf changePoint ∉ t.changePoints.map t.shiftOf) :
    Sound (t.setChangePoints (t.changePoints ++ [changePoint])) := by
  refine ⟨sound.named, fun other member => ?_, ?_⟩
  · rcases List.mem_append.mp member with before | same
    · exact sound.attributed other before
    · rw [List.mem_singleton.mp same]
      exact ⟨name, series, joined⟩
  · change ((t.changePoints ++ [changePoint]).map t.shiftOf).Nodup
    rw [List.map_append, List.map_singleton, <- List.concat_eq_append]
    exact sound.unique.concat new

theorem persistFrom_sound {context : PersistContext} {next : Tables}
    {batchTimestamps : List Instant} {detected : List ChangePointResult} (sound : Sound t)
    (fits : BatchFits t context detected)
    (outside : forall candidate, candidate ∈ detected -> candidate.timestamp ∉ batchTimestamps)
    (ran : persistFrom context t batchTimestamps detected = some next) : Sound next := by
  induction detected generalizing t batchTimestamps with
  | nil =>
      cases ran
      exact sound
  | cons candidate rest ih =>
      have apart := fits.apart
      rw [List.map_cons, List.nodup_cons] at apart
      have later : forall other, other ∈ rest -> other ∈ candidate :: rest :=
        fun other member => List.mem_cons_of_mem candidate member
      have restFits : forall changePoints, BatchFits (t.setChangePoints changePoints) context rest :=
        fun _ => ⟨fits.recordedIn, fun other member => fits.onSeries other (later other member),
          fun other member => fits.inSeries other (later other member), apart.2⟩
      rcases persistFrom_cons ran with ⟨_, ran⟩ | ⟨notExisting, _, _, ran⟩
      · exact ih sound (restFits t.changePoints)
          (fun other member => outside other (later other member)) ran
      · have series := fits.inSeries candidate List.mem_cons_self
        have new : t.shiftOf (context.row candidate) ∉ t.changePoints.map t.shiftOf := by
          intro taken
          rcases List.mem_map.mp taken with ⟨other, stored, same⟩
          simp only [Tables.shiftOf, Shift.mk.injEq] at same
          rcases same with ⟨sameAsset, sameSlo, sameMetric, sameSeries, samePeriod⟩
          rcases sound.attributed other stored with ⟨name, otherSeries, joined⟩
          have isName : name = context.comparisonName := by
            rw [sameSeries, series] at otherSeries
            exact (Option.some.inj otherSeries).symm
          have seen : other ∈ t.visible context.lookup := by
            refine List.mem_filter.mpr ⟨stored, (Tables.matches_iff rfl).mpr ?_⟩
            exact ⟨sameAsset, sameSlo, sameMetric, joined.trans (congrArg some isName)⟩
          have existing : hasExisting context t batchTimestamps candidate = true := by
            refine hasExisting_iff.mpr ⟨other, seen, ?_, ?_⟩
            · rw [samePeriod]
              exact mem_timestampsAround (fits.onSeries candidate List.mem_cons_self)
            · rw [samePeriod]
              exact outside candidate List.mem_cons_self
          rw [notExisting] at existing
          cases existing
        refine ih (sound.append series fits.recordedIn new) (restFits _) ?_ ran
        intro other member inside
        rcases List.mem_cons.mp inside with same | before
        · exact apart.1 (same ▸ List.mem_map_of_mem member)
        · exact outside other (later other member) before

theorem persistDetectedChangePoints_sound {snapshot : EvaluationSnapshot} {comparisonName : String}
    {next : Tables} {batches : List DetectedBatch} (sound : Sound t)
    (fits : forall batch, batch ∈ batches ->
      BatchFits t (batchContext snapshot comparisonName batch) batch.detected)
    (ran : persistDetectedChangePoints snapshot comparisonName t batches = some next) :
    Sound next := by
  induction batches generalizing t with
  | nil =>
      cases ran
      exact sound
  | cons batch rest ih =>
      unfold persistDetectedChangePoints at ran
      split at ran
      · cases ran
      · rename_i middle persisted
        have first := fits batch List.mem_cons_self
        have soundMiddle := persistFrom_sound sound first (fun _ _ => List.not_mem_nil) persisted
        rcases persistFrom_appends persisted with ⟨rows, same⟩
        subst same
        refine ih soundMiddle (fun other member => ?_) ran
        have here := fits other (List.mem_cons_of_mem batch member)
        exact ⟨here.recordedIn, here.onSeries, here.inSeries, here.apart⟩

theorem detected_fits {engine : DivisiveEngine} {resolve : SLOObjectiveRow -> ResolvedConfig}
    {evaluation : SLOEvaluation} {sloDef : SLODefinition} {cpInputs : ChangePointInputs}
    {batch : DetectedBatch} (named : RunsNamed t.toDatabase)
    (stored : evaluation ∈ t.evaluations.rows)
    (loaded : loadChangePointInputs t resolve (snapshotOf t.toDatabase evaluation) sloDef =
      some (some cpInputs))
    (member : batch ∈ detectChangePointsForObjectives engine cpInputs.sharedHistory
      cpInputs.enabledObjectives)
    (apart : (batch.detected.map ChangePointResult.timestamp).Nodup) :
    BatchFits t
      (batchContext (snapshotOf t.toDatabase evaluation) cpInputs.comparisonName batch)
      batch.detected := by
  rcases loadChangePointInputs_eq_some loaded with ⟨sameName, enabled, history⟩
  rcases List.mem_filterMap.mp member with ⟨objective, isEnabled, ran⟩
  rcases detectForObjective_eq_some ran with ⟨_, sameKey, isSeries, liesOn⟩
  rcases enabled objective isEnabled with ⟨key, keyFound, ofEvaluation⟩
  rcases named evaluation stored with ⟨run, runFound, runName⟩
  have parentName : t.runs.find evaluation.evaluationId = some run ∧
      run.evalName = cpInputs.comparisonName := ⟨runFound, runName.trans sameName.symm⟩
  refine ⟨?_, liesOn, fun candidate _ => ?_, apart⟩
  · refine Tables.indicatorSeries_eq_some.mpr ⟨key, evaluation, run, ?_, ?_, parentName⟩
    · change t.indicatorKeys.find batch.indicatorResultId = some key
      rw [sameKey]
      exact keyFound
    · rw [ofEvaluation]
      exact find_of_mem stored
  · have inSeries : forall runId, runId ∈ batch.series.evaluationRunIds ∨
          runId = evaluation.evaluationId ->
        (t.runs.find runId).map EvaluationRun.evalName = some cpInputs.comparisonName := by
      rintro runId (ofHistory | ofParent)
      · rw [isSeries] at ofHistory
        rcases extractMetricSeries_run ofHistory with ⟨other, inHistory, same⟩
        rcases history other inHistory with ⟨otherStored, otherName, _⟩
        rcases named other otherStored with ⟨otherRun, otherFound, otherRunName⟩
        rw [<- same, otherFound, Option.map_some, otherRunName, otherName]
      · rw [ofParent, parentName.1, Option.map_some, parentName.2]
    refine inSeries _ ?_
    cases found : batch.series.evaluationRunIds[candidate.position]? with
    | none =>
        rw [show (batchContext (snapshotOf t.toDatabase evaluation) cpInputs.comparisonName
          batch).series = batch.series from rfl, found]
        exact Or.inr rfl
    | some runId =>
        rw [show (batchContext (snapshotOf t.toDatabase evaluation) cpInputs.comparisonName
          batch).series = batch.series from rfl, found]
        exact Or.inl (List.mem_of_getElem? found)

/-! ## Every run -/

section Runs

variable {settings : Settings}

theorem deleteIndicatorRows_changePoints {s : Installation} {evaluationIds : List Nat}
    (sound : Sound s.tables)
    (spared : forall changePoint, changePoint ∈ s.changePoints ->
      forall evalId, evalId ∈ evaluationIds -> s.referenced changePoint ≠ some evalId) :
    (s.tables.deleteIndicatorRows evaluationIds).changePoints = s.changePoints ∧
      forall changePoint, changePoint ∈ s.changePoints -> forall id key,
        changePoint.indicatorResultId = some id -> s.indicatorKeys.find id = some key ->
          (s.tables.deleteIndicatorRows evaluationIds).indicatorKeys.find id = some key := by
  have kept : forall changePoint, changePoint ∈ s.changePoints -> forall id key,
      changePoint.indicatorResultId = some id -> s.indicatorKeys.find id = some key ->
        (s.tables.deleteIndicatorRows evaluationIds).indicatorKeys.find id = some key := by
    intro changePoint member id key isId found
    have notDeleted : evaluationIds.contains key.sloEvaluationId = false := by
      rw [Bool.eq_false_iff]
      intro deleted
      refine spared changePoint member _ (List.contains_iff_mem.mp deleted) ?_
      unfold Installation.referenced
      rw [isId, Option.bind_some, found]
      rfl
    change (s.indicatorKeys.deleteWhere _).find id = some key
    rw [find_deleteWhere, found, Option.filter_some, notDeleted]
    rfl
  refine ⟨?_, kept⟩
  change s.changePoints.map (ChangePoint.setNull _) = s.changePoints
  conv_rhs => rw [<- List.map_id s.changePoints]
  refine List.map_congr_left fun changePoint member => ?_
  rcases sound.attributed changePoint member with ⟨name, _, joined⟩
  rcases Option.bind_eq_some_iff.mp joined with ⟨id, isId, found⟩
  rcases Tables.indicatorSeries_eq_some.mp found with ⟨key, _, _, keyFound, _⟩
  exact ChangePoint.setNull_eq_self isId (kept changePoint member id key isId keyFound)

theorem detectedBatches_eq {s : Installation} {evalId : Nat} {sloVersion : Int}
    {resolve : SLOObjectiveRow -> ResolvedConfig} (engine : DivisiveEngine)
    {snapshot : EvaluationSnapshot} {sloDef : SLODefinition} {cpInputs : ChangePointInputs}
    (input : s.phaseInput evalId sloVersion = some (snapshot, sloDef))
    (loaded : loadChangePointInputs s.tables resolve snapshot sloDef = some (some cpInputs)) :
    s.detectedBatches evalId sloVersion resolve engine =
      detectChangePointsForObjectives engine cpInputs.sharedHistory cpInputs.enabledObjectives := by
  unfold Installation.detectedBatches
  rw [input]
  dsimp only
  rw [loaded]

/-- A step that spares the indicator rows of change points keeps them attributed and
different. -/
theorem step_sound {s next : Installation} {action : Action} (sound : Sound s.tables)
    (spared : Spares s action) (stepped : step settings s action = some next) :
    Sound next.tables := by
  cases action with
  | worker action =>
      rcases Option.bind_eq_some_iff.mp stepped with ⟨world, ran, same⟩
      cases same
      exact sound.of_keeps (worker_keepsRuns ran) (worker_runsNamed sound.named ran) rfl
        fun _ _ id key _ found => find_identify found _
  | changePoints evalId sloVersion resolve engine =>
      rcases Option.bind_eq_some_iff.mp stepped with ⟨⟨snapshot, sloDef⟩, input, stepped⟩
      rcases Option.bind_eq_some_iff.mp stepped with ⟨t, ran, same⟩
      cases same
      rcases runChangePointPhase_eq_some ran with unchanged | ⟨cpInputs, loaded, persisted⟩
      · rw [unchanged]
        exact sound
      · have batches := detectedBatches_eq engine input loaded
        rcases Option.bind_eq_some_iff.mp input with ⟨evaluation, found, isInput⟩
        rcases Option.bind_eq_some_iff.mp isInput with ⟨loadedDef, _, same⟩
        cases same
        have soundNext := persistDetectedChangePoints_sound sound (fun batch member =>
          detected_fits sound.named (find_mem found) loaded member
            (spared batch (batches ▸ member))) persisted
        rcases persistDetectedChangePoints_appends persisted with ⟨changePoints, same⟩
        rw [same] at soundNext ⊢
        exact soundNext
  | reEvaluate assigned clock request =>
      rcases Option.bind_eq_some_iff.mp stepped with ⟨⟨db, response⟩, outcome, same⟩
      cases same
      have ran := Fallible.toOption_eq_some.mp outcome
      have replaced : s.replaced assigned clock request = replacedEvaluations request response := by
        unfold Installation.replaced
        rw [ran]
      have spared : forall changePoint, changePoint ∈ s.changePoints ->
          forall evalId, evalId ∈ replacedEvaluations request response ->
            s.referenced changePoint ≠ some evalId := by
        rw [<- replaced]
        exact spared
      rcases deleteIndicatorRows_changePoints sound spared with ⟨unchanged, kept⟩
      exact sound.of_keeps (reEvaluate_keepsRuns ran) (reEvaluate_runsNamed sound.named ran)
        unchanged fun changePoint member id key isId found =>
          find_identify (kept changePoint member id key isId found) _

def Installation.IsSound (s : Installation) : Prop :=
  Sound s.tables

theorem Installation.Initial.sound {s : Installation} (initial : s.Initial) : s.IsSound := by
  have noChangePoints : s.tables.changePoints = [] := initial.noChangePoints
  refine ⟨fun evaluation stored => ?_, fun changePoint member => ?_, ?_⟩
  · have noEvaluations : s.tables.evaluations = .empty := initial.world.noEvaluations
    rw [noEvaluations] at stored
    exact absurd stored List.not_mem_nil
  · rw [noChangePoints] at member
    exact absurd member List.not_mem_nil
  · rw [noChangePoints]
    exact List.nodup_nil

/-- In every run in which no re-evaluation replaces an indicator row that a change point
references, and no phase detects two change points of a metric at one instant, every
change point is recorded once. -/
theorem recordedOnce_of_spared {start final : Installation} {actions : List Action}
    (initial : start.Initial) (spared : Along (step settings) Spares start actions)
    (ran : exec (step settings) start actions = some final) : RecordedOnce final.tables := by
  have preserves : forall s action next, Installation.IsSound s -> Spares s action ->
      step settings s action = some next -> next.IsSound :=
    fun _ _ _ sound guarded stepped => step_sound sound guarded stepped
  have sound := exec_preserves_along preserves initial.sound spared ran
  exact Sound.recordedOnce sound

end Runs

/-! ## A change point that is lost

Five hourly evaluations of one SLO.  The latency goes from ten to fifty in the third
hour, and the phase of the fourth evaluation detects that.
-/

namespace Sample

def evaluate (number : Nat) (latency : ℚ) : List Action :=
  let answer := AdapterOutcome.response ((∅ : Dict (Option ℚ)).insert "latency" (some latency)) ∅
  let job : List Worker.Action :=
    [.trigger number (Worker.Sample.request number (10 + number) (number * 3600000000)),
      .triggerEnqueue number, .deliver number (number - 1)] ++
      List.replicate 6 (.advance number (some "worker") false fun _ => answer)
  job.map Action.worker

def config : ResolvedConfig :=
  { enabled := true, higherIsBetter := false, windowSize := 30, maxPvalue := 1 / 20,
    minMagnitude := 0, minSampleSize := 4, pvalueStrictThreshold := 1 / 20,
    pvalueModerateThreshold := 1 / 2 }

def engine : DivisiveEngine := fun values _ _ _ _ =>
  .ok (if values.take 4 = [10, 10, 50, 50] then
    [{ index := 2, preMean := 10, postMean := 50, postStd := 0, pvalue := 0 }] else [])

def phase (number : Nat) : Action :=
  .changePoints (10 + number) 1 (fun _ => config) engine

def fourHours : List Action :=
  evaluate 1 10 ++ evaluate 2 10 ++ evaluate 3 50 ++ evaluate 4 50 ++ [phase 4]

def reEvaluation : Action :=
  .reEvaluate (fun _ => []) (fun _ => 0)
    { assetName := "shop", sloName := some "checkout", fromDate := some 14400000000,
      sloVersion := some 1 }

def fifthHour : List Action :=
  evaluate 5 50 ++ [phase 5]

def installation : Installation :=
  { world := Worker.Sample.world }

def latencyShift : Shift :=
  { assetId := 1, sloName := "checkout", metricName := "latency", series := some "hourly",
    periodStart := 10800000000 }

end Sample

/-- Two phases detect the same shift, and it is recorded once. -/
theorem recordedOnce_of_spared_sample :
    Exists fun final =>
      exec (step {}) Sample.installation (Sample.fourHours ++ Sample.fifthHour) = some final ∧
        final.tables.changePoints.map final.tables.shiftOf = [Sample.latencyShift] ∧
        RecordedOnce final.tables := by
  have ran : ((exec (step {}) Sample.installation (Sample.fourHours ++ Sample.fifthHour)).map
      fun final => final.tables.changePoints.map final.tables.shiftOf) =
      some [Sample.latencyShift] := by decide +kernel
  have spared : Along (step {}) Spares Sample.installation
      (Sample.fourHours ++ Sample.fifthHour) := by decide +kernel
  rcases Option.map_eq_some_iff.mp ran with ⟨final, reached, shifts⟩
  exact ⟨final, reached, shifts,
    recordedOnce_of_spared ⟨Worker.Sample.world_initial, rfl, rfl⟩ spared reached⟩

/-- When the evaluation that found it is scored again in between, the shift is recorded
a second time. -/
theorem shift_recorded_twice :
    Exists fun final =>
      exec (step {}) Sample.installation
          (Sample.fourHours ++ [Sample.reEvaluation] ++ Sample.fifthHour) = some final ∧
        final.tables.changePoints.map final.tables.shiftOf =
          [Sample.latencyShift, Sample.latencyShift] := by
  have ran : ((exec (step {}) Sample.installation
      (Sample.fourHours ++ [Sample.reEvaluation] ++ Sample.fifthHour)).map
      fun final => final.tables.changePoints.map final.tables.shiftOf) =
      some [Sample.latencyShift, Sample.latencyShift] := by decide +kernel
  exact Option.map_eq_some_iff.mp ran

end ChangePoints
end Tropek
