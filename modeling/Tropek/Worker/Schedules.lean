import Tropek.Worker.Chronology
import Tropek.Worker.Trigger

namespace Tropek
namespace Worker

open Library Engine Store TransitionSystem KeyedTable

/-!
# Schedules agree

Two runs from the same state may deliver, defer, repeat and crash the jobs of a
series in different orders; in one of them the jobs may come one by one, in the
order of their periods.  Let the adapter give the same answer to the same query,
let no check be taken in by an error, by the cap or by an evaluation that counts
as dead, and let no ended evaluation be reopened.

Then what an evaluation ends with is decided by the earlier ones.  In each run an
ended evaluation is what its own scoring gives against the baselines that the
database has now, and induction over the earlier evaluations makes the two runs
agree on every ended row, apart from the time when its worker started it.
-/

/-! ## Rows without what a schedule decides -/

def untimed (row : SLOEvaluation) : SLOEvaluation :=
  { row with startedAt := none }

def unscheduled (row : SLOEvaluation) : SLOEvaluation :=
  { row with status := .pending, startedAt := none, jobStats := {} }

instance (assetId : Nat) (sloName : String) (periodStart : Instant) (row : SLOEvaluation) :
    Decidable (Earlier assetId sloName periodStart row) :=
  inferInstanceAs (Decidable (_ ∧ _))

def earlierRows (assetId : Nat) (sloName : String) (periodStart : Instant) (table : Evaluations) :
    List SLOEvaluation :=
  table.rows.filter fun row => Earlier assetId sloName periodStart row

variable {row : SLOEvaluation} {periodStart : Instant} {sloName : String} {table : Evaluations}
  {assetId : Nat}

theorem mem_earlierRows :
    row ∈ earlierRows assetId sloName periodStart table ↔
      row ∈ table.rows ∧ Earlier assetId sloName periodStart row := by
  unfold earlierRows
  rw [List.mem_filter, decide_eq_true_eq]

theorem computeBaselines_untimed (rows : List SLOEvaluation) (function : AggregateFunction) :
    computeBaselines (rows.map untimed) function = computeBaselines rows function := by
  unfold computeBaselines
  simp only [List.map_eq_nil_iff, List.flatMap_map, List.map_map]
  rfl

/-- The baselines are read from the earlier rows, and the time when these were started
is not. -/
theorem resolveBaselines_of_untimed {first second : Evaluations} {snapshot : EvaluationSnapshot}
    (firstPin : activePinStart first snapshot.assetId snapshot.sloName = none)
    (secondPin : activePinStart second snapshot.assetId snapshot.sloName = none)
    (same : (earlierRows snapshot.assetId snapshot.sloName snapshot.periodStart second).map untimed =
      (earlierRows snapshot.assetId snapshot.sloName snapshot.periodStart first).map untimed)
    (slo : SLO) (evaluationName : String) :
    resolveBaselines second slo snapshot evaluationName =
      resolveBaselines first slo snapshot evaluationName := by
  let selects := fun row => baseBaselineQuery snapshot.assetId snapshot.sloName
    snapshot.periodStart slo.comparison.includeResultWithScore (some evaluationName) row
  have narrowed : forall table : Evaluations, table.rows.filter selects =
      (earlierRows snapshot.assetId snapshot.sloName snapshot.periodStart table).filter selects := by
    intro table
    unfold earlierRows
    rw [List.filter_filter]
    refine List.filter_congr fun row _ => ?_
    cases selected : selects row with
    | false => rw [Bool.false_and]
    | true =>
        have base : baseBaselineQuery _ _ _ _ _ row = true := selected
        unfold baseBaselineQuery at base
        simp only [Bool.and_eq_true, decide_eq_true_eq] at base
        exact (decide_eq_true base.1.1.1.1).symm
  have related : List.Forall₂ (fun row other => untimed other = untimed row)
      (first.rows.filter selects) (second.rows.filter selects) := by
    rw [narrowed first, narrowed second]
    have rowByRow : List.Forall₂ (fun row other => untimed other = untimed row)
        (earlierRows snapshot.assetId snapshot.sloName snapshot.periodStart first)
        (earlierRows snapshot.assetId snapshot.sloName snapshot.periodStart second) := by
      rw [<- List.forall₂_eq_eq_eq, List.forall₂_map_left_iff, List.forall₂_map_right_iff] at same
      exact same.flip
    refine List.rel_filter (fun row other here => ?_) rowByRow
    have sameSelected : selects (untimed other) = selects (untimed row) := congrArg selects here
    have unread : forall row, selects (untimed row) = selects row := fun _ => rfl
    rw [unread, unread] at sameSelected
    exact Bool.eq_iff_iff.mp sameSelected.symm
  have latest := Latest.latest_related SLOEvaluation.periodStart
    (fun row other (here : untimed other = untimed row) =>
      (congrArg (fun row => row.periodStart) here : other.periodStart = row.periodStart))
    slo.comparison.numberOfComparisonResults.toNat related
  have sameRows := Latest.map_eq_of_related (latest.imp fun _ _ here => here.symm)
  unfold resolveBaselines getEvaluationBaselines latestRows
  simp only [firstPin, secondPin, pinAllows, Bool.and_true]
  by_cases none : slo.comparison.numberOfComparisonResults ≤ 0
  · rw [if_pos none, if_pos none]
  · have limit : ¬ slo.comparison.numberOfComparisonResults < 0 := fun negative => none negative.le
    simp only [if_neg none, if_neg limit]
    rw [<- computeBaselines_untimed, <- sameRows, computeBaselines_untimed]

/-! ## What a scoring ends with -/

def scoringPhase (db : Database) (adapter : AdapterQuery -> AdapterOutcome)
    (snapshot : EvaluationSnapshot) : Phase :=
  match loadingPhase db snapshot with
  | .fetching snapshot sloDef sliDef datasource =>
      fetchingPhase db snapshot sloDef sliDef datasource adapter
  | phase => phase

def endedRow (row : SLOEvaluation) : Phase -> Option SLOEvaluation
  | .failing error => some (row.setFailed { error := some error })
  | .writing snapshot sloDef fetchResult =>
      (bulkInsert row.indicatorRows
        (buildIndicatorRows sloDef fetchResult.evalResult.indicatorResults)).map fun indicatorRows =>
          (row.setCompleted (completedValues snapshot sloDef fetchResult)).setIndicatorRows
            indicatorRows
  | _ => none

structure SameDefinitions (db other : Database) : Prop where
  slo : other.sloDefinitions = db.sloDefinitions
  sli : other.sliDefinitions = db.sliDefinitions
  sources : other.dataSources = db.dataSources

theorem SameDefinitions.loadingPhase {db other : Database} (same : SameDefinitions db other)
    (snapshot : EvaluationSnapshot) : loadingPhase other snapshot = loadingPhase db snapshot := by
  unfold Worker.loadingPhase loadDefinitions
  rw [same.slo, same.sli, same.sources]

theorem scoringPhase_congr {db other : Database} (same : SameDefinitions db other)
    {snapshot : EvaluationSnapshot}
    (baselines : forall slo evaluationName,
      resolveBaselines other.evaluations slo snapshot evaluationName =
        resolveBaselines db.evaluations slo snapshot evaluationName)
    (adapter : AdapterQuery -> AdapterOutcome) :
    scoringPhase other adapter snapshot = scoringPhase db adapter snapshot := by
  unfold scoringPhase
  rw [same.loadingPhase]
  cases loaded : Worker.loadingPhase db snapshot with
  | fetching held sloDef sliDef datasource =>
      have sameSnapshot := (loadingPhase_fetching loaded).1
      subst sameSnapshot
      dsimp only
      unfold fetchingPhase fetchAndEvaluate evaluateResponse
      simp only [baselines]
  | _ => rfl

/-! ## The condition -/

/-- The action spares the ended evaluations of the series.  A check of one of them that
is live meets no error, is below the deferral cap and finds no earlier one that counts
as dead, and the watchdog gives none of them up. -/
def keepsOrder (settings : Settings) (assetId : Nat) (sloName : String) (w : World)
    (action : Action) : Bool :=
  sparesEnded settings assetId sloName w action &&
    match action with
    | .advance executionId _ checkFails _ =>
        (w.executions.find executionId).all fun execution =>
          match execution.phase with
          | .checking =>
              (w.db.evaluations.find execution.message.evalId).all fun own =>
                !(own.SameSeries assetId sloName && own.Live) ||
                  (!checkFails && execution.message.deferCount < maxPredecessorDefers &&
                    (earlierRows assetId sloName own.periodStart w.db.evaluations).all fun row =>
                      !(row.status = .running &&
                        startedBefore row (w.now - settings.stuckJobThreshold)))
          | _ => true
    | .watchdogUpdate tickId =>
        (w.ticks.find tickId).all fun tick => tick.remaining.head?.all fun stuckEval =>
          (w.db.evaluations.find stuckEval.id).all fun row =>
            !decide (row.SameSeries assetId sloName) ||
              stuckAttempts stuckEval < settings.maxStuckJobRetries
    | _ => true

def AsksOnly (adapter : AdapterQuery -> AdapterOutcome) : Action -> Prop
  | .advance _ _ _ asked => asked = adapter
  | _ => True

/-! ## The invariant of a run -/

def Phase.isPastCheck : Phase -> Bool
  | .marking => true
  | .loading _ => true
  | .fetching _ _ _ _ => true
  | .failing _ => true
  | .writing _ _ _ => true
  | _ => false

def OnCourse (adapter : AdapterQuery -> AdapterOutcome) (db : Database)
    (snapshot : EvaluationSnapshot) : Phase -> Prop
  | .loading held => held = snapshot
  | .fetching held sloDef sliDef datasource =>
      loadingPhase db snapshot = .fetching held sloDef sliDef datasource
  | .failing error => scoringPhase db adapter snapshot = .failing error
  | .writing held sloDef fetchResult =>
      scoringPhase db adapter snapshot = .writing held sloDef fetchResult
  | _ => True

theorem onCourse_of_noSnapshot {adapter : AdapterQuery -> AdapterOutcome} {db : Database}
    {snapshot : EvaluationSnapshot} {phase : Phase} (none : phase.snapshot? = none)
    (scored : forall error, phase = .failing error ->
      scoringPhase db adapter snapshot = .failing error) : OnCourse adapter db snapshot phase := by
  cases phase with
  | loading held => cases none
  | fetching held sloDef sliDef datasource => cases none
  | writing held sloDef fetchResult => cases none
  | failing error => exact scored error rfl
  | _ => trivial

abbrev EarlierEnded (row : SLOEvaluation) (w : World) : Prop :=
  LiveWithin row.assetId row.sloName row.periodStart (fun _ => False) w

/-- A live evaluation is as it was at the start, and an ended one that was live then
is what its scoring gives now. -/
structure RowFollows (adapter : AdapterQuery -> AdapterOutcome) (start w : World)
    (origin row : SLOEvaluation) : Prop where
  identity : SameIdentity origin row
  live : row.Live -> origin.Live ∧ unscheduled row = unscheduled origin
  ended : ¬ row.Live -> row = origin ∨ (origin.Live ∧ EarlierEnded row w ∧
    (endedRow origin (scoringPhase w.db adapter (snapshotOf start.db origin))).map untimed =
      some (untimed row))

/-- The invariant of runs in chronological order: an evaluation of the series that is
past its check has no live one before it, and it is on the course that its scoring from
the start prescribes. -/
structure InOrder (adapter : AdapterQuery -> AdapterOutcome) (assetId : Nat) (sloName : String)
    (start w : World) : Prop where
  fit : AllFit w
  recorded : AllRecorded w
  definitions : SameDefinitions start.db w.db
  runs : forall runId run, start.db.runs.find runId = some run ->
    w.db.runs.find runId = some run
  rows : forall id row, w.db.evaluations.find id = some row -> row.SameSeries assetId sloName ->
    Exists fun origin => start.db.evaluations.find id = some origin ∧
      RowFollows adapter start w origin row
  executions : forall execution, execution ∈ w.executions.rows ->
    forall row, w.db.evaluations.find execution.message.evalId = some row ->
      row.SameSeries assetId sloName -> row.Live -> execution.phase.isPastCheck = true ->
        EarlierEnded row w ∧ OnCourse adapter w.db (snapshotOf w.db row) execution.phase

/-! ## One step -/

theorem SameIdentity.sameSeries {row later : SLOEvaluation} {assetId : Nat} {sloName : String}
    (same : SameIdentity row later) :
    later.SameSeries assetId sloName ↔ row.SameSeries assetId sloName := by
  unfold SLOEvaluation.SameSeries
  rw [same.assetId, same.sloName]

section Step

variable {settings : Settings} {adapter : AdapterQuery -> AdapterOutcome} {assetId : Nat}
  {sloName : String} {start w next : World} {action : Action} {old origin row : SLOEvaluation}

theorem step_runs (stepped : Worker.step settings w action = some next) {runId : Nat}
    {run : EvaluationRun} (found : w.db.runs.find runId = some run) :
    next.db.runs.find runId = some run := by
  by_cases triggered : Exists fun triggerId => Exists fun request =>
      action = .trigger triggerId request
  · rcases triggered with ⟨triggerId, request, rfl⟩
    cases step_cases stepped with
    | trigger _ _ db committed process processIs fresh =>
        rcases (triggerCommit_committed committed).runs with ⟨added, _, _, rows⟩
        refine (find_eq_some _ _ _).mpr ⟨?_, find_key found⟩
        rw [rows]
        exact List.mem_append_left _ (find_mem found)
  · rw [step_db stepped fun triggerId request same => triggered ⟨triggerId, request, same⟩]
    exact found

theorem step_definitions (stepped : Worker.step settings w action = some next) :
    SameDefinitions w.db next.db := by
  by_cases triggered : Exists fun triggerId => Exists fun request =>
      action = .trigger triggerId request
  · rcases triggered with ⟨triggerId, request, rfl⟩
    cases step_cases stepped with
    | trigger _ _ db committed process processIs fresh =>
        rcases (triggerCommit_committed committed).definitions with ⟨slo, sli, sources, _⟩
        exact ⟨slo, sli, sources⟩
  · rw [step_db stepped fun triggerId request same => triggered ⟨triggerId, request, same⟩]
    exact ⟨rfl, rfl, rfl⟩

theorem rowAfter_evaluationId (write : Option Write) (row : SLOEvaluation) :
    (rowAfter write row).evaluationId = row.evaluationId := by
  rcases rowAfter_cases write row with same | ⟨target, _, _, same⟩
  · rw [same]
  · rw [same]
    cases target.change with
    | completed values indicatorRows => cases indicatorRows <;> rfl
    | _ => rfl

def RunsKnown (w : World) : Prop :=
  forall id row, w.db.evaluations.find id = some row ->
    Exists fun run => w.db.runs.find row.evaluationId = some run

theorem RunsKnown.step (known : RunsKnown w) (stepped : Worker.step settings w action = some next) :
    RunsKnown next := by
  intro id row found
  rcases step_find_origin stepped found with
    ⟨old, oldFound, rfl⟩ | ⟨absent, triggerId, request, rfl, ctx, tags, _, rowIs⟩
  · rcases known id old oldFound with ⟨run, isRun⟩
    rw [rowAfter_evaluationId]
    exact ⟨run, step_runs stepped isRun⟩
  · cases step_cases stepped with
    | trigger _ _ db committed process processIs fresh =>
        rcases (triggerCommit_committed committed).runs with ⟨run, isRun, _, rows⟩
        have sameRun : row.evaluationId = request.runId := by rw [rowIs]; rfl
        refine ⟨run, (find_eq_some _ _ _).mpr ⟨?_, isRun.trans sameRun.symm⟩⟩
        rw [rows]
        exact List.mem_append_right _ List.mem_cons_self

theorem runsKnown_of_reachable (reached : Reachable settings w) : RunsKnown w := by
  refine reachable_preserves (fun start initial id row found => ?_)
    (fun _ _ _ (known : RunsKnown _) stepped => known.step stepped) reached
  rw [initial.noEvaluations, find_empty] at found
  cases found

theorem snapshotOf_of_unscheduled (same : unscheduled row = unscheduled origin) {run : EvaluationRun}
    (known : start.db.runs.find origin.evaluationId = some run)
    (runs : w.db.runs.find origin.evaluationId = some run) :
    snapshotOf w.db row = snapshotOf start.db origin := by
  have unread : forall db row, snapshotOf db row = snapshotOf db (unscheduled row) := fun _ _ => rfl
  have sameRuns : snapshotOf w.db origin = snapshotOf start.db origin := by
    unfold snapshotOf
    rw [known, runs]
  rw [unread, same, <- unread, sameRuns]

theorem endedRow_unscheduled (row : SLOEvaluation) (phase : Phase) :
    (endedRow row phase).map untimed = (endedRow (unscheduled row) phase).map untimed := by
  cases phase with
  | writing snapshot sloDef fetchResult =>
      unfold endedRow
      rw [Option.map_map, Option.map_map]
      rfl
  | _ => rfl

theorem rowAfter_unscheduled {write : Option Write} (live : (rowAfter write row).Live) :
    unscheduled (rowAfter write row) = unscheduled row := by
  rcases rowAfter_cases write row with same | ⟨target, _, _, same⟩
  · rw [same]
  · rw [same] at live ⊢
    cases changeIs : target.change with
    | running now workerId => rfl
    | requeued stuckJobRetries => rfl
    | failed jobStats =>
        rw [changeIs] at live
        rcases live with impossible | impossible <;> cases impossible
    | completed values indicatorRows =>
        rw [changeIs] at live
        cases indicatorRows <;> rcases live with impossible | impossible <;> cases impossible

theorem EarlierEnded.of_identity (same : SameIdentity old row) (ended : EarlierEnded old w) :
    EarlierEnded row w := by
  unfold EarlierEnded
  rw [same.assetId, same.sloName, same.periodStart]
  exact ended

variable (fit : AllFit w) (recorded : AllRecorded w) (series : row.SameSeries assetId sloName)
  (ended : EarlierEnded row w) (spared : sparesEnded settings assetId sloName w action = true)
  (stepped : Worker.step settings w action = some next)

include fit series ended spared stepped

theorem EarlierEnded.step : EarlierEnded row next := by
  unfold EarlierEnded at ended ⊢
  rw [series.1, series.2] at ended ⊢
  exact ended.step fit spared stepped

include recorded in
theorem scoringPhase_step {snapshot : EvaluationSnapshot} (asset : snapshot.assetId = row.assetId)
    (slo : snapshot.sloName = row.sloName) (period : snapshot.periodStart = row.periodStart) :
    scoringPhase next.db adapter snapshot = scoringPhase w.db adapter snapshot := by
  have same : SameEarlier snapshot.assetId snapshot.sloName snapshot.periodStart w next := by
    intro selected selects
    unfold EarlierEnded at ended
    rw [asset, slo, period] at selects
    rw [series.1, series.2] at ended selects
    exact step_filter fit ended spared stepped selects
  exact scoringPhase_congr (step_definitions stepped)
    (resolveBaselines_of_sameEarlier same recorded (recorded.step stepped)) adapter

end Step

section InOrder

variable {settings : Settings} {adapter : AdapterQuery -> AdapterOutcome} {assetId : Nat}
  {sloName : String} {start w next : World} {action : Action} {old origin row : SLOEvaluation}
  {id : Nat} (inOrder : InOrder adapter assetId sloName start w)

theorem watchdog_requeues {tickId : Nat} {write : Write}
    (keeps : keepsOrder settings assetId sloName w (.watchdogUpdate tickId) = true)
    (written : (Action.watchdogUpdate tickId).write settings w = some write)
    (found : w.db.evaluations.find write.evalId = some old)
    (series : old.SameSeries assetId sloName) :
    Exists fun stuckJobRetries => write.change = .requeued stuckJobRetries := by
  rcases Option.bind_eq_some_iff.mp written with ⟨tick, there, written⟩
  rcases Option.map_eq_some_iff.mp written with ⟨stuckEval, first, rfl⟩
  have watched := (Bool.and_eq_true_iff.mp keeps).2
  dsimp only at watched
  change w.db.evaluations.find stuckEval.id = some old at found
  rw [there, Option.all_some, first, Option.all_some, found, Option.all_some, Bool.or_eq_true] at watched
  unfold watchdogWrite
  dsimp only
  rcases watched with other | requeues
  · rw [decide_eq_true series] at other
    cases other
  · rw [if_neg (Nat.not_le.mpr (of_decide_eq_true requeues))]
    exact ⟨_, rfl⟩

include inOrder

/-- A transaction that ends a live evaluation of the series writes what its scoring
gives, and all earlier ones have ended. -/
theorem InOrder.ends (found : w.db.evaluations.find id = some old)
    (series : old.SameSeries assetId sloName) (live : old.Live)
    (keeps : keepsOrder settings assetId sloName w action = true)
    (ends : ¬ (rowAfter (action.write settings w) old).Live) :
    EarlierEnded old w ∧ endedRow old (scoringPhase w.db adapter (snapshotOf w.db old)) =
      some (rowAfter (action.write settings w) old) := by
  have rowKey : old.id = id := find_key found
  rcases rowAfter_cases (action.write settings w) old with after | ⟨write, written, targeted, after⟩
  · rw [after] at ends
    exact absurd live ends
  · have here : w.db.evaluations.find write.evalId = some old := by
      rw [<- targeted, rowKey]
      exact found
    rw [after] at ends ⊢
    cases action with
    | advance executionId workerId checkFails asked =>
        rcases Option.bind_eq_some_iff.mp written with ⟨execution, there, written⟩
        have member := find_mem there
        have follows := inOrder.executions execution member
        cases phaseIs : execution.phase with
        | marking =>
            rw [phaseIs] at written
            cases written
            exact absurd (Or.inr rfl) ends
        | failing error =>
            rw [phaseIs] at written follows
            cases written
            rcases follows old here series live rfl with ⟨earlier, onCourse⟩
            have scored : scoringPhase w.db adapter (snapshotOf w.db old) = .failing error :=
              onCourse
            exact ⟨earlier, by rw [scored]; rfl⟩
        | writing snapshot sloDef fetchResult =>
            have fits := inOrder.fit execution member
            rw [phaseIs] at written follows
            rcases completedWrite_eq_some (fits.result snapshot sloDef fetchResult phaseIs) written
              with ⟨evaluation, indicatorRows, present, inserted, rfl⟩
            cases Option.some.inj (present.symm.trans here)
            have sameId := (fits.row snapshot (by rw [phaseIs]; rfl)).1
            rcases follows old (sameId ▸ here) series live rfl with ⟨earlier, onCourse⟩
            have scored : scoringPhase w.db adapter (snapshotOf w.db old) =
                .writing snapshot sloDef fetchResult := onCourse
            refine ⟨earlier, ?_⟩
            rw [scored]
            unfold endedRow
            dsimp only
            rw [inserted]
            rfl
        | _ =>
            rw [phaseIs] at written
            cases written
    | watchdogUpdate tickId =>
        rcases watchdog_requeues keeps written here series with ⟨retries, requeued⟩
        rw [requeued] at ends
        exact absurd (Or.inl rfl) ends
    | _ => cases written

theorem InOrder.snapshot (known : RunsKnown start) (follows : RowFollows adapter start w origin row)
    (there : start.db.evaluations.find id = some origin) (live : row.Live) :
    snapshotOf w.db row = snapshotOf start.db origin := by
  rcases known id origin there with ⟨run, isRun⟩
  exact snapshotOf_of_unscheduled (follows.live live).2 isRun (inOrder.runs _ run isRun)

theorem InOrder.scoring (keeps : keepsOrder settings assetId sloName w action = true)
    (stepped : Worker.step settings w action = some next) (series : row.SameSeries assetId sloName)
    (ended : EarlierEnded row w) (snapshot : EvaluationSnapshot)
    (asset : snapshot.assetId = row.assetId) (slo : snapshot.sloName = row.sloName)
    (period : snapshot.periodStart = row.periodStart) :
    scoringPhase next.db adapter snapshot = scoringPhase w.db adapter snapshot :=
  scoringPhase_step inOrder.fit inOrder.recorded series ended (Bool.and_eq_true_iff.mp keeps).1
    stepped asset slo period

theorem InOrder.step_row (known : RunsKnown start)
    (keeps : keepsOrder settings assetId sloName w action = true)
    (stepped : Worker.step settings w action = some next)
    (found : w.db.evaluations.find id = some old) (series : old.SameSeries assetId sloName)
    (there : start.db.evaluations.find id = some origin)
    (follows : RowFollows adapter start w origin old) :
    RowFollows adapter start next origin (rowAfter (action.write settings w) old) := by
  have spared := (Bool.and_eq_true_iff.mp keeps).1
  have same := rowAfter_identity settings action inOrder.fit found
  have identity := follows.identity.trans same
  by_cases live : old.Live
  · refine ⟨identity, fun later => ?_, fun ends => Or.inr ?_⟩
    · exact ⟨(follows.live live).1, (rowAfter_unscheduled later).trans (follows.live live).2⟩
    · rcases inOrder.ends found series live keeps ends with ⟨earlier, scored⟩
      have sameSnapshot := inOrder.snapshot known follows there live
      have scoring := inOrder.scoring keeps stepped series earlier (snapshotOf w.db old) rfl rfl
        rfl
      refine ⟨(follows.live live).1,
        (earlier.step inOrder.fit series spared stepped).of_identity same, ?_⟩
      rw [<- sameSnapshot, scoring, endedRow_unscheduled, <- (follows.live live).2,
        <- endedRow_unscheduled, scored]
      rfl
  · rw [rowAfter_of_ended spared found series live]
    refine ⟨follows.identity, fun impossible => absurd impossible live, fun _ => ?_⟩
    rcases follows.ended live with kept | ⟨originLive, earlier, scored⟩
    · exact Or.inl kept
    · have scoring := inOrder.scoring keeps stepped series earlier
        (snapshotOf start.db origin) follows.identity.assetId.symm
        follows.identity.sloName.symm follows.identity.periodStart.symm
      refine Or.inr ⟨originLive, earlier.step inOrder.fit series spared stepped, ?_⟩
      rw [scoring]
      exact scored

omit inOrder in
/-- A check that lets a live evaluation through meets only earlier ones that have
ended. -/
theorem earlierEnded_of_check {execution : Execution} {input : PhaseInput}
    (recorded : AllRecorded w) (now : input.now = w.now)
    (there : w.executions.find execution.id = some execution) (phase : execution.phase = .checking)
    (found : w.db.evaluations.find execution.message.evalId = some row)
    (series : row.SameSeries assetId sloName) (live : row.Live)
    (keeps : keepsOrder settings assetId sloName w
      (.advance execution.id input.workerId input.checkFails input.adapter) = true)
    (passes : defers settings input execution.message w.db = false) : EarlierEnded row w := by
  have checked := (Bool.and_eq_true_iff.mp keeps).2
  dsimp only at checked
  rw [there, Option.all_some] at checked
  simp only [phase, found, Option.all_some, series, live, decide_true, Bool.and_self, Bool.not_true,
    Bool.false_or, Bool.and_eq_true, Bool.not_eq_true', decide_eq_true_eq] at checked
  rcases checked with ⟨⟨noError, underCap⟩, noneStale⟩
  intro id other otherFound earlier otherLive
  rcases liveWithin_of_check recorded now noError underCap found live passes id other otherFound
    earlier otherLive with ⟨stale, staleFound, staleEarlier, running, longAgo⟩
  rw [series.1, series.2] at staleEarlier
  have fresh := List.all_eq_true.mp noneStale stale
    (mem_earlierRows.mpr ⟨find_mem staleFound, staleEarlier⟩)
  simp only [running, longAgo, decide_true, Bool.and_self, Bool.not_true,
    Bool.false_eq_true] at fresh

theorem InOrder.advances {execution : Execution} {input : PhaseInput} (now : input.now = w.now)
    (there : w.executions.find execution.id = some execution) (asks : input.adapter = adapter)
    (found : w.db.evaluations.find execution.message.evalId = some row)
    (series : row.SameSeries assetId sloName) (live : row.Live)
    (keeps : keepsOrder settings assetId sloName w
      (.advance execution.id input.workerId input.checkFails input.adapter) = true)
    (past : (nextPhase settings input execution.message w.db execution.phase).isPastCheck = true) :
    EarlierEnded row w ∧ OnCourse adapter w.db (snapshotOf w.db row)
      (nextPhase settings input execution.message w.db execution.phase) := by
  have follows := inOrder.executions execution (find_mem there) row found series live
  cases phaseIs : execution.phase with
  | checking =>
      rw [phaseIs] at past
      unfold nextPhase at past ⊢
      dsimp only at past ⊢
      cases passes : defers settings input execution.message w.db with
      | true =>
          rw [passes] at past
          cases past
      | false =>
          exact ⟨earlierEnded_of_check inOrder.recorded now there phaseIs found series live keeps
            passes, trivial⟩
  | marking =>
      rw [phaseIs] at follows
      unfold nextPhase
      dsimp only
      rw [found]
      exact ⟨(follows rfl).1, rfl⟩
  | loading snapshot =>
      rw [phaseIs] at follows past
      rcases follows rfl with ⟨earlier, held⟩
      cases held
      refine ⟨earlier, ?_⟩
      change OnCourse adapter w.db _ (loadingPhase w.db (snapshotOf w.db row))
      change (loadingPhase w.db (snapshotOf w.db row)).isPastCheck = true at past
      rcases loadingPhase_snapshot? w.db (snapshotOf w.db row) with ⟨_, _, _, loaded⟩ | none
      · rw [loaded]
        exact loaded
      · refine onCourse_of_noSnapshot none fun error loaded => ?_
        unfold scoringPhase
        rw [loaded]
  | fetching snapshot sloDef sliDef datasource =>
      rw [phaseIs] at follows
      rcases follows rfl with ⟨earlier, loaded⟩
      refine ⟨earlier, ?_⟩
      change loadingPhase w.db (snapshotOf w.db row) = _ at loaded
      have scored : scoringPhase w.db adapter (snapshotOf w.db row) =
          fetchingPhase w.db snapshot sloDef sliDef datasource adapter := by
        unfold scoringPhase
        rw [loaded]
      change OnCourse adapter w.db _ (fetchingPhase w.db snapshot sloDef sliDef datasource input.adapter)
      rw [asks]
      rcases fetchingPhase_snapshot? w.db snapshot sloDef sliDef datasource adapter with
        ⟨fetchResult, fetched⟩ | none
      · rw [fetched] at scored ⊢
        exact scored
      · exact onCourse_of_noSnapshot none fun error failing => scored.trans failing
  | writing snapshot sloDef fetchResult =>
      rw [phaseIs] at past
      unfold nextPhase at past
      dsimp only at past
      split at past <;> cases past
  | raised error =>
      rw [phaseIs] at past
      cases past
  | _ =>
      rw [phaseIs] at past
      cases past

theorem InOrder.onCourse_step (known : RunsKnown w)
    (keeps : keepsOrder settings assetId sloName w action = true)
    (stepped : Worker.step settings w action = some next)
    (found : w.db.evaluations.find id = some old) (series : old.SameSeries assetId sloName)
    (earlier : EarlierEnded old w) (later : (rowAfter (action.write settings w) old).Live)
    {phase : Phase} (onCourse : OnCourse adapter w.db (snapshotOf w.db old) phase) :
    OnCourse adapter next.db (snapshotOf next.db (rowAfter (action.write settings w) old)) phase := by
  rcases known id old found with ⟨run, isRun⟩
  have sameSnapshot := snapshotOf_of_unscheduled (rowAfter_unscheduled later) isRun
    (step_runs stepped isRun)
  have scoring := inOrder.scoring keeps stepped series earlier (snapshotOf w.db old) rfl rfl rfl
  rw [sameSnapshot]
  cases phase with
  | loading held => exact onCourse
  | fetching held sloDef sliDef datasource =>
      exact ((step_definitions stepped).loadingPhase _).trans onCourse
  | failing error => exact scoring.trans onCourse
  | writing held sloDef fetchResult => exact scoring.trans onCourse
  | _ => trivial

theorem InOrder.step (startKnown : RunsKnown start) (known : RunsKnown w)
    (keeps : keepsOrder settings assetId sloName w action = true) (asks : AsksOnly adapter action)
    (stepped : Worker.step settings w action = some next) :
    InOrder adapter assetId sloName start next := by
  have spared := (Bool.and_eq_true_iff.mp keeps).1
  have definitions := step_definitions stepped
  refine ⟨inOrder.fit.step stepped, inOrder.recorded.step stepped, ?_,
    fun runId run found => step_runs stepped (inOrder.runs runId run found), ?_, ?_⟩
  · exact ⟨definitions.slo.trans inOrder.definitions.slo,
      definitions.sli.trans inOrder.definitions.sli,
      definitions.sources.trans inOrder.definitions.sources⟩
  · intro id row found series
    rcases step_find_origin stepped found with
      ⟨old, oldFound, rfl⟩ | ⟨_, triggerId, request, rfl, created⟩
    · have identity := rowAfter_identity settings action inOrder.fit oldFound
      have oldSeries : old.SameSeries assetId sloName :=
        identity.sameSeries.mp series
      rcases inOrder.rows id old oldFound oldSeries with ⟨origin, there, follows⟩
      exact ⟨origin, there,
        inOrder.step_row startKnown keeps stepped oldFound oldSeries there follows⟩
    · exact absurd series (not_sameSeries_of_created spared created)
  · intro execution member row found series live past
    rcases step_find_origin stepped found with
      ⟨old, oldFound, rfl⟩ | ⟨_, triggerId, request, rfl, created⟩
    · have identity := rowAfter_identity settings action inOrder.fit oldFound
      have oldSeries : old.SameSeries assetId sloName :=
        identity.sameSeries.mp series
      have oldLive : old.Live := by
        by_contra ended
        rw [rowAfter_of_ended spared oldFound oldSeries ended] at live
        exact ended live
      have before : EarlierEnded old w ∧
          OnCourse adapter w.db (snapshotOf w.db old) execution.phase := by
        rcases step_execution stepped member with
          inside | checking | ⟨advancing, input, inside, rfl, now, rfl⟩
        · exact inOrder.executions execution inside old oldFound oldSeries oldLive past
        · rw [checking] at past
          cases past
        · exact inOrder.advances now (find_of_mem inside) asks oldFound oldSeries oldLive
            keeps past
      exact ⟨(before.1.step inOrder.fit oldSeries spared stepped).of_identity identity,
        inOrder.onCourse_step known keeps stepped oldFound oldSeries before.1 live before.2⟩
    · exact absurd series (not_sameSeries_of_created spared created)

end InOrder

/-! ## One by one -/

theorem endedRow_id {ended : SLOEvaluation} {phase : Phase} (ends : endedRow row phase = some ended) :
    ended.id = row.id := by
  cases phase with
  | failing error =>
      cases ends
      rfl
  | writing snapshot sloDef fetchResult =>
      rcases Option.map_eq_some_iff.mp ends with ⟨indicatorRows, _, rfl⟩
      rfl
  | _ => cases ends

def aloneRow (adapter : AdapterQuery -> AdapterOutcome) (db : Database) (row : SLOEvaluation) :
    SLOEvaluation :=
  (endedRow row (scoringPhase db adapter (snapshotOf db row))).getD row

theorem aloneRow_id (adapter : AdapterQuery -> AdapterOutcome) (db : Database)
    (row : SLOEvaluation) : (aloneRow adapter db row).id = row.id := by
  unfold aloneRow
  cases ends : endedRow row (scoringPhase db adapter (snapshotOf db row)) with
  | none => rfl
  | some ended => exact endedRow_id ends

/-- An evaluation runs alone: it is scored against the database, and the end is written. -/
def runAlone (adapter : AdapterQuery -> AdapterOutcome) (db : Database) (row : SLOEvaluation) :
    Database :=
  { db with
    evaluations :=
      db.evaluations.update row.id (aloneRow adapter db) (aloneRow_id adapter db) }

/-- The live ones among the earlier evaluations, in the order of their periods. -/
def waitingRows (assetId : Nat) (sloName : String) (periodStart : Instant) (table : Evaluations) :
    List SLOEvaluation :=
  ((earlierRows assetId sloName periodStart table).filter fun row => row.Live).insertionSort
    fun row other => row.periodStart ≤ other.periodStart

/-- The database after the evaluations before the given time have run one by one, in
the order of their periods. -/
def oneByOne (adapter : AdapterQuery -> AdapterOutcome) (assetId : Nat) (sloName : String)
    (periodStart : Instant) (db : Database) : Database :=
  (waitingRows assetId sloName periodStart db.evaluations).foldl (runAlone adapter) db

theorem mem_waitingRows :
    row ∈ waitingRows assetId sloName periodStart table ↔
      (row ∈ table.rows ∧ Earlier assetId sloName periodStart row) ∧ row.Live := by
  unfold waitingRows
  rw [List.mem_insertionSort, List.mem_filter, mem_earlierRows, decide_eq_true_eq]

theorem waitingRows_ordered (assetId : Nat) (sloName : String) (periodStart : Instant)
    (table : Evaluations) :
    (waitingRows assetId sloName periodStart table).Pairwise fun row other =>
      row.periodStart ≤ other.periodStart ∧ row ≠ other := by
  have total : Std.Total fun row other : SLOEvaluation => row.periodStart ≤ other.periodStart :=
    ⟨fun row other => le_total row.periodStart other.periodStart⟩
  have transitive : IsTrans SLOEvaluation fun row other => row.periodStart ≤ other.periodStart :=
    ⟨fun _ _ _ before after => le_trans before after⟩
  have distinct : (waitingRows assetId sloName periodStart table).Nodup :=
    (List.perm_insertionSort _ _).nodup_iff.mpr
      ((table.nodup.of_map _).filter _ |>.filter _)
  exact (List.pairwise_insertionSort _ _).and distinct

/-- A change that keeps what identifies a row leaves the earlier rows in their places. -/
theorem earlierRows_ids {later : Evaluations} {change : SLOEvaluation -> SLOEvaluation}
    {created : List SLOEvaluation} (rows : later.rows = table.rows.map change ++ created)
    (keeps : forall row, row ∈ table.rows -> (change row).id = row.id ∧
      (Earlier assetId sloName periodStart (change row) ↔ Earlier assetId sloName periodStart row))
    (others : forall row, row ∈ created -> ¬ Earlier assetId sloName periodStart row) :
    (earlierRows assetId sloName periodStart later).map (·.id) =
      (earlierRows assetId sloName periodStart table).map (·.id) := by
  unfold earlierRows
  have noneCreated : created.filter (fun row => decide (Earlier assetId sloName periodStart row)) =
      [] :=
    List.filter_eq_nil_iff.mpr fun row member => by
      rw [decide_eq_true_eq]
      exact others row member
  rw [rows, List.filter_append, noneCreated, List.append_nil, List.filter_map, List.map_map]
  have sameSelection : table.rows.filter
      ((fun row => decide (Earlier assetId sloName periodStart row)) ∘ change) =
      table.rows.filter fun row => decide (Earlier assetId sloName periodStart row) :=
    List.filter_congr fun row member => decide_eq_decide.mpr (keeps row member).2
  rw [sameSelection]
  exact List.map_congr_left fun row member => (keeps row (List.mem_filter.mp member).1).1

/-- Two tables have the same earlier rows in the same places, apart from the times of
start. -/
theorem earlierRows_untimed {other : Evaluations}
    (ids : (earlierRows assetId sloName periodStart other).map (·.id) =
      (earlierRows assetId sloName periodStart table).map (·.id))
    (agree : forall row, row ∈ earlierRows assetId sloName periodStart table ->
      (other.find row.id).map untimed = some (untimed row)) :
    (earlierRows assetId sloName periodStart other).map untimed =
      (earlierRows assetId sloName periodStart table).map untimed := by
  have looked : forall table : Evaluations,
      (earlierRows assetId sloName periodStart table).map (fun row => some (untimed row)) =
        ((earlierRows assetId sloName periodStart table).map (·.id)).map fun id =>
          (table.find id).map untimed := by
    intro table
    rw [List.map_map]
    refine List.map_congr_left fun row member => ?_
    have found : table.find row.id = some row :=
      find_of_mem (mem_earlierRows.mp member).1
    rw [Function.comp_apply, found]
    rfl
  apply List.map_injective_iff.mpr (Option.some_injective SLOEvaluation)
  rw [List.map_map, List.map_map]
  change (earlierRows assetId sloName periodStart other).map (fun row => some (untimed row)) =
    (earlierRows assetId sloName periodStart table).map fun row => some (untimed row)
  rw [looked, ids, List.map_map]
  refine List.map_congr_left fun row member => ?_
  exact agree row member

section OneByOne

variable {settings : Settings} {adapter : AdapterQuery -> AdapterOutcome} {assetId : Nat}
  {sloName : String} {start w next : World} {action : Action} {row : SLOEvaluation}
  {db : Database} {rest : List SLOEvaluation} {periodStart : Instant}

/-- The tables have the same evaluations of the series before any time, in the same
places. -/
def SamePlaces (assetId : Nat) (sloName : String) (table later : Evaluations) : Prop :=
  forall periodStart, (earlierRows assetId sloName periodStart later).map (·.id) =
    (earlierRows assetId sloName periodStart table).map (·.id)

theorem SamePlaces.step (fit : AllFit w)
    (spared : sparesEnded settings assetId sloName w action = true)
    (stepped : Worker.step settings w action = some next) :
    SamePlaces assetId sloName w.db.evaluations next.db.evaluations := by
  intro periodStart
  rcases step_table stepped with ⟨created, rows, origin⟩
  refine earlierRows_ids rows (fun row member => ?_) (fun row member earlier => ?_)
  · have same := rowAfter_identity settings action fit (find_of_mem member)
    exact ⟨rowAfter_id _ row, same.earlier⟩
  · rcases origin row member with ⟨triggerId, request, rfl, creates⟩
    exact not_sameSeries_of_created spared creates earlier.1

/-- How far a one-by-one run has come: the evaluations of the list are still as they
were, and the other earlier ones are as the given world has them. -/
structure Progress (assetId : Nat) (sloName : String) (periodStart : Instant) (start : Database)
    (w : World) (db : Database) (rest : List SLOEvaluation) : Prop where
  definitions : SameDefinitions start db
  runs : db.runs = start.runs
  noPin : forall row, row ∈ db.evaluations.rows -> row.baselinePinnedAt = none
  places : SamePlaces assetId sloName start.evaluations db.evaluations
  left : forall row, row ∈ rest -> db.evaluations.find row.id = some row
  done : forall row, row ∈ earlierRows assetId sloName periodStart start.evaluations ->
    row ∉ rest -> (db.evaluations.find row.id).map untimed =
      (w.db.evaluations.find row.id).map untimed

section Compared

variable (inOrder : InOrder adapter assetId sloName start w)
  (places : SamePlaces assetId sloName start.db.evaluations w.db.evaluations)
  (progress : Progress assetId sloName periodStart start.db w db rest)

include inOrder places progress

theorem Progress.sameRows {time : Instant}
    (first : forall other, other ∈ rest -> time ≤ other.periodStart) (before : time ≤ periodStart) :
    (earlierRows assetId sloName time db.evaluations).map untimed =
      (earlierRows assetId sloName time w.db.evaluations).map untimed := by
  refine earlierRows_untimed ((progress.places _).trans (places _).symm) fun later member => ?_
  rcases mem_earlierRows.mp member with ⟨inside, laterEarlier⟩
  have found := find_of_mem inside
  rcases inOrder.rows later.id later found laterEarlier.1 with ⟨origin, there, follows⟩
  have originEarlier := follows.identity.earlier.mp laterEarlier
  have notLeft : origin ∉ rest := fun isLeft =>
    absurd (first origin isLeft) (not_le.mpr originEarlier.2)
  have same := progress.done origin (mem_earlierRows.mpr ⟨find_mem there,
    originEarlier.1, lt_of_lt_of_le originEarlier.2 before⟩) notLeft
  have key : origin.id = later.id := find_key there
  rw [key, found] at same
  exact same

variable (snapshot : EvaluationSnapshot) (asset : snapshot.assetId = assetId)
  (name : snapshot.sloName = sloName)
  (first : forall other, other ∈ rest -> snapshot.periodStart ≤ other.periodStart)
  (before : snapshot.periodStart ≤ periodStart)

include asset name first before

theorem Progress.baselines (slo : SLO) (evaluationName : String) :
    resolveBaselines db.evaluations slo snapshot evaluationName =
      resolveBaselines w.db.evaluations slo snapshot evaluationName := by
  have sameRows := progress.sameRows inOrder places first before
  have noPin : activePinStart db.evaluations assetId sloName = none := by
    refine activePinStart_eq_none (fun row member => ?_) assetId sloName
    unfold SLOEvaluation.isPinned
    rw [progress.noPin row member]
    rfl
  subst asset name
  exact resolveBaselines_of_untimed inOrder.recorded.noPin noPin sameRows slo evaluationName

theorem Progress.scoring : scoringPhase db adapter snapshot = scoringPhase w.db adapter snapshot := by
  refine scoringPhase_congr ?_
    (progress.baselines inOrder places snapshot asset name first before) adapter
  exact ⟨progress.definitions.slo.trans inOrder.definitions.slo.symm,
    progress.definitions.sli.trans inOrder.definitions.sli.symm,
    progress.definitions.sources.trans inOrder.definitions.sources.symm⟩

end Compared

theorem runAlone_places (there : db.evaluations.find row.id = some row)
    (same : SameIdentity row (aloneRow adapter db row)) :
    SamePlaces assetId sloName db.evaluations (runAlone adapter db row).evaluations := by
  intro periodStart
  have rows : (runAlone adapter db row).evaluations.rows =
      (db.evaluations.rows.map fun other =>
        if other.id = row.id then aloneRow adapter db other else other) ++ [] := by
    rw [List.append_nil]
    exact update_rows db.evaluations row.id (aloneRow adapter db)
      (aloneRow_id adapter db)
  refine earlierRows_ids rows (fun other member => ?_)
    fun _ created => absurd created List.not_mem_nil
  by_cases key : other.id = row.id
  · have found : db.evaluations.find row.id = some other := by
      rw [<- key]
      exact find_of_mem member
    cases Option.some.inj (found.symm.trans there)
    rw [if_pos rfl]
    exact ⟨aloneRow_id adapter db row, same.earlier⟩
  · rw [if_neg key]
    exact ⟨rfl, Iff.rfl⟩

section Replay

variable (inOrder : InOrder adapter assetId sloName start w)
  (places : SamePlaces assetId sloName start.db.evaluations w.db.evaluations)
  (kept : RowsKept start w) (ended : LiveWithin assetId sloName periodStart (fun _ => False) w)

include inOrder places kept ended

theorem Progress.step (progress : Progress assetId sloName periodStart start.db w db (row :: rest))
    (ordered : (row :: rest).Pairwise fun row other =>
      row.periodStart ≤ other.periodStart ∧ row ≠ other)
    (waiting : forall other, other ∈ row :: rest ->
      other ∈ waitingRows assetId sloName periodStart start.db.evaluations) :
    Progress assetId sloName periodStart start.db w (runAlone adapter db row) rest := by
  rcases List.pairwise_cons.mp ordered with ⟨first, _⟩
  rcases mem_waitingRows.mp (waiting row List.mem_cons_self) with ⟨⟨member, earlier⟩, live⟩
  have original := find_of_mem member
  have there := progress.left row List.mem_cons_self
  have sameSnapshot : snapshotOf db row = snapshotOf start.db row := by
    unfold snapshotOf
    rw [progress.runs]
  have scoring := progress.scoring inOrder places (snapshotOf start.db row) earlier.1.1
    earlier.1.2 (List.forall_mem_cons.mpr ⟨le_rfl, fun other isLeft => (first other isLeft).1⟩)
    earlier.2.le
  rcases kept row.id row original with ⟨final, found, same⟩
  have finalEarlier := same.earlier.mpr earlier
  have finalEnded : ¬ final.Live := ended row.id final found finalEarlier
  rcases inOrder.rows row.id final found finalEarlier.1 with ⟨origin, originThere, follows⟩
  cases Option.some.inj (originThere.symm.trans original)
  rcases follows.ended finalEnded with unchanged | ⟨_, _, scored⟩
  · rw [unchanged] at finalEnded
    exact absurd live finalEnded
  rw [<- scoring, <- sameSnapshot] at scored
  rcases Option.map_eq_some_iff.mp scored with ⟨result, ends, sameResult⟩
  have alone : aloneRow adapter db row = result := by
    unfold aloneRow
    rw [ends, Option.getD_some]
  have resultSame : SameIdentity row result := by
    have columns : SameIdentity row (untimed result) := by
      rw [sameResult]
      exact ⟨same.assetId, same.sloName, same.sloVersion, same.periodStart, same.baselinePinnedAt⟩
    exact ⟨columns.assetId, columns.sloName, columns.sloVersion, columns.periodStart,
      columns.baselinePinnedAt⟩
  have distinct : forall other, other ∈ start.db.evaluations.rows -> other ≠ row ->
      other.id ≠ row.id := fun other inside different key =>
    different (eq_of_key inside member key)
  have after : (runAlone adapter db row).evaluations.find row.id = some result := by
    change (db.evaluations.update row.id _ (aloneRow_id adapter db)).find row.id = _
    rw [find_update, if_pos rfl, there, Option.map_some, alone]
  have others : forall other, other ∈ start.db.evaluations.rows -> other ≠ row ->
      (runAlone adapter db row).evaluations.find other.id = db.evaluations.find other.id :=
    fun other inside different =>
      find_update_of_ne _ _ (aloneRow_id adapter db) (distinct other inside different)
  exact
    { definitions := ⟨progress.definitions.slo, progress.definitions.sli, progress.definitions.sources⟩
      runs := progress.runs
      noPin := by
        intro other inside
        rcases (mem_update _ _ _ (aloneRow_id adapter db) other).mp inside with
          ⟨before, _⟩ | ⟨old, oldFound, rfl⟩
        · exact progress.noPin other before
        · cases Option.some.inj (oldFound.symm.trans there)
          rw [alone, resultSame.baselinePinnedAt]
          exact progress.noPin row (find_mem there)
      places := fun bound =>
        (runAlone_places there (alone ▸ resultSame) bound).trans (progress.places bound)
      left := by
        intro other isLeft
        have inside := (mem_waitingRows.mp (waiting other (List.mem_cons_of_mem row isLeft))).1.1
        rw [others other inside (first other isLeft).2.symm]
        exact progress.left other (List.mem_cons_of_mem row isLeft)
      done := by
        intro other inside notLeft
        by_cases isRow : other = row
        · rw [isRow, after, found, Option.map_some, Option.map_some, sameResult]
        · rw [others other (mem_earlierRows.mp inside).1 isRow]
          exact progress.done other inside fun isLeft =>
            (List.mem_cons.mp isLeft).elim isRow notLeft }

theorem Progress.run (progress : Progress assetId sloName periodStart start.db w db rest)
    (ordered : rest.Pairwise fun row other => row.periodStart ≤ other.periodStart ∧ row ≠ other)
    (waiting : forall other, other ∈ rest ->
      other ∈ waitingRows assetId sloName periodStart start.db.evaluations) :
    Progress assetId sloName periodStart start.db w (rest.foldl (runAlone adapter) db) [] := by
  induction rest generalizing db with
  | nil => exact progress
  | cons row rest ih =>
      exact ih (progress.step inOrder places kept ended ordered waiting)
        (List.pairwise_cons.mp ordered).2
        fun other isLeft => waiting other (List.mem_cons_of_mem row isLeft)

omit places in
/-- Before anything has run, an earlier evaluation that is not waiting has ended, and
is as it was in the world as well. -/
theorem progress_start (recorded : AllRecorded start) :
    Progress assetId sloName periodStart start.db w start.db
      (waitingRows assetId sloName periodStart start.db.evaluations) := by
  refine ⟨⟨rfl, rfl, rfl⟩, rfl, fun row member => ?_, fun _ => rfl, fun row isLeft => ?_,
    fun row inside notLeft => ?_⟩
  · exact (recorded row.id row (find_of_mem member)).notPinned
  · exact find_of_mem (mem_waitingRows.mp isLeft).1.1
  · rcases mem_earlierRows.mp inside with ⟨member, earlier⟩
    have original := find_of_mem member
    rcases kept row.id row original with ⟨final, found, same⟩
    have finalEarlier := same.earlier.mpr earlier
    rcases inOrder.rows row.id final found finalEarlier.1 with ⟨origin, originThere, follows⟩
    cases Option.some.inj (originThere.symm.trans original)
    rcases follows.ended (ended row.id final found finalEarlier) with unchanged | ⟨live, _, _⟩
    · rw [found, unchanged]
      exact congrArg _ original
    · exact absurd (mem_waitingRows.mpr ⟨⟨member, earlier⟩, live⟩) notLeft

theorem progress_oneByOne (recorded : AllRecorded start) :
    Progress assetId sloName periodStart start.db w
      (oneByOne adapter assetId sloName periodStart start.db) [] := by
  have progress := progress_start inOrder kept ended recorded
  exact progress.run inOrder places kept ended (waitingRows_ordered _ _ _ _) fun _ isLeft => isLeft

end Replay

end OneByOne

/-! ## Two runs -/

section Runs

variable {settings : Settings} {adapter : AdapterQuery -> AdapterOutcome} {assetId : Nat}
  {sloName : String} {start w other : World} {actions others : List Action}

/-- A run in which no job is under way at first, and every step meets the condition. -/
structure Orderly (settings : Settings) (adapter : AdapterQuery -> AdapterOutcome) (assetId : Nat)
    (sloName : String) (start w : World) (actions : List Action) : Prop where
  ran : exec (step settings) start actions = some w
  keeps : Along (step settings)
    (fun w action => keepsOrder settings assetId sloName w action = true) start actions
  asks : forall action, action ∈ actions -> AsksOnly adapter action

theorem inOrder_start (reached : Reachable settings start) (idle : start.executions.rows = []) :
    InOrder adapter assetId sloName start start where
  fit := allFit_of_reachable reached
  recorded := allRecorded_of_reachable reached
  definitions := ⟨rfl, rfl, rfl⟩
  runs := fun _ _ found => found
  rows := fun id row found _ =>
    ⟨row, found, .refl row, fun live => ⟨live, rfl⟩, fun _ => Or.inl rfl⟩
  executions := by
    intro execution member
    rw [idle] at member
    exact absurd member List.not_mem_nil

section Ends

variable (orderly : Orderly settings adapter assetId sloName start w actions)
  (reached : Reachable settings start) (idle : start.executions.rows = [])

include orderly reached

theorem Orderly.places : SamePlaces assetId sloName start.db.evaluations w.db.evaluations := by
  have preserves : forall middle action next,
      AllFit middle ∧ SamePlaces assetId sloName start.db.evaluations middle.db.evaluations ->
      keepsOrder settings assetId sloName middle action = true ->
      step settings middle action = some next ->
        AllFit next ∧ SamePlaces assetId sloName start.db.evaluations next.db.evaluations :=
    fun _ _ _ holds keeps stepped => ⟨holds.1.step stepped, fun periodStart =>
      (SamePlaces.step holds.1 (Bool.and_eq_true_iff.mp keeps).1 stepped periodStart).trans
        (holds.2 periodStart)⟩
  exact (exec_preserves_along preserves ⟨allFit_of_reachable reached, fun _ => rfl⟩ orderly.keeps
    orderly.ran).2

include idle

theorem Orderly.inOrder : InOrder adapter assetId sloName start w := by
  have known := runsKnown_of_reachable reached
  have preserves : forall middle action next,
      InOrder adapter assetId sloName start middle ∧ RunsKnown middle ->
      keepsOrder settings assetId sloName middle action = true ∧ AsksOnly adapter action ->
      step settings middle action = some next ->
        InOrder adapter assetId sloName start next ∧ RunsKnown next :=
    fun _ _ _ holds guarded stepped =>
      ⟨holds.1.step known holds.2 guarded.1 guarded.2 stepped, holds.2.step stepped⟩
  exact (exec_preserves_along preserves ⟨inOrder_start reached idle, known⟩
    (along_and orderly.keeps (along_of_mem fun _ action member => orderly.asks action member))
    orderly.ran).1

theorem Orderly.progress {periodStart : Instant}
    (ended : LiveWithin assetId sloName periodStart (fun _ => False) w) :
    Progress assetId sloName periodStart start.db w
      (oneByOne adapter assetId sloName periodStart start.db) [] := by
  have kept := rowsKept_exec (allFit_of_reachable reached) orderly.ran
  exact progress_oneByOne (orderly.inOrder reached idle) (orderly.places reached) kept ended
    (allRecorded_of_reachable reached)

variable {own : SLOEvaluation} (member : own ∈ start.db.evaluations.rows)
  (series : own.SameSeries assetId sloName) (live : own.Live)

include member series live

theorem Orderly.reads {reading : Execution} (inside : reading ∈ w.executions.rows)
    (about : reading.message.evalId = own.id) {snapshot : EvaluationSnapshot}
    {sloDef : SLODefinition} {sliDef : SLIDefinition} {datasource : DataSource}
    (reads : reading.phase = .fetching snapshot sloDef sliDef datasource) (slo : SLO)
    (evaluationName : String) :
    resolveBaselines w.db.evaluations slo snapshot evaluationName =
      resolveBaselines (oneByOne adapter assetId sloName own.periodStart start.db).evaluations slo
        snapshot evaluationName := by
  have inOrder := orderly.inOrder reached idle
  have original := find_of_mem member
  rcases (inOrder.fit reading inside).row snapshot (by rw [reads]; rfl) with
    ⟨sameId, row, rowFound, fitted⟩
  rw [sameId, about] at rowFound
  rcases rowsKept_exec (allFit_of_reachable reached) orderly.ran own.id own original with
    ⟨after, afterFound, same⟩
  cases Option.some.inj (afterFound.symm.trans rowFound)
  have rowSeries : row.SameSeries assetId sloName :=
    same.sameSeries.mpr series
  have earlier : EarlierEnded row w := by
    by_cases rowLive : row.Live
    · refine (inOrder.executions reading inside row ?_ rowSeries rowLive ?_).1
      · rw [about]
        exact rowFound
      · rw [reads]
        rfl
    · rcases inOrder.rows own.id row rowFound rowSeries with ⟨origin, there, follows⟩
      cases Option.some.inj (there.symm.trans original)
      rcases follows.ended rowLive with unchanged | ⟨_, earlier, _⟩
      · rw [unchanged] at rowLive
        exact absurd live rowLive
      · exact earlier
  unfold EarlierEnded at earlier
  rw [rowSeries.1, rowSeries.2, same.periodStart] at earlier
  have progress := orderly.progress reached idle earlier
  exact (progress.baselines inOrder (orderly.places reached) snapshot
    (fitted.assetId.symm.trans rowSeries.1) (fitted.sloName.symm.trans rowSeries.2)
    (fun _ isLeft => absurd isLeft List.not_mem_nil)
    (fitted.periodStart.symm.trans same.periodStart).le slo evaluationName).symm

omit member series live in
theorem Orderly.ends {id : Nat} {own row : SLOEvaluation}
    (original : start.db.evaluations.find id = some own) (series : own.SameSeries assetId sloName)
    (live : own.Live) (found : w.db.evaluations.find id = some row) (ended : ¬ row.Live) :
    untimed row = untimed (aloneRow adapter
      (oneByOne adapter assetId sloName own.periodStart start.db) own) := by
  have inOrder := orderly.inOrder reached idle
  rcases rowsKept_exec (allFit_of_reachable reached) orderly.ran id own original with
    ⟨after, afterFound, same⟩
  cases Option.some.inj (afterFound.symm.trans found)
  have rowSeries : row.SameSeries assetId sloName :=
    same.sameSeries.mpr series
  rcases inOrder.rows id row found rowSeries with ⟨origin, there, follows⟩
  cases Option.some.inj (there.symm.trans original)
  rcases follows.ended ended with unchanged | ⟨_, earlier, scored⟩
  · rw [unchanged] at ended
    exact absurd live ended
  · unfold EarlierEnded at earlier
    rw [rowSeries.1, rowSeries.2, same.periodStart] at earlier
    have progress := orderly.progress reached idle earlier
    have sameSnapshot : snapshotOf (oneByOne adapter assetId sloName own.periodStart start.db) own =
        snapshotOf start.db own := by
      unfold snapshotOf
      rw [progress.runs]
    have scoring := progress.scoring inOrder (orderly.places reached)
      (snapshotOf start.db own) series.1 series.2
      (fun _ isLeft => absurd isLeft List.not_mem_nil) le_rfl
    rw [<- scoring, <- sameSnapshot] at scored
    rcases Option.map_eq_some_iff.mp scored with ⟨result, ends, sameResult⟩
    unfold aloneRow
    rw [ends, Option.getD_some, sameResult]

end Ends

end Runs

def Sample.twoEvaluations : List Action :=
  [.trigger 1 (request 1 10 0), .trigger 2 (request 2 20 3600000000), .triggerEnqueue 1,
    .triggerEnqueue 2]

/-- The job of the earlier evaluation runs to its end, and that of the later one
is delivered. -/
def Sample.inOrder : List Action :=
  twoEvaluations ++ [.deliver 1 0] ++ wholeJob 1 ++ [.deliver 2 1]

end Worker
end Tropek
