import Tropek.Presentation.Scorings
import Tropek.Store.RunRepository
import Tropek.Worker.Delivery
import Tropek.Worker.Measurements

namespace Tropek
namespace Presentation

open Library TransitionSystem Engine Store KeyedTable

/-!
# Recording an evaluation

A job records an evaluation in two transactions.  Phase 3a completes it and inserts its
indicator rows, and phase 3b inserts their values a second time, for the trends.  Between
the two the evaluation is completed without values.

A job that is delivered again after a crash sets the evaluation back to running and is then
refused by the unique constraint of the indicator rows, so nothing makes up for a phase 3b
that has not taken place.
-/

/-- The worker, without the users.  The finalize jobs and the sweeper update a run, with
whatever they have computed. -/
inductive RecordingEvent where
  | work (action : Worker.Action)
  | writeSliValues (executionId : Nat)
  | finalize (runId : Nat) (values : RunValues)

/-- A step of the worker, the transaction of phase 3b for a scored evaluation, or the
completion of a run. -/
def recordingStep (settings : Worker.Settings) (s : Installation) :
    RecordingEvent -> Option Installation
  | .work action => step settings s (.work action)
  | .writeSliValues executionId => step settings s (.writeSliValues executionId)
  | .finalize runId values =>
      some { s with world := { s.world with
        db := { s.world.db with runs := finalizeRun s.world.db.runs runId values } } }

def SparesValues (evalId : Nat) (s : Installation) : RecordingEvent -> Prop
  | .work (.crash executionId) => forall scored, scored ∈ s.scored ->
      scored.executionId = executionId -> scored.evalId ≠ evalId
  | _ => True

instance (evalId : Nat) (s : Installation) : forall event, Decidable (SparesValues evalId s event)
  | .work (.crash _) => List.decidableBAll _ _
  | .work (.wait _) | .work (.trigger _ _) | .work (.triggerEnqueue _) | .work (.triggerEnd _)
  | .work (.deliver _ _) | .work (.advance _ _ _ _) | .work (.acknowledge _)
  | .work (.watchdogFind _) | .work (.watchdogUpdate _) | .work (.watchdogEnqueue _)
  | .work (.watchdogEnd _) | .writeSliValues _ | .finalize _ _ => .isTrue trivial

def metricsOf (evaluation : SLOEvaluation) : List String :=
  evaluation.indicatorRows.rows.map (·.objective.sli)

def HasRows (db : Database) (evalId : Nat) (metrics : List String) : Prop :=
  Exists fun evaluation => db.evaluations.find evalId = some evaluation ∧
    evaluation.indicatorRows.rows ≠ [] ∧ metricsOf evaluation = metrics

def Awaits (w : Worker.World) (scored : ScoredExecution) : Prop :=
  Exists fun execution => w.executions.find scored.executionId = some execution ∧
    execution.message.evalId = scored.evalId ∧
    Exists fun runId => execution.phase = .wrappingUp runId

/-- The invariant of the run.  An evaluation is scored once, and its values are written
once, by the execution that has scored it. -/
structure Recording (s : Installation) : Prop where
  measured : Worker.Measured s.world
  measures : AllMeasure s.world
  awaits : forall scored, scored ∈ s.scored -> Awaits s.world scored
  apart : (s.scored.map (·.evalId)).Nodup
  scoredRows : forall scored, scored ∈ s.scored ->
    HasRows s.world.db scored.evalId (scored.indicatorResults.map (·.metric))
  valueRows : forall sliValue, sliValue ∈ s.sliValues ->
    Exists fun metrics => HasRows s.world.db sliValue.sloEvaluationId metrics
  unwritten : forall scored, scored ∈ s.scored -> forall sliValue, sliValue ∈ s.sliValues ->
    sliValue.sloEvaluationId ≠ scored.evalId
  keys : (s.sliValues.map SLIValue.key).Nodup
  results : forall id evaluation, s.world.db.evaluations.find id = some evaluation ->
    evaluation.status = .completed -> evaluation.result ≠ none

def Covered (s : Installation) (evalId : Nat) : Prop :=
  forall evaluation, s.world.db.evaluations.find evalId = some evaluation ->
    (Exists fun scored => scored ∈ s.scored ∧ scored.evalId = evalId) ∨
      forall metric, metric ∈ metricsOf evaluation ->
        (evalId, metric) ∈ s.sliValues.map SLIValue.key

section Work

variable {settings : Worker.Settings} {s next : Installation} {action : Worker.Action}

/-- An action commits phase 3a of an evaluation, or it scores none and adds nothing to what
awaits phase 3b. -/
theorem work_cases (s : Installation) (action : Worker.Action) :
    (Exists fun executionId => Exists fun workerId => Exists fun checkFails =>
      Exists fun adapter => Exists fun snapshot => Exists fun sloDef => Exists fun fetchResult =>
        action = .advance executionId workerId checkFails adapter ∧
          writingOf s.world executionId = some (snapshot, sloDef, fetchResult)) ∨
      (forall evalId scoring, ¬ Scores s (.work action) evalId scoring) ∧
        (scoredAfter s action = s.scored ∨ Exists fun executionId =>
          action = .crash executionId ∧
            scoredAfter s action = s.scored.filter (·.executionId ≠ executionId)) := by
  cases action with
  | advance executionId workerId checkFails adapter =>
      cases writing : writingOf s.world executionId with
      | none =>
          refine Or.inr ⟨fun evalId scoring scores => ?_, Or.inl ?_⟩
          · cases scores with
            | worker isWriting =>
                rw [writing] at isWriting
                cases isWriting
          · simp only [scoredAfter, writing]
      | some found =>
          exact Or.inl ⟨executionId, workerId, checkFails, adapter, found.1, found.2.1, found.2.2, rfl,
            writing⟩
  | crash executionId =>
      refine Or.inr ⟨fun evalId scoring scores => ?_, Or.inr ⟨executionId, rfl, rfl⟩⟩
      cases scores
  | _ =>
      refine Or.inr ⟨fun evalId scoring scores => ?_, Or.inl rfl⟩
      cases scores

structure Completes (s : Installation) (world : Worker.World) (executionId : Nat)
    (snapshot : Worker.EvaluationSnapshot) (fetchResult : Worker.FetchAndEvaluateResult) :
    Prop where
  blank : forall evaluation, s.world.db.evaluations.find snapshot.evalId = some evaluation ->
    evaluation.indicatorRows.rows = []
  rows : HasRows world.db snapshot.evalId (fetchResult.evalResult.indicatorResults.map (·.metric))
  awaits : Awaits world
    { executionId
      evalId := snapshot.evalId
      indicatorResults := fetchResult.evalResult.indicatorResults }

theorem completes_of_writing {executionId : Nat} {workerId : Option String} {checkFails : Bool}
    {adapter : Worker.AdapterQuery -> Worker.AdapterOutcome} {world : Worker.World}
    {snapshot : Worker.EvaluationSnapshot} {sloDef : SLODefinition}
    {fetchResult : Worker.FetchAndEvaluateResult} (measured : Worker.Measured s.world)
    (worked : Worker.step settings s.world (.advance executionId workerId checkFails adapter) =
      some world)
    (writing : writingOf s.world executionId = some (snapshot, sloDef, fetchResult)) :
    Completes s world executionId snapshot fetchResult := by
  rcases writingOf_eq_some writing with ⟨⟨execution, found, phase⟩, write, completed⟩
  have fits := measured.executions execution (find_mem found)
  have result := fits.result snapshot sloDef fetchResult phase
  have snapshotIs := (fits.row snapshot (by rw [phase]; rfl)).1
  have written : (Worker.Action.advance executionId workerId checkFails adapter).write settings
      s.world = some write := by
    unfold Worker.Action.write
    dsimp only
    rw [found, Option.bind_some, phase]
    exact completed
  rcases completedWrite_rows result completed with ⟨target, before, stored, rows⟩
  have completion : write.change.isCompletion = true := by
    rcases Worker.completedWrite_eq_some result completed with ⟨_, _, _, _, same⟩
    rw [same]
    rfl
  have noRows : before.indicatorRows.rows = [] := by
    refine Worker.completion_noRows measured.executions written completion ?_
      (measured.rows _ before stored)
    rw [target]
    exact stored
  rw [noRows, List.nil_append] at rows
  refine ⟨fun evaluation sameStored => ?_, ?_, ?_⟩
  · rw [stored] at sameStored
    cases sameStored
    exact noRows
  · refine ⟨_, Worker.step_find worked stored, ?_, ?_⟩
    · rw [written, rows]
      intro empty
      have objectives := buildIndicatorRows_objectives result.1
      rw [empty] at objectives
      exact scoredObjectives_ne_nil result.2 objectives.symm
    · unfold metricsOf
      rw [written, rows, result.1, <- scoredObjectives_metrics,
        <- buildIndicatorRows_objectives result.1, List.map_map]
      rfl
  · rcases Worker.step_advance worked with ⟨advancing, outcome, sameFound, advanced, same⟩
    rw [found] at sameFound
    cases sameFound
    rw [phase] at advanced
    unfold Worker.advance at advanced
    dsimp only at advanced
    rw [Worker.writeResults_eq, completed] at advanced
    cases advanced
    refine ⟨{ execution with phase := .wrappingUp snapshot.parentRunId }, ?_, snapshotIs.symm, _, rfl⟩
    have moved : (s.world.executions.update executionId
        (fun execution => { execution with phase := .wrappingUp snapshot.parentRunId })
        fun _ => rfl).find executionId =
          some { execution with phase := .wrappingUp snapshot.parentRunId } := by
      rw [find_update, if_pos rfl, found]
      rfl
    rw [same]
    exact moved

variable {evaluation : SLOEvaluation} {evalId : Nat}

theorem Recording.rows_stay (recording : Recording s)
    (stepped : step settings s (.work action) = some next)
    (stored : s.world.db.evaluations.find evalId = some evaluation)
    (filled : evaluation.indicatorRows.rows ≠ []) :
    Exists fun after => next.world.db.evaluations.find evalId = some after ∧
      after.indicatorRows = evaluation.indicatorRows := by
  refine indicatorRows_of_unscored recording.measures stepped stored fun scoring scores => ?_
  rcases step_work stepped with ⟨world, worked, _⟩
  cases scores with
  | worker writing =>
      exact filled ((completes_of_writing recording.measured worked writing).blank evaluation stored)

theorem Recording.hasRows_stay (recording : Recording s)
    (stepped : step settings s (.work action) = some next) {metrics : List String}
    (has : HasRows s.world.db evalId metrics) : HasRows next.world.db evalId metrics := by
  rcases has with ⟨evaluation, stored, filled, isMetrics⟩
  rcases recording.rows_stay stepped stored filled with ⟨after, found, same⟩
  refine ⟨after, found, ?_, ?_⟩
  · rw [same]
    exact filled
  · unfold metricsOf at isMetrics ⊢
    rw [same]
    exact isMetrics

theorem Recording.awaits_stay (recording : Recording s)
    (stepped : step settings s (.work action) = some next) {scored : ScoredExecution}
    (inside : scored ∈ s.scored) (alive : action ≠ .crash scored.executionId) :
    Awaits next.world scored := by
  rcases recording.awaits scored inside with ⟨execution, found, isEval, runId, phase⟩
  have unfinished : ¬ execution.phase.Ended := by
    rw [phase]
    exact id
  rcases step_work stepped with ⟨world, worked, same⟩
  rcases Worker.step_find_execution worked found unfinished with
    stays | died | ⟨workerId, checkFails, adapter, isAdvance⟩
  · exact ⟨execution, same ▸ stays, isEval, runId, phase⟩
  · exact absurd died alive
  · have blocked : awaitsValues s action = true := by
      rw [isAdvance]
      exact List.any_eq_true.mpr ⟨scored, inside, decide_eq_true rfl⟩
    unfold step at stepped
    simp only [blocked, if_true] at stepped
    cases stepped

theorem results_of_work (recording : Recording s)
    (stepped : step settings s (.work action) = some next) {id : Nat}
    (found : next.world.db.evaluations.find id = some evaluation)
    (completed : evaluation.status = .completed) : evaluation.result ≠ none := by
  rcases step_work stepped with ⟨world, worked, same⟩
  rw [same] at found
  rcases Worker.step_find_origin worked found with
    ⟨old, oldFound, isAfter⟩ | ⟨_, _, _, _, _, _, _, isNew⟩
  · subst isAfter
    revert completed
    unfold Worker.rowAfter
    cases action.write settings s.world with
    | none => exact recording.results id old oldFound
    | some write =>
        dsimp only
        split
        · cases write.change with
          | completed values indicatorRows =>
              intro _ missing
              cases indicatorRows <;> cases missing
          | _ =>
              intro impossible
              cases impossible
        · exact recording.results id old oldFound
  · rw [isNew] at completed
    cases completed

theorem Recording.work (recording : Recording s)
    (stepped : step settings s (.work action) = some next) : Recording next := by
  have measures := step_allMeasure recording.measures stepped
  have results : forall id evaluation, next.world.db.evaluations.find id = some evaluation ->
      evaluation.status = .completed -> evaluation.result ≠ none :=
    fun _ _ found completed => results_of_work recording stepped found completed
  have stays : forall evalId metrics, HasRows s.world.db evalId metrics ->
      HasRows next.world.db evalId metrics :=
    fun _ _ has => recording.hasRows_stay stepped has
  have awaitsStay : forall scored, scored ∈ s.scored -> action ≠ .crash scored.executionId ->
      Awaits next.world scored :=
    fun _ inside alive => recording.awaits_stay stepped inside alive
  rcases step_work stepped with ⟨world, worked, same⟩
  subst same
  have measured := recording.measured.step worked
  have valueRows : forall sliValue, sliValue ∈ s.sliValues ->
      Exists fun metrics => HasRows world.db sliValue.sloEvaluationId metrics := by
    intro sliValue inside
    rcases recording.valueRows sliValue inside with ⟨metrics, has⟩
    exact ⟨metrics, stays _ _ has⟩
  rcases work_cases s action with
    ⟨executionId, workerId, checkFails, adapter, snapshot, sloDef, fetchResult, isAdvance, writing⟩ |
      ⟨_, sameScored⟩
  · subst isAdvance
    have completes := completes_of_writing recording.measured worked writing
    have isScored : scoredAfter s (.advance executionId workerId checkFails adapter) =
        s.scored ++ [{
          executionId
          evalId := snapshot.evalId
          indicatorResults := fetchResult.evalResult.indicatorResults }] := by
      simp only [scoredAfter, writing]
    -- An evaluation without indicator rows has neither values nor any that are awaited.
    have blank : forall metrics, ¬ HasRows s.world.db snapshot.evalId metrics := by
      rintro metrics ⟨evaluation, stored, filled, _⟩
      exact filled (completes.blank evaluation stored)
    rw [isScored]
    refine ⟨measured, measures, fun scored inside => ?_, ?_, fun scored inside => ?_, valueRows,
      fun scored inside sliValue valued => ?_, recording.keys, results⟩
    · rcases List.mem_append.mp inside with older | isNew
      · refine awaitsStay scored older ?_
        intro impossible
        cases impossible
      · rw [List.mem_singleton.mp isNew]
        exact completes.awaits
    · rw [List.map_append, List.nodup_append]
      refine ⟨recording.apart, List.nodup_singleton _, ?_⟩
      intro evalId older other isNew
      rcases List.mem_map.mp older with ⟨scored, inside, isEval⟩
      rw [List.map_singleton, List.mem_singleton] at isNew
      rw [isNew, <- isEval]
      intro sameEval
      exact blank _ (sameEval ▸ recording.scoredRows scored inside)
    · rcases List.mem_append.mp inside with older | isNew
      · exact stays _ _ (recording.scoredRows scored older)
      · rw [List.mem_singleton.mp isNew]
        exact completes.rows
    · rcases List.mem_append.mp inside with older | isNew
      · exact recording.unwritten scored older sliValue valued
      · rw [List.mem_singleton.mp isNew]
        intro sameEval
        rcases recording.valueRows sliValue valued with ⟨metrics, has⟩
        rw [sameEval] at has
        exact blank metrics has
  · have sublist : (scoredAfter s action).Sublist s.scored := by
      rcases sameScored with same | ⟨executionId, _, same⟩
      · rw [same]
      · rw [same]
        exact List.filter_sublist
    have alive : forall scored, scored ∈ scoredAfter s action -> action ≠ .crash scored.executionId := by
      intro scored inside isCrash
      rw [isCrash] at inside
      exact of_decide_eq_true (List.mem_filter.mp inside).2 rfl
    exact ⟨measured, measures,
      fun scored inside => awaitsStay scored (sublist.subset inside) (alive scored inside),
      (sublist.map _).nodup recording.apart,
      fun scored inside => stays _ _ (recording.scoredRows scored (sublist.subset inside)), valueRows,
      fun scored inside => recording.unwritten scored (sublist.subset inside), recording.keys, results⟩

theorem metrics_of_unscored (recording : Recording s)
    (stepped : step settings s (.work action) = some next)
    (unscored : forall scoring, ¬ Scores s (.work action) evalId scoring)
    (found : next.world.db.evaluations.find evalId = some evaluation) :
    metricsOf evaluation = [] ∨ Exists fun before =>
      s.world.db.evaluations.find evalId = some before ∧ metricsOf evaluation = metricsOf before := by
  have kept : forall before, s.world.db.evaluations.find evalId = some before ->
      Exists fun after => next.world.db.evaluations.find evalId = some after ∧
        after.indicatorRows = before.indicatorRows :=
    fun _ stored => indicatorRows_of_unscored recording.measures stepped stored unscored
  rcases step_work stepped with ⟨world, worked, same⟩
  rw [same] at found
  rcases Worker.step_find_origin worked found with
    ⟨before, stored, _⟩ | ⟨_, _, _, _, _, _, _, isNew⟩
  · rcases kept before stored with ⟨after, sameFound, sameRows⟩
    rw [same] at sameFound
    cases sameFound.symm.trans found
    refine Or.inr ⟨before, stored, ?_⟩
    unfold metricsOf
    rw [sameRows]
  · rw [isNew]
    exact Or.inl rfl

theorem Covered.work (recording : Recording s) (covered : Covered s evalId)
    (spares : SparesValues evalId s (.work action))
    (stepped : step settings s (.work action) = some next) : Covered next evalId := by
  intro evaluation found
  have metrics := fun unscored => metrics_of_unscored recording stepped unscored found
  rcases step_work stepped with ⟨world, worked, same⟩
  rw [same]
  by_cases scored : Exists fun scoring => Scores s (.work action) evalId scoring
  · rcases scored with ⟨scoring, scores⟩
    cases scores with
    | worker writing =>
        simp only [scoredAfter, writing]
        exact Or.inl ⟨_, List.mem_append_right _ List.mem_cons_self, rfl⟩
  · have older : (Exists fun scored => scored ∈ s.scored ∧ scored.evalId = evalId) ∨
        forall metric, metric ∈ metricsOf evaluation ->
          (evalId, metric) ∈ s.sliValues.map SLIValue.key := by
      rcases metrics (not_exists.mp scored) with empty | ⟨before, stored, sameMetrics⟩
      · rw [empty]
        exact Or.inr fun metric impossible => absurd impossible List.not_mem_nil
      · rw [sameMetrics]
        exact covered before stored
    rcases older with ⟨waiting, inside, isEval⟩ | valued
    · refine Or.inl ⟨waiting, ?_, isEval⟩
      rcases work_cases s action with
        ⟨executionId, workerId, checkFails, adapter, snapshot, sloDef, fetchResult, isAdvance, writing⟩ |
          ⟨_, unchanged | ⟨executionId, isCrash, filtered⟩⟩
      · rw [isAdvance]
        simp only [scoredAfter, writing]
        exact List.mem_append_left _ inside
      · rw [unchanged]
        exact inside
      · rw [isCrash] at spares
        rw [filtered]
        refine List.mem_filter.mpr ⟨inside, decide_eq_true fun isExecution => ?_⟩
        exact spares waiting inside isExecution isEval
    · exact Or.inr valued

end Work

section Values

variable {settings : Worker.Settings} {s next : Installation} {executionId : Nat}

theorem Recording.accepts (recording : Recording s) {scored : ScoredExecution}
    (inside : scored ∈ s.scored) :
    writeSliValues s.sliValues (buildSliRows scored.evalId scored.indicatorResults) =
      some (s.sliValues ++ buildSliRows scored.evalId scored.indicatorResults) := by
  have keys : (buildSliRows scored.evalId scored.indicatorResults).map SLIValue.key =
      (scored.indicatorResults.map (·.metric)).map fun metric => (scored.evalId, metric) := by
    unfold buildSliRows
    rw [List.map_map, List.map_map]
    rfl
  have distinct : (scored.indicatorResults.map (·.metric)).Nodup := by
    rcases recording.scoredRows scored inside with ⟨evaluation, stored, _, isMetrics⟩
    rw [<- isMetrics]
    exact (recording.measured.rows _ evaluation stored).measuresOnce
  refine if_pos ?_
  rw [List.map_append, keys, List.nodup_append]
  refine ⟨recording.keys, distinct.map (Prod.mk_right_injective _), ?_⟩
  intro stored isStored new isNew same
  rcases List.mem_map.mp isStored with ⟨sliValue, valued, isKey⟩
  rcases List.mem_map.mp isNew with ⟨metric, _, isPair⟩
  refine recording.unwritten scored inside sliValue valued ?_
  rw [same, <- isPair] at isKey
  exact congrArg Prod.fst isKey

theorem Recording.step_values (recording : Recording s)
    (stepped : step settings s (.writeSliValues executionId) = some next) :
    Exists fun scored => scored ∈ s.scored ∧ scored.executionId = executionId ∧
      next = { s with
        sliValues := s.sliValues ++ buildSliRows scored.evalId scored.indicatorResults
        scored := s.scored.filter (·.executionId ≠ executionId) } := by
  rcases Option.bind_eq_some_iff.mp stepped with ⟨scored, found, stepped⟩
  have inside := List.mem_of_find?_eq_some found
  have isExecution := List.find?_some found
  rw [decide_eq_true_eq] at isExecution
  dsimp only at stepped
  rw [recording.accepts inside] at stepped
  cases stepped
  exact ⟨scored, inside, isExecution, rfl⟩

theorem Recording.same_of_execution (recording : Recording s) {first second : ScoredExecution}
    (firstIn : first ∈ s.scored) (secondIn : second ∈ s.scored)
    (same : first.executionId = second.executionId) : first = second := by
  rcases recording.awaits first firstIn with ⟨execution, found, isFirst, _⟩
  rcases recording.awaits second secondIn with ⟨other, otherFound, isSecond, _⟩
  rw [same, otherFound] at found
  cases found
  exact List.inj_on_of_nodup_map recording.apart firstIn secondIn (isFirst.symm.trans isSecond)

theorem Recording.values (recording : Recording s)
    (stepped : step settings s (.writeSliValues executionId) = some next) : Recording next := by
  rcases recording.step_values stepped with ⟨scored, inside, isExecution, same⟩
  subst same
  have remaining : (s.scored.filter (·.executionId ≠ executionId)).Sublist s.scored :=
    List.filter_sublist
  have ofNew : forall sliValue, sliValue ∈ buildSliRows scored.evalId scored.indicatorResults ->
      sliValue.sloEvaluationId = scored.evalId := by
    intro sliValue isNew
    rcases List.mem_map.mp isNew with ⟨indicatorResult, _, isRow⟩
    rw [<- isRow]
    rfl
  refine ⟨recording.measured, recording.measures,
    fun other left => recording.awaits other (remaining.subset left),
    (remaining.map _).nodup recording.apart,
    fun other left => recording.scoredRows other (remaining.subset left),
    fun sliValue valued => ?_, fun other left sliValue valued => ?_, ?_, recording.results⟩
  · rcases List.mem_append.mp valued with older | isNew
    · exact recording.valueRows sliValue older
    · rw [ofNew sliValue isNew]
      exact ⟨_, recording.scoredRows scored inside⟩
  · rcases List.mem_append.mp valued with older | isNew
    · exact recording.unwritten other (remaining.subset left) sliValue older
    · rw [ofNew sliValue isNew]
      intro sameEval
      have isOther := List.inj_on_of_nodup_map recording.apart inside (remaining.subset left) sameEval
      rw [<- isOther] at left
      exact of_decide_eq_true (List.mem_filter.mp left).2 isExecution
  · have accepted := recording.accepts inside
    unfold writeSliValues at accepted
    split at accepted
    · assumption
    · cases accepted

theorem Covered.values (recording : Recording s) {evalId : Nat} (covered : Covered s evalId)
    (stepped : step settings s (.writeSliValues executionId) = some next) :
    Covered next evalId := by
  rcases recording.step_values stepped with ⟨scored, inside, isExecution, same⟩
  subst same
  intro evaluation found
  rcases covered evaluation found with ⟨waiting, isWaiting, isEval⟩ | valued
  · by_cases isScored : waiting = scored
    · subst isScored
      refine Or.inr fun metric measured => ?_
      rcases recording.scoredRows waiting inside with ⟨stored, sameFound, _, isMetrics⟩
      rw [isEval, found] at sameFound
      cases sameFound
      rw [isMetrics] at measured
      rcases List.mem_map.mp measured with ⟨indicatorResult, member, isMetric⟩
      rw [List.map_append]
      refine List.mem_append_right _ (List.mem_map.mpr ⟨buildSliRow waiting.evalId indicatorResult, ?_, ?_⟩)
      · exact List.mem_map_of_mem member
      · rw [<- isEval, <- isMetric]
        rfl
    · refine Or.inl ⟨waiting, List.mem_filter.mpr ⟨isWaiting, decide_eq_true fun sameExecution => ?_⟩,
        isEval⟩
      exact isScored
        (recording.same_of_execution isWaiting inside (sameExecution.trans isExecution.symm))
  · refine Or.inr fun metric measured => ?_
    rw [List.map_append]
    exact List.mem_append_left _ (valued metric measured)

end Values

section Runs

variable {settings : Worker.Settings} {s next : Installation} {event : RecordingEvent}

theorem Recording.step (recording : Recording s)
    (stepped : recordingStep settings s event = some next) : Recording next := by
  cases event with
  | work action => exact recording.work stepped
  | writeSliValues executionId =>
      have written : Presentation.step settings s (.writeSliValues executionId) = some next := stepped
      exact recording.values written
  | finalize runId values =>
      cases stepped
      have fits : forall execution, execution ∈ s.world.executions.rows -> Worker.ExecutionFits
          { s.world.db with runs := finalizeRun s.world.db.runs runId values } execution := by
        intro execution member
        have before := recording.measured.executions execution member
        exact ⟨before.row, before.definition, before.result⟩
      exact ⟨⟨fits, recording.measured.rows⟩, recording.measures, recording.awaits,
        recording.apart, recording.scoredRows, recording.valueRows, recording.unwritten,
        recording.keys, recording.results⟩

theorem Covered.step (recording : Recording s) {evalId : Nat} (covered : Covered s evalId)
    (spares : SparesValues evalId s event)
    (stepped : recordingStep settings s event = some next) : Covered next evalId := by
  cases event with
  | work action => exact covered.work recording spares stepped
  | writeSliValues executionId =>
      have written : Presentation.step settings s (.writeSliValues executionId) = some next := stepped
      exact covered.values recording written
  | finalize runId values =>
      cases stepped
      exact covered

theorem Installation.Initial.recording {start : Installation} (initial : start.Initial) :
    Recording start where
  measured := by
    refine ⟨Worker.AllFit.of_initial initial.world, fun id row found => ?_⟩
    rw [initial.world.noEvaluations, find_empty] at found
    cases found
  measures := by
    intro execution member
    rw [initial.world.noExecutions] at member
    exact absurd member List.not_mem_nil
  awaits := by simp [initial.noneScored]
  apart := by simp [initial.noneScored]
  scoredRows := by simp [initial.noneScored]
  valueRows := by simp [initial.noValues]
  unwritten := by simp [initial.noneScored]
  keys := by simp [initial.noValues]
  results := by simp [initial.world.noEvaluations]

/-- As long as no execution of an evaluation dies between phases 3a and 3b, its values are
stored or about to be. -/
theorem exec_covered {start final : Installation} {events : List RecordingEvent} {evalId : Nat}
    (initial : start.Initial) (ran : exec (recordingStep settings) start events = some final)
    (spared : Along (recordingStep settings) (SparesValues evalId) start events) :
    Recording final ∧ Covered final evalId := by
  let invariant (state : Installation) : Prop := Recording state ∧ Covered state evalId
  have holds : invariant start := by
    refine ⟨initial.recording, fun evaluation found => ?_⟩
    rw [initial.world.noEvaluations, find_empty] at found
    cases found
  have kept : invariant final := by
    refine exec_preserves_along ?_ holds spared ran
    rintro state event next ⟨recording, covered⟩ spares stepped
    exact ⟨recording.step stepped, covered.step recording spares stepped⟩
  exact kept

end Runs

end Presentation
end Tropek
