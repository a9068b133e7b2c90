import Tropek.Worker.Transactions

namespace Tropek
namespace Worker

open Library Engine Store Registry TransitionSystem KeyedTable Fallible

/-!
# The outcome of a job

A job that nothing interrupts goes through its phases one after the other.  It
ends, and what it ends with is decided between phase 1 and phase 3: an error that
`fetch_and_evaluate` does not catch leaves the job with its evaluation running.

The registries accept definitions that raise there.  They check neither the
objectives nor the words of the comparison block of an SLO, nor its criteria, nor
the variables of a raw query.
-/

/-! ## A whole job -/

/-- The job from a phase on, for as many phases as there is fuel.  The rank of a phase
bounds how many are left, and is enough whatever the adapter answers. -/
def runPhases (settings : Settings) (input : PhaseInput) (message : Message) :
    Nat -> Database -> Phase -> Database × Phase
  | 0, db, phase => (db, phase)
  | fuel + 1, db, phase =>
      match advance settings input message db phase with
      | none => (db, phase)
      | some outcome => runPhases settings input message fuel outcome.db outcome.phase

def Phase.rank : Phase -> Nat
  | .checking => 6
  | .deferring => 1
  | .marking => 5
  | .loading _ => 4
  | .fetching _ _ _ _ => 3
  | .failing _ => 1
  | .writing _ _ _ => 2
  | .wrappingUp _ => 1
  | .finished => 0
  | .raised _ => 0

/-- `run_evaluation_job`, with an adapter that answers its query with the given
outcome. -/
def runEvaluationJob (settings : Settings) (now : Instant) (workerId : Option String)
    (outcome : AdapterOutcome) (message : Message) (db : Database) : Database × Phase :=
  runPhases settings { now, workerId, adapter := fun _ => outcome } message Phase.checking.rank db
    .checking

section Rank

variable {settings : Settings} {input : PhaseInput} {message : Message}

theorem Phase.ended_of_rank {phase : Phase} (zero : phase.rank = 0) : phase.Ended := by
  cases phase <;> first | exact trivial | cases zero

theorem loadingPhase_rank (db : Database) (snapshot : EvaluationSnapshot) :
    (loadingPhase db snapshot).rank < 4 := by
  have failing : forall error, (Phase.failing error).rank < 4 := fun _ => by
    change 1 < 4
    omega
  unfold loadingPhase
  cases snapshot.dataSourceName with
  | none => exact failing _
  | some dataSourceName =>
      cases loadDefinitions db snapshot with
      | error text => exact failing text
      | ok definitions =>
          dsimp only
          cases db.dataSources.find dataSourceName with
          | none => exact failing _
          | some datasource => exact Nat.lt_succ_self 3

theorem fetchingPhase_rank (db : Database) (snapshot : EvaluationSnapshot) (sloDef : SLODefinition)
    (sliDef : SLIDefinition) (datasource : DataSource) (adapter : AdapterQuery -> AdapterOutcome) :
    (fetchingPhase db snapshot sloDef sliDef datasource adapter).rank < 3 := by
  unfold fetchingPhase
  cases fetchAndEvaluate db.evaluations snapshot sloDef sliDef datasource adapter with
  | error failure => exact Nat.succ_pos 2
  | ok fetched =>
      cases fetched with
      | none => exact Nat.lt_succ_of_lt (Nat.lt_succ_self 1)
      | some fetchResult => exact Nat.lt_succ_self 2

theorem nextPhase_rank (settings : Settings) (input : PhaseInput) (message : Message)
    (db : Database) {phase : Phase} (running : ¬ phase.Ended) :
    (nextPhase settings input message db phase).rank < phase.rank := by
  cases phase with
  | checking =>
      change (if defers settings input message db then Phase.deferring else Phase.marking).rank < 6
      cases defers settings input message db <;> decide
  | marking =>
      change (((db.evaluations.find message.evalId).map
        fun row => Phase.loading (snapshotOf db row)).getD .finished).rank < 5
      cases db.evaluations.find message.evalId with
      | none => exact Nat.succ_pos 4
      | some row => exact Nat.lt_succ_self 4
  | loading snapshot => exact loadingPhase_rank db snapshot
  | fetching snapshot sloDef sliDef datasource => exact fetchingPhase_rank _ _ _ _ _ _
  | writing snapshot sloDef fetchResult =>
      change (if (writeResults db snapshot sloDef fetchResult).isSome then
        Phase.wrappingUp snapshot.parentRunId else Phase.raised .database).rank < 2
      cases (writeResults db snapshot sloDef fetchResult).isSome with
      | true => exact Nat.lt_succ_self 1
      | false => exact Nat.succ_pos 1
  | deferring => exact Nat.lt_succ_self 0
  | failing error => exact Nat.lt_succ_self 0
  | wrappingUp parentRunId => exact Nat.lt_succ_self 0
  | finished => exact absurd trivial running
  | raised error => exact absurd trivial running

theorem advance_of_not_ended (settings : Settings) (input : PhaseInput) (message : Message)
    (db : Database) {phase : Phase} (running : ¬ phase.Ended) :
    (advance settings input message db phase).isSome = true := by
  cases phase with
  | marking =>
      rw [advance_marking]
      rfl
  | writing snapshot sloDef fetchResult =>
      unfold advance
      dsimp only
      cases writeResults db snapshot sloDef fetchResult <;> rfl
  | finished => exact absurd trivial running
  | raised error => exact absurd trivial running
  | _ => rfl

theorem runPhases_ended {fuel : Nat} (db : Database) {phase : Phase} (enough : phase.rank ≤ fuel) :
    (runPhases settings input message fuel db phase).2.Ended := by
  induction fuel generalizing db phase with
  | zero => exact Phase.ended_of_rank (Nat.le_zero.mp enough)
  | succ fuel ih =>
      unfold runPhases
      cases advanced : advance settings input message db phase with
      | none =>
          by_contra running
          have possible := advance_of_not_ended settings input message db running
          rw [advanced] at possible
          cases possible
      | some outcome =>
          apply ih
          have running : ¬ phase.Ended := by
            intro ended
            cases phase <;> first | exact ended | cases advanced
          rw [advance_phase advanced]
          have smaller := nextPhase_rank settings input message db running
          omega

end Rank

theorem runEvaluationJob_ended (settings : Settings) (now : Instant) (workerId : Option String)
    (outcome : AdapterOutcome) (message : Message) (db : Database) :
    (runEvaluationJob settings now workerId outcome message db).2.Ended :=
  runPhases_ended db (Nat.le_refl _)

/-! ## When phase 2 raises -/

structure Loads (db : Database) (row : SLOEvaluation) (sloDef : SLODefinition)
    (sliDef : SLIDefinition) (datasource : DataSource) : Prop where
  dataSource : Exists fun name => row.dataSourceName = some name ∧
    db.dataSources.find name = some datasource
  slo : Exists fun version => row.sloVersion = some version ∧
    db.sloDefinitions.find (row.sloName, version) = some sloDef
  sli : Exists fun name => Exists fun version => row.sliName = some name ∧
    row.sliVersion = some version ∧ db.sliDefinitions.find (name, version) = some sliDef

def ModelBuilds (sloDef : SLODefinition) : Prop :=
  sloDef.objectives.rows ≠ [] ∧ sloDef.comparison.validate.isOk = true

def TemplatesResolve (snapshot : EvaluationSnapshot) (sloDef : SLODefinition)
    (sliDef : SLIDefinition) : Prop :=
  sliDef.mode = .raw -> forall entry, entry ∈ sliDef.indicators.entries ->
    forall name, Piece.placeholder name ∈ templatePieces entry.2 ->
      name ∈ snapshotVariables snapshot sloDef

def AdapterOutcome.Caught : AdapterOutcome -> Prop
  | .connectError => True
  | .readError => True
  | .timeout => True
  | .httpStatusError => True
  | _ => False

/-- The adapter fails with an error that is caught, or it answers and every
criterion of the SLO parses. -/
def Scorable (outcome : AdapterOutcome) (sloDef : SLODefinition) : Prop :=
  outcome.Caught ∨
    ((Exists fun values => Exists fun errors => outcome = .response values errors) ∧
      forall objective, objective ∈ sloDef.objectives.rows -> objective.toModel.CriteriaParse)

theorem buildSloModel_isOk (sloDef : SLODefinition) :
    (buildSloModel sloDef).isOk = true ↔ ModelBuilds sloDef := by
  unfold buildSloModel ModelBuilds
  rw [buildSlo_isOk]
  simp only [ne_eq, List.map_eq_nil_iff]

theorem resolveQueries_isOk (snapshot : EvaluationSnapshot) (sloDef : SLODefinition)
    (sliDef : SLIDefinition) :
    (resolveQueries sliDef (snapshotVariables snapshot sloDef)).isOk = true ↔
      TemplatesResolve snapshot sloDef sliDef := by
  unfold resolveQueries TemplatesResolve
  cases sliDef.mode with
  | aggregated => exact ⟨fun _ => nofun, fun _ => rfl⟩
  | raw =>
      rw [mapM_isOk]
      have resolved : forall entry : Sigma fun _ : String => String,
          (resolveQuery (snapshotVariables snapshot sloDef) entry).isOk = true ↔
            forall name, Piece.placeholder name ∈ templatePieces entry.2 ->
              name ∈ snapshotVariables snapshot sloDef := by
        intro entry
        rw [<- substituteVariables_isOk]
        unfold resolveQuery
        cases substituteVariables entry.2 (snapshotVariables snapshot sloDef) <;> exact Iff.rfl
      simp only [resolved, true_implies]

variable {sliDef : SLIDefinition} {sloDef : SLODefinition} {row : SLOEvaluation}

theorem buildQuerySpecs_isOk (accepted : Accepted sliDef) (resolvedQueries : List (String × String)) :
    (buildQuerySpecs sliDef resolvedQueries).isOk = true := by
  unfold buildQuerySpecs
  cases modeIs : sliDef.mode with
  | raw => rfl
  | aggregated =>
      rcases (isOk_iff _).mp (accepted.templates modeIs) with ⟨templates, built⟩
      dsimp only
      rw [built]
      rfl

theorem prepareQuery_isOk {snapshot : EvaluationSnapshot} (accepted : Accepted sliDef)
    (datasource : DataSource) :
    (prepareQuery snapshot sloDef sliDef datasource).isOk = true ↔
      ModelBuilds sloDef ∧ TemplatesResolve snapshot sloDef sliDef := by
  rw [<- buildSloModel_isOk, <- resolveQueries_isOk]
  constructor
  · intro prepared
    rcases bind_isOk.mp prepared with ⟨slo, built, prepared⟩
    rcases bind_isOk.mp prepared with ⟨resolved, resolving, _⟩
    exact ⟨(isOk_iff _).mpr ⟨slo, mapError_eq_ok built⟩,
      (isOk_iff _).mpr ⟨resolved, mapError_eq_ok resolving⟩⟩
  · rintro ⟨built, resolving⟩
    rcases (isOk_iff _).mp built with ⟨slo, built⟩
    rcases (isOk_iff _).mp resolving with ⟨resolved, resolving⟩
    rcases (isOk_iff _).mp (buildQuerySpecs_isOk accepted resolved) with ⟨queries, specs⟩
    refine bind_isOk.mpr ⟨slo, ?_, ?_⟩
    · rw [built]
      rfl
    · refine bind_isOk.mpr ⟨resolved, ?_, ?_⟩
      · rw [resolving]
        rfl
      · exact bind_isOk.mpr ⟨queries, specs, rfl⟩

theorem resolveBaselines_isOk (table : Evaluations) (slo : SLO) (snapshot : EvaluationSnapshot)
    (evaluationName : String) :
    (resolveBaselines table slo snapshot evaluationName).isOk = true := by
  unfold resolveBaselines
  by_cases none : slo.comparison.numberOfComparisonResults ≤ 0
  · rw [if_pos none]
    rfl
  · rw [if_neg none]
    unfold getEvaluationBaselines latestRows
    have positive : ¬ slo.comparison.numberOfComparisonResults < 0 := by
      omega
    rw [if_neg positive]
    dsimp only
    rcases computeBaselines_ok (Latest.latest SLOEvaluation.periodStart
      slo.comparison.numberOfComparisonResults.toNat (table.rows.filter fun row =>
        baseBaselineQuery snapshot.assetId snapshot.sloName snapshot.periodStart
          slo.comparison.includeResultWithScore (some evaluationName) row &&
        pinAllows (activePinStart table snapshot.assetId snapshot.sloName) row))
      slo.comparison.aggregateFunction with ⟨baselines, computed, _⟩
    rw [computed]
    rfl

theorem evaluateResponse_isOk (table : Evaluations) (snapshot : EvaluationSnapshot) (slo : SLO)
    (values : Dict (Option ℚ)) (errors : Dict String) :
    (evaluateResponse table snapshot slo values errors).isOk = true ↔
      forall obj, obj ∈ slo.objectives -> obj.CriteriaParse := by
  constructor
  · intro evaluated
    rcases bind_isOk.mp evaluated with ⟨⟨baselines, ids⟩, _, evaluated⟩
    rcases bind_isOk.mp evaluated with ⟨result, scored, _⟩
    apply (evaluate_isOk slo (overrideErrored values errors) baselines ids).mp
    exact (isOk_iff _).mpr ⟨result, mapError_eq_ok scored⟩
  · intro parse
    rcases (isOk_iff _).mp (resolveBaselines_isOk table slo snapshot
      (resolveComparisonName snapshot.compareTo snapshot.evaluationName)) with
      ⟨⟨baselines, ids⟩, resolved⟩
    rcases (isOk_iff _).mp ((evaluate_isOk slo (overrideErrored values errors) baselines
      ids).mpr parse) with ⟨result, scored⟩
    refine bind_isOk.mpr ⟨(baselines, ids), resolved, ?_⟩
    refine bind_isOk.mpr ⟨result, ?_, rfl⟩
    rw [scored]
    rfl

/-- When `fetch_and_evaluate` returns. -/
theorem fetchAndEvaluate_isOk (table : Evaluations) (snapshot : EvaluationSnapshot)
    (sloDef : SLODefinition) (datasource : DataSource) (outcome : AdapterOutcome)
    (accepted : Accepted sliDef) :
    (fetchAndEvaluate table snapshot sloDef sliDef datasource fun _ => outcome).isOk = true ↔
      ModelBuilds sloDef ∧ TemplatesResolve snapshot sloDef sliDef ∧ Scorable outcome sloDef := by
  rw [<- and_assoc, <- prepareQuery_isOk accepted datasource]
  unfold fetchAndEvaluate
  cases prepared : prepareQuery snapshot sloDef sliDef datasource with
  | error failure => exact ⟨fun impossible => absurd impossible Bool.false_ne_true,
      fun both => absurd both.1 Bool.false_ne_true⟩
  | ok pair =>
      rcases pair with ⟨slo, query⟩
      have objectives : slo.objectives = sloDef.objectives.rows.map SLOObjectiveRow.toModel := by
        rcases bind_eq_ok.mp prepared with ⟨built, building, rest⟩
        rcases bind_eq_ok.mp rest with ⟨_, _, rest⟩
        rcases bind_eq_ok.mp rest with ⟨_, _, same⟩
        cases same
        exact buildSloModel_objectives (mapError_eq_ok building)
      have ready : (Except.ok (slo, query) : Except WorkerError (SLO × AdapterQuery)).isOk = true :=
        rfl
      simp only [ready, true_and]
      cases outcome with
      | response values errors =>
          have parses := evaluateResponse_isOk table snapshot slo values errors
          rw [objectives, List.forall_mem_map] at parses
          have returned : (do return some (<- evaluateResponse table snapshot slo values errors) :
              Except WorkerError (Option FetchAndEvaluateResult)).isOk =
              (evaluateResponse table snapshot slo values errors).isOk := by
            cases evaluateResponse table snapshot slo values errors <;> rfl
          change (do return some (<- evaluateResponse table snapshot slo values errors) :
            Except WorkerError (Option FetchAndEvaluateResult)).isOk = true ↔ _
          rw [returned, parses]
          exact ⟨fun parse => Or.inr ⟨⟨values, errors, rfl⟩, parse⟩,
            fun scorable => scorable.elim False.elim And.right⟩
      | malformed =>
          refine ⟨fun impossible => absurd impossible Bool.false_ne_true, fun scorable => ?_⟩
          rcases scorable with caught | ⟨⟨_, _, impossible⟩, _⟩
          · exact absurd caught id
          · cases impossible
      | connectError => exact ⟨fun _ => Or.inl trivial, fun _ => rfl⟩
      | readError => exact ⟨fun _ => Or.inl trivial, fun _ => rfl⟩
      | timeout => exact ⟨fun _ => Or.inl trivial, fun _ => rfl⟩
      | httpStatusError => exact ⟨fun _ => Or.inl trivial, fun _ => rfl⟩

/-! ## How a job ends -/

theorem loadDefinitions_eq_ok {db : Database} :
    loadDefinitions db (snapshotOf db row) = .ok (sloDef, sliDef) ↔
      (Exists fun version => row.sloVersion = some version ∧
        db.sloDefinitions.find (row.sloName, version) = some sloDef) ∧
      Exists fun name => Exists fun version => row.sliName = some name ∧
        row.sliVersion = some version ∧ db.sliDefinitions.find (name, version) = some sliDef := by
  constructor
  · intro loaded
    rcases bind_eq_ok.mp loaded with ⟨version, versioned, loaded⟩
    rcases bind_eq_ok.mp loaded with ⟨foundSlo, looked, loaded⟩
    rcases bind_eq_ok.mp loaded with ⟨name, named, loaded⟩
    rcases bind_eq_ok.mp loaded with ⟨sliVersion, sliVersioned, loaded⟩
    rcases bind_eq_ok.mp loaded with ⟨foundSli, sliLooked, same⟩
    cases same
    exact ⟨⟨version, orRaise_eq_ok.mp versioned,
      orRaise_eq_ok.mp looked⟩,
      ⟨name, sliVersion, orRaise_eq_ok.mp named,
        orRaise_eq_ok.mp sliVersioned,
        orRaise_eq_ok.mp sliLooked⟩⟩
  · rintro ⟨⟨version, versioned, looked⟩, name, sliVersion, named, sliVersioned, sliLooked⟩
    refine bind_eq_ok.mpr ⟨version, orRaise_eq_ok.mpr versioned, ?_⟩
    refine bind_eq_ok.mpr ⟨sloDef, orRaise_eq_ok.mpr looked, ?_⟩
    refine bind_eq_ok.mpr ⟨name, orRaise_eq_ok.mpr named, ?_⟩
    refine bind_eq_ok.mpr
      ⟨sliVersion, orRaise_eq_ok.mpr sliVersioned, ?_⟩
    exact bind_eq_ok.mpr
      ⟨sliDef, orRaise_eq_ok.mpr sliLooked, rfl⟩

theorem loadingPhase_cases (db : Database) (row : SLOEvaluation) :
    (Exists fun sloDef => Exists fun sliDef => Exists fun datasource =>
      Loads db row sloDef sliDef datasource ∧
        loadingPhase db (snapshotOf db row) =
          .fetching (snapshotOf db row) sloDef sliDef datasource) ∨
      ((forall sloDef sliDef datasource, ¬ Loads db row sloDef sliDef datasource) ∧
        Exists fun error => loadingPhase db (snapshotOf db row) = .failing error) := by
  unfold loadingPhase
  cases named : (snapshotOf db row).dataSourceName with
  | none =>
      refine Or.inr ⟨fun sloDef sliDef datasource loads => ?_, _, rfl⟩
      rcases loads.dataSource with ⟨name, nameIs, _⟩
      cases nameIs.symm.trans named
  | some dataSourceName =>
      dsimp only
      cases definitions : loadDefinitions db (snapshotOf db row) with
      | error text =>
          refine Or.inr ⟨fun sloDef sliDef datasource loads => ?_, text, rfl⟩
          have loaded := loadDefinitions_eq_ok.mpr ⟨loads.slo, loads.sli⟩
          rw [definitions] at loaded
          cases loaded
      | ok pair =>
          rcases pair with ⟨sloDef, sliDef⟩
          have loaded := loadDefinitions_eq_ok.mp definitions
          dsimp only
          cases source : db.dataSources.find dataSourceName with
          | none =>
              refine Or.inr ⟨fun _ _ datasource loads => ?_, _, rfl⟩
              rcases loads.dataSource with ⟨name, nameIs, sourceFound⟩
              have sameName : name = dataSourceName := Option.some.inj (nameIs.symm.trans named)
              rw [sameName, source] at sourceFound
              cases sourceFound
          | some datasource =>
              exact Or.inl ⟨sloDef, sliDef, datasource,
                ⟨⟨dataSourceName, named, source⟩, loaded.1, loaded.2⟩, rfl⟩

theorem Loads.unique {db : Database} {otherSlo : SLODefinition} {otherSli : SLIDefinition}
    {datasource otherSource : DataSource} (first : Loads db row sloDef sliDef datasource)
    (second : Loads db row otherSlo otherSli otherSource) :
    otherSlo = sloDef ∧ otherSli = sliDef ∧ otherSource = datasource := by
  have definitions := (loadDefinitions_eq_ok.mpr ⟨first.slo, first.sli⟩).symm.trans
    (loadDefinitions_eq_ok.mpr ⟨second.slo, second.sli⟩)
  have pairs := Except.ok.inj definitions
  rcases first.dataSource with ⟨name, nameIs, found⟩
  rcases second.dataSource with ⟨otherName, otherNameIs, otherFound⟩
  have sameName : otherName = name := Option.some.inj (otherNameIs.symm.trans nameIs)
  rw [sameName, found] at otherFound
  exact ⟨(congrArg Prod.fst pairs).symm, (congrArg Prod.snd pairs).symm,
    (Option.some.inj otherFound).symm⟩

section Outcome

variable {settings : Settings} {input : PhaseInput} {message : Message} {db : Database}

theorem runPhases_succ {fuel : Nat} {phase : Phase} {outcome : PhaseOutcome}
    (advanced : advance settings input message db phase = some outcome) :
    runPhases settings input message (fuel + 1) db phase =
      runPhases settings input message fuel outcome.db outcome.phase := by
  rw [runPhases, advanced]

theorem runPhases_finished (fuel : Nat) (db : Database) :
    runPhases settings input message fuel db .finished = (db, .finished) := by
  cases fuel <;> rfl

theorem runPhases_raised (fuel : Nat) (db : Database) (error : WorkerError) :
    runPhases settings input message fuel db (.raised error) = (db, .raised error) := by
  cases fuel <;> rfl

def statusIn (message : Message) (db : Database) : Option EvaluationStatus :=
  (db.evaluations.find message.evalId).map (·.status)

theorem status_failing {fuel : Nat} {row : SLOEvaluation} {error : String}
    (found : db.evaluations.find message.evalId = some row) :
    statusIn message (runPhases settings input message (fuel + 1) db (.failing error)).1 =
      some .failed := by
  rw [runPhases_succ rfl]
  dsimp only
  rw [runPhases_finished]
  unfold statusIn markFailed
  dsimp only
  rw [find_update, if_pos rfl, found]
  rfl

theorem status_writing {fuel : Nat} {row : SLOEvaluation} {snapshot : EvaluationSnapshot}
    {sloDef : SLODefinition} {fetchResult : FetchAndEvaluateResult}
    (found : db.evaluations.find message.evalId = some row)
    (sameId : snapshot.evalId = message.evalId) (fits : fetchResult.FitsDefinition sloDef)
    (insertable : ((row.indicatorRows.rows.map (·.objective) ++ scoredObjectives sloDef).map
      (·.id)).Nodup) :
    statusIn message
      (runPhases settings input message (fuel + 2) db (.writing snapshot sloDef fetchResult)).1 =
      some .completed := by
  have objectives := buildIndicatorRows_objectives fits.1
  have nonempty : buildIndicatorRows sloDef fetchResult.evalResult.indicatorResults ≠ [] := by
    intro empty
    rw [empty] at objectives
    exact scoredObjectives_ne_nil fits.2 objectives.symm
  have accepted : (bulkInsert row.indicatorRows
      (buildIndicatorRows sloDef fetchResult.evalResult.indicatorResults)).isSome = true := by
    rw [bulkInsert_isSome]
    rw [<- objectives, <- List.map_append, List.map_map] at insertable
    exact insertable
  rcases Option.isSome_iff_exists.mp accepted with ⟨indicatorRows, inserted⟩
  have written : completedWrite db.evaluations snapshot sloDef fetchResult = some {
      evalId := snapshot.evalId
      change := .completed (completedValues snapshot sloDef fetchResult) (some indicatorRows) } := by
    unfold completedWrite
    dsimp only
    rw [if_neg nonempty, sameId, found]
    dsimp only
    rw [inserted]
    rfl
  have stored : writeResults db snapshot sloDef fetchResult = some { db with
      evaluations := applyWrite (some {
        evalId := snapshot.evalId
        change := .completed (completedValues snapshot sloDef fetchResult) (some indicatorRows) })
        db.evaluations } := by
    rw [writeResults_eq, written]
    rfl
  have advanced : advance settings input message db (.writing snapshot sloDef fetchResult) = some {
      db := { db with
        evaluations := applyWrite (some {
          evalId := snapshot.evalId
          change := .completed (completedValues snapshot sloDef fetchResult) (some indicatorRows) })
          db.evaluations }
      phase := .wrappingUp snapshot.parentRunId } := by
    unfold advance
    dsimp only
    rw [stored]
  rw [runPhases_succ advanced, runPhases_succ rfl]
  dsimp only
  rw [runPhases_finished]
  unfold statusIn
  dsimp only
  rw [find_applyWrite, found]
  have targeted : row.id = snapshot.evalId := (find_key found).trans sameId.symm
  change some (if row.id = snapshot.evalId then _ else row).status = some .completed
  rw [if_pos targeted]
  rfl

end Outcome

section Terminal

variable {settings : Settings} {now : Instant} {workerId : Option String} {outcome : AdapterOutcome}
  {message : Message} {db : Database} {row : SLOEvaluation}

def Terminal (message : Message) (db : Database) : Prop :=
  statusIn message db = some .completed ∨ statusIn message db = some .failed

def markedDatabase (db : Database) (message : Message) (now : Instant) (workerId : Option String) :
    Database :=
  { db with evaluations := markRunning db.evaluations message.evalId now workerId }

theorem find_markedDatabase (now : Instant) (workerId : Option String)
    (found : db.evaluations.find message.evalId = some row) :
    (markedDatabase db message now workerId).evaluations.find message.evalId =
      some (row.setRunning now workerId) := by
  change (markRunning db.evaluations message.evalId now workerId).find message.evalId = _
  unfold markRunning
  rw [find_update, if_pos rfl, found]
  rfl

theorem runEvaluationJob_started (found : db.evaluations.find message.evalId = some row)
    (passes : defers settings { now, workerId, adapter := fun _ => outcome } message db = false) :
    runEvaluationJob settings now workerId outcome message db =
      runPhases settings { now, workerId, adapter := fun _ => outcome } message 3
        (markedDatabase db message now workerId) (loadingPhase db (snapshotOf db row)) := by
  let input : PhaseInput := { now, workerId, adapter := fun _ => outcome }
  have checked : advance settings input message db .checking = some { db, phase := .marking } := by
    unfold advance
    rw [passes]
    rfl
  have marking : advance settings input message db .marking =
      some { db := markedDatabase db message now workerId
             phase := .loading (snapshotOf db row) } := by
    rw [advance_marking, found]
    rfl
  change runPhases settings input message (5 + 1) db .checking = _
  rw [runPhases_succ checked, runPhases_succ marking, runPhases_succ rfl]
  rfl

theorem forall_loads_iff {condition : SLODefinition -> SLIDefinition -> Prop}
    {sloDef : SLODefinition} {sliDef : SLIDefinition} {datasource : DataSource}
    (loads : Loads db row sloDef sliDef datasource) :
    (forall otherSlo otherSli otherSource, Loads db row otherSlo otherSli otherSource ->
      condition otherSlo otherSli) ↔ condition sloDef sliDef := by
  constructor
  · intro all
    exact all sloDef sliDef datasource loads
  · intro here otherSlo otherSli otherSource otherLoads
    have same := loads.unique otherLoads
    rw [same.1, same.2.1]
    exact here

/-- A job that has loaded its definitions ends in a terminal status exactly when the fetch
returns. -/
theorem fetching_terminal_iff {input : PhaseInput} {marked : Database} {snapshot : EvaluationSnapshot}
    {sloDef : SLODefinition} {sliDef : SLIDefinition} {datasource : DataSource}
    (found : marked.evaluations.find message.evalId = some row) (running : row.status = .running)
    (sameId : snapshot.evalId = message.evalId)
    (insertable : ((row.indicatorRows.rows.map (·.objective) ++ scoredObjectives sloDef).map
      (·.id)).Nodup) :
    Terminal message (runPhases settings input message 3 marked
        (.fetching snapshot sloDef sliDef datasource)).1 ↔
      (fetchAndEvaluate marked.evaluations snapshot sloDef sliDef datasource input.adapter).isOk =
        true := by
  rw [runPhases_succ rfl]
  dsimp only
  cases fetched : fetchAndEvaluate marked.evaluations snapshot sloDef sliDef datasource
      input.adapter with
  | error failure =>
      have raised : fetchingPhase marked snapshot sloDef sliDef datasource input.adapter =
          .raised failure := by
        unfold fetchingPhase
        rw [fetched]
      have isRunning : statusIn message marked = some .running := by
        unfold statusIn
        rw [found, Option.map_some, running]
      rw [raised, runPhases_raised]
      unfold Terminal
      dsimp only
      rw [isRunning]
      constructor
      · rintro (completed | failed)
        · cases completed
        · cases failed
      · intro impossible
        exact absurd impossible Bool.false_ne_true
  | ok result =>
      refine ⟨fun _ => rfl, fun _ => ?_⟩
      cases result with
      | none =>
          have failing : fetchingPhase marked snapshot sloDef sliDef datasource input.adapter =
              .failing "adapter query failed" := by
            unfold fetchingPhase
            rw [fetched]
          rw [failing]
          exact Or.inr (status_failing found)
      | some fetchResult =>
          have writing : fetchingPhase marked snapshot sloDef sliDef datasource input.adapter =
              .writing snapshot sloDef fetchResult := by
            unfold fetchingPhase
            rw [fetched]
          rw [writing]
          exact Or.inl (status_writing found sameId (fetchingPhase_writing writing).2.2 insertable)

end Terminal

/-- A job that passes the predecessor check, and whose insertion of indicator rows
the database accepts, leaves its evaluation completed or failed if and only if a
definition of the evaluation is missing, or its model builds, its raw queries
resolve, and the adapter fails with a caught error or answers for criteria that
all parse. -/
theorem runEvaluationJob_terminal_iff {settings : Settings} {now : Instant}
    {workerId : Option String} {outcome : AdapterOutcome} {message : Message} {db : Database}
    {row : SLOEvaluation} (found : db.evaluations.find message.evalId = some row)
    (passes : defers settings { now, workerId, adapter := fun _ => outcome } message db = false)
    (accepted : forall sliDef, sliDef ∈ db.sliDefinitions.rows -> Accepted sliDef)
    (insertable : forall sloDef sliDef datasource, Loads db row sloDef sliDef datasource ->
      ((row.indicatorRows.rows.map (·.objective) ++ scoredObjectives sloDef).map (·.id)).Nodup) :
    (statusIn message (runEvaluationJob settings now workerId outcome message db).1 =
        some .completed ∨
      statusIn message (runEvaluationJob settings now workerId outcome message db).1 =
        some .failed) ↔
      forall sloDef sliDef datasource, Loads db row sloDef sliDef datasource ->
        ModelBuilds sloDef ∧ TemplatesResolve (snapshotOf db row) sloDef sliDef ∧
          Scorable outcome sloDef := by
  have markedFound := find_markedDatabase now workerId found
  have rowKey : row.id = message.evalId := find_key found
  have sameId : (snapshotOf db row).evalId = message.evalId := rowKey
  rw [runEvaluationJob_started found passes]
  rcases loadingPhase_cases db row with ⟨sloDef, sliDef, datasource, loads, loading⟩ | ⟨none, error, loading⟩
  · have sliAccepted : Accepted sliDef := by
      rcases loads.sli with ⟨name, version, _, _, sliFound⟩
      exact accepted sliDef (find_mem sliFound)
    rw [forall_loads_iff loads, loading]
    rw [<- fetchAndEvaluate_isOk (markedDatabase db message now workerId).evaluations _ _ datasource
      _ sliAccepted]
    exact fetching_terminal_iff markedFound rfl sameId (insertable sloDef sliDef datasource loads)
  · rw [loading]
    constructor
    · intro _ sloDef sliDef datasource loads
      exact absurd loads (none sloDef sliDef datasource)
    · intro _
      exact Or.inr (status_failing markedFound)

/-! ## Two jobs -/

def Sample.sliRequest : SLIDefinitionCreate :=
  { name := "checkout-sli", indicators := (∅ : Dict String).insert "latency" "avg(latency)" }

theorem sliDefinition_accepted : Accepted Sample.sliDefinition :=
  ⟨Sample.sliRequest, .raw, by decide +kernel, by decide +kernel, rfl⟩

def Sample.params (sloVersion : Int) : EvalCreateParams :=
  { evaluationId := 1, evaluationName := "hourly", periodStart := 0, periodEnd := 3600000000,
    assetId := 1, sloName := "checkout", sloVersion := some sloVersion,
    sliName := some "checkout-sli", sliVersion := some 1, dataSourceName := some "prometheus" }

def Sample.message : Message :=
  { jobId := 0, evalId := 10 }

def Sample.answer : AdapterOutcome :=
  .response ((∅ : Dict (Option ℚ)).insert "latency" (some 50)) ∅

theorem answered_job_terminal :
    Exists fun db => createPending Sample.database (Sample.params 1) 10 = some db ∧
      (statusIn Sample.message
          (runEvaluationJob {} 0 none Sample.answer Sample.message db).1 = some .completed ∨
        statusIn Sample.message
          (runEvaluationJob {} 0 none Sample.answer Sample.message db).1 = some .failed) := by
  have facts : (createPending Sample.database (Sample.params 1) 10).any (fun db =>
      !defers {} { now := 0, adapter := fun _ => Sample.answer } Sample.message db &&
        (db.evaluations.find 10).any fun row =>
          row.indicatorRows.rows.isEmpty) = true := by
    decide +kernel
  have definitionFacts : decide (Sample.sloDefinition.objectives.rows ≠ [] ∧
      Sample.sloDefinition.comparison.validate.isOk = true ∧
      (forall objective, objective ∈ Sample.sloDefinition.objectives.rows ->
        objective.toModel.CriteriaParse) ∧
      ((scoredObjectives Sample.sloDefinition).map (·.id)).Nodup) = true := by
    decide +kernel
  rcases (Option.any_eq_true _ _).mp facts with ⟨db, created, facts⟩
  have sameDefinitions := (createPending_eq_some created).2.2
  rcases Bool.and_eq_true_iff.mp facts with ⟨passes, rowFacts⟩
  rcases (Option.any_eq_true _ _).mp rowFacts with ⟨row, found, rowFacts⟩
  have noRows : row.indicatorRows.rows = [] := List.isEmpty_iff.mp rowFacts
  simp only [decide_eq_true_eq] at definitionFacts
  have sliIs : forall sliDef, sliDef ∈ db.sliDefinitions.rows -> sliDef = Sample.sliDefinition := by
    intro sliDef member
    rw [sameDefinitions.2.1] at member
    exact List.mem_singleton.mp member
  have sloIs : forall sloDef sliDef datasource, Loads db row sloDef sliDef datasource ->
      sloDef = Sample.sloDefinition ∧ sliDef = Sample.sliDefinition := by
    intro sloDef sliDef datasource loads
    rcases loads.slo with ⟨version, _, sloFound⟩
    rcases loads.sli with ⟨_, _, _, _, sliFound⟩
    have member := find_mem sloFound
    rw [sameDefinitions.1] at member
    exact ⟨List.mem_singleton.mp member, sliIs sliDef (find_mem sliFound)⟩
  refine ⟨db, created, ?_⟩
  apply (runEvaluationJob_terminal_iff found (Bool.not_eq_true' _ |>.mp passes) ?_ ?_).mpr
  · intro sloDef sliDef datasource loads
    have same := sloIs sloDef sliDef datasource loads
    rw [same.1, same.2]
    refine ⟨⟨definitionFacts.1, definitionFacts.2.1⟩, fun _ entry member name placeholder => ?_,
      Or.inr ⟨⟨_, _, rfl⟩, definitionFacts.2.2.1⟩⟩
    have only : entry = ⟨"latency", "avg(latency)"⟩ := List.mem_singleton.mp member
    rw [only] at placeholder
    have none : (templatePieces "avg(latency)").all (fun piece =>
        match piece with
        | .placeholder _ => false
        | .text _ => true) = true := by
      decide +kernel
    exact absurd (List.all_eq_true.mp none _ placeholder) Bool.false_ne_true
  · intro sliDef member
    rw [sliIs sliDef member]
    exact sliDefinition_accepted
  · intro sloDef sliDef datasource loads
    rw [(sloIs sloDef sliDef datasource loads).1, noRows]
    exact definitionFacts.2.2.2

def Sample.unparsable : SLODefinitionCreate :=
  { name := "checkout", objectives := [{ sli := "latency", passThreshold := ["below 100"] }],
    sliName := some "checkout-sli" }

theorem unparsable_criterion_leaves_running :
    Exists fun db => Exists fun pending =>
      createSloDefinition Sample.database Sample.unparsable 2 = .ok db ∧
        createPending db (Sample.params 2) 10 = some pending ∧
        statusIn Sample.message
          (runEvaluationJob {} 0 none Sample.answer Sample.message pending).1 = some .running := by
  have ran : ((createSloDefinition Sample.database Sample.unparsable 2).toOption.bind fun db =>
      (createPending db (Sample.params 2) 10).bind fun pending =>
        statusIn Sample.message
          (runEvaluationJob {} 0 none Sample.answer Sample.message pending).1) = some .running := by
    decide +kernel
  rcases Option.bind_eq_some_iff.mp ran with ⟨db, accepted, ran⟩
  rcases Option.bind_eq_some_iff.mp ran with ⟨pending, created, running⟩
  refine ⟨db, pending, ?_, created, running⟩
  cases created' : createSloDefinition Sample.database Sample.unparsable 2 with
  | error failure =>
      rw [created'] at accepted
      cases accepted
  | ok result =>
      rw [created'] at accepted
      cases accepted
      rfl

end Worker
end Tropek
