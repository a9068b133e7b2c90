import Tropek.ReEvaluation.Passes
import Tropek.Worker.Points

namespace Tropek
namespace ReEvaluation

open Library Engine Store Worker KeyedTable

/-!
# What a rewritten evaluation records

The worker and the re-evaluation both store a scoring of the engine.  The worker
writes all columns that are derived from it.  The re-evaluation writes the result,
the score, the version and the indicator rows, and leaves the points, the thresholds
and the compared evaluations as they were.  So the row describes the new scoring
exactly when these columns had the values of the new scoring before.
-/

structure RecordsPoints (sloDef : SLODefinition) (evalResult : EvaluationResult)
    (row : SLOEvaluation) : Prop where
  achievedPoints :
    row.achievedPoints = some (evalResult.indicatorResults.map (roundHalfEven ·.score)).sum
  totalPoints : row.totalPoints = some (sloDef.objectives.rows.map (·.weight)).sum
  passThreshold : row.jobStats.totalScorePassThreshold = some sloDef.totalScorePassThreshold
  warningThreshold :
    row.jobStats.totalScoreWarningThreshold = some sloDef.totalScoreWarningThreshold
  comparedIds : row.jobStats.comparedEvaluationIds = some evalResult.comparedEvaluationIds

structure Recorded (sloDef : SLODefinition) (evalResult : EvaluationResult) (row : SLOEvaluation) :
    Prop extends RecordsPoints sloDef evalResult row where
  result : row.result = some (.ofOutcome evalResult.result)
  score : row.score = some evalResult.score
  version : row.sloVersion = some sloDef.version
  indicatorRows : row.indicatorRows.rows = buildIndicatorRows sloDef evalResult.indicatorResults

instance (sloDef : SLODefinition) (evalResult : EvaluationResult) (row : SLOEvaluation) :
    Decidable (Recorded sloDef evalResult row) :=
  decidable_of_iff
    ((row.achievedPoints = some (evalResult.indicatorResults.map (roundHalfEven ·.score)).sum ∧
        row.totalPoints = some (sloDef.objectives.rows.map (·.weight)).sum ∧
        row.jobStats.totalScorePassThreshold = some sloDef.totalScorePassThreshold ∧
        row.jobStats.totalScoreWarningThreshold = some sloDef.totalScoreWarningThreshold ∧
        row.jobStats.comparedEvaluationIds = some evalResult.comparedEvaluationIds) ∧
      row.result = some (.ofOutcome evalResult.result) ∧ row.score = some evalResult.score ∧
      row.sloVersion = some sloDef.version ∧
      row.indicatorRows.rows = buildIndicatorRows sloDef evalResult.indicatorResults)
    ⟨fun ⟨⟨achieved, total, pass, warning, compared⟩, result, score, version, rows⟩ =>
        ⟨⟨achieved, total, pass, warning, compared⟩, result, score, version, rows⟩,
      fun ⟨⟨achieved, total, pass, warning, compared⟩, result, score, version, rows⟩ =>
        ⟨⟨achieved, total, pass, warning, compared⟩, result, score, version, rows⟩⟩

/-- The columns that a re-evaluation leaves fit an input of the engine: the weights and
the thresholds are those of the version, the compared evaluations are the baselines, and
the achieved points are what the values of the metrics earn against them. -/
structure PointsFit (window : Window) (metrics baselines : Dict (Option ℚ))
    (comparedIds : List Nat) (row : SLOEvaluation) : Prop where
  achievedPoints : Exists fun achieved => row.achievedPoints = some achieved ∧
    (achieved : ℚ) = (weigh window.sloModel metrics baselines).earned +
      (weigh window.sloModel metrics baselines).rounding
  totalPoints : row.totalPoints = some (window.sloDef.objectives.rows.map (·.weight)).sum
  passThreshold :
    row.jobStats.totalScorePassThreshold = some window.sloDef.totalScorePassThreshold
  warningThreshold :
    row.jobStats.totalScoreWarningThreshold = some window.sloDef.totalScoreWarningThreshold
  comparedIds : row.jobStats.comparedEvaluationIds = some comparedIds

variable {baselines metrics : Dict (Option ℚ)} {before after : SLOEvaluation}
  {comparedIds : List Nat} {window : Window} {evalResult : EvaluationResult}

theorem pointsFit_kept (kept : KeepsPoints before after) :
    PointsFit window metrics baselines comparedIds after ↔
      PointsFit window metrics baselines comparedIds before := by
  constructor
  · rintro ⟨⟨achieved, stored, earned⟩, total, pass, warning, compared⟩
    exact ⟨⟨achieved, kept.achievedPoints ▸ stored, earned⟩, kept.totalPoints ▸ total,
      kept.passThreshold ▸ pass, kept.warningThreshold ▸ warning, kept.comparedIds ▸ compared⟩
  · rintro ⟨⟨achieved, stored, earned⟩, total, pass, warning, compared⟩
    exact ⟨⟨achieved, kept.achievedPoints.trans stored, earned⟩, kept.totalPoints.trans total,
      kept.passThreshold.trans pass, kept.warningThreshold.trans warning,
      kept.comparedIds.trans compared⟩

theorem recordsPoints_iff {row : SLOEvaluation}
    (evaluated : evaluate window.sloModel metrics baselines comparedIds = .ok evalResult) :
    RecordsPoints window.sloDef evalResult row ↔
      PointsFit window metrics baselines comparedIds row := by
  have earned := evaluate_achieved evaluated
  rcases evaluate_eq_ok evaluated with ⟨_, _, _, _, _, compared⟩
  constructor
  · intro records
    exact ⟨⟨_, records.achievedPoints, earned⟩, records.totalPoints, records.passThreshold,
      records.warningThreshold, records.comparedIds.trans (congrArg some compared)⟩
  · intro fits
    rcases fits.achievedPoints with ⟨achieved, stored, same⟩
    have sameSum : achieved = (evalResult.indicatorResults.map (roundHalfEven ·.score)).sum := by
      exact_mod_cast same.trans earned.symm
    rw [sameSum] at stored
    exact ⟨stored, fits.totalPoints, fits.passThreshold, fits.warningThreshold,
      fits.comparedIds.trans (congrArg some compared.symm)⟩

/-- A row with a scoring written to it records the scoring exactly when its points fit
before. -/
theorem Written.recorded_iff
    (evaluated : evaluate window.sloModel metrics baselines comparedIds = .ok evalResult)
    (written : Written window evalResult before after) :
    Recorded window.sloDef evalResult after ↔
      PointsFit window metrics baselines comparedIds before := by
  rcases written with ⟨now, indicatorRows, rows, same⟩
  have kept : KeepsPoints before after := by
    rw [same]
    exact rescoredRow_keepsPoints _ _ _ _
  rw [<- pointsFit_kept kept, <- recordsPoints_iff evaluated]
  constructor
  · exact fun recorded => recorded.toRecordsPoints
  · intro points
    rw [same] at points ⊢
    exact ⟨points, rfl, rfl, rfl, rows⟩

/-- A real request leaves every evaluation that it does not report, and writes a
scoring to every other one.  The row then describes the last of these scorings exactly
when its points, thresholds and compared evaluations fitted the input of that scoring
before the request. -/
theorem reEvaluate_recorded {assigned : Nat -> List String} {clock : Nat -> Instant}
    {db last : Database} {request : ReEvaluateRequest} {response : ReEvaluateResponse}
    (real : request.dryRun = false)
    (ran : reEvaluate assigned clock db request = .ok (last, response)) :
    (forall evalId, evalId ∉ response.results.map (·.id) ->
      last.evaluations.find evalId = db.evaluations.find evalId) ∧
    forall before, before ∈ db.evaluations.rows -> before.id ∈ response.results.map (·.id) ->
      Exists fun asset => Exists fun names => Exists fun window => Exists fun middle =>
        Exists fun baselines => Exists fun comparedIds => Exists fun evalResult =>
          Exists fun after =>
            db.assets.rows.find? (·.name = request.assetName) = some asset ∧
            requestedSlos assigned request asset.id = .ok names ∧
            LastScoring request clock asset.id db names before.id window middle baselines
              comparedIds evalResult ∧
            last.evaluations.find before.id = some after ∧
            Written window evalResult middle after ∧
            (Recorded window.sloDef evalResult after ↔
              PointsFit window (metricsFromIndicatorRows middle.indicatorRows.rows) baselines
                comparedIds before) := by
  rcases reEvaluate_eq_ok.mp ran with ⟨asset, names, found, named, requested, looped, isResponse⟩
  have results : response.results = allResults found := by
    rw [isResponse]
  rw [results]
  refine ⟨fun evalId absent => reEvaluateSlos_keeps real looped absent, ?_⟩
  intro before stored reported
  rcases reEvaluateSlos_lastScoring real looped reported with
    ⟨window, middle, baselines, comparedIds, evalResult, after, scoring, ends, written⟩
  refine ⟨asset, names, window, middle, baselines, comparedIds, evalResult, after, named, requested,
    scoring, ends, written, ?_⟩
  rcases scoring.pass with
    ⟨done, name, rest, passDb, earlierFound, split, earlier, resolved, foundMiddle, others⟩
  rcases others with ⟨_, _, current, _, scores⟩
  have kept : KeepsPoints before middle := by
    have passed := (reEvaluateSlos_rewrites earlier).2
    rcases find_related (fun _ _ one => one.history.id) passed
      (find_of_mem stored) with ⟨other, foundOther, rewrites⟩
    rw [foundMiddle] at foundOther
    cases foundOther
    exact rewrites.keepsPoints
  rw [<- pointsFit_kept kept]
  exact written.recorded_iff scores.evaluated

/-! ## Three versions

The worker scores one evaluation against the first version, which passes.  The second
version has another weight; the third one has another criterion only.
-/

namespace Sample

def ledgerVersion (version : Int) (objective : SLOObjectiveRow) : SLODefinition :=
  { name := "ledger", version, objectives := empty.insert objective rfl }

def ledgerFirst : SLODefinition :=
  ledgerVersion 1 { id := 31, sli := "lag", passThreshold := ["<=50"] }

def ledgerHeavier : SLODefinition :=
  ledgerVersion 2 { id := 32, sli := "lag", passThreshold := ["<=50"], weight := 2 }

def ledgerLooser : SLODefinition :=
  ledgerVersion 3 { id := 33, sli := "lag", passThreshold := ["<=80"] }

def ledger : Database :=
  { evaluations := empty.insert
      { id := 30, evaluationId := 3, evaluationName := "daily", assetId := 6, periodStart := 0,
        periodEnd := 86400000000, sloName := "ledger", sloVersion := some 1 } rfl
    runs := .empty
    sloDefinitions := ((empty.insert ledgerFirst rfl).insert ledgerHeavier rfl).insert
      ledgerLooser rfl
    sliDefinitions := .empty
    dataSources := .empty
    assets := empty.insert { id := 6, name := "archive" } rfl }

def ledgerScored : Option Database := do
  let evaluation <- ledger.evaluations.find 30
  let metrics := (∅ : Dict (Option ℚ)).insert "lag" (some 40)
  let slo <- (buildSloModel ledgerFirst).toOption
  let evalResult <- (evaluate slo metrics ∅ []).toOption
  writeResults ledger (snapshotOf ledger evaluation) ledgerFirst
    { evalResult, metricsFetched := metrics, fetchErrors := ∅, baselines := ∅, comparedEvalIds := [] }

def ledgerRequest (sloVersion : Int) : ReEvaluateRequest :=
  { assetName := "archive", sloName := some "ledger", fromDate := some 0,
    sloVersion := some sloVersion }

def ledgerScoring (sloDef : SLODefinition) : Option EvaluationResult :=
  (buildSloModel sloDef).toOption.bind fun slo =>
    (evaluate slo ((∅ : Dict (Option ℚ)).insert "lag" (some 40)) ∅ []).toOption

def ledgerRun (sloVersion : Int) :
    Option (Database × (Database × ReEvaluateResponse) × SLOEvaluation × SLOEvaluation) :=
  ledgerScored.bind fun db =>
    (reEvaluate (fun _ => []) (fun _ => 0) db (ledgerRequest sloVersion)).toOption.bind fun outcome =>
      (db.evaluations.find 30).bind fun before =>
        (outcome.1.evaluations.find 30).map fun after => (db, outcome, before, after)

theorem ledgerRun_eq_some {sloVersion : Int} {db last : Database} {response : ReEvaluateResponse}
    {before after : SLOEvaluation}
    (ran : ledgerRun sloVersion = some (db, (last, response), before, after)) :
    ledgerScored = some db ∧
      reEvaluate (fun _ => []) (fun _ => 0) db (ledgerRequest sloVersion) = .ok (last, response) ∧
      db.evaluations.find 30 = some before ∧ last.evaluations.find 30 = some after := by
  unfold ledgerRun at ran
  rw [Option.bind_eq_some_iff] at ran
  rcases ran with ⟨scoredDb, scored, ran⟩
  rw [Option.bind_eq_some_iff] at ran
  rcases ran with ⟨outcome, succeeded, ran⟩
  rw [Option.bind_eq_some_iff] at ran
  rcases ran with ⟨found, stored, ran⟩
  rw [Option.map_eq_some_iff] at ran
  rcases ran with ⟨ended, here, same⟩
  cases same
  exact ⟨scored, Fallible.toOption_eq_some.mp succeeded, stored, here⟩

end Sample

/-- Against the version that only differs in its criterion, the row records the new
scoring. -/
theorem looser_version_recorded :
    Exists fun db => Exists fun last => Exists fun response => Exists fun before =>
      Exists fun after =>
        Sample.ledgerScored = some db ∧
        reEvaluate (fun _ => []) (fun _ => 0) db (Sample.ledgerRequest 3) = .ok (last, response) ∧
        db.evaluations.find 30 = some before ∧ last.evaluations.find 30 = some after ∧
        (Exists fun evalResult => Recorded Sample.ledgerLooser evalResult after) ∧
        Exists fun asset => Exists fun names => Exists fun window => Exists fun middle =>
          Exists fun baselines => Exists fun comparedIds => Exists fun evalResult =>
            LastScoring (Sample.ledgerRequest 3) (fun _ => 0) asset db names before.id window middle
                baselines comparedIds evalResult ∧
              Written window evalResult middle after ∧
              (Recorded window.sloDef evalResult after ↔
                PointsFit window (metricsFromIndicatorRows middle.indicatorRows.rows) baselines
                  comparedIds before) := by
  have ran : ((Sample.ledgerRun 3).bind fun found =>
      (Sample.ledgerScoring Sample.ledgerLooser).map fun evalResult =>
        decide (found.2.2.1.id ∈ found.2.1.2.results.map (·.id) ∧
          Recorded Sample.ledgerLooser evalResult found.2.2.2)) = some true := by
    decide +kernel
  rw [Option.bind_eq_some_iff] at ran
  rcases ran with ⟨⟨db, ⟨last, response⟩, before, after⟩, isRun, ran⟩
  rw [Option.map_eq_some_iff] at ran
  rcases ran with ⟨scoring, _, facts⟩
  rcases of_decide_eq_true facts with ⟨reported, recorded⟩
  rcases Sample.ledgerRun_eq_some isRun with ⟨scored, succeeded, stored, here⟩
  have isBefore : before.id = 30 := find_key stored
  rcases (reEvaluate_recorded rfl succeeded).2 before (find_mem stored) reported with
    ⟨asset, names, window, middle, baselines, comparedIds, evalResult, ended, _, _, last', found,
      written, iff⟩
  rw [isBefore, here] at found
  cases found
  exact ⟨db, last, response, before, after, scored, succeeded, stored, here, ⟨scoring, recorded⟩,
    asset.id, names, window, middle, baselines, comparedIds, evalResult, last', written, iff⟩

/-- Against the heavier version, the points of a row that the worker had recorded in
full stay those of the first version.  So they come from no scoring by the version
that the row names. -/
theorem heavier_version_not_recorded :
    Exists fun db => Exists fun last => Exists fun response => Exists fun before =>
      Exists fun after =>
        Sample.ledgerScored = some db ∧
        reEvaluate (fun _ => []) (fun _ => 0) db (Sample.ledgerRequest 2) = .ok (last, response) ∧
        db.evaluations.find 30 = some before ∧ last.evaluations.find 30 = some after ∧
        before.id ∈ response.results.map (·.id) ∧
        (Exists fun evalResult => Recorded Sample.ledgerFirst evalResult before) ∧
        forall sloDef, sloDef ∈ last.sloDefinitions.rows -> forall evalResult,
          ¬ Recorded sloDef evalResult after := by
  have ran : ((Sample.ledgerRun 2).bind fun found =>
      (Sample.ledgerScoring Sample.ledgerFirst).map fun evalResult =>
        decide (found.2.2.1.id ∈ found.2.1.2.results.map (·.id) ∧
          Recorded Sample.ledgerFirst evalResult found.2.2.1 ∧
          forall sloDef, sloDef ∈ found.2.1.1.sloDefinitions.rows ->
            found.2.2.2.sloVersion = some sloDef.version ->
              found.2.2.2.totalPoints ≠ some (sloDef.objectives.rows.map (·.weight)).sum)) =
      some true := by
    decide +kernel
  rw [Option.bind_eq_some_iff] at ran
  rcases ran with ⟨⟨db, ⟨last, response⟩, before, after⟩, isRun, ran⟩
  rw [Option.map_eq_some_iff] at ran
  rcases ran with ⟨scoring, _, facts⟩
  rcases of_decide_eq_true facts with ⟨reported, recorded, stale⟩
  rcases Sample.ledgerRun_eq_some isRun with ⟨scored, succeeded, stored, here⟩
  refine ⟨db, last, response, before, after, scored, succeeded, stored, here, reported,
    ⟨scoring, recorded⟩, ?_⟩
  intro sloDef member evalResult wrong
  exact stale sloDef member wrong.version wrong.totalPoints

end ReEvaluation
end Tropek
