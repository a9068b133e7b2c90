import Tropek.Presentation.MetricHeatmap

namespace Tropek
namespace Presentation

open Library Engine Store KeyedTable Fallible

/-!
# Markers of change points

A change point belongs to the run at which a metric shifted, and it carries the period of
that run in columns of its own.  The views look it up with the columns of evaluations, of
runs and of cached fragments.  Here each lookup is traced back to the run: when all these
columns agree with it, a marker is on exactly the points of its metric in that run.
-/

structure Subject where
  assetId : Nat
  sloName : String
  metricName : String
  series : String
  periodStart : Instant
  periodEnd : Instant
deriving DecidableEq

def subjectIn (run : EvaluationRun) (sloName metricName : String) : Subject :=
  { assetId := run.assetId
    sloName
    metricName
    series := run.evalName
    periodStart := run.periodStart
    periodEnd := run.periodEnd }

/-- What a change point is about: its metric in the run at which it shifted. -/
def changePointSubject (db : Database) (row : ChangePointRow) : Option Subject :=
  (row.evaluationRunId.bind db.runs.find).map fun run => subjectIn run row.sloName row.metricName

/-- What a point of a view is about: its metric in the run of its evaluation. -/
def pointSubject (db : Database) (sloEvaluationId : Nat) (metricName : String) : Option Subject := do
  let evaluation <- db.evaluations.find sloEvaluationId
  let run <- db.runs.find evaluation.evaluationId
  return subjectIn run evaluation.sloName metricName

def Subject.key (subject : Subject) : ChangePointKey :=
  { sloName := subject.sloName
    metricName := subject.metricName
    periodStart := subject.periodStart
    periodEnd := some subject.periodEnd
    evalName := subject.series }

def ChangePointRow.marker (row : ChangePointRow) : ChangePointMarker :=
  { direction := row.direction
    changeRelativePct := row.changeRelativePct
    transition := row.transition
    changeAbsolute := some row.changeAbsolute }

/-- A point of the subject has the marker of its change point, unless that is hidden. -/
structure Marks (tables : TrendTables) (subject : Subject) (marker : Option ChangePointMarker) :
    Prop where
  shown : forall row, row ∈ tables.changePoints ->
    changePointSubject tables.toDatabase row = some subject -> row.status ≠ "hidden" ->
      marker = some row.marker
  justified : forall other, marker = some other -> Exists fun row => row ∈ tables.changePoints ∧
    changePointSubject tables.toDatabase row = some subject ∧ row.status ≠ "hidden" ∧
      row.marker = other
  hidden : forall row, row ∈ tables.changePoints ->
    changePointSubject tables.toDatabase row = some subject -> row.status = "hidden" ->
      marker = none

/-- A point of a trend is about the metric in the series and the period that it names. -/
def TrendPoint.Marked (tables : TrendTables) (request : TrendRequest) (metricName : String)
    (point : TrendPoint) : Prop :=
  Exists fun subject => pointSubject tables.toDatabase point.evalId metricName = some subject ∧
    subject.assetId = request.assetId ∧ subject.sloName = request.sloName ∧
    subject.series = point.evaluationName ∧ subject.periodStart = point.timestamp ∧
    Marks tables subject point.changePoint

def HeatmapCellGrouped.Marked (tables : TrendTables) (assetId : Nat) (sloName : String)
    (cell : HeatmapCellGrouped) : Prop :=
  Exists fun subject =>
    pointSubject tables.toDatabase cell.sloEvaluationId cell.metric = some subject ∧
      subject.assetId = assetId ∧ subject.sloName = sloName ∧
      subject.periodStart = cell.periodStart ∧ Marks tables subject cell.changePoint

def Aligned (db : Database) (evaluation : SLOEvaluation) : Prop :=
  Exists fun run => db.runs.find evaluation.evaluationId = some run ∧
    run.assetId = evaluation.assetId ∧ run.evalName = evaluation.evaluationName ∧
    run.periodStart = evaluation.periodStart ∧ run.periodEnd = evaluation.periodEnd

def Attributed (db : Database) (row : ChangePointRow) : Prop :=
  Exists fun run => row.evaluationRunId.bind db.runs.find = some run ∧
    run.assetId = row.assetId ∧ run.periodStart = row.periodStart ∧
    some run.periodEnd = row.periodEnd

structure Attribution (tables : TrendTables) : Prop where
  aligned : forall evaluation, evaluation ∈ tables.evaluations.rows ->
    Aligned tables.toDatabase evaluation
  attributed : forall row, row ∈ tables.changePoints -> Attributed tables.toDatabase row
  single : (tables.changePoints.map (changePointSubject tables.toDatabase)).Nodup

def FitsEvaluation (db : Database) (sloEvaluationId : Nat) (fragment : TrendColumnFragment) : Prop :=
  fragment.sloEvaluationId = sloEvaluationId ∧ Exists fun evaluation =>
    db.evaluations.find sloEvaluationId = some evaluation ∧
      fragment.sloName = evaluation.sloName ∧ fragment.periodStart = evaluation.periodStart ∧
      fragment.periodEnd = evaluation.periodEnd ∧
      fragment.evaluationName = evaluation.evaluationName

/-- A cell of a cached fragment has the columns of its run and is of an evaluation of the
SLO in it.  It has no marker yet. -/
structure CellFits (db : Database) (run : EvaluationRun) (sloName : String)
    (cell : HeatmapCellGrouped) : Prop where
  evaluationId : cell.evaluationId = run.id
  periodStart : cell.periodStart = run.periodStart
  unmarked : cell.changePoint = none
  evaluation : Exists fun evaluation => db.evaluations.find cell.sloEvaluationId = some evaluation ∧
    evaluation.evaluationId = run.id ∧ evaluation.sloName = sloName

def FitsRun (db : Database) (runId : Nat) (fragment : HeatmapColumnFragment) : Prop :=
  Exists fun run => db.runs.find runId = some run ∧
    forall part, part ∈ fragment.perSlo -> forall cell, cell ∈ part.cells ->
      CellFits db run part.sloName cell

theorem Subject.key_injective {first second : Subject} (asset : first.assetId = second.assetId)
    (same : first.key = second.key) : first = second := by
  cases first
  cases second
  simp only [Subject.key, ChangePointKey.mk.injEq, Option.some.injEq] at same
  simp only at asset
  simp [asset, same]

theorem mem_changePointEntries {tables : TrendTables} {rows : List ChangePointRow}
    {entry : ChangePointKey × ChangePointRow} :
    entry ∈ changePointEntries tables rows ↔ entry.2 ∈ rows ∧ Exists fun run =>
      entry.2.evaluationRunId.bind tables.runs.find = some run ∧
        entry.1 = { sloName := entry.2.sloName
                    metricName := entry.2.metricName
                    periodStart := entry.2.periodStart
                    periodEnd := entry.2.periodEnd
                    evalName := run.evalName } := by
  unfold changePointEntries
  rw [List.mem_filterMap]
  constructor
  · rintro ⟨row, member, made⟩
    rcases Option.map_eq_some_iff.mp made with ⟨run, found, same⟩
    subst same
    exact ⟨member, run, found, rfl⟩
  · rintro ⟨member, run, found, isKey⟩
    refine ⟨entry.2, member, ?_⟩
    rw [found, Option.map_some, <- isKey]

theorem Attributed.entry {tables : TrendTables} {row : ChangePointRow}
    (attributed : Attributed tables.toDatabase row) : Exists fun subject =>
      changePointSubject tables.toDatabase row = some subject ∧ subject.assetId = row.assetId ∧
        subject.sloName = row.sloName ∧ subject.metricName = row.metricName ∧
        subject.periodStart = row.periodStart ∧
        forall rows, row ∈ rows -> forall key, (key, row) ∈ changePointEntries tables rows ↔
          key = subject.key := by
  rcases attributed with ⟨run, found, asset, periodStart, periodEnd⟩
  refine ⟨subjectIn run row.sloName row.metricName, ?_, asset, rfl, rfl, periodStart, ?_⟩
  · unfold changePointSubject
    rw [found]
    rfl
  · intro rows member key
    have isKey : (subjectIn run row.sloName row.metricName).key =
        { sloName := row.sloName
          metricName := row.metricName
          periodStart := row.periodStart
          periodEnd := row.periodEnd
          evalName := run.evalName } := by
      rw [<- periodStart, <- periodEnd]
      rfl
    rw [mem_changePointEntries, isKey]
    constructor
    · rintro ⟨_, other, alsoFound, same⟩
      rw [found] at alsoFound
      cases alsoFound
      exact same
    · exact fun same => ⟨member, run, found, same⟩

def Selects (tables : TrendTables) (subject : Subject) (chosen : ChangePointRow -> Bool) : Prop :=
  forall row, row ∈ tables.changePoints -> row.sloName = subject.sloName ->
    row.metricName = subject.metricName -> row.periodStart = subject.periodStart ->
      (chosen row = true ↔ row.assetId = subject.assetId ∧ row.status ≠ "hidden")

/-- Looking up the key of a subject among the selected change points finds the visible one
of the subject. -/
theorem Attribution.marks {tables : TrendTables} (attribution : Attribution tables)
    {subject : Subject} {chosen : ChangePointRow -> Bool} (selects : Selects tables subject chosen) :
    Marks tables subject (changePointFor
      (changePointEntries tables (tables.changePoints.filter chosen)) subject.key) := by
  let entries := changePointEntries tables (tables.changePoints.filter chosen)
  have sameRow : forall first, first ∈ tables.changePoints -> forall second,
      second ∈ tables.changePoints -> changePointSubject tables.toDatabase first = some subject ->
        changePointSubject tables.toDatabase second = some subject -> first = second := by
    intro first firstIn second secondIn isFirst isSecond
    exact List.inj_on_of_nodup_map attribution.single firstIn secondIn (isFirst.trans isSecond.symm)
  -- An entry of the key is of a visible change point of the subject.
  have ofKey : forall entry, entry ∈ entries -> entry.1 = subject.key ->
      entry.2 ∈ tables.changePoints ∧
        changePointSubject tables.toDatabase entry.2 = some subject ∧
        entry.2.status ≠ "hidden" := by
    intro entry member isKey
    rcases List.mem_filter.mp (mem_changePointEntries.mp member).1 with ⟨stored, isChosen⟩
    rcases (attribution.attributed entry.2 stored).entry with
      ⟨other, isSubject, asset, sloName, metricName, periodStart, keys⟩
    have sameKey : other.key = subject.key := by
      rw [<- (keys _ (List.mem_filter.mpr ⟨stored, isChosen⟩) entry.1).mp member, isKey]
    have columns := sameKey
    simp only [Subject.key, ChangePointKey.mk.injEq] at columns
    have visible := (selects entry.2 stored (sloName.symm.trans columns.1)
      (metricName.symm.trans columns.2.1) (periodStart.symm.trans columns.2.2.1)).mp isChosen
    have same := Subject.key_injective (asset.trans visible.1) sameKey
    exact ⟨stored, same ▸ isSubject, visible.2⟩
  have isLookup : changePointFor entries subject.key =
      (Entries.last Prod.fst subject.key entries).map fun entry => entry.2.marker :=
    rfl
  have justified : forall other, changePointFor entries subject.key = some other ->
      Exists fun row => row ∈ tables.changePoints ∧
        changePointSubject tables.toDatabase row = some subject ∧ row.status ≠ "hidden" ∧
        row.marker = other := by
    intro other isOther
    rw [isLookup] at isOther
    rcases Option.map_eq_some_iff.mp isOther with ⟨entry, found, same⟩
    rcases Entries.last_eq_some found with ⟨member, isKey⟩
    rcases ofKey entry member isKey with ⟨stored, isSubject, visible⟩
    exact ⟨entry.2, stored, isSubject, visible, same⟩
  refine ⟨fun row stored isSubject visible => ?_, justified, fun row stored isSubject isHidden => ?_⟩
  · rcases (attribution.attributed row stored).entry with
      ⟨other, alsoSubject, asset, sloName, metricName, periodStart, keys⟩
    rw [isSubject] at alsoSubject
    cases alsoSubject
    have isChosen := (selects row stored sloName.symm metricName.symm periodStart.symm).mpr
      ⟨asset.symm, visible⟩
    have member : (subject.key, row) ∈ entries :=
      (keys _ (List.mem_filter.mpr ⟨stored, isChosen⟩) subject.key).mpr rfl
    have found : Entries.last Prod.fst subject.key entries = some (subject.key, row) := by
      refine Entries.last_of_unique member fun entry inside isKey => ?_
      rcases ofKey entry inside isKey with ⟨alsoStored, sameSubject, _⟩
      exact Prod.ext isKey (sameRow _ alsoStored row stored sameSubject isSubject)
    rw [isLookup, found]
    rfl
  · cases found : changePointFor entries subject.key with
    | none => rfl
    | some other =>
        rcases justified other found with ⟨visible, alsoStored, sameSubject, notHidden, _⟩
        rw [sameRow visible alsoStored row stored sameSubject isSubject] at notHidden
        exact absurd isHidden notHidden

theorem Aligned.point {db : Database} {evaluation : SLOEvaluation}
    (aligned : Aligned db evaluation) (stored : evaluation ∈ db.evaluations.rows)
    (metricName : String) :
    pointSubject db evaluation.id metricName = some
      { assetId := evaluation.assetId
        sloName := evaluation.sloName
        metricName
        series := evaluation.evaluationName
        periodStart := evaluation.periodStart
        periodEnd := evaluation.periodEnd } := by
  rcases aligned with ⟨run, found, asset, name, periodStart, periodEnd⟩
  unfold pointSubject
  rw [find_of_mem stored, Option.bind_eq_bind, Option.bind_some, found,
    Option.bind_eq_bind, Option.bind_some, <- asset, <- name, <- periodStart, <- periodEnd]
  rfl

section Trends

variable {tables : TrendTables} {request : TrendRequest} {metricName : String}

theorem selects_inRange {evaluation : SLOEvaluation} (within : inTrendRange request evaluation = true)
    {subject : Subject} (asset : subject.assetId = evaluation.assetId)
    (sloName : subject.sloName = evaluation.sloName)
    (periodStart : subject.periodStart = evaluation.periodStart) :
    Selects tables subject (inChangePointRange request) := by
  intro row _ sameSlo _ samePeriod
  unfold inTrendRange at within
  unfold inChangePointRange
  simp only [Bool.and_eq_true, decide_eq_true_eq] at within ⊢
  rw [sameSlo, samePeriod, asset, sloName, periodStart, within.1.1.1.1.1, within.1.1.1.1.2]
  constructor
  · exact fun chosen => ⟨chosen.1.1.1.1, chosen.1.2⟩
  · exact fun visible => ⟨⟨⟨⟨visible.1, rfl⟩, within.1.2⟩, visible.2⟩, within.2⟩

theorem Attribution.point (attribution : Attribution tables) {evaluation : SLOEvaluation}
    (stored : evaluation ∈ tables.evaluations.rows)
    (within : inTrendRange request evaluation = true) {point : TrendPoint}
    (isEvaluation : point.evalId = evaluation.id)
    (timestamp : point.timestamp = evaluation.periodStart)
    (name : point.evaluationName = evaluation.evaluationName)
    (marker : point.changePoint = changePointFor (getChangePointsForSloRange tables request)
      { sloName := evaluation.sloName
        metricName
        periodStart := evaluation.periodStart
        periodEnd := some evaluation.periodEnd
        evalName := evaluation.evaluationName }) : point.Marked tables request metricName := by
  rcases inTrendRange_series within with ⟨sameAsset, sameSlo⟩
  refine ⟨_, isEvaluation ▸ (attribution.aligned evaluation stored).point stored metricName, sameAsset,
    sameSlo, name.symm, timestamp.symm, ?_⟩
  rw [marker]
  exact attribution.marks (selects_inRange within rfl rfl rfl)

theorem Attribution.getTrendByAssetSlo (attribution : Attribution tables) {point : TrendPoint}
    (member : point ∈ getTrendByAssetSlo tables request metricName) :
    point.Marked tables request metricName := by
  rw [getTrendByAssetSlo_eq] at member
  rcases List.mem_map.mp member with ⟨row, sorted, isPoint⟩
  have joined := (Latest.sortBy_perm rowKey _).mem_iff.mp sorted
  rcases List.mem_flatMap.mp joined with ⟨evaluation, selected, ofEvaluation⟩
  rcases List.mem_filter.mp selected with ⟨stored, within⟩
  have isRow : row.evaluation = evaluation := by
    rw [joinMetric_eq] at ofEvaluation
    exact joinEvaluation_evaluation (List.mem_filter.mp ofEvaluation).1
  rw [<- isPoint]
  refine attribution.point stored within ?_ ?_ ?_ ?_
  · exact congrArg SLOEvaluation.id isRow
  · exact congrArg SLOEvaluation.periodStart isRow
  · exact congrArg SLOEvaluation.evaluationName isRow
  · rw [(inTrendRange_series within).2, <- isRow]
    rfl

theorem fitsEvaluation_of_built {tables : Tables} {id : Nat} {fragment : TrendColumnFragment}
    (built : trendFragment tables id = some fragment) :
    FitsEvaluation tables.toDatabase id fragment := by
  refine ⟨trendFragment_id built, ?_⟩
  rcases Option.bind_eq_some_iff.mp built with ⟨evaluation, found, built⟩
  refine ⟨evaluation, found, ?_⟩
  cases rows : trendRows tables evaluation.assetId [id] with
  | nil =>
      rw [rows] at built
      cases built
  | cons first rest =>
      have member : first ∈ trendRows tables evaluation.assetId [id] := rows ▸ List.mem_cons_self
      rcases mem_trendRows member with ⟨stored, _, asked⟩
      have isEvaluation : first.evaluation = evaluation := by
        refine eq_of_key stored (find_mem found) ?_
        rw [List.mem_singleton.mp asked, find_key found]
      rw [rows] at built
      cases built
      exact ⟨rfl, congrArg SLOEvaluation.periodStart isEvaluation,
        congrArg SLOEvaluation.periodEnd isEvaluation,
        congrArg SLOEvaluation.evaluationName isEvaluation⟩

theorem mem_readFragments {cache : TrendCache}
    (fits : forall id fragment, cache id = some fragment ->
      FitsEvaluation tables.toDatabase id fragment)
    {fragment : TrendColumnFragment} (member : fragment ∈ readFragments tables cache request) :
    FitsEvaluation tables.toDatabase fragment.sloEvaluationId fragment ∧
      fragment.sloEvaluationId ∈ listSloEvaluationIdsForTrend tables.toTables request := by
  unfold readFragments at member
  dsimp only at member
  rcases List.mem_append.mp member with found | rebuilt
  · split at found
    · rcases List.mem_filterMap.mp found with ⟨id, listed, cached⟩
      have here := fits id fragment cached
      rw [here.1]
      exact ⟨here, listed⟩
    · exact absurd found List.not_mem_nil
  · have listed : (if request.cache then cache.missing (listSloEvaluationIdsForTrend tables.toTables request)
        else listSloEvaluationIdsForTrend tables.toTables request) ⊆
          listSloEvaluationIdsForTrend tables.toTables request := by
      split
      · exact List.filter_subset_self _
      · exact fun _ inside => inside
    rcases (mem_getTrendFragmentRows listed fragment).mp rebuilt with ⟨asked, built⟩
    exact ⟨fitsEvaluation_of_built built, listed asked⟩

theorem Attribution.getSloTrends (attribution : Attribution tables) {cache : TrendCache}
    (fits : forall id fragment, cache id = some fragment ->
      FitsEvaluation tables.toDatabase id fragment)
    {point : TrendPoint}
    (member : point ∈ ((getSloTrends tables cache request).1.lookup metricName).getD []) :
    point.Marked tables request metricName := by
  rw [getSloTrends_fst, assembleSloTrends_getD] at member
  rcases List.mem_flatMap.mp member with ⟨fragment, sorted, shown⟩
  rcases List.mem_map.mp shown with ⟨projected, ofMetric, isPoint⟩
  have named : projected.metric = metricName := of_decide_eq_true (List.mem_filter.mp ofMetric).2
  rcases mem_readFragments fits ((Latest.sortBy_perm fragmentKey _).mem_iff.mp sorted) with
    ⟨⟨_, evaluation, found, sloName, periodStart, periodEnd, name⟩, listed⟩
  rcases mem_trendIds_iff.mp listed with ⟨other, alsoFound, within⟩
  rw [found] at alsoFound
  cases alsoFound
  rw [<- isPoint]
  refine attribution.point (find_mem found) within (find_key found).symm
    periodStart name ?_
  rw [<- sloName, <- periodStart, <- periodEnd, <- name, <- named]
  rfl

end Trends

section Heatmap

variable {fragment : HeatmapColumnFragment} {orderedRuns : List EvaluationRun} {run : EvaluationRun}
  {cell : HeatmapCellGrouped} {fragments : List HeatmapColumnFragment}
  {group : HeatmapSloGroupSection}

theorem fitsRun_of_built {tables : Tables} {runId : Nat}
    (built : columnFragment tables runId = some fragment) :
    FitsRun tables.toDatabase runId fragment := by
  rcases columnFragment_eq_some.mp built with ⟨run, found, _, isBuilt⟩
  refine ⟨run, found, fun part member cell inside => ?_⟩
  have parts : List.Forall₂ (fun evaluation part => buildSloFragment tables run evaluation = .ok part)
      (sloEvaluationsOf tables run.id) fragment.perSlo :=
    BuiltFor.perSlo ⟨false, isBuilt⟩
  rcases mem_related parts.flip member with ⟨evaluation, ofRun, here⟩
  rcases mem_related (buildSloFragment_built here).flip inside with ⟨row, _, isCell⟩
  rcases List.mem_filter.mp ofRun with ⟨stored, sameRun⟩
  rcases bind_eq_ok.mp isCell with ⟨_, _, isCell⟩
  rcases bind_eq_ok.mp isCell with ⟨_, _, same⟩
  cases same
  exact ⟨rfl, rfl, rfl, evaluation, find_of_mem stored, of_decide_eq_true sameRun,
    (buildSloFragment_summary here).1.symm⟩

theorem markCell_unmarked {lookup : List (ChangePointKey × ChangePointRow)}
    (found : orderedRuns.find? (·.id = cell.evaluationId) = some run)
    (unmarked : cell.changePoint = none) (sloName : String) :
    markCell lookup orderedRuns sloName cell = { cell with
      changePoint := changePointFor lookup
        { sloName
          metricName := cell.metric
          periodStart := cell.periodStart
          periodEnd := some run.periodEnd
          evalName := run.evalName } } := by
  unfold markCell
  rw [found]
  dsimp only
  split
  · rename_i nothing
    rw [nothing, <- unmarked]
  · rename_i marker shown
    rw [shown]

theorem find_run {runs : List EvaluationRun} (distinct : (runs.map (·.id)).Nodup)
    (listed : run ∈ runs) : runs.find? (·.id = run.id) = some run := by
  cases found : runs.find? (·.id = run.id) with
  | none =>
      have none := List.find?_eq_none.mp found run listed
      exact absurd (decide_eq_true rfl) none
  | some other =>
      have selected := List.find?_some found
      rw [decide_eq_true_eq] at selected
      rw [List.inj_on_of_nodup_map distinct (List.mem_of_find?_eq_some found) listed selected]

variable {tables : HeatmapTables} {assetId : Nat}

theorem selects_runs (listed : run ∈ orderedRuns) (asset : run.assetId = assetId)
    (sloName metricName : String) :
    Selects tables.toTrendTables (subjectIn run sloName metricName) fun row =>
      row.assetId = assetId && (orderedRuns.map (·.periodStart)).contains row.periodStart &&
        row.status ≠ "hidden" := by
  intro row _ _ _ samePeriod
  have inWindow : row.periodStart ∈ orderedRuns.map (·.periodStart) :=
    samePeriod ▸ List.mem_map_of_mem listed
  have sameAsset : (subjectIn run sloName metricName).assetId = assetId := asset
  simp only [Bool.and_eq_true, decide_eq_true_eq, List.contains_iff_mem, inWindow, and_true,
    sameAsset]

theorem Attribution.markCell (attribution : Attribution tables.toTrendTables)
    {orderedRuns : List EvaluationRun} (distinct : (orderedRuns.map (·.id)).Nodup)
    {run : EvaluationRun} (listed : run ∈ orderedRuns) (stored : run ∈ tables.runs.rows)
    (asset : run.assetId = assetId) {sloName : String} {cell : HeatmapCellGrouped}
    (fits : CellFits tables.toDatabase run sloName cell) :
    (markCell (getChangePointsForEvaluations tables.toTrendTables assetId
      (orderedRuns.map (·.periodStart))) orderedRuns sloName cell).Marked
        tables.toTrendTables assetId sloName := by
  have found : orderedRuns.find? (·.id = cell.evaluationId) = some run := by
    rw [fits.evaluationId]
    exact find_run distinct listed
  rcases fits.evaluation with ⟨evaluation, foundEvaluation, ofRun, isSlo⟩
  let subject := subjectIn run sloName cell.metric
  have isSubject : pointSubject tables.toDatabase cell.sloEvaluationId cell.metric = some subject := by
    unfold pointSubject
    rw [foundEvaluation, Option.bind_eq_bind, Option.bind_some, ofRun, find_of_mem stored,
      Option.bind_eq_bind, Option.bind_some, isSlo]
    rfl
  have isKey : subject.key =
      { sloName
        metricName := cell.metric
        periodStart := cell.periodStart
        periodEnd := some run.periodEnd
        evalName := run.evalName } := by
    rw [fits.periodStart]
    rfl
  rw [markCell_unmarked found fits.unmarked, <- isKey]
  exact ⟨subject, isSubject, asset, rfl, fits.periodStart.symm,
    attribution.marks (selects_runs listed asset sloName cell.metric)⟩

theorem notedFragments_fit {fragmentsById : HeatmapCache} {notedRunIds : List Nat}
    (fits : forall id fragment, fragmentsById id = some fragment ->
      FitsRun tables.toDatabase id fragment)
    (looped : orderedRuns.mapM (notedFragment fragmentsById notedRunIds) = .ok fragments)
    (member : fragment ∈ fragments) :
    Exists fun run => run ∈ orderedRuns ∧ FitsRun tables.toDatabase run.id fragment := by
  rcases mem_related (mapM_eq_ok.mp looped).flip member with
    ⟨run, listed, noted⟩
  rcases bind_eq_ok.mp noted with ⟨base, found, same⟩
  cases same
  exact ⟨run, listed, fits run.id base (orRaise_eq_ok.mp found)⟩

theorem assembled_cell {assetName : String}
    (fit : forall fragment, fragment ∈ fragments ->
      Exists fun run => run ∈ orderedRuns ∧ FitsRun tables.toDatabase run.id fragment)
    (stored : forall run, run ∈ orderedRuns -> run ∈ tables.runs.rows)
    (member : group ∈ (assembleGroupedResponse assetName fragments).groups)
    (inGroup : cell ∈ group.cells) :
    Exists fun run => run ∈ orderedRuns ∧ CellFits tables.toDatabase run group.sloName cell := by
  rw [(assembleGroupedResponse_merges member).cells] at inGroup
  rcases List.mem_flatMap.mp inGroup with ⟨fragment, inside, ofFragment⟩
  rcases List.mem_flatMap.mp ofFragment with ⟨part, ofSlo, inPart⟩
  rcases List.mem_filter.mp ofSlo with ⟨inFragment, isSlo⟩
  rcases fit fragment inside with ⟨run, listed, other, found, cells⟩
  rw [find_of_mem (stored run listed)] at found
  cases found
  exact ⟨run, listed, of_decide_eq_true isSlo ▸ cells part inFragment cell inPart⟩

theorem Attribution.getGroupedMetricHeatmap (attribution : Attribution tables.toTrendTables)
    {cache left : HeatmapCache}
    (fits : forall id fragment, cache id = some fragment -> FitsRun tables.toDatabase id fragment)
    {request : GroupedHeatmapRequest} {grouped : GroupedMetricHeatmapResponse}
    (returned : getGroupedMetricHeatmapNew tables cache request = .ok (grouped, left))
    (inResponse : group ∈ grouped.groups) (inGroup : cell ∈ group.cells) :
    Exists fun asset => Worker.findAsset tables.toDatabase request.assetName = some asset ∧
      cell.Marked tables.toTrendTables asset.id group.sloName := by
  rcases bind_eq_ok.mp returned with ⟨asset, isAsset, returned⟩
  rcases bind_eq_ok.mp returned with ⟨rebuilt, built, returned⟩
  rcases bind_eq_ok.mp returned with ⟨response, responded, same⟩
  cases same
  rcases bind_eq_ok.mp responded with ⟨fragments, looped, same⟩
  cases same
  refine ⟨asset, orRaise_eq_ok.mp isAsset, ?_⟩
  let candidates := listRunsForHeatmap tables.toTables (request.onAsset asset)
  have ordered := Latest.sortBy_perm runKey candidates
  have listed : forall run, run ∈ Latest.sortBy runKey candidates ->
      run ∈ tables.runs.rows ∧ run.assetId = asset.id := by
    intro run inside
    have selected := mem_listRunsForHeatmap (ordered.mem_iff.mp inside)
    exact ⟨selected.1, selected.2.1⟩
  have distinct : ((Latest.sortBy runKey candidates).map (·.id)).Nodup :=
    (ordered.map _).nodup_iff.mpr (listRunsForHeatmap_nodup _ _)
  have fragmentsFit : forall id fragment,
      (Cache.setMany (if request.cache then cache else fun _ => none) (entriesOf rebuilt)) id =
          some fragment -> FitsRun tables.toDatabase id fragment := by
    intro id fragment found
    rcases Cache.setMany_eq_some found with written | cached
    · exact fitsRun_of_built (rebuildFragments_coherent built written)
    · split at cached
      · exact fits id fragment cached
      · cases cached
  have assembled : forall plain,
      plain ∈ (assembleGroupedResponse request.assetName fragments).groups ->
        forall cell, cell ∈ plain.cells -> Exists fun run => run ∈ Latest.sortBy runKey candidates ∧
          CellFits tables.toDatabase run plain.sloName cell :=
    fun plain member cell inside => assembled_cell
      (fun fragment member => notedFragments_fit fragmentsFit looped member)
      (fun run inside => (listed run inside).1) member inside
  change group ∈ (enrichHeatmapWithChangePoints tables.toTrendTables
    (Latest.sortBy runKey candidates) _).groups at inResponse
  generalize Latest.sortBy runKey candidates = orderedRuns at listed distinct assembled inResponse
  cases orderedRuns with
  | nil =>
      rcases assembled group inResponse cell inGroup with ⟨run, impossible, _⟩
      exact absurd impossible List.not_mem_nil
  | cons first rest =>
      have firstAsset : first.assetId = asset.id := (listed first List.mem_cons_self).2
      rcases List.mem_map.mp inResponse with ⟨plain, member, same⟩
      subst same
      rcases List.mem_map.mp inGroup with ⟨before, inPlain, same⟩
      subst same
      rcases assembled plain member before inPlain with ⟨run, isListed, cellFits⟩
      rcases listed run isListed with ⟨stored, sameAsset⟩
      rw [firstAsset]
      exact attribution.markCell distinct isListed stored sameAsset cellFits

end Heatmap

end Presentation
end Tropek
