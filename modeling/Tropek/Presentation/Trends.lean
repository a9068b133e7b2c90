import Mathlib.Data.Prod.Lex
import Tropek.Library.CacheAside
import Tropek.Presentation.Fragments

namespace Tropek
namespace Presentation

open Library Engine Store KeyedTable

/-!
# Trends of one metric and of all metrics

There are two endpoints for the trend of a metric.  The one joins the evaluations of the
range with the values and the indicator rows of that metric.  The other one lists the
evaluations of the range, takes the fragments that are cached, builds those that are
missing for all metrics at once and projects them onto the metrics.

Both overlay the change points at read time, which they look up for the metric and for
all metrics.
-/

/-! ## Change points -/

/-- A row of `change_points` with the columns that the trends read. -/
structure ChangePointRow where
  evaluationRunId : Option Nat
  assetId : Nat
  sloName : String
  metricName : String
  periodStart : Instant
  periodEnd : Option Instant
  direction : String
  changeRelativePct : Option ℚ
  changeAbsolute : ℚ
  transition : Option String
  status : String

structure ChangePointKey where
  sloName : String
  metricName : String
  periodStart : Instant
  periodEnd : Option Instant
  evalName : String
deriving DecidableEq

structure TrendTables extends Tables where
  changePoints : List ChangePointRow := []

/-- The entries of a dictionary of change points.  One whose run is gone has none. -/
def changePointEntries (tables : TrendTables) (rows : List ChangePointRow) :
    List (ChangePointKey × ChangePointRow) :=
  rows.filterMap fun row =>
    (row.evaluationRunId.bind tables.runs.find).map fun run =>
      ({ sloName := row.sloName
         metricName := row.metricName
         periodStart := row.periodStart
         periodEnd := row.periodEnd
         evalName := run.evalName }, row)

def inChangePointRange (request : TrendRequest) (row : ChangePointRow) : Bool :=
  row.assetId = request.assetId && row.sloName = request.sloName &&
    request.fromTs ≤ row.periodStart && row.status ≠ "hidden" &&
    request.toTs.all (row.periodStart ≤ ·)

def getChangePointsForRange (tables : TrendTables) (request : TrendRequest) (metricName : String) :
    List (ChangePointKey × ChangePointRow) :=
  changePointEntries tables (tables.changePoints.filter fun row =>
    inChangePointRange request row && row.metricName = metricName)

def getChangePointsForSloRange (tables : TrendTables) (request : TrendRequest) :
    List (ChangePointKey × ChangePointRow) :=
  changePointEntries tables (tables.changePoints.filter (inChangePointRange request))

def changePointFor (lookup : List (ChangePointKey × ChangePointRow)) (key : ChangePointKey) :
    Option ChangePointMarker :=
  (lookup.reverse.find? fun entry => entry.1 = key).map fun entry =>
    { direction := entry.2.direction
      changeRelativePct := entry.2.changeRelativePct
      transition := entry.2.transition
      changeAbsolute := some entry.2.changeAbsolute }

/-! ## The trend of one metric -/

structure TrendPoint where
  timestamp : Instant
  value : ℚ
  score : ℚ
  evalId : Nat
  result : IndicatorStatus
  baseline : Option ℚ
  evaluationName : String
  targets : IndicatorTargets
  changePoint : Option ChangePointMarker
deriving DecidableEq

def inTrendRange (request : TrendRequest) (evaluation : SLOEvaluation) : Bool :=
  evaluation.assetId = request.assetId && evaluation.sloName = request.sloName &&
    !evaluation.invalidated && evaluation.result.isSome &&
    request.fromTs ≤ evaluation.periodStart && request.toTs.all (evaluation.periodStart ≤ ·)

/-- One evaluation joined with its values and its indicator rows of the metric. -/
def joinMetric (tables : TrendTables) (metricName : String) (evaluation : SLOEvaluation) :
    List TrendRow :=
  let values := tables.sliValues.filter fun sliValue =>
    sliValue.sloEvaluationId = evaluation.id && sliValue.metricName = metricName
  values.flatMap fun sliValue =>
    (evaluation.indicatorRows.rows.filter (·.objective.sli = metricName)).map fun indicator =>
      { evaluation, sliValue, indicator }

def rowKey (row : TrendRow) : Instant ×ₗ String :=
  toLex (row.evaluation.periodStart, row.evaluation.evaluationName)

/-- The point of a joined row, with the weight of all objectives of its evaluation. -/
def trendPointOf (lookup : List (ChangePointKey × ChangePointRow)) (sloName metricName : String)
    (row : TrendRow) : TrendPoint where
  timestamp := row.evaluation.periodStart
  value := row.sliValue.value
  score :=
    let total := totalWeight row.evaluation
    if total = 0 then 0 else roundTwoPlaces (row.indicator.score / total * 100)
  evalId := row.evaluation.id
  result := row.indicator.status
  baseline := row.indicator.comparedValue
  evaluationName := row.evaluation.evaluationName
  targets := row.indicator.targets
  changePoint := changePointFor lookup
    { sloName
      metricName
      periodStart := row.evaluation.periodStart
      periodEnd := some row.evaluation.periodEnd
      evalName := row.evaluation.evaluationName }

def getTrendByDomain (tables : TrendTables) (request : TrendRequest) (metricName : String)
    (lookup : List (ChangePointKey × ChangePointRow)) : List TrendPoint :=
  let rows := (tables.evaluations.rows.filter (inTrendRange request)).flatMap
    (joinMetric tables metricName)
  (Latest.sortBy rowKey rows).map (trendPointOf lookup request.sloName metricName)

/-- `GET /assets/{asset_name}/slos/{slo_name}/trend`. -/
def getTrendByAssetSlo (tables : TrendTables) (request : TrendRequest) (metricName : String) :
    List TrendPoint :=
  getTrendByDomain tables request metricName (getChangePointsForRange tables request metricName)

/-! ## The trends of all metrics -/

def fragmentKey (fragment : TrendColumnFragment) : Instant ×ₗ String :=
  toLex (fragment.periodStart, fragment.evaluationName)

def TrendFragmentPoint.project (lookup : List (ChangePointKey × ChangePointRow))
    (fragment : TrendColumnFragment) (point : TrendFragmentPoint) : TrendPoint where
  timestamp := fragment.periodStart
  value := point.value
  score := point.score
  evalId := fragment.sloEvaluationId
  result := point.result
  baseline := point.baseline
  evaluationName := fragment.evaluationName
  targets := point.targets
  changePoint := changePointFor lookup
    { sloName := fragment.sloName
      metricName := point.metric
      periodStart := fragment.periodStart
      periodEnd := some fragment.periodEnd
      evalName := fragment.evaluationName }

/-- `by_metric.setdefault(metric, []).append(point)`. -/
def appendPoint (byMetric : Dict (List TrendPoint)) (metric : String) (point : TrendPoint) :
    Dict (List TrendPoint) :=
  byMetric.insert metric ((byMetric.lookup metric).getD [] ++ [point])

def assembleSloTrends (fragments : List TrendColumnFragment)
    (lookup : List (ChangePointKey × ChangePointRow)) : Dict (List TrendPoint) :=
  (Latest.sortBy fragmentKey fragments).foldl (fun byMetric fragment =>
    fragment.points.foldl (fun byMetric point =>
      appendPoint byMetric point.metric (point.project lookup fragment)) byMetric) ∅

abbrev TrendCache :=
  Cache Nat TrendColumnFragment

/-- `GET /assets/{asset_name}/slos/{slo_name}/trends`, with the cache that it leaves. -/
def getSloTrends (tables : TrendTables) (cache : TrendCache) (request : TrendRequest) :
    Dict (List TrendPoint) × TrendCache :=
  let sloEvaluationIds := listSloEvaluationIdsForTrend tables.toTables request
  let found := if request.cache then sloEvaluationIds.filterMap cache else []
  let missing := if request.cache then cache.missing sloEvaluationIds else sloEvaluationIds
  let rebuilt := getTrendFragmentRows tables.toTables request.assetId request.sloName missing
  let entries := rebuilt.map fun fragment => (fragment.sloEvaluationId, fragment)
  (assembleSloTrends (found ++ rebuilt) (getChangePointsForSloRange tables request),
    if request.cache then cache.setMany entries else cache)

/-! ## The cache -/

/-- What happens to the cached trend fragments while the tables stay.  `expire`: entries
are evicted. -/
inductive TrendCacheEvent where
  | read (request : TrendRequest)
  | expire (sloEvaluationIds : List Nat)

def TrendCacheEvent.next (tables : TrendTables) (cache : TrendCache) : TrendCacheEvent -> TrendCache
  | .read request => (getSloTrends tables cache request).2
  | .expire sloEvaluationIds => cache.deleteMany sloEvaluationIds

def cacheAfter (tables : TrendTables) (events : List TrendCacheEvent) : TrendCache :=
  events.foldl (TrendCacheEvent.next tables) fun _ => none

/-! ## The same trend -/

def pointKey (point : TrendPoint) : Instant ×ₗ String :=
  toLex (point.timestamp, point.evaluationName)

/-- The same points, apart from the order of those that share the start of the period and
the name of the evaluation. -/
structure SameTrend (first second : List TrendPoint) : Prop where
  keys : first.map pointKey = second.map pointKey
  points : first.Perm second

/-! ## What a fragment shows of a metric -/

variable {tables : TrendTables} {request : TrendRequest} {metricName : String}

theorem listSloEvaluationIdsForTrend_eq (tables : TrendTables) (request : TrendRequest) :
    listSloEvaluationIdsForTrend tables.toTables request =
      (Latest.oldestFirst SLOEvaluation.periodStart
        (tables.evaluations.rows.filter (inTrendRange request))).map (·.id) :=
  rfl

theorem joinMetric_eq (tables : TrendTables) (metricName : String) (evaluation : SLOEvaluation) :
    joinMetric tables metricName evaluation =
      (joinEvaluation tables.toTables evaluation).filter (·.sliValue.metricName = metricName) := by
  let expand (sliValue : SLIValue) : List TrendRow :=
    (evaluation.indicatorRows.rows.filter (·.objective.sli = sliValue.metricName)).map
      fun indicator => { evaluation, sliValue, indicator }
  have hasMetric : forall sliValue row, row ∈ expand sliValue ->
      row.sliValue.metricName = sliValue.metricName := by
    intro sliValue row member
    rcases List.mem_map.mp member with ⟨indicator, _, same⟩
    rw [<- same]
  have narrowed : (joinEvaluation tables.toTables evaluation).filter
      (·.sliValue.metricName = metricName) =
        (tables.sliValues.filter fun sliValue =>
          sliValue.sloEvaluationId = evaluation.id && sliValue.metricName = metricName).flatMap expand := by
    apply filter_flatMap_filter
    · intro sliValue narrower
      simp only [Bool.and_eq_true, decide_eq_true_eq] at narrower ⊢
      refine ⟨narrower.1, List.filter_eq_self.mpr fun row member => ?_⟩
      exact decide_eq_true ((hasMetric sliValue row member).trans narrower.2)
    · intro sliValue chosen narrower
      simp only [chosen, Bool.true_and, decide_eq_false_iff_not] at narrower
      refine List.filter_eq_nil_iff.mpr fun row member selected => narrower ?_
      exact (hasMetric sliValue row member).symm.trans (of_decide_eq_true selected)
  rw [narrowed]
  refine List.flatMap_congr fun sliValue member => ?_
  have selected := (List.mem_filter.mp member).2
  simp only [Bool.and_eq_true, decide_eq_true_eq] at selected
  dsimp only [expand]
  rw [selected.2]

variable {evaluation : SLOEvaluation} {fragment : TrendColumnFragment}

theorem trendJoin_alone {tables : Tables} (stored : evaluation ∈ tables.evaluations.rows) :
    trendJoin tables evaluation.assetId [evaluation.id] = joinEvaluation tables evaluation := by
  have only : (tables.evaluations.rows.filter fun other =>
      other.assetId = evaluation.assetId && [evaluation.id].contains other.id) = [evaluation] := by
    have byId : (tables.evaluations.rows.filter fun other => other.id = evaluation.id) =
        [evaluation] := by
      rw [filter_key, find_of_mem stored]
      rfl
    rw [<- byId]
    refine List.filter_congr fun other member => ?_
    rw [Bool.eq_iff_iff]
    simp only [Bool.and_eq_true, decide_eq_true_eq, List.contains_iff_mem, List.mem_singleton]
    constructor
    · exact And.right
    · intro same
      exact ⟨congrArg _ (eq_of_key member stored same), same⟩
  unfold trendJoin
  rw [only, List.flatMap_cons, List.flatMap_nil, List.append_nil]

theorem trendRows_alone {tables : Tables} (stored : evaluation ∈ tables.evaluations.rows) :
    (trendRows tables evaluation.assetId [evaluation.id]).Perm (joinEvaluation tables evaluation) := by
  unfold trendRows
  rw [trendJoin_alone stored]
  exact List.perm_insertionSort _ _

def TrendColumnFragment.shown (lookup : List (ChangePointKey × ChangePointRow)) (metricName : String)
    (fragment : TrendColumnFragment) : List TrendPoint :=
  (fragment.points.filter (·.metric = metricName)).map (TrendFragmentPoint.project lookup fragment)

theorem shown_perm {tables : TrendTables} (stored : evaluation ∈ tables.evaluations.rows)
    (lookup : List (ChangePointKey × ChangePointRow)) (metricName : String) :
    ((trendFragment tables.toTables evaluation.id).toList.flatMap
        (TrendColumnFragment.shown lookup metricName)).Perm
      ((joinMetric tables metricName evaluation).map
        (trendPointOf lookup evaluation.sloName metricName)) := by
  have joined := trendRows_alone stored
  have build : trendFragment tables.toTables evaluation.id = buildTrendFragment evaluation.sloName
      (trendRows tables.toTables evaluation.assetId [evaluation.id]) := by
    unfold trendFragment
    rw [find_of_mem stored]
    rfl
  have alone : forall row, row ∈ trendRows tables.toTables evaluation.assetId [evaluation.id] ->
      row.evaluation = evaluation :=
    fun row member => joinEvaluation_evaluation (joined.subset member)
  rw [joinMetric_eq, build]
  refine List.Perm.trans ?_ ((joined.filter _).map _)
  cases rows : trendRows tables.toTables evaluation.assetId [evaluation.id] with
  | nil => exact List.Perm.refl _
  | cons first rest =>
      rw [rows] at alone
      have isFirst := alone first List.mem_cons_self
      refine List.Perm.of_eq ?_
      unfold buildTrendFragment TrendColumnFragment.shown
      rw [Option.toList_some, List.flatMap_cons, List.flatMap_nil, List.append_nil, List.filter_map,
        List.map_map]
      refine List.map_congr_left fun row member => ?_
      rcases List.mem_filter.mp member with ⟨inside, hasMetric⟩
      have isRow := alone row inside
      have named : row.sliValue.metricName = metricName := of_decide_eq_true hasMetric
      unfold trendPointOf
      simp only [Function.comp_apply, TrendFragmentPoint.project, buildTrendPoint, isFirst, isRow, named]

/-! ## The fragments of a read -/

theorem mem_trendIds_iff {id : Nat} :
    id ∈ listSloEvaluationIdsForTrend tables.toTables request ↔ Exists fun evaluation =>
      tables.evaluations.find id = some evaluation ∧ inTrendRange request evaluation = true := by
  rw [listSloEvaluationIdsForTrend_eq, List.mem_map]
  constructor
  · rintro ⟨evaluation, member, same⟩
    rcases List.mem_filter.mp ((Latest.mem_oldestFirst _).mp member) with ⟨stored, inRange⟩
    exact ⟨evaluation, same ▸ find_of_mem stored, inRange⟩
  · rintro ⟨evaluation, found, inRange⟩
    refine ⟨evaluation, (Latest.mem_oldestFirst _).mpr (List.mem_filter.mpr ⟨?_, inRange⟩), ?_⟩
    · exact find_mem found
    · exact find_key found

theorem inTrendRange_series (inRange : inTrendRange request evaluation = true) :
    evaluation.assetId = request.assetId ∧ evaluation.sloName = request.sloName := by
  unfold inTrendRange at inRange
  simp only [Bool.and_eq_true, decide_eq_true_eq] at inRange
  exact inRange.1.1.1.1

theorem trendFragment_id {tables : Tables} {id : Nat}
    (built : trendFragment tables id = some fragment) : fragment.sloEvaluationId = id := by
  rcases Option.bind_eq_some_iff.mp built with ⟨evaluation, _, built⟩
  cases rows : trendRows tables evaluation.assetId [id] with
  | nil =>
      rw [rows] at built
      cases built
  | cons first rest =>
      have asked := (mem_trendRows (rows ▸ List.mem_cons_self : first ∈ trendRows _ _ _)).2.2
      rw [rows] at built
      cases built
      exact List.mem_singleton.mp asked

theorem trendFragment_of_inRange (found : tables.evaluations.find evaluation.id = some evaluation)
    (inRange : inTrendRange request evaluation = true) :
    trendFragment tables.toTables evaluation.id = buildTrendFragment request.sloName
      (trendRows tables.toTables request.assetId [evaluation.id]) := by
  rcases inTrendRange_series inRange with ⟨sameAsset, sameSlo⟩
  unfold trendFragment
  rw [found, Option.bind_some, sameAsset, sameSlo]

/-- The fragments that are built for the evaluations of a range are the ones that are
built for each of them alone. -/
theorem mem_getTrendFragmentRows {ids : List Nat}
    (listed : ids ⊆ listSloEvaluationIdsForTrend tables.toTables request)
    (fragment : TrendColumnFragment) :
    fragment ∈ getTrendFragmentRows tables.toTables request.assetId request.sloName ids ↔
      fragment.sloEvaluationId ∈ ids ∧
        trendFragment tables.toTables fragment.sloEvaluationId = some fragment := by
  constructor
  · intro built
    rcases getTrendFragmentRows_eq built with ⟨asked, _, build⟩
    rcases mem_trendIds_iff.mp (listed asked) with ⟨evaluation, found, inRange⟩
    have isId := find_key found
    refine ⟨asked, ?_⟩
    rw [<- isId] at found build ⊢
    rw [trendFragment_of_inRange found inRange]
    exact build
  · rintro ⟨asked, build⟩
    rcases mem_trendIds_iff.mp (listed asked) with ⟨evaluation, found, inRange⟩
    have isId := find_key found
    rw [<- isId] at found build asked
    rw [trendFragment_of_inRange found inRange, <- filter_trendRows asked] at build
    refine List.mem_filterMap.mpr ⟨evaluation.id, ?_, build⟩
    cases rows : (trendRows tables.toTables request.assetId ids).filter
        (·.evaluation.id = evaluation.id) with
    | nil =>
        rw [rows] at build
        cases build
    | cons first rest =>
        have member : first ∈ (trendRows tables.toTables request.assetId ids).filter
            (·.evaluation.id = evaluation.id) := rows ▸ List.mem_cons_self
        rcases List.mem_filter.mp member with ⟨inside, selected⟩
        rw [List.mem_eraseDups]
        exact List.mem_map.mpr ⟨first, inside, of_decide_eq_true selected⟩

theorem nodup_eraseDups {Item : Type} [DecidableEq Item] (items : List Item) :
    items.eraseDups.Nodup := by
  induction size : items.length using Nat.strong_induction_on generalizing items with
  | _ length ih =>
      cases items with
      | nil => exact List.nodup_nil
      | cons first rest =>
          have shorter : (rest.filter fun item => !item == first).length < length := by
            have atMost := List.length_filter_le (fun item => !item == first) rest
            rw [List.length_cons] at size
            omega
          rw [List.eraseDups_cons, List.nodup_cons, List.mem_eraseDups]
          refine ⟨fun again => ?_, ih _ shorter _ rfl⟩
          have different := (List.mem_filter.mp again).2
          rw [beq_self_eq_true] at different
          cases different

theorem getTrendFragmentRows_nodup (tables : Tables) (assetId : Nat) (sloName : String)
    (ids : List Nat) : (getTrendFragmentRows tables assetId sloName ids).Nodup := by
  refine List.Nodup.filterMap ?_ (nodup_eraseDups _)
  intro first second fragment fromFirst fromSecond
  have isFirst : forall {id : Nat}, fragment ∈ buildTrendFragment sloName
      ((trendRows tables assetId ids).filter (·.evaluation.id = id)) ->
        fragment.sloEvaluationId = id := by
    intro id built
    cases rows : (trendRows tables assetId ids).filter (·.evaluation.id = id) with
    | nil =>
        rw [rows] at built
        cases built
    | cons first rest =>
        have member : first ∈ (trendRows tables assetId ids).filter (·.evaluation.id = id) :=
          rows ▸ List.mem_cons_self
        rw [rows] at built
        cases built
        exact of_decide_eq_true (List.mem_filter.mp member).2
  exact (isFirst fromFirst).symm.trans (isFirst fromSecond)

theorem getTrendFragmentRows_perm {ids : List Nat} (distinct : ids.Nodup)
    (listed : ids ⊆ listSloEvaluationIdsForTrend tables.toTables request) :
    (getTrendFragmentRows tables.toTables request.assetId request.sloName ids).Perm
      (ids.filterMap (trendFragment tables.toTables)) := by
  refine (List.perm_ext_iff_of_nodup (getTrendFragmentRows_nodup _ _ _ _) ?_).mpr fun fragment => ?_
  · refine List.Nodup.filterMap ?_ distinct
    intro first second fragment fromFirst fromSecond
    exact (trendFragment_id fromFirst).symm.trans (trendFragment_id fromSecond)
  · rw [mem_getTrendFragmentRows listed, List.mem_filterMap]
    constructor
    · rintro ⟨asked, build⟩
      exact ⟨_, asked, build⟩
    · rintro ⟨id, asked, build⟩
      have isId := trendFragment_id build
      subst isId
      exact ⟨asked, build⟩

theorem trendIds_nodup (tables : TrendTables) (request : TrendRequest) :
    (listSloEvaluationIdsForTrend tables.toTables request).Nodup := by
  rw [listSloEvaluationIdsForTrend_eq]
  refine List.Nodup.map_on ?_ ?_
  · intro first firstIn second secondIn same
    have firstStored := (List.mem_filter.mp ((Latest.mem_oldestFirst _).mp firstIn)).1
    have secondStored := (List.mem_filter.mp ((Latest.mem_oldestFirst _).mp secondIn)).1
    exact eq_of_key firstStored secondStored same
  · refine (List.perm_insertionSort _ _).nodup_iff.mpr (List.Nodup.filter _ ?_)
    exact List.Nodup.of_map _ tables.evaluations.nodup

/-! ## The cache in each read -/

theorem cacheAfter_coherent (tables : TrendTables) (events : List TrendCacheEvent) :
    (cacheAfter tables events).Coherent (trendFragment tables.toTables) := by
  unfold cacheAfter
  have step : forall (cache : TrendCache) (event : TrendCacheEvent),
      cache.Coherent (trendFragment tables.toTables) ->
        (event.next tables cache).Coherent (trendFragment tables.toTables) := by
    intro cache event coherent
    cases event with
    | expire ids => exact coherent.deleteMany fun _ _ _ built => built
    | read request =>
        unfold TrendCacheEvent.next getSloTrends
        dsimp only
        split
        · refine coherent.setMany fun entry member => ?_
          rcases List.mem_map.mp member with ⟨fragment, built, same⟩
          rw [<- same]
          exact ((mem_getTrendFragmentRows (List.filter_subset_self _) fragment).mp built).2
        · exact coherent
  have empty : Cache.Coherent (trendFragment tables.toTables) fun _ => none :=
    fun _ _ impossible => absurd impossible.symm (Option.some_ne_none _)
  generalize (fun _ => none : TrendCache) = cache at empty
  induction events generalizing cache with
  | nil => exact empty
  | cons event rest ih =>
      exact ih _ (step cache event empty)

def readFragments (tables : TrendTables) (cache : TrendCache) (request : TrendRequest) :
    List TrendColumnFragment :=
  let sloEvaluationIds := listSloEvaluationIdsForTrend tables.toTables request
  let found := if request.cache then sloEvaluationIds.filterMap cache else []
  let missing := if request.cache then cache.missing sloEvaluationIds else sloEvaluationIds
  found ++ getTrendFragmentRows tables.toTables request.assetId request.sloName missing

theorem getSloTrends_fst (tables : TrendTables) (cache : TrendCache) (request : TrendRequest) :
    (getSloTrends tables cache request).1 = assembleSloTrends (readFragments tables cache request)
      (getChangePointsForSloRange tables request) :=
  rfl

/-- With or without the cache, a read has the fragment of each evaluation of the range. -/
theorem readFragments_perm {cache : TrendCache}
    (coherent : cache.Coherent (trendFragment tables.toTables)) (request : TrendRequest) :
    (readFragments tables cache request).Perm
      ((listSloEvaluationIdsForTrend tables.toTables request).filterMap
        (trendFragment tables.toTables)) := by
  have distinct := trendIds_nodup tables request
  unfold readFragments
  dsimp only
  by_cases cached : request.cache = true
  · rw [if_pos cached, if_pos cached]
    refine List.Perm.trans ?_ (coherent.read_perm _)
    exact (getTrendFragmentRows_perm (distinct.filter _) (List.filter_subset_self _)).append_left _
  · rw [if_neg cached, if_neg cached, List.nil_append]
    exact getTrendFragmentRows_perm distinct fun _ => id

/-! ## What is assembled for a metric -/

theorem appendPoint_getD (byMetric : Dict (List TrendPoint)) (metric metricName : String)
    (point : TrendPoint) :
    ((appendPoint byMetric metric point).lookup metricName).getD [] =
      (byMetric.lookup metricName).getD [] ++ if metric = metricName then [point] else [] := by
  unfold appendPoint
  by_cases same : metric = metricName
  · rw [if_pos same, <- same, AList.lookup_insert]
    rfl
  · rw [if_neg same, AList.lookup_insert_ne (Ne.symm same), List.append_nil]

theorem appendPoints_getD (lookup : List (ChangePointKey × ChangePointRow)) (metricName : String)
    (fragment : TrendColumnFragment) (points : List TrendFragmentPoint)
    (byMetric : Dict (List TrendPoint)) :
    ((points.foldl (fun byMetric point =>
        appendPoint byMetric point.metric (point.project lookup fragment)) byMetric).lookup
          metricName).getD [] =
      (byMetric.lookup metricName).getD [] ++
        (points.filter (·.metric = metricName)).map
          (TrendFragmentPoint.project lookup fragment) := by
  induction points generalizing byMetric with
  | nil => exact (List.append_nil _).symm
  | cons point rest ih =>
      rw [List.foldl_cons, ih, appendPoint_getD, List.append_assoc]
      by_cases same : point.metric = metricName
      · have kept : (point :: rest).filter (·.metric = metricName) =
            point :: rest.filter (·.metric = metricName) :=
          List.filter_cons_of_pos (decide_eq_true same)
        rw [if_pos same, kept]
        rfl
      · have dropped : (point :: rest).filter (·.metric = metricName) =
            rest.filter (·.metric = metricName) :=
          List.filter_cons_of_neg fun selected => same (of_decide_eq_true selected)
        rw [if_neg same, dropped, List.nil_append]

/-- The trend of a metric has what the fragments show of it, the oldest fragment first. -/
theorem assembleSloTrends_getD (fragments : List TrendColumnFragment)
    (lookup : List (ChangePointKey × ChangePointRow)) (metricName : String) :
    ((assembleSloTrends fragments lookup).lookup metricName).getD [] =
      (Latest.sortBy fragmentKey fragments).flatMap
        (TrendColumnFragment.shown lookup metricName) := by
  have assembled : forall (ordered : List TrendColumnFragment) (byMetric : Dict (List TrendPoint)),
      ((ordered.foldl (fun byMetric fragment =>
        fragment.points.foldl (fun byMetric point =>
          appendPoint byMetric point.metric (point.project lookup fragment)) byMetric)
            byMetric).lookup metricName).getD [] =
        (byMetric.lookup metricName).getD [] ++
          ordered.flatMap (TrendColumnFragment.shown lookup metricName) := by
    intro ordered
    induction ordered with
    | nil => exact fun byMetric => (List.append_nil _).symm
    | cons fragment rest ih =>
        intro byMetric
        rw [List.foldl_cons, ih, appendPoints_getD, List.append_assoc,
          List.flatMap_cons]
        rfl
  exact assembled _ ∅

/-! ## The change points of one metric and of all metrics -/

theorem changePointEntries_filter (tables : TrendTables) (metricName : String)
    (rows : List ChangePointRow) :
    changePointEntries tables (rows.filter (·.metricName = metricName)) =
      (changePointEntries tables rows).filter (·.1.metricName = metricName) := by
  unfold changePointEntries
  rw [List.filterMap_filter, List.filter_filterMap]
  refine List.filterMap_congr fun row _ => ?_
  by_cases same : row.metricName = metricName
  · rw [if_pos (decide_eq_true same)]
    cases row.evaluationRunId.bind tables.runs.find with
    | none => rfl
    | some run =>
        rw [Option.map_some, Option.filter_some, if_pos (decide_eq_true same)]
  · rw [if_neg fun selected => same (of_decide_eq_true selected)]
    cases row.evaluationRunId.bind tables.runs.find with
    | none => rfl
    | some run =>
        rw [Option.map_some, Option.filter_some, if_neg fun selected => same (of_decide_eq_true selected)]

theorem getChangePointsForRange_eq (tables : TrendTables) (request : TrendRequest)
    (metricName : String) :
    getChangePointsForRange tables request metricName =
      (getChangePointsForSloRange tables request).filter (·.1.metricName = metricName) := by
  unfold getChangePointsForRange getChangePointsForSloRange
  rw [<- changePointEntries_filter, List.filter_filter]
  congr 1
  exact List.filter_congr fun row _ => Bool.and_comm _ _

theorem changePointFor_filter (lookup : List (ChangePointKey × ChangePointRow))
    (key : ChangePointKey) :
    changePointFor (lookup.filter (·.1.metricName = key.metricName)) key =
      changePointFor lookup key := by
  unfold changePointFor
  congr 1
  rw [<- List.filter_reverse, List.find?_filter]
  congr 1
  funext entry
  rw [Bool.eq_iff_iff]
  simp only [decide_eq_true_eq]
  constructor
  · exact And.right
  · intro same
    exact ⟨congrArg _ same, same⟩

theorem getTrendByAssetSlo_eq (tables : TrendTables) (request : TrendRequest)
    (metricName : String) :
    getTrendByAssetSlo tables request metricName =
      getTrendByDomain tables request metricName (getChangePointsForSloRange tables request) := by
  unfold getTrendByAssetSlo getTrendByDomain
  refine List.map_congr_left fun row _ => ?_
  unfold trendPointOf
  rw [getChangePointsForRange_eq, changePointFor_filter _
    { sloName := request.sloName
      metricName
      periodStart := row.evaluation.periodStart
      periodEnd := some row.evaluation.periodEnd
      evalName := row.evaluation.evaluationName }]

/-! ## Both endpoints agree -/

theorem getTrendByDomain_sorted (tables : TrendTables) (request : TrendRequest)
    (metricName : String) (lookup : List (ChangePointKey × ChangePointRow)) :
    (getTrendByDomain tables request metricName lookup).Pairwise fun earlier later =>
      pointKey earlier ≤ pointKey later :=
  List.pairwise_map.mpr (Latest.sortBy_pairwise rowKey _)

theorem shown_key {lookup : List (ChangePointKey × ChangePointRow)} {point : TrendPoint}
    (shown : point ∈ fragment.shown lookup metricName) : pointKey point = fragmentKey fragment := by
  rcases List.mem_map.mp shown with ⟨_, _, same⟩
  rw [<- same]
  rfl

theorem flatMap_shown_sorted (lookup : List (ChangePointKey × ChangePointRow))
    (metricName : String) {fragments : List TrendColumnFragment}
    (sorted : fragments.Pairwise fun earlier later => fragmentKey earlier ≤ fragmentKey later) :
    (fragments.flatMap (TrendColumnFragment.shown lookup metricName)).Pairwise fun earlier later =>
      pointKey earlier ≤ pointKey later := by
  refine List.pairwise_flatMap.mpr ⟨fun fragment _ => ?_, sorted.imp fun ordered point shown => ?_⟩
  · refine List.pairwise_of_forall_mem_list fun first firstShown second secondShown => ?_
    rw [shown_key firstShown, shown_key secondShown]
  · intro other otherShown
    rw [shown_key shown, shown_key otherShown]
    exact ordered

open scoped List in
theorem flatMap_shown_perm (lookup : List (ChangePointKey × ChangePointRow)) :
    (((listSloEvaluationIdsForTrend tables.toTables request).filterMap
        (trendFragment tables.toTables)).flatMap
          (TrendColumnFragment.shown lookup metricName)).Perm
      (getTrendByDomain tables request metricName lookup) := by
  let inRange := tables.evaluations.rows.filter (inTrendRange request)
  have ids : (listSloEvaluationIdsForTrend tables.toTables request).Perm (inRange.map (·.id)) :=
    (List.perm_insertionSort _ inRange).map _
  calc
    ((listSloEvaluationIdsForTrend tables.toTables request).filterMap
        (trendFragment tables.toTables)).flatMap (TrendColumnFragment.shown lookup metricName)
    _ ~ ((inRange.map (·.id)).filterMap (trendFragment tables.toTables)).flatMap
          (TrendColumnFragment.shown lookup metricName) := (ids.filterMap _).flatMap_right _
    _ = inRange.flatMap fun evaluation =>
          (trendFragment tables.toTables evaluation.id).toList.flatMap
            (TrendColumnFragment.shown lookup metricName) := by
        rw [List.filterMap_map, List.filterMap_eq_flatMap_toList, List.flatMap_assoc]
        rfl
    _ ~ inRange.flatMap fun evaluation =>
          (joinMetric tables metricName evaluation).map
            (trendPointOf lookup request.sloName metricName) := by
        refine List.Perm.flatMap_left _ fun evaluation member => ?_
        rcases List.mem_filter.mp member with ⟨stored, within⟩
        rw [<- (inTrendRange_series within).2]
        exact shown_perm stored lookup metricName
    _ = (inRange.flatMap (joinMetric tables metricName)).map
          (trendPointOf lookup request.sloName metricName) := List.map_flatMap.symm
    _ ~ getTrendByDomain tables request metricName lookup :=
        ((Latest.sortBy_perm rowKey _).map _).symm

/-- Both endpoints agree as long as every cached fragment is the one that would be built. -/
theorem sameTrend_of_coherent {cache : TrendCache}
    (coherent : cache.Coherent (trendFragment tables.toTables)) (request : TrendRequest)
    (metricName : String) :
    SameTrend (((getSloTrends tables cache request).1.lookup metricName).getD [])
      (getTrendByAssetSlo tables request metricName) := by
  let lookup := getChangePointsForSloRange tables request
  let fragments := readFragments tables cache request
  have assembled : ((getSloTrends tables cache request).1.lookup metricName).getD [] =
      (Latest.sortBy fragmentKey fragments).flatMap (TrendColumnFragment.shown lookup metricName) :=
    assembleSloTrends_getD fragments lookup metricName
  have points : ((Latest.sortBy fragmentKey fragments).flatMap
      (TrendColumnFragment.shown lookup metricName)).Perm
        (getTrendByDomain tables request metricName lookup) :=
    (((Latest.sortBy_perm fragmentKey fragments).trans
      (readFragments_perm coherent request)).flatMap_right _).trans (flatMap_shown_perm lookup)
  rw [assembled, getTrendByAssetSlo_eq]
  exact {
    keys := Latest.keys_eq_of_perm points
      (flatMap_shown_sorted lookup metricName (Latest.sortBy_pairwise fragmentKey fragments))
      (getTrendByDomain_sorted tables request metricName lookup)
    points }

/-- The trend of a metric from the batched endpoint is the trend from the endpoint of that
metric, with or without the cache, after any reads of the same state. -/
theorem batched_agrees (tables : TrendTables) (events : List TrendCacheEvent)
    (request : TrendRequest) (metricName : String) :
    SameTrend
      (((getSloTrends tables (cacheAfter tables events) request).1.lookup metricName).getD [])
      (getTrendByAssetSlo tables request metricName) :=
  sameTrend_of_coherent (cacheAfter_coherent tables events) request metricName

end Presentation
end Tropek
