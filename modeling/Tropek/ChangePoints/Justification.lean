import Tropek.ChangePoints.Segments

namespace Tropek
namespace ChangePoints
namespace Divisive

open Library Engine Fallible

/-!
# Justified change points

A change point of the detector carries the means of the segments on its sides and the
p-value of their t-test.  The documentation takes these segments to be the ones between the
point and its neighbours in the answer.  They are, for every point whose statistics are
recomputed after the last change of its neighbours.

The merge phase does not always do that.  After it has removed a point, it recomputes the
two points at the place of the removed one and at the next place, both of them to its
right.  The left neighbour, whose right segment has become longer, keeps the statistics of
the shorter one, and passes the thresholds with these.

The proof follows the merge phase with a second list: for each point, the end of the right
segment that it was tested with last.  The statistics of a point are always those of the
segments from its present left neighbour to this end.
-/

/-! ## Which segments were tested -/

/-- A point of the merge phase with the end of the right segment of its last test. -/
structure TestedPoint where
  index : Nat
  stop : Nat
deriving DecidableEq

def testedIndices (tested : List TestedPoint) : List Nat :=
  tested.map (·.index)

def testedFrom (length : Nat) (indices : List Nat) : List TestedPoint :=
  indices.mapIdx fun place index => { index, stop := rightEnd length indices place }

def TestedPoint.retest (length : Nat) (indices : List Nat) (place : Nat) (point : TestedPoint) :
    TestedPoint :=
  { point with stop := rightEnd length indices place }

/-- A removal tests the points at its place and at the next one up to their new right
neighbours. -/
def testedAfter (length : Nat) (tested : List TestedPoint) (place : Nat) : List TestedPoint :=
  let remaining := tested.eraseIdx place
  let retest := TestedPoint.retest length (testedIndices remaining)
  (remaining.modify place (retest place)).modify (place + 1) (retest (place + 1))

def removals (test : TTest) (series : List ℚ) (maxPvalue minMagnitude : ℚ) :
    Nat -> List ChangePoint -> List Nat
  | 0, _ => []
  | fuel + 1, points =>
      match weakestIndex maxPvalue minMagnitude points with
      | none => []
      | some place =>
          match removeAt test series place points with
          | .error _ => []
          | .ok remaining =>
              place :: removals test series maxPvalue minMagnitude fuel remaining

/-- The statistics of each point are those of the segments from its left neighbour to the
end that it was tested with. -/
structure Tested (test : TTest) (series : List ℚ) (points : List ChangePoint)
    (tested : List TestedPoint) : Prop where
  sameIndices : testedIndices tested = indicesOf points
  statistics : forall place point ended, points[place]? = some point -> tested[place]? = some ended ->
    point.stats = test.statsOf
      (between series (leftEnd (indicesOf points) place) point.index)
      (between series point.index ended.stop)

/-! ## One removal -/

variable {indices : List Nat} {points : List ChangePoint} {test : TTest} {series values : List ℚ}
  {place : Nat} {tested : List TestedPoint} {config : ResolvedConfig}

theorem recomputeNeighbor_ok (interior : Interior series.length indices)
    (same : indicesOf points = indices) (place : Nat) :
    recomputeNeighbor test series (getIntervals indices) place points =
      .ok (points.modify place (test.refresh series indices)) := by
  unfold recomputeNeighbor
  cases here : points[place]? with
  | none =>
      rw [List.modify_eq_self (List.getElem?_eq_none_iff.mp here)]
  | some point =>
      have listed : point.index ∈ indices := by
        rw [<- same]
        exact List.mem_map_of_mem (List.mem_of_getElem? here)
      dsimp only
      rw [changePoint_refresh interior listed]
      dsimp only [bind, Except.bind]
      refine congrArg Except.ok (List.ext_getElem? fun other => ?_)
      rw [List.getElem?_set, List.getElem?_modify]
      by_cases isPlace : place = other
      · subst isPlace
        have inside := (List.getElem?_eq_some_iff.mp here).1
        rw [if_pos rfl, if_pos inside, here]
        simp
      · rw [if_neg isPlace]
        simp [isPlace]

theorem indicesOf_modify (points : List ChangePoint) (place : Nat) (test : TTest) (series : List ℚ)
    (indices : List Nat) :
    indicesOf (points.modify place (test.refresh series indices)) = indicesOf points := by
  refine List.ext_getElem? fun other => ?_
  simp only [indicesOf, List.getElem?_map, List.getElem?_modify]
  cases points[other]? with
  | none => rfl
  | some point =>
      by_cases isPlace : place = other <;> simp [isPlace]

theorem indicesOf_eraseIdx (points : List ChangePoint) (place : Nat) :
    indicesOf (points.eraseIdx place) = (indicesOf points).eraseIdx place := by
  refine List.ext_getElem? fun other => ?_
  simp only [indicesOf, List.getElem?_map, List.getElem?_eraseIdx]
  split <;> rfl

theorem removeAt_ok (interior : Interior series.length (indicesOf points)) (place : Nat) :
    removeAt test series place points =
      .ok (((points.eraseIdx place).modify place
          (test.refresh series (indicesOf (points.eraseIdx place)))).modify (place + 1)
        (test.refresh series (indicesOf (points.eraseIdx place)))) := by
  have remains : Interior series.length (indicesOf (points.eraseIdx place)) := by
    rw [indicesOf_eraseIdx]
    exact interior.eraseIdx place
  unfold removeAt
  dsimp only
  rw [recomputeNeighbor_ok remains rfl]
  dsimp only [bind, Except.bind]
  exact recomputeNeighbor_ok remains (indicesOf_modify _ _ _ _ _) (place + 1)

theorem getElem?_modify_two {Item : Type} (items : List Item) (place : Nat)
    (change : Nat -> Item -> Item) (other : Nat) :
    ((items.modify place (change place)).modify (place + 1) (change (place + 1)))[other]? =
      if other = place ∨ other = place + 1 then items[other]?.map (change other)
      else items[other]? := by
  rw [List.getElem?_modify, List.getElem?_modify]
  cases items[other]? with
  | none => simp
  | some item =>
      by_cases first : other = place
      · subst first
        simp
      · by_cases second : other = place + 1
        · subst second
          simp
        · simp [first, second, Ne.symm first, Ne.symm second]

theorem leftEnd_eraseIdx_before {other : Nat} (before : other ≤ place) :
    leftEnd (indices.eraseIdx place) other = leftEnd indices other := by
  unfold leftEnd
  split
  · rfl
  · rw [List.getD_eq_getElem?_getD, List.getElem?_eraseIdx_of_lt (by omega),
      List.getD_eq_getElem?_getD]

theorem leftEnd_eraseIdx_after {other : Nat} (after : place < other) :
    leftEnd (indices.eraseIdx place) other = leftEnd indices (other + 1) := by
  unfold leftEnd
  rw [if_neg (by omega), if_neg (by omega), List.getD_eq_getElem?_getD,
    List.getElem?_eraseIdx_of_ge (by omega), List.getD_eq_getElem?_getD]
  congr 3
  omega

/-- A removal keeps the points inside the series, and their statistics those of the tested
segments. -/
theorem Tested.removeAt (follows : Tested test series points tested)
    (interior : Interior series.length (indicesOf points)) (place : Nat) :
    Exists fun remaining => Divisive.removeAt test series place points = .ok remaining ∧
      indicesOf remaining = (indicesOf points).eraseIdx place ∧
      Tested test series remaining (testedAfter series.length tested place) := by
  let indices := indicesOf (points.eraseIdx place)
  have remains : Interior series.length indices := by
    rw [show indices = (indicesOf points).eraseIdx place from indicesOf_eraseIdx points place]
    exact interior.eraseIdx place
  have kept : testedIndices (tested.eraseIdx place) = indices := by
    rw [show indices = (indicesOf points).eraseIdx place from indicesOf_eraseIdx points place,
      <- follows.sameIndices]
    refine List.ext_getElem? fun other => ?_
    simp only [testedIndices, List.getElem?_map, List.getElem?_eraseIdx]
    split <;> rfl
  have pointsAt := getElem?_modify_two (points.eraseIdx place) place
    fun _ => test.refresh series indices
  have testedAt : forall other, (testedAfter series.length tested place)[other]? =
      if other = place ∨ other = place + 1 then
        (tested.eraseIdx place)[other]?.map (TestedPoint.retest series.length indices other)
      else (tested.eraseIdx place)[other]? := by
    rw [<- kept]
    exact getElem?_modify_two (tested.eraseIdx place) place _
  refine ⟨_, removeAt_ok interior place, ?_, ?_, ?_⟩
  · rw [indicesOf_modify, indicesOf_modify, indicesOf_eraseIdx]
  · rw [indicesOf_modify, indicesOf_modify]
    refine Eq.trans (List.ext_getElem? fun other => ?_) kept
    rw [testedIndices, testedIndices, List.getElem?_map, List.getElem?_map, testedAt other]
    split
    · cases (tested.eraseIdx place)[other]? <;> rfl
    · rfl
  · intro other point ended atPoints atTested
    rw [indicesOf_modify, indicesOf_modify]
    rw [pointsAt other] at atPoints
    rw [testedAt other] at atTested
    split at atPoints
    · rename_i retested
      rw [if_pos retested] at atTested
      rcases Option.map_eq_some_iff.mp atPoints with ⟨original, here, same⟩
      rcases Option.map_eq_some_iff.mp atTested with ⟨_, _, sameEnd⟩
      have placed : indices[other]? = some original.index := by
        rw [show indices = (points.eraseIdx place).map (·.index) from rfl, List.getElem?_map, here]
        rfl
      rw [<- same, <- sameEnd]
      exact statsAt_place remains placed
    · rename_i old
      rw [if_neg old] at atTested
      rw [List.getElem?_eraseIdx] at atPoints atTested
      rw [indicesOf_eraseIdx]
      by_cases before : other < place
      · rw [if_pos before] at atPoints atTested
        rw [leftEnd_eraseIdx_before (le_of_lt before)]
        exact follows.statistics other point ended atPoints atTested
      · rw [if_neg before] at atPoints atTested
        rw [leftEnd_eraseIdx_after (by omega)]
        exact follows.statistics (other + 1) point ended atPoints atTested

/-! ## The merge phase -/

def Passes (maxPvalue minMagnitude : ℚ) (stats : Stats) : Prop :=
  stats.pvalue < maxPvalue ∧ minMagnitude < stats.changeMagnitude

instance (maxPvalue minMagnitude : ℚ) (stats : Stats) :
    Decidable (Passes maxPvalue minMagnitude stats) :=
  inferInstanceAs (Decidable (_ ∧ _))

theorem weakestIndex_lt {maxPvalue minMagnitude : ℚ}
    (found : weakestIndex maxPvalue minMagnitude points = some place) : place < points.length := by
  have inside : forall point, point ∈ points ->
      points.findIdx (·.index = point.index) < points.length :=
    fun point member => List.findIdx_lt_length_of_exists ⟨point, member, decide_eq_true rfl⟩
  rcases Option.bind_eq_some_iff.mp found with ⟨leastSignificant, largest, found⟩
  split at found
  · rcases Option.bind_eq_some_iff.mp found with ⟨smallest, least, found⟩
    split at found
    · cases found
    · cases found
      exact inside smallest (List.argmin_mem least)
  · cases found
    exact inside leastSignificant (List.argmax_mem largest)

theorem weakestIndex_eq_none {maxPvalue minMagnitude : ℚ}
    (stopped : weakestIndex maxPvalue minMagnitude points = none) :
    forall point, point ∈ points -> Passes maxPvalue minMagnitude point.stats := by
  intro point member
  unfold weakestIndex at stopped
  cases largest : points.argmax (·.stats.pvalue) with
  | none =>
      rw [List.argmax_eq_none.mp largest] at member
      exact absurd member List.not_mem_nil
  | some leastSignificant =>
      rw [largest] at stopped
      dsimp only [bind, Option.bind] at stopped
      split at stopped
      · rename_i significant
        cases least : points.argmin (·.stats.changeMagnitude) with
        | none =>
            rw [List.argmin_eq_none.mp least] at member
            exact absurd member List.not_mem_nil
        | some smallest =>
            rw [least] at stopped
            dsimp only at stopped
            split at stopped
            · rename_i large
              have atMost := List.le_of_mem_argmax
                (f := fun other : ChangePoint => other.stats.pvalue) member largest
              have atLeast := List.le_of_mem_argmin
                (f := fun other : ChangePoint => other.stats.changeMagnitude) member least
              exact ⟨lt_of_le_of_lt atMost significant, lt_of_lt_of_le large atLeast⟩
            · cases stopped
      · cases stopped

/-- The loop ends with points that pass the thresholds, and the tested segments of these are
the ones that its removals leave. -/
theorem mergeLoop_ok (maxPvalue minMagnitude : ℚ) {fuel : Nat}
    (follows : Tested test series points tested)
    (interior : Interior series.length (indicesOf points)) (enough : points.length ≤ fuel) :
    Exists fun final => mergeLoop test series maxPvalue minMagnitude fuel points = .ok final ∧
      Interior series.length (indicesOf final) ∧
      Tested test series final
        ((removals test series maxPvalue minMagnitude fuel points).foldl
          (testedAfter series.length) tested) ∧
      forall point, point ∈ final -> Passes maxPvalue minMagnitude point.stats := by
  induction fuel generalizing points tested with
  | zero =>
      have empty : points = [] := List.eq_nil_of_length_eq_zero (Nat.le_zero.mp enough)
      subst empty
      exact ⟨[], rfl, interior, follows, fun point member => absurd member List.not_mem_nil⟩
  | succ fuel ih =>
      unfold mergeLoop removals
      cases weakest : weakestIndex maxPvalue minMagnitude points with
      | none => exact ⟨points, rfl, interior, follows, weakestIndex_eq_none weakest⟩
      | some place =>
          rcases follows.removeAt interior place with ⟨remaining, removed, indices, followed⟩
          have inside := weakestIndex_lt weakest
          have shorter : remaining.length ≤ fuel := by
            have sameLength := congrArg List.length indices
            rw [indicesOf, indicesOf, List.length_map, List.length_eraseIdx_of_lt
              (by rw [List.length_map]; exact inside), List.length_map] at sameLength
            omega
          have remains : Interior series.length (indicesOf remaining) := by
            rw [indices]
            exact interior.eraseIdx place
          dsimp only
          rw [removed]
          exact ih followed remains shorter

theorem testedIndices_testedFrom (length : Nat) (indices : List Nat) :
    testedIndices (testedFrom length indices) = indices := by
  refine List.ext_getElem? fun place => ?_
  rw [testedIndices, testedFrom, List.getElem?_map, List.getElem?_mapIdx]
  cases indices[place]? <;> rfl

theorem tested_split (interior : Interior series.length (indicesOf points))
    (statistics : forall point, point ∈ points ->
      point.stats = test.statsAt series (indicesOf points) point.index) :
    Tested test series points (testedFrom series.length (indicesOf points)) := by
  constructor
  · exact testedIndices_testedFrom _ _
  · intro place point ended atPoints atTested
    have placed : (indicesOf points)[place]? = some point.index := by
      rw [indicesOf, List.getElem?_map, atPoints]
      rfl
    rw [testedFrom, List.getElem?_mapIdx, placed] at atTested
    cases atTested
    rw [statistics point (List.mem_of_getElem? atPoints)]
    exact statsAt_place interior placed

/-! ## The answer of the detector -/

/-- The statistics of the segments between a returned point and its neighbours. -/
def segmentStats (test : TTest) (values : List ℚ) (positions : List Nat) (place position : Nat) :
    Stats :=
  test.statsOf (between values (leftEnd positions place) position)
    (between values position (rightEnd values.length positions place))

/-- A returned point reports the statistics of the segments between its neighbours, and
these pass the thresholds. -/
structure JustifiedAt (test : TTest) (config : ResolvedConfig) (values : List ℚ)
    (positions : List Nat) (place : Nat) (result : ChangePointResult) : Prop where
  preMean : result.preSegmentMean =
    roundTo 4 (segmentStats test values positions place result.position).mean1
  postMean : result.postSegmentMean =
    roundTo 4 (segmentStats test values positions place result.position).mean2
  pvalue : result.pvalue =
    roundTo 6 (segmentStats test values positions place result.position).pvalue
  passes : Passes config.maxPvalue config.minMagnitude
    (segmentStats test values positions place result.position)

/-- The positions increase strictly inside the series, and every point is justified. -/
def Justified (test : TTest) (config : ResolvedConfig) (values : List ℚ)
    (results : List ChangePointResult) : Prop :=
  Interior values.length (results.map (·.position)) ∧
    forall place result, results[place]? = some result ->
      JustifiedAt test config values (results.map (·.position)) place result

def Runs (config : ResolvedConfig) (values : List ℚ) : Prop :=
  ¬ ((values.length : Int) < config.minSampleSize ∨
    min config.windowSize values.length < minEffectiveWindow)

/-- The points that no removal takes away, each with the end that it was tested with last. -/
def survivors (test : TTest) (config : ResolvedConfig) (values : List ℚ) : List TestedPoint :=
  match split test values (min config.windowSize values.length).toNat (firstPassPvalue config) with
  | .error _ => []
  | .ok weak =>
      (removals test values config.maxPvalue config.minMagnitude weak.length weak).foldl
        (testedAfter values.length) (testedFrom values.length (indicesOf weak))

/-- A survivor that lost its right neighbour after its last test would report the same
after a test of the longer segment, and pass. -/
def Unharmed (test : TTest) (config : ResolvedConfig) (values : List ℚ) (indices : List Nat)
    (place : Nat) (survivor : TestedPoint) : Prop :=
  let tested := test.statsOf (between values (leftEnd indices place) survivor.index)
    (between values survivor.index survivor.stop)
  let widened := segmentStats test values indices place survivor.index
  survivor.stop = rightEnd values.length indices place ∨
    roundTo 4 tested.mean2 = roundTo 4 widened.mean2 ∧
      roundTo 6 tested.pvalue = roundTo 6 widened.pvalue ∧
        Passes config.maxPvalue config.minMagnitude widened

/-- When the merge phase removes nothing, every point keeps the neighbours that it was
tested with. -/
theorem unharmed_of_no_removal
    (keeps : forall weak,
      split test values (min config.windowSize values.length).toNat (firstPassPvalue config) =
      .ok weak -> weakestIndex config.maxPvalue config.minMagnitude weak = none)
    {survivor : TestedPoint} (survives : (survivors test config values)[place]? = some survivor) :
    Unharmed test config values (testedIndices (survivors test config values)) place survivor := by
  unfold survivors at survives ⊢
  cases found : split test values (min config.windowSize values.length).toNat
      (firstPassPvalue config) with
  | error failure =>
      rw [found] at survives
      cases survives
  | ok weak =>
      have nothing : removals test values config.maxPvalue config.minMagnitude weak.length weak =
          [] := by
        cases weak with
        | nil =>
            rfl
        | cons first rest =>
            rw [List.length_cons, removals, keeps _ found]
      rw [found] at survives
      dsimp only at survives ⊢
      rw [nothing, List.foldl_nil] at survives ⊢
      rw [testedIndices_testedFrom]
      rw [testedFrom, List.getElem?_mapIdx] at survives
      rcases Option.map_eq_some_iff.mp survives with ⟨index, _, rfl⟩
      exact Or.inl rfl

def resultOf (config : ResolvedConfig) (timestamps : List Instant) (point : ChangePoint) :
    ChangePointResult :=
  changePointResult config point.toEnginePoint (timestamps.getD point.index 0)

theorem detectChangePoints_eq {timestamps : List Instant}
    (paired : timestamps.length = values.length) (runs : Runs config values)
    {weak final : List ChangePoint}
    (splits : split test values (min config.windowSize values.length).toNat (firstPassPvalue
      config) = .ok weak)
    (merges : merge test weak values config.maxPvalue config.minMagnitude = .ok final)
    (interior : Interior values.length (indicesOf final)) :
    detectChangePoints (engine test) config values timestamps =
      .ok (final.map (resultOf config timestamps)) := by
  have inside : forall point, point ∈ final -> 0 < point.index ∧ point.index < values.length :=
    fun point member => interior.inside point.index (List.mem_map_of_mem member)
  have ran : engine test values (min config.windowSize values.length) (firstPassPvalue config)
      config.maxPvalue config.minMagnitude = .ok (final.map ChangePoint.toEnginePoint) := by
    unfold engine
    rw [splits]
    dsimp only [bind, Except.bind]
    rw [merges]
    rfl
  have kept : (final.map ChangePoint.toEnginePoint).filter
      (fun point => 0 < point.index && point.index < values.length) =
        final.map ChangePoint.toEnginePoint := by
    refine List.filter_eq_self.mpr fun enginePoint member => ?_
    rcases List.mem_map.mp member with ⟨point, listed, same⟩
    have bounds := inside point listed
    rw [<- same]
    simp [ChangePoint.toEnginePoint, bounds.1, bounds.2]
  have stamped : (final.map ChangePoint.toEnginePoint).mapM (fun point =>
      orRaise DetectionError.indexError
        (timestamps[point.index]?.map (changePointResult config point))) =
          .ok (final.map (resultOf config timestamps)) := by
    refine mapM_eq_ok.mpr (List.forall₂_map_left_iff.mpr
      (List.forall₂_map_right_iff.mpr (List.forall₂_same.mpr fun point member => ?_)))
    have listed : point.index < timestamps.length := by
      rw [paired]
      exact (inside point member).2
    have here : timestamps[point.index]? = some (timestamps.getD point.index 0) := by
      rw [List.getD_eq_getElem?_getD, List.getElem?_eq_getElem listed]
      rfl
    rw [ChangePoint.toEnginePoint]
    dsimp only
    rw [here]
    rfl
  have sorted : Latest.oldestFirst (fun result : ChangePointResult => (result.position : Int))
      (final.map (resultOf config timestamps)) = final.map (resultOf config timestamps) := by
    refine List.Pairwise.insertionSort_eq (List.pairwise_map.mpr ?_)
    have ordered := List.pairwise_map.mp interior.sorted
    exact ordered.imp fun before => Int.ofNat_le.mpr (le_of_lt before)
  unfold detectChangePoints
  dsimp only
  rw [if_neg runs, ran]
  dsimp only [bind, Except.bind]
  rw [kept, stamped]
  exact congrArg Except.ok sorted

theorem justifiedAt_iff {timestamps : List Instant} {point : ChangePoint} {survivor : TestedPoint}
    (sameIndex : survivor.index = point.index)
    (statistics : point.stats =
      test.statsOf (between values (leftEnd indices place) point.index) (between values point.index
      survivor.stop))
    (passes : Passes config.maxPvalue config.minMagnitude point.stats) :
    JustifiedAt test config values indices place (resultOf config timestamps point) ↔
      Unharmed test config values indices place survivor := by
  unfold Unharmed
  dsimp only
  rw [sameIndex, <- statistics]
  constructor
  · rintro ⟨_, postMean, pvalue, widenedPasses⟩
    exact Or.inr ⟨postMean, pvalue, widenedPasses⟩
  · rintro (current | ⟨postMean, pvalue, widenedPasses⟩)
    · rw [current] at statistics
      have same : point.stats = segmentStats test values indices place point.index := statistics
      exact ⟨congrArg (fun stats : Stats => roundTo 4 stats.mean1) same,
        congrArg (fun stats : Stats => roundTo 4 stats.mean2) same,
        congrArg (fun stats : Stats => roundTo 6 stats.pvalue) same, same ▸ passes⟩
    · have preMean : point.stats.mean1 =
          (segmentStats test values indices place point.index).mean1 := by
        rw [statistics]
        rfl
      exact ⟨congrArg (roundTo 4) preMean, postMean, pvalue, widenedPasses⟩

/-- The detector does not fail.  Its points increase strictly inside the series, and they
are justified exactly when every survivor is unharmed. -/
theorem change_points_justified_iff (test : TTest) (config : ResolvedConfig) (values : List ℚ)
    (timestamps : List Instant) (paired : timestamps.length = values.length) :
    Exists fun results => detectChangePoints (engine test) config values timestamps = .ok results ∧
      Interior values.length (results.map (·.position)) ∧
      (Justified test config values results ↔
        (Runs config values -> forall place survivor,
          (survivors test config values)[place]? = some survivor ->
            Unharmed test config values (testedIndices (survivors test config values)) place
              survivor)) := by
  by_cases runs : Runs config values
  · have wide : 2 ≤ (min config.windowSize values.length).toNat := by
      have enough := (not_or.mp runs).2
      rw [minEffectiveWindow] at enough
      omega
    rcases split_ok test wide (firstPassPvalue config) values with
      ⟨weak, splits, weakInterior, statistics⟩
    rcases mergeLoop_ok config.maxPvalue config.minMagnitude (tested_split weakInterior statistics)
      weakInterior (le_refl _) with ⟨final, merges, interior, follows, passes⟩
    have survive : survivors test config values =
        (removals test values config.maxPvalue config.minMagnitude weak.length weak).foldl
          (testedAfter values.length) (testedFrom values.length (indicesOf weak)) := by
      rw [survivors, splits]
    rw [<- survive] at follows
    have positions : (final.map (resultOf config timestamps)).map (·.position) =
        indicesOf final := by
      rw [List.map_map]
      rfl
    refine ⟨_, detectChangePoints_eq paired runs splits merges interior, ?_, ?_⟩
    · rw [positions]
      exact interior
    · unfold Justified
      rw [positions, follows.sameIndices]
      have atPlace : forall place point survivor, final[place]? = some point ->
          (survivors test config values)[place]? = some survivor ->
            (JustifiedAt test config values (indicesOf final) place
                (resultOf config timestamps point) ↔
              Unharmed test config values (indicesOf final) place survivor) := by
        intro place point survivor here survives
        have sameIndex := congrArg (fun indices : List Nat => indices[place]?) follows.sameIndices
        simp only [testedIndices, indicesOf, List.getElem?_map, here, survives, Option.map_some,
          Option.some.injEq] at sameIndex
        exact justifiedAt_iff sameIndex (follows.statistics place point survivor here survives)
          (passes point (List.mem_of_getElem? here))
      have sameLength : final.length = (survivors test config values).length := by
        have lengths := congrArg List.length follows.sameIndices
        rw [testedIndices, indicesOf, List.length_map, List.length_map] at lengths
        exact lengths.symm
      constructor
      · rintro ⟨_, justified⟩ _ place survivor survives
        have inside := (List.getElem?_eq_some_iff.mp survives).1
        have here := List.getElem?_eq_getElem (sameLength ▸ inside)
        refine (atPlace place _ survivor here survives).mp (justified place _ ?_)
        rw [List.getElem?_map, here]
        rfl
      · intro unharmed
        refine ⟨interior, fun place result reported => ?_⟩
        rw [List.getElem?_map] at reported
        rcases Option.map_eq_some_iff.mp reported with ⟨point, here, same⟩
        have inside := (List.getElem?_eq_some_iff.mp here).1
        have survives := List.getElem?_eq_getElem (sameLength ▸ inside)
        rw [<- same]
        exact (atPlace place point _ here survives).mpr (unharmed runs place _ survives)
  · refine ⟨[], ?_, interior_nil _, ?_⟩
    · exact if_pos (not_not.mp runs)
    · constructor
      · intro _ doesRun
        exact absurd doesRun runs
      · intro _
        refine ⟨interior_nil _, fun place result impossible => ?_⟩
        cases impossible

/-! ## A spike before a drop

The split phase finds the spike and the drop after it.  The drop is not significant and is
removed.  The point at the spike keeps the statistics of the spike alone, although its
right segment now contains the drop as well.
-/

namespace Sample

def defaults : ResolvedConfig :=
  { enabled := true, higherIsBetter := false, windowSize := 30, maxPvalue := 1 / 1000,
    minMagnitude := 0, minSampleSize := 10, pvalueStrictThreshold := 1 / 20,
    pvalueModerateThreshold := 1 / 2 }

def spike : List ℚ :=
  [51, 51, 52, 50, 51, 50, 52, 60, 40, 42]

/-- The p-values and deviations of the segments that are tested, to sixteen digits. -/
def tTest : TTest :=
  { pvalue := fun left right =>
      if left = spike.take 8 ∧ right = [40, 42] then 1223951721976719 / 10 ^ 18
      else if left = spike.take 7 ∧ right = [60] then 31248009972773194 / 10 ^ 21
      else if left = [60] ∧ right = [40, 42] then 40979977531803644 / 10 ^ 18
      else if left = spike.take 7 ∧ right = [60, 40, 42] then 2759536302978842 / 10 ^ 16
      else 1
    std := fun segment =>
      if segment = spike.take 8 then 3059309562630104 / 10 ^ 15
      else if segment = [40, 42] then 1
      else if segment = spike.take 7 then 7559289460184544 / 10 ^ 16
      else if segment = [60, 40, 42] then 8993825042154693 / 10 ^ 15
      else 0 }

def step : List ℚ :=
  [51, 51, 52, 50, 51, 60, 61, 60, 62, 61]

def stepTest : TTest :=
  { pvalue := fun left right =>
      if left = step.take 5 ∧ right = step.drop 5 then 16896780097495254 / 10 ^ 24
      else if left = [60, 61, 60] ∧ right = [62, 61] then 765794075058407 / 10 ^ 16
      else 1
    std := fun segment =>
      if segment = step.take 5 then 6324555320336759 / 10 ^ 16
      else if segment = step.drop 5 then 7483314773547882 / 10 ^ 16
      else if segment = [60, 61, 60] then 4714045207910317 / 10 ^ 16
      else if segment = [62, 61] then 1 / 2
      else 0 }

def timestamps : List Instant :=
  (List.range 10).map fun hour => hour * 3600000000

end Sample

/-- The point at the spike reports the mean of the spike, and not of its right segment. -/
theorem stale_statistics_of_the_spike :
    ¬ forall (test : TTest) (config : ResolvedConfig) (values : List ℚ)
        (timestamps : List Instant) (results : List ChangePointResult),
      timestamps.length = values.length ->
        detectChangePoints (engine test) config values timestamps = .ok results ->
          Justified test config values results := by
  intro claimed
  have ran : (detectChangePoints (engine Sample.tTest) Sample.defaults Sample.spike
      Sample.timestamps).toOption.map (List.map fun result => (result.position,
        result.postSegmentMean)) = some [(7, 60)] := by
    decide +kernel
  rcases Option.map_eq_some_iff.mp ran with ⟨results, found, reported⟩
  have answered := toOption_eq_some.mp found
  have justified := claimed Sample.tTest Sample.defaults Sample.spike Sample.timestamps results rfl
    answered
  cases results with
  | nil => cases reported
  | cons first rest =>
      rw [List.map_cons, List.cons.injEq, List.map_eq_nil_iff, Prod.mk.injEq] at reported
      rcases reported with ⟨⟨position, mean⟩, rfl⟩
      have postMean := (justified.2 0 first rfl).postMean
      rw [List.map_singleton, position, mean] at postMean
      exact absurd postMean (by decide +kernel)

/-- Nothing is removed from the single point of a step. -/
theorem change_points_justified_at_a_step :
    Exists fun results =>
      detectChangePoints (engine Sample.stepTest) Sample.defaults Sample.step Sample.timestamps =
          .ok results ∧
        results.map (·.position) = [5] ∧
        Justified Sample.stepTest Sample.defaults Sample.step results := by
  rcases change_points_justified_iff Sample.stepTest Sample.defaults Sample.step Sample.timestamps rfl
    with ⟨results, found, _, justified⟩
  have keeps : (split Sample.stepTest Sample.step 10 (firstPassPvalue Sample.defaults)).toOption.bind
      (weakestIndex Sample.defaults.maxPvalue Sample.defaults.minMagnitude) = none := by
    decide +kernel
  have positions : (detectChangePoints (engine Sample.stepTest) Sample.defaults Sample.step
      Sample.timestamps).toOption.map (List.map (·.position)) = some [5] := by
    decide +kernel
  rw [found] at positions
  refine ⟨results, found, Option.some.inj positions,
    justified.mpr fun _ place survivor survives => ?_⟩
  refine unharmed_of_no_removal (fun weak splits => ?_) survives
  change split Sample.stepTest Sample.step 10 (firstPassPvalue Sample.defaults) = _ at splits
  rwa [splits] at keeps

end Divisive
end ChangePoints
end Tropek
