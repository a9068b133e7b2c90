import Tropek.ChangePoints.Divisive

namespace Tropek
namespace ChangePoints
namespace Divisive

open Library Engine

/-!
# The segments of a series

Indices in ascending order and strictly inside a series cut it into segments that are not
empty.  A change point at such an index has a left and a right segment, so that its t-test
never fails, and a candidate of the search lies strictly inside one of the segments.  The
split phase therefore always succeeds, and its points carry the statistics of the segments
between them.
-/

structure Interior (length : Nat) (indices : List Nat) : Prop where
  sorted : indices.Pairwise (· < ·)
  inside : forall index, index ∈ indices -> 0 < index ∧ index < length

variable {length index start : Nat} {indices : List Nat} {test : TTest} {series : List ℚ}
  {candidate : CandidateChangePoint} {interval : Interval} {points : List ChangePoint}

theorem Interior.nodup (interior : Interior length indices) : indices.Nodup :=
  interior.sorted.imp fun before => before.ne

theorem Interior.length_le (interior : Interior length indices) : indices.length ≤ length := by
  have inRange : indices ⊆ List.range length :=
    fun index member => List.mem_range.mpr (interior.inside index member).2
  have atMost := (List.subperm_of_subset interior.nodup inRange).length_le
  rwa [List.length_range] at atMost

theorem Interior.eraseIdx (interior : Interior length indices) (place : Nat) :
    Interior length (indices.eraseIdx place) :=
  ⟨interior.sorted.eraseIdx place,
    fun index member => interior.inside index (List.mem_of_mem_eraseIdx member)⟩

theorem intervalsFrom_head (start : Nat) (indices : List Nat) :
    (intervalsFrom start indices).head? = some ⟨start, indices.head?⟩ := by
  cases indices <;> rfl

theorem getIntervals_eq (interior : Interior length indices) :
    getIntervals indices = intervalsFrom 0 indices := by
  have proper : forall (start : Nat) (rest : List Nat), rest.Pairwise (· < ·) ->
      (forall index, index ∈ rest -> start < index) ->
        forall interval, interval ∈ intervalsFrom start rest ->
          interval.stop ≠ some interval.start := by
    intro start rest
    induction rest generalizing start with
    | nil =>
        intro _ _ interval member
        rw [List.mem_singleton.mp member]
        simp
    | cons index others ih =>
        intro sorted above interval member
        rcases List.mem_cons.mp member with same | later
        · have before := above index List.mem_cons_self
          rw [same]
          simp
          omega
        · exact ih index (List.Pairwise.of_cons sorted)
            (List.pairwise_cons.mp sorted).1 interval later
  refine List.filter_eq_self.mpr fun interval member => decide_eq_true ?_
  exact proper 0 indices interior.sorted (fun index listed => (interior.inside index listed).1)
    interval member

theorem locate_at {place : Nat} (sorted : indices.Pairwise (· < ·))
    (above : forall other, other ∈ indices -> start < other) (here : indices[place]? = some index) :
    locate index (intervalsFrom start indices) =
      some (⟨if place = 0 then start else indices.getD (place - 1) 0, some index⟩,
        ⟨index, indices[place + 1]?⟩) := by
  induction indices generalizing start place with
  | nil => simp at here
  | cons first rest ih =>
      cases place with
      | zero =>
          cases here
          rw [intervalsFrom, locate, if_pos rfl, intervalsFrom_head]
          cases rest <;> rfl
      | succ place =>
          rw [List.getElem?_cons_succ] at here
          have later := (List.pairwise_cons.mp sorted).1
          have beyond := later index (List.mem_of_getElem? here)
          have found := ih (List.Pairwise.of_cons sorted) later here
          have skipped : locate index (intervalsFrom start (first :: rest)) =
              locate index (intervalsFrom first rest) := by
            rw [intervalsFrom, locate]
            dsimp only
            rw [if_neg (by simp; omega), if_neg (by simp; omega)]
          rw [skipped, found]
          cases place <;> simp

theorem locate_some (sorted : indices.Pairwise (· < ·))
    (above : forall other, other ∈ indices -> start < other) (inside : start < index) :
    Exists fun lower => Exists fun upper =>
      locate index (intervalsFrom start indices) =
          some (⟨lower, some index⟩, ⟨index, upper⟩) ∧
        lower < index ∧ forall stop, upper = some stop -> index < stop ∧ stop ∈ indices := by
  induction indices generalizing start with
  | nil =>
      refine ⟨start, none, ?_, inside, ?_⟩
      · simp [intervalsFrom, locate, inside]
      · intro stop impossible
        cases impossible
  | cons first rest ih =>
      have later := (List.pairwise_cons.mp sorted).1
      rcases lt_trichotomy index first with before | same | beyond
      · refine ⟨start, some first, ?_, inside, ?_⟩
        · rw [intervalsFrom, locate]
          dsimp only
          rw [if_neg (by simp; omega), if_pos (by simp [inside, before])]
        · intro stop isFirst
          cases isFirst
          exact ⟨before, List.mem_cons_self⟩
      · subst same
        refine ⟨start, rest.head?, ?_, inside, ?_⟩
        · simp [intervalsFrom, locate, intervalsFrom_head]
        · intro stop isHead
          have member := List.mem_of_head? isHead
          exact ⟨later stop member, List.mem_cons_of_mem _ member⟩
      · rcases ih (List.Pairwise.of_cons sorted) later beyond with
          ⟨lower, upper, found, below, bounded⟩
        refine ⟨lower, upper, ?_, below, ?_⟩
        · rw [intervalsFrom, locate]
          dsimp only
          rw [if_neg (by simp; omega), if_neg (by simp; omega), found]
        · intro stop isUpper
          exact ⟨(bounded stop isUpper).1, List.mem_cons_of_mem _ (bounded stop isUpper).2⟩

def between (series : List ℚ) (first last : Nat) : List ℚ :=
  (series.take last).drop first

/-- The left neighbour of a place among the indices, or the beginning of the series. -/
def leftEnd (indices : List Nat) (place : Nat) : Nat :=
  if place = 0 then 0 else indices.getD (place - 1) 0

/-- The right neighbour of a place among the indices, or the end of the series. -/
def rightEnd (length : Nat) (indices : List Nat) (place : Nat) : Nat :=
  indices[place + 1]?.getD length

/-- The statistics of the segments between an index and its neighbours among others. -/
def TTest.statsAt (test : TTest) (series : List ℚ) (indices : List Nat) (index : Nat) : Stats :=
  match locate index (getIntervals indices) with
  | none => test.statsOf [] []
  | some (left, right) => test.statsOf (left.of series) (right.of series)

theorem statsAt_place (interior : Interior series.length indices) {place : Nat}
    (here : indices[place]? = some index) :
    test.statsAt series indices index =
      test.statsOf (between series (leftEnd indices place) index)
        (between series index (rightEnd series.length indices place)) := by
  have found := locate_at interior.sorted (fun other listed => (interior.inside other listed).1) here
  unfold TTest.statsAt
  rw [getIntervals_eq interior, found]
  rfl

def TTest.refresh (test : TTest) (series : List ℚ) (indices : List Nat) (point : ChangePoint) :
    ChangePoint :=
  { point with stats := test.statsAt series indices point.index }

@[simp] theorem refresh_index (test : TTest) (series : List ℚ) (indices : List Nat)
    (point : ChangePoint) : (test.refresh series indices point).index = point.index :=
  rfl

/-- The segments on the sides of an inner index are not empty, so that a candidate there
always becomes a point. -/
theorem changePoint_ok (interior : Interior series.length indices) (positive : 0 < candidate.index)
    (below : candidate.index < series.length) :
    test.changePoint candidate series (getIntervals indices) =
      .ok { index := candidate.index, qhat := candidate.qhat
            stats := test.statsAt series indices candidate.index } := by
  rcases locate_some interior.sorted (fun index listed => (interior.inside index listed).1) positive
    with ⟨lower, upper, found, before, bounded⟩
  rw [<- getIntervals_eq interior] at found
  have left : Interval.of ⟨lower, some candidate.index⟩ series ≠ [] := by
    apply List.ne_nil_of_length_pos
    simp only [Interval.of, Option.getD_some, List.length_drop, List.length_take]
    omega
  have right : Interval.of ⟨candidate.index, upper⟩ series ≠ [] := by
    apply List.ne_nil_of_length_pos
    simp only [Interval.of, List.length_drop, List.length_take]
    cases upper with
    | none =>
        simp only [Option.getD_none]
        omega
    | some stop =>
        have stops := bounded stop rfl
        have within := (interior.inside stop stops.2).2
        simp only [Option.getD_some]
        omega
  unfold TTest.changePoint TTest.compare TTest.statsAt
  rw [found]
  dsimp only
  rw [if_neg (not_or.mpr ⟨left, right⟩)]
  rfl

theorem changePoint_refresh (interior : Interior series.length indices) {point : ChangePoint}
    (listed : point.index ∈ indices) :
    test.changePoint point.toCandidate series (getIntervals indices) =
      .ok (test.refresh series indices point) :=
  changePoint_ok interior (interior.inside _ listed).1 (interior.inside _ listed).2

theorem interior_nil (length : Nat) : Interior length [] := by
  constructor
  · exact List.Pairwise.nil
  · intro index member
    exact absurd member List.not_mem_nil

theorem intervalsFrom_bounds (sorted : indices.Pairwise (· < ·))
    (above : forall other, other ∈ indices -> start < other)
    (member : interval ∈ intervalsFrom start indices) :
    start ≤ interval.start ∧ forall stop, interval.stop = some stop -> stop ∈ indices := by
  induction indices generalizing start with
  | nil =>
      rw [List.mem_singleton.mp member]
      exact ⟨le_refl start, fun stop impossible => by cases impossible⟩
  | cons first rest ih =>
      rcases List.mem_cons.mp member with same | later
      · rw [same]
        refine ⟨le_refl start, fun stop isFirst => ?_⟩
        cases isFirst
        exact List.mem_cons_self
      · have bounds := ih (List.Pairwise.of_cons sorted)
          (List.pairwise_cons.mp sorted).1 later
        have beyond := above first List.mem_cons_self
        exact ⟨by omega, fun stop stops => List.mem_cons_of_mem _ (bounds.2 stop stops)⟩

theorem intervalsFrom_gap (sorted : indices.Pairwise (· < ·))
    (member : interval ∈ intervalsFrom start indices) (after : interval.start < index)
    (before : forall stop, interval.stop = some stop -> index < stop) : index ∉ indices := by
  induction indices generalizing start with
  | nil => exact List.not_mem_nil
  | cons first rest ih =>
      have later := (List.pairwise_cons.mp sorted).1
      intro listed
      rcases List.mem_cons.mp member with same | further
      · rw [same] at before
        have ahead := before first rfl
        rcases List.mem_cons.mp listed with isFirst | beyond
        · omega
        · have following := later index beyond
          omega
      · have bounds := intervalsFrom_bounds (List.Pairwise.of_cons sorted) later further
        rcases List.mem_cons.mp listed with isFirst | beyond
        · omega
        · exact ih (List.Pairwise.of_cons sorted) further beyond

theorem getCandidateChangePoint_inside
    (found : getCandidateChangePoint series interval = some candidate) :
    interval.start < candidate.index ∧
      candidate.index < interval.stop.getD series.length := by
  unfold getCandidateChangePoint at found
  dsimp only at found
  rcases Option.map_eq_some_iff.mp found with ⟨best, largest, same⟩
  have listed := List.pair_mem_product.mp (List.argmax_mem largest)
  have row := List.mem_range.mp listed.1
  subst same
  dsimp only
  constructor <;> omega

theorem getNextCandidate_new (interior : Interior series.length indices)
    (found : getNextCandidate series (getIntervals indices) = some candidate) :
    0 < candidate.index ∧ candidate.index < series.length ∧ candidate.index ∉ indices := by
  rcases List.mem_filterMap.mp (List.argmax_mem found) with ⟨interval, long, isCandidate⟩
  have inside := getCandidateChangePoint_inside isCandidate
  have member := (List.mem_filter.mp long).1
  rw [getIntervals_eq interior] at member
  have above : forall other, other ∈ indices -> 0 < other :=
    fun other listed => (interior.inside other listed).1
  have bounds := intervalsFrom_bounds interior.sorted above member
  have below : forall stop, interval.stop = some stop -> candidate.index < stop := by
    intro stop stops
    rw [stops] at inside
    exact inside.2
  refine ⟨by omega, ?_, intervalsFrom_gap interior.sorted member inside.1 below⟩
  cases stops : interval.stop with
  | none =>
      rw [stops] at inside
      exact inside.2
  | some stop =>
      have within := (interior.inside stop (bounds.2 stop stops)).2
      have before := below stop stops
      omega

theorem indicesOf_perm {first second : List ChangePoint} (same : first.Perm second) :
    (indicesOf first).Perm (indicesOf second) :=
  same.map _

structure Spread (length : Nat) (points : List ChangePoint) : Prop where
  nodup : (indicesOf points).Nodup
  inside : forall index, index ∈ indicesOf points -> 0 < index ∧ index < length

theorem Spread.append (spread : Spread length points) {point : ChangePoint}
    (new : point.index ∉ indicesOf points) (positive : 0 < point.index)
    (below : point.index < length) : Spread length (points ++ [point]) := by
  constructor
  · rw [indicesOf, List.map_append, List.map_singleton]
    have first : (point.index :: indicesOf points).Nodup := List.nodup_cons.mpr ⟨new, spread.nodup⟩
    exact (List.perm_append_singleton _ _).nodup_iff.mpr first
  · intro index member
    rw [indicesOf, List.map_append, List.map_singleton] at member
    rcases List.mem_append.mp member with old | added
    · exact spread.inside index old
    · rw [List.mem_singleton.mp added]
      exact ⟨positive, below⟩

theorem Spread.sortBy (spread : Spread length points) :
    Interior length (indicesOf (Latest.sortBy ChangePoint.index points)) := by
  have same := indicesOf_perm (Latest.sortBy_perm ChangePoint.index points)
  have different := same.nodup_iff.mpr spread.nodup
  have ordered := Latest.sortBy_pairwise ChangePoint.index points
  constructor
  · have atMost : (indicesOf (Latest.sortBy ChangePoint.index points)).Pairwise (· ≤ ·) :=
      List.pairwise_map.mpr ordered
    exact atMost.imp₂ (fun _ _ before distinct => lt_of_le_of_ne before distinct) different
  · intro index member
    exact spread.inside index (same.mem_iff.mp member)

theorem searchLoop_ok {maxPvalue : ℚ} {fuel : Nat}
    (interior : Interior series.length (indicesOf points))
    (enough : series.length < fuel + points.length) :
    Exists fun found => searchLoop test maxPvalue series fuel points = .ok found ∧
      Interior series.length (indicesOf found) := by
  induction fuel generalizing points with
  | zero =>
      have atMost := interior.length_le
      rw [indicesOf, List.length_map] at atMost
      omega
  | succ fuel ih =>
      unfold searchLoop
      dsimp only
      cases next : getNextCandidate series (getIntervals (indicesOf points)) with
      | none => exact ⟨points, rfl, interior⟩
      | some candidate =>
          rcases getNextCandidate_new interior next with ⟨positive, below, new⟩
          dsimp only
          rw [changePoint_ok interior positive below]
          dsimp only [bind, Except.bind]
          split
          · have spread : Spread series.length points := ⟨interior.nodup, interior.inside⟩
            refine ih (spread.append new positive below).sortBy ?_
            rw [(Latest.sortBy_perm _ _).length_eq, List.length_append, List.length_singleton]
            omega
          · exact ⟨points, rfl, interior⟩

theorem getChangePoints_ok (test : TTest) (maxPvalue : ℚ) (series : List ℚ) (start stop : Nat) :
    Exists fun found => getChangePoints test maxPvalue series start stop = .ok found := by
  unfold getChangePoints
  dsimp only
  have beginning : Interior ((series.take stop).drop start).length (indicesOf []) := interior_nil _
  rcases searchLoop_ok beginning (Nat.lt_succ_self _) with ⟨found, searched, _⟩
  rw [searched]
  exact ⟨_, rfl⟩

theorem Spread.addPoint {length : Nat} {points : List ChangePoint} (spread : Spread length points)
    (point : ChangePoint) : Spread length (addPoint length points point) := by
  unfold Divisive.addPoint
  split
  · exact spread
  · rename_i inside
    split
    · exact spread
    · rename_i new
      refine spread.append ?_ (by omega) (by omega)
      intro listed
      rcases List.mem_map.mp listed with ⟨other, member, same⟩
      exact new (List.any_eq_true.mpr ⟨other, member, decide_eq_true same⟩)

theorem Spread.addPoints (spread : Spread length points) (newPoints : List ChangePoint) :
    Spread length (newPoints.foldl (Divisive.addPoint length) points) := by
  induction newPoints generalizing points with
  | nil => exact spread
  | cons first rest ih => exact ih (spread.addPoint first)

theorem splitLoop_ok (test : TTest) {windowLength : Nat} (wide : 2 ≤ windowLength) (maxPvalue : ℚ)
    {fuel : Nat} (spread : Spread series.length points) (enough : series.length ≤ start + fuel) :
    Exists fun found =>
      splitLoop test windowLength maxPvalue series fuel start points = .ok found ∧
        Spread series.length found := by
  induction fuel generalizing start points with
  | zero =>
      unfold splitLoop
      rw [if_neg (by omega)]
      exact ⟨points, rfl, spread⟩
  | succ fuel ih =>
      unfold splitLoop
      split
      · rcases getChangePoints_ok test maxPvalue series start
          (min (start + windowLength) series.length) with ⟨newPoints, searched⟩
        dsimp only
        rw [searched]
        dsimp only [bind, Except.bind]
        exact ih (spread.addPoints newPoints) (by omega)
      · exact ⟨points, rfl, spread⟩

theorem split_ok (test : TTest) {windowLength : Nat} (wide : 2 ≤ windowLength) (maxPvalue : ℚ)
    (series : List ℚ) :
    Exists fun weak => split test series windowLength maxPvalue = .ok weak ∧
      Interior series.length (indicesOf weak) ∧
        forall point, point ∈ weak ->
          point.stats = test.statsAt series (indicesOf weak) point.index := by
  have beginning : Spread series.length [] := ⟨List.nodup_nil, (interior_nil _).inside⟩
  rcases splitLoop_ok test wide maxPvalue beginning (Nat.le_add_left series.length 0) with
    ⟨found, looped, spread⟩
  let points := Latest.sortBy ChangePoint.index found
  have interior : Interior series.length (indicesOf points) := spread.sortBy
  have refreshed : points.mapM (fun point => test.changePoint point.toCandidate series
      (getIntervals (indicesOf points))) =
        .ok (points.map (test.refresh series (indicesOf points))) := by
    refine Fallible.mapM_eq_ok.mpr (List.forall₂_map_right_iff.mpr ?_)
    refine List.forall₂_same.mpr fun point member => ?_
    exact changePoint_refresh interior (List.mem_map_of_mem member)
  have sameIndices : indicesOf (points.map (test.refresh series (indicesOf points))) =
      indicesOf points := by
    rw [indicesOf, List.map_map]
    rfl
  refine ⟨points.map (test.refresh series (indicesOf points)), ?_, ?_, ?_⟩
  · unfold split
    rw [looped]
    exact refreshed
  · rw [sameIndices]
    exact interior
  · intro point member
    rcases List.mem_map.mp member with ⟨original, _, same⟩
    rw [sameIndices, <- same]
    rfl

end Divisive
end ChangePoints
end Tropek
