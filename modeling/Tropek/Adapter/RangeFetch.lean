import Tropek.Adapter.Strategies
import Tropek.Engine.Criteria
import Tropek.Library.Extended
import Tropek.Library.Grid

namespace Tropek
namespace Adapter

open Library Engine

/-!
# Range queries in chunks

An aggregated query fetches the samples of its window with range queries.  A window that is
not longer than the chunk size is one query.  A longer one is cut into chunks, and each
chunk begins one step after the end of the one before.

Prometheus evaluates a range query at its start and at every step after it, up to and
including its end.  When the chunk size is a number of steps, the chunks together ask for
the instants of a single query.  Otherwise a chunk ends between two instants of the grid,
and the next one begins beside the grid.
-/

structure Seconds where
  value : Nat
  positive : 0 < value
deriving DecidableEq

def Seconds.micros (duration : Seconds) : Int :=
  duration.value * 1000000

/-- `_DURATION_MULTIPLIERS`. -/
def durationMultiplier : Char -> Option Nat
  | 's' => some 1
  | 'm' => some 60
  | 'h' => some 3600
  | 'd' => some 86400
  | _ => none

/-- The number and the multiplier in a match of `_DURATION_RE`, whose `$` also stands before
a final line break. -/
def matchDuration (duration : String) : Option (Nat × Nat) :=
  match takeDigits duration.toList with
  | (digit :: digits, unit :: rest) =>
      if rest = [] ∨ rest = ['\n'] then
        (durationMultiplier unit).map fun multiplier => (digitsValue (digit :: digits), multiplier)
      else none
  | _ => none

def parseDurationSeconds (duration : String) : Except String Seconds :=
  match matchDuration duration with
  | none => .error s!"ValueError: invalid duration format: {duration}"
  | some (number, multiplier) =>
      if positive : 0 < number * multiplier then .ok ⟨number * multiplier, positive⟩
      else .error s!"ValueError: duration must be greater than zero: {duration}"

example : (parseDurationSeconds "4h").toOption.map (·.value) = some 14400 ∧
    (parseDurationSeconds "0s").toOption = none := by
  decide +kernel

abbrev Sample := Extended

/-- What `range_query_series` returns, or which of its exceptions it raises. -/
inductive SeriesAnswer where
  | series (buckets : List (List Sample))
  | queryError
  | raised (message : String)

structure SeriesClient where
  rangeQuerySeries : (query : String) -> (start finish : Instant) -> (step : String) -> SeriesAnswer

/-- The `while` loop that cuts a window into chunks.  The fuel bounds its iterations. -/
def chunkLoop (chunkSize step : Seconds) (finish : Instant) :
    Nat -> Instant -> Option (List (Instant × Instant))
  | 0, chunkStart => if chunkStart ≤ finish then none else some []
  | fuel + 1, chunkStart =>
      if chunkStart ≤ finish then
        let chunkEnd := min (chunkStart + chunkSize.micros) finish
        (chunkLoop chunkSize step finish fuel (chunkEnd + step.micros)).map
          ((chunkStart, chunkEnd) :: ·)
      else some []

def queryWindows (chunkSize step : Seconds) (fuel : Nat) (start finish : Instant) :
    Option (List (Instant × Instant)) :=
  if finish - start ≤ chunkSize.micros then some [(start, finish)]
  else chunkLoop chunkSize step finish fuel start

/-- The samples of all series of all chunks, the number of failed chunks, and the largest
number of series in a chunk. -/
structure Fetched where
  values : List Sample
  chunksFailed : Nat
  seriesCount : Nat
deriving DecidableEq

def SeriesAnswer.result : SeriesAnswer -> Except String (Option (List (List Sample)))
  | .series buckets => .ok (some buckets)
  | .queryError => .ok none
  | .raised message => .error message

def gatherResults (results : List (Option (List (List Sample)))) : Fetched :=
  { values := results.flatMap fun result => (result.getD []).flatten
    chunksFailed := results.countP (·.isNone)
    seriesCount := (results.map fun result => (result.getD []).length).foldl max 0 }

def fetchRange (client : SeriesClient) (chunkSize : Seconds) (query : String)
    (start finish : Instant) (step : String) : Except String Fetched := do
  let stepSeconds <- parseDurationSeconds step
  let windows <- Fallible.orRaise "the loop over the chunks does not end"
    (queryWindows chunkSize stepSeconds ((finish - start).toNat + 1) start finish)
  let results <- windows.mapM fun window =>
    (client.rangeQuerySeries query window.1 window.2 step).result
  return gatherResults results

def instants (step : Seconds) (window : Instant × Instant) : List Instant :=
  Grid.points window.1 window.2 step.micros

theorem Seconds.micros_pos (duration : Seconds) : 0 < duration.micros := by
  have positive := duration.positive
  unfold Seconds.micros
  omega

section Loop

variable {chunkSize step : Seconds} {finish : Int}

variable {chunkStart : Int} {fuel : Nat} {windows : List (Int × Int)}

theorem chunkLoop_past (past : finish < chunkStart) (fuel : Nat) :
    chunkLoop chunkSize step finish fuel chunkStart = some [] := by
  cases fuel <;> exact if_neg (not_le.mpr past)

theorem chunkLoop_succ (inside : chunkStart ≤ finish) (fuel : Nat) :
    chunkLoop chunkSize step finish (fuel + 1) chunkStart =
      (chunkLoop chunkSize step finish fuel
        (min (chunkStart + chunkSize.micros) finish + step.micros)).map
          ((chunkStart, min (chunkStart + chunkSize.micros) finish) :: ·) :=
  if_pos inside

theorem chunkLoop_ends (chunkSize step : Seconds) (finish : Int) (bound : Nat) (chunkStart : Int)
    (remaining : finish - chunkStart < bound) :
    Exists fun windows => forall fuel, bound ≤ fuel ->
      chunkLoop chunkSize step finish fuel chunkStart = some windows := by
  induction bound generalizing chunkStart with
  | zero => exact ⟨[], fun fuel _ => chunkLoop_past (by omega) fuel⟩
  | succ bound ih =>
      by_cases inside : chunkStart ≤ finish
      · have chunkPositive := chunkSize.micros_pos
        have stepPositive := step.micros_pos
        rcases ih (min (chunkStart + chunkSize.micros) finish + step.micros)
          (by omega) with ⟨windows, ends⟩
        refine ⟨(chunkStart, min (chunkStart + chunkSize.micros) finish) :: windows, ?_⟩
        intro fuel enough
        cases fuel with
        | zero => omega
        | succ fuel =>
            rw [chunkLoop_succ inside, ends fuel (by omega)]
            rfl
      · exact ⟨[], fun fuel _ => chunkLoop_past (by omega) fuel⟩

theorem chunkLoop_cases (ended : chunkLoop chunkSize step finish fuel chunkStart = some windows) :
    (finish < chunkStart ∧ windows = []) ∨
      (chunkStart ≤ finish ∧ Exists fun less => Exists fun rest => fuel = less + 1 ∧
        windows = (chunkStart, min (chunkStart + chunkSize.micros) finish) :: rest ∧
        chunkLoop chunkSize step finish less
          (min (chunkStart + chunkSize.micros) finish + step.micros) = some rest) := by
  by_cases inside : chunkStart ≤ finish
  · cases fuel with
    | zero =>
        unfold chunkLoop at ended
        rw [if_pos inside] at ended
        cases ended
    | succ fuel =>
        rw [chunkLoop_succ inside] at ended
        rcases Option.map_eq_some_iff.mp ended with ⟨rest, continued, same⟩
        exact Or.inr ⟨inside, fuel, rest, rfl, same.symm, continued⟩
  · rw [chunkLoop_past (not_le.mp inside)] at ended
    cases ended
    exact Or.inl ⟨not_le.mp inside, rfl⟩

/-- When the chunk size is a number of steps, the chunks ask for the grid of the window. -/
theorem chunkLoop_aligned {number : Nat} (aligned : chunkSize.micros = number * step.micros)
    (ended : chunkLoop chunkSize step finish fuel chunkStart = some windows) :
    windows.flatMap (instants step) = instants step (chunkStart, finish) := by
  induction fuel generalizing chunkStart windows with
  | zero =>
      rcases chunkLoop_cases ended with ⟨past, rfl⟩ | ⟨_, less, _, impossible, _⟩
      · exact (Grid.points_eq_nil step.micros_pos past).symm
      · omega
  | succ fuel ih =>
      rcases chunkLoop_cases ended with ⟨past, rfl⟩ | ⟨inside, less, rest, same, rfl, continued⟩
      · exact (Grid.points_eq_nil step.micros_pos past).symm
      · obtain rfl : fuel = less := by omega
        rw [List.flatMap_cons, ih continued]
        by_cases whole : chunkStart + chunkSize.micros ≤ finish
        · rw [min_eq_left whole, aligned]
          rw [aligned] at whole
          have next : chunkStart + number * step.micros + step.micros =
              chunkStart + (number + 1) * step.micros := by
            ring
          rw [next]
          exact (Grid.points_split step.micros_pos number whole).symm
        · rw [min_eq_right (le_of_lt (not_le.mp whole))]
          have positive := step.micros_pos
          have nothing : instants step (finish + step.micros, finish) = [] :=
            Grid.points_eq_nil positive (by omega)
          rw [nothing, List.append_nil]

theorem chunkLoop_length (ended : chunkLoop chunkSize step finish fuel chunkStart = some windows) :
    (windows.flatMap (instants step)).length ≤ (instants step (chunkStart, finish)).length := by
  induction fuel generalizing chunkStart windows with
  | zero =>
      rcases chunkLoop_cases ended with ⟨_, rfl⟩ | ⟨_, less, _, impossible, _⟩
      · exact Nat.zero_le _
      · omega
  | succ fuel ih =>
      rcases chunkLoop_cases ended with ⟨_, rfl⟩ | ⟨inside, less, rest, same, rfl, continued⟩
      · exact Nat.zero_le _
      · obtain rfl : fuel = less := by omega
        have chunkPositive := chunkSize.micros_pos
        have shorter := ih continued
        have after : chunkStart ≤ min (chunkStart + chunkSize.micros) finish := by omega
        have together := Grid.length_add_le step.micros_pos after (min_le_right _ _) (le_refl _)
        rw [List.flatMap_cons, List.length_append]
        exact le_trans (Nat.add_le_add_left shorter _) together

end Loop

/-- The condition under which the chunks stay on the grid of the window: there is one chunk
only, or the chunk size is a number of steps, or no instant of the grid is left after the
first chunk. -/
def ChunksOnGrid (chunkSize step : Seconds) (start finish : Int) : Prop :=
  finish - start ≤ chunkSize.micros ∨ step.value ∣ chunkSize.value ∨
    (finish - start) / step.micros = chunkSize.micros / step.micros

instance (chunkSize step : Seconds) (start finish : Int) :
    Decidable (ChunksOnGrid chunkSize step start finish) :=
  inferInstanceAs (Decidable (_ ∨ _ ∨ _))

theorem queryWindows_ends (chunkSize step : Seconds) (start finish : Int) :
    Exists fun windows => forall fuel, (finish - start).toNat < fuel ->
      queryWindows chunkSize step fuel start finish = some windows := by
  unfold queryWindows
  split
  · exact ⟨_, fun _ _ => rfl⟩
  · rcases chunkLoop_ends chunkSize step finish ((finish - start).toNat + 1) start (by omega) with
      ⟨windows, ends⟩
    exact ⟨windows, fun fuel enough => ends fuel enough⟩

theorem queryWindows_length {chunkSize step : Seconds} {fuel : Nat} {start finish : Int}
    {windows : List (Int × Int)}
    (ended : queryWindows chunkSize step fuel start finish = some windows) :
    (windows.flatMap (instants step)).length ≤ (instants step (start, finish)).length := by
  unfold queryWindows at ended
  split at ended
  · cases ended
    simp
  · exact chunkLoop_length ended

section Chunks

variable {chunkSize step : Seconds} {fuel : Nat} {start finish : Int} {windows : List (Int × Int)}

/-- A chunk that begins beside the grid asks for an instant that a single query does not. -/
theorem second_chunk_off_grid (offGrid : ¬ step.value ∣ chunkSize.value)
    (second : start + chunkSize.micros + step.micros ≤ finish)
    (ended : chunkLoop chunkSize step finish fuel start = some windows) :
    ¬ (windows.flatMap (instants step)).Perm (instants step (start, finish)) := by
  intro same
  have chunkPositive := chunkSize.micros_pos
  have stepPositive := step.micros_pos
  have whole : min (start + chunkSize.micros) finish = start + chunkSize.micros := by omega
  rcases chunkLoop_cases ended with ⟨past, _⟩ | ⟨_, less, rest, _, rfl, continued⟩
  · omega
  · rw [whole] at continued same
    rcases chunkLoop_cases continued with ⟨past, _⟩ | ⟨_, _, others, _, rfl, _⟩
    · omega
    · let offset := start + chunkSize.micros + step.micros
      have asked : offset ∈ instants step (offset, min (offset + chunkSize.micros) finish) := by
        refine (Grid.mem_points stepPositive).mpr ⟨le_refl _, by omega, ?_⟩
        rw [sub_self]
        exact dvd_zero _
      have listed : offset ∈ instants step (start, finish) := by
        refine same.mem_iff.mp (List.mem_flatMap.mpr ⟨_, ?_, asked⟩)
        exact List.mem_cons_of_mem _ List.mem_cons_self
      have steps := ((Grid.mem_points stepPositive).mp listed).2.2
      have fromStart : offset - start = chunkSize.micros + step.micros := by
        show start + chunkSize.micros + step.micros - start = _
        ring
      rw [fromStart, dvd_add_self_right] at steps
      refine offGrid (Int.natCast_dvd_natCast.mp ?_)
      exact Int.dvd_of_mul_dvd_mul_right (by norm_num) steps

theorem single_chunk (inside : start ≤ finish)
    (long : chunkSize.micros < finish - start)
    (last : finish < start + chunkSize.micros + step.micros)
    (ended : chunkLoop chunkSize step finish fuel start = some windows) :
    windows.flatMap (instants step) = instants step (start, start + chunkSize.micros) := by
  have whole : min (start + chunkSize.micros) finish = start + chunkSize.micros := by omega
  rcases chunkLoop_cases ended with ⟨past, _⟩ | ⟨_, less, rest, _, rfl, continued⟩
  · omega
  · rw [whole] at continued
    rw [chunkLoop_past last] at continued
    cases continued
    rw [whole, List.flatMap_cons, List.flatMap_nil, List.append_nil]

theorem length_instants (first last : Int) :
    (instants step (first, last)).length = ((last - first) / step.micros + 1).toNat :=
  Grid.length_points

/-- A single full chunk asks for what a single query does when as many steps fit into it. -/
theorem single_chunk_iff (inside : start ≤ finish) (long : chunkSize.micros < finish - start)
    (last : finish < start + chunkSize.micros + step.micros)
    (ended : chunkLoop chunkSize step finish fuel start = some windows) :
    (windows.flatMap (instants step)).Perm (instants step (start, finish)) ↔
      (finish - start) / step.micros = chunkSize.micros / step.micros := by
  have cut : start + chunkSize.micros - start = chunkSize.micros := by ring
  rw [single_chunk inside long last ended]
  constructor
  · intro same
    have sameLength := same.length_eq
    rw [length_instants, length_instants, cut] at sameLength
    have forward := Int.ediv_nonneg chunkSize.micros_pos.le step.micros_pos.le
    have whole := Int.ediv_nonneg (show 0 ≤ finish - start by omega) step.micros_pos.le
    omega
  · intro sameSteps
    unfold instants Grid.points
    dsimp only
    rw [cut, sameSteps]

end Chunks

/-- The loop over the chunks ends.  Its queries ask for the instants of a single query over
the window, each of them once, exactly when the chunks stay on the grid. -/
theorem chunked_fetch_iff (chunkSize step : Seconds) (start finish : Instant)
    (forward : start < finish) :
    Exists fun windows =>
      (forall fuel, (finish - start).toNat < fuel ->
        queryWindows chunkSize step fuel start finish = some windows) ∧
      ((windows.flatMap (instants step)).Perm (instants step (start, finish)) ↔
        ChunksOnGrid chunkSize step start finish) := by
  rcases queryWindows_ends chunkSize step start finish with ⟨windows, ends⟩
  refine ⟨windows, ends, ?_⟩
  have planned := ends _ (Nat.lt_succ_self _)
  unfold queryWindows at planned
  unfold ChunksOnGrid
  by_cases short : finish - start ≤ chunkSize.micros
  · rw [if_pos short] at planned
    cases planned
    simp [short]
  · rw [if_neg short] at planned
    by_cases aligned : step.value ∣ chunkSize.value
    · rcases aligned with ⟨number, isMultiple⟩
      have inMicros : chunkSize.micros = number * step.micros := by
        unfold Seconds.micros
        rw [isMultiple]
        push_cast
        ring
      have same := chunkLoop_aligned inMicros planned
      have divides : step.value ∣ chunkSize.value := ⟨number, isMultiple⟩
      simp [same, divides]
    · by_cases second : start + chunkSize.micros + step.micros ≤ finish
      · have fewer : ¬ (finish - start) / step.micros = chunkSize.micros / step.micros := by
          have more : chunkSize.micros / step.micros + 1 ≤ (finish - start) / step.micros := by
            have full := Int.ediv_mul_le chunkSize.micros step.micros_pos.ne'
            apply (Int.le_ediv_iff_mul_le step.micros_pos).mpr
            rw [add_one_mul]
            linarith
          intro same
          rw [same] at more
          exact absurd more (not_le.mpr (lt_add_one _))
        have different := second_chunk_off_grid aligned second planned
        simp only [different, short, aligned, fewer, or_self]
      · have single := single_chunk_iff forward.le (not_le.mp short) (not_le.mp second) planned
        rw [single]
        simp only [short, aligned, false_or]

theorem chunked_fetch_of_an_hour :
    Exists fun windows =>
      (forall fuel, ((3600000000 : Instant) - 0).toNat < fuel ->
        queryWindows ⟨1200, by decide⟩ ⟨60, by decide⟩ fuel 0 3600000000 = some windows) ∧
      (windows.flatMap (instants ⟨60, by decide⟩)).Perm
        (instants ⟨60, by decide⟩ (0, 3600000000)) := by
  rcases chunked_fetch_iff ⟨1200, by decide⟩ ⟨60, by decide⟩ 0 3600000000 (by decide) with
    ⟨windows, ends, onGrid⟩
  exact ⟨windows, ends, onGrid.mpr (by decide)⟩

/-- Five hours in steps of seven minutes: the second chunk begins two minutes after an
instant of the grid. -/
theorem seven_minutes_leave_the_grid :
    ¬ forall (chunkSize step : Seconds) (start finish : Instant), start < finish ->
      Exists fun windows =>
        queryWindows chunkSize step ((finish - start).toNat + 1) start finish = some windows ∧
          (windows.flatMap (instants step)).Perm (instants step (start, finish)) := by
  intro claimed
  rcases claimed ⟨14400, by decide⟩ ⟨420, by decide⟩ 0 18000000000 (by decide) with
    ⟨windows, planned, same⟩
  have cut : queryWindows ⟨14400, by decide⟩ ⟨420, by decide⟩ ((18000000000 : Instant) - 0).toNat.succ
      0 18000000000 = some [(0, 14400000000), (14820000000, 18000000000)] := by
    decide +kernel
  rw [cut] at planned
  cases planned
  have outside : ¬ (14820000000 : Instant) ∈ instants ⟨420, by decide⟩ (0, 18000000000) := by
    decide +kernel
  refine outside (same.mem_iff.mp (List.mem_flatMap.mpr ⟨(14820000000, 18000000000), ?_, ?_⟩))
  · simp
  · decide +kernel

end Adapter
end Tropek
