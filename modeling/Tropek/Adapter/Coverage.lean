import Tropek.Adapter.Statistics
import Tropek.Engine.Totals

namespace Tropek
namespace Adapter

open Library Engine Registry Fallible

/-!
# Sample coverage

The metadata of an aggregated query compare the samples that arrived with the samples of a
single query over the window, for as many series as the widest chunk has.  Different chunks
may have different series, and chunks may fail.  The samples still never outnumber the
expectation, because the chunks never ask for more instants than a single query does,
whether or not they stay on its grid.
-/

/-- A series has at most one point for each instant that a range query is evaluated at. -/
def SeriesClient.OnePointPerInstant (client : SeriesClient) : Prop :=
  forall query start finish step seconds buckets, parseDurationSeconds step = .ok seconds ->
    client.rangeQuerySeries query start finish step = .series buckets ->
      forall bucket, bucket ∈ buckets -> bucket.length ≤ (instants seconds (start, finish)).length

theorem length_flatten_le {buckets : List (List Sample)} {bound : Nat}
    (each : forall bucket, bucket ∈ buckets -> bucket.length ≤ bound) :
    buckets.flatten.length ≤ buckets.length * bound := by
  induction buckets with
  | nil => simp
  | cons first rest ih =>
      have head := each first List.mem_cons_self
      have tail := ih fun bucket member => each bucket (List.mem_cons_of_mem _ member)
      rw [List.flatten_cons, List.length_append, List.length_cons, Nat.succ_mul]
      omega

theorem le_foldl_max (counts : List Nat) (start : Nat) :
    start ≤ counts.foldl max start ∧ forall count, count ∈ counts -> count ≤ counts.foldl max start := by
  induction counts generalizing start with
  | nil => simp
  | cons first rest ih =>
      rcases ih (max start first) with ⟨fromStart, fromRest⟩
      rw [List.foldl_cons]
      refine ⟨by omega, fun count member => ?_⟩
      rcases List.mem_cons.mp member with same | later
      · omega
      · exact fromRest count later

variable {result : Option (List (List Sample))} {results : List (Option (List (List Sample)))}
  {seconds : Seconds} {query step : String} {client : SeriesClient}

theorem seriesCount_ge (member : result ∈ results) :
    (result.getD []).length ≤ (gatherResults results).seriesCount :=
  (le_foldl_max _ 0).2 _ (List.mem_map_of_mem member)

section

variable (pointwise : client.OnePointPerInstant) (parsed : parseDurationSeconds step = .ok seconds)

include pointwise parsed

theorem chunk_length_le {window : Instant × Instant}
    (fetched : (client.rangeQuerySeries query window.1 window.2 step).result = .ok result) :
    (result.getD []).flatten.length ≤ (result.getD []).length * (instants seconds window).length := by
  cases answer : client.rangeQuerySeries query window.1 window.2 step with
  | series buckets =>
      rw [answer] at fetched
      cases fetched
      exact length_flatten_le (pointwise _ _ _ _ _ _ parsed answer)
  | queryError =>
      rw [answer] at fetched
      cases fetched
      exact Nat.zero_le _
  | raised message =>
      rw [answer] at fetched
      cases fetched

theorem values_length_le {windows : List (Instant × Instant)}
    (fetched : List.Forall₂ (fun window result => (client.rangeQuerySeries query window.1 window.2
      step).result = .ok result) windows results)
    {bound : Nat} (series : forall result, result ∈ results -> (result.getD []).length ≤ bound) :
    (gatherResults results).values.length ≤ bound * (windows.flatMap (instants seconds)).length := by
  unfold gatherResults
  dsimp only
  induction fetched with
  | nil => exact Nat.zero_le _
  | @cons window result others remaining first _ ih =>
      have front := chunk_length_le pointwise parsed first
      have atMost := Nat.mul_le_mul_right (instants seconds window).length
        (series result List.mem_cons_self)
      have back := ih fun result member => series result (List.mem_cons_of_mem _ member)
      rw [List.flatMap_cons, List.flatMap_cons, List.length_append, List.length_append, Nat.mul_add]
      omega

theorem fetched_le_expected {chunkSize : Seconds} {start finish : Instant} {fetched : Fetched}
    (fetches : fetchRange client chunkSize query start finish step = .ok fetched) :
    fetched.values.length ≤ pointsPerSeries seconds start finish * max 1 fetched.seriesCount := by
  rcases bind_eq_ok.mp fetches with ⟨_, sameParsed, fetches⟩
  rw [parsed] at sameParsed
  cases sameParsed
  rcases bind_eq_ok.mp fetches with ⟨windows, planned, fetches⟩
  rcases bind_eq_ok.mp fetches with ⟨results, asked, same⟩
  cases same
  have instantsOnce := queryWindows_length (orRaise_eq_ok.mp planned)
  have single : (instants seconds (start, finish)).length ≤ pointsPerSeries seconds start finish := by
    rw [length_instants]
    exact le_max_right _ _
  calc
    (gatherResults results).values.length
        ≤ (gatherResults results).seriesCount * (windows.flatMap (instants seconds)).length :=
          values_length_le pointwise parsed (mapM_eq_ok.mp asked)
            fun result member => seriesCount_ge member
    _ ≤ max 1 (gatherResults results).seriesCount * pointsPerSeries seconds start finish :=
          Nat.mul_le_mul (le_max_right _ _) (le_trans instantsOnce single)
    _ = pointsPerSeries seconds start finish * max 1 (gatherResults results).seriesCount :=
          Nat.mul_comm _ _

end

theorem roundOnePlace_mono {first second : ℚ} (below : first ≤ second) :
    roundOnePlace first ≤ roundOnePlace second := by
  have scaled : first * 10 ≤ second * 10 := by linarith
  have rounded : (roundHalfEven (first * 10) : ℚ) ≤ roundHalfEven (second * 10) := by
    exact_mod_cast roundHalfEven_mono scaled
  unfold roundOnePlace
  linarith

theorem missing_is_percentage {actual expected : Nat} (positive : 0 < expected)
    (atMost : actual ≤ expected) :
    0 ≤ roundOnePlace ((1 - (actual : ℚ) / expected) * 100) ∧
      roundOnePlace ((1 - (actual : ℚ) / expected) * 100) ≤ 100 := by
  have counted : (0 : ℚ) < expected := by exact_mod_cast positive
  have below : (actual : ℚ) / expected ≤ 1 := by
    rw [div_le_one counted]
    exact_mod_cast atMost
  have above : 0 ≤ (actual : ℚ) / expected := div_nonneg (Nat.cast_nonneg _) counted.le
  have zero : roundOnePlace 0 = 0 := by
    decide +kernel
  have hundred : roundOnePlace 100 = 100 := by
    decide +kernel
  constructor
  · rw [<- zero]
    exact roundOnePlace_mono (by linarith)
  · conv_rhs => rw [<- hundred]
    exact roundOnePlace_mono (by linarith)

theorem rangeMetadata_coverage {interval : Seconds} {start finish : Instant} {fetched : Fetched}
    (atMost : fetched.values.length ≤
      pointsPerSeries interval start finish * max 1 fetched.seriesCount) :
    let metadata := rangeMetadata interval start finish fetched
    metadata.actualSamples ≤ metadata.expectedSamples ∧
      0 ≤ metadata.missingPct ∧ metadata.missingPct ≤ 100 := by
  have counted : fetched.values.countP (fun sample => !sample.isNan) ≤
      pointsPerSeries interval start finish * max 1 fetched.seriesCount :=
    le_trans List.countP_le_length atMost
  have positive : 0 < pointsPerSeries interval start finish * max 1 fetched.seriesCount :=
    Nat.mul_pos (lt_of_lt_of_le Nat.one_pos (le_max_left _ _))
      (lt_of_lt_of_le Nat.one_pos (le_max_left _ _))
  exact ⟨counted, missing_is_percentage positive counted⟩

/-- The metadata of every aggregated query: the actual samples are at most the expected ones,
and the missing part is a percentage. -/
theorem coverage_is_percentage {np : NumPy} {client : SeriesClient} {chunkSize : Seconds}
    {sliName : String} {spec : SpecDict} {vars : Dict String} {start finish : Instant}
    {values : Dict (Option Sample)} {errors : Dict String} {metadata : QueryMetadata}
    (pointwise : client.OnePointPerInstant)
    (answered : executeSamples np client chunkSize sliName spec vars start finish =
      .answered values errors (some metadata)) :
    0 ≤ metadata.actualSamples ∧ metadata.actualSamples ≤ metadata.expectedSamples ∧
      0 ≤ metadata.missingPct ∧ metadata.missingPct ≤ 100 := by
  unfold executeSamples at answered
  split at answered
  · cases answered
  · rename_i template interval methods asked
    split at answered
    · cases answered
    · split at answered
      · cases answered
      · rename_i query substituted
        cases reported : fetchReport np client chunkSize query start finish interval with
        | error message =>
            rw [reported] at answered
            cases answered
        | ok report =>
            rw [reported] at answered
            cases answered
            rcases bind_eq_ok.mp reported with ⟨fetched, fetches, rest⟩
            rcases bind_eq_ok.mp rest with ⟨seconds, parsed, same⟩
            cases same
            exact ⟨Nat.zero_le _, rangeMetadata_coverage
              (fetched_le_expected pointwise parsed fetches)⟩

namespace Sampling

/-- Prometheus answers with a point at every instant, and NaN at the first one of a chunk.  The
second chunk fails, and the first one has two series. -/
def gridClient : SeriesClient :=
  { rangeQuerySeries := fun _ start finish step =>
      match parseDurationSeconds step with
      | .error _ => .queryError
      | .ok seconds =>
          let points := (instants seconds (start, finish)).map fun instant =>
            if instant = start then .nan else .finite 1
          if start = 180000000 then .queryError
          else .series (if start = 0 then [points, points] else [points]) }

theorem gridClient_onePointPerInstant : gridClient.OnePointPerInstant := by
  intro query start finish step seconds buckets parsed answer bucket member
  unfold gridClient at answer
  dsimp only at answer
  rw [parsed] at answer
  dsimp only at answer
  split at answer
  · cases answer
  · cases answer
    have isPoints : bucket = (instants seconds (start, finish)).map fun instant =>
        if instant = start then .nan else .finite 1 := by
      split at member <;> simpa using member
    rw [isPoints, List.length_map]

theorem gridClient_fetches :
    fetchRange gridClient ⟨120, by decide⟩ "errors / requests" 0 600000000 "1m" =
      .ok {
        values := [.nan, .finite 1, .finite 1, .nan, .finite 1, .finite 1, .nan, .finite 1,
          .finite 1, .nan, .finite 1]
        chunksFailed := 1
        seriesCount := 2 } :=
  toOption_eq_some.mp (by decide +kernel)

end Sampling

theorem coverage_of_ten_minutes :
    Exists fun values => Exists fun errors => Exists fun metadata =>
      executeSamples Sampling.numPy Sampling.gridClient ⟨120, by decide⟩ "ratio"
          (Sampling.spec [.mean]) ∅ 0 600000000 = .answered values errors (some metadata) ∧
        metadata.chunksFailed = 1 ∧
        0 ≤ metadata.actualSamples ∧ metadata.actualSamples ≤ metadata.expectedSamples ∧
          0 ≤ metadata.missingPct ∧ metadata.missingPct ≤ 100 := by
  have substituted : substitute "errors / requests" ∅ (some "1m") 0 600000000 =
      .ok "errors / requests" := by
    decide +kernel
  rcases executeSamples_fetched Sampling.numPy "ratio"
    (aggregatedSpec_received "errors / requests" "1m" [.mean]) (by decide) substituted
    Sampling.gridClient_fetches with ⟨seconds, _, answered⟩
  exact ⟨_, _, _, answered, rfl,
    coverage_is_percentage Sampling.gridClient_onePointPerInstant answered⟩

end Adapter
end Tropek
