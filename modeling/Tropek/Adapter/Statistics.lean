import Tropek.Adapter.Indicators
import Tropek.Adapter.RangeFetch

namespace Tropek
namespace Adapter

open Library Engine Registry

/-!
# Statistics of range samples

The aggregated strategy as the adapter runs it: it fetches the samples of a window, drops
the NaN values, and computes a statistic for each method of the spec.  Infinite samples are
kept, by the client and by the statistics.

The functions of NumPy are a parameter.  They are assumed to do what their documentation
says, in floating-point arithmetic without rounding.
-/

/-! ## NumPy -/

structure NumPy where
  min : List Sample -> Sample
  max : List Sample -> Sample
  mean : List Sample -> Sample
  sum : List Sample -> Sample
  std : List Sample -> Sample
  percentile : List Sample -> ℚ -> Sample

/-- The documented behaviour: `np.min` and `np.max` of an array without NaN are its least and
its greatest element, `np.sum` and `np.mean` are the sum and the average, `np.std` is a
square root of the mean square deviation, and `np.percentile` interpolates linearly between
the adjacent order statistics. -/
structure NumPy.Documented (np : NumPy) : Prop where
  min : forall array, array ≠ [] -> .nan ∉ array ->
    np.min array ∈ array ∧ forall sample, sample ∈ array -> (np.min array).rank ≤ sample.rank
  max : forall array, array ≠ [] -> .nan ∉ array ->
    np.max array ∈ array ∧ forall sample, sample ∈ array -> sample.rank ≤ (np.max array).rank
  mean : forall array, array ≠ [] -> np.mean array = Extended.average array
  sum : forall array, np.sum array = Extended.total array
  std : forall array, array ≠ [] -> ((np.std array).IsFinite ↔ (Extended.variance array).IsFinite)
  percentile : forall array percent, array ≠ [] -> .nan ∉ array ->
    np.percentile array percent = Extended.interpolate array percent

/-! ## compute_statistics -/

/-- `_PERCENTILE_MAP`. -/
def percentOf : AggregationMethod -> Option ℚ
  | .median => some 50
  | .p75 => some 75
  | .p90 => some 90
  | .p95 => some 95
  | .p99 => some 99
  | _ => none

/-- `_SIMPLE_DISPATCH`. -/
def NumPy.simple (np : NumPy) (clean : List Sample) : AggregationMethod -> Option Sample
  | .min => some (np.min clean)
  | .max => some (np.max clean)
  | .mean => some (np.mean clean)
  | .sum => some (np.sum clean)
  | .std => some (np.std clean)
  | _ => none

def cleanSamples (values : List Sample) : List Sample :=
  values.filter fun sample => !sample.isNan

def computeStatistics (np : NumPy) (values : List Sample) (method : AggregationMethod) :
    Option Sample :=
  let clean := cleanSamples values
  if clean = [] then none
  else
    match np.simple clean method with
    | some value => some value
    | none => (percentOf method).map (np.percentile clean)

/-! ## The aggregated strategy -/

/-- `round(value, 1)`. -/
def roundOnePlace (value : ℚ) : ℚ :=
  roundHalfEven (value * 10) / 10

/-- The number of points that a query over the whole window has for one series. -/
def pointsPerSeries (interval : Seconds) (start finish : Instant) : Nat :=
  max 1 ((finish - start) / interval.micros + 1).toNat

def rangeMetadata (interval : Seconds) (start finish : Instant) (fetched : Fetched) :
    QueryMetadata :=
  let expected := pointsPerSeries interval start finish * max 1 fetched.seriesCount
  let actual := fetched.values.countP fun sample => !sample.isNan
  { expectedSamples := expected
    actualSamples := actual
    missingPct := roundOnePlace ((1 - (actual : ℚ) / expected) * 100)
    chunksFailed := fetched.chunksFailed }

structure RangeReport where
  stats : AggregationMethod -> Option Sample
  metadata : QueryMetadata

def fetchReport (np : NumPy) (client : SeriesClient) (chunkSize : Seconds) (query : String)
    (start finish : Instant) (interval : String) : Except String RangeReport := do
  let fetched <- fetchRange client chunkSize query start finish interval
  let intervalSeconds <- parseDurationSeconds interval
  return { stats := computeStatistics np fetched.values
           metadata := rangeMetadata intervalSeconds start finish fetched }

inductive SampleOutcome where
  | answered (values : Dict (Option Sample)) (errors : Dict String)
      (metadata : Option QueryMetadata)
  | raised (message : String)

def failSamples (sliName : String) (methods : List AggregationMethod) (message : String) :
    SampleOutcome :=
  .answered (byMethod sliName methods fun _ => none) (byMethod sliName methods fun _ => message) none

def aggregateSamples (sliName : String) (methods : List AggregationMethod) :
    Except String RangeReport -> SampleOutcome
  | .error message => .raised message
  | .ok report =>
      .answered (byMethod sliName methods report.stats)
        (byMethod sliName (methods.filter fun method => (report.stats method).isNone) fun _ =>
          "no valid data points") (some report.metadata)

/-- `AggregatedQueryStrategy.execute`. -/
def executeSamples (np : NumPy) (client : SeriesClient) (chunkSize : Seconds) (sliName : String)
    (spec : SpecDict) (vars : Dict String) (start finish : Instant) : SampleOutcome :=
  match aggregatedSpec spec with
  | .error message => .raised message
  | .ok (queryTemplate, interval, methods) =>
      if finish ≤ start then failSamples sliName methods (invalidWindow start finish)
      else
        match substitute queryTemplate vars (some interval) start finish with
        | .error message => failSamples sliName methods message
        | .ok query =>
            aggregateSamples sliName methods
              (fetchReport np client chunkSize query start finish interval)

/-! ## Which statistics are finite -/

def AdjacentFinite (clean : List Sample) (percent : ℚ) : Prop :=
  (Extended.orderStatistic clean (Extended.lowerPlace clean percent)).IsFinite ∧
    (Extended.orderStatistic clean (Extended.upperPlace clean percent)).IsFinite

/-- When a statistic of samples without NaN is a number.  The sums and deviations need all
samples to be finite, the extremes only the ones at their end. -/
def FiniteStatistic (clean : List Sample) : AggregationMethod -> Prop
  | .min => (Exists fun sample => sample ∈ clean ∧ sample.IsFinite) ∧ .negInf ∉ clean
  | .max => (Exists fun sample => sample ∈ clean ∧ sample.IsFinite) ∧ .posInf ∉ clean
  | .mean | .sum | .std => forall sample, sample ∈ clean -> sample.IsFinite
  | .median => AdjacentFinite clean 50
  | .p75 => AdjacentFinite clean 75
  | .p90 => AdjacentFinite clean 90
  | .p95 => AdjacentFinite clean 95
  | .p99 => AdjacentFinite clean 99

theorem mem_cleanSamples {values : List Sample} {sample : Sample} :
    sample ∈ cleanSamples values ↔ sample ∈ values ∧ sample ≠ .nan := by
  unfold cleanSamples
  rw [List.mem_filter]
  cases sample <;> simp [Extended.isNan]

theorem nan_not_mem_clean (values : List Sample) : .nan ∉ cleanSamples values := by
  intro member
  exact (mem_cleanSamples.mp member).2 rfl

section Documented

variable {np : NumPy} (documented : np.Documented) {clean : List Sample} (nonempty : clean ≠ [])
  (noNan : Extended.nan ∉ clean)

include documented nonempty noNan

theorem min_isFinite : (np.min clean).IsFinite ↔ FiniteStatistic clean .min := by
  rcases documented.min clean nonempty noNan with ⟨member, least⟩
  constructor
  · intro isNumber
    refine ⟨⟨_, member, isNumber⟩, fun infinite => ?_⟩
    have below := le_bot_iff.mp (least .negInf infinite)
    cases found : np.min clean <;> rw [found] at isNumber below
    · cases below
    all_goals exact isNumber
  · rintro ⟨⟨sample, listed, isNumber⟩, noInfinity⟩
    have below := least sample listed
    cases found : np.min clean <;> rw [found] at member below
    · trivial
    · cases sample with
      | finite value => simp [Extended.rank] at below
      | _ => exact isNumber
    · exact noInfinity member
    · exact noNan member

theorem max_isFinite : (np.max clean).IsFinite ↔ FiniteStatistic clean .max := by
  rcases documented.max clean nonempty noNan with ⟨member, greatest⟩
  constructor
  · intro isNumber
    refine ⟨⟨_, member, isNumber⟩, fun infinite => ?_⟩
    have above := greatest .posInf infinite
    cases found : np.max clean <;> rw [found] at isNumber above
    · simp [Extended.rank] at above
    all_goals exact isNumber
  · rintro ⟨⟨sample, listed, isNumber⟩, noInfinity⟩
    have above := greatest sample listed
    cases found : np.max clean <;> rw [found] at member above
    · trivial
    · exact noInfinity member
    · cases sample with
      | finite value => simp [Extended.rank] at above
      | _ => exact isNumber
    · exact noNan member

theorem percentile_isFinite (percent : ℚ) :
    (np.percentile clean percent).IsFinite ↔ AdjacentFinite clean percent := by
  rw [documented.percentile clean percent nonempty noNan]
  exact Extended.isFinite_interpolate clean percent

end Documented

theorem computeStatistics_isFinite {np : NumPy} (documented : np.Documented)
    {values : List Sample} (nonempty : cleanSamples values ≠ []) (method : AggregationMethod) :
    Exists fun value => computeStatistics np values method = some value ∧
      (value.IsFinite ↔ FiniteStatistic (cleanSamples values) method) := by
  have noNan := nan_not_mem_clean values
  unfold computeStatistics
  dsimp only
  rw [if_neg nonempty]
  cases method with
  | min => exact ⟨_, rfl, min_isFinite documented nonempty noNan⟩
  | max => exact ⟨_, rfl, max_isFinite documented nonempty noNan⟩
  | mean =>
      refine ⟨_, rfl, ?_⟩
      rw [documented.mean _ nonempty]
      exact Extended.isFinite_average _
  | sum =>
      refine ⟨_, rfl, ?_⟩
      rw [documented.sum]
      exact Extended.isFinite_total _
  | std =>
      refine ⟨_, rfl, ?_⟩
      rw [documented.std _ nonempty]
      exact Extended.isFinite_variance _
  | median => exact ⟨_, rfl, percentile_isFinite documented nonempty noNan 50⟩
  | p75 => exact ⟨_, rfl, percentile_isFinite documented nonempty noNan 75⟩
  | p90 => exact ⟨_, rfl, percentile_isFinite documented nonempty noNan 90⟩
  | p95 => exact ⟨_, rfl, percentile_isFinite documented nonempty noNan 95⟩
  | p99 => exact ⟨_, rfl, percentile_isFinite documented nonempty noNan 99⟩

theorem finite_sample {clean : List Sample} (nonempty : clean ≠ []) {method : AggregationMethod}
    (isNumber : FiniteStatistic clean method) :
    Exists fun sample => sample ∈ clean ∧ sample.IsFinite := by
  have adjacent : forall percent, AdjacentFinite clean percent ->
      Exists fun sample => sample ∈ clean ∧ sample.IsFinite :=
    fun percent both => ⟨_, Extended.orderStatistic_mem both.1, both.1⟩
  have everywhere : (forall sample, sample ∈ clean -> sample.IsFinite) ->
      Exists fun sample => sample ∈ clean ∧ sample.IsFinite := by
    intro all
    rcases List.exists_mem_of_ne_nil clean nonempty with ⟨sample, member⟩
    exact ⟨sample, member, all sample member⟩
  cases method with
  | min => exact isNumber.1
  | max => exact isNumber.1
  | mean => exact everywhere isNumber
  | sum => exact everywhere isNumber
  | std => exact everywhere isNumber
  | median => exact adjacent 50 isNumber
  | p75 => exact adjacent 75 isNumber
  | p90 => exact adjacent 90 isNumber
  | p95 => exact adjacent 95 isNumber
  | p99 => exact adjacent 99 isNumber

/-! ## What is reported -/

theorem methodKey_injective (sliName : String) : Function.Injective (methodKey sliName) := by
  intro one other same
  have chars := congrArg String.toList same
  simp only [methodKey, String.toList_append] at chars
  have names : one.name = other.name := String.toList_injective (List.append_cancel_left chars)
  have parsed := congrArg parseMethod names
  rw [parseMethod_name, parseMethod_name] at parsed
  exact Option.some.inj parsed

theorem lookup_byMethod {α : Type} (sliName : String) (methods : List AggregationMethod)
    (valueOf : AggregationMethod -> α) (method : AggregationMethod) :
    (byMethod sliName methods valueOf).lookup (methodKey sliName method) =
      if method ∈ methods then some (valueOf method) else none := by
  have onto : forall dict : Dict α,
      (methods.foldl (fun dict method => dict.insert (methodKey sliName method) (valueOf method))
        dict).lookup (methodKey sliName method) =
        if method ∈ methods then some (valueOf method)
        else dict.lookup (methodKey sliName method) := by
    induction methods with
    | nil => simp
    | cons first rest ih =>
        intro dict
        rw [List.foldl_cons, ih]
        by_cases later : method ∈ rest
        · simp [later]
        · by_cases same : method = first
          · subst same
            simp [later]
          · have differ : methodKey sliName method ≠ methodKey sliName first :=
              fun keys => same (methodKey_injective sliName keys)
            rw [AList.lookup_insert_ne differ]
            simp [later, same]
  exact onto ∅

theorem method_of_lookup {α : Type} {sliName : String} {methods : List AggregationMethod}
    {valueOf : AggregationMethod -> α} {name : String} {value : α}
    (reported : (byMethod sliName methods valueOf).lookup name = some value) :
    Exists fun method => method ∈ methods ∧ valueOf method = value := by
  have named : name ∈ (byMethod sliName methods valueOf).keys :=
    AList.mem_keys.mp (AList.lookup_isSome.mp (by rw [reported]; rfl))
  rcases List.mem_map.mp ((mem_byMethod _ _ _ _).mp named) with ⟨method, asked, same⟩
  rw [<- same, lookup_byMethod, if_pos asked] at reported
  exact ⟨method, asked, Option.some.inj reported⟩

/-- Every value without an error is a number, and when no sample is a number, every method
has an error in place of a value. -/
structure FiniteReport (sliName : String) (methods : List AggregationMethod) (samples : List Sample)
    (values : Dict (Option Sample)) (errors : Dict String) : Prop where
  numbers : forall name value, values.lookup name = some (some value) -> errors.lookup name = none ->
    value.IsFinite
  missing : (forall sample, sample ∈ samples -> ¬ sample.IsFinite) -> forall method,
    method ∈ methods -> values.lookup (methodKey sliName method) = some none ∧
      methodKey sliName method ∈ errors

/-- No sample is left without NaN, or the statistic of each method is a number. -/
def FiniteWhen (methods : List AggregationMethod) (samples : List Sample) : Prop :=
  cleanSamples samples = [] ∨
    forall method, method ∈ methods -> FiniteStatistic (cleanSamples samples) method

section Reports

variable {np : NumPy} {samples : List Sample}

theorem report_empty (np : NumPy) (sliName : String) (methods : List AggregationMethod)
    (empty : cleanSamples samples = []) :
    FiniteReport sliName methods samples (byMethod sliName methods (computeStatistics np samples))
      (byMethod sliName (methods.filter fun method => (computeStatistics np samples method).isNone)
        fun _ => "no valid data points") := by
  have none : forall method, computeStatistics np samples method = none := by
    intro method
    unfold computeStatistics
    dsimp only
    exact if_pos empty
  constructor
  · intro name value reported _
    rcases method_of_lookup reported with ⟨method, _, computed⟩
    rw [none] at computed
    cases computed
  · intro _ method asked
    constructor
    · rw [lookup_byMethod, if_pos asked, none]
    · apply AList.mem_keys.mpr
      apply (mem_byMethod _ _ _ _).mpr
      refine List.mem_map_of_mem (List.mem_filter.mpr ⟨asked, ?_⟩)
      rw [none]
      rfl

theorem report_iff (documented : np.Documented) (sliName : String)
    (methods : List AggregationMethod) (nonempty : cleanSamples samples ≠ []) :
    FiniteReport sliName methods samples (byMethod sliName methods (computeStatistics np samples))
        (byMethod sliName
          (methods.filter fun method => (computeStatistics np samples method).isNone)
          fun _ => "no valid data points") ↔
      forall method, method ∈ methods -> FiniteStatistic (cleanSamples samples) method := by
  have measured := computeStatistics_isFinite documented nonempty
  have noErrors : (methods.filter fun method =>
      (computeStatistics np samples method).isNone) = [] := by
    refine List.filter_eq_nil_iff.mpr fun method _ => ?_
    rcases measured method with ⟨value, computed, _⟩
    rw [computed]
    exact Bool.false_ne_true
  rw [noErrors]
  constructor
  · intro reported method asked
    rcases measured method with ⟨value, computed, isNumber⟩
    refine isNumber.mp (reported.numbers (methodKey sliName method) value ?_ rfl)
    rw [lookup_byMethod, if_pos asked, computed]
  · intro all
    constructor
    · intro name value reported _
      rcases method_of_lookup reported with ⟨method, asked, hasValue⟩
      rcases measured method with ⟨computedValue, computed, isNumber⟩
      rw [computed] at hasValue
      cases hasValue
      exact isNumber.mpr (all method asked)
    · intro infinite method asked
      rcases finite_sample nonempty (all method asked) with ⟨sample, member, isNumber⟩
      exact absurd isNumber (infinite sample (mem_cleanSamples.mp member).1)

end Reports

theorem executeSamples_fetched (np : NumPy) {client : SeriesClient} {chunkSize : Seconds}
    {spec : SpecDict} {vars : Dict String} {start finish : Instant} {template interval : String}
    {methods : List AggregationMethod} {query : String} {fetched : Fetched} (sliName : String)
    (asked : aggregatedSpec spec = .ok (template, interval, methods)) (forward : start < finish)
    (substituted : substitute template vars (some interval) start finish = .ok query)
    (fetches : fetchRange client chunkSize query start finish interval = .ok fetched) :
    Exists fun seconds => parseDurationSeconds interval = .ok seconds ∧
      executeSamples np client chunkSize sliName spec vars start finish =
        .answered (byMethod sliName methods (computeStatistics np fetched.values))
          (byMethod sliName
            (methods.filter fun method => (computeStatistics np fetched.values method).isNone)
            fun _ => "no valid data points")
          (some (rangeMetadata seconds start finish fetched)) := by
  rcases Fallible.bind_eq_ok.mp fetches with ⟨seconds, parsed, _⟩
  refine ⟨seconds, parsed, ?_⟩
  have report : fetchReport np client chunkSize query start finish interval =
      .ok { stats := computeStatistics np fetched.values
            metadata := rangeMetadata seconds start finish fetched } := by
    unfold fetchReport
    rw [fetches, parsed]
    rfl
  unfold executeSamples
  rw [asked]
  dsimp only
  rw [if_neg (not_le.mpr forward), substituted]
  dsimp only
  rw [report]
  rfl

/-- An aggregated query reports finite metrics exactly when no sample without NaN is left or
the statistic of each method is a number. -/
theorem finite_metrics_iff {np : NumPy} (documented : np.Documented) (client : SeriesClient)
    (chunkSize : Seconds) (sliName : String) (spec : SpecDict) (vars : Dict String)
    (start finish : Instant) {template interval : String} {methods : List AggregationMethod}
    {query : String} {fetched : Fetched}
    (asked : aggregatedSpec spec = .ok (template, interval, methods)) (forward : start < finish)
    (substituted : substitute template vars (some interval) start finish = .ok query)
    (fetches : fetchRange client chunkSize query start finish interval = .ok fetched) :
    Exists fun values => Exists fun errors => Exists fun metadata =>
      executeSamples np client chunkSize sliName spec vars start finish =
          .answered values errors metadata ∧
        (FiniteReport sliName methods fetched.values values errors ↔
          FiniteWhen methods fetched.values) := by
  rcases executeSamples_fetched np sliName asked forward substituted fetches with
    ⟨seconds, _, answered⟩
  refine ⟨_, _, _, answered, ?_⟩
  unfold FiniteWhen
  by_cases empty : cleanSamples fetched.values = []
  · have reported := report_empty np sliName methods empty
    simp only [reported, empty, true_or]
  · rw [report_iff documented sliName methods empty]
    simp only [empty, false_or]

/-! ## The strategy with exact values -/

def Sample.number : Sample -> Option ℚ
  | .finite value => some value
  | _ => none

def rangeAnswer : Except String RangeReport -> RangeAnswer
  | .error message => .raised message
  | .ok report => .fetched (fun method => (report.stats method).bind Sample.number) report.metadata

inductive SameOutcome : SampleOutcome -> StrategyOutcome -> Prop where
  | raised (message : String) : SameOutcome (.raised message) (.raised message)
  | answered {values : Dict (Option Sample)} {numbers : Dict (Option ℚ)} (errors : Dict String)
      (metadata : Option QueryMetadata)
      (same : forall name, numbers.lookup name = (values.lookup name).map (·.bind Sample.number)) :
      SameOutcome (.answered values errors metadata) (.answered numbers errors metadata)

theorem lookup_byMethod_map {α β : Type} (sliName : String) (methods : List AggregationMethod)
    (valueOf : AggregationMethod -> α) (change : α -> β) (name : String) :
    (byMethod sliName methods fun method => change (valueOf method)).lookup name =
      ((byMethod sliName methods valueOf).lookup name).map change := by
  have onto : forall (changed : Dict β) (dict : Dict α),
      changed.lookup name = (dict.lookup name).map change ->
        (methods.foldl (fun dict method => dict.insert (methodKey sliName method)
            (change (valueOf method))) changed).lookup name =
          ((methods.foldl (fun dict method => dict.insert (methodKey sliName method)
            (valueOf method)) dict).lookup name).map change := by
    induction methods with
    | nil =>
        exact fun _ _ same => same
    | cons first rest ih =>
        intro changed dict same
        rw [List.foldl_cons, List.foldl_cons]
        apply ih
        by_cases isFirst : name = methodKey sliName first
        · rw [isFirst, AList.lookup_insert, AList.lookup_insert, Option.map_some]
        · rw [AList.lookup_insert_ne isFirst, AList.lookup_insert_ne isFirst, same]
  exact onto ∅ ∅ rfl

/-- Where all statistics are finite, the strategy over samples is the one with exact values
whose client fetches the chunks. -/
theorem executeSamples_sameOutcome {np : NumPy} {series : SeriesClient} {chunkSize : Seconds}
    {client : PrometheusClient} {sliName : String} {spec : SpecDict} {vars : Dict String}
    {start finish : Instant}
    (fetches : forall template interval methods query,
      aggregatedSpec spec = .ok (template, interval, methods) -> client.fetchRange query =
        rangeAnswer (fetchReport np series chunkSize query start finish interval))
    (finite : forall template interval methods query report,
      aggregatedSpec spec = .ok (template, interval, methods) ->
        fetchReport np series chunkSize query start finish interval = .ok report ->
          forall method, method ∈ methods -> forall sample, report.stats method = some sample ->
            sample.IsFinite) :
    SameOutcome (executeSamples np series chunkSize sliName spec vars start finish)
      (executeAggregated client sliName spec vars start finish) := by
  unfold executeSamples executeAggregated
  cases asked : aggregatedSpec spec with
  | error message =>
      exact .raised message
  | ok parts =>
      rcases parts with ⟨template, interval, methods⟩
      have failed (message : String) : SameOutcome (failSamples sliName methods message)
          (failAll sliName methods message) :=
        .answered _ none fun name => lookup_byMethod_map sliName methods (fun _ => none)
          (fun value : Option Sample => value.bind Sample.number) name
      dsimp only
      by_cases empty : finish ≤ start
      · rw [if_pos empty, if_pos empty]
        exact failed _
      · rw [if_neg empty, if_neg empty]
        cases substituted : substitute template vars (some interval) start finish with
        | error message =>
            exact failed message
        | ok query =>
            dsimp only
            rw [fetches template interval methods query asked]
            cases fetched : fetchReport np series chunkSize query start finish interval with
            | error message =>
                exact .raised message
            | ok report =>
                have missing : (methods.filter fun method =>
                    ((report.stats method).bind Sample.number).isNone) =
                    methods.filter fun method => (report.stats method).isNone := by
                  refine List.filter_congr fun method member => ?_
                  have isFinite := finite template interval methods query report asked fetched method
                    member
                  cases known : report.stats method with
                  | none =>
                      rfl
                  | some sample =>
                      cases sample with
                      | finite value =>
                          rfl
                      | _ =>
                          exact absurd (isFinite _ known) id
                unfold rangeAnswer aggregate aggregateSamples
                dsimp only
                rw [missing]
                exact .answered _ _ fun name =>
                  lookup_byMethod_map sliName methods report.stats (·.bind Sample.number) name

/-! ## An infinite ratio -/

namespace Sampling

def squareRoot : Sample -> Sample
  | .finite value => .finite (Nat.sqrt (value.num.toNat * value.den) / value.den)
  | .posInf => .posInf
  | _ => .nan

def numPy : NumPy :=
  { min := fun array => (Extended.sorted array).headD .nan
    max := fun array => (Extended.sorted array).getLastD .nan
    mean := Extended.average
    sum := Extended.total
    std := fun array => squareRoot (Extended.variance array)
    percentile := Extended.interpolate }

theorem numPy_documented : numPy.Documented := by
  have listed : forall {array : List Sample} {sample : Sample},
      sample ∈ Extended.sorted array ↔ sample ∈ array :=
    fun {array _} => (Latest.sortBy_perm Extended.rank array).mem_iff
  have filled : forall {array : List Sample}, array ≠ [] -> Extended.sorted array ≠ [] := by
    intro array nonempty empty
    rcases List.exists_mem_of_ne_nil array nonempty with ⟨sample, member⟩
    have inside := listed.mpr member
    rw [empty] at inside
    exact absurd inside List.not_mem_nil
  constructor
  · intro array nonempty _
    have ordered := Latest.sortBy_pairwise Extended.rank array
    change (Extended.sorted array).Pairwise _ at ordered
    show (Extended.sorted array).headD .nan ∈ array ∧ forall sample, sample ∈ array ->
      ((Extended.sorted array).headD .nan).rank ≤ sample.rank
    cases sorted : Extended.sorted array with
    | nil => exact absurd sorted (filled nonempty)
    | cons first rest =>
        rw [sorted] at ordered
        have isListed : first ∈ array := by
          apply listed.mp
          rw [sorted]
          exact List.mem_cons_self
        refine ⟨isListed, fun sample member => ?_⟩
        have inside := listed.mpr member
        rw [sorted] at inside
        rcases List.mem_cons.mp inside with same | later
        · exact le_of_eq (congrArg Extended.rank same.symm)
        · exact (List.pairwise_cons.mp ordered).1 sample later
  · intro array nonempty _
    have ordered := Latest.sortBy_pairwise Extended.rank array
    change (Extended.sorted array).Pairwise _ at ordered
    have last : (Extended.sorted array).getLastD .nan =
        (Extended.sorted array).getLast (filled nonempty) := by
      rw [List.getLastD_eq_getLast?, List.getLast?_eq_some_getLast (filled nonempty)]
      rfl
    show (Extended.sorted array).getLastD .nan ∈ array ∧ forall sample, sample ∈ array ->
      sample.rank ≤ ((Extended.sorted array).getLastD .nan).rank
    rw [last]
    refine ⟨listed.mp (List.getLast_mem _), fun sample member => ?_⟩
    have split := List.dropLast_append_getLast (filled nonempty)
    have inside := listed.mpr member
    rw [<- split] at inside ordered
    rcases List.mem_append.mp inside with earlier | same
    · exact (List.pairwise_append.mp ordered).2.2 sample earlier _ (List.mem_singleton_self _)
    · exact le_of_eq (congrArg Extended.rank (List.mem_singleton.mp same))
  · exact fun _ _ => rfl
  · exact fun _ => rfl
  · intro array _
    show (squareRoot (Extended.variance array)).IsFinite ↔ _
    cases Extended.variance array <;> simp [squareRoot, Extended.IsFinite]
  · exact fun _ _ _ _ => rfl

def client (samples : List Sample) : SeriesClient :=
  { rangeQuerySeries := fun _ _ _ _ => .series [samples] }

def spec (methods : List AggregationMethod) : SpecDict :=
  receivedSpec (.aggregated "errors / requests" (some "1m")
    (some (methods.map AggregationMethod.name)))

def fetched (samples : List Sample) : Fetched :=
  { values := samples, chunksFailed := 0, seriesCount := 1 }

theorem substituted : substitute "errors / requests" ∅ (some "1m") 0 60000000 =
    .ok "errors / requests" := by
  decide +kernel

theorem fetches (samples : List Sample) :
    fetchRange (client samples) ⟨14400, by decide⟩ "errors / requests" 0 60000000 "1m" =
      .ok (fetched samples) := by
  have parsed : parseDurationSeconds "1m" = .ok ⟨60, by decide⟩ := by
    decide +kernel
  unfold fetchRange
  rw [parsed]
  show Except.ok (gatherResults [some [samples]]) = _
  simp [gatherResults, fetched]

end Sampling

theorem finite_metrics_of_two_samples :
    Exists fun values => Exists fun errors => Exists fun metadata =>
      executeSamples Sampling.numPy (Sampling.client [.finite 1, .finite 5]) ⟨14400, by decide⟩
          "ratio" (Sampling.spec [.min, .std, .p99]) ∅ 0 60000000 =
        .answered values errors metadata ∧
      FiniteReport "ratio" [.min, .std, .p99] [.finite 1, .finite 5] values errors := by
  rcases finite_metrics_iff Sampling.numPy_documented (Sampling.client [.finite 1, .finite 5])
    ⟨14400, by decide⟩ "ratio" (Sampling.spec [.min, .std, .p99]) ∅ 0 60000000
    (aggregatedSpec_received "errors / requests" "1m" [.min, .std, .p99]) (by decide)
    Sampling.substituted (Sampling.fetches [.finite 1, .finite 5]) with
    ⟨values, errors, metadata, answered, finite⟩
  refine ⟨values, errors, metadata, answered, finite.mpr (Or.inr fun method asked => ?_)⟩
  have isFinite : forall sample, sample ∈ cleanSamples [.finite 1, .finite 5] -> sample.IsFinite := by
    intro sample member
    rcases List.mem_cons.mp (mem_cleanSamples.mp member).1 with rfl | later
    · exact trivial
    · rw [List.mem_singleton.mp later]
      exact trivial
  have members : cleanSamples [.finite 1, .finite 5] = [.finite 1, .finite 5] := rfl
  simp only [List.mem_cons, List.not_mem_nil, or_false] at asked
  rcases asked with rfl | rfl | rfl
  · exact ⟨⟨.finite 1, by decide, trivial⟩, by decide⟩
  · exact isFinite
  · exact ⟨by decide +kernel, by decide +kernel⟩

/-- A ratio whose denominator was zero once has an infinite mean, which is reported without
an error. -/
theorem infinite_mean_is_reported :
    ¬ forall (np : NumPy) (client : SeriesClient) (chunkSize : Seconds) (sliName : String)
        (spec : SpecDict) (vars : Dict String) (start finish : Instant) (template interval : String)
        (methods : List AggregationMethod) (query : String) (fetched : Fetched)
        (values : Dict (Option Sample)) (errors : Dict String) (metadata : Option QueryMetadata),
      np.Documented -> aggregatedSpec spec = .ok (template, interval, methods) -> start < finish ->
        substitute template vars (some interval) start finish = .ok query ->
          fetchRange client chunkSize query start finish interval = .ok fetched ->
            executeSamples np client chunkSize sliName spec vars start finish =
              .answered values errors metadata ->
                FiniteReport sliName methods fetched.values values errors := by
  intro claimed
  have asked := aggregatedSpec_received "errors / requests" "1m" [.mean]
  have fetches := Sampling.fetches [.finite 1, .posInf]
  rcases executeSamples_fetched Sampling.numPy "ratio" asked (by decide) Sampling.substituted fetches
    with ⟨_, _, answered⟩
  have reported := claimed _ _ _ _ _ _ _ _ _ _ _ _ _ _ _ _ Sampling.numPy_documented asked
    (by decide) Sampling.substituted fetches answered
  have mean : computeStatistics Sampling.numPy [.finite 1, .posInf] .mean = some .posInf := by
    decide +kernel
  refine reported.numbers (methodKey "ratio" .mean) .posInf ?_ ?_
  · rw [lookup_byMethod, if_pos List.mem_cons_self]
    exact congrArg some mean
  · have noErrors : ([AggregationMethod.mean].filter fun method =>
        (computeStatistics Sampling.numPy [.finite 1, .posInf] method).isNone) = [] := by
      decide +kernel
    show (byMethod "ratio" ([AggregationMethod.mean].filter fun method =>
      (computeStatistics Sampling.numPy [.finite 1, .posInf] method).isNone) _).lookup _ = none
    rw [noErrors]
    rfl

end Adapter
end Tropek
