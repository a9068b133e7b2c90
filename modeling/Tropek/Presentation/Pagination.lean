import Tropek.Presentation.EvaluationList

namespace Tropek
namespace Presentation

open Library Engine Store

/-!
# Pages of evaluations

The pages of the endpoint list every matching evaluation once, however the database
arranges evaluations of one period, exactly when no page ends inside such a group.  The
user interface shows the first evaluations of that list, and says truly whether some are
missing, exactly when the total, which counts runs, leads it to stop at the right page and
to compare on the right side of its limit.
-/

def pageCount (size length : Nat) : Nat :=
  (length + size - 1) / size

def allPages (size length : Nat) (pageOf : Nat -> Page) : List SLOEvaluation :=
  (List.range (pageCount size length)).flatMap fun number => (pageOf number).items

/-- Every page up to the last evaluation is served, and together they list every matching
evaluation once. -/
structure LosslessPages (tables : ListTables) (request : ListRequest) (size : Nat)
    (arrangeOf : Nat -> Arrangement) (matching : List SLOEvaluation) (pageOf : Nat -> Page) :
    Prop where
  served : forall number, number = 0 ∨ number * size < matching.length ->
    listEvaluations tables request size (number * size) (arrangeOf (number * size)) =
      .ok (pageOf number)
  once : (allPages size matching.length pageOf).Perm matching

/-- The user interface stops, shows the first evaluations of the list, and says whether some
are missing. -/
structure ShowsFirst (fetch : Nat -> Except ListError Page) (config : UIConfig)
    (matching listed : List SLOEvaluation) (shown : EvaluationList) : Prop where
  ends : forall fuel, matching.length < fuel -> fetchEvaluations fetch config fuel = some (.ok shown)
  first : shown.items = listed.take config.maxEvaluations
  truncated : shown.truncated = true ↔
    Exists fun evaluation => evaluation ∈ matching ∧ evaluation ∉ shown.items

def PaginatesLosslessly (tables : ListTables) (request : ListRequest) (config : UIConfig)
    (arrangeOf : Nat -> Arrangement) (matching : List SLOEvaluation) : Prop :=
  Exists fun pageOf =>
    LosslessPages tables request config.pageSize arrangeOf matching pageOf ∧
      Exists fun shown =>
        ShowsFirst
          (fun offset =>
            listEvaluations tables request config.pageSize offset (arrangeOf offset))
          config matching (allPages config.pageSize matching.length pageOf) shown

def PagesServed (size length : Nat) : Prop :=
  size ≤ 500 ∧ forall number, number * size < length -> number * size ≤ 1000000

/-- The evaluations in the pages that are fetched when the total is the number of runs. -/
def fetchedByTotal (size runs : Nat) : Nat :=
  max 1 ((runs + size - 1) / size) * size

/-- When there are more evaluations than may be shown, there are more runs as well.
Otherwise the pages for the runs contain all evaluations. -/
def TotalSuffices (config : UIConfig) (length runs : Nat) : Prop :=
  (config.maxEvaluations < length -> config.maxEvaluations < runs) ∧
    (length ≤ config.maxEvaluations -> length ≤ fetchedByTotal config.pageSize runs)

section Loop

variable {config : UIConfig} {rows : List SLOEvaluation} {answerOf : Nat -> List SLOEvaluation}

def StopsAfter (config : UIConfig) (length runs number : Nat) : Prop :=
  runs ≤ min ((number + 1) * config.pageSize) length ∨
    min config.pageSize (length - number * config.pageSize) < config.pageSize ∨
    config.maxEvaluations ≤ min ((number + 1) * config.pageSize) length

instance (config : UIConfig) (length runs number : Nat) :
    Decidable (StopsAfter config length runs number) :=
  inferInstanceAs (Decidable (_ ∨ _ ∨ _))

theorem stopsAfter_exists (config : UIConfig) (positive : 0 < config.pageSize)
    (length runs : Nat) : Exists fun number => StopsAfter config length runs number := by
  refine ⟨length / config.pageSize, Or.inr (Or.inl ?_)⟩
  have remainder := Nat.mod_lt length positive
  have split := Nat.div_add_mod length config.pageSize
  rw [Nat.mul_comm] at split
  omega

theorem fetchLoop_from (fetch : Nat -> Except ListError Page) {runs last : Nat}
    (answers : forall number, Paging.Answers SLOEvaluation.periodStart rows (answerOf number))
    (stops : StopsAfter config rows.length runs last)
    (goesOn : forall number, number < last -> ¬ StopsAfter config rows.length runs number)
    (served : forall number, number ≤ last -> fetch (number * config.pageSize) =
      .ok { items := Paging.page config.pageSize number (answerOf number), total := runs })
    {number fuel : Nat} (before : number ≤ last) (enough : last < number + fuel) :
    fetchLoop fetch config fuel (number * config.pageSize)
        (Paging.pages config.pageSize number answerOf) =
      some (.ok (Paging.pages config.pageSize (last + 1) answerOf, runs)) := by
  induction fuel generalizing number with
  | zero => omega
  | succ fuel ih =>
      have total := Paging.length_pages answers config.pageSize (number + 1)
      have single := Paging.length_page (answers number) config.pageSize number
      unfold fetchLoop
      rw [served number before]
      dsimp only
      rw [<- Paging.pages_succ, total, single]
      by_cases isLast : number = last
      · subst isLast
        rcases stops with byTotal | byPage | byLimit
        · rw [if_pos (Or.inl byTotal)]
        · rw [if_pos (Or.inr byPage)]
        · rw [if_pos byLimit]
          split <;> rfl
      · have further := goesOn number (by omega)
        rw [StopsAfter, not_or, not_or] at further
        rw [if_neg (not_or.mpr ⟨further.1, further.2.1⟩), if_neg further.2.2, <- Nat.succ_mul]
        exact ih (by omega) (by omega)

end Loop

section Stop

variable {config : UIConfig} {length runs last : Nat}

theorem pageCount_enough {size : Nat} (positive : 0 < size) (length : Nat) :
    length ≤ pageCount size length * size := by
  have split := Nat.div_add_mod (length + size - 1) size
  have remainder := Nat.mod_lt (length + size - 1) positive
  rw [Nat.mul_comm] at split
  unfold pageCount
  omega

theorem le_fetchedByTotal {size : Nat} (positive : 0 < size) (runs : Nat) :
    runs ≤ fetchedByTotal size runs ∧ size ≤ fetchedByTotal size runs := by
  have byRuns := Nat.mul_le_mul_right size (le_max_right 1 (pageCount size runs))
  have byOne := Nat.mul_le_mul_right size (le_max_left 1 (pageCount size runs))
  constructor
  · exact le_trans (pageCount_enough positive runs) byRuns
  · rwa [Nat.one_mul] at byOne

theorem fetchedByTotal_le {size : Nat} (positive : 0 < size) (few : runs ≤ (last + 1) * size) :
    fetchedByTotal size runs ≤ (last + 1) * size := by
  refine Nat.mul_le_mul_right size (max_le (Nat.succ_pos _) ?_)
  refine Nat.le_of_lt_succ ((Nat.div_lt_iff_lt_mul positive).mpr ?_)
  rw [Nat.succ_mul]
  omega

theorem le_fetchedByTotal_of_lt {size : Nat} (positive : 0 < size) (more : last * size < runs) :
    (last + 1) * size ≤ fetchedByTotal size runs := by
  refine Nat.mul_le_mul_right size (le_trans ?_ (le_max_right _ _))
  refine (Nat.le_div_iff_mul_le positive).mpr ?_
  rw [Nat.succ_mul]
  omega

theorem fetched_before (few : runs ≤ length)
    (goesOn : forall number, number < last -> ¬ StopsAfter config length runs number) {number : Nat}
    (notFirst : 0 < number) (atMost : number ≤ last) : number * config.pageSize < runs := by
  have further := goesOn (number - 1) (by omega)
  have same : number - 1 + 1 = number := by omega
  rw [StopsAfter, not_or, same] at further
  omega

/-- At the page after which the loop stops, enough is fetched and the comparison with the
total is right exactly when the total suffices. -/
theorem totalSuffices_iff (positive : 0 < config.pageSize) (few : runs ≤ length)
    (stops : StopsAfter config length runs last)
    (goesOn : forall number, number < last -> ¬ StopsAfter config length runs number) :
    (min config.maxEvaluations length ≤ (last + 1) * config.pageSize ∧
        (config.maxEvaluations < runs ↔
          min (min config.maxEvaluations ((last + 1) * config.pageSize)) length < length)) ↔
      TotalSuffices config length runs := by
  have fetched := le_fetchedByTotal positive runs
  have next : (last + 1) * config.pageSize = last * config.pageSize + config.pageSize :=
    Nat.succ_mul _ _
  have byTotal : runs ≤ (last + 1) * config.pageSize ->
      fetchedByTotal config.pageSize runs ≤ (last + 1) * config.pageSize :=
    fetchedByTotal_le positive
  have later : 0 < last ->
      (last + 1) * config.pageSize ≤ fetchedByTotal config.pageSize runs := by
    intro notFirst
    exact le_fetchedByTotal_of_lt positive (fetched_before few goesOn notFirst (le_refl last))
  have first : last = 0 -> (last + 1) * config.pageSize = config.pageSize := by
    intro none
    rw [none, Nat.zero_add, Nat.one_mul]
  unfold StopsAfter at stops
  unfold TotalSuffices
  omega

end Stop

/-- A beginning of a list without duplicates misses something exactly when it is shorter. -/
theorem missing_iff {matching listed : List SLOEvaluation} (perm : listed.Perm matching)
    (nodup : matching.Nodup) (count : Nat) :
    (Exists fun evaluation => evaluation ∈ matching ∧ evaluation ∉ listed.take count) ↔
      min count matching.length < matching.length := by
  have distinct := perm.nodup_iff.mpr nodup
  rw [<- List.take_append_drop count listed] at distinct
  rw [<- perm.length_eq]
  constructor
  · rintro ⟨evaluation, member, missing⟩
    by_contra whole
    rw [List.take_of_length_le (by omega)] at missing
    exact missing (perm.mem_iff.mpr member)
  · intro shorter
    have rest : listed.drop count ≠ [] := by
      rw [Ne, List.drop_eq_nil_iff]
      omega
    rcases List.exists_mem_of_ne_nil _ rest with ⟨evaluation, dropped⟩
    refine ⟨evaluation, perm.mem_iff.mp (List.mem_of_mem_drop dropped), fun taken => ?_⟩
    exact (List.nodup_append.mp distinct).2.2 evaluation taken evaluation dropped rfl

theorem take_eq_take_iff {listed : List SLOEvaluation} (limit fetched : Nat) :
    (listed.take fetched).take limit = listed.take limit ↔ min limit listed.length ≤ fetched := by
  rw [List.take_take]
  constructor
  · intro same
    have lengths := congrArg List.length same
    rw [List.length_take, List.length_take] at lengths
    omega
  · intro enough
    by_cases inside : limit ≤ fetched
    · rw [min_eq_left inside]
    · rw [List.take_of_length_le (by omega), List.take_of_length_le (by omega)]

section Served

variable {tables : ListTables} {request : ListRequest} {scope : ResolvedAssetScope}

theorem matchingEvaluations_nodup (tables : ListTables) (scope : ResolvedAssetScope)
    (request : ListRequest) : (matchingEvaluations tables scope request).Nodup :=
  (List.Nodup.of_map _ tables.evaluations.nodup).filter _

theorem distinctRuns_le (evaluations : List SLOEvaluation) :
    distinctRuns evaluations ≤ evaluations.length := by
  have shorter := (List.dedup_sublist (evaluations.map (·.evaluationId))).length_le
  rwa [List.length_map] at shorter

theorem listEvaluations_eq_ok (accepted : listScope tables request = .ok scope)
    {size offset : Nat} {arrange : Arrangement} {page : Page} :
    listEvaluations tables request size offset arrange = .ok page ↔
      (size ≤ 500 ∧ offset ≤ 1000000) ∧
        listWithCounts tables scope request size offset arrange = page := by
  unfold listEvaluations
  rw [accepted]
  by_cases outside : 500 < size ∨ 1000000 < offset
  · rw [if_pos outside]
    constructor
    · intro impossible
      cases impossible
    · rintro ⟨⟨_, _⟩, _⟩
      omega
  · rw [if_neg outside]
    constructor
    · intro answered
      exact ⟨by omega, Except.ok.inj answered⟩
    · rintro ⟨_, same⟩
      exact congrArg Except.ok same

theorem pageCount_inside {size : Nat} (positive : 0 < size) {length number : Nat}
    (below : number < pageCount size length) : number * size < length := by
  have atMost := (Nat.le_div_iff_mul_le positive).mp (show number + 1 ≤ pageCount size length from below)
  rw [Nat.succ_mul] at atMost
  omega

def answersOf (matching : List SLOEvaluation) (size : Nat) (arrangeOf : Nat -> Arrangement)
    (number : Nat) : List SLOEvaluation :=
  arrangeOf (number * size) matching

theorem allPages_eq {size : Nat} (positive : 0 < size) {arrangeOf : Nat -> Arrangement}
    {pageOf : Nat -> Page} (accepted : listScope tables request = .ok scope)
    (served : forall number, number = 0 ∨
      number * size < (matchingEvaluations tables scope request).length ->
        listEvaluations tables request size (number * size) (arrangeOf (number * size)) =
          .ok (pageOf number)) :
    let matching := matchingEvaluations tables scope request
    allPages size matching.length pageOf =
      Paging.pages size (pageCount size matching.length) (answersOf matching size arrangeOf) := by
  refine List.flatMap_congr fun number listed => ?_
  have inside := pageCount_inside positive (List.mem_range.mp listed)
  rw [<- ((listEvaluations_eq_ok accepted).mp (served number (Or.inr inside))).2]
  rfl

/-- Over pages that list every evaluation once, the user interface is right exactly when
the total suffices. -/
theorem showsFirst_iff {config : UIConfig} (positive : 0 < config.pageSize)
    {arrangeOf : Nat -> Arrangement} (sorts : forall offset, (arrangeOf offset).Sorts)
    {pageOf : Nat -> Page} (accepted : listScope tables request = .ok scope) :
    let matching := matchingEvaluations tables scope request
    LosslessPages tables request config.pageSize arrangeOf matching pageOf ->
      ((Exists fun shown => ShowsFirst
          (fun offset => listEvaluations tables request config.pageSize offset (arrangeOf offset))
          config matching (allPages config.pageSize matching.length pageOf) shown) ↔
        TotalSuffices config matching.length (distinctRuns matching)) := by
  intro matching lossless
  let runs := distinctRuns matching
  let answerOf := answersOf matching config.pageSize arrangeOf
  have answers : forall number, Paging.Answers SLOEvaluation.periodStart matching (answerOf number) :=
    fun number => sorts (number * config.pageSize) matching
  have few : runs ≤ matching.length := distinctRuns_le matching
  let last := Nat.find (stopsAfter_exists config positive matching.length runs)
  have stops : StopsAfter config matching.length runs last :=
    Nat.find_spec (stopsAfter_exists config positive matching.length runs)
  have goesOn : forall number, number < last ->
      ¬ StopsAfter config matching.length runs number :=
    fun number before => Nat.find_min (stopsAfter_exists config positive matching.length runs) before
  have served : forall number, number ≤ last ->
      listEvaluations tables request config.pageSize (number * config.pageSize)
          (arrangeOf (number * config.pageSize)) =
        .ok { items := Paging.page config.pageSize number (answerOf number), total := runs } := by
    intro number atMost
    have asked : number = 0 ∨ number * config.pageSize < matching.length := by
      by_cases first : number = 0
      · exact Or.inl first
      · have before := fetched_before few goesOn (Nat.pos_of_ne_zero first) atMost
        exact Or.inr (lt_of_lt_of_le before few)
    have answered := lossless.served number asked
    rw [answered, <- ((listEvaluations_eq_ok accepted).mp answered).2]
    rfl
  have early : last ≤ matching.length := by
    by_contra late
    have further := goesOn matching.length (not_le.mp late)
    rw [StopsAfter, not_or, not_or] at further
    have many := Nat.le_mul_of_pos_right matching.length positive
    omega
  let shown : EvaluationList :=
    { items := (Paging.pages config.pageSize (last + 1) answerOf).take config.maxEvaluations
      total := runs
      truncated := config.maxEvaluations < runs }
  have ends : forall fuel, matching.length < fuel -> fetchEvaluations
      (fun offset => listEvaluations tables request config.pageSize offset (arrangeOf offset))
      config fuel = some (.ok shown) := by
    intro fuel enough
    have looped := fetchLoop_from
      (fun offset => listEvaluations tables request config.pageSize offset (arrangeOf offset))
      answers stops goesOn served (Nat.zero_le last) (show last < 0 + fuel by omega)
    rw [Nat.zero_mul] at looped
    unfold fetchEvaluations
    exact congrArg (Option.map _) looped
  let count := pageCount config.pageSize matching.length
  have listed : allPages config.pageSize matching.length pageOf =
      Paging.pages config.pageSize count answerOf :=
    allPages_eq positive accepted lossless.served
  have beginning : Paging.pages config.pageSize (last + 1) answerOf =
      (allPages config.pageSize matching.length pageOf).take ((last + 1) * config.pageSize) := by
    have enough : matching.length ≤ count * config.pageSize :=
      pageCount_enough positive matching.length
    have all := Paging.pages_take answers config.pageSize (le_max_left count (last + 1))
    have lengths := Paging.length_pages answers config.pageSize (max count (last + 1))
    rw [List.take_of_length_le (by omega)] at all
    rw [listed, all]
    exact Paging.pages_take answers config.pageSize (le_max_right count (last + 1))
  rw [<- totalSuffices_iff positive few stops goesOn, <- lossless.once.length_eq,
    <- take_eq_take_iff, lossless.once.length_eq,
    <- missing_iff lossless.once (matchingEvaluations_nodup tables scope request),
    <- List.take_take, <- beginning]
  have isTruncated : shown.truncated = true ↔ config.maxEvaluations < runs := decide_eq_true_iff
  constructor
  · rintro ⟨other, showsFirst⟩
    have same := showsFirst.ends _ (Nat.lt_succ_self _)
    rw [ends _ (Nat.lt_succ_self _)] at same
    cases same
    exact ⟨showsFirst.first, isTruncated.symm.trans showsFirst.truncated⟩
  · rintro ⟨first, compared⟩
    exact ⟨shown, ends, first, isTruncated.trans compared⟩

end Served

/-- The pages list every matching evaluation once for every arrangement of equal periods,
and the user interface shows the first of them and says whether some are missing, exactly
when the pages are served, no group of equal periods lies across the end of a page, and the
number of runs suffices as a total. -/
theorem pagination_lossless_iff {tables : ListTables} {request : ListRequest}
    {scope : ResolvedAssetScope} (accepted : listScope tables request = .ok scope)
    {config : UIConfig} (positive : 0 < config.pageSize) :
    (forall arrangeOf : Nat -> Arrangement, (forall offset, (arrangeOf offset).Sorts) ->
        PaginatesLosslessly tables request config arrangeOf
          (matchingEvaluations tables scope request)) ↔
      PagesServed config.pageSize (matchingEvaluations tables scope request).length ∧
        Paging.CleanPages SLOEvaluation.periodStart (matchingEvaluations tables scope request)
          config.pageSize ∧
        TotalSuffices config (matchingEvaluations tables scope request).length
          (distinctRuns (matchingEvaluations tables scope request)) := by
  let matching := matchingEvaluations tables scope request
  have nodup := matchingEvaluations_nodup tables scope request
  have newest : forall _ : Nat, Arrangement.Sorts (Latest.newestFirst SLOEvaluation.periodStart) :=
    fun _ rows => Paging.answers_newestFirst rows
  constructor
  · intro paginates
    refine ⟨?_, ?_, ?_⟩
    · rcases paginates _ newest with ⟨pageOf, lossless, _⟩
      refine ⟨((listEvaluations_eq_ok accepted).mp (lossless.served 0 (Or.inl rfl))).1.1, ?_⟩
      intro number inside
      exact ((listEvaluations_eq_ok accepted).mp (lossless.served number (Or.inr inside))).1.2
    · refine Paging.clean_of_pages_perm nodup (pageCount_enough positive matching.length) ?_
      intro answerOf answers
      classical
      let arrangeOf (offset : Nat) : Arrangement := fun rows =>
        if rows = matching then answerOf (offset / config.pageSize)
        else Latest.newestFirst SLOEvaluation.periodStart rows
      have sorts : forall offset, (arrangeOf offset).Sorts := by
        intro offset rows
        show Paging.Answers _ rows (if rows = matching then _ else _)
        split
        · rename_i same
          exact same ▸ answers _
        · exact newest offset rows
      have answered : answersOf matching config.pageSize arrangeOf = answerOf := by
        funext number
        have same : answersOf matching config.pageSize arrangeOf number =
            answerOf (number * config.pageSize / config.pageSize) := if_pos rfl
        rw [same, Nat.mul_div_cancel _ positive]
      rcases paginates arrangeOf sorts with ⟨pageOf, lossless, _⟩
      have listed := allPages_eq positive accepted lossless.served
      dsimp only at listed
      rw [answered] at listed
      rw [<- listed]
      exact lossless.once
    · rcases paginates _ newest with ⟨pageOf, lossless, shows⟩
      exact (showsFirst_iff positive newest accepted lossless).mp shows
  · rintro ⟨inRange, clean, enoughRuns⟩ arrangeOf sorts
    let pageOf (number : Nat) : Page :=
      listWithCounts tables scope request config.pageSize (number * config.pageSize)
        (arrangeOf (number * config.pageSize))
    have served : forall number, number = 0 ∨ number * config.pageSize < matching.length ->
        listEvaluations tables request config.pageSize (number * config.pageSize)
          (arrangeOf (number * config.pageSize)) = .ok (pageOf number) := by
      intro number asked
      refine (listEvaluations_eq_ok accepted).mpr ⟨⟨inRange.1, ?_⟩, rfl⟩
      rcases asked with first | inside
      · rw [first, Nat.zero_mul]
        exact Nat.zero_le _
      · exact inRange.2 number inside
    have lossless : LosslessPages tables request config.pageSize arrangeOf matching pageOf := by
      refine ⟨served, ?_⟩
      rw [allPages_eq positive accepted served]
      exact Paging.pages_perm (fun number => sorts _ matching) clean
        (pageCount_enough positive matching.length)
    exact ⟨pageOf, lossless, (showsFirst_iff positive sorts accepted lossless).mpr enoughRuns⟩

namespace Listing

def evaluation (id run : Nat) (sloName : String) (hour : Int) : SLOEvaluation :=
  { id, evaluationId := run, evaluationName := "nightly", assetId := 1,
    periodStart := hour * 3600000000, periodEnd := (hour + 1) * 3600000000, sloName,
    status := .completed }

def listing (evaluations : KeyedTable SLOEvaluation.id) : ListTables :=
  { evaluations, runs := .empty, sloDefinitions := .empty, sliDefinitions := .empty
    dataSources := .empty, assets := .empty }

def tables : ListTables :=
  listing ⟨[evaluation 1 1 "latency" 1, evaluation 2 1 "errors" 1, evaluation 3 2 "latency" 2,
    evaluation 4 2 "errors" 2], by decide⟩

def threeRuns : ListTables :=
  listing ⟨[evaluation 1 1 "latency" 1, evaluation 2 1 "errors" 1, evaluation 3 2 "latency" 2,
    evaluation 4 3 "latency" 3], by decide⟩

end Listing

/-- The first page of two ends between two periods, and three runs ask for two pages. -/
theorem pages_of_three_runs :
    distinctRuns (matchingEvaluations Listing.threeRuns {} {}) = 3 ∧
      forall arrangeOf : Nat -> Arrangement, (forall offset, (arrangeOf offset).Sorts) ->
        PaginatesLosslessly Listing.threeRuns {} { pageSize := 2 } arrangeOf
          (matchingEvaluations Listing.threeRuns {} {}) := by
  have four : (matchingEvaluations Listing.threeRuns {} {}).length = 4 := by
    decide +kernel
  have times : (Latest.newestFirst SLOEvaluation.periodStart
      (matchingEvaluations Listing.threeRuns {} {})).map (·.periodStart) =
        [10800000000, 7200000000, 3600000000, 3600000000] := by
    decide +kernel
  have clean : Paging.CleanAt SLOEvaluation.periodStart
      (matchingEvaluations Listing.threeRuns {} {}) 2 := by
    intro before after isBefore isAfter
    have timeBefore := congrArg (fun all : List Int => all[1]?) times
    have timeAfter := congrArg (fun all : List Int => all[2]?) times
    simp only [List.getElem?_map, isBefore, isAfter, Option.map_some] at timeBefore timeAfter
    rw [Option.some.inj timeBefore, Option.some.inj timeAfter]
    decide
  have three : distinctRuns (matchingEvaluations Listing.threeRuns {} {}) = 3 := by
    decide +kernel
  refine ⟨three, (pagination_lossless_iff rfl (by decide)).mpr ⟨?_, ?_, ?_⟩⟩
  · rw [four]
    exact ⟨by decide, fun number inside => by omega⟩
  · intro number positive inside
    rw [four] at inside
    dsimp only at inside ⊢
    have isFirst : number = 1 := by
      omega
    rw [isFirst]
    exact clean
  · rw [four, three]
    exact ⟨fun many => absurd many (by decide), fun _ => by decide⟩

/-- With two evaluations on a page, the loop stops after the first page, because the total of
two runs is reached. -/
theorem total_of_runs_stops_early :
    ¬ forall (tables : ListTables) (request : ListRequest) (scope : ResolvedAssetScope)
        (config : UIConfig) (arrangeOf : Nat -> Arrangement),
      listScope tables request = .ok scope -> 0 < config.pageSize ->
        (forall offset, (arrangeOf offset).Sorts) ->
          PaginatesLosslessly tables request config arrangeOf
            (matchingEvaluations tables scope request) := by
  intro claimed
  rcases claimed Listing.tables {} {} { pageSize := 2 }
    (fun _ => Latest.newestFirst SLOEvaluation.periodStart) rfl (by decide)
    (fun _ rows => Paging.answers_newestFirst rows) with ⟨pageOf, lossless, shown, showsFirst⟩
  have fetched := showsFirst.ends 5 (by decide +kernel)
  have two : (fetchEvaluations (fun offset => listEvaluations Listing.tables {} 2 offset
      (Latest.newestFirst SLOEvaluation.periodStart)) { pageSize := 2 } 5).map
        (fun outcome => outcome.toOption.map (·.items.length)) = some (some 2) := by
    decide +kernel
  dsimp only at fetched
  rw [fetched] at two
  have shownLength : shown.items.length = 2 := by
    simpa [Except.toOption] using two
  have listedLength := lossless.once.length_eq
  have four : (matchingEvaluations Listing.tables {} {}).length = 4 := by
    decide +kernel
  have first := congrArg List.length showsFirst.first
  rw [shownLength, List.length_take, listedLength, four] at first
  exact absurd first (by decide)

end Presentation
end Tropek
