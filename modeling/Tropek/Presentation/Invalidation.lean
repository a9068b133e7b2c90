import Tropek.Library.CacheAside
import Tropek.Presentation.Fragments
import Tropek.ReEvaluation.Recorded

namespace Tropek
namespace Presentation

open Library Engine Store ReEvaluation TransitionSystem KeyedTable Fallible

/-!
# Invalidation after a re-evaluation

A re-evaluation commits its rows and then deletes the cached fragments of the
evaluations that it has scored and of their runs.  Meanwhile the endpoints of the
heatmap and of the trends look fragments up, build the missing ones from the
committed rows and write them to the cache.

Deleting after the commit keeps a reader that starts after the delete from finding an
old fragment.  It does not stop a reader that has read the rows before the commit and
writes its fragments after the delete.
-/

inductive CacheKey where
  | heatmapColumn (runId : Nat)
  | trendColumn (sloEvaluationId : Nat)
deriving DecidableEq

inductive Fragment where
  | heatmapColumn (fragment : HeatmapColumnFragment)
  | trendColumn (fragment : TrendColumnFragment)
deriving DecidableEq

inductive ReadRequest where
  | heatmap (request : HeatmapRequest)
  | trends (request : TrendRequest)

def CacheKey.runId : CacheKey -> Option Nat
  | .heatmapColumn runId => some runId
  | .trendColumn _ => none

def CacheKey.sloEvaluationId : CacheKey -> Option Nat
  | .heatmapColumn _ => none
  | .trendColumn sloEvaluationId => some sloEvaluationId

def ReadRequest.usesCache : ReadRequest -> Bool
  | .heatmap request => request.cache
  | .trends request => request.cache

def inventory (tables : Tables) : ReadRequest -> List CacheKey
  | .heatmap request =>
      (listRunsForHeatmap tables request).map fun run => .heatmapColumn run.id
  | .trends request => (listSloEvaluationIdsForTrend tables request).map .trendColumn

def buildFragments (tables : Tables) (request : ReadRequest) (missing : List CacheKey) :
    Option (List (CacheKey × Fragment)) :=
  match request with
  | .heatmap request => do
      let runs := getGroupedMetricHeatmap tables request.assetId (missing.filterMap CacheKey.runId)
      let fragments <- (runs.mapM fun run => buildColumnFragment tables run false).toOption
      return fragments.map fun fragment =>
        (.heatmapColumn fragment.evaluationRunId, .heatmapColumn fragment)
  | .trends request =>
      let fragments := getTrendFragmentRows tables request.assetId request.sloName
        (missing.filterMap CacheKey.sloEvaluationId)
      some (fragments.map fun fragment =>
        (.trendColumn fragment.sloEvaluationId, .trendColumn fragment))

def readers : CacheRace.Design Tables ReadRequest CacheKey Fragment where
  usesCache := ReadRequest.usesCache
  inventory := inventory
  build := buildFragments

def fragmentOf (tables : Tables) : CacheKey -> Option Fragment
  | .heatmapColumn runId => (columnFragment tables runId).map .heatmapColumn
  | .trendColumn sloEvaluationId => (trendFragment tables sloEvaluationId).map .trendColumn

structure PendingCacheInvalidations where
  heatmapEvaluationIds : List Nat := []
  trendEvaluationIds : List Nat := []

def PendingCacheInvalidations.record (pending : PendingCacheInvalidations)
    (evaluation : SLOEvaluation) : PendingCacheInvalidations :=
  { heatmapEvaluationIds := evaluation.evaluationId :: pending.heatmapEvaluationIds
    trendEvaluationIds := evaluation.id :: pending.trendEvaluationIds }

/-- What is pending after a request has scored the evaluations of its response.  A dry
run records nothing. -/
def pendingInvalidations (request : ReEvaluateRequest) (db : Database)
    (results : List ReEvalResultItem) : PendingCacheInvalidations :=
  if request.dryRun then {}
  else
    (results.filterMap fun item => db.evaluations.find item.id).foldl
      PendingCacheInvalidations.record {}

def PendingCacheInvalidations.flush (pending : PendingCacheInvalidations) : List (List CacheKey) :=
  [pending.heatmapEvaluationIds.map .heatmapColumn,
    pending.trendEvaluationIds.map .trendColumn].filter (· ≠ [])

def Tables.committed (tables : Tables) (last : Database) : Tables :=
  { tables with toDatabase := last }

abbrev RaceAction :=
  CacheRace.Action ReadRequest

abbrev Race :=
  CacheRace.Race Tables ReadRequest CacheKey Fragment

/-- The re-evaluation before its commit, with the response that it is about to give. -/
def raceStart (tables : Tables) (cache : Cache CacheKey Fragment) (request : ReEvaluateRequest)
    (results : List ReEvalResultItem) : Race :=
  CacheRace.start tables cache (pendingInvalidations request tables.toDatabase results).flush

/-- The readers of heatmaps and trends beside a re-evaluation that commits and then
deletes the fragments of what it has scored. -/
def raceStep (tables : Tables) (last : Database) : Race -> RaceAction -> Option Race :=
  CacheRace.step readers (tables.committed last)

def Touched (request : ReEvaluateRequest) (db : Database) (results : List ReEvalResultItem)
    (key : CacheKey) : Prop :=
  request.dryRun = false ∧ Exists fun item => item ∈ results ∧
    Exists fun evaluation => db.evaluations.find item.id = some evaluation ∧
      (key = .heatmapColumn evaluation.evaluationId ∨ key = .trendColumn evaluation.id)

theorem record_foldl (rows : List SLOEvaluation) (pending : PendingCacheInvalidations) :
    (rows.foldl PendingCacheInvalidations.record pending).heatmapEvaluationIds =
        (rows.map (·.evaluationId)).reverse ++ pending.heatmapEvaluationIds ∧
      (rows.foldl PendingCacheInvalidations.record pending).trendEvaluationIds =
        (rows.map (·.id)).reverse ++ pending.trendEvaluationIds := by
  induction rows generalizing pending with
  | nil => exact ⟨rfl, rfl⟩
  | cons row rest ih =>
      rcases ih (pending.record row) with ⟨heatmap, trend⟩
      rw [List.foldl_cons, heatmap, trend, List.map_cons, List.map_cons, List.reverse_cons,
        List.reverse_cons, List.append_assoc, List.append_assoc]
      exact ⟨rfl, rfl⟩

theorem mem_flush {pending : PendingCacheInvalidations} {key : CacheKey} :
    key ∈ pending.flush.flatten ↔
      (Exists fun id => id ∈ pending.heatmapEvaluationIds ∧ key = .heatmapColumn id) ∨
        (Exists fun id => id ∈ pending.trendEvaluationIds ∧ key = .trendColumn id) := by
  have all : pending.flush.flatten = pending.heatmapEvaluationIds.map CacheKey.heatmapColumn ++
      pending.trendEvaluationIds.map CacheKey.trendColumn := by
    unfold PendingCacheInvalidations.flush
    rw [List.flatten_filter_ne_nil, List.flatten_cons, List.flatten_cons, List.flatten_nil,
      List.append_nil]
  rw [all, List.mem_append, List.mem_map, List.mem_map]
  simp only [eq_comm]

theorem mem_flush_pendingInvalidations {request : ReEvaluateRequest} {db : Database}
    {results : List ReEvalResultItem} {key : CacheKey} :
    key ∈ (pendingInvalidations request db results).flush.flatten ↔
      Touched request db results key := by
  unfold pendingInvalidations Touched
  cases request.dryRun with
  | true =>
      constructor
      · intro impossible
        exact absurd impossible List.not_mem_nil
      · intro impossible
        cases impossible.1
  | false =>
      rw [if_neg Bool.false_ne_true, mem_flush, (record_foldl _ _).1, (record_foldl _ _).2]
      simp only [List.append_nil, List.mem_reverse, List.mem_map, List.mem_filterMap]
      constructor
      · rintro (⟨id, ⟨evaluation, ⟨item, member, found⟩, same⟩, isKey⟩ |
          ⟨id, ⟨evaluation, ⟨item, member, found⟩, same⟩, isKey⟩)
        · exact ⟨trivial, item, member, evaluation, found, Or.inl (same ▸ isKey)⟩
        · exact ⟨trivial, item, member, evaluation, found, Or.inr (same ▸ isKey)⟩
      · rintro ⟨_, item, member, evaluation, found, isKey | isKey⟩
        · exact Or.inl ⟨_, ⟨evaluation, ⟨item, member, found⟩, rfl⟩, isKey⟩
        · exact Or.inr ⟨_, ⟨evaluation, ⟨item, member, found⟩, rfl⟩, isKey⟩

theorem mem_trendIds {tables : Tables} {request : TrendRequest} {id : Nat}
    (listed : id ∈ listSloEvaluationIdsForTrend tables request) :
    Exists fun row => tables.evaluations.find id = some row ∧ row.sloName = request.sloName := by
  rcases List.mem_map.mp listed with ⟨row, member, same⟩
  have selected := List.mem_filter.mp ((Latest.mem_oldestFirst SLOEvaluation.periodStart).mp member)
  simp only [Bool.and_eq_true, decide_eq_true_eq] at selected
  rw [<- same]
  exact ⟨row, find_of_mem selected.1, selected.2.1.1.1.1.2⟩

section

variable {tables : Tables} {last : Database}
  (history : List.Forall₂ SLOEvaluation.SameHistory tables.evaluations.rows last.evaluations.rows)

include history

theorem version_sloName (committed : Bool) {id : Nat} {row : SLOEvaluation}
    (found : (CacheRace.version tables (tables.committed last) committed).evaluations.find id =
      some row) :
    Exists fun original => tables.evaluations.find id = some original ∧
      row.sloName = original.sloName := by
  cases committed with
  | false => exact ⟨row, found, rfl⟩
  | true =>
      rcases find_related (fun _ _ same => same.id.symm) history.flip found with
        ⟨original, stored, same⟩
      exact ⟨original, stored, same.sloName⟩

/-- Readers build the fragments of the keys that they have listed, whichever version
they have listed them from and read. -/
theorem buildsRendered :
    CacheRace.BuildsRendered readers fragmentOf tables (tables.committed last) := by
  intro listed read request missing entries inside built entry member
  cases request with
  | heatmap request =>
      rcases Option.bind_eq_some_iff.mp built with ⟨fragments, mapped, same⟩
      cases same
      rcases List.mem_map.mp member with ⟨fragment, isBuilt, isEntry⟩
      rcases mem_related
          (mapM_eq_ok.mp (toOption_eq_some.mp mapped)).flip isBuilt with
        ⟨run, isRun, column⟩
      rw [<- isEntry]
      exact congrArg (Option.map Fragment.heatmapColumn) (columnFragment_of_build isRun column).1
  | trends request =>
      cases built
      rcases List.mem_map.mp member with ⟨fragment, isBuilt, isEntry⟩
      rcases getTrendFragmentRows_eq isBuilt with ⟨asked, ⟨evaluation, found, asset⟩, build⟩
      rcases List.mem_filterMap.mp asked with ⟨key, isMissing, isKey⟩
      have trended : fragment.sloEvaluationId ∈ listSloEvaluationIdsForTrend
          (CacheRace.version tables (tables.committed last) listed) request := by
        rcases List.mem_map.mp (inside key isMissing) with ⟨id, member, same⟩
        rw [<- same] at isKey
        exact Option.some.inj isKey ▸ member
      rcases mem_trendIds trended with ⟨row, stored, rowSlo⟩
      rcases version_sloName history read found with ⟨original, first, nowSlo⟩
      rcases version_sloName history listed stored with ⟨other, second, thenSlo⟩
      have sameSlo : evaluation.sloName = request.sloName := by
        cases Option.some.inj (first.symm.trans second)
        rw [nowSlo, <- thenSlo, rowSlo]
      have alone : trendFragment (CacheRace.version tables (tables.committed last) read)
          fragment.sloEvaluationId = some fragment := by
        unfold trendFragment
        rw [found, Option.bind_some, asset, sameSlo]
        exact build
      rw [<- isEntry]
      exact congrArg (Option.map Fragment.trendColumn) alone

end

/-- While a re-evaluation commits and deletes, and any number of heatmap and trend
reads list, look up, build and write, a deleted fragment never comes back stale exactly
if each reader that writes one after its delete has read the rows after the commit,
unless the re-evaluation has not changed that fragment.  Once the deletes are sent this
is so for every fragment of the scored evaluations and of their runs. -/
theorem reEvaluation_race_fresh {assigned : Nat -> List String} {clock : Nat -> Instant}
    {tables : Tables} {last : Database} {request : ReEvaluateRequest} {response : ReEvaluateResponse}
    {cache : Cache CacheKey Fragment} {actions : List RaceAction} {final : Race}
    (ran : reEvaluate assigned clock tables.toDatabase request = .ok (last, response))
    (raced : exec (raceStep tables last) (raceStart tables cache request response.results) actions =
      some final) :
    (Always (raceStep tables last) (CacheRace.Fresh fragmentOf)
        (raceStart tables cache request response.results) actions ↔
      Along (raceStep tables last)
        (CacheRace.WritesCurrent readers fragmentOf tables (tables.committed last))
        (raceStart tables cache request response.results) actions) ∧
    (Along (raceStep tables last)
        (CacheRace.WritesCurrent readers fragmentOf tables (tables.committed last))
        (raceStart tables cache request response.results) actions ->
      final.pending = [] -> forall key fragment,
        Touched request tables.toDatabase response.results key ->
          final.cache key = some fragment -> fragmentOf final.store key = some fragment) := by
  have history : List.Forall₂ SLOEvaluation.SameHistory tables.evaluations.rows
      last.evaluations.rows := (reEvaluate_rewrites ran).2.imp fun _ _ rewrites => rewrites.history
  have renders := buildsRendered history
  refine ⟨CacheRace.always_fresh_iff renders raced, fun current finished key fragment touched => ?_⟩
  exact CacheRace.fresh_of_finished renders raced current finished
    (mem_flush_pendingInvalidations.mpr touched)

namespace Sample

def ledgerTables (db : Database) : Tables :=
  { toDatabase := db, sliValues := [{ sloEvaluationId := 30, metricName := "lag", value := 40 }] }

def ledgerTrends : ReadRequest :=
  .trends { assetId := 6, sloName := "ledger", fromTs := 0 }

/-- A race between a trend read and the re-evaluation against the third version, which
has another criterion. -/
def ledgerRace (actions : List RaceAction) : Option (Tables × (Database × ReEvaluateResponse) × Race) :=
  ReEvaluation.Sample.ledgerScored.bind fun db =>
    (reEvaluate (fun _ => []) (fun _ => 0) db
        (ReEvaluation.Sample.ledgerRequest 3)).toOption.bind fun outcome =>
      (exec (raceStep (ledgerTables db) outcome.1)
          (raceStart (ledgerTables db) (fun _ => none) (ReEvaluation.Sample.ledgerRequest 3)
            outcome.2.results) actions).map fun final => (ledgerTables db, outcome, final)

theorem ledgerRace_eq_some {actions : List RaceAction} {tables : Tables} {last : Database}
    {response : ReEvaluateResponse} {final : Race}
    (ran : ledgerRace actions = some (tables, (last, response), final)) :
    reEvaluate (fun _ => []) (fun _ => 0) tables.toDatabase (ReEvaluation.Sample.ledgerRequest 3) =
        .ok (last, response) ∧
      exec (raceStep tables last)
        (raceStart tables (fun _ => none) (ReEvaluation.Sample.ledgerRequest 3) response.results)
        actions = some final := by
  unfold ledgerRace at ran
  rw [Option.bind_eq_some_iff] at ran
  rcases ran with ⟨db, _, ran⟩
  rw [Option.bind_eq_some_iff] at ran
  rcases ran with ⟨outcome, succeeded, ran⟩
  rw [Option.map_eq_some_iff] at ran
  rcases ran with ⟨ended, raced, same⟩
  cases same
  exact ⟨toOption_eq_some.mp succeeded, raced⟩

def readsRows : List RaceAction :=
  [.start 1 ledgerTrends, .advance 1, .advance 1, .advance 1]

def commitsAndDeletes : List RaceAction :=
  [.commit, .delete, .delete]

end Sample

/-- A reader that comes after the commit writes the new fragment. -/
theorem late_reader_fresh :
    Exists fun tables => Exists fun last => Exists fun response => Exists fun final =>
      Exists fun fragment =>
        reEvaluate (fun _ => []) (fun _ => 0) tables.toDatabase
            (ReEvaluation.Sample.ledgerRequest 3) = .ok (last, response) ∧
          exec (raceStep tables last)
            (raceStart tables (fun _ => none) (ReEvaluation.Sample.ledgerRequest 3) response.results)
            (Sample.commitsAndDeletes ++ Sample.readsRows ++ [.advance 1]) = some final ∧
          final.cache (.trendColumn 30) = some fragment ∧
          fragmentOf final.store (.trendColumn 30) = some fragment := by
  have ran : ((Sample.ledgerRace
      (Sample.commitsAndDeletes ++ Sample.readsRows ++ [.advance 1])).bind fun found =>
        (found.2.2.cache (.trendColumn 30)).map fun _ =>
          decide (Along (raceStep found.1 found.2.1.1)
              (CacheRace.WritesCurrent readers fragmentOf found.1 (found.1.committed found.2.1.1))
              (raceStart found.1 (fun _ => none) (ReEvaluation.Sample.ledgerRequest 3)
                found.2.1.2.results)
              (Sample.commitsAndDeletes ++ Sample.readsRows ++ [.advance 1]) ∧
            found.2.2.pending = [] ∧ 30 ∈ found.2.1.2.results.map (·.id) ∧
            (found.1.evaluations.find 30).map (·.id) = some 30)) = some true := by
    decide +kernel
  rw [Option.bind_eq_some_iff] at ran
  rcases ran with ⟨⟨tables, ⟨last, response⟩, final⟩, isRace, ran⟩
  rw [Option.map_eq_some_iff] at ran
  rcases ran with ⟨fragment, cached, facts⟩
  rcases of_decide_eq_true facts with ⟨current, finished, reported, stored⟩
  rcases Sample.ledgerRace_eq_some isRace with ⟨succeeded, raced⟩
  rcases List.mem_map.mp reported with ⟨item, member, isItem⟩
  rcases Option.map_eq_some_iff.mp stored with ⟨evaluation, found, isEvaluation⟩
  have touched : Touched (ReEvaluation.Sample.ledgerRequest 3) tables.toDatabase response.results
      (.trendColumn 30) :=
    ⟨rfl, item, member, evaluation, isItem ▸ found, Or.inr (congrArg _ isEvaluation.symm)⟩
  exact ⟨tables, last, response, final, fragment, succeeded, raced, cached,
    (reEvaluation_race_fresh succeeded raced).2 current finished _ _ touched cached⟩

/-- A reader that reads before the commit and writes after the deletes leaves the old
fragment in the cache when all have finished. -/
theorem early_reader_leaves_stale :
    Exists fun tables => Exists fun last => Exists fun response => Exists fun final =>
      Exists fun fragment =>
        reEvaluate (fun _ => []) (fun _ => 0) tables.toDatabase
            (ReEvaluation.Sample.ledgerRequest 3) = .ok (last, response) ∧
          exec (raceStep tables last)
            (raceStart tables (fun _ => none) (ReEvaluation.Sample.ledgerRequest 3) response.results)
            (Sample.readsRows ++ Sample.commitsAndDeletes ++ [.advance 1]) = some final ∧
          final.pending = [] ∧
          (forall reader, reader ∈ final.readers.rows -> reader.phase = .finished) ∧
          30 ∈ response.results.map (·.id) ∧
          final.cache (.trendColumn 30) = some fragment ∧
          fragmentOf final.store (.trendColumn 30) ≠ some fragment := by
  have ran : ((Sample.ledgerRace
      (Sample.readsRows ++ Sample.commitsAndDeletes ++ [.advance 1])).bind fun found =>
        (found.2.2.cache (.trendColumn 30)).map fun fragment =>
          decide (found.2.2.pending = [] ∧
            (forall reader, reader ∈ found.2.2.readers.rows -> reader.phase = .finished) ∧
            30 ∈ found.2.1.2.results.map (·.id) ∧
            fragmentOf found.2.2.store (.trendColumn 30) ≠ some fragment)) = some true := by
    decide +kernel
  rw [Option.bind_eq_some_iff] at ran
  rcases ran with ⟨⟨tables, ⟨last, response⟩, final⟩, isRace, ran⟩
  rw [Option.map_eq_some_iff] at ran
  rcases ran with ⟨fragment, cached, facts⟩
  rcases of_decide_eq_true facts with ⟨finished, ended, reported, stale⟩
  rcases Sample.ledgerRace_eq_some isRace with ⟨succeeded, raced⟩
  exact ⟨tables, last, response, final, fragment, succeeded, raced, finished, ended, reported,
    cached, stale⟩

end Presentation
end Tropek
