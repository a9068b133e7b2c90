import Tropek.ReEvaluation.Rewrites

namespace Tropek
namespace ReEvaluation

open Library Engine Store KeyedTable Fallible

/-!
# The passes of a request

A request is a pass for each of its SLOs, and a pass scores the evaluations of its
window one after the other.  When it comes to an evaluation it reads the database that
the earlier ones have left, and nothing later touches the row again.
-/

section Pass

variable {window : Window} {defaultRange : Option (Int × Int)} {clock : Nat -> Instant}

variable {db last : Database} {later earlier : List SLOEvaluation} {items : List ReEvalResultItem}
  {ev : SLOEvaluation}

theorem rescoreAll_append {dryRun : Bool} {eligibleIds : List Nat}
    (ran : rescoreAll window defaultRange clock dryRun db eligibleIds (earlier ++ later) =
      .ok (last, items)) :
    Exists fun current => Exists fun before => Exists fun after =>
      rescoreAll window defaultRange clock dryRun db eligibleIds earlier = .ok (current, before) ∧
        rescoreAll window defaultRange clock dryRun current (eligibleIds ++ earlier.map (·.id)) later =
          .ok (last, after) ∧
        items = before ++ after := by
  induction earlier generalizing db eligibleIds items with
  | nil =>
      refine ⟨db, [], items, rfl, ?_, rfl⟩
      rw [List.map_nil, List.append_nil]
      exact ran
  | cons ev rest ih =>
      rcases rescoreAll_cons.mp ran with ⟨evalResult, next, others, rescored, persisted, looped, same⟩
      rcases ih looped with ⟨current, before, after, first, second, split⟩
      refine ⟨current, resultItem window ev evalResult :: before, after,
        rescoreAll_cons.mpr ⟨evalResult, next, before, rescored, persisted, first, rfl⟩, ?_, ?_⟩
      · rw [List.map_cons, List.append_cons]
        exact second
      · rw [same, split]
        rfl

theorem rescoreAll_keeps {eligibleIds : List Nat} {evals : List SLOEvaluation}
    (ran : rescoreAll window defaultRange clock false db eligibleIds evals = .ok (last, items))
    {evalId : Nat} (absent : evalId ∉ evals.map (·.id)) :
    last.evaluations.find evalId = db.evaluations.find evalId := by
  induction evals generalizing db eligibleIds items with
  | nil =>
      cases ran
      rfl
  | cons ev rest ih =>
      rw [List.map_cons, List.mem_cons, not_or] at absent
      rcases rescoreAll_cons.mp ran with ⟨evalResult, next, others, rescored, persisted, looped, _⟩
      rcases persistReevalResult_eq_ok rescored persisted with ⟨indicatorRows, _, isNext⟩
      rw [ih looped absent.2, isNext]
      exact find_update_of_ne _ _ (rescoredRow_id _ _ _) absent.1

/-- The scoring of an evaluation in a pass: the baselines are those that the database
selects after the earlier evaluations of the window, and the values are those of the
row. -/
structure Scores (window : Window) (clock : Nat -> Instant) (db current : Database)
    (earlier : List SLOEvaluation) (ev : SLOEvaluation) (baselines : Dict (Option ℚ))
    (comparedIds : List Nat) (evalResult : EvaluationResult) : Prop where
  passed : Exists fun items =>
    rescoreAll window (window.defaultRange db) clock false db (window.eligibleIds db) earlier =
      .ok (current, items)
  selected : Exists fun baselineEvals =>
    window.baselines current.evaluations ev.periodStart
        ((resolveSliVersionRange current ev.sliName ev.sliVersion).or (window.defaultRange db))
        (restriction (window.eligibleIds db ++ earlier.map (·.id))) = .ok baselineEvals ∧
      computeBaselines baselineEvals window.sloModel.comparison.aggregateFunction =
        .ok (baselines, comparedIds)
  evaluated : evaluate window.sloModel (metricsFromIndicatorRows ev.indicatorRows.rows) baselines
    comparedIds = .ok evalResult

theorem Scores.of_rescore {current : Database} {evalResult : EvaluationResult}
    (passed : Exists fun items => rescoreAll window (window.defaultRange db) clock false db
      (window.eligibleIds db) earlier = .ok (current, items))
    (rescored : rescore window (window.defaultRange db) current (window.eligibleIds db ++
      earlier.map (·.id)) ev = .ok evalResult) :
    Exists fun baselines => Exists fun comparedIds =>
      Scores window clock db current earlier ev baselines comparedIds evalResult := by
  rcases bind_eq_ok.mp rescored with ⟨baselineEvals, selected, rescored⟩
  rcases bind_eq_ok.mp rescored with ⟨⟨baselines, comparedIds⟩, computed, rescored⟩
  exact ⟨baselines, comparedIds, passed, ⟨baselineEvals, selected, mapError_eq_ok computed⟩,
    mapError_eq_ok rescored⟩

def Written (window : Window) (evalResult : EvaluationResult) (before after : SLOEvaluation) : Prop :=
  Exists fun now => Exists fun indicatorRows : IndicatorRows =>
    indicatorRows.rows = buildIndicatorRows window.sloDef evalResult.indicatorResults ∧
      after = rescoredRow (resultItem window before evalResult) now indicatorRows before

/-- Each evaluation of the window is scored in its turn, and its row is the result of
that. -/
theorem rescoreWindow_scores (ran : rescoreWindow window clock false db = .ok (last, items))
    (split : window.evaluations db.evaluations = earlier ++ ev :: later) :
    Exists fun current => Exists fun baselines => Exists fun comparedIds =>
      Exists fun evalResult => Exists fun after =>
        Scores window clock db current earlier ev baselines comparedIds evalResult ∧
          current.evaluations.find ev.id = some ev ∧
          last.evaluations.find ev.id = some after ∧ Written window evalResult ev after := by
  have looped := (rescoreWindow_eq_ok.mp ran).2
  have stored : ev ∈ db.evaluations.rows :=
    (Window.evaluations_stored (split ▸ List.mem_append_right _ List.mem_cons_self)).1
  have nodup := window.evaluations_nodup db.evaluations
  rw [split] at looped nodup
  rw [List.map_append, List.map_cons] at nodup
  have apart := List.nodup_append.mp nodup
  have notEarlier : ev.id ∉ earlier.map (·.id) :=
    fun member => apart.2.2 ev.id member ev.id List.mem_cons_self rfl
  have notLater : ev.id ∉ later.map (·.id) := (List.nodup_cons.mp apart.2.1).1
  rcases rescoreAll_append looped with ⟨current, before, after, first, second, _⟩
  rcases rescoreAll_cons.mp second with ⟨evalResult, next, others, rescored, persisted, rest, _⟩
  rcases persistReevalResult_eq_ok rescored persisted with ⟨indicatorRows, rows, isNext⟩
  have here : current.evaluations.find ev.id = some ev := by
    rw [rescoreAll_keeps first notEarlier]
    exact find_of_mem stored
  rcases Scores.of_rescore ⟨before, first⟩ rescored with ⟨baselines, comparedIds, scores⟩
  refine ⟨current, baselines, comparedIds, evalResult, _, scores, here, ?_,
    clock ev.id, indicatorRows, rows, rfl⟩
  rw [rescoreAll_keeps rest notLater, isNext, find_update, if_pos rfl, here]
  rfl

theorem Window.evaluations_ids {first second : Database}
    (history : List.Forall₂ SLOEvaluation.SameHistory first.evaluations.rows
      second.evaluations.rows) :
    (window.evaluations second.evaluations).map (·.id) =
      (window.evaluations first.evaluations).map (·.id) := by
  have loaded := loadEvaluationsForReeval_related (fun _ _ here => here) history window.assetId
    window.sloName (some window.fromDate)
  exact (Latest.map_eq_of_related (loaded.imp fun _ _ here => here.id.symm)).symm

end Pass

/-- The last scoring of an evaluation in a request: the pass that comes to it, the row
and the baselines that it finds, and the result that it writes. -/
structure LastScoring (request : ReEvaluateRequest) (clock : Nat -> Instant) (assetId : Nat)
    (db : Database) (names : List String) (evalId : Nat) (window : Window) (middle : SLOEvaluation)
    (baselines : Dict (Option ℚ)) (comparedIds : List Nat) (evalResult : EvaluationResult) :
    Prop where
  pass : Exists fun done => Exists fun name => Exists fun rest => Exists fun passDb =>
    Exists fun found => names = done ++ name :: rest ∧
      reEvaluateSlos request clock assetId db done = .ok (passDb, found) ∧
      resolveWindow request passDb assetId name = .ok window ∧
      passDb.evaluations.find evalId = some middle ∧
      Exists fun earlier => Exists fun later => Exists fun current =>
        window.evaluations passDb.evaluations = earlier ++ middle :: later ∧
          Scores window clock passDb current earlier middle baselines comparedIds evalResult

variable {assetId evalId : Nat} {db : Database} {clock : Nat -> Instant} {names : List String}
  {request : ReEvaluateRequest} {found : List (Int × List ReEvalResultItem)}

theorem LastScoring.cons {next : Database} {name : String} {window nextWindow : Window}
    {middle : SLOEvaluation} {baselines : Dict (Option ℚ)} {comparedIds : List Nat}
    {evalResult : EvaluationResult} {items : List ReEvalResultItem}
    (resolved : resolveWindow request db assetId name = .ok nextWindow)
    (rescored : rescoreWindow nextWindow clock request.dryRun db = .ok (next, items))
    (scoring : LastScoring request clock assetId next names evalId window middle baselines
      comparedIds evalResult) :
    LastScoring request clock assetId db (name :: names) evalId window middle baselines
      comparedIds evalResult := by
  rcases scoring.pass with ⟨done, other, rest, passDb, found, split, ran, others⟩
  refine ⟨name :: done, other, rest, passDb, (nextWindow.sloDef.version, items) :: found,
    congrArg _ split, ?_, others⟩
  exact reEvaluateSlos_cons.mpr ⟨nextWindow, next, items, found, resolved, rescored, ran, rfl⟩

theorem reEvaluateSlos_keeps {last : Database} (real : request.dryRun = false)
    (ran : reEvaluateSlos request clock assetId db names = .ok (last, found))
    (absent : evalId ∉ (allResults found).map (·.id)) :
    last.evaluations.find evalId = db.evaluations.find evalId := by
  induction names generalizing db found with
  | nil =>
      cases ran
      rfl
  | cons name rest ih =>
      rcases reEvaluateSlos_cons.mp ran with
        ⟨window, next, items, others, resolved, rescored, looped, same⟩
      rw [same, allResults_cons, List.map_append, List.mem_append, not_or] at absent
      rw [real] at rescored
      rw [ih looped absent.2]
      refine rescoreAll_keeps (rescoreWindow_eq_ok.mp rescored).2 ?_
      rw [<- rescoreWindow_items rescored]
      exact absent.1

/-- An evaluation that is reported is in the window of an SLO of the request, as the
stored database resolves it: a pass leaves what the windows of the others are made
from. -/
theorem reEvaluateSlos_reported {last : Database}
    (ran : reEvaluateSlos request clock assetId db names = .ok (last, found))
    (reported : evalId ∈ (allResults found).map (·.id)) :
    Exists fun name => name ∈ names ∧ Exists fun window =>
      resolveWindow request db assetId name = .ok window ∧
        evalId ∈ (window.evaluations db.evaluations).map (·.id) := by
  induction names generalizing db found with
  | nil =>
      cases ran
      exact absurd reported List.not_mem_nil
  | cons name rest ih =>
      rcases reEvaluateSlos_cons.mp ran with
        ⟨window, next, items, others, resolved, rescored, looped, same⟩
      have pass : reEvaluateSlos request clock assetId db [name] =
          .ok (next, [(window.sloDef.version, items)]) :=
        reEvaluateSlos_cons.mpr ⟨window, next, items, [], resolved, rescored, rfl, rfl⟩
      rcases reEvaluateSlos_rewrites pass with ⟨tables, rewrites⟩
      have history := rewrites.imp fun _ _ rewritten => Rewrites.history rewritten
      rw [same, allResults_cons, List.map_append, List.mem_append] at reported
      rcases reported with first | later
      · rw [rescoreWindow_items rescored] at first
        exact ⟨name, List.mem_cons_self, window, resolved, first⟩
      · rcases ih looped later with ⟨other, member, otherWindow, otherResolved, inside⟩
        rw [resolveWindow_related history (by rw [tables])] at otherResolved
        rw [Window.evaluations_ids history] at inside
        exact ⟨other, List.mem_cons_of_mem name member, otherWindow, otherResolved, inside⟩

theorem reEvaluateSlos_lastScoring {last : Database} (real : request.dryRun = false)
    (ran : reEvaluateSlos request clock assetId db names = .ok (last, found))
    (reported : evalId ∈ (allResults found).map (·.id)) :
    Exists fun window => Exists fun middle => Exists fun baselines => Exists fun comparedIds =>
      Exists fun evalResult => Exists fun after =>
        LastScoring request clock assetId db names evalId window middle baselines comparedIds
            evalResult ∧
          last.evaluations.find evalId = some after ∧ Written window evalResult middle after := by
  induction names generalizing db found with
  | nil =>
      cases ran
      exact absurd reported List.not_mem_nil
  | cons name rest ih =>
      rcases reEvaluateSlos_cons.mp ran with
        ⟨window, next, items, others, resolved, rescored, looped, same⟩
      by_cases later : evalId ∈ (allResults others).map (·.id)
      · rcases ih looped later with
          ⟨lastWindow, middle, baselines, comparedIds, evalResult, after, scoring, written⟩
        exact ⟨lastWindow, middle, baselines, comparedIds, evalResult, after,
          scoring.cons resolved rescored, written⟩
      · rw [same, allResults_cons, List.map_append, List.mem_append] at reported
        have rewritten := reported.resolve_right later
        have real' := rescored
        rw [real] at real'
        rw [rescoreWindow_items real'] at rewritten
        rcases List.mem_map.mp rewritten with ⟨ev, member, isEv⟩
        rcases List.append_of_mem member with ⟨before, behind, split⟩
        rcases rescoreWindow_scores real' split with
          ⟨current, baselines, comparedIds, evalResult, after, scores, _, here, written⟩
        have stored := find_of_mem (Window.evaluations_stored member).1
        rw [isEv] at stored here
        refine ⟨window, ev, baselines, comparedIds, evalResult, after, ⟨[], name, rest, db, [], rfl,
          rfl, resolved, stored, before, behind, current, split, scores⟩, ?_, written⟩
        rw [reEvaluateSlos_keeps real looped later, here]

end ReEvaluation
end Tropek
