import Mathlib.Logic.Relation
import Tropek.ReEvaluation.Prediction

namespace Tropek
namespace ReEvaluation

open Library Engine Store KeyedTable Fallible

/-!
# What a request does to each evaluation

A request writes to the table of evaluations only, and each evaluation comes out
of it rewritten any number of times: not at all when no window holds it, and more
than once when the request names its SLO again.  Every rewriting scores the
evaluation against a stored version of its own SLO.
-/

abbrev SLODefinitions := KeyedTable fun sloDef : SLODefinition => (sloDef.name, sloDef.version)

/-- One completed and valid evaluation is scored and written against a stored
version of its SLO. -/
structure Rewriting (definitions : SLODefinitions) (window : Window) (item : ReEvalResultItem)
    (before after : SLOEvaluation) : Prop where
  version : definitions.find (window.sloName, window.sloDef.version) = some window.sloDef
  series : before.SameSeries window.assetId window.sloName
  completed : before.status = .completed
  valid : before.invalidated = false
  rescored : Rescored window item before after

def Rewritten (definitions : SLODefinitions) (before after : SLOEvaluation) : Prop :=
  Exists fun window => Exists fun item => Rewriting definitions window item before after

abbrev Rewrites (definitions : SLODefinitions) : SLOEvaluation -> SLOEvaluation -> Prop :=
  Relation.ReflTransGen (Rewritten definitions)

variable {after before : SLOEvaluation} {definitions : SLODefinitions} {db last : Database}
  {window : Window} {request : ReEvaluateRequest} {clock : Nat -> Instant}

theorem Rewritten.columns (rewritten : Rewritten definitions before after) :
    Exists fun window => Exists fun item => Exists fun now => Exists fun indicatorRows =>
      Rewriting definitions window item before after ∧
        after = rescoredRow item now indicatorRows before := by
  rcases rewritten with ⟨window, item, rewriting⟩
  rcases rewriting.rescored with ⟨_, _, _, now, indicatorRows, _, _, _, same⟩
  exact ⟨window, item, now, indicatorRows, rewriting, same⟩

theorem Rewrites.relates {definitions : SLODefinitions}
    {related : SLOEvaluation -> SLOEvaluation -> Prop} (reflexive : forall row, related row row)
    (transitive : forall first second third,
      related first second -> related second third -> related first third)
    (relates : forall before after, Rewritten definitions before after -> related before after)
    {before after : SLOEvaluation} (rewrites : Rewrites definitions before after) :
    related before after := by
  induction rewrites with
  | refl => exact reflexive before
  | tail _ last ih => exact transitive _ _ _ ih (relates _ _ last)

theorem Rewrites.history (rewrites : Rewrites definitions before after) :
    before.SameHistory after :=
  Rewrites.relates SLOEvaluation.SameHistory.refl (fun _ _ _ one two => one.trans two)
    (fun _ _ ⟨_, _, rewriting⟩ => rewriting.rescored.history) rewrites

/-- A re-evaluation leaves an evaluation with its run, its points, its compared
baselines and its override marks. -/
structure KeepsPoints (first second : SLOEvaluation) : Prop where
  evaluationId : second.evaluationId = first.evaluationId
  achievedPoints : second.achievedPoints = first.achievedPoints
  totalPoints : second.totalPoints = first.totalPoints
  originalResult : second.originalResult = first.originalResult
  comparedIds : second.jobStats.comparedEvaluationIds = first.jobStats.comparedEvaluationIds
  passThreshold : second.jobStats.totalScorePassThreshold = first.jobStats.totalScorePassThreshold
  warningThreshold :
    second.jobStats.totalScoreWarningThreshold = first.jobStats.totalScoreWarningThreshold

theorem KeepsPoints.refl (row : SLOEvaluation) : KeepsPoints row row :=
  ⟨rfl, rfl, rfl, rfl, rfl, rfl, rfl⟩

theorem KeepsPoints.trans {first second third : SLOEvaluation} (one : KeepsPoints first second)
    (two : KeepsPoints second third) : KeepsPoints first third :=
  ⟨two.evaluationId.trans one.evaluationId, two.achievedPoints.trans one.achievedPoints,
    two.totalPoints.trans one.totalPoints, two.originalResult.trans one.originalResult,
    two.comparedIds.trans one.comparedIds, two.passThreshold.trans one.passThreshold,
    two.warningThreshold.trans one.warningThreshold⟩

theorem rescoredRow_keepsPoints (item : ReEvalResultItem) (now : Instant)
    (indicatorRows : IndicatorRows) (row : SLOEvaluation) :
    KeepsPoints row (rescoredRow item now indicatorRows row) := by
  unfold rescoredRow setReEvaluated SLOEvaluation.setIndicatorRows reEvalStats
  dsimp only
  by_cases first : row.jobStats.originalResult.isNone = true
  · rw [if_pos first]
    exact ⟨rfl, rfl, rfl, rfl, rfl, rfl, rfl⟩
  · rw [if_neg first]
    exact ⟨rfl, rfl, rfl, rfl, rfl, rfl, rfl⟩

theorem Rewrites.keepsPoints (rewrites : Rewrites definitions before after) :
    KeepsPoints before after := by
  refine Rewrites.relates KeepsPoints.refl (fun _ _ _ one two => one.trans two) ?_ rewrites
  intro first second rewritten
  rcases rewritten.columns with ⟨_, item, now, indicatorRows, _, same⟩
  rw [same]
  exact rescoredRow_keepsPoints item now indicatorRows first

theorem loadSloDefinition_find {sloName : String} {version : Option Int} {sloDef : SLODefinition}
    (loaded : loadSloDefinition db sloName version = some sloDef) :
    db.sloDefinitions.find (sloName, sloDef.version) = some sloDef := by
  unfold loadSloDefinition at loaded
  cases version with
  | some asked =>
      dsimp only at loaded
      have sameKey := find_key loaded
      have sameVersion : sloDef.version = asked := congrArg Prod.snd sameKey
      rw [sameVersion]
      exact loaded
  | none =>
      have member := Latest.mem_of_mem_latest _ (List.mem_of_mem_head? loaded)
      rcases List.mem_filter.mp member with ⟨stored, selected⟩
      simp only [Bool.and_eq_true, decide_eq_true_eq] at selected
      rw [<- selected.1]
      exact find_of_mem stored

theorem resolveWindow_version {assetId : Nat} {sloName : String}
    (resolved : resolveWindow request db assetId sloName = .ok window) :
    db.sloDefinitions.find (window.sloName, window.sloDef.version) = some window.sloDef := by
  rcases bind_eq_ok.mp resolved with ⟨sloDef, loaded, resolved⟩
  have found := loadSloDefinition_find (orRaise_eq_ok.mp loaded)
  split at resolved
  · cases resolved
  · rcases bind_eq_ok.mp resolved with ⟨fromDate, _, resolved⟩
    rcases bind_eq_ok.mp resolved with ⟨pair, _, same⟩
    cases same
    exact found

theorem Window.evaluations_selected {table : Evaluations} {ev : SLOEvaluation}
    (member : ev ∈ window.evaluations table) :
    ev.SameSeries window.assetId window.sloName ∧ window.fromDate ≤ ev.periodStart ∧
      ev.status = .completed ∧ ev.invalidated = false := by
  have inside := (Latest.mem_oldestFirst SLOEvaluation.periodStart).mp member
  rcases List.mem_filter.mp inside with ⟨_, selected⟩
  simp only [Bool.and_eq_true, decide_eq_true_eq, Option.all_some, Bool.not_eq_true'] at selected
  exact ⟨selected.1.1.1, selected.1.1.2, selected.1.2, selected.2⟩

theorem rescoreWindow_rewrites {items : List ReEvalResultItem}
    (version : definitions.find (window.sloName, window.sloDef.version) = some window.sloDef)
    (ran : rescoreWindow window clock false db = .ok (last, items)) :
    List.Forall₂ (fun before after =>
        (before.id ∉ items.map (·.id) ∧ after = before) ∨
          Exists fun item => item ∈ items ∧ item.id = before.id ∧
            Rewriting definitions window item before after)
      db.evaluations.rows last.evaluations.rows := by
  refine (Latest.related_with_members (rescoreWindow_rows ran).1).imp ?_
  rintro before after ⟨stored, _, passed⟩
  rcases passed with ⟨absent, same⟩ | ⟨item, member, sameId, rescored⟩
  · exact Or.inl ⟨absent, same⟩
  · have rewritten : before.id ∈ items.map (·.id) := List.mem_map.mpr ⟨item, member, sameId⟩
    have selected := Window.evaluations_selected (rescoreWindow_series ran stored rewritten)
    exact Or.inr ⟨item, member, sameId, version, selected.1, selected.2.2.1, selected.2.2.2, rescored⟩

theorem reEvaluateSlos_rewrites {assetId : Nat} {names : List String}
    {found : List (Int × List ReEvalResultItem)}
    (ran : reEvaluateSlos request clock assetId db names = .ok (last, found)) :
    last = { db with evaluations := last.evaluations } ∧
      List.Forall₂ (Rewrites db.sloDefinitions) db.evaluations.rows last.evaluations.rows := by
  induction names generalizing db found with
  | nil =>
      cases ran
      exact ⟨rfl, List.forall₂_same.mpr fun row _ => .refl⟩
  | cons name rest ih =>
      rcases reEvaluateSlos_cons.mp ran with
        ⟨window, next, items, others, resolved, rescored, looped, _⟩
      have version := resolveWindow_version resolved
      have first : next = { db with evaluations := next.evaluations } ∧
          List.Forall₂ (Rewrites db.sloDefinitions) db.evaluations.rows next.evaluations.rows := by
        cases dry : request.dryRun with
        | true =>
            rw [dry] at rescored
            rw [rescoreWindow_dry rescored]
            exact ⟨rfl, List.forall₂_same.mpr fun row _ => .refl⟩
        | false =>
            rw [dry] at rescored
            refine ⟨(rescoreWindow_rows rescored).2, ?_⟩
            refine (rescoreWindow_rewrites version rescored).imp ?_
            rintro before after (⟨_, same⟩ | ⟨item, _, _, rewriting⟩)
            · rw [same]
            · exact .single ⟨window, item, rewriting⟩
      rcases ih looped with ⟨sameLast, passed⟩
      have definitions : next.sloDefinitions = db.sloDefinitions := by rw [first.1]
      rw [definitions] at passed
      refine ⟨?_, related_trans (fun _ _ _ one two => one.trans two) first.2 passed⟩
      rw [sameLast, first.1]

theorem reEvaluate_rewrites {assigned : Nat -> List String} {response : ReEvaluateResponse}
    (ran : reEvaluate assigned clock db request = .ok (last, response)) :
    last = { db with evaluations := last.evaluations } ∧
      List.Forall₂ (Rewrites db.sloDefinitions) db.evaluations.rows last.evaluations.rows := by
  rcases reEvaluate_eq_ok.mp ran with ⟨_, _, _, _, _, looped, _⟩
  exact reEvaluateSlos_rewrites looped

end ReEvaluation
end Tropek
