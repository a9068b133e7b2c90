import Tropek.ReEvaluation.Reading

namespace Tropek
namespace ReEvaluation

open Library Engine Store KeyedTable Fallible

/-!
# What a re-evaluation changes

A dry run changes nothing.  A real run changes the evaluations of its window and
nothing else, each of them once: the row keeps its history and takes the result,
the score and the indicator rows of one evaluation of its own measured values.
-/

section Loop

variable {window : Window} {defaultRange : Option (Int × Int)} {clock : Nat -> Instant}
  {dryRun : Bool}

variable {db last : Database} {item : ReEvalResultItem} {eligibleIds : List Nat}
  {after before : SLOEvaluation} {items : List ReEvalResultItem} {evals : List SLOEvaluation}

theorem rescoreSingle_eq_ok {next : Database} {ev : SLOEvaluation} :
    rescoreSingle window defaultRange clock dryRun db eligibleIds ev = .ok (next, item) ↔
      Exists fun evalResult =>
        rescore window defaultRange db eligibleIds ev = .ok evalResult ∧
          item = resultItem window ev evalResult ∧
          persistUnlessDry window (clock ev.id) dryRun db ev evalResult = .ok next := by
  unfold rescoreSingle
  rw [bind_eq_ok]
  constructor
  · rintro ⟨evalResult, rescored, written⟩
    rcases bind_eq_ok.mp written with ⟨last, persisted, same⟩
    cases same
    exact ⟨evalResult, rescored, rfl, persisted⟩
  · rintro ⟨evalResult, rescored, same, persisted⟩
    refine ⟨evalResult, rescored, bind_eq_ok.mpr ⟨next, persisted, ?_⟩⟩
    rw [same]
    rfl

def Rescored (window : Window) (item : ReEvalResultItem) (before after : SLOEvaluation) : Prop :=
  Exists fun evalResult => Exists fun baselines => Exists fun comparedIds =>
    Exists fun now => Exists fun indicatorRows : IndicatorRows =>
      evaluate window.sloModel (metricsFromIndicatorRows before.indicatorRows.rows) baselines
        comparedIds = .ok evalResult ∧
      item = resultItem window before evalResult ∧
      indicatorRows.rows = buildIndicatorRows window.sloDef evalResult.indicatorResults ∧
      after = rescoredRow item now indicatorRows before

theorem Rescored.history (rescored : Rescored window item before after) :
    before.SameHistory after := by
  rcases rescored with ⟨_, _, _, _, _, _, _, _, same⟩
  rw [same]
  exact rescoredRow_history _ _ _ _

theorem Rescored.result (rescored : Rescored window item before after) :
    after.result = some item.newResult ∧ after.score = some item.newScore := by
  rcases rescored with ⟨_, _, _, _, _, _, _, _, same⟩
  rw [same]
  exact ⟨rfl, rfl⟩

theorem Rescored.value (rescored : Rescored window item before after) (metric : String) :
    getValue (metricsFromIndicatorRows after.indicatorRows.rows) metric =
      if metric ∈ window.sloDef.objectives.rows.map (·.sli) then
        getValue (metricsFromIndicatorRows before.indicatorRows.rows) metric
      else none := by
  rcases rescored with ⟨_, _, _, _, indicatorRows, evaluated, _, rows, same⟩
  rw [same]
  change getValue (metricsFromIndicatorRows indicatorRows.rows) metric = _
  rw [rows, evaluatedRows_getValue evaluated]

def Passed (window : Window) (items : List ReEvalResultItem) (before after : SLOEvaluation) :
    Prop :=
  (before.id ∉ items.map (·.id) ∧ after = before) ∨
    Exists fun item => item ∈ items ∧ item.id = before.id ∧ Rescored window item before after

theorem Passed.history (passed : Passed window items before after) : before.SameHistory after := by
  rcases passed with ⟨_, same⟩ | ⟨item, _, _, rescored⟩
  · rw [same]
    exact .refl before
  · exact rescored.history

theorem rescoreAll_items
    (ran : rescoreAll window defaultRange clock dryRun db eligibleIds evals = .ok (last, items)) :
    items.map (·.id) = evals.map (·.id) := by
  induction evals generalizing db eligibleIds items with
  | nil =>
      cases ran
      rfl
  | cons ev rest ih =>
      rcases bind_eq_ok.mp ran with ⟨⟨next, item⟩, single, ran⟩
      rcases bind_eq_ok.mp ran with ⟨⟨final, others⟩, looped, same⟩
      cases same
      rcases rescoreSingle_eq_ok.mp single with ⟨evalResult, _, isItem, _⟩
      rw [List.map_cons, List.map_cons, ih looped, isItem]
      rfl

theorem rescoreAll_dry
    (ran : rescoreAll window defaultRange clock true db eligibleIds evals = .ok (last, items)) :
    last = db := by
  induction evals generalizing db eligibleIds items with
  | nil =>
      cases ran
      rfl
  | cons ev rest ih =>
      rcases bind_eq_ok.mp ran with ⟨⟨next, item⟩, single, ran⟩
      rcases bind_eq_ok.mp ran with ⟨⟨final, others⟩, looped, same⟩
      cases same
      rcases rescoreSingle_eq_ok.mp single with ⟨evalResult, _, _, unchanged⟩
      cases unchanged
      exact ih looped

/-- The evaluations of a pass are each rewritten once, from the row that the
table had before the pass. -/
theorem rescoreAll_rows (stored : forall ev, ev ∈ evals -> ev ∈ db.evaluations.rows)
    (nodup : (evals.map (·.id)).Nodup)
    (ran : rescoreAll window defaultRange clock false db eligibleIds evals = .ok (last, items)) :
    List.Forall₂ (Passed window items) db.evaluations.rows last.evaluations.rows ∧
      last = { db with evaluations := last.evaluations } := by
  induction evals generalizing db eligibleIds items with
  | nil =>
      cases ran
      refine ⟨List.forall₂_same.mpr fun row _ => Or.inl ⟨List.not_mem_nil, rfl⟩, rfl⟩
  | cons ev rest ih =>
      rcases bind_eq_ok.mp ran with ⟨⟨next, item⟩, single, ran⟩
      rcases bind_eq_ok.mp ran with ⟨⟨final, others⟩, looped, same⟩
      cases same
      rcases rescoreSingle_eq_ok.mp single with ⟨evalResult, rescored, isItem, persisted⟩
      rcases persistReevalResult_eq_ok rescored persisted with ⟨indicatorRows, rows, isNext⟩
      rw [List.map_cons, List.nodup_cons] at nodup
      rw [List.forall_mem_cons] at stored
      have othersIds := rescoreAll_items looped
      have nextRows : next.evaluations.rows = db.evaluations.rows.map fun row =>
          if row.id = ev.id then rescoredRow item (clock ev.id) indicatorRows row else row := by
        rw [isNext, isItem]
        exact update_rows db.evaluations ev.id _ (rescoredRow_id _ _ _)
      have later : forall other, other ∈ rest -> other ∈ next.evaluations.rows := by
        intro other member
        have apart : other.id ≠ ev.id :=
          fun collide => nodup.1 (collide ▸ List.mem_map_of_mem member)
        rw [nextRows]
        exact List.mem_map.mpr ⟨other, stored.2 other member, if_neg apart⟩
      rcases ih later nodup.2 looped with ⟨passed, sameLast⟩
      refine ⟨?_, by rw [sameLast, isNext]⟩
      rw [nextRows, List.forall₂_map_left_iff] at passed
      refine (Latest.related_with_members passed).imp fun row after here => ?_
      rcases here with ⟨member, _, here⟩
      by_cases isEv : row.id = ev.id
      · rw [if_pos isEv] at here
        have notLater : (rescoredRow item (clock ev.id) indicatorRows row).id ∉ others.map (·.id) := by
          rw [othersIds]
          exact isEv ▸ nodup.1
        have sameRow : row = ev := by
          have found := find_of_mem member
          rw [isEv, find_of_mem stored.1] at found
          exact (Option.some.inj found).symm
        rcases here with ⟨_, isAfter⟩ | ⟨later, laterMember, laterId, _⟩
        · rcases rescore_eq_ok rescored with ⟨baselines, comparedIds, evaluated⟩
          have here : Rescored window item row after := by
            rw [sameRow]
            exact ⟨evalResult, baselines, comparedIds, clock ev.id, indicatorRows, evaluated, isItem,
              rows, sameRow ▸ isAfter⟩
          refine Or.inr ⟨item, List.mem_cons_self, ?_, here⟩
          rw [isItem, isEv]
          rfl
        · exact absurd (List.mem_map.mpr ⟨later, laterMember, laterId⟩) notLater
      · rw [if_neg isEv] at here
        have notItem : row.id ≠ item.id := by
          rw [isItem]
          exact isEv
        rcases here with ⟨absent, isAfter⟩ | ⟨later, laterMember, laterId, rescoredLater⟩
        · exact Or.inl ⟨fun inside => (List.mem_cons.mp inside).elim notItem absent, isAfter⟩
        · exact Or.inr ⟨later, List.mem_cons_of_mem _ laterMember, laterId, rescoredLater⟩

end Loop

end ReEvaluation
end Tropek
