import Tropek.Library.TransitionSystem
import Tropek.Maintenance.Operations

namespace Tropek
namespace Maintenance

open Library Engine Store ReEvaluation TransitionSystem KeyedTable

/-!
# The readers of a baseline pin

Three queries look for the active pin of an asset and SLO: the one that bounds the
baselines, the lookup behind a pin conflict, and the one that a re-evaluation from
the baseline starts with.  Only the last asks for a completed and valid
evaluation.  So they agree exactly on tables where nothing else is pinned, and an
operation ends the agreement when it invalidates a pinned evaluation, or pins a
second one because the SLO has an empty name.
-/

/-! ## The three readers -/

/-- The evaluation that a re-evaluation from the baseline starts at: the latest
pinned one among those that can be re-evaluated. -/
def baselineAnchor (table : Evaluations) (assetId : Nat) (sloName : String) : Option SLOEvaluation :=
  (loadEvaluationsForReeval table assetId sloName none).reverse.find? (·.isPinned)

def FromBaseline (request : ReEvaluateRequest) : Prop :=
  request.fromDate = none ∧ request.fromEvaluationId = none

theorem resolveFromDate_anchor {request : ReEvaluateRequest} (fromBaseline : FromBaseline request)
    (table : Evaluations) (assetId : Nat) (sloName : String) :
    (resolveFromDate request table assetId sloName).toOption =
      (baselineAnchor table assetId sloName).map (·.periodStart) := by
  unfold resolveFromDate baselineAnchor
  rw [fromBaseline.1, fromBaseline.2]
  dsimp only
  cases (loadEvaluationsForReeval table assetId sloName none).reverse.find? (·.isPinned) <;> rfl

structure SeesNone (table : Evaluations) (assetId : Nat) (sloName : String) : Prop where
  bounds : activePinStart table assetId sloName = none
  active : getActivePin table assetId sloName = some none
  anchor : baselineAnchor table assetId sloName = none
  refused : forall request, FromBaseline request ->
    (resolveFromDate request table assetId sloName).toOption = none

structure SeesPin (table : Evaluations) (assetId : Nat) (sloName : String) (ev : SLOEvaluation) :
    Prop where
  stored : ev ∈ table.rows
  bounds : activePinStart table assetId sloName = some ev.periodStart
  active : getActivePin table assetId sloName = some (some (ev.periodStart, ev.id))
  anchor : baselineAnchor table assetId sloName = some ev
  starts : forall request, FromBaseline request ->
    (resolveFromDate request table assetId sloName).toOption = some ev.periodStart

def PinReadersAgree (table : Evaluations) : Prop :=
  forall assetId sloName, SeesNone table assetId sloName ∨
    Exists fun ev => SeesPin table assetId sloName ev

/-- At most one evaluation of each asset and SLO is pinned, and it is completed and
valid. -/
structure SoundPins (table : Evaluations) : Prop where
  once : AtMostOnePin table
  eligible : forall row, row ∈ table.rows -> row.isPinned = true ->
    row.status = .completed ∧ row.invalidated = false

/-! ## When the readers agree -/

theorem mem_loaded {table : Evaluations} {assetId : Nat} {sloName : String} {row : SLOEvaluation} :
    row ∈ loadEvaluationsForReeval table assetId sloName none ↔
      row ∈ table.rows ∧ row.SameSeries assetId sloName ∧ row.status = .completed ∧
        row.invalidated = false := by
  unfold loadEvaluationsForReeval
  rw [Latest.mem_oldestFirst, List.mem_filter]
  simp only [Option.all_none, Bool.and_true, Bool.and_eq_true, decide_eq_true_eq,
    Bool.not_eq_true', and_assoc]

section Readers

variable {table : Evaluations} {assetId : Nat} {sloName : String}

theorem getActivePin_eq_none : getActivePin table assetId sloName = some none ↔
    activePins table assetId sloName = [] := by
  rw [getActivePin_eq]
  split
  · rename_i empty
    exact ⟨fun _ => empty, fun _ => rfl⟩
  · rename_i row single
    rw [single]
    constructor <;> intro impossible <;> cases impossible
  · rename_i many _ _
    constructor
    · intro impossible
      cases impossible
    · intro empty
      contradiction

theorem getActivePin_eq_some {pin : Instant × Nat} :
    getActivePin table assetId sloName = some (some pin) ↔
      Exists fun row => activePins table assetId sloName = [row] ∧ pin = (row.periodStart, row.id) := by
  rw [getActivePin_eq]
  cases found : activePins table assetId sloName with
  | nil =>
      constructor
      · intro impossible
        cases impossible
      · rintro ⟨row, impossible, _⟩
        cases impossible
  | cons row rest =>
      cases rest with
      | nil =>
          constructor
          · intro same
            exact ⟨row, rfl, (Option.some.inj (Option.some.inj same)).symm⟩
          · rintro ⟨other, isOther, same⟩
            cases isOther
            rw [same]
      | cons second rest =>
          constructor
          · intro impossible
            cases impossible
          · rintro ⟨other, impossible, _⟩
            cases impossible

theorem baselineAnchor_mem {ev : SLOEvaluation} (anchor : baselineAnchor table assetId sloName = some ev) :
    ev ∈ activePins table assetId sloName ∧ ev.status = .completed ∧ ev.invalidated = false := by
  have loaded := mem_loaded.mp (List.mem_reverse.mp (List.mem_of_find?_eq_some anchor))
  exact ⟨mem_activePins.mpr ⟨loaded.1, loaded.2.1, List.find?_some anchor⟩, loaded.2.2⟩

theorem seesNone_of_empty (empty : activePins table assetId sloName = []) :
    SeesNone table assetId sloName := by
  have anchor : baselineAnchor table assetId sloName = none := by
    cases anchor : baselineAnchor table assetId sloName with
    | none => rfl
    | some ev =>
        have inside := (baselineAnchor_mem anchor).1
        rw [empty] at inside
        exact absurd inside List.not_mem_nil
  refine ⟨?_, getActivePin_eq_none.mpr empty, anchor, fun request fromBaseline => ?_⟩
  · change ((activePins table assetId sloName).map (·.periodStart)).max? = none
    rw [empty]
    rfl
  · rw [resolveFromDate_anchor fromBaseline, anchor]
    rfl

theorem seesPin_of_single {ev : SLOEvaluation} (single : activePins table assetId sloName = [ev])
    (completed : ev.status = .completed) (valid : ev.invalidated = false) :
    SeesPin table assetId sloName ev := by
  have inside : ev ∈ activePins table assetId sloName := single ▸ List.mem_cons_self
  rcases mem_activePins.mp inside with ⟨stored, series, pinned⟩
  have anchor : baselineAnchor table assetId sloName = some ev := by
    have loaded := mem_loaded.mpr ⟨stored, series, completed, valid⟩
    cases anchor : baselineAnchor table assetId sloName with
    | none =>
        have refused := List.find?_eq_none.mp anchor ev (List.mem_reverse.mpr loaded)
        exact absurd pinned refused
    | some other =>
        have member := (baselineAnchor_mem anchor).1
        rw [single] at member
        rw [List.mem_singleton.mp member]
  refine ⟨stored, ?_, getActivePin_eq_some.mpr ⟨ev, single, rfl⟩, anchor, fun request fromBaseline => ?_⟩
  · change ((activePins table assetId sloName).map (·.periodStart)).max? = some ev.periodStart
    rw [single]
    rfl
  · rw [resolveFromDate_anchor fromBaseline, anchor]
    rfl

end Readers

theorem pinReadersAgree_iff {table : Evaluations} : PinReadersAgree table ↔ SoundPins table := by
  constructor
  · intro agree
    have only : forall row, row ∈ table.rows -> row.isPinned = true ->
        activePins table row.assetId row.sloName = [row] ∧ row.status = .completed ∧
          row.invalidated = false := by
      intro row stored pinned
      have active : row ∈ activePins table row.assetId row.sloName :=
        mem_activePins.mpr ⟨stored, ⟨rfl, rfl⟩, pinned⟩
      rcases agree row.assetId row.sloName with none | ⟨ev, sees⟩
      · rw [getActivePin_eq_none.mp none.active] at active
        exact absurd active List.not_mem_nil
      · rcases getActivePin_eq_some.mp sees.active with ⟨single, isSingle, _⟩
        rcases baselineAnchor_mem sees.anchor with ⟨inside, completed, valid⟩
        rw [isSingle] at active inside
        cases List.mem_singleton.mp active
        cases List.mem_singleton.mp inside
        exact ⟨isSingle, completed, valid⟩
    refine ⟨?_, fun row stored pinned => (only row stored pinned).2⟩
    intro first firstIn second secondIn firstPinned secondPinned series
    have member : second ∈ activePins table first.assetId first.sloName :=
      mem_activePins.mpr ⟨secondIn, series, secondPinned⟩
    rw [(only first firstIn firstPinned).1] at member
    rw [List.mem_singleton.mp member]
  · intro sound assetId sloName
    rcases activePins_of_atMostOne sound.once assetId sloName with empty | ⟨ev, single⟩
    · exact Or.inl (seesNone_of_empty empty)
    · have inside : ev ∈ activePins table assetId sloName := single ▸ List.mem_cons_self
      rcases mem_activePins.mp inside with ⟨stored, _, pinned⟩
      rcases sound.eligible ev stored pinned with ⟨completed, valid⟩
      exact Or.inr ⟨ev, seesPin_of_single single completed valid⟩

/-! ## What the operations do to pins -/

theorem soundPins_of_old {first second : Evaluations} (sound : SoundPins first)
    (old : forall row, row ∈ second.rows -> row.isPinned = true ->
      Exists fun before => before ∈ first.rows ∧ before.isPinned = true ∧ SameEvaluation before row ∧
        (before.status = .completed -> before.invalidated = false ->
          row.status = .completed ∧ row.invalidated = false)) : SoundPins second where
  once := by
    refine atMostOnePin_of_old (fun _ => False) (fun _ => False) sound.once ?_
      (fun _ _ _ _ impossible => impossible.elim) (fun _ _ impossible => impossible.elim)
    intro row member isPinned
    rcases old row member isPinned with ⟨before, beforeIn, pinned, same, _⟩
    exact ⟨before, beforeIn, same, Or.inr ⟨pinned, id⟩⟩
  eligible := by
    intro row member isPinned
    rcases old row member isPinned with ⟨before, beforeIn, pinned, _, stays⟩
    rcases sound.eligible before beforeIn pinned with ⟨completed, valid⟩
    exact stays completed valid

theorem soundPins_related {first second : Evaluations}
    (same : List.Forall₂ SLOEvaluation.SameHistory first.rows second.rows)
    (sound : SoundPins first) :
    SoundPins second := by
  refine soundPins_of_old sound fun row member pinned => ?_
  have back : List.Forall₂ SLOEvaluation.SameHistory second.rows first.rows :=
    (same.imp fun _ _ here => here.symm).flip
  rcases mem_related back member with ⟨before, beforeIn, history⟩
  refine ⟨before, beforeIn, history.isPinned.trans pinned,
    ⟨history.id.symm, history.assetId.symm, history.sloName.symm⟩, fun completed valid => ?_⟩
  exact ⟨history.status.symm.trans completed, history.invalidated.symm.trans valid⟩

theorem setOverridden_history (newResult : ResultValue) (reason author : String)
    (row : SLOEvaluation) : row.SameHistory (row.setOverridden newResult reason author) :=
  ⟨rfl, rfl, rfl, rfl, rfl, rfl, rfl, rfl, rfl, rfl, rfl, rfl⟩

theorem setRestored_history (row : SLOEvaluation) : row.SameHistory row.setRestored :=
  ⟨rfl, rfl, rfl, rfl, rfl, rfl, rfl, rfl, rfl, rfl, rfl, rfl⟩

section Changes

variable {table : Evaluations} (sound : SoundPins table) (condition : SLOEvaluation -> Bool)

include sound

theorem soundPins_updateWhere {change : SLOEvaluation -> SLOEvaluation}
    (keeps : forall row, (change row).id = row.id)
    (history : forall row : SLOEvaluation, row.SameHistory (change row)) :
    SoundPins (table.updateWhere condition change keeps) :=
  soundPins_related (table.updateWhere_related condition change keeps (fun row _ _ => history row)
    fun row _ _ => .refl row) sound

theorem soundPins_restored :
    SoundPins (table.updateWhere condition (SLOEvaluation.setInvalidated false)
      (SLOEvaluation.setInvalidated_id false)) := by
  refine soundPins_of_old sound fun row member pinned => ?_
  rcases (mem_updateWhere _ _ _ _ _).mp member with ⟨before, beforeIn, same⟩
  split at same
  · subst same
    exact ⟨before, beforeIn, pinned, ⟨rfl, rfl, rfl⟩, fun completed _ => ⟨completed, rfl⟩⟩
  · subst same
    exact ⟨before, beforeIn, pinned, ⟨rfl, rfl, rfl⟩, fun completed valid => ⟨completed, valid⟩⟩

theorem soundPins_unpinned (now : Instant) :
    SoundPins (table.updateWhere condition (SLOEvaluation.setUnpinned now)
      (SLOEvaluation.setUnpinned_id now)) := by
  refine soundPins_of_old sound fun row member pinned => ?_
  rcases (mem_updateWhere _ _ _ _ _).mp member with ⟨before, beforeIn, same⟩
  split at same
  · subst same
    rw [SLOEvaluation.setUnpinned_isPinned] at pinned
    cases pinned
  · subst same
    exact ⟨before, beforeIn, pinned, ⟨rfl, rfl, rfl⟩, fun completed valid => ⟨completed, valid⟩⟩

theorem soundPins_invalidated :
    SoundPins (table.updateWhere condition (SLOEvaluation.setInvalidated true)
        (SLOEvaluation.setInvalidated_id true)) ↔
      forall row, row ∈ table.rows -> condition row = true -> row.isPinned = false := by
  constructor
  · intro after row member selected
    cases pinned : row.isPinned with
    | false => rfl
    | true =>
        have inside : row.setInvalidated true ∈ (table.updateWhere condition
            (SLOEvaluation.setInvalidated true) (SLOEvaluation.setInvalidated_id true)).rows :=
          (mem_updateWhere _ _ _ _ _).mpr ⟨row, member, if_pos selected⟩
        cases (after.eligible _ inside pinned).2
  · intro away
    refine soundPins_of_old sound fun row member pinned => ?_
    rcases (mem_updateWhere _ _ _ _ _).mp member with ⟨before, beforeIn, same⟩
    split at same
    · rename_i selected
      subst same
      have notPinned := away before beforeIn selected
      exact absurd pinned (by change ¬ before.isPinned = true; rw [notPinned]; exact Bool.false_ne_true)
    · subst same
      exact ⟨before, beforeIn, pinned, ⟨rfl, rfl, rfl⟩, fun completed valid => ⟨completed, valid⟩⟩

end Changes

section Pinning

variable {table : Evaluations} {unpins pins : SLOEvaluation -> Bool} {now : Instant}
  (byId : forall row : SLOEvaluation, pins (row.setUnpinned now) = pins row)

include byId

/-- A row that is pinned after the two statements of a pin has been chosen, or it was
pinned and the first statement did not reach it. -/
theorem pinned_iff {row : SLOEvaluation} :
    (row ∈ (pinWhere (unpinWhere table unpins now) pins now).rows ∧ row.isPinned = true) ↔
      Exists fun before => before ∈ table.rows ∧
        ((pins before = true ∧ row = before.setPinned now) ∨
          (pins before = false ∧ before.isPinned = true ∧ unpins before = false ∧ row = before)) := by
  unfold pinWhere unpinWhere
  constructor
  · rintro ⟨member, pinned⟩
    rcases (mem_updateWhere _ _ _ _ _).mp member with ⟨middle, inside, same⟩
    rcases (mem_updateWhere _ _ _ _ _).mp inside with ⟨before, beforeIn, isMiddle⟩
    refine ⟨before, beforeIn, ?_⟩
    have chosen : pins middle = pins before := by
      rw [<- isMiddle]
      split
      · exact byId before
      · rfl
    rw [chosen] at same
    cases choice : pins before with
    | true =>
        rw [if_pos choice, <- isMiddle] at same
        refine Or.inl ⟨rfl, ?_⟩
        rw [<- same]
        split <;> rfl
    | false =>
        rw [choice] at same
        have isRow : middle = row := same
        subst isRow
        by_cases reached : (unpins before && before.isPinned) = true
        · rw [if_pos reached] at isMiddle
          rw [<- isMiddle, SLOEvaluation.setUnpinned_isPinned] at pinned
          cases pinned
        · rw [if_neg reached] at isMiddle
          subst isMiddle
          rw [pinned, Bool.and_true, Bool.not_eq_true] at reached
          exact Or.inr ⟨rfl, pinned, reached, rfl⟩
  · rintro ⟨before, beforeIn, ⟨chosen, same⟩ | ⟨notChosen, pinned, left, same⟩⟩
    · refine ⟨(mem_updateWhere _ _ _ _ _).mpr ⟨_,
        (mem_updateWhere _ _ _ _ _).mpr ⟨before, beforeIn, rfl⟩, ?_⟩, same ▸ rfl⟩
      rw [same]
      by_cases reached : (unpins before && before.isPinned) = true
      · rw [if_pos reached, byId, if_pos chosen]
        rfl
      · rw [if_neg reached, if_pos chosen]
    · refine ⟨(mem_updateWhere _ _ _ _ _).mpr ⟨_,
        (mem_updateWhere _ _ _ _ _).mpr ⟨before, beforeIn, rfl⟩, ?_⟩, same ▸ pinned⟩
      simp only [left, notChosen, Bool.false_and, Bool.false_eq_true, if_false]
      exact same.symm

theorem soundPins_pinned (sound : SoundPins table)
    (eligible : forall row, row ∈ table.rows -> pins row = true ->
      row.status = .completed ∧ row.invalidated = false)
    (apart : forall first, first ∈ table.rows -> forall second, second ∈ table.rows ->
      pins first = true -> pins second = true ->
      second.SameSeries first.assetId first.sloName -> first.id = second.id)
    (covers : forall chosen, chosen ∈ table.rows -> pins chosen = true ->
      forall row, row ∈ table.rows -> row.isPinned = true ->
      row.SameSeries chosen.assetId chosen.sloName -> pins row = true ∨ unpins row = true) :
    SoundPins (pinWhere (unpinWhere table unpins now) pins now) where
  once := by
    refine atMostOnePin_of_old (fun row => pins row = true) (fun row => unpins row = true) sound.once
      ?_ apart covers
    intro row member pinned
    rcases (pinned_iff byId).mp ⟨member, pinned⟩ with
      ⟨before, beforeIn, ⟨chosen, same⟩ | ⟨_, wasPinned, left, same⟩⟩
    · exact ⟨before, beforeIn, same ▸ ⟨rfl, rfl, rfl⟩, Or.inl chosen⟩
    · refine ⟨before, beforeIn, same ▸ ⟨rfl, rfl, rfl⟩, Or.inr ⟨wasPinned, ?_⟩⟩
      rw [left]
      exact Bool.false_ne_true
  eligible := by
    intro row member pinned
    rcases (pinned_iff byId).mp ⟨member, pinned⟩ with
      ⟨before, beforeIn, ⟨chosen, same⟩ | ⟨_, wasPinned, _, same⟩⟩
    · rw [same]
      exact eligible before beforeIn chosen
    · rw [same]
      exact sound.eligible before beforeIn wasPinned

end Pinning

/-! ## Runs of operations -/

/-- The operation invalidates no pinned evaluation.  And where the SLO name is empty,
so that a single pin takes no other off, no other is pinned. -/
def KeepsReaders (table : Evaluations) : Operation -> Prop
  | .invalidate evalId =>
      forall row, row ∈ table.rows -> row.id = evalId -> row.isPinned = false
  | .invalidateMany evalIds =>
      forall row, row ∈ table.rows -> row.id ∈ evalIds -> row.isPinned = false
  | .pinBaseline evalId _ =>
      forall ev, ev ∈ table.rows -> ev.id = evalId -> ev.sloName = "" ->
        forall row, row ∈ table.rows -> row.isPinned = true ->
          row.SameSeries ev.assetId ev.sloName -> row.id = evalId
  | _ => True

instance (table : Evaluations) : DecidablePred (KeepsReaders table)
  | .createSlo _ _ => isTrue trivial
  | .reEvaluate _ _ _ => isTrue trivial
  | .overrideStatus _ _ _ _ => isTrue trivial
  | .restoreOverride _ => isTrue trivial
  | .overrideStatusMany _ _ _ _ => isTrue trivial
  | .restoreOverrideMany _ => isTrue trivial
  | .invalidate evalId =>
      inferInstanceAs (Decidable (forall row, row ∈ table.rows -> row.id = evalId ->
        row.isPinned = false))
  | .restore _ => isTrue trivial
  | .invalidateMany evalIds =>
      inferInstanceAs (Decidable (forall row, row ∈ table.rows -> row.id ∈ evalIds ->
        row.isPinned = false))
  | .restoreMany _ => isTrue trivial
  | .pinBaseline evalId _ =>
      inferInstanceAs (Decidable (forall ev, ev ∈ table.rows -> ev.id = evalId -> ev.sloName = "" ->
        forall row, row ∈ table.rows -> row.isPinned = true ->
          row.SameSeries ev.assetId ev.sloName -> row.id = evalId))
  | .unpinBaseline _ _ => isTrue trivial
  | .pinBaselineMany _ _ => isTrue trivial
  | .unpinBaselineMany _ _ => isTrue trivial

theorem pinBaseline_soundPins {table : Evaluations} (sound : SoundPins table) {evalId : Nat}
    {ev : SLOEvaluation} (found : table.find evalId = some ev) (now : Instant)
    (accepted : ev.status = .completed ∧ ev.invalidated = false) :
    SoundPins (pinWhere (unpinWhere table (inPinnedSeries ev) now) (fun row => row.id = evalId) now) ↔
      KeepsReaders table (.pinBaseline evalId now) := by
  have byId : forall row : SLOEvaluation, decide ((row.setUnpinned now).id = evalId) =
      decide (row.id = evalId) := fun _ => rfl
  have isEv : forall row, row ∈ table.rows -> decide (row.id = evalId) = true -> row = ev := by
    intro row member chosen
    rw [decide_eq_true_eq] at chosen
    exact eq_of_key member (find_mem found)
      (chosen.trans (find_key found).symm)
  constructor
  · intro after chosen chosenIn isChosen empty row member pinned series
    by_contra other
    cases isEv chosen chosenIn (decide_eq_true isChosen)
    have left : inPinnedSeries ev row = false := by
      unfold inPinnedSeries
      simp [empty]
    have rowAfter : row ∈ (pinWhere (unpinWhere table (inPinnedSeries ev) now)
        (fun row => decide (row.id = evalId)) now).rows ∧ row.isPinned = true :=
      (pinned_iff byId).mpr ⟨row, member, Or.inr ⟨decide_eq_false other, pinned, left, rfl⟩⟩
    have evAfter : ev.setPinned now ∈ (pinWhere (unpinWhere table (inPinnedSeries ev) now)
        (fun row => decide (row.id = evalId)) now).rows ∧ (ev.setPinned now).isPinned = true :=
      (pinned_iff byId).mpr ⟨ev, chosenIn, Or.inl ⟨decide_eq_true isChosen, rfl⟩⟩
    have same := after.once _ evAfter.1 row rowAfter.1 evAfter.2 pinned series
    exact other (same.symm.trans isChosen)
  · intro keeps
    refine soundPins_pinned byId sound ?_ ?_ ?_
    · intro row member chosen
      rw [isEv row member chosen]
      exact accepted
    · intro first firstIn second secondIn firstChosen secondChosen _
      rw [isEv first firstIn firstChosen, isEv second secondIn secondChosen]
    · intro chosen chosenIn isChosen row member pinned series
      cases isEv chosen chosenIn isChosen
      by_cases empty : ev.sloName = ""
      · have same := keeps ev chosenIn (of_decide_eq_true isChosen) empty row member pinned series
        exact Or.inl (decide_eq_true same)
      · unfold inPinnedSeries
        exact Or.inr (by simp [empty, series])

theorem pinBaselineMany_soundPins {table : Evaluations} (sound : SoundPins table)
    (evalIds : List Nat) (now : Instant) : SoundPins (pinBaselineMany table evalIds now) := by
  have chosenIn : forall row, row ∈ table.rows ->
      ((newestPerGroup (pinEligible table evalIds)).map (·.id)).contains row.id = true ->
        row.id ∈ (newestPerGroup (pinEligible table evalIds)).map (·.id) :=
    fun row _ chosen => List.contains_iff_mem.mp chosen
  unfold pinBaselineMany
  refine soundPins_pinned (fun _ => rfl) sound ?_ ?_ ?_
  · intro row member chosen
    rcases List.mem_map.mp (chosenIn row member chosen) with ⟨other, newest, same⟩
    have eligible := List.mem_filter.mp (mem_newestPerGroup newest)
    cases eq_of_key eligible.1 member same
    simp only [Bool.and_eq_true, decide_eq_true_eq, Bool.not_eq_true'] at eligible
    exact ⟨eligible.2.1.2, eligible.2.2⟩
  · intro first firstIn second secondIn firstChosen secondChosen series
    exact newestPerGroup_apart table evalIds first firstIn second secondIn
      (chosenIn first firstIn firstChosen) (chosenIn second secondIn secondChosen) series
  · intro chosen member isChosen row rowIn pinned series
    refine Or.inr ?_
    unfold inAffectedGroup
    rw [List.any_eq_true]
    exact ⟨chosen, member, by rw [isChosen, Bool.true_and]; exact decide_eq_true series⟩

theorem onTable_soundPins {table next : Evaluations} {operation : Operation} (sound : SoundPins table)
    (ran : operation.onTable table = some next) :
    SoundPins next ↔ KeepsReaders table operation := by
  have free : SoundPins next -> (SoundPins next ↔ True) := fun after => ⟨fun _ => trivial, fun _ => after⟩
  cases operation with
  | createSlo body firstId => cases ran
  | reEvaluate assigned clock request => cases ran
  | overrideStatus evalId newResult reason author =>
      rcases overrideStatus_onTable ran with rfl
      exact free (soundPins_updateWhere sound _ (SLOEvaluation.setOverridden_id _ reason author)
        (setOverridden_history _ reason author))
  | restoreOverride evalId =>
      rcases restoreOverride_onTable ran with rfl
      exact free (soundPins_updateWhere sound _ SLOEvaluation.setRestored_id setRestored_history)
  | overrideStatusMany evalIds newResult reason author =>
      cases ran
      exact free (soundPins_updateWhere sound _ (SLOEvaluation.setOverridden_id _ reason author)
        (setOverridden_history _ reason author))
  | restoreOverrideMany evalIds =>
      cases ran
      exact free (soundPins_updateWhere sound _ SLOEvaluation.setRestored_id setRestored_history)
  | invalidate evalId =>
      rcases Option.map_eq_some_iff.mp ran with ⟨_, _, same⟩
      cases same
      unfold invalidate update KeepsReaders
      rw [soundPins_invalidated sound]
      simp only [decide_eq_true_eq]
  | restore evalId =>
      rcases Option.map_eq_some_iff.mp ran with ⟨_, _, same⟩
      cases same
      exact free (soundPins_restored sound _)
  | invalidateMany evalIds =>
      cases ran
      unfold invalidateMany KeepsReaders
      rw [soundPins_invalidated sound]
      simp only [List.contains_iff_mem]
  | restoreMany evalIds =>
      cases ran
      exact free (soundPins_restored sound _)
  | pinBaseline evalId now =>
      rcases pinBaseline_onTable ran with ⟨ev, found, accepted, rfl⟩
      exact pinBaseline_soundPins sound found now accepted
  | unpinBaseline evalId now =>
      rcases Option.map_eq_some_iff.mp ran with ⟨_, _, same⟩
      cases same
      exact free (soundPins_unpinned sound _ now)
  | pinBaselineMany evalIds now =>
      cases ran
      exact free (pinBaselineMany_soundPins sound evalIds now)
  | unpinBaselineMany evalIds now =>
      cases ran
      exact free (soundPins_unpinned sound _ now)

theorem step_soundPins {db next : Database} {operation : Operation}
    (sound : SoundPins db.evaluations) (stepped : step db operation = some next) :
    SoundPins next.evaluations ↔ KeepsReaders db.evaluations operation := by
  rcases step_cases stepped with
    ⟨body, firstId, isCreate, created⟩ | ⟨assigned, clock, request, response, isReEval, ran⟩ |
      ⟨evaluations, onTable, same⟩
  · rw [isCreate, createSloDefinition_evaluations created]
    exact ⟨fun _ => trivial, fun _ => sound⟩
  · rw [isReEval]
    have after : SoundPins next.evaluations :=
      soundPins_related ((reEvaluate_rewrites ran).2.imp fun _ _ rewrites => rewrites.history) sound
    exact ⟨fun _ => trivial, fun _ => after⟩
  · rw [same]
    exact onTable_soundPins sound onTable

/-- The readers agree in every state of a run exactly when no operation invalidates a
pinned evaluation, or pins a second one. -/
theorem pin_readers_agree {start final : Database} {operations : List Operation}
    (agree : PinReadersAgree start.evaluations) (ran : exec step start operations = some final) :
    Always step (fun db => PinReadersAgree db.evaluations) start operations ↔
      Along step (fun db operation => KeepsReaders db.evaluations operation) start operations := by
  refine always_iff_along ?_ agree ran
  intro db operation next here stepped
  rw [pinReadersAgree_iff] at here ⊢
  exact step_soundPins here stepped

namespace Sample

def backendRow (id : Nat) (periodStart : Instant) : SLOEvaluation :=
  { id, evaluationId := 500 + id, evaluationName := "backend hourly", assetId := 4, periodStart,
    periodEnd := periodStart + 3600000000, result := some .warning, score := some 80,
    sloName := "backend", sloVersion := some 1, status := .completed }

def backendDatabase : Database :=
  { evaluations := (empty.insert (backendRow 20 0) rfl).insert (backendRow 21 3600000000) rfl
    runs := .empty
    sloDefinitions := .empty
    sliDefinitions := .empty
    dataSources := .empty
    assets := .empty }

def carefulOperations : List Operation :=
  [.pinBaseline 20 100, .invalidate 21, .overrideStatus 20 .fail "wrong data" "operator",
    .unpinBaseline 20 200, .invalidate 20]

def carelessOperations : List Operation :=
  [.pinBaseline 20 100, .invalidate 20]

theorem backend_agrees : PinReadersAgree backendDatabase.evaluations :=
  pinReadersAgree_iff.mpr ⟨by decide +kernel, by decide +kernel⟩

end Sample

theorem careful_readers_agree :
    Always step (fun db => PinReadersAgree db.evaluations) Sample.backendDatabase
      Sample.carefulOperations := by
  have ran : (exec step Sample.backendDatabase Sample.carefulOperations).isSome = true := by
    decide +kernel
  rcases Option.isSome_iff_exists.mp ran with ⟨final, ran⟩
  exact (pin_readers_agree Sample.backend_agrees ran).mpr (by decide +kernel)

/-- The pinned evaluation is invalidated: two readers still see the pin, and a
re-evaluation from the baseline finds none. -/
theorem invalidated_pin_divides_readers :
    Exists fun db => PinReadersAgree Sample.backendDatabase.evaluations ∧
      exec step Sample.backendDatabase Sample.carelessOperations = some db ∧
      activePinStart db.evaluations 4 "backend" = some 0 ∧
      getActivePin db.evaluations 4 "backend" = some (some (0, 20)) ∧
      (forall request, FromBaseline request ->
        (resolveFromDate request db.evaluations 4 "backend").toOption = none) ∧
      ¬ PinReadersAgree db.evaluations := by
  have ran : (exec step Sample.backendDatabase Sample.carelessOperations).map (fun db =>
      (activePinStart db.evaluations 4 "backend", getActivePin db.evaluations 4 "backend",
        (baselineAnchor db.evaluations 4 "backend").map (·.periodStart))) =
      some (some 0, some (some (0, 20)), none) := by
    decide +kernel
  rcases Option.map_eq_some_iff.mp ran with ⟨db, ran, values⟩
  rcases Prod.mk.inj values with ⟨bounds, values⟩
  rcases Prod.mk.inj values with ⟨active, anchor⟩
  refine ⟨db, Sample.backend_agrees, ran, bounds, active, ?_, ?_⟩
  · intro request fromBaseline
    rw [resolveFromDate_anchor fromBaseline, anchor]
  · intro agree
    rcases agree 4 "backend" with none | ⟨ev, sees⟩
    · cases bounds.symm.trans none.bounds
    · rw [sees.anchor] at anchor
      cases anchor

end Maintenance
end Tropek
