import Mathlib.Data.List.Dedup
import Tropek.Library.Batches
import Tropek.Maintenance.BulkActions

namespace Tropek
namespace Maintenance

open Library Engine Store KeyedTable

namespace BulkActions

/-!
# A bulk action and the single actions

Both endpoints of an action are one row action, applied to one row after another or to a
table at once.  The pin times of the single calls differ from each other and from that of
the bulk request, so the rows are compared without them.

Three corners are outside the comparison.  A single restore of an override refuses the
identifier that it has just restored, while a bulk request lists it as done.  A completed
row without a result has nothing to keep as its original, so a second override takes the
first one for it.  And a pin of an evaluation whose SLO name is empty takes no other pin
off, while a bulk pin does.
-/

/-! ## The row action -/

def BulkAction.accepts (action : BulkAction) (row : EvaluationRow) : Bool :=
  match action with
  | .overrideStatus _ _ _ => row.status = .completed
  | .restoreOverride => row.originalResult.isSome
  | .pinBaseline _ _ => row.status = .completed && !row.invalidated
  | _ => true

def BulkAction.write (action : BulkAction) (now : Instant) (row : EvaluationRow) : EvaluationRow :=
  match action with
  | .invalidate note => row.setInvalidated note
  | .restore => row.setValid
  | .overrideStatus newResult reason author =>
      row.setOverriddenCoalescing (.ofOutcome newResult) reason author
  | .restoreOverride => row.setRestoredOwn
  | .pinBaseline reason author => row.setPinned reason author now
  | .unpinBaseline => row.setUnpinned now

def BulkAction.displaces (action : BulkAction) (chosen row : EvaluationRow) : Bool :=
  match action with
  | .pinBaseline _ _ =>
      chosen.sloName ≠ "" && (row.SameSeries chosen.assetId chosen.sloName && row.isPinned)
  | _ => false

def BulkAction.displace (action : BulkAction) (now : Instant) (row : EvaluationRow) :
    EvaluationRow :=
  match action with
  | .pinBaseline _ _ => row.setUnpinned now
  | _ => row

def BulkAction.rowAction (action : BulkAction) (now : Instant) : Batches.RowAction EvaluationRow where
  accepts := action.accepts
  write := action.write now
  displaces := action.displaces
  displace := action.displace now

@[simp] theorem write_key (action : BulkAction) (now : Instant) (row : EvaluationRow) :
    (action.write now row).key = row.key := by
  cases action <;> rfl

@[simp] theorem displace_key (action : BulkAction) (now : Instant) (row : EvaluationRow) :
    (action.displace now row).key = row.key := by
  cases action <;> rfl

@[simp] theorem cachesOf_write (action : BulkAction) (now : Instant) (row : EvaluationRow) :
    cachesOf (action.write now row) = cachesOf row := by
  cases action <;> rfl

@[simp] theorem cachesOf_displace (action : BulkAction) (now : Instant) (row : EvaluationRow) :
    cachesOf (action.displace now row) = cachesOf row := by
  cases action <;> rfl

theorem displaced (action : BulkAction) (now : Instant) (chosen row : EvaluationRow) :
    action.displaces chosen (action.displace now row) = false := by
  cases action with
  | pinBaseline reason author =>
      simp [BulkAction.displaces, BulkAction.displace, EvaluationRow.setUnpinned,
        SLOEvaluation.isPinned]
  | _ => rfl

theorem rowAction_lawful (action : BulkAction) (now : Instant) :
    (action.rowAction now).Lawful EvaluationRow.key where
  key_write := write_key action now
  key_displace := displace_key action now
  accepts_displace := fun row => by cases action <;> rfl
  write_displace := fun row => by cases action <;> rfl
  displaces_write := fun chosen row => by cases action <;> rfl
  displaces_displace := fun chosen row => by cases action <;> rfl
  displaced := displaced action now

/-! ## Rows without pin times -/

/-- The row with the times of its pin left out, but not whether it has them. -/
def EvaluationRow.withoutPinTimes (row : EvaluationRow) : EvaluationRow :=
  { row with baselinePinnedAt := row.baselinePinnedAt.map fun _ => 0,
             baselineUnpinnedAt := row.baselineUnpinnedAt.map fun _ => 0 }

@[simp] theorem withoutPinTimes_key (row : EvaluationRow) : row.withoutPinTimes.key = row.key :=
  rfl

@[simp] theorem cachesOf_withoutPinTimes (row : EvaluationRow) :
    cachesOf row.withoutPinTimes = cachesOf row :=
  rfl

@[simp] theorem accepts_withoutPinTimes (action : BulkAction) (row : EvaluationRow) :
    action.accepts row.withoutPinTimes = action.accepts row := by
  cases action <;> rfl

@[simp] theorem isPinned_withoutPinTimes (row : EvaluationRow) :
    row.withoutPinTimes.isPinned = row.isPinned := by
  simp [EvaluationRow.withoutPinTimes, SLOEvaluation.isPinned]

@[simp] theorem displaces_withoutPinTimes (action : BulkAction) (chosen row : EvaluationRow) :
    action.displaces chosen.withoutPinTimes row.withoutPinTimes = action.displaces chosen row := by
  cases action with
  | pinBaseline reason author =>
      simp only [BulkAction.displaces, isPinned_withoutPinTimes]
      rfl
  | _ => rfl

theorem withoutPinTimes_write (action : BulkAction) (now : Instant) (row : EvaluationRow) :
    (action.write now row).withoutPinTimes = action.write 0 row.withoutPinTimes := by
  cases action <;> rfl

theorem withoutPinTimes_displace (action : BulkAction) (now : Instant) (row : EvaluationRow) :
    (action.displace now row).withoutPinTimes = action.displace 0 row.withoutPinTimes := by
  cases action <;> rfl

theorem withoutPinTimes_ite (condition : Prop) [Decidable condition] (one other : EvaluationRow) :
    (if condition then one else other).withoutPinTimes =
      if condition then one.withoutPinTimes else other.withoutPinTimes := by
  split <;> rfl

theorem withoutPinTimes_becomes (action : BulkAction) (now : Instant) (chosen row : EvaluationRow) :
    ((action.rowAction now).becomes EvaluationRow.key chosen row).withoutPinTimes =
      (action.rowAction 0).becomes EvaluationRow.key chosen.withoutPinTimes
        row.withoutPinTimes := by
  change (if row.key = chosen.key then action.write now row
      else if action.displaces chosen row then action.displace now row else row).withoutPinTimes =
    if row.key = chosen.key then action.write 0 row.withoutPinTimes
      else if action.displaces chosen.withoutPinTimes row.withoutPinTimes then
        action.displace 0 row.withoutPinTimes
      else row.withoutPinTimes
  simp only [withoutPinTimes_ite, displaces_withoutPinTimes, withoutPinTimes_write action now,
    withoutPinTimes_displace action now]

theorem withoutPinTimes_after (action : BulkAction) (now : Instant) (rows : List EvaluationRow)
    (evalIds : List Nat) (row : EvaluationRow) :
    ((action.rowAction now).after EvaluationRow.key rows evalIds row).withoutPinTimes =
      (action.rowAction 0).after EvaluationRow.key (rows.map EvaluationRow.withoutPinTimes) evalIds
        row.withoutPinTimes := by
  change (if evalIds.contains row.key && action.accepts row then action.write now row
      else if rows.any fun chosen =>
          (evalIds.contains chosen.key && action.accepts chosen) && action.displaces chosen row then
        action.displace now row
      else row).withoutPinTimes =
    if evalIds.contains row.key && action.accepts row.withoutPinTimes then
        action.write 0 row.withoutPinTimes
      else if (rows.map EvaluationRow.withoutPinTimes).any fun chosen =>
          (evalIds.contains chosen.key && action.accepts chosen) &&
            action.displaces chosen row.withoutPinTimes then
        action.displace 0 row.withoutPinTimes
      else row.withoutPinTimes
  simp only [List.any_map, Function.comp_def, withoutPinTimes_ite, withoutPinTimes_key,
    accepts_withoutPinTimes, displaces_withoutPinTimes, withoutPinTimes_write action now,
    withoutPinTimes_displace action now]

/-! ## One call of the endpoint for one evaluation -/

variable {table : EvaluationRows} {now : Instant} {action : BulkAction} {evalId : Nat}
  {ev row : EvaluationRow} {change : EvaluationRow -> EvaluationRow} {rows : List EvaluationRow}
  {evalIds : List Nat}

theorem single_of_none (absent : table.find evalId = none) :
    action.single table evalId now = .error (.notFound "evaluation" evalId) := by
  cases action <;>
    simp [BulkAction.single, invalidateEvaluationSingular, restoreEvaluationSingular,
      overrideStatusSingular, restoreOverrideSingular, pinBaselineSingular, unpinBaselineSingular,
      checked, invalidate, restore, singular, orNotFound, absent]

theorem single_of_refused (now : Instant) (found : table.find evalId = some ev)
    (refused : action.accepts ev = false) :
    Exists fun reason =>
      action.single table evalId now = .error (.conflict "evaluation" evalId reason) := by
  cases action with
  | overrideStatus newResult reason author =>
      have notCompleted : ev.status ≠ .completed := of_decide_eq_false refused
      refine ⟨"only completed evaluations can be overridden", ?_⟩
      simp [BulkAction.single, overrideStatusSingular, checked, found, overrideRefusal, notCompleted]
  | restoreOverride =>
      have notOverridden : ev.originalResult = none := by
        simpa [BulkAction.accepts] using refused
      refine ⟨"has no override to restore", ?_⟩
      simp [BulkAction.single, restoreOverrideSingular, checked, found, restoreOverrideRefusal,
        notOverridden]
  | pinBaseline reason author =>
      by_cases completed : ev.status = .completed
      · have invalidated : ev.invalidated = true := by
          simpa [BulkAction.accepts, completed] using refused
        refine ⟨"cannot pin an invalidated evaluation", ?_⟩
        simp [BulkAction.single, pinBaselineSingular, checked, found, pinRefusal, completed,
          invalidated]
      · refine ⟨"only completed evaluations can be pinned", ?_⟩
        simp [BulkAction.single, pinBaselineSingular, checked, found, pinRefusal, completed]
  | _ => cases refused

theorem update_becomes (action : BulkAction) (now : Instant) (found : table.find evalId = some ev)
    (keeps : forall chosen row, action.displaces chosen row = false)
    {keepsKey : forall row, (change row).key = row.key} (writes : change ev = action.write now ev) :
    (table.update evalId change keepsKey).rows =
      table.rows.map ((action.rowAction now).becomes EvaluationRow.key ev) := by
  have isKey : ev.key = evalId := find_key found
  rw [update_rows]
  apply List.map_congr_left
  intro row member
  simp only [Batches.RowAction.becomes, BulkAction.rowAction, keeps, isKey, Bool.false_eq_true,
    if_false]
  by_cases here : row.key = evalId
  · have same : row = ev :=
      eq_of_key member (find_mem found) (here.trans isKey.symm)
    rw [if_pos here, if_pos here, same, writes]
  · rw [if_neg here, if_neg here]

/-- The two statements of a pin: what the first one takes off by key is pinned by the second. -/
theorem pin_becomes (found : table.find evalId = some ev) (reason author : String) (now : Instant) :
    ((unpinSeries table ev now).update evalId (EvaluationRow.setPinned reason author now)
        (EvaluationRow.setPinned_key reason author now)).rows =
      table.rows.map
        (((BulkAction.pinBaseline reason author).rowAction now).becomes EvaluationRow.key ev) := by
  have isKey : ev.key = evalId := find_key found
  rw [update_rows]
  unfold unpinSeries
  by_cases named : ev.sloName = ""
  · simp [named, Batches.RowAction.becomes, BulkAction.rowAction, isKey, BulkAction.displaces,
      BulkAction.write]
  · rw [if_pos named]
    change List.map _ (List.map _ _) = _
    rw [List.map_map]
    apply List.map_congr_left
    intro row _
    simp only [Function.comp_apply, Batches.RowAction.becomes, BulkAction.rowAction,
      BulkAction.displaces, BulkAction.displace, BulkAction.write, isKey, named, ne_eq,
      not_false_eq_true, decide_true, Bool.true_and]
    by_cases taken : (decide (row.SameSeries ev.assetId ev.sloName) && row.isPinned) = true
    · simp only [taken, if_true]
      rfl
    · simp only [taken, Bool.false_eq_true, if_false]

/-- An accepted call applies the row action, and deletes the cache entries of the row. -/
theorem single_of_accepted (now : Instant) (found : table.find evalId = some ev)
    (accepted : action.accepts ev = true) :
    Exists fun rows => action.single table evalId now = .ok { rows, deleted := cachesOf ev } ∧
      rows.rows = table.rows.map ((action.rowAction now).becomes EvaluationRow.key ev) := by
  cases action with
  | invalidate note =>
      refine ⟨table.update evalId _ (EvaluationRow.setInvalidated_key note), ?_, ?_⟩
      · simp [BulkAction.single, invalidateEvaluationSingular, invalidate, singular, orNotFound, found]
      · exact update_becomes (.invalidate note) now found (fun _ _ => rfl) rfl
  | restore =>
      refine ⟨table.update evalId _ EvaluationRow.setValid_key, ?_, ?_⟩
      · simp [BulkAction.single, restoreEvaluationSingular, restore, singular, orNotFound, found]
      · exact update_becomes .restore now found (fun _ _ => rfl) rfl
  | overrideStatus newResult reason author =>
      have completed : ev.status = .completed := of_decide_eq_true accepted
      refine ⟨table.update evalId _
        (EvaluationRow.setOverridden_key (.ofOutcome newResult) reason author ev), ?_, ?_⟩
      · simp [BulkAction.single, overrideStatusSingular, checked, found, overrideRefusal, completed,
          overrideStatus, singular, orNotFound]
      · apply update_becomes (.overrideStatus newResult reason author) now found fun _ _ => rfl
        cases original : ev.originalResult <;>
          simp [EvaluationRow.setOverridden, BulkAction.write,
            EvaluationRow.setOverriddenCoalescing, original]
  | restoreOverride =>
      have overridden : ev.originalResult ≠ none := Option.isSome_iff_ne_none.mp accepted
      refine ⟨table.update evalId _ (EvaluationRow.setRestored_key ev.originalResult), ?_, ?_⟩
      · simp [BulkAction.single, restoreOverrideSingular, checked, found, restoreOverrideRefusal,
          overridden, restoreOverride, orNotFound]
      · exact update_becomes .restoreOverride now found (fun _ _ => rfl) rfl
  | pinBaseline reason author =>
      have eligible : ev.status = .completed ∧ ev.invalidated = false := by
        simpa [BulkAction.accepts] using accepted
      refine ⟨(unpinSeries table ev now).update evalId _
        (EvaluationRow.setPinned_key reason author now), ?_, ?_⟩
      · simp [BulkAction.single, pinBaselineSingular, checked, found, pinRefusal, eligible,
          pinBaseline, singular, orNotFound]
      · exact pin_becomes found reason author now
  | unpinBaseline =>
      refine ⟨table.update evalId _ (EvaluationRow.setUnpinned_key now), ?_, ?_⟩
      · simp [BulkAction.single, unpinBaselineSingular, checked, found, unpinBaseline, singular,
          orNotFound]
      · exact update_becomes .unpinBaseline now found (fun _ _ => rfl) rfl

/-- The calls so far are a run of the row action at time zero on the rows without their pin
times. -/
structure Simulates (calls : SingleCalls) (run : Batches.Run EvaluationRow Nat) : Prop where
  rows : calls.rows.rows.map EvaluationRow.withoutPinTimes = run.rows
  deleted : calls.deleted = (run.applied.map cachesOf).flatten
  applied : calls.applied = run.applied.map EvaluationRow.key
  refused : calls.refused = run.refused

theorem call_simulates (action : BulkAction) {calls : SingleCalls}
    {run : Batches.Run EvaluationRow Nat} (simulates : Simulates calls run)
    (request : Nat × Instant) :
    Simulates (action.call calls request)
      ((action.rowAction 0).call EvaluationRow.key run request.1) := by
  have found : (run.rows.find? fun row => row.key = request.1) =
      (calls.rows.find request.1).map EvaluationRow.withoutPinTimes := by
    rw [<- simulates.rows, List.find?_map]
    rfl
  cases isRow : calls.rows.find request.1 with
  | none =>
      rw [isRow] at found
      rw [Batches.call_of_none found]
      unfold BulkAction.call
      rw [single_of_none isRow]
      exact { simulates with refused := by simp [simulates.refused] }
  | some ev =>
      rw [isRow] at found
      cases accepted : action.accepts ev with
      | false =>
          rcases single_of_refused request.2 isRow accepted with ⟨reason, single⟩
          rw [Batches.call_of_refused found ((accepts_withoutPinTimes action ev).trans accepted)]
          unfold BulkAction.call
          rw [single]
          exact { simulates with refused := by simp [simulates.refused] }
      | true =>
          rcases single_of_accepted request.2 isRow accepted with ⟨rows, single, becomes⟩
          rw [Batches.call_of_accepted found ((accepts_withoutPinTimes action ev).trans accepted)]
          unfold BulkAction.call
          rw [single]
          exact {
            rows := by
              rw [becomes, <- simulates.rows, List.map_map, List.map_map]
              exact List.map_congr_left fun row _ => withoutPinTimes_becomes action request.2 ev row
            deleted := by simp [simulates.deleted]
            applied := by
              have isKey : ev.key = request.1 := find_key isRow
              simp [simulates.applied, isKey]
            refused := simulates.refused }

theorem singles_simulate (action : BulkAction) (table : EvaluationRows)
    (requests : List (Nat × Instant)) :
    Simulates (action.singles table requests)
      ((action.rowAction 0).run EvaluationRow.key (table.rows.map EvaluationRow.withoutPinTimes)
        (requests.map Prod.fst)) := by
  have further : forall (calls : SingleCalls) (run : Batches.Run EvaluationRow Nat),
      Simulates calls run ->
        Simulates (requests.foldl action.call calls)
          ((requests.map Prod.fst).foldl ((action.rowAction 0).call EvaluationRow.key) run) := by
    induction requests with
    | nil => exact fun _ _ simulates => simulates
    | cons request rest ih =>
        intro calls run simulates
        exact ih _ _ (call_simulates action simulates request)
  exact further _ _ ⟨rfl, rfl, rfl, rfl⟩

/-! ## The bulk statements -/

theorem mem_invalidateCachesFor {entry : CacheEntry} :
    entry ∈ invalidateCachesFor rows ↔ Exists fun row => row ∈ rows ∧ entry ∈ cachesOf row := by
  unfold invalidateCachesFor cachesOf invalidateHeatmapColumn
  simp only [List.mem_append, List.mem_flatMap, List.mem_dedup, List.mem_map, List.mem_singleton]
  constructor
  · rintro (⟨_, ⟨row, member, rfl⟩, baseline⟩ | ⟨_, ⟨row, member, rfl⟩, rfl⟩)
    · exact ⟨row, member, Or.inl baseline⟩
    · exact ⟨row, member, Or.inr rfl⟩
  · rintro ⟨row, member, baseline | column⟩
    · exact Or.inl ⟨_, ⟨row, member, rfl⟩, baseline⟩
    · exact Or.inr ⟨_, ⟨row, member, rfl⟩, column.symm⟩

theorem updateMany_rows (table : EvaluationRows) (evalIds : List Nat)
    (change : EvaluationRow -> EvaluationRow) (keeps : forall row, (change row).key = row.key) :
    (updateMany table evalIds change keeps).rows.rows =
      table.rows.map fun row => if evalIds.contains row.id then change row else row := by
  unfold updateMany
  split
  · rename_i empty
    simp [empty]
  · rfl

theorem updateMany_affected (table : EvaluationRows) (evalIds : List Nat)
    (change : EvaluationRow -> EvaluationRow) (keeps : forall row, (change row).key = row.key) :
    (updateMany table evalIds change keeps).affected =
      (table.rows.filter fun row => evalIds.contains row.id).map change := by
  have kept : forall row, (change row).id = row.id := keeps
  unfold updateMany
  split
  · rename_i empty
    simp [empty]
  · change ((table.rows.map fun row => if evalIds.contains row.id then change row else row).filter
      fun row => evalIds.contains row.id) = _
    induction table.rows with
    | nil => rfl
    | cons row rest ih =>
        rw [List.map_cons, List.filter_cons, List.filter_cons, ih]
        cases selected : evalIds.contains row.id with
        | true => simp only [kept, selected, if_true, List.map_cons]
        | false => simp only [selected, Bool.false_eq_true, if_false]

theorem updateMany_deleted (table : EvaluationRows) (evalIds : List Nat)
    (change : EvaluationRow -> EvaluationRow) (keeps : forall row, (change row).key = row.key) :
    (updateMany table evalIds change keeps).deleted =
      invalidateCachesFor (updateMany table evalIds change keeps).affected := by
  unfold updateMany
  split <;> rfl

/-- The bulk statements apply the row action at once to the rows that it selects. -/
structure AppliesAtOnce (action : BulkAction) (now : Instant) (table : EvaluationRows)
    (evalIds : List Nat) (changed : ChangedMany) : Prop where
  rows : changed.rows.rows =
    table.rows.map ((action.rowAction now).after EvaluationRow.key table.rows evalIds)
  affected : forall evalId, evalId ∈ changed.affected.map (fun row => row.id) ↔
    Exists fun row => row ∈ table.rows ∧
      (action.rowAction now).selects EvaluationRow.key evalIds row = true ∧ row.id = evalId
  deleted : forall entry, entry ∈ changed.deleted ↔
    Exists fun row => row ∈ table.rows ∧
      (action.rowAction now).selects EvaluationRow.key evalIds row = true ∧ entry ∈ cachesOf row

/-- A statement for chosen identifiers, after one that changed neither keys nor caches. -/
theorem updateMany_applies {base : EvaluationRows} {chosenIds : List Nat}
    {prior : EvaluationRow -> EvaluationRow} {keeps : forall row, (change row).key = row.key}
    (started : base.rows = table.rows.map prior) (priorKey : forall row, (prior row).key = row.key)
    (caches : forall row, cachesOf (change (prior row)) = cachesOf row)
    (chosen : forall row, row ∈ table.rows ->
      chosenIds.contains row.id = (action.rowAction now).selects EvaluationRow.key evalIds row)
    (rows : forall row, row ∈ table.rows ->
      (if chosenIds.contains row.id then change (prior row) else prior row) =
        (action.rowAction now).after EvaluationRow.key table.rows evalIds row) :
    AppliesAtOnce action now table evalIds (updateMany base chosenIds change keeps) := by
  have kept : forall row, (prior row).id = row.id := priorKey
  have affected : (updateMany base chosenIds change keeps).affected =
      (table.rows.filter fun row =>
        (action.rowAction now).selects EvaluationRow.key evalIds row).map
          fun row => change (prior row) := by
    rw [updateMany_affected, started, List.filter_map, List.map_map, <- List.filter_congr chosen]
    simp [Function.comp_def, kept]
  refine ⟨?_, fun evalId => ?_, fun entry => ?_⟩
  · rw [updateMany_rows, started, List.map_map]
    apply List.map_congr_left
    intro row member
    rw [<- rows row member, Function.comp_apply, kept]
  · have changeId : forall row, (change (prior row)).id = row.id := fun row =>
      (keeps (prior row)).trans (priorKey row)
    rw [affected]
    simp [changeId, and_assoc]
  · rw [updateMany_deleted, mem_invalidateCachesFor, affected]
    simp [caches, and_assoc]

/-! ## When the two agree -/

def OnePerSeries (table : EvaluationRows) (evalIds : List Nat) : Prop :=
  forall first, first ∈ table.rows -> forall second, second ∈ table.rows ->
    first.id ∈ evalIds -> second.id ∈ evalIds ->
    second.SameSeries first.assetId first.sloName -> first.id = second.id

instance (table : EvaluationRows) (evalIds : List Nat) : Decidable (OnePerSeries table evalIds) :=
  inferInstanceAs (Decidable (forall first, first ∈ table.rows -> forall second,
    second ∈ table.rows -> first.id ∈ evalIds -> second.id ∈ evalIds ->
    second.SameSeries first.assetId first.sloName -> first.id = second.id))

/-- What the comparison of a bulk action with the single ones asks of the identifiers.
Two of the six actions ask for something. -/
def BulkAction.Comparable (action : BulkAction) (table : EvaluationRows) (evalIds : List Nat) :
    Prop :=
  match action with
  | .overrideStatus _ _ _ =>
      -- A completed evaluation that is named twice has a result, or an original one.
      forall row, row ∈ table.rows -> 2 ≤ evalIds.count row.id -> row.status = .completed ->
        row.originalResult = none -> row.result ≠ none
  | .pinBaseline _ _ =>
      -- Where the SLO name is empty, no other evaluation of the asset is pinned under it.
      OnePerSeries table evalIds ∧
        forall chosen, chosen ∈ table.rows -> chosen.id ∈ evalIds -> chosen.sloName = "" ->
          forall row, row ∈ table.rows -> row.isPinned = true ->
            row.SameSeries chosen.assetId chosen.sloName -> row.id = chosen.id
  | _ => True

theorem after_of_keeps (keeps : forall chosen row, action.displaces chosen row = false)
    (row : EvaluationRow) :
    (action.rowAction now).after EvaluationRow.key rows evalIds row =
      if (action.rowAction now).selects EvaluationRow.key evalIds row then action.write now row
      else row := by
  have never : forall chosen, (action.rowAction now).displaces chosen row = false :=
    fun chosen => keeps chosen row
  simp [Batches.RowAction.after, never]
  rfl

theorem newestPerGroup_of_apart {rows : List SLOEvaluation}
    (apart : rows.Pairwise fun first second => ¬ second.SameSeries first.assetId first.sloName) :
    newestPerGroup rows = rows := by
  have further : forall kept : List SLOEvaluation,
      ((kept ++ rows).Pairwise fun first second =>
        ¬ second.SameSeries first.assetId first.sloName) ->
        rows.foldl keepNewest kept = kept ++ rows := by
    clear apart
    induction rows with
    | nil => simp
    | cons row rest ih =>
        intro kept apart
        have unseen : (kept.find? fun current => current.SameSeries row.assetId row.sloName) = none := by
          rw [List.find?_eq_none]
          intro current member series
          have same := of_decide_eq_true series
          exact (List.pairwise_append.mp apart).2.2 current member row List.mem_cons_self
            ⟨same.1.symm, same.2.symm⟩
        have step : keepNewest kept row = kept ++ [row] := by simp [keepNewest, unseen]
        rw [List.foldl_cons, step, ih]
        · simp
        · simpa using apart
  exact further [] apart

theorem contains_pinIds (apart : OnePerSeries table evalIds) (member : row ∈ table.rows) :
    (pinIds (eligibleRows table evalIds)).contains row.id =
      (evalIds.contains row.id && (row.status = .completed && !row.invalidated)) := by
  have series : ((eligibleRows table evalIds).map EvaluationRow.toSLOEvaluation).Pairwise
      fun first second => ¬ second.SameSeries first.assetId first.sloName := by
    have distinct : ((eligibleRows table evalIds).map EvaluationRow.key).Nodup :=
      (List.filter_sublist.map EvaluationRow.key).nodup table.nodup
    rw [List.pairwise_map]
    rw [List.Nodup, List.pairwise_map] at distinct
    refine distinct.imp_of_mem fun {first second} firstIn secondIn different same => different ?_
    have one := List.mem_filter.mp firstIn
    have two := List.mem_filter.mp secondIn
    simp only [Bool.and_eq_true, List.contains_iff_mem] at one two
    exact apart first one.1 second two.1 one.2.1.1 two.2.1.1 same
  have chosen := contains_eligibleIds evalIds
    (fun row => row.status = .completed && !row.invalidated) member
  rw [<- chosen]
  unfold pinIds eligibleIds
  rw [newestPerGroup_of_apart series, List.map_map]
  unfold eligibleRows
  simp only [Bool.and_assoc]
  rfl

theorem updateMany_applies_of_keeps {chosenIds : List Nat}
    {keepsKey : forall row, (change row).key = row.key}
    (keeps : forall chosen row, action.displaces chosen row = false)
    (writes : change = action.write now)
    (chosen : forall row, row ∈ table.rows ->
      chosenIds.contains row.id = (action.rowAction now).selects EvaluationRow.key evalIds row) :
    AppliesAtOnce action now table evalIds (updateMany table chosenIds change keepsKey) := by
  subst writes
  refine updateMany_applies (List.map_id _).symm (fun _ => rfl) (cachesOf_write action now) chosen ?_
  intro row member
  rw [after_of_keeps keeps, chosen row member]
  rfl

theorem applies_of_unselected
    (unselected : forall row, row ∈ table.rows ->
      (action.rowAction now).selects EvaluationRow.key evalIds row = false) :
    AppliesAtOnce action now table evalIds { rows := table } := by
  have never : forall row, row ∈ table.rows ->
      ¬ (action.rowAction now).selects EvaluationRow.key evalIds row = true :=
    fun row member => Bool.eq_false_iff.mp (unselected row member)
  refine ⟨?_, fun evalId => ?_, fun entry => ?_⟩
  · have unchanged : forall row, row ∈ table.rows ->
        (action.rowAction now).after EvaluationRow.key table.rows evalIds row = row := by
      intro row member
      have nobody : (table.rows.any fun chosen =>
          (action.rowAction now).selects EvaluationRow.key evalIds chosen &&
            (action.rowAction now).displaces chosen row) = false := by
        rw [List.any_eq_false]
        intro other inside
        simp [unselected other inside]
      simp [Batches.RowAction.after, unselected row member, nobody]
    simpa using (List.map_congr_left unchanged).symm
  · simpa using fun row member selected => absurd selected (never row member)
  · simpa using fun row member selected => absurd selected (never row member)

theorem inGroupOf_eq {reason author : String}
    (comparable : (BulkAction.pinBaseline reason author).Comparable table evalIds) (now : Instant)
    (member : row ∈ table.rows)
    (unselected : ((BulkAction.pinBaseline reason author).rowAction now).selects EvaluationRow.key
      evalIds row = false) :
    (inGroupOf table (pinIds (eligibleRows table evalIds)) row && row.isPinned) =
      table.rows.any fun chosen =>
        ((BulkAction.pinBaseline reason author).rowAction now).selects EvaluationRow.key evalIds
            chosen && (BulkAction.pinBaseline reason author).displaces chosen row := by
  unfold inGroupOf
  rw [Bool.eq_iff_iff, Bool.and_eq_true, List.any_eq_true, List.any_eq_true]
  constructor
  · rintro ⟨⟨chosen, chosenIn, both⟩, pinned⟩
    rcases Bool.and_eq_true_iff.mp both with ⟨inPins, series⟩
    rw [contains_pinIds comparable.1 chosenIn] at inPins
    have named : chosen.sloName ≠ "" := by
      intro empty
      have requested : chosen.id ∈ evalIds := by
        simpa using (Bool.and_eq_true_iff.mp inPins).1
      have same := comparable.2 chosen chosenIn requested empty row member pinned
        (of_decide_eq_true series)
      rw [eq_of_key member chosenIn same] at unselected
      exact absurd (inPins.symm.trans unselected) (by simp)
    refine ⟨chosen, chosenIn, Bool.and_eq_true_iff.mpr ⟨inPins, ?_⟩⟩
    simp [BulkAction.displaces, named, of_decide_eq_true series, pinned]
  · rintro ⟨chosen, chosenIn, both⟩
    rcases Bool.and_eq_true_iff.mp both with ⟨selected, displaces⟩
    simp only [BulkAction.displaces, Bool.and_eq_true] at displaces
    refine ⟨⟨chosen, chosenIn, Bool.and_eq_true_iff.mpr ⟨?_, displaces.2.1⟩⟩, displaces.2.2⟩
    exact (contains_pinIds comparable.1 chosenIn).trans selected

theorem pinBaselineMany_applies {reason author : String}
    (comparable : (BulkAction.pinBaseline reason author).Comparable table evalIds) (now : Instant) :
    AppliesAtOnce (.pinBaseline reason author) now table evalIds
      (pinBaselineMany table evalIds reason author now) := by
  have chosen : forall row, row ∈ table.rows ->
      (pinIds (eligibleRows table evalIds)).contains row.id =
        ((BulkAction.pinBaseline reason author).rowAction now).selects EvaluationRow.key evalIds
          row := fun row member => contains_pinIds comparable.1 member
  unfold pinBaselineMany
  dsimp only
  split
  · rename_i none
    have noPins : pinIds (eligibleRows table evalIds) = [] := by
      rw [List.isEmpty_iff.mp none]
      rfl
    have unselected : forall row, row ∈ table.rows ->
        ((BulkAction.pinBaseline reason author).rowAction now).selects EvaluationRow.key evalIds
          row = false := by
      intro row member
      rw [<- chosen row member, noPins]
      rfl
    exact applies_of_unselected unselected
  · refine updateMany_applies rfl (fun row => ?_) (fun row => ?_) chosen fun row member => ?_
    · split <;> rfl
    · split <;> rfl
    · rw [chosen row member]
      unfold Batches.RowAction.after
      cases selected : ((BulkAction.pinBaseline reason author).rowAction now).selects
          EvaluationRow.key evalIds row with
      | true =>
          simp only [if_true]
          split <;> rfl
      | false =>
          have displaced := inGroupOf_eq comparable now member selected
          simp only [Bool.false_eq_true, if_false]
          exact if_congr (Bool.eq_iff_iff.mp displaced) rfl rfl

theorem many_applies (comparable : action.Comparable table evalIds) (now : Instant) :
    AppliesAtOnce action now table evalIds (action.many table evalIds now) := by
  cases action with
  | invalidate note =>
      exact updateMany_applies_of_keeps (fun _ _ => rfl) rfl fun row _ => (Bool.and_true _).symm
  | restore =>
      exact updateMany_applies_of_keeps (fun _ _ => rfl) rfl fun row _ => (Bool.and_true _).symm
  | overrideStatus newResult reason author =>
      exact updateMany_applies_of_keeps (fun _ _ => rfl) rfl fun row member =>
        contains_eligibleIds evalIds _ member
  | restoreOverride =>
      exact updateMany_applies_of_keeps (fun _ _ => rfl) rfl fun row member =>
        contains_eligibleIds evalIds _ member
  | pinBaseline reason author => exact pinBaselineMany_applies comparable now
  | unpinBaseline =>
      exact updateMany_applies_of_keeps (fun _ _ => rfl) rfl fun row _ => (Bool.and_true _).symm

/-! ## The comparison -/

theorem selects_withoutPinTimes (action : BulkAction) (now : Instant) (evalIds : List Nat)
    (row : EvaluationRow) :
    (action.rowAction 0).selects EvaluationRow.key evalIds row.withoutPinTimes =
      (action.rowAction now).selects EvaluationRow.key evalIds row := by
  change (evalIds.contains row.key && action.accepts row.withoutPinTimes) =
    (evalIds.contains row.key && action.accepts row)
  rw [accepts_withoutPinTimes]

theorem apart_of_comparable (comparable : action.Comparable table evalIds) :
    (action.rowAction 0).Apart EvaluationRow.key (table.rows.map EvaluationRow.withoutPinTimes)
      evalIds := by
  cases action with
  | pinBaseline reason author =>
      intro chosen chosenIn row rowIn selectsChosen selectsRow different
      rcases List.mem_map.mp chosenIn with ⟨one, oneIn, rfl⟩
      rcases List.mem_map.mp rowIn with ⟨two, twoIn, rfl⟩
      have oneRequested : one.id ∈ evalIds :=
        List.contains_iff_mem.mp (Bool.and_eq_true_iff.mp selectsChosen).1
      have twoRequested : two.id ∈ evalIds :=
        List.contains_iff_mem.mp (Bool.and_eq_true_iff.mp selectsRow).1
      have otherSeries : ¬ two.SameSeries one.assetId one.sloName := fun series =>
        different (comparable.1 one oneIn two twoIn oneRequested twoRequested series).symm
      have unlike : decide ((((BulkAction.pinBaseline reason author).write 0
          two.withoutPinTimes).SameSeries one.assetId one.sloName)) = false :=
        decide_eq_false otherSeries
      change (_ && (decide (((BulkAction.pinBaseline reason author).write 0
        two.withoutPinTimes).SameSeries one.assetId one.sloName) && _)) = false
      rw [unlike, Bool.false_and, Bool.and_false]
  | _ => exact fun _ _ _ _ _ _ _ => rfl

theorem repeatable_of_comparable (comparable : action.Comparable table evalIds) :
    (action.rowAction 0).Repeatable EvaluationRow.key
      (table.rows.map EvaluationRow.withoutPinTimes) evalIds := by
  intro row member twice accepted again
  rcases List.mem_map.mp member with ⟨old, inside, rfl⟩
  cases action with
  | overrideStatus newResult reason author =>
      have original := comparable old inside twice (of_decide_eq_true accepted)
      change (old.withoutPinTimes.setOverriddenCoalescing _ _ _).setOverriddenCoalescing _ _ _ =
        old.withoutPinTimes.setOverriddenCoalescing _ _ _
      cases first : old.originalResult with
      | some value =>
          simp [EvaluationRow.setOverriddenCoalescing, EvaluationRow.withoutPinTimes, first]
      | none =>
          rcases Option.ne_none_iff_exists'.mp (original first) with ⟨value, isResult⟩
          simp [EvaluationRow.setOverriddenCoalescing, EvaluationRow.withoutPinTimes, first, isResult]
  | restoreOverride => cases again
  | _ => rfl

theorem accepts_write (other : action ≠ .restoreOverride) (now : Instant)
    (accepted : action.accepts row = true) : action.accepts (action.write now row) = true := by
  cases action with
  | restoreOverride => exact absurd rfl other
  | _ => exact accepted

theorem mem_notFound {changed : ChangedMany}
    (applies : AppliesAtOnce action now table evalIds changed) :
    (bulkResponse evalIds changed.affected).notFound =
      evalIds.filter fun evalId => !(action.rowAction 0).acceptsKey EvaluationRow.key
        (table.rows.map EvaluationRow.withoutPinTimes) evalId := by
  apply List.filter_congr
  intro evalId requested
  congr 1
  rw [Bool.eq_iff_iff, List.contains_iff_mem, applies.affected]
  simp only [Batches.RowAction.acceptsKey, Batches.RowAction.selects, List.any_map, List.any_eq_true,
    Function.comp_apply, Bool.and_eq_true, decide_eq_true_eq]
  constructor
  · rintro ⟨row, member, selected, isId⟩
    exact ⟨row, member, isId, (accepts_withoutPinTimes action row).trans selected.2⟩
  · rintro ⟨row, member, isId, accepted⟩
    refine ⟨row, member, ⟨?_, (accepts_withoutPinTimes action row).symm.trans accepted⟩, isId⟩
    rw [List.contains_iff_mem]
    exact isId ▸ requested

/-- A bulk action leaves the evaluations as the calls of the endpoint for one evaluation do,
up to the times of the pins, and deletes the same cache entries.  It lists as not found the
identifiers that every call refuses; and, unless an override is restored twice, exactly the
calls that are refused. -/
theorem bulk_eq_singles (action : BulkAction) (table : EvaluationRows)
    (requests : List (Nat × Instant)) (now : Instant)
    (comparable : action.Comparable table (requests.map Prod.fst)) :
    (action.bulk table (requests.map Prod.fst) now).1.rows.rows.map
          EvaluationRow.withoutPinTimes =
        (action.singles table requests).rows.rows.map EvaluationRow.withoutPinTimes ∧
      (forall entry, entry ∈ (action.bulk table (requests.map Prod.fst) now).1.deleted ↔
        entry ∈ (action.singles table requests).deleted) ∧
      (forall evalId, evalId ∈ (action.bulk table (requests.map Prod.fst) now).2.notFound ↔
        evalId ∈ requests.map Prod.fst ∧ evalId ∉ (action.singles table requests).applied) ∧
      ((action = .restoreOverride -> (requests.map Prod.fst).Nodup) ->
        (action.bulk table (requests.map Prod.fst) now).2.notFound =
          (action.singles table requests).refused) := by
  have applies := many_applies comparable now
  have simulates := singles_simulate action table requests
  have lawful := rowAction_lawful action 0
  have apart := apart_of_comparable comparable
  have repeatable := repeatable_of_comparable comparable
  have distinct : ((table.rows.map EvaluationRow.withoutPinTimes).map EvaluationRow.key).Nodup := by
    rw [List.map_map]
    exact table.nodup
  have notFound := mem_notFound applies
  generalize requests.map Prod.fst = evalIds at *
  refine ⟨?_, fun entry => ?_, fun evalId => ?_, fun once => ?_⟩
  · rw [simulates.rows, Batches.run_rows lawful distinct evalIds apart repeatable]
    change (action.many table evalIds now).rows.rows.map _ = _
    rw [applies.rows, List.map_map, List.map_map]
    exact List.map_congr_left fun row _ => withoutPinTimes_after action now table.rows evalIds row
  · change entry ∈ (action.many table evalIds now).deleted ↔ _
    have seen := Batches.mem_applied cachesOf (cachesOf_write action 0) (cachesOf_displace action 0)
      lawful distinct evalIds apart repeatable
    rw [applies.deleted, simulates.deleted, List.mem_flatten]
    constructor
    · rintro ⟨row, member, selected, inside⟩
      refine ⟨cachesOf row, (seen _).mpr ⟨row.withoutPinTimes, List.mem_map_of_mem member, ?_, rfl⟩,
        inside⟩
      rw [selects_withoutPinTimes action now, selected]
    · rintro ⟨entries, viewed, inside⟩
      rcases (seen entries).mp viewed with ⟨row, member, selected, rfl⟩
      rcases List.mem_map.mp member with ⟨old, oldIn, rfl⟩
      exact ⟨old, oldIn, (selects_withoutPinTimes action now evalIds old).symm.trans selected, inside⟩
  · have seen := Batches.mem_applied EvaluationRow.key (write_key action 0) (displace_key action 0)
      lawful distinct evalIds apart repeatable evalId
    change evalId ∈ (bulkResponse evalIds (action.many table evalIds now).affected).notFound ↔ _
    rw [notFound, simulates.applied, seen, List.mem_filter, Bool.not_eq_true']
    refine and_congr_right fun requested => ?_
    rw [<- Bool.not_eq_true, not_iff_not, Batches.RowAction.acceptsKey, List.any_eq_true]
    apply exists_congr
    intro row
    simp only [Batches.RowAction.selects, Bool.and_eq_true, decide_eq_true_eq,
      List.contains_iff_mem]
    refine and_congr_right fun _ => ⟨fun both => ⟨⟨both.1 ▸ requested, both.2⟩, both.1⟩, ?_⟩
    exact fun both => ⟨both.2, both.1.2⟩
  · change (bulkResponse evalIds (action.many table evalIds now).affected).notFound = _
    rw [notFound, simulates.refused, Batches.run_refused lawful distinct evalIds apart repeatable]
    intro row member twice accepted
    by_cases restoring : action = .restoreOverride
    · have atMostOnce := List.nodup_iff_count_le_one.mp (once restoring) (EvaluationRow.key row)
      omega
    · exact accepts_write restoring 0 accepted

/-- A completed evaluation, an older one of its series that is pinned, and a pending one. -/
def mixedTable : EvaluationRows where
  rows :=
    [{ id := 1, evaluationId := 1, evaluationName := "nightly", assetId := 1, periodStart := 20,
       periodEnd := 30, sloName := "latency", status := .completed, result := some .pass },
     { id := 2, evaluationId := 2, evaluationName := "nightly", assetId := 1, periodStart := 0,
       periodEnd := 10, sloName := "latency", status := .completed, result := some .pass,
       baselinePinnedAt := some 15 },
     { id := 3, evaluationId := 1, evaluationName := "nightly", assetId := 1, periodStart := 20,
       periodEnd := 30, sloName := "errors" }]
  nodup := by decide

/-- A bulk pin of evaluations and an unknown identifier, one of them twice. -/
theorem bulk_pin_of_mixed :
    ((BulkAction.pinBaseline "release" "ops").bulk mixedTable [1, 3, 1, 9] 50).2.notFound =
        ((BulkAction.pinBaseline "release" "ops").singles mixedTable
          [(1, 40), (3, 41), (1, 42), (9, 43)]).refused ∧
      ((BulkAction.pinBaseline "release" "ops").bulk mixedTable [1, 3, 1, 9] 50).2.notFound =
        [3, 9] := by
  have agree := bulk_eq_singles (.pinBaseline "release" "ops") mixedTable
    [(1, 40), (3, 41), (1, 42), (9, 43)] 50 ⟨by decide +kernel, by decide +kernel⟩
  exact ⟨agree.2.2.2 fun restoring => absurd restoring (by decide), by decide +kernel⟩

def aloneTable (result originalResult : Option ResultValue) : EvaluationRows where
  rows :=
    [{ id := 1, evaluationId := 1, evaluationName := "nightly", assetId := 1, periodStart := 20,
       periodEnd := 30, sloName := "latency", status := .completed, result, originalResult }]
  nodup := by simp

/-- Two completed evaluations of one asset under an empty SLO name, of which one is pinned. -/
def unnamedTable : EvaluationRows where
  rows :=
    [{ id := 1, evaluationId := 1, evaluationName := "nightly", assetId := 1, periodStart := 20,
       periodEnd := 30, sloName := "", status := .completed, result := some .pass },
     { id := 2, evaluationId := 2, evaluationName := "nightly", assetId := 1, periodStart := 0,
       periodEnd := 10, sloName := "", status := .completed, result := some .pass,
       baselinePinnedAt := some 15 }]
  nodup := by decide

/-- The three corners.  An override that is restored twice is refused the second time, and
the bulk answer does not list it as not found.  An override of a completed evaluation
without a result keeps the first override as the original when it is made twice.  A pin
under an empty SLO name leaves the other pin. -/
theorem bulk_differs_from_singles :
    (¬ forall evalId,
        evalId ∈ (BulkAction.restoreOverride.singles (aloneTable (some .pass) (some .fail))
          [(1, 40), (1, 41)]).refused ↔
        evalId ∈ (BulkAction.restoreOverride.bulk (aloneTable (some .pass) (some .fail))
          [1, 1] 50).2.notFound) ∧
      ((BulkAction.overrideStatus .pass "flaky" "ops").bulk (aloneTable none none)
            [1, 1] 50).1.rows.rows.map EvaluationRow.withoutPinTimes ≠
        ((BulkAction.overrideStatus .pass "flaky" "ops").singles (aloneTable none none)
            [(1, 40), (1, 41)]).rows.rows.map EvaluationRow.withoutPinTimes ∧
      ((BulkAction.pinBaseline "release" "ops").bulk unnamedTable [1] 50).1.rows.rows.map
            EvaluationRow.withoutPinTimes ≠
        ((BulkAction.pinBaseline "release" "ops").singles unnamedTable [(1, 40)]).rows.rows.map
            EvaluationRow.withoutPinTimes := by
  refine ⟨fun same => ?_, fun same => ?_, fun same => ?_⟩
  · have listed := (same 1).mp (by decide +kernel)
    revert listed
    decide +kernel
  · have originals := congrArg (List.map fun row => row.originalResult) same
    revert originals
    decide +kernel
  · have pins := congrArg (List.map fun row => row.isPinned) same
    revert pins
    decide +kernel

end BulkActions
end Maintenance
end Tropek
