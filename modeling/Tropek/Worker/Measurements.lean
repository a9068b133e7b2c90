import Tropek.ReEvaluation.Prediction
import Tropek.Worker.QueryVariables
import Tropek.Worker.Snapshots

namespace Tropek
namespace Worker

open Library Engine Store ReEvaluation TransitionSystem KeyedTable Fallible

/-!
# Stored measurements

In every world that the worker reaches, the indicator rows of an evaluation are
those of one SLO version, inserted once.  So the worker never changes them again,
no evaluation has measured a metric twice, and a re-evaluation keeps it that way.
-/

/-- An evaluation has no indicator rows, or one for every scored objective of its
SLO version. -/
def RowsOfVersion (db : Database) (row : SLOEvaluation) : Prop :=
  row.indicatorRows.rows = [] ∨ Exists fun version => Exists fun sloDef =>
    row.sloVersion = some version ∧ db.sloDefinitions.find (row.sloName, version) = some sloDef ∧
      row.indicatorRows.rows.map (·.objective) = scoredObjectives sloDef

variable {row : SLOEvaluation} {w : World} {settings : Settings}

/-- Rows for the scored objectives of one version measure each metric once: the
unique constraint has refused any others. -/
theorem RowsOfVersion.measuresOnce {db : Database} (version : RowsOfVersion db row) :
    MeasuresOnce row := by
  unfold MeasuresOnce
  rcases version with empty | ⟨_, sloDef, _, _, objectives⟩
  · rw [empty]
    exact List.nodup_nil
  · have ids : row.indicatorRows.rows.map IndicatorResultRow.sloObjectiveId =
        (scoredObjectives sloDef).map (·.id) := by
      rw [<- objectives, List.map_map]
      rfl
    have nodup := row.indicatorRows.nodup
    rw [ids, scoredObjectives_nodup] at nodup
    have metrics : row.indicatorRows.rows.map (·.objective.sli) =
        sloDef.objectives.rows.map (·.sli) := by
      rw [<- scoredObjectives_metrics sloDef, <- objectives, List.map_map]
      rfl
    rw [metrics]
    exact nodup

section Step

variable {settings : Settings} {w next : World} {action : Action}

section

variable {write : Write} {row : SLOEvaluation} (all : AllFit w)
  (written : action.write settings w = some write) (completion : write.change.isCompletion = true)
  (found : w.db.evaluations.find write.evalId = some row) (before : RowsOfVersion w.db row)

include all written completion found before

/-- A completion finds no indicator rows: the unique constraint refuses rows for the same
version beside them. -/
theorem completion_noRows : row.indicatorRows.rows = [] := by
  rcases completion_values all written completion found with
    ⟨version, sloDef, _, inserted, _, _, rowVersion, _, _, definition, nonempty, objectives, inserting⟩
  rcases before with empty | ⟨oldVersion, oldDef, oldVersionIs, oldFound, oldObjectives⟩
  · exact empty
  · rw [Option.some.inj (oldVersionIs.symm.trans rowVersion), definition] at oldFound
    cases oldFound
    rw [bulkInsert_again nonempty objectives oldObjectives] at inserting
    cases inserting

theorem completion_rowsOfVersion : RowsOfVersion w.db (write.change.apply row) := by
  have noRows := completion_noRows all written completion found before
  rcases completion_values all written completion found with
    ⟨version, sloDef, values, inserted, indicatorRows, changeIs, rowVersion, newVersion, newName,
      definition, nonempty, objectives, inserting⟩
  rw [changeIs]
  refine Or.inr ⟨version, sloDef, ?_, ?_, ?_⟩
  · change values.sloVersion.or row.sloVersion = some version
    rw [newVersion]
    rfl
  · change w.db.sloDefinitions.find (values.sloName.getD row.sloName, version) = some sloDef
    rw [newName]
    exact definition
  · change indicatorRows.rows.map (·.objective) = scoredObjectives sloDef
    rw [bulkInsert_rows inserting, noRows, List.nil_append]
    exact objectives

end

theorem rowAfter_rowsOfVersion (all : AllFit w) {id : Nat} {row : SLOEvaluation}
    (found : w.db.evaluations.find id = some row) (before : RowsOfVersion w.db row) :
    RowsOfVersion w.db (rowAfter (action.write settings w) row) := by
  rcases rowAfter_cases (action.write settings w) row with same | ⟨write, written, targeted, same⟩
  · rw [same]
    exact before
  · rw [same]
    cases completion : write.change.isCompletion with
    | true =>
        have here : w.db.evaluations.find write.evalId = some row := by
          rw [<- targeted, find_key found]
          exact found
        exact completion_rowsOfVersion all written completion here before
    | false =>
        cases changeIs : write.change with
        | completed values indicatorRows =>
            rw [changeIs] at completion
            cases completion
        | _ => exact before

end Step

structure Measured (w : World) : Prop where
  executions : AllFit w
  rows : forall id row, w.db.evaluations.find id = some row -> RowsOfVersion w.db row

theorem Measured.step {next : World} {action : Action} (measured : Measured w)
    (stepped : Worker.step settings w action = some next) :
    Measured next where
  executions := measured.executions.step stepped
  rows := by
    intro id row found
    have definitions := step_sloDefinitions stepped
    rcases step_find_origin stepped found with
      ⟨old, oldFound, same⟩ | ⟨_, _, _, _, _, _, _, same⟩
    · have kept : RowsOfVersion w.db (rowAfter (action.write settings w) old) :=
        rowAfter_rowsOfVersion measured.executions oldFound (measured.rows id old oldFound)
      rw [same]
      unfold RowsOfVersion at kept ⊢
      rw [definitions]
      exact kept
    · rw [same]
      exact Or.inl rfl

theorem measured_of_reachable (reachable : Reachable settings w) : Measured w := by
  refine reachable_preserves (fun first initial => ?_)
    (fun state action next holds stepped => holds.step stepped) reachable
  refine ⟨AllFit.of_initial initial, fun id row found => ?_⟩
  rw [initial.noEvaluations, find_empty] at found
  cases found

theorem measuresOnce_of_reachable (reachable : Reachable settings w)
    (stored : row ∈ w.db.evaluations.rows) : MeasuresOnce row :=
  ((measured_of_reachable reachable).rows _ row (find_of_mem stored)).measuresOnce

/-- A later state of an evaluation: it is about the same, and what it has measured stays. -/
structure Lasts (row later : SLOEvaluation) : Prop where
  id : later.id = row.id
  identity : SameIdentity row later
  inputs : SameInputs row later
  measured : row.indicatorRows.rows ≠ [] -> later.indicatorRows = row.indicatorRows

theorem Lasts.trans {first second third : SLOEvaluation} (before : Lasts first second)
    (after : Lasts second third) : Lasts first third where
  id := after.id.trans before.id
  identity := before.identity.trans after.identity
  inputs := before.inputs.trans after.inputs
  measured := fun nonempty => by
    have kept := before.measured nonempty
    rw [after.measured (by rwa [kept]), kept]

theorem Measured.rowAfter_lasts (measured : Measured w) (settings : Settings) (action : Action)
    (member : row ∈ w.db.evaluations.rows) :
    Lasts row (rowAfter (action.write settings w) row) := by
  have found := find_of_mem member
  refine ⟨rowAfter_id _ _, rowAfter_identity settings action measured.executions found,
    rowAfter_inputs _ _, fun nonempty => ?_⟩
  rcases rowAfter_cases (action.write settings w) row with same | ⟨write, written, targeted, same⟩
  · rw [same]
  · rw [same]
    cases changeIs : write.change with
    | completed values indicatorRows =>
        -- The insertion would have been refused beside the rows that are there.
        have here : w.db.evaluations.find write.evalId = some row := by
          rw [<- targeted]
          exact found
        exact absurd (completion_noRows measured.executions written (by rw [changeIs]; rfl)
          here (measured.rows _ row found)) nonempty
    | _ => rfl

/-- The evaluations of a world in a later one: each where it was, and new ones behind them. -/
def EvaluationsLast (start final : World) : Prop :=
  Exists fun later : SLOEvaluation -> SLOEvaluation => Exists fun created =>
    final.db.evaluations.rows = start.db.evaluations.rows.map later ++ created ∧
      forall row, row ∈ start.db.evaluations.rows -> Lasts row (later row)

theorem EvaluationsLast.refl (start : World) : EvaluationsLast start start :=
  ⟨id, [], by simp, fun row _ => ⟨rfl, .refl row, ⟨rfl, rfl, rfl, rfl, rfl⟩, fun _ => rfl⟩⟩

theorem EvaluationsLast.step {start next : World} {action : Action} (last : EvaluationsLast start w)
    (measured : Measured w) (stepped : Worker.step settings w action = some next) :
    EvaluationsLast start next := by
  rcases last with ⟨later, created, rows, lasts⟩
  rcases step_table stepped with ⟨more, table, _⟩
  let after := rowAfter (action.write settings w)
  refine ⟨after ∘ later, created.map after ++ more, ?_, fun row member => ?_⟩
  · rw [table, rows, List.map_append, List.map_map, List.append_assoc]
  · have there : later row ∈ w.db.evaluations.rows := by
      rw [rows]
      exact List.mem_append_left _ (List.mem_map_of_mem member)
    exact (lasts row member).trans (measured.rowAfter_lasts settings action there)

/-- From any world that the worker reaches, no run loses an evaluation, gives it to another
series, version or period, or changes indicator rows that it has. -/
theorem evaluations_last {settings : Settings} {start final : World} {actions : List Action}
    (reachable : Reachable settings start)
    (ran : exec (step settings) start actions = some final) : EvaluationsLast start final := by
  have both : Measured final ∧ EvaluationsLast start final := by
    apply exec_preserves _ ⟨measured_of_reachable reachable, EvaluationsLast.refl start⟩ ran
    intro w action next holds stepped
    exact ⟨holds.1.step stepped, holds.2.step holds.1 stepped⟩
  exact both.2

/-- A second trigger, after the whole job. -/
theorem sample_evaluations_last : Exists fun start => Exists fun final =>
    exec (step {}) Sample.world Sample.completedRun = some start ∧
      exec (step {}) start [.trigger 2 (Sample.request 2 20 3600000000)] = some final ∧
        start.db.evaluations.rows.map (·.indicatorRows.rows.length) = [1] ∧
          EvaluationsLast start final := by
  have counted : ((exec (step {}) Sample.world Sample.completedRun).bind fun start =>
      (exec (step {}) start [.trigger 2 (Sample.request 2 20 3600000000)]).map fun _ =>
        start.db.evaluations.rows.map (·.indicatorRows.rows.length)) = some [1] := by
    decide +kernel
  rcases Option.bind_eq_some_iff.mp counted with ⟨start, first, triggered⟩
  rcases Option.map_eq_some_iff.mp triggered with ⟨final, second, rows⟩
  exact ⟨start, final, first, second, rows, evaluations_last
    ⟨Sample.world, Sample.completedRun, Sample.world_initial, first⟩ second⟩

section ReEvaluations

variable {request : ReEvaluateRequest} {clock : Nat -> Instant}

section

variable {db : Database} (once : forall row, row ∈ db.evaluations.rows -> MeasuresOnce row)

include once

theorem rescoreWindow_measuresOnce {window : Window} {dryRun : Bool} {last : Database}
    {items : List ReEvalResultItem} (ran : rescoreWindow window clock dryRun db = .ok (last, items)) :
    forall row, row ∈ last.evaluations.rows -> MeasuresOnce row := by
  cases dryRun with
  | true =>
      rw [rescoreWindow_dry ran]
      exact once
  | false =>
      intro row member
      have passed := Latest.related_with_members (rescoreWindow_rows ran).1
      rcases mem_related passed.flip member with ⟨before, _, stored, _, here⟩
      rcases here with ⟨_, same⟩ | ⟨item, itemMember, sameId, rescored⟩
      · rw [same]
        exact once before stored
      · have rewritten := rescoreWindow_series ran stored
          (List.mem_map.mpr ⟨item, itemMember, sameId⟩)
        exact rescored.measuresOnce
          (rescoreWindow_distinct ran (List.ne_nil_of_mem rewritten))

theorem reEvaluateSlos_measuresOnce {assetId : Nat} {last : Database} {names : List String}
    {found : List (Int × List ReEvalResultItem)}
    (ran : reEvaluateSlos request clock assetId db names = .ok (last, found)) :
    forall row, row ∈ last.evaluations.rows -> MeasuresOnce row := by
  induction names generalizing db found with
  | nil =>
      cases ran
      exact once
  | cons name rest ih =>
      rcases reEvaluateSlos_cons.mp ran with ⟨window, next, items, others, _, pass, looped, _⟩
      exact ih (rescoreWindow_measuresOnce once pass) looped

theorem reEvaluate_measuresOnce {assigned : Nat -> List String} {last : Database}
    {response : ReEvaluateResponse}
    (ran : reEvaluate assigned clock db request = .ok (last, response)) :
    forall row, row ∈ last.evaluations.rows -> MeasuresOnce row := by
  rcases reEvaluate_eq_ok.mp ran with ⟨asset, names, found, _, _, looped, _⟩
  exact reEvaluateSlos_measuresOnce once looped

end

end ReEvaluations

def reEvaluations (assigned : Nat -> List String)
    (requests : List (ReEvaluateRequest × (Nat -> Instant))) (db : Database) :
    Except ReEvalError Database :=
  requests.foldlM (fun db asked => (reEvaluate assigned asked.2 db asked.1).map Prod.fst) db

/-- In every world that the worker reaches, and after any re-evaluations there, no evaluation
has measured a metric twice. -/
theorem reEvaluations_measureOnce {settings : Settings} {w : World} {last : Database}
    {assigned : Nat -> List String} {requests : List (ReEvaluateRequest × (Nat -> Instant))}
    (reachable : Reachable settings w) (ran : reEvaluations assigned requests w.db = .ok last) :
    forall row, row ∈ last.evaluations.rows -> MeasuresOnce row := by
  have start : forall row, row ∈ w.db.evaluations.rows -> MeasuresOnce row :=
    fun row stored => measuresOnce_of_reachable reachable stored
  apply foldlM_preserves _ start ran
  intro db asked next _ once passed
  cases scored : reEvaluate assigned asked.2 db asked.1 with
  | error failure =>
      rw [scored] at passed
      cases passed
  | ok both =>
      rw [scored] at passed
      cases passed
      exact reEvaluate_measuresOnce once scored

def Sample.reEvaluation : ReEvaluateRequest :=
  { assetName := "shop", sloName := some "checkout", fromDate := some 0 }

def Sample.rescored : Option Database :=
  (exec (step {}) Sample.world Sample.completedRun).bind fun w =>
    (reEvaluations (fun _ => []) [(Sample.reEvaluation, fun _ => 0)] w.db).toOption

theorem rescored_measuresOnce : Exists fun last => Sample.rescored = some last ∧
    last.evaluations.rows.map (·.indicatorRows.rows.length) = [1] ∧
      forall row, row ∈ last.evaluations.rows -> MeasuresOnce row := by
  have one : Sample.rescored.map (fun last =>
      last.evaluations.rows.map (·.indicatorRows.rows.length)) = some [1] := by
    decide +kernel
  rcases Option.map_eq_some_iff.mp one with ⟨last, rescored, rows⟩
  rcases Option.bind_eq_some_iff.mp rescored with ⟨w, ran, scored⟩
  exact ⟨last, rescored, rows, reEvaluations_measureOnce
    ⟨Sample.world, Sample.completedRun, Sample.world_initial, ran⟩
    (toOption_eq_some.mp scored)⟩

end Worker
end Tropek
