import Tropek.Maintenance.Operations
import Tropek.ReEvaluation.Recorded

namespace Tropek
namespace Maintenance

open Library TransitionSystem Engine Store Registry ReEvaluation KeyedTable

/-!
# Measured values

A re-evaluation reads the measured values of an evaluation from its indicator rows,
deletes these rows and inserts one for each objective of the version.  A value lives on
only in the rows of the metrics that the version measures.
-/

def measured (row : SLOEvaluation) (metric : String) : Option ℚ :=
  getValue (metricsFromIndicatorRows row.indicatorRows.rows) metric

def MeasuredBy (window : Window) (metric : String) : Prop :=
  metric ∈ window.sloDef.objectives.rows.map (·.sli)

section Passes

variable {clock : Nat -> Instant} (metric : String)

theorem rescoreWindow_measured {window : Window} {db last : Database}
    {items : List ReEvalResultItem} (ran : rescoreWindow window clock false db = .ok (last, items)) :
    List.Forall₂ (fun before after => before.SameHistory after ∧
        ((before.id ∈ (window.evaluations db.evaluations).map (·.id) -> MeasuredBy window metric) ->
          measured after metric = measured before metric) ∧
        (before.id ∈ (window.evaluations db.evaluations).map (·.id) -> ¬ MeasuredBy window metric ->
          measured after metric = none))
      db.evaluations.rows last.evaluations.rows := by
  refine (rescoreWindow_rows ran).1.imp fun before after passed => ⟨passed.history, ?_⟩
  rw [<- rescoreWindow_items ran]
  rcases passed with ⟨absent, same⟩ | ⟨item, member, sameId, rescored⟩
  · rw [same]
    exact ⟨fun _ => rfl, fun inside => absurd inside absent⟩
  · have inside : before.id ∈ items.map (·.id) := List.mem_map.mpr ⟨item, member, sameId⟩
    have value := rescored.value metric
    exact ⟨fun keeps => value.trans (if_pos (keeps inside)),
      fun _ lost => value.trans (if_neg lost)⟩

/-- Every window of these SLOs that holds the evaluation is of a version that measures
the metric. -/
def PassesMeasure (request : ReEvaluateRequest) (db : Database) (assetId : Nat)
    (names : List String) (evalId : Nat) (metric : String) : Prop :=
  forall name window, name ∈ names -> resolveWindow request db assetId name = .ok window ->
    evalId ∈ (window.evaluations db.evaluations).map (·.id) -> MeasuredBy window metric

variable {metric}

theorem passesMeasure_cons {request : ReEvaluateRequest} {db : Database} {assetId : Nat}
    {name : String} {names : List String} {window : Window} {evalId : Nat}
    (resolved : resolveWindow request db assetId name = .ok window) :
    PassesMeasure request db assetId (name :: names) evalId metric ↔
      (evalId ∈ (window.evaluations db.evaluations).map (·.id) -> MeasuredBy window metric) ∧
        PassesMeasure request db assetId names evalId metric := by
  constructor
  · intro passes
    exact ⟨passes name window List.mem_cons_self resolved,
      fun other otherWindow member => passes other otherWindow (List.mem_cons_of_mem _ member)⟩
  · rintro ⟨first, others⟩ other otherWindow member otherResolved
    rcases List.mem_cons.mp member with same | later
    · rw [same, resolved] at otherResolved
      cases otherResolved
      exact first
    · exact others other otherWindow later otherResolved

theorem passesMeasure_related {request : ReEvaluateRequest} {first second : Database} {assetId : Nat}
    {names : List String} {evalId : Nat}
    (history : List.Forall₂ SLOEvaluation.SameHistory first.evaluations.rows
      second.evaluations.rows)
    (sameSlo : second.sloDefinitions = first.sloDefinitions) :
    PassesMeasure request second assetId names evalId metric ↔
      PassesMeasure request first assetId names evalId metric := by
  unfold PassesMeasure
  simp only [resolveWindow_related history sameSlo, Window.evaluations_ids history]

/-- What a request leaves of a value: all of it when every pass measures the metric, and
nothing otherwise. -/
def Leaves (keeps : Prop) (metric : String) (before after : SLOEvaluation) : Prop :=
  (keeps -> measured after metric = measured before metric) ∧
    (¬ keeps -> measured after metric = none)

variable (metric) in
theorem reEvaluateSlos_measured {request : ReEvaluateRequest} {assetId : Nat} {db last : Database}
    {names : List String} {found : List (Int × List ReEvalResultItem)}
    (real : request.dryRun = false)
    (ran : reEvaluateSlos request clock assetId db names = .ok (last, found)) :
    List.Forall₂ (fun before after => before.SameHistory after ∧
        Leaves (PassesMeasure request db assetId names before.id metric) metric before after)
      db.evaluations.rows last.evaluations.rows := by
  induction names generalizing db found with
  | nil =>
      cases ran
      refine List.forall₂_same.mpr fun row _ => ⟨.refl row, fun _ => rfl, fun lost => absurd ?_ lost⟩
      intro name window member
      cases member
  | cons name rest ih =>
      rcases reEvaluateSlos_cons.mp ran with
        ⟨window, next, items, others, resolved, rescored, looped, _⟩
      rw [real] at rescored
      have first := rescoreWindow_measured metric rescored
      have history : List.Forall₂ SLOEvaluation.SameHistory db.evaluations.rows
          next.evaluations.rows := first.imp fun _ _ here => here.1
      have sameSlo : next.sloDefinitions = db.sloDefinitions := by
        rw [(rescoreWindow_rows rescored).2]
      refine Latest.related_comp ?_ first (ih looped)
      rintro before middle after ⟨sameMiddle, kept, lost⟩ ⟨sameAfter, later⟩
      refine ⟨sameMiddle.trans sameAfter, ?_⟩
      unfold Leaves at later ⊢
      rw [passesMeasure_cons resolved]
      rw [passesMeasure_related history sameSlo, sameMiddle.id] at later
      by_cases others : PassesMeasure request db assetId rest before.id metric
      · by_cases here : before.id ∈ (window.evaluations db.evaluations).map (·.id) ->
            MeasuredBy window metric
        · exact ⟨fun _ => (later.1 others).trans (kept here), fun fails => absurd ⟨here, others⟩ fails⟩
        · rcases Classical.not_imp.mp here with ⟨inside, unmeasured⟩
          exact ⟨fun keeps => absurd keeps.1 here,
            fun _ => (later.1 others).trans (lost inside unmeasured)⟩
      · exact ⟨fun keeps => absurd keeps.2 others, fun _ => later.2 others⟩

end Passes

/-- Every window of the request that holds the evaluation is of a version that measures
the metric. -/
def WindowsMeasure (assigned : Nat -> List String) (db : Database) (request : ReEvaluateRequest)
    (evalId : Nat) (metric : String) : Prop :=
  forall asset names, db.assets.rows.find? (·.name = request.assetName) = some asset ->
    requestedSlos assigned request asset.id = .ok names ->
    PassesMeasure request db asset.id names evalId metric

/-- The operation rewrites the evaluation only against versions that measure the
metric. -/
def KeepsMetric (evalId : Nat) (metric : String) (db : Database) : Operation -> Prop
  | .reEvaluate assigned _ request =>
      request.dryRun = false -> WindowsMeasure assigned db request evalId metric
  | _ => True

theorem reEvaluate_measured {assigned : Nat -> List String} {clock : Nat -> Instant} (metric : String)
    {db last : Database} {request : ReEvaluateRequest} {response : ReEvaluateResponse}
    (ran : reEvaluate assigned clock db request = .ok (last, response)) :
    List.Forall₂ (fun before after => after.id = before.id ∧
        Leaves (request.dryRun = false -> WindowsMeasure assigned db request before.id metric) metric
          before after)
      db.evaluations.rows last.evaluations.rows := by
  rcases reEvaluate_eq_ok.mp ran with ⟨asset, names, found, named, requested, looped, _⟩
  cases dry : request.dryRun with
  | true =>
      have sameRequest : { request with dryRun := true } = request := by rw [<- dry]
      rw [<- sameRequest] at looped
      rw [reEvaluateSlos_dry looped]
      exact List.forall₂_same.mpr fun row _ => ⟨rfl, fun _ => rfl, fun lost => absurd nofun lost⟩
  | false =>
      refine (reEvaluateSlos_measured metric dry looped).imp fun before after here => ⟨here.1.id, ?_⟩
      have same : (false = false -> WindowsMeasure assigned db request before.id metric) ↔
          PassesMeasure request db asset.id names before.id metric := by
        constructor
        · exact fun measure => measure rfl asset names named requested
        · intro passes _ other otherNames otherNamed otherRequested
          cases Option.some.inj (named.symm.trans otherNamed)
          cases Except.ok.inj (requested.symm.trans otherRequested)
          exact passes
      unfold Leaves
      rw [same]
      exact here.2

/-- An operation keeps a value exactly if it rewrites the evaluation only against
versions that measure the metric. -/
theorem step_measured (metric : String) {db next : Database} {operation : Operation}
    (stepped : step db operation = some next) :
    List.Forall₂ (fun before after => after.id = before.id ∧
        Leaves (KeepsMetric before.id metric db operation) metric before after)
      db.evaluations.rows next.evaluations.rows := by
  have unchanged {before after : SLOEvaluation} (same : after.id = before.id)
      (rows : after.indicatorRows = before.indicatorRows) (keeps : KeepsMetric before.id metric db operation) :
      after.id = before.id ∧ Leaves (KeepsMetric before.id metric db operation) metric before after := by
    refine ⟨same, fun _ => ?_, fun lost => absurd keeps lost⟩
    unfold measured
    rw [rows]
  rcases step_cases stepped with
    ⟨body, firstId, same, created⟩ | ⟨assigned, clock, request, response, same, ran⟩ |
      ⟨evaluations, onTable, same⟩
  · rw [createSloDefinition_evaluations created]
    refine List.forall₂_same.mpr fun row _ => unchanged rfl rfl ?_
    rw [same]
    trivial
  · rw [same]
    exact reEvaluate_measured metric ran
  · have kept := onTable_indicatorRows onTable
    rw [same]
    refine kept.imp fun before after here => unchanged here.1 here.2 ?_
    cases operation with
    | reEvaluate assigned clock request => cases onTable
    | _ => trivial

theorem exec_lost {metric : String} {start final : Database} {operations : List Operation}
    (ran : exec step start operations = some final) {before : SLOEvaluation}
    (stored : start.evaluations.find before.id = some before)
    (lost : measured before metric = none) :
    Exists fun after => final.evaluations.find before.id = some after ∧
      measured after metric = none := by
  induction operations generalizing start before with
  | nil =>
      cases ran
      exact ⟨before, stored, lost⟩
  | cons operation rest ih =>
      rcases exec_cons ran with ⟨next, stepped, ran⟩
      rcases find_related (fun _ _ here => here.1) (step_measured metric stepped) stored with
        ⟨middle, found, sameId, leaves⟩
      rw [<- sameId] at found ⊢
      refine ih ran found ?_
      by_cases keeps : KeepsMetric before.id metric start operation
      · rw [leaves.1 keeps, lost]
      · exact leaves.2 keeps

/-- A measured value stays through a run exactly when no operation rewrites the
evaluation against a version without the metric. -/
theorem measured_value_stays {metric : String} {value : ℚ} {start final : Database}
    {operations : List Operation} (ran : exec step start operations = some final)
    {before : SLOEvaluation} (stored : start.evaluations.find before.id = some before)
    (original : measured before metric = some value) :
    Exists fun after => final.evaluations.find before.id = some after ∧
      (measured after metric = some value ↔
        Along step (KeepsMetric before.id metric) start operations) ∧
      (measured after metric = none ↔
        ¬ Along step (KeepsMetric before.id metric) start operations) := by
  induction operations generalizing start before with
  | nil =>
      cases ran
      refine ⟨before, stored, ⟨fun _ => trivial, fun _ => original⟩, ?_⟩
      rw [original]
      exact ⟨nofun, fun impossible => absurd trivial impossible⟩
  | cons operation rest inductionHypothesis =>
      rcases exec_cons ran with ⟨next, stepped, ran⟩
      rcases find_related (fun _ _ here => here.1) (step_measured metric stepped) stored with
        ⟨middle, found, sameId, leaves⟩
      rw [<- sameId] at found ⊢
      rw [along_cons_iff stepped]
      by_cases keeps : KeepsMetric middle.id metric start operation
      · rw [sameId] at keeps
        rcases inductionHypothesis ran found ((leaves.1 keeps).trans original) with ⟨after, ended, stays, goes⟩
        rw [<- sameId] at keeps
        refine ⟨after, ended, ?_, ?_⟩
        · rw [stays, and_iff_right keeps]
        · rw [goes, and_iff_right keeps]
      · have lost := leaves.2 (sameId ▸ keeps)
        rcases exec_lost ran found lost with ⟨after, ended, gone⟩
        refine ⟨after, ended, ?_, ?_⟩
        · rw [gone]
          exact ⟨nofun, fun along => absurd along.1 keeps⟩
        · exact ⟨fun _ along => keeps along.1, fun _ => gone⟩

/-! ## A renamed metric

The evaluation that the worker has scored on the lag is re-evaluated against a version
that measures a delay instead, and then against the first version again.
-/

namespace Sample

def renamed : Operation :=
  .createSlo { name := "ledger", objectives := [{ sli := "delay", passThreshold := ["<=50"] }] } 35

def rescoreAgainst (sloVersion : Int) : Operation :=
  .reEvaluate (fun _ => []) (fun _ => 0) (ReEvaluation.Sample.ledgerRequest sloVersion)

def roundTrip (sloVersion : Int) : List Operation :=
  [renamed, rescoreAgainst sloVersion, rescoreAgainst 1]

def roundTripRows (sloVersion : Int) :
    Option ((Database × Database) × SLOEvaluation × SLOEvaluation) :=
  ReEvaluation.Sample.ledgerScored.bind fun start =>
    (exec step start (roundTrip sloVersion)).bind fun final =>
      (start.evaluations.find 30).bind fun before =>
        (final.evaluations.find 30).map fun after => ((start, final), before, after)

theorem roundTripRows_eq_some {sloVersion : Int} {start final : Database}
    {before after : SLOEvaluation}
    (ran : roundTripRows sloVersion = some ((start, final), before, after)) :
    ReEvaluation.Sample.ledgerScored = some start ∧
      exec step start (roundTrip sloVersion) = some final ∧
      start.evaluations.find 30 = some before ∧ final.evaluations.find 30 = some after := by
  unfold roundTripRows at ran
  rw [Option.bind_eq_some_iff] at ran
  rcases ran with ⟨scored, isScored, ran⟩
  rw [Option.bind_eq_some_iff] at ran
  rcases ran with ⟨last, executed, ran⟩
  rw [Option.bind_eq_some_iff] at ran
  rcases ran with ⟨first, stored, ran⟩
  rw [Option.map_eq_some_iff] at ran
  rcases ran with ⟨second, ended, same⟩
  cases same
  exact ⟨isScored, executed, stored, ended⟩

end Sample

/-- The heavier version measures the lag, so its value is there for the first version
again. -/
theorem measured_value_stays_sample :
    Exists fun start => Exists fun final => Exists fun after =>
      ReEvaluation.Sample.ledgerScored = some start ∧
        exec step start (Sample.roundTrip 2) = some final ∧
        final.evaluations.find 30 = some after ∧ measured after "lag" = some 40 ∧
        Along step (KeepsMetric 30 "lag") start (Sample.roundTrip 2) := by
  have ran : (Sample.roundTripRows 2).map (fun found =>
      (measured found.2.1 "lag", measured found.2.2 "lag")) = some (some 40, some 40) := by
    decide +kernel
  rw [Option.map_eq_some_iff] at ran
  rcases ran with ⟨⟨⟨start, final⟩, before, after⟩, isRun, values⟩
  rcases Prod.mk.inj values with ⟨original, kept⟩
  rcases Sample.roundTripRows_eq_some isRun with ⟨scored, executed, stored, ended⟩
  have isBefore : before.id = 30 := find_key stored
  rw [<- isBefore] at stored
  rcases measured_value_stays executed stored original with ⟨row, found, stays, _⟩
  rw [isBefore] at found stays
  rw [ended] at found
  cases found
  exact ⟨start, final, after, scored, executed, ended, kept, stays.mp kept⟩

/-- The version with the new name drops the row of the lag.  Against the first version,
its objective then has no value and the status `error`. -/
theorem renamed_metric_loses_value :
    Exists fun start => Exists fun final => Exists fun before => Exists fun after =>
      ReEvaluation.Sample.ledgerScored = some start ∧
        exec step start (Sample.roundTrip 4) = some final ∧
        start.evaluations.find 30 = some before ∧ final.evaluations.find 30 = some after ∧
        measured before "lag" = some 40 ∧ before.sloVersion = some 1 ∧ after.sloVersion = some 1 ∧
        after.indicatorRows.rows.map (fun row => (row.objective.sli, row.value, row.status)) =
          [("lag", none, .error)] := by
  have ran : (Sample.roundTripRows 4).map (fun found =>
      decide (measured found.2.1 "lag" = some 40 ∧ found.2.1.sloVersion = some 1 ∧
        found.2.2.sloVersion = some 1 ∧
        found.2.2.indicatorRows.rows.map (fun row => (row.objective.sli, row.value, row.status)) =
          [("lag", none, .error)])) = some true := by
    decide +kernel
  rw [Option.map_eq_some_iff] at ran
  rcases ran with ⟨⟨⟨start, final⟩, before, after⟩, isRun, facts⟩
  rcases of_decide_eq_true facts with ⟨original, version, versionAfter, rows⟩
  rcases Sample.roundTripRows_eq_some isRun with ⟨scored, executed, stored, ended⟩
  exact ⟨start, final, before, after, scored, executed, stored, ended, original, version,
    versionAfter, rows⟩

end Maintenance
end Tropek
