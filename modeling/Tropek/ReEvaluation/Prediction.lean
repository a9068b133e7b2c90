import Tropek.ReEvaluation.DryRun

namespace Tropek
namespace ReEvaluation

open Library Engine Store KeyedTable Fallible

/-!
# What a dry run predicts of a request

A request may cover several SLOs, and may name one of them more than once.  The
passes of a real run follow each other on one database.  They do not meet as long
as the SLOs are different ones; a repeated SLO is scored again on the results
that its first pass has written.
-/

/-! ## Settled windows -/

/-- Every evaluation of a list re-scores to the result and the score that it
shows. -/
def SettledFrom (window : Window) (defaultRange : Option (Int × Int)) (db : Database)
    (eligibleIds : List Nat) (evals : List SLOEvaluation) : Prop :=
  forall before ev after, evals = before ++ ev :: after ->
    (outcomeOf (rescore window defaultRange db (eligibleIds ++ before.map (·.id)) ev)).map
        (fun outcome => (ResultValue.ofOutcome outcome.1, outcome.2)) =
      some (oldResult ev, oldScore ev)

def Settled (window : Window) (db : Database) : Prop :=
  SettledFrom window (window.defaultRange db) db (window.eligibleIds db)
    (window.evaluations db.evaluations)

variable {db : Database} {defaultRange : Option (Int × Int)} {window : Window}
  {clock : Nat -> Instant} {items : List ReEvalResultItem}

theorem settledFrom_cons {eligibleIds : List Nat} {ev : SLOEvaluation} {rest : List SLOEvaluation} :
    SettledFrom window defaultRange db eligibleIds (ev :: rest) ↔
      (outcomeOf (rescore window defaultRange db eligibleIds ev)).map
          (fun outcome => (ResultValue.ofOutcome outcome.1, outcome.2)) =
        some (oldResult ev, oldScore ev) ∧
      SettledFrom window defaultRange db (eligibleIds ++ [ev.id]) rest := by
  have shifted : forall before : List SLOEvaluation,
      eligibleIds ++ (ev :: before).map (·.id) = eligibleIds ++ [ev.id] ++ before.map (·.id) := by
    intro before
    rw [List.map_cons, List.append_assoc, List.singleton_append]
  constructor
  · intro settled
    constructor
    · have here := settled [] ev rest rfl
      rw [List.map_nil, List.append_nil] at here
      exact here
    · intro before other after split
      have later := settled (ev :: before) other after (congrArg _ split)
      rw [shifted] at later
      exact later
  · rintro ⟨here, later⟩ before other after split
    cases before with
    | nil =>
        cases split
        rw [List.map_nil, List.append_nil]
        exact here
    | cons head others =>
        cases split
        rw [shifted]
        exact later others other after rfl

def Unchanged (item : ReEvalResultItem) : Prop :=
  item.newResult = item.oldResult ∧ item.newScore = item.oldScore

theorem rescoreAll_settled {eligibleIds : List Nat} {evals : List SLOEvaluation}
    (dry : rescoreAll window defaultRange clock true db eligibleIds evals = .ok (db, items)) :
    SettledFrom window defaultRange db eligibleIds evals ↔
      forall item, item ∈ items -> Unchanged item := by
  induction evals generalizing eligibleIds items with
  | nil =>
      cases dry
      refine ⟨fun _ item member => absurd member List.not_mem_nil, fun _ before ev after split => ?_⟩
      exact absurd split.symm (List.append_ne_nil_of_right_ne_nil _ (List.cons_ne_nil _ _))
  | cons ev rest ih =>
      rcases rescoreAll_cons.mp dry with ⟨evalResult, next, others, rescored, unchanged, ran, same⟩
      cases unchanged
      rw [settledFrom_cons, ih ran, same, List.forall_mem_cons, rescored]
      refine and_congr_left fun _ => ?_
      constructor
      · intro settled
        have pairs := Prod.mk.inj (Option.some.inj settled)
        exact ⟨pairs.1, pairs.2⟩
      · rintro ⟨sameResult, sameScore⟩
        exact congrArg some (Prod.ext sameResult sameScore)

theorem settled_iff (dry : rescoreWindow window clock true db = .ok (db, items)) :
    Settled window db ↔ forall item, item ∈ items -> Unchanged item :=
  rescoreAll_settled (rescoreWindow_eq_ok.mp dry).2

/-! ## One pass among others -/

section Passes

variable {window : Window} {clock : Nat -> Instant}

variable {db last : Database} {items : List ReEvalResultItem} {dryRun : Bool}
  {after before : SLOEvaluation} {item : ReEvalResultItem}

theorem rescoreWindow_dry (dry : rescoreWindow window clock true db = .ok (last, items)) :
    last = db :=
  rescoreAll_dry (rescoreWindow_eq_ok.mp dry).2

theorem rescoreWindow_items (ran : rescoreWindow window clock dryRun db = .ok (last, items)) :
    items.map (·.id) = (window.evaluations db.evaluations).map (·.id) :=
  rescoreAll_items (rescoreWindow_eq_ok.mp ran).2

theorem rescoreAll_shown {defaultRange : Option (Int × Int)} {eligibleIds : List Nat}
    {evals : List SLOEvaluation}
    (ran : rescoreAll window defaultRange clock dryRun db eligibleIds evals = .ok (last, items)) :
    items.map (fun item => (item.id, item.oldResult, item.oldScore)) =
      evals.map fun ev => (ev.id, oldResult ev, oldScore ev) := by
  induction evals generalizing db eligibleIds items with
  | nil =>
      cases ran
      rfl
  | cons ev rest ih =>
      rcases rescoreAll_cons.mp ran with ⟨evalResult, next, others, _, _, looped, same⟩
      rw [same, List.map_cons, List.map_cons, ih looped]
      rfl

theorem rescoreWindow_rows (ran : rescoreWindow window clock false db = .ok (last, items)) :
    List.Forall₂ (Passed window items) db.evaluations.rows last.evaluations.rows ∧
      last = { db with evaluations := last.evaluations } :=
  rescoreAll_rows (fun _ member => (Window.evaluations_stored member).1)
    (window.evaluations_nodup db.evaluations) (rescoreWindow_eq_ok.mp ran).2

theorem rescoreWindow_series (ran : rescoreWindow window clock dryRun db = .ok (last, items))
    {row : SLOEvaluation} (stored : row ∈ db.evaluations.rows)
    (rewritten : row.id ∈ items.map (·.id)) : row ∈ window.evaluations db.evaluations := by
  rw [rescoreWindow_items ran] at rewritten
  rcases List.mem_map.mp rewritten with ⟨ev, member, same⟩
  have found := find_of_mem (Window.evaluations_stored member).1
  rw [same, find_of_mem stored] at found
  exact Option.some.inj found ▸ member

theorem Rescored.measuresOnce (rescored : Rescored window item before after)
    (distinct : window.sloDef.DistinctMetrics) : MeasuresOnce after := by
  rcases rescored with ⟨_, _, _, _, indicatorRows, evaluated, _, rows, same⟩
  rw [same]
  change (indicatorRows.rows.map (·.objective.sli)).Nodup
  rw [rows, evaluatedRows_metrics evaluated]
  exact distinct

theorem Rescored.shownAlike (rescored : Rescored window item before after)
    (distinct : window.sloDef.DistinctMetrics) (once : MeasuresOnce before)
    (unchanged : Unchanged item) : ShownAlike window before after := by
  have value := rescored.value
  rcases rescored with ⟨evalResult, _, _, now, indicatorRows, evaluated, isItem, rows, same⟩
  have sameResult : before.result = some item.newResult := by
    have shown := unchanged.1
    rw [isItem] at shown ⊢
    change ResultValue.ofOutcome evalResult.result = before.result.getD .error at shown
    cases stored : before.result with
    | none =>
        rw [stored] at shown
        cases outcome : evalResult.result <;> rw [outcome] at shown <;> cases shown
    | some result =>
        rw [stored] at shown
        exact congrArg some shown.symm
  have sameScore : oldScore after = oldScore before := by
    have shown := unchanged.2
    rw [same]
    change item.newScore = oldScore before
    rw [shown, isItem]
    rfl
  have alike : ReadsAlike window before after := by
    rw [same]
    exact rescoredRow_readsAlike distinct once evaluated rows (by rw [sameResult])
  refine ⟨alike, fun _ obj member => ?_, fun _ => ?_, fun _ => sameScore⟩
  · have scored : obj.sli ∈ window.sloDef.objectives.rows.map (·.sli) := by
      rw [<- window.metrics]
      exact List.mem_map_of_mem member
    rw [value, if_pos scored]
  · rw [same]
    unfold oldResult
    rw [sameResult]
    rfl

theorem Rescored.shownAlike_other {other : Window} (rescored : Rescored window item before after)
    (outside : ¬ before.SameSeries other.assetId other.sloName) : ShownAlike other before after :=
  ⟨⟨rescored.history, fun series => absurd series outside, fun series => absurd series outside⟩,
    fun series => absurd series outside, fun series => absurd series outside,
    fun series => absurd series outside⟩

end Passes

/-! ## The loop over the SLOs -/

section Request

variable {request : ReEvaluateRequest} {clock : Nat -> Instant} {assetId : Nat}

variable {db last next current : Database} {window : Window}
  {found others : List (Int × List ReEvalResultItem)} {items : List ReEvalResultItem}
  {row : SLOEvaluation} {names : List String}

theorem resolveWindow_series {sloName : String}
    (resolved : resolveWindow request db assetId sloName = .ok window) :
    window.assetId = assetId ∧ window.sloName = sloName := by
  rcases bind_eq_ok.mp resolved with ⟨sloDef, _, resolved⟩
  split at resolved
  · cases resolved
  · rcases bind_eq_ok.mp resolved with ⟨fromDate, _, resolved⟩
    rcases bind_eq_ok.mp resolved with ⟨pair, _, same⟩
    cases same
    exact ⟨rfl, rfl⟩

theorem reEvaluateSlos_cons {sloName : String} {rest : List String} :
    reEvaluateSlos request clock assetId db (sloName :: rest) = .ok (last, found) ↔
      Exists fun window => Exists fun next => Exists fun items => Exists fun others =>
        resolveWindow request db assetId sloName = .ok window ∧
          rescoreWindow window clock request.dryRun db = .ok (next, items) ∧
          reEvaluateSlos request clock assetId next rest = .ok (last, others) ∧
          found = (window.sloDef.version, items) :: others := by
  rw [reEvaluateSlos, bind_eq_ok]
  constructor
  · rintro ⟨⟨next, version, items⟩, single, looped⟩
    rcases bind_eq_ok.mp looped with ⟨⟨final, others⟩, ran, same⟩
    cases same
    rcases bind_eq_ok.mp single with ⟨window, resolved, single⟩
    rcases bind_eq_ok.mp single with ⟨⟨written, reported⟩, rescored, same⟩
    cases same
    exact ⟨window, next, items, others, resolved, rescored, ran, rfl⟩
  · rintro ⟨window, next, items, others, resolved, rescored, ran, same⟩
    refine ⟨(next, window.sloDef.version, items), ?_, ?_⟩
    · refine bind_eq_ok.mpr ⟨window, resolved, ?_⟩
      exact bind_eq_ok.mpr ⟨(next, items), rescored, rfl⟩
    · exact bind_eq_ok.mpr ⟨(last, others), ran, by rw [same]; rfl⟩

def allResults (found : List (Int × List ReEvalResultItem)) : List ReEvalResultItem :=
  found.flatMap Prod.snd

theorem allResults_cons (version : Int) (items : List ReEvalResultItem)
    (others : List (Int × List ReEvalResultItem)) :
    allResults ((version, items) :: others) = items ++ allResults others :=
  rfl

/-- A database that the real run has reached when the SLOs of a list are still
ahead, seen from the stored database. -/
structure Follows (request : ReEvaluateRequest) (assetId : Nat) (db current : Database)
    (names : List String) : Prop where
  slo : current.sloDefinitions = db.sloDefinitions
  sli : current.sliDefinitions = db.sliDefinitions
  history : List.Forall₂ SLOEvaluation.SameHistory db.evaluations.rows current.evaluations.rows
  once : forall row, row ∈ current.evaluations.rows -> MeasuresOnce row
  shown : forall name, name ∈ names -> forall window,
    resolveWindow request db assetId name = .ok window ->
      List.Forall₂ (ShownAlike window) db.evaluations.rows current.evaluations.rows

theorem related_trans {related : SLOEvaluation -> SLOEvaluation -> Prop}
    (transitive : forall first second third, related first second -> related second third ->
      related first third) {rows others last : List SLOEvaluation}
    (one : List.Forall₂ related rows others) (two : List.Forall₂ related others last) :
    List.Forall₂ related rows last :=
  Latest.related_comp transitive one two

/-- A pass leaves the database such that the SLOs still ahead show what they
showed, unless its own SLO is among them and has changed. -/
theorem Follows.step {name : String} {rest : List String}
    (follows : Follows request assetId db current (name :: rest))
    (resolved : resolveWindow request db assetId name = .ok window)
    (ran : rescoreWindow window clock false current = .ok (next, items))
    (distinct : window.evaluations current.evaluations ≠ [] -> window.sloDef.DistinctMetrics)
    (unchanged : name ∈ rest -> forall item, item ∈ items -> Unchanged item) :
    Follows request assetId db next rest := by
  rcases rescoreWindow_rows ran with ⟨passed, sameTables⟩
  have within := Latest.related_with_members passed
  have distinctOf : forall row, row ∈ current.evaluations.rows -> row.id ∈ items.map (·.id) ->
      window.sloDef.DistinctMetrics := fun row stored rewritten =>
    distinct (List.ne_nil_of_mem (rescoreWindow_series ran stored rewritten))
  refine ⟨?_, ?_, ?_, ?_, ?_⟩
  · rw [sameTables]
    exact follows.slo
  · rw [sameTables]
    exact follows.sli
  · exact related_trans (fun _ _ _ one two => one.trans two) follows.history
      (passed.imp fun _ _ here => here.history)
  · intro row member
    rcases mem_related within.flip member with ⟨before, _, stored, _, here⟩
    rcases here with ⟨_, same⟩ | ⟨item, itemMember, sameId, rescored⟩
    · rw [same]
      exact follows.once before stored
    · exact rescored.measuresOnce
        (distinctOf before stored (List.mem_map.mpr ⟨item, itemMember, sameId⟩))
  · intro other otherMember otherWindow otherResolved
    refine related_trans (fun _ _ _ one two => one.trans two)
      (follows.shown other (List.mem_cons_of_mem _ otherMember) otherWindow otherResolved) ?_
    refine within.imp fun before after here => ?_
    rcases here with ⟨stored, _, ⟨_, same⟩ | ⟨item, itemMember, sameId, rescored⟩⟩
    · rw [same]
      exact .refl _ _
    · have rewritten := List.mem_map.mpr ⟨item, itemMember, sameId⟩
      by_cases isName : other = name
      · rw [isName, resolved] at otherResolved
        cases otherResolved
        rw [isName] at otherMember
        exact rescored.shownAlike (distinctOf before stored rewritten)
          (follows.once before stored) (unchanged otherMember item itemMember)
      · refine rescored.shownAlike_other fun series => isName ?_
        have ownSeries :=
          (Window.evaluations_stored (rescoreWindow_series ran stored rewritten)).2
        rw [(resolveWindow_series otherResolved).2] at series
        rw [(resolveWindow_series resolved).2] at ownSeries
        exact series.2.symm.trans ownSeries.2

theorem windowItems_length {dryLast realLast : Database} {others : List ReEvalResultItem}
    (history : List.Forall₂ SLOEvaluation.SameHistory db.evaluations.rows current.evaluations.rows)
    (dry : rescoreWindow window clock true db = .ok (dryLast, items))
    (real : rescoreWindow window clock false current = .ok (realLast, others)) :
    others.length = items.length := by
  have evals := loadEvaluationsForReeval_related (fun _ _ here => here) history window.assetId
    window.sloName (some window.fromDate)
  have dryLength := congrArg List.length (rescoreWindow_items dry)
  have realLength := congrArg List.length (rescoreWindow_items real)
  rw [List.length_map, List.length_map] at dryLength realLength
  rw [dryLength, realLength]
  exact evals.length_eq.symm

/-- When both runs report the same for a list of SLOs, an SLO of that list still
shows at the start of it what it showed in the stored database. -/
theorem reported_shown {name : String} (sameSlo : next.sloDefinitions = db.sloDefinitions)
    (history : List.Forall₂ SLOEvaluation.SameHistory db.evaluations.rows next.evaluations.rows)
    (dry : reEvaluateSlos { request with dryRun := true } clock assetId db names = .ok (db, found))
    (real : reEvaluateSlos { request with dryRun := false } clock assetId next names = .ok (last,
      others))
    (same : allResults others = allResults found)
    (resolved : resolveWindow request db assetId name = .ok window) (member : name ∈ names)
    {ev : SLOEvaluation} (inWindow : ev ∈ window.evaluations db.evaluations)
    (stored : next.evaluations.find ev.id = some row) :
    oldResult row = oldResult ev ∧ oldScore row = oldScore ev := by
  induction names generalizing next found others row with
  | nil => exact absurd member List.not_mem_nil
  | cons head rest ih =>
      rcases reEvaluateSlos_cons.mp dry with
        ⟨dryWindow, dryNext, dryItems, dryOthers, dryResolved, dryRan, dryLooped, isFound⟩
      have sameDb := rescoreWindow_dry dryRan
      subst sameDb
      rcases reEvaluateSlos_cons.mp real with
        ⟨realWindow, realNext, realItems, realOthers, realResolved, realRan, realLooped, isOthers⟩
      change resolveWindow request next assetId head = _ at realResolved
      change resolveWindow request dryNext assetId head = _ at dryResolved
      rw [resolveWindow_related history sameSlo, dryResolved] at realResolved
      cases realResolved
      rw [isFound, isOthers, allResults_cons, allResults_cons] at same
      have split := List.append_inj same (windowItems_length history dryRan realRan)
      by_cases here : name = head
      · rw [here, dryResolved] at resolved
        cases resolved
        have dryShown := rescoreAll_shown (rescoreWindow_eq_ok.mp dryRan).2
        have realShown := rescoreAll_shown (rescoreWindow_eq_ok.mp realRan).2
        rw [split.1, dryShown] at realShown
        have shown : (ev.id, oldResult ev, oldScore ev) ∈
            (window.evaluations next.evaluations).map
              fun ev => (ev.id, oldResult ev, oldScore ev) := by
          rw [<- realShown]
          exact List.mem_map_of_mem inWindow
        rcases List.mem_map.mp shown with ⟨other, otherMember, sameShown⟩
        have sameId : other.id = ev.id := congrArg Prod.fst sameShown
        have otherFound := find_of_mem (Window.evaluations_stored otherMember).1
        rw [sameId, stored] at otherFound
        cases otherFound
        exact ⟨congrArg (fun shown => shown.2.1) sameShown, congrArg (fun shown => shown.2.2) sameShown⟩
      · rcases rescoreWindow_rows realRan with ⟨passed, sameTables⟩
        rcases find_related (fun _ _ here => here.history.id) passed stored with
          ⟨after, afterFound, passedRow⟩
        have ownSeries := (Window.evaluations_stored inWindow).2
        have unchanged : after = row := by
          rcases passedRow with ⟨_, sameRow⟩ | ⟨item, itemMember, sameId, _⟩
          · exact sameRow
          · have rewritten := rescoreWindow_series realRan (find_mem stored)
              (List.mem_map.mpr ⟨item, itemMember, sameId⟩)
            have headSeries := (Window.evaluations_stored rewritten).2
            rcases find_related (fun _ _ here => here.id) history
              (find_of_mem (Window.evaluations_stored inWindow).1) with
              ⟨other, otherFound, sameHistory⟩
            rw [stored] at otherFound
            cases otherFound
            rw [(resolveWindow_series dryResolved).2] at headSeries
            rw [(resolveWindow_series resolved).2] at ownSeries
            exact absurd (ownSeries.2.symm.trans (sameHistory.sloName.symm.trans headSeries.2)) here
        rw [unchanged] at afterFound
        have nextSlo : realNext.sloDefinitions = dryNext.sloDefinitions := by
          rw [sameTables]
          exact sameSlo
        exact ih nextSlo
          (related_trans (fun _ _ _ one two => one.trans two) history
            (passed.imp fun _ _ here => here.history))
          dryLooped realLooped split.2 ((List.mem_cons.mp member).resolve_left here)
          afterFound

/-- The item of a rewritten evaluation reports the result and the score that its
row has after the pass. -/
theorem rewritten_shown {item : ReEvalResultItem}
    (ran : rescoreWindow window clock false current = .ok (next, items)) (member : item ∈ items)
    (stored : current.evaluations.find item.id = some row) :
    Exists fun after => next.evaluations.find item.id = some after ∧
      oldResult after = item.newResult ∧ oldScore after = item.newScore := by
  have nodup : (items.map (·.id)).Nodup := by
    rw [rescoreWindow_items ran]
    exact window.evaluations_nodup current.evaluations
  have rowId := find_key stored
  rcases find_related (fun _ _ here => here.history.id) (rescoreWindow_rows ran).1 stored
    with ⟨after, afterFound, passed⟩
  refine ⟨after, afterFound, ?_⟩
  rcases passed with ⟨absent, _⟩ | ⟨other, otherMember, sameId, rescored⟩
  · exact absurd (List.mem_map.mpr ⟨item, member, rowId.symm⟩) absent
  · have same : other = item :=
      List.inj_on_of_nodup_map nodup otherMember member (sameId.trans rowId)
    rw [same] at rescored
    unfold oldResult oldScore
    rw [rescored.result.1, rescored.result.2]
    exact ⟨rfl, rfl⟩

def PredictableFrom (request : ReEvaluateRequest) (db : Database) (assetId : Nat) :
    List String -> Prop
  | [] => True
  | name :: rest =>
      (forall window, resolveWindow request db assetId name = .ok window ->
        WindowAgrees window db ∧ (name ∈ rest -> Settled window db)) ∧
      PredictableFrom request db assetId rest

/-- The real run reports the results of the dry run exactly when the filter
agrees for every SLO, and a repeated one is settled. -/
theorem reEvaluateSlos_agrees (follows : Follows request assetId db current names)
    (dry : reEvaluateSlos { request with dryRun := true } clock assetId db names = .ok (db,
      found)) :
    (Exists fun last => Exists fun others =>
        reEvaluateSlos { request with dryRun := false } clock assetId current names =
          .ok (last, others) ∧ allResults others = allResults found) ↔
      PredictableFrom request db assetId names := by
  induction names generalizing current found with
  | nil =>
      cases dry
      exact ⟨fun _ => trivial, fun _ => ⟨current, [], rfl, rfl⟩⟩
  | cons name rest ih =>
      rcases reEvaluateSlos_cons.mp dry with
        ⟨window, dryNext, items, dryOthers, resolved, dryRan, dryLooped, isFound⟩
      have sameDb := rescoreWindow_dry dryRan
      subst sameDb
      change resolveWindow request dryNext assetId name = _ at resolved
      have shown := follows.shown name List.mem_cons_self window resolved
      have realResolved : resolveWindow request current assetId name = .ok window := by
        rw [resolveWindow_related follows.history follows.slo, resolved]
      have dryCurrent := rescoreWindow_dry_related follows.sli shown dryRan
      have passAgrees := (rescoreWindow_agrees follows.once dryCurrent).trans
        (windowAgrees_related follows.sli shown)
      have settledIff := settled_iff dryRan
      have onlyWindow : (forall other, resolveWindow request dryNext assetId name = .ok other ->
          WindowAgrees other dryNext ∧ (name ∈ rest -> Settled other dryNext)) ↔
            WindowAgrees window dryNext ∧ (name ∈ rest -> Settled window dryNext) := by
        constructor
        · intro all
          exact all window resolved
        · intro here other otherResolved
          rw [resolved] at otherResolved
          cases otherResolved
          exact here
      unfold PredictableFrom
      rw [onlyWindow]
      constructor
      · rintro ⟨last, others, real, same⟩
        rcases reEvaluateSlos_cons.mp real with
          ⟨realWindow, next, realItems, realOthers, realResolved', realRan, realLooped, isOthers⟩
        change resolveWindow request current assetId name = _ at realResolved'
        rw [realResolved] at realResolved'
        cases realResolved'
        rw [isFound, isOthers, allResults_cons, allResults_cons] at same
        have split := List.append_inj same (windowItems_length follows.history dryRan realRan)
        have agrees : WindowAgrees window dryNext := by
          refine passAgrees.mp ⟨next, ?_⟩
          rw [<- split.1]
          exact realRan
        have unchanged : name ∈ rest -> forall item, item ∈ realItems -> Unchanged item := by
          intro repeated item member
          have passed := (rescoreWindow_rows realRan).1
          have dryShown := rescoreAll_shown (rescoreWindow_eq_ok.mp dryRan).2
          have inDry : (item.id, item.oldResult, item.oldScore) ∈
              items.map fun item => (item.id, item.oldResult, item.oldScore) := by
            rw [<- split.1]
            exact List.mem_map_of_mem member
          rw [dryShown] at inDry
          rcases List.mem_map.mp inDry with ⟨ev, inWindow, sameShown⟩
          have sameId : ev.id = item.id := congrArg Prod.fst sameShown
          rcases find_related (fun _ _ here => here.id) follows.history
            (find_of_mem (Window.evaluations_stored inWindow).1) with ⟨row, stored, _⟩
          rw [sameId] at stored
          rcases rewritten_shown realRan member stored with ⟨after, afterFound, newResult, newScore⟩
          have nextSlo : next.sloDefinitions = dryNext.sloDefinitions := by
            rw [(rescoreWindow_rows realRan).2]
            exact follows.slo
          have reported := reported_shown nextSlo
            (related_trans (fun _ _ _ one two => one.trans two) follows.history
              (passed.imp fun _ _ here => here.history))
            dryLooped realLooped split.2 resolved repeated inWindow (sameId ▸ afterFound)
          constructor
          · rw [<- newResult, reported.1]
            exact congrArg (fun shown => shown.2.1) sameShown
          · rw [<- newScore, reported.2]
            exact congrArg (fun shown => shown.2.2) sameShown
        have settled : name ∈ rest -> Settled window dryNext := by
          intro repeated
          refine settledIff.mpr fun item member => unchanged repeated item ?_
          rw [split.1]
          exact member
        have nextFollows := follows.step resolved realRan
          (fun nonempty => (((windowAgrees_related follows.sli shown).mpr agrees) nonempty).1)
          unchanged
        exact ⟨⟨agrees, settled⟩,
          (ih nextFollows dryLooped).mp ⟨last, realOthers, realLooped, split.2⟩⟩
      · rintro ⟨⟨agrees, settled⟩, later⟩
        rcases passAgrees.mpr agrees with ⟨next, realRan⟩
        have nextFollows := follows.step resolved realRan
          (fun nonempty => (((windowAgrees_related follows.sli shown).mpr agrees) nonempty).1)
          (fun repeated => settledIff.mp (settled repeated))
        rcases (ih nextFollows dryLooped).mpr later with
          ⟨last, realOthers, realLooped, same⟩
        refine ⟨last, (window.sloDef.version, items) :: realOthers, ?_, ?_⟩
        · exact reEvaluateSlos_cons.mpr
            ⟨window, next, items, realOthers, realResolved, realRan, realLooped, rfl⟩
        · rw [isFound, allResults_cons, allResults_cons, same]

/-- A pass raises or not for reasons that lie in the version alone, when there is
anything to score. -/
theorem rescoreWindow_dry_isOk (db : Database)
    (scoreable : window.evaluations db.evaluations ≠ [] ->
      0 ≤ window.sloModel.comparison.numberOfComparisonResults ∧
      forall obj, obj ∈ window.sloModel.objectives -> obj.CriteriaParse) :
    Exists fun items => rescoreWindow window clock true db = .ok (db, items) := by
  have looped : forall evals eligibleIds, (evals ≠ [] ->
      0 ≤ window.sloModel.comparison.numberOfComparisonResults ∧
        forall obj, obj ∈ window.sloModel.objectives -> obj.CriteriaParse) ->
      Exists fun items => rescoreAll window (window.defaultRange db) clock true db eligibleIds evals =
        .ok (db, items) := by
    intro evals
    induction evals with
    | nil => exact fun _ _ => ⟨[], rfl⟩
    | cons ev rest ih =>
        intro eligibleIds scoreable
        have both := scoreable (List.cons_ne_nil ev rest)
        rcases (isOk_iff _).mp
          ((rescore_isOk window (window.defaultRange db) db eligibleIds ev).mpr both)
          with ⟨evalResult, rescored⟩
        rcases ih (eligibleIds ++ [ev.id]) (fun _ => both) with ⟨items, ran⟩
        exact ⟨_, rescoreAll_cons.mpr ⟨evalResult, db, items, rescored, rfl, ran, rfl⟩⟩
  rcases looped (window.evaluations db.evaluations) (window.eligibleIds db) scoreable with
    ⟨items, ran⟩
  refine ⟨items, rescoreWindow_eq_ok.mpr ⟨fun nonempty => ?_, ran⟩⟩
  unfold Window.preBaselines Window.baselines getReevalBaselines latestRows
  rw [if_neg (not_lt.mpr (scoreable nonempty).1)]
  rfl

theorem scoreable_of_rescoreWindow {dryRun : Bool}
    (ran : rescoreWindow window clock dryRun db = .ok (last, items))
    (nonempty : window.evaluations db.evaluations ≠ []) :
    0 ≤ window.sloModel.comparison.numberOfComparisonResults ∧
      forall obj, obj ∈ window.sloModel.objectives -> obj.CriteriaParse := by
  have looped := (rescoreWindow_eq_ok.mp ran).2
  cases evalsAre : window.evaluations db.evaluations with
  | nil => exact absurd evalsAre nonempty
  | cons first rest =>
      rw [evalsAre] at looped
      rcases rescoreAll_cons.mp looped with ⟨evalResult, _, _, rescored, _⟩
      exact (rescore_isOk window _ db _ first).mp ((isOk_iff _).mpr ⟨evalResult, rescored⟩)

theorem dry_of_real (sameSlo : current.sloDefinitions = db.sloDefinitions)
    (history : List.Forall₂ SLOEvaluation.SameHistory db.evaluations.rows current.evaluations.rows)
    (real : reEvaluateSlos { request with dryRun := false } clock assetId current names = .ok (last,
      others)) :
    Exists fun found =>
      reEvaluateSlos { request with dryRun := true } clock assetId db names = .ok (db, found) := by
  induction names generalizing current others with
  | nil => exact ⟨[], rfl⟩
  | cons name rest ih =>
      rcases reEvaluateSlos_cons.mp real with
        ⟨window, next, items, later, resolved, ran, looped, _⟩
      change resolveWindow request current assetId name = _ at resolved
      rw [resolveWindow_related history sameSlo] at resolved
      have evals := loadEvaluationsForReeval_related (fun _ _ here => here) history window.assetId
        window.sloName (some window.fromDate)
      have dryIsOk : Exists fun dryItems =>
          rescoreWindow window clock true db = .ok (db, dryItems) := by
        refine rescoreWindow_dry_isOk db fun nonempty =>
          scoreable_of_rescoreWindow ran fun empty => nonempty ?_
        unfold Window.evaluations at empty ⊢
        rw [empty] at evals
        exact List.forall₂_nil_right_iff.mp evals
      rcases dryIsOk with ⟨dryItems, dryRan⟩
      rcases rescoreWindow_rows ran with ⟨passed, sameTables⟩
      have nextSlo : next.sloDefinitions = db.sloDefinitions := by
        rw [sameTables]
        exact sameSlo
      rcases ih nextSlo
        (related_trans (fun _ _ _ one two => one.trans two) history
          (passed.imp fun _ _ here => here.history)) looped with ⟨found, dryLooped⟩
      exact ⟨_, reEvaluateSlos_cons.mpr
        ⟨window, db, dryItems, found, resolved, dryRan, dryLooped, rfl⟩⟩

theorem reEvaluateSlos_dry
    (dry : reEvaluateSlos { request with dryRun := true } clock assetId db names = .ok (last,
      found)) :
    last = db := by
  induction names generalizing db found with
  | nil =>
      cases dry
      rfl
  | cons name rest ih =>
      rcases reEvaluateSlos_cons.mp dry with ⟨window, next, items, others, _, ran, looped, _⟩
      have same := rescoreWindow_dry ran
      subst same
      exact ih looped

theorem predictableFrom_iff :
    PredictableFrom request db assetId names ↔
      forall name, name ∈ names -> forall window,
        resolveWindow request db assetId name = .ok window ->
          WindowAgrees window db ∧ (1 < names.count name -> Settled window db) := by
  induction names with
  | nil => exact ⟨fun _ _ member => absurd member List.not_mem_nil, fun _ => trivial⟩
  | cons head rest ih =>
      unfold PredictableFrom
      rw [ih, List.forall_mem_cons]
      have headCount : 1 < (head :: rest).count head ↔ head ∈ rest := by
        rw [List.count_cons_self, <- List.count_pos_iff]
        omega
      rw [headCount]
      refine and_congr_right fun here => ?_
      refine forall_congr' fun name => imp_congr_right fun member => forall_congr' fun window =>
        imp_congr_right fun resolved => and_congr_right fun _ => ?_
      by_cases isHead : name = head
      · rw [isHead, headCount]
        rw [isHead] at member resolved
        exact ⟨fun _ => (here window resolved).2, fun settled _ => settled member⟩
      · rw [List.count_cons_of_ne (Ne.symm isHead)]

end Request

/-! ## The request -/

def resultsOf (outcome : Except ReEvalError (Database × ReEvaluateResponse)) :
    Option (List ReEvalResultItem) :=
  outcome.toOption.map fun returned => returned.2.results

/-- For every SLO of the request the filter on results agrees, and an SLO that is
named more than once is settled. -/
def Predictable (assigned : Nat -> List String) (db : Database) (request : ReEvaluateRequest) :
    Prop :=
  forall asset names, db.assets.rows.find? (·.name = request.assetName) = some asset ->
    requestedSlos assigned request asset.id = .ok names -> forall name, name ∈ names ->
      forall window, resolveWindow request db asset.id name = .ok window ->
        WindowAgrees window db ∧ (1 < names.count name -> Settled window db)

theorem reEvaluate_eq_ok {assigned : Nat -> List String} {last : Database}
    {request : ReEvaluateRequest} {response : ReEvaluateResponse} :
    reEvaluate assigned clock db request = .ok (last, response) ↔
      Exists fun asset => Exists fun names => Exists fun found =>
        db.assets.rows.find? (·.name = request.assetName) = some asset ∧
          requestedSlos assigned request asset.id = .ok names ∧
          reEvaluateSlos request clock asset.id db names = .ok (last, found) ∧
          response = {
            affectedEvaluations := (allResults found).length
            sloVersionUsed := match found with
              | [(version, _)] => some version
              | _ => none
            results := allResults found } := by
  unfold reEvaluate
  rw [bind_eq_ok]
  constructor
  · rintro ⟨asset, assetFound, returned⟩
    rcases bind_eq_ok.mp returned with ⟨names, requested, returned⟩
    rcases bind_eq_ok.mp returned with ⟨⟨next, found⟩, ran, same⟩
    cases same
    exact ⟨asset, names, found, orRaise_eq_ok.mp assetFound, requested, ran, rfl⟩
  · rintro ⟨asset, names, found, assetFound, requested, ran, same⟩
    refine ⟨asset, orRaise_eq_ok.mpr assetFound, ?_⟩
    refine bind_eq_ok.mpr ⟨names, requested, ?_⟩
    exact bind_eq_ok.mpr ⟨(last, found), ran, by rw [same]; rfl⟩

theorem resultsOf_eq_some {outcome : Except ReEvalError (Database × ReEvaluateResponse)}
    {results : List ReEvalResultItem} :
    resultsOf outcome = some results ↔
      Exists fun last => Exists fun response =>
        outcome = .ok (last, response) ∧ response.results = results := by
  unfold resultsOf
  cases outcome with
  | error failure =>
      constructor
      · intro impossible
        cases impossible
      · rintro ⟨_, _, impossible, _⟩
        cases impossible
  | ok returned =>
      constructor
      · intro same
        exact ⟨returned.1, returned.2, rfl, Option.some.inj same⟩
      · rintro ⟨last, response, isReturned, same⟩
        cases isReturned
        exact congrArg some same

/-- A dry run and the real run return the same results exactly when the dry run
raises, or the filter on results cannot tell the stored results of the window from
those that the evaluations re-score to, and no repeated SLO changes. -/
theorem dryRun_predicts_iff (assigned : Nat -> List String) (clock : Nat -> Instant)
    (db : Database) (request : ReEvaluateRequest)
    (once : forall row, row ∈ db.evaluations.rows -> MeasuresOnce row) :
    resultsOf (reEvaluate assigned clock db { request with dryRun := true }) =
        resultsOf (reEvaluate assigned clock db { request with dryRun := false }) ↔
      ((reEvaluate assigned clock db { request with dryRun := true }).isOk = true ->
        Predictable assigned db request) := by
  have sameRows : List.Forall₂ SLOEvaluation.SameHistory db.evaluations.rows db.evaluations.rows :=
    List.forall₂_same.mpr fun row _ => .refl row
  cases dryIs : reEvaluate assigned clock db { request with dryRun := true } with
  | error failure =>
      refine ⟨fun _ impossible => absurd impossible Bool.false_ne_true, fun _ => ?_⟩
      cases realIs : reEvaluate assigned clock db { request with dryRun := false } with
      | error _ => rfl
      | ok returned =>
          rcases reEvaluate_eq_ok.mp realIs with ⟨asset, names, others, assetFound, requested, ran, _⟩
          rcases dry_of_real rfl sameRows ran with ⟨found, dryRan⟩
          have dryReturned : reEvaluate assigned clock db { request with dryRun := true } = _ :=
            reEvaluate_eq_ok.mpr ⟨asset, names, found, assetFound, requested, dryRan, rfl⟩
          rw [dryIs] at dryReturned
          cases dryReturned
  | ok returned =>
      rcases reEvaluate_eq_ok.mp dryIs with ⟨asset, names, found, assetFound, requested, dryRan, isReturned⟩
      have requested : requestedSlos assigned request asset.id = .ok names := requested
      have dryLast := reEvaluateSlos_dry dryRan
      rw [dryLast] at dryRan
      have follows : Follows request asset.id db db names :=
        ⟨rfl, rfl, sameRows, once, fun _ _ window _ =>
          List.forall₂_same.mpr fun row _ => .refl window row⟩
      have agrees := (reEvaluateSlos_agrees follows dryRan).trans predictableFrom_iff
      have onlyScope : Predictable assigned db request ↔
          forall name, name ∈ names -> forall window,
            resolveWindow request db asset.id name = .ok window ->
              WindowAgrees window db ∧ (1 < names.count name -> Settled window db) := by
        constructor
        · intro all
          exact all asset names assetFound requested
        · intro here otherAsset otherNames otherFound otherRequested
          rw [assetFound] at otherFound
          cases otherFound
          rw [requested] at otherRequested
          cases otherRequested
          exact here
      have isOk : (Except.ok returned : Except ReEvalError (Database × ReEvaluateResponse)).isOk = true :=
        rfl
      rw [imp_iff_right isOk, onlyScope, <- agrees]
      have dryResults : resultsOf (.ok returned) = some (allResults found) := by
        unfold resultsOf
        change some returned.2.results = _
        rw [isReturned]
      rw [dryResults, eq_comm, resultsOf_eq_some]
      constructor
      · rintro ⟨last, response, realIs, same⟩
        rcases reEvaluate_eq_ok.mp realIs with
          ⟨realAsset, realNames, others, realFound, realRequested, ran, isResponse⟩
        rw [assetFound] at realFound
        cases realFound
        change requestedSlos assigned request asset.id = _ at realRequested
        rw [requested] at realRequested
        cases realRequested
        rw [isResponse] at same
        exact ⟨last, others, ran, same⟩
      · rintro ⟨last, others, ran, same⟩
        exact ⟨last, _, reEvaluate_eq_ok.mpr ⟨asset, names, others, assetFound, requested, ran, rfl⟩, same⟩

/-- The first version gives the stored results again, also when the asset has the SLO from
two assignments. -/
theorem dryRun_predicts_first_version :
    Predictable (fun _ => ["checkout", "checkout"]) Sample.database
      { Sample.request 1 with sloName := none } :=
  (dryRun_predicts_iff (fun _ => ["checkout", "checkout"]) (fun _ => 0) Sample.database
    { Sample.request 1 with sloName := none } (by decide +kernel)).mp (by decide +kernel)
      (by decide +kernel)

/-- The first evaluation passes the second version, as it has nothing to compare
with.  The real run then compares the second evaluation with it; the dry run
still sees a failed evaluation and skips it. -/
theorem dryRun_mispredicts :
    resultsOf (Sample.run { Sample.request 2 with dryRun := true }) ≠
        resultsOf (Sample.run { Sample.request 2 with dryRun := false }) ∧
      (resultsOf (Sample.run { Sample.request 2 with dryRun := true })).map
        (·.map fun item => (item.id, item.newResult)) = some [(10, .pass), (11, .pass)] ∧
      (resultsOf (Sample.run { Sample.request 2 with dryRun := false })).map
        (·.map fun item => (item.id, item.newResult)) = some [(10, .pass), (11, .fail)] := by
  decide +kernel

end ReEvaluation
end Tropek
