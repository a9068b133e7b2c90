import Tropek.Library.Programs
import Tropek.Presentation.Invalidation

namespace Tropek
namespace Presentation

open Library Engine Store ReEvaluation KeyedTable Fallible

/-!
# One transaction per request

A re-evaluation works through its SLOs in one database session: it rewrites evaluations,
adds an annotation to each of them, replaces their indicator rows and notes which cache
entries that makes stale.  A later SLO may raise when all of this is done for the earlier
ones.  The rows are then rolled back by the middleware, and what was noted is dropped with
the request; otherwise the service commits and deletes the noted entries.

The cached annotation counters are the one exception: they are deleted as soon as an
annotation is added.
-/

/-! ## The session -/

structure NoteGroup where
  id : Nat
  name : String
deriving DecidableEq, Repr

structure ReEvaluationNote where
  evaluationId : Nat
  item : ReEvalResultItem
  noteGroup : NoteGroup
deriving DecidableEq, Repr

/-- A change point with the indicator row that it refers to, by evaluation and objective. -/
structure ChangePointReference where
  id : Nat
  indicatorResult : Option (Nat × Nat)
deriving DecidableEq, Repr

structure StoredRows where
  db : Database
  notes : List ReEvaluationNote := []
  changePoints : List ChangePointReference := []

inductive CachedKey where
  | baseline (assetId : Nat) (sloName : String)
  | fragment (key : CacheKey)
  | annotationCount (sloEvaluationId : Nat)
  | annotationLatest (sloEvaluationId : Nat)
deriving DecidableEq

def CachedKey.isScored : CachedKey -> Bool
  | .baseline _ _ => true
  | .fragment _ => true
  | .annotationCount _ => false
  | .annotationLatest _ => false

inductive Effect where
  | commit
  | rollback
  | delete (key : CachedKey)
deriving DecidableEq

structure PendingInvalidations extends PendingCacheInvalidations where
  baselineKeys : List (Nat × String) := []

def PendingInvalidations.recordEvaluation (pending : PendingInvalidations)
    (evaluation : SLOEvaluation) : PendingInvalidations :=
  { pending.toPendingCacheInvalidations.record evaluation with
    baselineKeys := (evaluation.assetId, evaluation.sloName) :: pending.baselineKeys }

def PendingInvalidations.keys (pending : PendingInvalidations) : List CachedKey :=
  pending.baselineKeys.map (fun key => .baseline key.1 key.2) ++
    pending.heatmapEvaluationIds.map (fun runId => .fragment (.heatmapColumn runId)) ++
    pending.trendEvaluationIds.map (fun id => .fragment (.trendColumn id))

/-- What the database has, what the open transaction sees, what is noted, and what the
request has done to the outside so far. -/
structure RequestSession where
  committed : StoredRows
  working : StoredRows
  pending : PendingInvalidations := {}
  effects : List Effect := []

abbrev ReEvalProgram (α : Type) :=
  Program RequestSession ReEvalError α

def querying {α : Type} (query : Database -> Except ReEvalError α) : ReEvalProgram α :=
  .ofFunction fun session => (query session.working.db, session)

def writing (change : StoredRows -> StoredRows) : ReEvalProgram Unit :=
  .ofFunction fun session => (.ok (), { session with working := change session.working })

def RequestSession.emit (session : RequestSession) (effect : Effect) : RequestSession :=
  { session with effects := session.effects ++ [effect] }

def deleting (key : CachedKey) : ReEvalProgram Unit :=
  .ofFunction fun session => (.ok (), session.emit (.delete key))

def RequestSession.commit (session : RequestSession) : RequestSession :=
  { session.emit .commit with committed := session.working }

def RequestSession.rollback (session : RequestSession) : RequestSession :=
  { session.emit .rollback with working := session.committed }

/-! ## Writing one result -/

def StoredRows.setEvaluations (change : Evaluations -> Evaluations) (rows : StoredRows) : StoredRows :=
  { rows with db := { rows.db with evaluations := change rows.db.evaluations } }

/-- Deleting the indicator rows of an evaluation clears the references to them. -/
def StoredRows.deleteIndicators (evaluationId : Nat) (rows : StoredRows) : StoredRows :=
  let cleared := rows.setEvaluations fun table =>
    table.update evaluationId (SLOEvaluation.setIndicatorRows .empty)
      (SLOEvaluation.setIndicatorRows_id .empty)
  { cleared with changePoints := rows.changePoints.map fun changePoint =>
      if changePoint.indicatorResult.any (·.1 = evaluationId) then
        { changePoint with indicatorResult := none }
      else changePoint }

def insertIndicators (evaluationId : Nat) (rows : List IndicatorResultRow) : ReEvalProgram Unit := do
  let indicatorRows <- querying fun _ => orRaise .database (bulkInsert .empty rows)
  writing (StoredRows.setEvaluations fun table =>
    table.update evaluationId (SLOEvaluation.setIndicatorRows indicatorRows)
      (SLOEvaluation.setIndicatorRows_id indicatorRows))

/-- `_replace_indicator_rows`. -/
def replaceIndicators (evaluationId : Nat) (sloDef : SLODefinition)
    (indicatorResults : List IndicatorResult) : ReEvalProgram Unit := do
  writing (StoredRows.deleteIndicators evaluationId)
  if buildIndicatorRows sloDef indicatorResults ≠ [] then
    insertIndicators evaluationId (buildIndicatorRows sloDef indicatorResults)

def addReevalAnnotation (item : ReEvalResultItem) (noteGroup : NoteGroup) : ReEvalProgram Unit := do
  writing fun rows =>
    { rows with notes := rows.notes ++ [{ evaluationId := item.id, item, noteGroup }] }
  deleting (.annotationCount item.id)
  deleting (.annotationLatest item.id)

/-- `_persist_reeval_result`. -/
def persistResult (window : Window) (now : Instant) (noteGroup : NoteGroup) (ev : SLOEvaluation)
    (evalResult : EvaluationResult) : ReEvalProgram Unit := do
  let freshEv <- querying fun db => .ok (db.evaluations.find ev.id)
  if freshEv.isNone then return ()
  writing (StoredRows.setEvaluations fun table =>
    updateEvaluationRow table (resultItem window ev evalResult) now)
  addReevalAnnotation (resultItem window ev evalResult) noteGroup
  if evalResult.indicatorResults ≠ [] ∧ window.sloDef.objectives.rows ≠ [] then
    replaceIndicators ev.id window.sloDef evalResult.indicatorResults

/-! ## The loops -/

section Loops

variable (request : ReEvaluateRequest) (clock : Nat -> Instant) (noteGroup : NoteGroup)

/-- `_rescore_single`. -/
def rescoreOne (window : Window) (defaultRange : Option (Int × Int)) (eligibleIds : List Nat)
    (ev : SLOEvaluation) : ReEvalProgram ReEvalResultItem := do
  let evalResult <- querying fun db => rescore window defaultRange db eligibleIds ev
  if request.dryRun = false then
    persistResult window (clock ev.id) noteGroup ev evalResult
    Program.ofFunction fun session =>
      (.ok (), { session with pending := session.pending.recordEvaluation ev })
  return resultItem window ev evalResult

def rescoreEach (window : Window) (defaultRange : Option (Int × Int)) (eligibleIds : List Nat) :
    List SLOEvaluation -> ReEvalProgram (List ReEvalResultItem)
  | [] => return []
  | ev :: rest => do
      let item <- rescoreOne request clock noteGroup window defaultRange eligibleIds ev
      let items <- rescoreEach window defaultRange (eligibleIds ++ [ev.id]) rest
      return item :: items

/-- The part of `_re_evaluate_single_slo` that follows the queries of its window. -/
def rescoreFrom (window : Window) : ReEvalProgram (List ReEvalResultItem) := do
  let evalsToProcess <- querying fun db => .ok (window.evaluations db.evaluations)
  match evalsToProcess with
  | [] => return []
  | first :: rest => do
      let defaultRange <- querying fun db =>
        .ok (resolveSliVersionRange db first.sliName first.sliVersion)
      let preBaselines <- querying fun db =>
        window.baselines db.evaluations window.fromDate defaultRange none
      rescoreEach request clock noteGroup window defaultRange (preBaselines.map (·.id)) (first :: rest)

/-- `_re_evaluate_single_slo`. -/
def reEvaluateOne (assetId : Nat) (sloName : String) : ReEvalProgram (Int × List ReEvalResultItem) := do
  let window <- querying fun db => resolveWindow request db assetId sloName
  let items <- rescoreFrom request clock noteGroup window
  return (window.sloDef.version, items)

def reEvaluateEach (assetId : Nat) : List String -> ReEvalProgram (List (Int × List ReEvalResultItem))
  | [] => return []
  | sloName :: rest => do
      let found <- reEvaluateOne request clock noteGroup assetId sloName
      let others <- reEvaluateEach assetId rest
      return found :: others

end Loops

/-! ## The request -/

def noteGroupName (sloNames : List String) : String :=
  match sloNames with
  | [sloName] => s!"re-evaluation \u2014 {sloName}"
  | _ => s!"re-evaluation \u2014 {sloNames.length} SLOs"

def responseOf (perSlo : List (Int × List ReEvalResultItem)) : ReEvaluateResponse :=
  { affectedEvaluations := (perSlo.flatMap Prod.snd).length
    sloVersionUsed := match perSlo with
      | [(version, _)] => some version
      | _ => none
    results := perSlo.flatMap Prod.snd }

def commitAndFlush : ReEvalProgram Unit :=
  .ofFunction fun session => (.ok (), { session.commit with
    effects := session.commit.effects ++ session.pending.keys.map .delete })

def reEvaluateNamed (request : ReEvaluateRequest) (clock : Nat -> Instant) (noteGroupId : Nat)
    (assigned : Nat -> List String) : ReEvalProgram (List (Int × List ReEvalResultItem)) := do
  let asset <- querying fun db =>
    orRaise (.valueError s!"asset '{request.assetName}' not found")
      (db.assets.rows.find? (·.name = request.assetName))
  let sloNames <- querying fun _ => requestedSlos assigned request asset.id
  reEvaluateEach request clock { id := noteGroupId, name := noteGroupName sloNames } asset.id sloNames

/-- `re_evaluate`. -/
def reEvaluateIn (request : ReEvaluateRequest) (clock : Nat -> Instant) (noteGroupId : Nat)
    (assigned : Nat -> List String) : ReEvalProgram ReEvaluateResponse := do
  let perSlo <- reEvaluateNamed request clock noteGroupId assigned
  if request.dryRun = false then commitAndFlush
  return responseOf perSlo

/-- The status of the response to an exception.  Every error of the engine is a
`ValueError`. -/
def httpStatus : ReEvalError -> Nat
  | .valueError _ => 422
  | .baselinePinConflict _ _ => 409
  | .engine _ => 422
  | .database => 409

/-- `SessionMiddleware`, before the response is sent. -/
def finalise (status : Nat) (session : RequestSession) : RequestSession :=
  if 200 ≤ status ∧ status < 300 then session.commit else session.rollback

def handle (request : ReEvaluateRequest) (clock : Nat -> Instant) (noteGroupId : Nat)
    (assigned : Nat -> List String) (rows : StoredRows) :
    Except ReEvalError ReEvaluateResponse × RequestSession :=
  let (outcome, session) := (reEvaluateIn request clock noteGroupId assigned).run
    { committed := rows, working := rows }
  match outcome with
  | .ok response => (.ok response, finalise 200 session)
  | .error failure => (.error failure, finalise (httpStatus failure) session)

/-! ## Before the commit -/

def CountersOnly (effects : List Effect) : Prop :=
  forall effect, effect ∈ effects -> Exists fun key => effect = .delete key ∧ key.isScored = false

/-- The database is as it was, and only annotation counters have been deleted since. -/
def Uncommitted (before after : RequestSession) : Prop :=
  after.committed = before.committed ∧ Exists fun more =>
    after.effects = before.effects ++ more ∧ CountersOnly more

instance : Std.Refl Uncommitted :=
  ⟨fun _ => ⟨rfl, [], (List.append_nil _).symm, fun _ impossible =>
    absurd impossible List.not_mem_nil⟩⟩

instance : IsTrans RequestSession Uncommitted :=
  ⟨fun first second third one two => by
    rcases one with ⟨sameFirst, more, firstMore, deletes⟩
    rcases two with ⟨sameSecond, others, secondMore, otherDeletes⟩
    refine ⟨sameSecond.trans sameFirst, more ++ others, ?_, fun effect member => ?_⟩
    · rw [secondMore, firstMore, List.append_assoc]
    · exact (List.mem_append.mp member).elim (deletes effect) (otherDeletes effect)⟩

open Program

theorem keeps_querying {α : Type} (query : Database -> Except ReEvalError α) :
    Keeps Uncommitted (querying query) :=
  fun session => Std.Refl.refl session

theorem keeps_writing (change : StoredRows -> StoredRows) : Keeps Uncommitted (writing change) :=
  fun _ => ⟨rfl, [], (List.append_nil _).symm, fun _ impossible =>
    absurd impossible List.not_mem_nil⟩

theorem keeps_deleting {key : CachedKey} (notScored : key.isScored = false) :
    Keeps Uncommitted (deleting key) := by
  intro session
  refine ⟨rfl, [.delete key], rfl, fun effect member => ⟨key, ?_, notScored⟩⟩
  exact List.mem_singleton.mp member

theorem keeps_replaceIndicators (evaluationId : Nat) (sloDef : SLODefinition)
    (indicatorResults : List IndicatorResult) :
    Keeps Uncommitted (replaceIndicators evaluationId sloDef indicatorResults) := by
  refine keeps_bind (keeps_writing _) fun _ => ?_
  split
  · exact keeps_bind (keeps_querying _) fun _ => keeps_writing _
  · exact keeps_pure _

theorem keeps_persistResult (window : Window) (now : Instant) (noteGroup : NoteGroup)
    (ev : SLOEvaluation) (evalResult : EvaluationResult) :
    Keeps Uncommitted (persistResult window now noteGroup ev evalResult) := by
  refine keeps_bind (keeps_querying _) fun freshEv => ?_
  split
  · exact keeps_pure _
  · refine keeps_bind (keeps_writing _) fun _ => ?_
    refine keeps_bind (keeps_bind (keeps_writing _) fun _ =>
      keeps_bind (keeps_deleting rfl) fun _ => keeps_deleting rfl) fun _ => ?_
    split
    · exact keeps_replaceIndicators _ _ _
    · exact keeps_pure _

section Loops

variable {request : ReEvaluateRequest} {clock : Nat -> Instant} {noteGroup : NoteGroup}

theorem keeps_rescoreOne (window : Window) (defaultRange : Option (Int × Int))
    (eligibleIds : List Nat) (ev : SLOEvaluation) :
    Keeps Uncommitted (rescoreOne request clock noteGroup window defaultRange eligibleIds ev) := by
  refine keeps_bind (keeps_querying _) fun evalResult => ?_
  split
  · refine keeps_bind (keeps_persistResult _ _ _ _ _) fun _ =>
      keeps_bind (fun _ => ?_) fun _ => keeps_pure _
    exact ⟨rfl, [], (List.append_nil _).symm, fun _ impossible =>
      absurd impossible List.not_mem_nil⟩
  · exact keeps_pure _

theorem keeps_rescoreEach (window : Window) (defaultRange : Option (Int × Int))
    (eligibleIds : List Nat) (evals : List SLOEvaluation) :
    Keeps Uncommitted
      (rescoreEach request clock noteGroup window defaultRange eligibleIds evals) := by
  induction evals generalizing eligibleIds with
  | nil => exact keeps_pure _
  | cons ev rest ih =>
      refine keeps_bind (keeps_rescoreOne _ _ _ _) fun _ => ?_
      exact keeps_bind (ih _) fun _ => keeps_pure _

theorem keeps_rescoreFrom (window : Window) :
    Keeps Uncommitted (rescoreFrom request clock noteGroup window) := by
  refine keeps_bind (keeps_querying _) fun evalsToProcess => ?_
  cases evalsToProcess with
  | nil => exact keeps_pure _
  | cons first rest =>
      refine keeps_bind (keeps_querying _) fun _ => keeps_bind (keeps_querying _) fun _ => ?_
      exact keeps_rescoreEach _ _ _ _

theorem keeps_reEvaluateEach (assetId : Nat) (sloNames : List String) :
    Keeps Uncommitted (reEvaluateEach request clock noteGroup assetId sloNames) := by
  induction sloNames with
  | nil => exact keeps_pure _
  | cons sloName rest ih =>
      have one : Keeps Uncommitted (reEvaluateOne request clock noteGroup assetId sloName) :=
        keeps_bind (keeps_querying _) fun window =>
          keeps_bind (keeps_rescoreFrom window) fun _ => keeps_pure _
      exact keeps_bind one fun _ => keeps_bind ih fun _ => keeps_pure _

end Loops

theorem keeps_reEvaluateNamed (request : ReEvaluateRequest) (clock : Nat -> Instant)
    (noteGroupId : Nat) (assigned : Nat -> List String) :
    Keeps Uncommitted (reEvaluateNamed request clock noteGroupId assigned) :=
  keeps_bind (keeps_querying _) fun _ => keeps_bind (keeps_querying _) fun _ =>
    keeps_reEvaluateEach _ _

/-! ## Agreement with the service -/

def keysOf (evaluation : SLOEvaluation) : List CachedKey :=
  [.baseline evaluation.assetId evaluation.sloName,
    .fragment (.heatmapColumn evaluation.evaluationId), .fragment (.trendColumn evaluation.id)]

def SameKeys (original row : SLOEvaluation) : Prop :=
  original.id = row.id ∧ keysOf original = keysOf row

theorem SameKeys.trans {first second third : SLOEvaluation} (one : SameKeys first second)
    (two : SameKeys second third) : SameKeys first third :=
  ⟨one.1.trans two.1, one.2.trans two.2⟩

theorem PendingInvalidations.mem_recordEvaluation {pending : PendingInvalidations}
    {evaluation : SLOEvaluation} {key : CachedKey} :
    key ∈ (pending.recordEvaluation evaluation).keys ↔
      key ∈ pending.keys ∨ key ∈ keysOf evaluation := by
  simp only [PendingInvalidations.keys, PendingInvalidations.recordEvaluation,
    PendingCacheInvalidations.record, keysOf, List.map_cons, List.mem_append, List.mem_cons,
    List.not_mem_nil]
  tauto

/-- The outcome and the rows of a program are those of the service, and what it has left
satisfies a condition. -/
def Agrees {α : Type} (result : Except ReEvalError α × RequestSession)
    (expected : Except ReEvalError (Database × α)) (condition : α -> RequestSession -> Prop) :
    Prop :=
  match expected with
  | .error failure => result.1 = .error failure
  | .ok (next, value) =>
      result.1 = .ok value ∧ result.2.working.db = next ∧ condition value result.2

section Agreement

variable {α β : Type} {first : ReEvalProgram α} {next : α -> ReEvalProgram β}
  {session : RequestSession} {condition : α -> RequestSession -> Prop}
  {final : β -> RequestSession -> Prop}

theorem Agrees.bind {expected : Except ReEvalError (Database × α)}
    (agrees : Agrees (run first session) expected condition)
    (later : α -> Database -> Except ReEvalError (Database × β))
    (nextAgrees : forall value left, condition value left ->
      Agrees (run (next value) left) (later value left.working.db) final) :
    Agrees (run (first >>= next) session) (expected >>= fun found => later found.2 found.1) final := by
  rw [run_bind]
  cases outcome : run first session with
  | mk result left =>
      rw [outcome] at agrees
      cases expected with
      | error failure =>
          change result = .error failure at agrees
          rw [agrees]
          exact rfl
      | ok found =>
          rcases agrees with ⟨isValue, isRows, holds⟩
          dsimp only at isValue isRows holds
          rw [isValue]
          change Agrees (run (next found.2) left) (later found.2 found.1) final
          rw [<- isRows]
          exact nextAgrees found.2 left holds

theorem agrees_querying_bind {query : Database -> Except ReEvalError α}
    {later : α -> Except ReEvalError (Database × β)}
    (nextAgrees : forall value, query session.working.db = .ok value ->
      Agrees (run (next value) session) (later value) final) :
    Agrees (run (querying query >>= next) session) (query session.working.db >>= later) final := by
  rw [run_bind]
  unfold querying
  rw [run_ofFunction]
  cases answer : query session.working.db with
  | error failure => exact rfl
  | ok value => exact nextAgrees value answer

theorem Agrees.map {expected : Except ReEvalError (Database × α)} (change : α -> β)
    (agrees : Agrees (run first session) expected condition)
    (holds : forall value left, condition value left -> final (change value) left) :
    Agrees (run (first >>= fun value => pure (change value)) session)
      (expected >>= fun found => .ok (found.1, change found.2)) final :=
  agrees.bind (fun value db => .ok (db, change value))
    fun value left isLeft => ⟨rfl, rfl, holds value left isLeft⟩

end Agreement

section Writing

variable {window : Window} {now : Instant} {noteGroup : NoteGroup} {evalResult : EvaluationResult}
  {session : RequestSession}

theorem replaceIndicators_agrees (evaluationId : Nat) :
    Agrees (run (replaceIndicators evaluationId window.sloDef evalResult.indicatorResults) session)
      ((orRaise ReEvalError.database
        ((replaceIndicatorRows session.working.db.evaluations evaluationId window.sloDef
          evalResult.indicatorResults).map fun evaluations =>
            { session.working.db with evaluations })).map fun next => (next, ()))
      fun _ left => left.pending = session.pending := by
  unfold replaceIndicators replaceIndicatorRows
  rw [run_bind]
  change Agrees (run _ { session with
    working := session.working.deleteIndicators evaluationId }) _ _
  split
  · unfold insertIndicators querying
    rw [run_bind, run_ofFunction]
    cases inserted : bulkInsert .empty (buildIndicatorRows window.sloDef
      evalResult.indicatorResults) with
    | none => exact rfl
    | some indicatorRows =>
        refine ⟨rfl, ?_, rfl⟩
        exact congrArg (fun evaluations => { session.working.db with evaluations })
          (update_update _ _ _ _ (SLOEvaluation.setIndicatorRows_id .empty) _ _)
  · rename_i empty
    rw [ne_eq, not_not] at empty
    rw [empty]
    exact ⟨rfl, rfl, rfl⟩

theorem persistResult_agrees {ev stored : SLOEvaluation}
    (present : session.working.db.evaluations.find ev.id = some stored) :
    Agrees (run (persistResult window now noteGroup ev evalResult) session)
      ((persistReevalResult window now session.working.db ev evalResult).map fun next => (next, ()))
      fun _ left => left.pending = session.pending := by
  unfold persistResult persistReevalResult
  rw [run_bind]
  change Agrees (run (if (session.working.db.evaluations.find ev.id).isNone then _ else _) session) _ _
  rw [present]
  change Agrees (run (if evalResult.indicatorResults ≠ [] ∧ window.sloDef.objectives.rows ≠ []
    then replaceIndicators ev.id window.sloDef evalResult.indicatorResults else pure ()) _) _ _
  by_cases replaced : evalResult.indicatorResults ≠ [] ∧ window.sloDef.objectives.rows ≠ []
  · rw [if_pos replaced, if_neg (not_or.mpr replaced)]
    exact replaceIndicators_agrees ev.id
  · rw [if_neg replaced, if_pos (Decidable.of_not_not (replaced ∘ not_or.mp))]
    exact ⟨rfl, rfl, rfl⟩

theorem persistReevalResult_sameKeys {db next : Database} {defaultRange : Option (Int × Int)}
    {eligibleIds : List Nat} {ev : SLOEvaluation}
    (rescored : rescore window defaultRange db eligibleIds ev = .ok evalResult)
    (persisted : persistReevalResult window now db ev evalResult = .ok next) :
    List.Forall₂ SameKeys db.evaluations.rows next.evaluations.rows := by
  rcases persistReevalResult_eq_ok rescored persisted with ⟨indicatorRows, _, isNext⟩
  rw [isNext]
  exact updateWhere_related _ _ _ (rescoredRow_id _ _ _) (fun _ _ _ => ⟨rfl, rfl⟩)
    fun _ _ _ => ⟨rfl, rfl⟩

end Writing

/-! ## What is noted -/

/-- The keys of the evaluations of the items, which a dry run does not note. -/
def Renewed (request : ReEvaluateRequest) (db : Database) (items : List ReEvalResultItem)
    (key : CachedKey) : Prop :=
  request.dryRun = false ∧ Exists fun item => item ∈ items ∧
    Exists fun evaluation => db.evaluations.find item.id = some evaluation ∧ key ∈ keysOf evaluation

/-- What a loop has done when it has listed the items: no evaluation has other keys, and
those of the items have been noted. -/
structure Notes (request : ReEvaluateRequest) (before : RequestSession)
    (items : List ReEvalResultItem) (left : RequestSession) : Prop where
  rows : List.Forall₂ SameKeys before.working.db.evaluations.rows left.working.db.evaluations.rows
  noted : forall key, key ∈ left.pending.keys ↔
    key ∈ before.pending.keys ∨ Renewed request before.working.db items key

section Noting

variable {request : ReEvaluateRequest} {first second : Database}

theorem renewed_iff (rows : List.Forall₂ SameKeys first.evaluations.rows second.evaluations.rows)
    (items : List ReEvalResultItem) (key : CachedKey) :
    Renewed request first items key ↔ Renewed request second items key := by
  constructor
  · rintro ⟨isReal, item, member, evaluation, found, isKey⟩
    rcases find_related (fun _ _ same => same.1.symm) rows found with
      ⟨other, stored, same⟩
    exact ⟨isReal, item, member, other, stored, same.2 ▸ isKey⟩
  · rintro ⟨isReal, item, member, evaluation, found, isKey⟩
    rcases find_related (fun _ _ same => same.1) rows.flip found with
      ⟨other, stored, same⟩
    exact ⟨isReal, item, member, other, stored, same.2 ▸ isKey⟩

theorem renewed_append (db : Database) (items others : List ReEvalResultItem) (key : CachedKey) :
    Renewed request db (items ++ others) key ↔
      Renewed request db items key ∨ Renewed request db others key := by
  unfold Renewed
  rw [<- and_or_left]
  refine and_congr_right fun _ => ?_
  simp only [List.mem_append, or_and_right, exists_or]

theorem renewed_single {db : Database} {item : ReEvalResultItem} {ev stored : SLOEvaluation}
    {key : CachedKey} (isReal : request.dryRun = false)
    (present : db.evaluations.find item.id = some stored) (same : SameKeys ev stored) :
    key ∈ keysOf ev ↔ Renewed request db [item] key := by
  constructor
  · intro isKey
    exact ⟨isReal, item, List.mem_singleton_self item, stored, present, same.2 ▸ isKey⟩
  · rintro ⟨_, other, member, evaluation, found, isKey⟩
    rw [List.mem_singleton.mp member, present] at found
    cases found
    exact same.2 ▸ isKey

theorem notes_nil (session : RequestSession) : Notes request session [] session := by
  refine ⟨List.forall₂_same.mpr fun _ _ => ⟨rfl, rfl⟩, fun key => ?_⟩
  refine (or_iff_left fun renewed => ?_).symm
  rcases renewed with ⟨_, item, impossible, _⟩
  exact absurd impossible List.not_mem_nil

theorem Notes.trans {before between left : RequestSession} {items others : List ReEvalResultItem}
    (one : Notes request before items between) (two : Notes request between others left) :
    Notes request before (items ++ others) left := by
  refine ⟨?_, fun key => ?_⟩
  · exact related_trans (fun _ _ _ here next => here.trans next) one.rows two.rows
  · rw [two.noted, one.noted, renewed_append, or_assoc, renewed_iff one.rows others]

end Noting

/-! ## The loops agree -/

section Loops

variable {request : ReEvaluateRequest} {clock : Nat -> Instant} {noteGroup : NoteGroup}
  {session : RequestSession}

theorem rescoreOne_agrees (window : Window) (defaultRange : Option (Int × Int))
    (eligibleIds : List Nat) {ev stored : SLOEvaluation}
    (present : session.working.db.evaluations.find ev.id = some stored)
    (same : SameKeys ev stored) :
    Agrees (run (rescoreOne request clock noteGroup window defaultRange eligibleIds ev) session)
      ((rescoreSingle window defaultRange clock request.dryRun session.working.db eligibleIds ev))
      fun item left => Notes request session [item] left := by
  unfold rescoreOne rescoreSingle
  refine agrees_querying_bind fun evalResult rescored => ?_
  cases dry : request.dryRun with
  | true =>
      refine ⟨rfl, rfl, List.forall₂_same.mpr fun _ _ => ⟨rfl, rfl⟩, fun key => ?_⟩
      refine (or_iff_left fun renewed => ?_).symm
      exact Bool.false_ne_true (renewed.1.symm.trans dry)
  | false =>
      have written : Agrees (run (persistResult window (clock ev.id) noteGroup ev evalResult) session)
          _ _ :=
        persistResult_agrees present
      rw [if_pos rfl, run_bind]
      cases outcome : run (persistResult window (clock ev.id) noteGroup ev evalResult) session with
      | mk result left =>
          rw [outcome] at written
          unfold persistUnlessDry
          rw [if_neg Bool.false_ne_true]
          cases persisted : persistReevalResult window (clock ev.id) session.working.db ev
            evalResult with
          | error failure =>
              rw [persisted] at written
              change result = .error failure at written
              rw [written]
              exact rfl
          | ok next =>
              rw [persisted] at written
              rcases written with ⟨isDone, isNext, pending⟩
              dsimp only at isDone isNext pending
              rw [isDone]
              refine ⟨rfl, isNext, ?_, fun key => ?_⟩
              · change List.Forall₂ SameKeys _ left.working.db.evaluations.rows
                exact isNext ▸ persistReevalResult_sameKeys rescored persisted
              · rw [<- pending]
                refine PendingInvalidations.mem_recordEvaluation.trans (or_congr_right ?_)
                exact renewed_single dry present same

theorem rescoreEach_agrees (window : Window) (defaultRange : Option (Int × Int))
    (eligibleIds : List Nat) (evals : List SLOEvaluation)
    (present : forall ev, ev ∈ evals -> Exists fun stored =>
      session.working.db.evaluations.find ev.id = some stored ∧ SameKeys ev stored) :
    Agrees (run (rescoreEach request clock noteGroup window defaultRange eligibleIds evals) session)
      (rescoreAll window defaultRange clock request.dryRun session.working.db eligibleIds evals)
      fun items left => Notes request session items left := by
  induction evals generalizing eligibleIds session with
  | nil => exact ⟨rfl, rfl, notes_nil session⟩
  | cons ev rest ih =>
      rcases present ev List.mem_cons_self with ⟨stored, found, same⟩
      refine (rescoreOne_agrees window defaultRange eligibleIds found same).bind
        (fun item db => rescoreAll window defaultRange clock request.dryRun db
          (eligibleIds ++ [ev.id]) rest >>= fun found => .ok (found.1, item :: found.2))
        fun item left noted => ?_
      refine (ih (eligibleIds ++ [ev.id]) fun other member => ?_).map _
        fun items final others => noted.trans others
      rcases present other (List.mem_cons_of_mem ev member) with ⟨before, found, same⟩
      rcases find_related (fun _ _ same => same.1.symm) noted.rows found with
        ⟨after, isAfter, next⟩
      exact ⟨after, isAfter, same.trans next⟩

theorem rescoreFrom_agrees (window : Window) :
    Agrees (run (rescoreFrom request clock noteGroup window) session)
      (rescoreWindow window clock request.dryRun session.working.db)
      fun items left => Notes request session items left := by
  unfold rescoreFrom rescoreWindow
  rw [run_bind]
  change Agrees (run (match window.evaluations session.working.db.evaluations with
    | [] => pure []
    | first :: rest => _) session) _ _
  cases loaded : window.evaluations session.working.db.evaluations with
  | nil => exact ⟨rfl, rfl, notes_nil session⟩
  | cons first rest =>
      rw [run_bind]
      change Agrees (run (querying (fun db => window.baselines db.evaluations window.fromDate _ none)
        >>= fun preBaselines => rescoreEach request clock noteGroup window _ _ _) session) _ _
      refine agrees_querying_bind fun preBaselines _ => ?_
      refine rescoreEach_agrees window _ _ _ fun ev member => ?_
      rw [<- loaded] at member
      have inTable := (Latest.mem_oldestFirst SLOEvaluation.periodStart).mp member
      exact ⟨ev, find_of_mem (List.mem_of_mem_filter inTable), rfl, rfl⟩

theorem reEvaluateOne_agrees (assetId : Nat) (sloName : String) :
    Agrees (run (reEvaluateOne request clock noteGroup assetId sloName) session)
      (reEvaluateSingleSlo request clock assetId session.working.db sloName)
      fun found left => Notes request session found.2 left := by
  unfold reEvaluateOne reEvaluateSingleSlo
  refine agrees_querying_bind fun window _ => ?_
  exact (rescoreFrom_agrees window).map (fun items => (window.sloDef.version, items))
    fun _ _ notes => notes

theorem reEvaluateEach_agrees (assetId : Nat) (sloNames : List String) :
    Agrees (run (reEvaluateEach request clock noteGroup assetId sloNames) session)
      (reEvaluateSlos request clock assetId session.working.db sloNames)
      fun perSlo left => Notes request session (perSlo.flatMap Prod.snd) left := by
  induction sloNames generalizing session with
  | nil => exact ⟨rfl, rfl, notes_nil session⟩
  | cons sloName rest ih =>
      refine (reEvaluateOne_agrees assetId sloName).bind
        (fun found db => reEvaluateSlos request clock assetId db rest >>= fun others =>
          .ok (others.1, found :: others.2))
        fun found left noted => ?_
      exact ih.map _ fun others final notes => noted.trans notes

end Loops

/-! ## All or nothing -/

section Handling

variable (request : ReEvaluateRequest) (clock : Nat -> Instant) (noteGroupId : Nat)
  (assigned : Nat -> List String) (rows : StoredRows)

def reEvaluateNamedRows (db : Database) :
    Except ReEvalError (Database × List (Int × List ReEvalResultItem)) := do
  let asset <- orRaise (.valueError s!"asset '{request.assetName}' not found")
    (db.assets.rows.find? (·.name = request.assetName))
  let sloNames <- requestedSlos assigned request asset.id
  reEvaluateSlos request clock asset.id db sloNames

theorem reEvaluate_eq (db : Database) :
    reEvaluate assigned clock db request =
      reEvaluateNamedRows request clock assigned db >>= fun found =>
        .ok (found.1, responseOf found.2) := by
  unfold reEvaluate reEvaluateNamedRows
  simp only [bind_assoc]
  rfl

theorem reEvaluateNamed_agrees {session : RequestSession} :
    Agrees (run (reEvaluateNamed request clock noteGroupId assigned) session)
      (reEvaluateNamedRows request clock assigned session.working.db)
      fun perSlo left => Notes request session (perSlo.flatMap Prod.snd) left :=
  agrees_querying_bind fun asset _ => agrees_querying_bind fun _ _ =>
    reEvaluateEach_agrees asset.id _

/-- The rows are those from before the request, nothing has been committed, and no entry
of the baseline, heatmap and trend caches has been deleted. -/
structure RolledBack (rows : StoredRows) (after : RequestSession) : Prop where
  committed : after.committed = rows
  uncommitted : Effect.commit ∉ after.effects
  notScored : forall key, .delete key ∈ after.effects -> key.isScored = false

/-- The deletes come after the commit, of exactly the keys of the evaluations of the
response. -/
def FlushedAfterCommit (rows : StoredRows) (response : ReEvaluateResponse) (effects : List Effect) :
    Prop :=
  Exists fun early => Exists fun keys : List CachedKey =>
    effects = early ++ .commit :: keys.map .delete ++ [.commit] ∧ CountersOnly early ∧
      forall key, key ∈ keys ↔ Exists fun item => item ∈ response.results ∧
        Exists fun evaluation => rows.db.evaluations.find item.id = some evaluation ∧
          key ∈ keysOf evaluation

theorem httpStatus_rollback (failure : ReEvalError) (session : RequestSession) :
    finalise (httpStatus failure) session = session.rollback := by
  cases failure <;> rfl

theorem rollback_rolledBack {left : RequestSession}
    (kept : Uncommitted { committed := rows, working := rows } left) :
    RolledBack rows left.rollback := by
  rcases kept with ⟨same, more, isMore, counters⟩
  rw [List.nil_append] at isMore
  have all : left.rollback.effects = more ++ [.rollback] := congrArg (· ++ [Effect.rollback]) isMore
  refine ⟨same, fun committed => ?_, fun key deleted => ?_⟩
  · rw [all, List.mem_append] at committed
    rcases committed with early | last
    · rcases counters _ early with ⟨_, impossible, _⟩
      cases impossible
    · cases List.mem_singleton.mp last
  · rw [all, List.mem_append] at deleted
    rcases deleted with early | last
    · rcases counters _ early with ⟨other, same, notScored⟩
      cases same
      exact notScored
    · cases List.mem_singleton.mp last

/-- A re-evaluation that raises leaves every row and every cached score; one that returns
has written the rows of the service, and has deleted the keys of what it has scored after
its commit unless it was dry. -/
theorem handle_allOrNothing :
    match handle request clock noteGroupId assigned rows with
    | (.error failure, after) =>
        reEvaluate assigned clock rows.db request = .error failure ∧ RolledBack rows after
    | (.ok response, after) =>
        reEvaluate assigned clock rows.db request = .ok (after.committed.db, response) ∧
          (request.dryRun = false -> FlushedAfterCommit rows response after.effects) := by
  have agrees : Agrees (run _ ⟨rows, rows, {}, []⟩) _ _ :=
    reEvaluateNamed_agrees request clock noteGroupId assigned
  have kept := keeps_reEvaluateNamed request clock noteGroupId assigned ⟨rows, rows, {}, []⟩
  unfold handle reEvaluateIn
  rw [run_bind, reEvaluate_eq]
  cases outcome : run (reEvaluateNamed request clock noteGroupId assigned) ⟨rows, rows, {}, []⟩ with
  | mk result left =>
      rw [outcome] at agrees kept
      cases expected : reEvaluateNamedRows request clock assigned rows.db with
      | error failure =>
          rw [expected] at agrees
          change result = .error failure at agrees
          rw [agrees]
          dsimp only
          rw [httpStatus_rollback]
          exact ⟨rfl, rollback_rolledBack rows kept⟩
      | ok found =>
          rw [expected] at agrees
          rcases agrees with ⟨isValue, isRows, notes⟩
          dsimp only at isValue isRows
          rw [isValue]
          have isLast : (.ok (found.1, responseOf found.2) :
              Except ReEvalError (Database × ReEvaluateResponse)) =
                .ok (left.working.db, responseOf found.2) := by
            rw [isRows]
          cases dry : request.dryRun with
          | true =>
              refine ⟨isLast, fun isReal => ?_⟩
              cases isReal
          | false =>
              refine ⟨isLast, fun _ => ?_⟩
              rcases kept with ⟨_, more, isMore, counters⟩
              rw [List.nil_append] at isMore
              refine ⟨more, left.pending.keys, ?_, counters, fun key => ?_⟩
              · change left.effects ++ [Effect.commit] ++ left.pending.keys.map .delete ++ [.commit] = _
                rw [isMore, List.append_assoc more, List.singleton_append]
              · refine (notes.noted key).trans ?_
                exact ⟨fun either => either.elim (absurd · List.not_mem_nil) And.right,
                  fun renewed => Or.inr ⟨dry, renewed⟩⟩

end Handling

end Presentation
end Tropek
