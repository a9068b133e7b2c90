import Tropek.Catalog.Agreement
import Tropek.Catalog.Generation

namespace Tropek
namespace Catalog

open Library Manifest TransitionSystem KeyedTable

/-!
# Versions that are created at the same time

Each request that creates a version of an SLO is a transaction of its own, and the
statements of different transactions interleave.  The first statement selects the
newest version of the name and locks its row.  Its snapshot picks the row; when
another transaction has the lock, the statement waits and then looks at that row
again, and at no other one.  When the name has no version, there is no row to lock.

The second statement inserts the version after the one that was read.  It waits for
another transaction that has inserted a row of the same name and version, and it
violates the unique constraint once such a row is committed.  What is read afterwards,
the settings in the previous version, is in a row that nobody changes.
-/

def sloAfter (api : Api) (params : SLOCreateParams) (maxVersion : Option Int) : SLO :=
  { api.nextSlo params with
    version := maxVersion.getD 0 + 1
    comparableFromVersion := params.comparableFromVersion.getD (maxVersion.getD 1)
    objectives :=
      let previous := maxVersion.bind fun version => api.slos.find (params.name, version)
      params.objectives.map (storedObjective api.changePointDefaults previous) }

theorem sloAfter_max (api : Api) (params : SLOCreateParams) :
    sloAfter api params (api.maxSloVersion params.name) = api.nextSlo params :=
  rfl

/-- Where the transaction of `create` is, statement by statement.  `picked`: the
snapshot of the locking statement has picked a version; `locked`: that statement is
over, and its row is locked; `inserted`: the new row is inserted; `failed`: the
insertion has violated the unique constraint. -/
inductive CreatePhase where
  | starting
  | picked (version : Option Int)
  | locked (maxVersion : Option Int)
  | inserted (maxVersion : Option Int) (slo : SLO)
  | committed (slo : SLO)
  | failed

structure CreateTransaction where
  id : Nat
  params : SLOCreateParams
  phase : CreatePhase := .starting

/-- The committed registry and the transactions that are open.  `api`: what is
committed. -/
structure CreateWorld where
  api : Api
  transactions : KeyedTable CreateTransaction.id := .empty

def CreateTransaction.lockedVersion (tx : CreateTransaction) : Option Int :=
  match tx.phase with
  | .locked maxVersion => maxVersion
  | .inserted maxVersion _ => maxVersion
  | .starting | .picked _ | .committed _ | .failed => none

/-- The row that the transaction has inserted, as long as nobody else sees it. -/
def CreateTransaction.pending (tx : CreateTransaction) : Option SLO :=
  match tx.phase with
  | .inserted _ slo => some slo
  | .starting | .picked _ | .locked _ | .committed _ | .failed => none

def CreateWorld.rowLocked (w : CreateWorld) (tx : CreateTransaction) (version : Int) : Bool :=
  w.transactions.rows.any fun other =>
    other.id ≠ tx.id && other.params.name = tx.params.name && other.lockedVersion = some version

def CreateWorld.keyPending (w : CreateWorld) (tx : CreateTransaction) (key : String × Int) : Bool :=
  w.transactions.rows.any fun other =>
    other.id ≠ tx.id && other.pending.map SLO.key = some key

def recheck (api : Api) (name : String) (picked : Option Int) : Option Int :=
  picked.bind fun version => (api.slos.find (name, version)).map SLO.version

def CreateTransaction.setPhase (phase : CreatePhase) (tx : CreateTransaction) : CreateTransaction :=
  { tx with phase }

theorem CreateTransaction.setPhase_id (phase : CreatePhase) (tx : CreateTransaction) :
    (tx.setPhase phase).id = tx.id :=
  rfl

def CreateWorld.advance (w : CreateWorld) (txId : Nat) (phase : CreatePhase) :
    KeyedTable CreateTransaction.id :=
  w.transactions.update txId (CreateTransaction.setPhase phase) (CreateTransaction.setPhase_id phase)

/-- The statements of the transactions, in any interleaving.  `pick`: the snapshot of
the first statement; `lock`: the first statement has its lock. -/
inductive CreateAction where
  | start (txId : Nat) (params : SLOCreateParams)
  | pick (txId : Nat)
  | lock (txId : Nat)
  | insert (txId : Nat)
  | commit (txId : Nat)

/-- One statement of a transaction that creates a version.  The lock of the first one
holds until the commit; the unique constraint is checked by the insertion. -/
def CreateWorld.step (w : CreateWorld) : CreateAction -> Option CreateWorld
  | .start txId params =>
      let tx : CreateTransaction := { id := txId, params }
      if fresh : w.transactions.find tx.id = none then
        some { w with transactions := w.transactions.insert tx fresh }
      else none
  | .pick txId => do
      let tx <- w.transactions.find txId
      match tx.phase with
      | .starting =>
          let phase := .picked (w.api.maxSloVersion tx.params.name)
          some { w with transactions := w.advance txId phase }
      | _ => none
  | .lock txId => do
      let tx <- w.transactions.find txId
      match tx.phase with
      | .picked version =>
          if version.any (w.rowLocked tx) then none
          else
            let phase := .locked (recheck w.api tx.params.name version)
            some { w with transactions := w.advance txId phase }
      | _ => none
  | .insert txId => do
      let tx <- w.transactions.find txId
      match tx.phase with
      | .locked maxVersion =>
          let slo := sloAfter w.api tx.params maxVersion
          if w.keyPending tx slo.key then none
          else if (w.api.slos.find slo.key).isSome then
            some { w with transactions := w.advance txId .failed }
          else some { w with transactions := w.advance txId (.inserted maxVersion slo) }
      | _ => none
  | .commit txId => do
      let tx <- w.transactions.find txId
      match tx.phase with
      | .inserted _ slo =>
          if fresh : w.api.slos.find slo.key = none then
            some
              { api := { w.api with slos := w.api.slos.insert slo fresh }
                transactions := w.advance txId (.committed slo) }
          else none
      | _ => none

/-- What a statement of a transaction does: the phase that the transaction comes to, and
what is committed then. -/
inductive Statement (w : CreateWorld) (tx : CreateTransaction) :
    CreateAction -> CreatePhase -> Api -> Prop where
  | pick (starting : tx.phase = .starting) :
      Statement w tx (.pick tx.id) (.picked (w.api.maxSloVersion tx.params.name)) w.api
  | lock (version : Option Int) (picked : tx.phase = .picked version)
      (free : version.any (w.rowLocked tx) = false) :
      Statement w tx (.lock tx.id) (.locked (recheck w.api tx.params.name version)) w.api
  | refuse (maxVersion : Option Int) (locked : tx.phase = .locked maxVersion)
      (free : w.keyPending tx (sloAfter w.api tx.params maxVersion).key = false)
      (taken : (w.api.slos.find (sloAfter w.api tx.params maxVersion).key).isSome = true) :
      Statement w tx (.insert tx.id) .failed w.api
  | insert (maxVersion : Option Int) (locked : tx.phase = .locked maxVersion)
      (free : w.keyPending tx (sloAfter w.api tx.params maxVersion).key = false)
      (absent : (w.api.slos.find (sloAfter w.api tx.params maxVersion).key).isSome = false) :
      Statement w tx (.insert tx.id)
        (.inserted maxVersion (sloAfter w.api tx.params maxVersion)) w.api
  | commit (maxVersion : Option Int) (slo : SLO) (inserted : tx.phase = .inserted maxVersion slo)
      (fresh : w.api.slos.find slo.key = none) :
      Statement w tx (.commit tx.id) (.committed slo)
        { w.api with slos := w.api.slos.insert slo fresh }

theorem step_eq_some {w next : CreateWorld} {action : CreateAction} :
    w.step action = some next ↔
      (Exists fun tx => Exists fun fresh => action = .start tx.id tx.params ∧
        tx.phase = .starting ∧ next = { w with transactions := w.transactions.insert tx fresh }) ∨
      Exists fun tx => Exists fun phase => Exists fun api =>
        w.transactions.find tx.id = some tx ∧ Statement w tx action phase api ∧
          next = { api, transactions := w.advance tx.id phase } := by
  constructor
  · intro stepped
    cases action with
    | start txId params =>
        unfold CreateWorld.step at stepped
        dsimp only at stepped
        split at stepped
        · rename_i fresh
          cases stepped
          exact Or.inl ⟨_, fresh, rfl, rfl, rfl⟩
        · cases stepped
    | pick txId =>
        rcases Option.bind_eq_some_iff.mp stepped with ⟨tx, found, stepped⟩
        cases find_key found
        refine Or.inr ⟨tx, ?_⟩
        split at stepped
        · rename_i starting
          cases stepped
          exact ⟨_, _, found, .pick starting, rfl⟩
        · cases stepped
    | lock txId =>
        rcases Option.bind_eq_some_iff.mp stepped with ⟨tx, found, stepped⟩
        cases find_key found
        refine Or.inr ⟨tx, ?_⟩
        split at stepped
        · rename_i version picked
          split at stepped
          · cases stepped
          · rename_i free
            cases stepped
            exact ⟨_, _, found, .lock version picked (Bool.eq_false_iff.mpr free), rfl⟩
        · cases stepped
    | insert txId =>
        rcases Option.bind_eq_some_iff.mp stepped with ⟨tx, found, stepped⟩
        cases find_key found
        refine Or.inr ⟨tx, ?_⟩
        split at stepped
        · rename_i maxVersion locked
          dsimp only at stepped
          split at stepped
          · cases stepped
          · rename_i free
            split at stepped
            · rename_i taken
              cases stepped
              exact ⟨_, _, found, .refuse _ locked (Bool.eq_false_iff.mpr free) taken, rfl⟩
            · rename_i absent
              cases stepped
              exact ⟨_, _, found, .insert _ locked (Bool.eq_false_iff.mpr free)
                (Bool.eq_false_iff.mpr absent), rfl⟩
        · cases stepped
    | commit txId =>
        rcases Option.bind_eq_some_iff.mp stepped with ⟨tx, found, stepped⟩
        cases find_key found
        refine Or.inr ⟨tx, ?_⟩
        split at stepped
        · rename_i maxVersion slo inserted
          split at stepped
          · rename_i fresh
            cases stepped
            exact ⟨_, _, found, .commit maxVersion slo inserted fresh, rfl⟩
          · cases stepped
        · cases stepped
  · rintro (⟨tx, fresh, action, starting, same⟩ | ⟨tx, phase, api, found, statement, same⟩)
    · subst action same
      rcases tx with ⟨id, params, phase⟩
      cases starting
      exact dif_pos fresh
    · subst same
      cases statement with
      | pick starting =>
          refine Option.bind_eq_some_iff.mpr ⟨tx, found, ?_⟩
          rw [starting]
      | lock version picked free =>
          refine Option.bind_eq_some_iff.mpr ⟨tx, found, ?_⟩
          rw [picked]
          exact if_neg (Bool.eq_false_iff.mp free)
      | refuse maxVersion locked free taken =>
          refine Option.bind_eq_some_iff.mpr ⟨tx, found, ?_⟩
          rw [locked]
          dsimp only
          rw [if_neg (Bool.eq_false_iff.mp free), if_pos taken]
      | insert maxVersion locked free absent =>
          refine Option.bind_eq_some_iff.mpr ⟨tx, found, ?_⟩
          rw [locked]
          dsimp only
          rw [if_neg (Bool.eq_false_iff.mp free), if_neg (Bool.eq_false_iff.mp absent)]
      | commit maxVersion slo inserted fresh =>
          refine Option.bind_eq_some_iff.mpr ⟨tx, found, ?_⟩
          rw [inserted]
          exact dif_pos fresh

def CreateTransaction.committedSlo (tx : CreateTransaction) : Option SLO :=
  match tx.phase with
  | .committed slo => some slo
  | .starting | .picked _ | .locked _ | .inserted _ _ | .failed => none

def CreateTransaction.assigned (name : String) (tx : CreateTransaction) : Option Int :=
  if tx.params.name = name then tx.committedSlo.map SLO.version else none

def CreateWorld.assigned (w : CreateWorld) (name : String) : List Int :=
  w.transactions.rows.filterMap (CreateTransaction.assigned name)

def lastVersion (api : Api) (name : String) : Int :=
  (api.maxSloVersion name).getD 0

def following (last : Int) (count : Nat) : List Int :=
  (List.range count).map fun (index : Nat) => last + 1 + index

/-- The versions that are assigned are those after the maximum at the beginning, each
once, and every transaction commits if they all go on. -/
structure Promised (start w : CreateWorld) : Prop where
  contiguous : forall name, (w.assigned name).Perm
    (following (lastVersion start.api name) (w.assigned name).length)
  commits : Exists fun rest => Exists fun final =>
    exec CreateWorld.step w rest = some final ∧
      forall tx, tx ∈ final.transactions.rows -> tx.committedSlo.isSome = true

def CreateTransaction.underWay (tx : CreateTransaction) : Bool :=
  match tx.phase with
  | .picked _ | .locked _ | .inserted _ _ => true
  | .starting | .committed _ | .failed => false

/-- No transaction takes its snapshot while another one of the same name is under way. -/
def Alone (w : CreateWorld) : CreateAction -> Prop
  | .pick txId => forall tx, tx ∈ w.transactions.rows -> tx.id = txId ->
      forall other, other ∈ w.transactions.rows -> other.params.name = tx.params.name ->
        other.underWay = false
  | .start _ _ | .lock _ | .insert _ | .commit _ => True

instance (w : CreateWorld) : DecidablePred (Alone w)
  | .pick _ => inferInstanceAs (Decidable (forall tx, tx ∈ w.transactions.rows -> _))
  | .start _ _ | .lock _ | .insert _ | .commit _ => isTrue trivial

@[simp] theorem nextSlo_key (api : Api) (params : SLOCreateParams) :
    (api.nextSlo params).key = (params.name, lastVersion api params.name + 1) :=
  rfl

/-- A committed version after the last one is the last one of its name, and the other
names do not see it. -/
theorem maxSloVersion_insert {api later : Api} {params : SLOCreateParams}
    (rows : later.slos.rows = api.slos.rows ++ [api.nextSlo params]) (name : String) :
    later.maxSloVersion name =
      if params.name = name then some (lastVersion api params.name + 1)
      else api.maxSloVersion name := by
  unfold Api.maxSloVersion
  rw [rows, List.filter_append]
  by_cases same : params.name = name
  · have added : [api.nextSlo params].filter (fun slo => slo.name = name) = [api.nextSlo params] :=
      List.filter_cons_of_pos (decide_eq_true same)
    rw [if_pos same, added, List.map_append]
    refine List.max?_eq_some_iff.mpr ⟨List.mem_append_right _ List.mem_cons_self, ?_⟩
    intro version member
    rcases List.mem_append.mp member with old | new
    · rcases List.mem_map.mp old with ⟨slo, inside, isVersion⟩
      rcases List.mem_filter.mp inside with ⟨present, named⟩
      have older := version_lt_next present ((of_decide_eq_true named).trans same.symm)
      exact isVersion ▸ le_of_lt older
    · exact le_of_eq (List.mem_singleton.mp new)
  · have none : [api.nextSlo params].filter (fun slo => slo.name = name) = [] :=
      List.filter_cons_of_neg fun named => same (of_decide_eq_true named)
    rw [if_neg same, none, List.append_nil]

theorem maxSloVersion_mem {api : Api} {name : String} {version : Int}
    (maximum : api.maxSloVersion name = some version) :
    Exists fun slo => api.slos.find (name, version) = some slo ∧ slo.version = version := by
  rcases List.mem_map.mp (List.max?_mem maximum) with ⟨slo, member, isVersion⟩
  rcases List.mem_filter.mp member with ⟨present, named⟩
  refine ⟨slo, (find_eq_some _ _ _).mpr ⟨present, ?_⟩, isVersion⟩
  exact Prod.ext (of_decide_eq_true named) isVersion

theorem recheck_max (api : Api) (name : String) :
    recheck api name (api.maxSloVersion name) = api.maxSloVersion name := by
  unfold recheck
  cases maximum : api.maxSloVersion name with
  | none => rfl
  | some version =>
      rcases maxSloVersion_mem maximum with ⟨slo, found, isVersion⟩
      rw [Option.bind_some, found, Option.map_some, isVersion]

theorem following_succ (last : Int) (count : Nat) :
    (following last (count + 1)).Perm ((last + count + 1) :: following last count) := by
  unfold following
  rw [List.range_succ, List.map_append, List.map_singleton, add_right_comm]
  exact List.perm_append_singleton _ _

end Catalog
end Tropek
