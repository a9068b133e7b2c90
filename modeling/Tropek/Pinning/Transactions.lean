import Tropek.Library.TransitionSystem
import Tropek.Store.Pins

namespace Tropek
namespace Pinning

open Library Engine Store KeyedTable

/-!
# Concurrent pins

Requests that pin and unpin evaluations run as transactions of their own, and the
statements of different transactions interleave.  The isolation level is read
committed: a statement sees what is committed when it starts, together with the
changes of its own transaction.

An update locks the rows that it changes until its transaction ends, and waits for
rows that another transaction has locked.  The statement that takes pins off
selects rows by columns that other transactions change.  Its snapshot selects the
rows, and when it has waited for them it checks its condition again on what is
committed by then.  Rows that meet the condition only since the snapshot stay as
they are.  The other updates select rows by identifier, and the two moments make
no difference.

The timestamp of a mark is the one at which its transaction began.
-/

inductive PinRequest where
  | pinBaseline (evalId : Nat)
  | unpinBaseline (evalId : Nat)
  | pinBaselineMany (evalIds : List Nat)
  | unpinBaselineMany (evalIds : List Nat)
deriving DecidableEq, Repr

/-- Where the transaction of a pin is, between its statements.  `selected`: the
evaluations to work on have been read; `unpinning`: the snapshot of the statement that
takes pins off has selected rows; `unpinned`: that statement is over and has unpinned
some rows; `written`: the last statement is over. -/
inductive PinPhase where
  | starting
  | selected (evalIds : List Nat)
  | unpinning (evalIds targets : List Nat)
  | unpinned (evalIds taken : List Nat)
  | written (pinned taken : List Nat)
deriving DecidableEq, Repr

structure PinTransaction where
  id : Nat
  request : PinRequest
  now : Instant
  phase : PinPhase := .starting
deriving DecidableEq, Repr

/-- The committed evaluations and the pin transactions that are open.  `db`: the
committed rows. -/
structure PinWorld where
  db : Evaluations
  transactions : KeyedTable PinTransaction.id := .empty

def PinTransaction.pinned (tx : PinTransaction) : List Nat :=
  match tx.phase with
  | .written pinned _ => pinned
  | _ => []

def PinTransaction.taken (tx : PinTransaction) : List Nat :=
  match tx.phase with
  | .unpinned _ taken => taken
  | .written _ taken => taken
  | _ => []

def PinTransaction.locks (tx : PinTransaction) (evalId : Nat) : Bool :=
  tx.pinned.contains evalId || tx.taken.contains evalId

def PinTransaction.version (tx : PinTransaction) (row : SLOEvaluation) : SLOEvaluation :=
  if tx.pinned.contains row.id then row.setPinned tx.now
  else if tx.taken.contains row.id then row.setUnpinned tx.now
  else row

section Version

variable (tx : PinTransaction) (row : SLOEvaluation)

@[simp] theorem PinTransaction.version_id : (tx.version row).id = row.id := by
  unfold PinTransaction.version
  split
  · rfl
  · split <;> rfl

@[simp] theorem PinTransaction.version_assetId : (tx.version row).assetId = row.assetId := by
  unfold PinTransaction.version
  split
  · rfl
  · split <;> rfl

@[simp] theorem PinTransaction.version_sloName : (tx.version row).sloName = row.sloName := by
  unfold PinTransaction.version
  split
  · rfl
  · split <;> rfl

theorem PinTransaction.version_isPinned :
    (tx.version row).isPinned = true ↔
      row.id ∈ tx.pinned ∨ (row.isPinned = true ∧ row.id ∉ tx.taken) := by
  unfold PinTransaction.version
  simp only [List.contains_iff_mem]
  by_cases pinned : row.id ∈ tx.pinned
  · simp [pinned]
  · by_cases taken : row.id ∈ tx.taken
    · simp [pinned, taken]
    · simp [pinned, taken]

end Version

def commitRows (table : Evaluations) (tx : PinTransaction) : Evaluations :=
  table.updateWhere (fun _ => true) tx.version tx.version_id

theorem mem_commitRows {table : Evaluations} {tx : PinTransaction} {row : SLOEvaluation} :
    row ∈ (commitRows table tx).rows ↔
      Exists fun old => old ∈ table.rows ∧ tx.version old = row := by
  unfold commitRows
  rw [mem_updateWhere]
  simp only [if_true]

def PinWorld.locked (w : PinWorld) (tx : PinTransaction) (evalIds : List Nat) : Bool :=
  w.transactions.rows.any fun other =>
    other.id ≠ tx.id && w.db.rows.any fun row => evalIds.contains row.id && other.locks row.id

/-- The evaluations that a request works on, when it goes on to change them. -/
def PinRequest.select (table : Evaluations) : PinRequest -> Option (List Nat)
  | .pinBaseline evalId =>
      match table.find evalId with
      | none => none
      | some ev => if ev.status = .completed ∧ ev.invalidated = false then some [evalId] else none
  | .unpinBaseline evalId => (table.find evalId).map fun _ => [evalId]
  | .pinBaselineMany evalIds =>
      match (newestPerGroup (pinEligible table evalIds)).map (·.id) with
      | [] => none
      | first :: rest => some (first :: rest)
  | .unpinBaselineMany evalIds => if evalIds = [] then none else some evalIds

def PinRequest.takesOff (table : Evaluations) (evalIds : List Nat) (row : SLOEvaluation) :
    PinRequest -> Bool
  | .pinBaseline evalId =>
      match table.find evalId with
      | none => false
      | some ev => inPinnedSeries ev row && row.isPinned
  | .pinBaselineMany _ => inAffectedGroup table evalIds row && row.isPinned
  | .unpinBaseline _ => false
  | .unpinBaselineMany _ => false

def PinWorld.toUnpin (w : PinWorld) (tx : PinTransaction) (evalIds : List Nat) : List Nat :=
  (w.db.rows.filter fun row => tx.request.takesOff w.db evalIds row).map (·.id)

def PinRequest.isPin : PinRequest -> Bool
  | .pinBaseline _ => true
  | .pinBaselineMany _ => true
  | .unpinBaseline _ => false
  | .unpinBaselineMany _ => false

def PinTransaction.setPhase (phase : PinPhase) (tx : PinTransaction) : PinTransaction :=
  { tx with phase }

theorem PinTransaction.setPhase_id (phase : PinPhase) (tx : PinTransaction) :
    (tx.setPhase phase).id = tx.id :=
  rfl

def PinWorld.setPhase (w : PinWorld) (txId : Nat) (phase : PinPhase) : PinWorld :=
  { w with
    transactions := w.transactions.update txId (PinTransaction.setPhase phase)
      (PinTransaction.setPhase_id phase) }

/-- The statements of the pin transactions, in any interleaving.  `unpinStart`: the
statement that takes pins off starts; `unpinEnd`: it has waited for its rows, and
changes them; `update`: the last statement of the transaction; `abort`: the transaction
is rolled back. -/
inductive PinAction where
  | start (txId : Nat) (request : PinRequest) (now : Instant)
  | read (txId : Nat)
  | unpinStart (txId : Nat)
  | unpinEnd (txId : Nat)
  | update (txId : Nat)
  | commit (txId : Nat)
  | abort (txId : Nat)

/-- One statement of a pin transaction.  A statement chooses its rows by its snapshot
and waits for those that another transaction has locked. -/
def step (w : PinWorld) : PinAction -> Option PinWorld
  | .start txId request now =>
      let tx : PinTransaction := { id := txId, request, now }
      if fresh : w.transactions.find tx.id = none then
        some { w with transactions := w.transactions.insert tx fresh }
      else none
  | .read txId => do
      let tx <- w.transactions.find txId
      match tx.phase with
      | .starting =>
          match tx.request.select w.db with
          | none => some { w with transactions := w.transactions.delete txId }
          | some evalIds => some (w.setPhase txId (.selected evalIds))
      | _ => none
  | .unpinStart txId => do
      let tx <- w.transactions.find txId
      match tx.phase with
      | .selected evalIds =>
          if tx.request.isPin then
            some (w.setPhase txId (.unpinning evalIds (w.toUnpin tx evalIds)))
          else none
      | _ => none
  | .unpinEnd txId => do
      let tx <- w.transactions.find txId
      match tx.phase with
      | .unpinning evalIds targets =>
          if w.locked tx targets then none
          else some (w.setPhase txId
            (.unpinned evalIds ((w.toUnpin tx evalIds).filter fun evalId => targets.contains evalId)))
      | _ => none
  | .update txId => do
      let tx <- w.transactions.find txId
      match tx.phase with
      | .selected evalIds =>
          if tx.request.isPin || w.locked tx evalIds then none
          else some (w.setPhase txId (.written [] evalIds))
      | .unpinned evalIds taken =>
          if w.locked tx evalIds then none
          else some (w.setPhase txId (.written evalIds taken))
      | _ => none
  | .commit txId => do
      let tx <- w.transactions.find txId
      match tx.phase with
      | .written _ _ =>
          some
            { db := commitRows w.db tx
              transactions := w.transactions.delete txId }
      | _ => none
  | .abort txId => do
      let _ <- w.transactions.find txId
      some { w with transactions := w.transactions.delete txId }

def PinWorld.Initial (w : PinWorld) : Prop :=
  w.transactions = .empty

def Reachable : PinWorld -> Prop :=
  TransitionSystem.Reachable step PinWorld.Initial

theorem mem_toUnpin {w : PinWorld} {tx : PinTransaction} {evalIds : List Nat} {row : SLOEvaluation}
    (member : row ∈ w.db.rows) :
    row.id ∈ w.toUnpin tx evalIds ↔ tx.request.takesOff w.db evalIds row = true := by
  unfold PinWorld.toUnpin
  rw [List.mem_map]
  constructor
  · rintro ⟨other, selected, same⟩
    rw [List.mem_filter] at selected
    cases eq_of_key selected.1 member same
    exact selected.2
  · intro taken
    exact ⟨row, List.mem_filter.mpr ⟨member, taken⟩, rfl⟩

end Pinning
end Tropek
