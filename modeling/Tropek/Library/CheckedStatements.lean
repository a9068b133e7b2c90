import Tropek.Library.Programs

namespace Tropek
namespace Library

/-!
# Transactions of checked statements

A database checks its constraints when a statement is finished.  A statement whose
result violates them is refused and changes nothing, so the tables are valid after
every statement, and the validity is part of their type.

A transaction runs a program of such statements.  It keeps what the program has left if
its outcome is one to commit, and the tables from before the program otherwise.
-/

/-- Tables that meet the constraints of their database. -/
abbrev Checked {σ : Type} (valid : σ -> Prop) : Type :=
  { tables : σ // valid tables }

namespace Checked

variable {σ ε α : Type} {valid : σ -> Prop}

/-- `SELECT`. -/
def query (read : σ -> α) : Program (Checked valid) ε α :=
  .ofFunction fun tables => (.ok (read tables.val), tables)

/-- A statement that writes. -/
def statement [DecidablePred valid] (violated : ε) (change : σ -> σ) :
    Program (Checked valid) ε Unit :=
  .ofFunction fun tables =>
    if accepted : valid (change tables.val) then (.ok (), ⟨change tables.val, accepted⟩)
    else (.error violated, tables)

/-- Run a program and commit or roll back, as the outcome says.  After a rollback the
state is the one before the program, so that no caller sees a part of it. -/
def transaction (commits : Except ε α -> Bool) (program : Program (Checked valid) ε α)
    (committed : Checked valid) : Except ε α × Checked valid :=
  let finished := program.run committed
  (finished.1, if commits finished.1 then finished.2 else committed)

@[simp] theorem run_query (read : σ -> α) (tables : Checked valid) :
    Program.run (query read : Program (Checked valid) ε α) tables = (.ok (read tables.val), tables) :=
  rfl

variable {change : σ -> σ} {tables committed : Checked valid} {β : Type}
  {commits : Except ε α -> Bool} {program : Program (Checked valid) ε α}

theorem run_statement [DecidablePred valid] (violated : ε) (accepted : valid (change tables.val)) :
    Program.run (statement violated change) tables = (.ok (), ⟨change tables.val, accepted⟩) := by
  change (if inside : valid (change tables.val) then _ else _) = _
  rw [dif_pos accepted]

theorem run_statement_refused [DecidablePred valid] (violated : ε)
    (refused : ¬ valid (change tables.val)) :
    Program.run (statement violated change) tables = (.error violated, tables) := by
  change (if inside : valid (change tables.val) then _ else _) = _
  rw [dif_neg refused]

theorem run_query_bind (read : σ -> α) (next : α -> Program (Checked valid) ε β)
    (tables : Checked valid) :
    Program.run (query read >>= next) tables = Program.run (next (read tables.val)) tables := by
  rw [Program.run_bind, run_query]

/-- What comes after an accepted statement runs on its result. -/
theorem run_statement_bind [DecidablePred valid] (violated : ε)
    (next : Unit -> Program (Checked valid) ε β) (accepted : valid (change tables.val)) :
    Program.run (statement violated change >>= next) tables =
      Program.run (next ()) ⟨change tables.val, accepted⟩ := by
  rw [Program.run_bind, run_statement violated accepted]

theorem run_statement_bind_refused [DecidablePred valid] (violated : ε)
    (next : Unit -> Program (Checked valid) ε β) (refused : ¬ valid (change tables.val)) :
    Program.run (statement violated change >>= next) tables = (.error violated, tables) := by
  rw [Program.run_bind, run_statement_refused violated refused]

theorem transaction_rolledBack (refused : commits (program.run committed).1 = false) :
    (transaction commits program committed).2 = committed := by
  unfold transaction
  simp only [refused, Bool.false_eq_true, if_false]

theorem transaction_committed {final : Checked valid} {outcome : Except ε α}
    (ran : program.run committed = (outcome, final)) (accepted : commits outcome = true) :
    transaction commits program committed = (outcome, final) := by
  unfold transaction
  simp only [ran, accepted, if_true]

end Checked
end Library
end Tropek
