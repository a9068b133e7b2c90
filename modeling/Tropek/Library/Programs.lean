import Mathlib.Data.List.Forall2
import Tropek.Library.Fallible

namespace Tropek
namespace Library

/-!
# Programs whose state outlives what they raise

A client talks to a service whose state is not rolled back when the client
raises.  A program is therefore a state transformer under an exception, and
`run` gives both the outcome and the state that is left.

`Keeps relation` says of a program that the state it leaves is related to the
state it starts from, whether it raises or not; it composes when the relation
is a preorder.  `Reads view answer` says that the program leaves the viewed part
of the state alone and that its outcome is a function of that part.
-/

abbrev Program (σ ε α : Type) : Type :=
  ExceptT ε (StateM σ) α

namespace Program

variable {σ ε α β υ : Type}

/-- The outcome, and the state that is left.  A program that fails leaves the state that
it has reached; rolling back is for the caller. -/
def run (program : Program σ ε α) (state : σ) : Except ε α × σ :=
  (ExceptT.run program).run state

/-- A step that is given as a state transformer. -/
def ofFunction (transform : σ -> Except ε α × σ) : Program σ ε α :=
  ExceptT.mk fun state => transform state

/-- `try` the program, and go on with a value instead of what it raises. -/
def orElse (program : Program σ ε α) (otherwise : α) : Program σ ε α :=
  ofFunction fun state =>
    match run program state with
    | (.ok value, left) => (.ok value, left)
    | (.error _, left) => (.ok otherwise, left)

/-- A computation that does not touch the state. -/
def ofExcept (outcome : Except ε α) : Program σ ε α :=
  ofFunction fun state => (outcome, state)

@[simp] theorem run_ofFunction (transform : σ -> Except ε α × σ) (state : σ) :
    run (ofFunction transform) state = transform state :=
  rfl

@[simp] theorem run_pure (value : α) (state : σ) :
    run (pure value : Program σ ε α) state = (.ok value, state) :=
  rfl

@[simp] theorem run_ofExcept (outcome : Except ε α) (state : σ) :
    run (ofExcept outcome : Program σ ε α) state = (outcome, state) :=
  rfl

theorem run_bind (first : Program σ ε α) (next : α -> Program σ ε β) (state : σ) :
    run (first >>= next) state =
      match run first state with
      | (.ok value, left) => run (next value) left
      | (.error failure, left) => (.error failure, left) := by
  change (ExceptT.bindCont next ((ExceptT.run first).run state).1)
    ((ExceptT.run first).run state).2 = _
  unfold run
  cases outcome : (ExceptT.run first).run state with
  | mk result left => cases result <;> rfl

theorem run_orElse (program : Program σ ε α) (otherwise : α) (state : σ) :
    run (orElse program otherwise) state =
      match run program state with
      | (.ok value, left) => (.ok value, left)
      | (.error _, left) => (.ok otherwise, left) :=
  rfl

def Keeps (relation : σ -> σ -> Prop) (program : Program σ ε α) : Prop :=
  forall state, relation state (run program state).2

section Keeping

variable {relation : σ -> σ -> Prop} [Std.Refl relation] [IsTrans σ relation]

omit [IsTrans σ relation] in
theorem keeps_pure (value : α) : Keeps relation (pure value : Program σ ε α) :=
  fun state => Std.Refl.refl state

omit [IsTrans σ relation] in
theorem keeps_ofExcept (outcome : Except ε α) :
    Keeps relation (ofExcept outcome : Program σ ε α) :=
  fun state => Std.Refl.refl state

omit [Std.Refl relation] in
theorem keeps_bind {first : Program σ ε α} {next : α -> Program σ ε β}
    (firstKeeps : Keeps relation first) (nextKeeps : forall value, Keeps relation (next value)) :
    Keeps relation (first >>= next) := by
  intro state
  have before := firstKeeps state
  rw [run_bind]
  cases outcome : run first state with
  | mk answer left =>
      rw [outcome] at before
      cases answer with
      | error failure => exact before
      | ok value => exact IsTrans.trans _ _ _ before (nextKeeps value left)

omit [IsTrans σ relation] in
/-- After a computation that does not touch the state, only its value counts. -/
theorem keeps_ofExcept_bind {outcome : Except ε α} {next : α -> Program σ ε β}
    (nextKeeps : forall value, outcome = .ok value -> Keeps relation (next value)) :
    Keeps relation (ofExcept outcome >>= next) := by
  intro state
  rw [run_bind, run_ofExcept]
  cases outcome with
  | error failure => exact Std.Refl.refl state
  | ok value => exact nextKeeps value rfl state

omit [Std.Refl relation] [IsTrans σ relation] in
theorem keeps_orElse {program : Program σ ε α} (keeps : Keeps relation program)
    (otherwise : α) : Keeps relation (orElse program otherwise) := by
  intro state
  have before := keeps state
  rw [run_orElse]
  cases outcome : run program state with
  | mk answer left =>
      rw [outcome] at before
      cases answer <;> exact before

theorem keeps_forM {inputs : List β} {body : β -> Program σ ε PUnit}
    (bodyKeeps : forall input, input ∈ inputs -> Keeps relation (body input)) :
    Keeps relation (inputs.forM body) := by
  induction inputs with
  | nil => exact keeps_pure PUnit.unit
  | cons head rest ih =>
      rw [List.forM_eq_forM, List.forM_cons]
      refine keeps_bind (bodyKeeps head List.mem_cons_self) fun _ => ?_
      exact ih fun input member => bodyKeeps input (List.mem_cons_of_mem _ member)

end Keeping

def Reads (view : σ -> υ) (program : Program σ ε α) (answer : υ -> Except ε α) : Prop :=
  forall state, (run program state).1 = answer (view state) ∧
    view (run program state).2 = view state

variable {view : σ -> υ}

theorem reads_pure (value : α) : Reads view (pure value : Program σ ε α) fun _ => .ok value :=
  fun _ => ⟨rfl, rfl⟩

theorem reads_ofExcept (outcome : Except ε α) :
    Reads view (ofExcept outcome : Program σ ε α) fun _ => outcome :=
  fun _ => ⟨rfl, rfl⟩

theorem reads_congr {program : Program σ ε α} {answer other : υ -> Except ε α}
    (reads : Reads view program answer) (same : forall seen, answer seen = other seen) :
    Reads view program other :=
  fun state => ⟨(reads state).1.trans (same _), (reads state).2⟩

theorem reads_bind {first : Program σ ε α} {next : α -> Program σ ε β}
    {answer : υ -> Except ε α} {nextAnswer : α -> υ -> Except ε β}
    (firstReads : Reads view first answer)
    (nextReads : forall value, Reads view (next value) (nextAnswer value)) :
    Reads view (first >>= next) fun seen =>
      answer seen >>= fun value => nextAnswer value seen := by
  intro state
  rcases firstReads state with ⟨outcomeIs, viewKept⟩
  rw [run_bind]
  cases outcome : run first state with
  | mk result left =>
      rw [outcome] at outcomeIs viewKept
      dsimp only at outcomeIs viewKept ⊢
      rw [<- outcomeIs]
      cases result with
      | error failure => exact ⟨rfl, viewKept⟩
      | ok value =>
          rcases nextReads value left with ⟨later, laterKept⟩
          rw [viewKept] at later laterKept
          exact ⟨later, laterKept⟩

theorem reads_orElse {program : Program σ ε α} {answer : υ -> Except ε α}
    (reads : Reads view program answer) (otherwise : α) :
    Reads view (orElse program otherwise) fun seen => .ok ((answer seen).toOption.getD otherwise) := by
  intro state
  rcases reads state with ⟨outcomeIs, viewKept⟩
  rw [run_orElse]
  cases outcome : run program state with
  | mk result left =>
      rw [outcome] at outcomeIs viewKept
      dsimp only at outcomeIs viewKept ⊢
      rw [<- outcomeIs]
      cases result <;> exact ⟨rfl, viewKept⟩

end Program
end Library
end Tropek
