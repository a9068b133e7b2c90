import Mathlib.Data.List.Forall2

namespace Tropek
namespace Library

/-!
# Computations that may raise

`Except` models code that raises.  The rules below take a successful sequence
apart into its steps, and a successful loop into the outcomes of its
iterations.  A loop over a list is `List.mapM`: it stops at the first element
that raises, so it succeeds exactly when every iteration does.
-/

variable {ε α β : Type}

namespace Fallible

variable {next body : α -> Except ε β} {value : α} {inputs : List α}

theorem bind_eq_ok {first : Except ε α} {result : β} :
    first >>= next = .ok result ↔
      Exists fun value => first = .ok value ∧ next value = .ok result := by
  cases first with
  | error failure =>
      constructor
      · intro impossible
        cases impossible
      · rintro ⟨_, impossible, _⟩
        cases impossible
  | ok value =>
      constructor
      · intro finished
        exact ⟨value, rfl, finished⟩
      · rintro ⟨_, same, finished⟩
        cases same
        exact finished

theorem isOk_iff (outcome : Except ε α) :
    outcome.isOk = true ↔ Exists fun value => outcome = .ok value := by
  cases outcome with
  | error failure =>
      constructor
      · intro impossible
        cases impossible
      · rintro ⟨_, impossible⟩
        cases impossible
  | ok value => exact ⟨fun _ => ⟨value, rfl⟩, fun _ => rfl⟩

/-- A sequence of two steps succeeds when the first does and the second does
on the value of the first. -/
theorem bind_isOk {first : Except ε α} :
    (first >>= next).isOk = true ↔
      Exists fun value => first = .ok value ∧ (next value).isOk = true := by
  cases first with
  | error failure =>
      constructor
      · intro impossible
        cases impossible
      · rintro ⟨_, impossible, _⟩
        cases impossible
  | ok value =>
      constructor
      · intro finished
        exact ⟨value, rfl, finished⟩
      · rintro ⟨_, same, finished⟩
        cases same
        exact finished

/-- Raise when a value is absent. -/
def orRaise (failure : ε) : Option α -> Except ε α
  | none => .error failure
  | some value => .ok value

theorem toOption_eq_some {outcome : Except ε α} :
    outcome.toOption = some value ↔ outcome = .ok value := by
  cases outcome with
  | error failure =>
      constructor <;> intro impossible <;> cases impossible
  | ok found => exact ⟨fun same => congrArg _ (Option.some.inj same), fun same => by cases same; rfl⟩

theorem orRaise_eq_ok {failure : ε} {found : Option α} :
    orRaise failure found = .ok value ↔ found = some value := by
  cases found with
  | none =>
      constructor <;> intro impossible <;> cases impossible
  | some stored =>
      constructor <;> intro same <;> cases same <;> rfl

theorem mapError_eq_ok {δ : Type} {outcome : Except ε α} {change : ε -> δ}
    (succeeded : outcome.mapError change = .ok value) : outcome = .ok value := by
  cases outcome with
  | error failure => cases succeeded
  | ok found =>
      cases succeeded
      rfl

theorem mapError_isOk {δ : Type} (outcome : Except ε α) (change : ε -> δ) :
    (outcome.mapError change).isOk = outcome.isOk := by
  cases outcome <;> rfl

/-- The outcomes of a successful loop, iteration by iteration. -/
theorem mapM_eq_ok {outputs : List β} :
    inputs.mapM body = .ok outputs ↔
      List.Forall₂ (fun input output => body input = .ok output) inputs outputs := by
  induction inputs generalizing outputs with
  | nil =>
      constructor
      · intro finished
        cases finished
        exact .nil
      · intro related
        cases related
        rfl
  | cons head rest ih =>
      rw [List.mapM_cons, bind_eq_ok]
      constructor
      · rintro ⟨value, first, others⟩
        rcases bind_eq_ok.mp others with ⟨values, looped, same⟩
        cases same
        exact .cons first (ih.mp looped)
      · intro related
        cases related with
        | cons first others =>
            refine ⟨_, first, bind_eq_ok.mpr ⟨_, ?_, rfl⟩⟩
            exact ih.mpr others

/-- A loop succeeds exactly when each of its iterations does. -/
theorem mapM_isOk (body : α -> Except ε β) (inputs : List α) :
    (inputs.mapM body).isOk = true ↔ forall input, input ∈ inputs -> (body input).isOk = true := by
  induction inputs with
  | nil => exact ⟨fun _ _ member => absurd member List.not_mem_nil, fun _ => rfl⟩
  | cons head rest ih =>
      rw [List.mapM_cons, bind_isOk, List.forall_mem_cons]
      constructor
      · rintro ⟨value, first, others⟩
        rcases bind_isOk.mp others with ⟨values, looped, _⟩
        refine ⟨(isOk_iff _).mpr ⟨value, first⟩, ih.mp ?_⟩
        exact (isOk_iff _).mpr ⟨values, looped⟩
      · rintro ⟨first, others⟩
        rcases (isOk_iff _).mp first with ⟨value, first⟩
        rcases (isOk_iff _).mp (ih.mpr others) with ⟨values, looped⟩
        exact ⟨value, first, bind_isOk.mpr ⟨values, looped, rfl⟩⟩

theorem forM_isOk (check : α -> Except ε Unit) (inputs : List α) :
    (inputs.forM check).isOk = true ↔ forall input, input ∈ inputs -> (check input).isOk = true := by
  induction inputs with
  | nil => exact ⟨fun _ _ member => absurd member List.not_mem_nil, fun _ => rfl⟩
  | cons head rest ih =>
      change (check head >>= fun _ => rest.forM check).isOk = true ↔ _
      rw [bind_isOk, List.forall_mem_cons, <- ih, isOk_iff (check head)]
      constructor
      · rintro ⟨value, first, others⟩
        exact ⟨⟨value, first⟩, others⟩
      · rintro ⟨⟨value, first⟩, others⟩
        exact ⟨value, first, others⟩

theorem mapM_congr {other : α -> Except ε β}
    (same : forall input, input ∈ inputs -> body input = other input) :
    inputs.mapM body = inputs.mapM other := by
  induction inputs with
  | nil => rfl
  | cons head rest ih =>
      rw [List.mapM_cons, List.mapM_cons, same head List.mem_cons_self,
        ih fun input member => same input (List.mem_cons_of_mem _ member)]

/-- The invariant rule for a loop that carries a state. -/
theorem foldlM_preserves {invariant : β -> Prop} {body : β -> α -> Except ε β}
    (preserves : forall state input next, input ∈ inputs -> invariant state ->
      body state input = .ok next -> invariant next)
    {state final : β} (holds : invariant state) (looped : inputs.foldlM body state = .ok final) :
    invariant final := by
  induction inputs generalizing state with
  | nil =>
      cases looped
      exact holds
  | cons head rest ih =>
      rw [List.foldlM_cons] at looped
      rcases bind_eq_ok.mp looped with ⟨next, first, others⟩
      exact ih
        (fun state input next member => preserves state input next (List.mem_cons_of_mem _ member))
        (preserves state head next List.mem_cons_self holds first) others

section Avoids

variable {bad : ε -> Prop}

/-- If the computation raises, then not a bad failure. -/
def Avoids (bad : ε -> Prop) (outcome : Except ε α) : Prop :=
  forall failure, outcome = .error failure -> ¬ bad failure

theorem avoids_ok (value : α) : Avoids bad (.ok value : Except ε α) := by
  intro failure impossible
  cases impossible

theorem avoids_error {failure : ε} (good : ¬ bad failure) :
    Avoids bad (.error failure : Except ε α) := by
  intro other same
  cases same
  exact good

theorem Avoids.bind {first : Except ε α} {next : α -> Except ε β} (avoids : Avoids bad first)
    (later : forall value, Avoids bad (next value)) : Avoids bad (first >>= next) := by
  cases first with
  | error failure => exact avoids_error (avoids failure rfl)
  | ok value => exact later value

theorem avoids_orRaise {failure : ε} (good : ¬ bad failure) (found : Option α) :
    Avoids bad (orRaise failure found) := by
  cases found with
  | none => exact avoids_error good
  | some value => exact avoids_ok value

theorem avoids_mapError {δ : Type} {change : δ -> ε} (good : forall failure, ¬ bad (change failure))
    (outcome : Except δ α) : Avoids bad (outcome.mapError change) := by
  cases outcome with
  | error failure => exact avoids_error (good failure)
  | ok value => exact avoids_ok value

end Avoids

/-- The results of a loop that has one, iteration by iteration. -/
theorem mapM_eq_some (body : α -> Option β) (inputs : List α) (outputs : List β) :
    inputs.mapM body = some outputs ↔
      List.Forall₂ (fun input output => body input = some output) inputs outputs := by
  induction inputs generalizing outputs with
  | nil =>
      constructor
      · intro finished
        cases finished
        exact .nil
      · intro related
        cases related
        rfl
  | cons head rest ih =>
      rw [List.mapM_cons]
      constructor
      · intro finished
        rcases Option.bind_eq_some_iff.mp finished with ⟨value, first, others⟩
        rcases Option.bind_eq_some_iff.mp others with ⟨values, looped, same⟩
        cases same
        exact .cons first ((ih values).mp looped)
      · intro related
        cases related with
        | cons first others =>
            refine Option.bind_eq_some_iff.mpr ⟨_, first, Option.bind_eq_some_iff.mpr ⟨_, ?_, rfl⟩⟩
            exact (ih _).mpr others

/-- A loop has no result exactly when one of its iterations has none. -/
theorem mapM_eq_none (body : α -> Option β) (inputs : List α) :
    inputs.mapM body = none ↔ Exists fun input => input ∈ inputs ∧ body input = none := by
  induction inputs with
  | nil =>
      constructor
      · intro impossible
        cases impossible
      · rintro ⟨_, impossible, _⟩
        exact absurd impossible List.not_mem_nil
  | cons head rest ih =>
      rw [List.mapM_cons]
      cases first : body head with
      | none => exact ⟨fun _ => ⟨head, List.mem_cons_self, first⟩, fun _ => rfl⟩
      | some value =>
          cases others : rest.mapM body with
          | none =>
              rcases ih.mp others with ⟨input, member, fails⟩
              exact ⟨fun _ => ⟨input, List.mem_cons_of_mem _ member, fails⟩, fun _ => rfl⟩
          | some values =>
              constructor
              · intro impossible
                cases impossible
              · rintro ⟨input, member, fails⟩
                rcases List.mem_cons.mp member with same | later
                · rw [same, first] at fails
                  cases fails
                · rw [ih.mpr ⟨input, later, fails⟩] at others
                  cases others

end Fallible
end Library
end Tropek
