import Mathlib.Data.List.Induction

namespace Tropek
namespace Library

/-!
# Runs of a transition system

A system is a partial step function: an action either is possible in a state
and leads to one next state, or is not possible.  Nondeterminism is in the
choice of the actions.  Runs are executable, so that a particular run can be
evaluated, and the rules below carry a fact about one step to a whole run.

`Along guard` says that every step of a run meets a condition on the state
before it and on its action.
-/

namespace TransitionSystem

variable {State Action : Type} (step : State -> Action -> Option State)

/-- The state after a list of actions, if all of them are possible. -/
def exec : State -> List Action -> Option State
  | state, [] => some state
  | state, action :: rest =>
      match step state action with
      | none => none
      | some next => exec next rest

/-- Every step of the run meets the guard, in the state that it starts from.  The guard
may look at the state, so that it is a condition on runs and not on lists of actions. -/
def Along (guard : State -> Action -> Prop) : State -> List Action -> Prop
  | _, [] => True
  | state, action :: rest =>
      guard state action ∧
        match step state action with
        | none => True
        | some next => Along guard next rest

instance decidableAlong (guard : State -> Action -> Prop)
    [decidableGuard : forall state action, Decidable (guard state action)] :
    forall state actions, Decidable (Along step guard state actions)
  | _, [] => inferInstanceAs (Decidable True)
  | state, action :: rest =>
      match decidableGuard state action, h : step state action with
      | .isFalse refused, _ => .isFalse fun along => refused along.1
      | .isTrue accepted, none => .isTrue (by
          unfold Along
          rw [h]
          exact ⟨accepted, trivial⟩)
      | .isTrue accepted, some next =>
          match decidableAlong guard next rest with
          | .isTrue others => .isTrue (by
              unfold Along
              rw [h]
              exact ⟨accepted, others⟩)
          | .isFalse refused => .isFalse (by
              unfold Along
              rw [h]
              exact fun along => refused along.2)

/-- The states that some run from an initial state reaches. -/
def Reachable (initial : State -> Prop) (state : State) : Prop :=
  Exists fun start => Exists fun actions => initial start ∧ exec step start actions = some state

variable {step}

theorem exec_cons {state final : State} {action : Action} {rest : List Action}
    (ran : exec step state (action :: rest) = some final) :
    Exists fun next => step state action = some next ∧ exec step next rest = some final := by
  unfold exec at ran
  cases stepped : step state action with
  | none =>
      rw [stepped] at ran
      cases ran
  | some next =>
      rw [stepped] at ran
      exact ⟨next, rfl, ran⟩

theorem exec_single {state next : State} {action : Action}
    (stepped : step state action = some next) : exec step state [action] = some next := by
  unfold exec
  rw [stepped]
  rfl

theorem exec_append (state : State) (before after : List Action) :
    exec step state (before ++ after) = (exec step state before).bind fun middle =>
      exec step middle after := by
  induction before generalizing state with
  | nil => rfl
  | cons action rest ih =>
      rw [List.cons_append, exec, exec]
      cases step state action with
      | none => rfl
      | some next => exact ih next

theorem along_cons {guard : State -> Action -> Prop} {state next : State} {action : Action}
    {rest : List Action} (along : Along step guard state (action :: rest))
    (stepped : step state action = some next) :
    guard state action ∧ Along step guard next rest := by
  unfold Along at along
  rw [stepped] at along
  exact along

theorem along_cons_iff {guard : State -> Action -> Prop} {state next : State} {action : Action}
    {rest : List Action} (stepped : step state action = some next) :
    Along step guard state (action :: rest) ↔ guard state action ∧ Along step guard next rest := by
  refine ⟨fun along => along_cons along stepped, fun both => ?_⟩
  unfold Along
  rw [stepped]
  exact both

/-- Every run meets the guard that asks for nothing. -/
theorem along_trivial (state : State) (actions : List Action) :
    Along step (fun _ _ => True) state actions := by
  induction actions generalizing state with
  | nil => trivial
  | cons action rest ih =>
      unfold Along
      refine ⟨trivial, ?_⟩
      cases step state action with
      | none => trivial
      | some next => exact ih next

theorem along_mono {guard property : State -> Action -> Prop}
    (gives : forall state action, guard state action -> property state action) {state : State}
    {actions : List Action} (along : Along step guard state actions) :
    Along step property state actions := by
  induction actions generalizing state with
  | nil => trivial
  | cons action rest ih =>
      unfold Along at along ⊢
      refine ⟨gives state action along.1, ?_⟩
      cases stepped : step state action with
      | none => trivial
      | some next =>
          rw [stepped] at along
          exact ih along.2

/-- The invariant rule for runs whose steps meet a guard. -/
theorem exec_preserves_along {guard : State -> Action -> Prop} {invariant : State -> Prop}
    (preserves : forall state action next, invariant state -> guard state action ->
      step state action = some next -> invariant next)
    {state final : State} {actions : List Action} (holds : invariant state)
    (along : Along step guard state actions) (ran : exec step state actions = some final) :
    invariant final := by
  induction actions generalizing state with
  | nil =>
      cases ran
      exact holds
  | cons action rest ih =>
      rcases exec_cons ran with ⟨next, stepped, ran⟩
      rcases along_cons along stepped with ⟨accepted, along⟩
      exact ih (preserves state action next holds accepted stepped) along ran

/-- The invariant rule: what every step preserves holds after a run when it held
before.  The rule for all reachable states is `reachable_preserves`. -/
theorem exec_preserves {invariant : State -> Prop}
    (preserves : forall state action next, invariant state ->
      step state action = some next -> invariant next)
    {state final : State} {actions : List Action} (holds : invariant state)
    (ran : exec step state actions = some final) : invariant final :=
  exec_preserves_along (fun state action next holds _ => preserves state action next holds)
    holds (along_trivial state actions) ran

theorem reachable_preserves {initial invariant : State -> Prop}
    (start : forall state, initial state -> invariant state)
    (preserves : forall state action next, invariant state ->
      step state action = some next -> invariant next)
    {state : State} (reached : Reachable step initial state) : invariant state := by
  rcases reached with ⟨first, actions, isInitial, ran⟩
  exact exec_preserves preserves (start first isInitial) ran

/-- What the invariant and the guard give for one step holds along a guarded run. -/
theorem along_of_invariant {guard property : State -> Action -> Prop} {invariant : State -> Prop}
    (preserves : forall state action next, invariant state -> guard state action ->
      step state action = some next -> invariant next)
    (gives : forall state action, invariant state -> guard state action -> property state action)
    {state : State} {actions : List Action} (holds : invariant state)
    (along : Along step guard state actions) : Along step property state actions := by
  induction actions generalizing state with
  | nil => trivial
  | cons action rest ih =>
      unfold Along at along ⊢
      refine ⟨gives state action holds along.1, ?_⟩
      cases stepped : step state action with
      | none => trivial
      | some next =>
          rw [stepped] at along
          exact ih (preserves state action next holds along.1 stepped) along.2

/-- The rule for facts about a state and the actions that led to it. -/
theorem exec_history {fact : List Action -> State -> Prop} {state final : State}
    {actions : List Action} (start : fact [] state)
    (preserves : forall before action middle next, exec step state before = some middle ->
      fact before middle -> step middle action = some next -> fact (before ++ [action]) next)
    (ran : exec step state actions = some final) : fact actions final := by
  induction actions using List.reverseRecOn generalizing final with
  | nil =>
      cases ran
      exact start
  | append_singleton before action ih =>
      rw [exec_append] at ran
      rcases Option.bind_eq_some_iff.mp ran with ⟨middle, earlier, last⟩
      rcases exec_cons last with ⟨next, stepped, ended⟩
      cases ended
      exact preserves before action middle final earlier (ih earlier) stepped

/-- How many steps of a run are selected. -/
def count (step : State -> Action -> Option State) (selected : State -> Action -> Bool) :
    State -> List Action -> Nat
  | _, [] => 0
  | state, action :: rest =>
      (if selected state action then 1 else 0) +
        match step state action with
        | none => 0
        | some next => count step selected next rest

/-- The rule for facts about a state and the number of selected steps that led to it. -/
theorem exec_counts {guard : State -> Action -> Prop} {selected : State -> Action -> Bool}
    {fact : Nat -> State -> Prop}
    (preserves : forall number state action next, fact number state -> guard state action ->
      step state action = some next -> fact (number + if selected state action then 1 else 0) next)
    {number : Nat} {state final : State} {actions : List Action} (holds : fact number state)
    (along : Along step guard state actions) (ran : exec step state actions = some final) :
    fact (number + count step selected state actions) final := by
  induction actions generalizing number state with
  | nil =>
      cases ran
      exact holds
  | cons action rest ih =>
      rcases exec_cons ran with ⟨next, stepped, ran⟩
      rcases along_cons along stepped with ⟨accepted, along⟩
      unfold count
      rw [stepped, <- Nat.add_assoc]
      exact ih (preserves number state action next holds accepted stepped) along ran

theorem along_and {guard property : State -> Action -> Prop} {state : State} {actions : List Action}
    (along : Along step guard state actions) (other : Along step property state actions) :
    Along step (fun state action => guard state action ∧ property state action) state actions := by
  induction actions generalizing state with
  | nil => trivial
  | cons action rest ih =>
      unfold Along at along other ⊢
      refine ⟨⟨along.1, other.1⟩, ?_⟩
      cases stepped : step state action with
      | none => trivial
      | some next =>
          rw [stepped] at along other
          exact ih along.2 other.2

/-- The property holds in every state that a run passes, its two ends included. -/
def Always (step : State -> Action -> Option State) (property : State -> Prop) (state : State)
    (actions : List Action) : Prop :=
  forall before after middle, actions = before ++ after -> exec step state before = some middle ->
    property middle

theorem always_cons {property : State -> Prop} {state next : State} {action : Action}
    {rest : List Action} (stepped : step state action = some next) :
    Always step property state (action :: rest) ↔ property state ∧ Always step property next rest := by
  constructor
  · intro always
    refine ⟨always [] (action :: rest) state rfl rfl, ?_⟩
    intro before after middle split ran
    refine always (action :: before) after middle (congrArg _ split) ?_
    unfold exec
    rw [stepped]
    exact ran
  · rintro ⟨here, always⟩ before after middle split ran
    cases before with
    | nil =>
        cases ran
        exact here
    | cons first before =>
        rcases List.cons.inj split with ⟨same, others⟩
        subst same
        unfold exec at ran
        rw [stepped] at ran
        exact always before after middle others ran

/-- When a step meets the guard exactly if it keeps the property, as far as an
invariant holds, a run has the property throughout exactly if it is guarded. -/
theorem always_iff_along_of_invariant {guard : State -> Action -> Prop}
    {property invariant : State -> Prop}
    (preserves : forall state action next, invariant state ->
      step state action = some next -> invariant next)
    (exact : forall state action next, invariant state -> property state ->
      step state action = some next -> (property next ↔ guard state action))
    {state final : State} {actions : List Action} (start : invariant state) (holds : property state)
    (ran : exec step state actions = some final) :
    Always step property state actions ↔ Along step guard state actions := by
  induction actions generalizing state with
  | nil =>
      refine ⟨fun _ => trivial, ?_⟩
      rintro _ before after middle split earlier
      cases (List.append_eq_nil_iff.mp split.symm).1
      cases earlier
      exact holds
  | cons action rest ih =>
      rcases exec_cons ran with ⟨next, stepped, ran⟩
      have later := preserves state action next start stepped
      rw [always_cons stepped, along_cons_iff stepped, <- exact state action next start holds stepped]
      constructor
      · rintro ⟨_, always⟩
        have here : property next := always [] rest next rfl rfl
        exact ⟨here, (ih later here ran).mp always⟩
      · rintro ⟨here, along⟩
        exact ⟨holds, (ih later here ran).mpr along⟩

theorem always_iff_along {guard : State -> Action -> Prop} {property : State -> Prop}
    (exact : forall state action next, property state -> step state action = some next ->
      (property next ↔ guard state action))
    {state final : State} {actions : List Action} (holds : property state)
    (ran : exec step state actions = some final) :
    Always step property state actions ↔ Along step guard state actions :=
  have unrestricted : forall state action next, True -> property state ->
      step state action = some next -> (property next ↔ guard state action) :=
    fun state action next _ => exact state action next
  always_iff_along_of_invariant (fun _ _ _ _ _ => trivial) unrestricted trivial holds ran

/-- A relation between states that every step of a guarded run meets, and that
composes, holds between the two ends of the run. -/
theorem exec_relates_along {guard : State -> Action -> Prop} {invariant : State -> Prop}
    {related : State -> State -> Prop} (reflexive : forall state, related state state)
    (transitive : forall first second third,
      related first second -> related second third -> related first third)
    (preserves : forall state action next, invariant state -> guard state action ->
      step state action = some next -> invariant next)
    (relates : forall state action next, invariant state -> guard state action ->
      step state action = some next -> related state next)
    {state final : State} {actions : List Action} (holds : invariant state)
    (along : Along step guard state actions) (ran : exec step state actions = some final) :
    related state final := by
  induction actions generalizing state with
  | nil =>
      cases ran
      exact reflexive _
  | cons action rest ih =>
      rcases exec_cons ran with ⟨next, stepped, ran⟩
      rcases along_cons along stepped with ⟨accepted, along⟩
      exact transitive state next final (relates state action next holds accepted stepped)
        (ih (preserves state action next holds accepted stepped) along ran)

/-- The relation holds between any two states that a run passes, in their order. -/
def Throughout (step : State -> Action -> Option State) (related : State -> State -> Prop)
    (state : State) (actions : List Action) : Prop :=
  forall before between after first second, actions = before ++ between ++ after ->
    exec step state before = some first -> exec step first between = some second ->
      related first second

theorem throughout_cons {related : State -> State -> Prop} {state next : State} {action : Action}
    {rest : List Action} (throughout : Throughout step related state (action :: rest))
    (stepped : step state action = some next) :
    related state next ∧ Throughout step related next rest := by
  have single : exec step state [action] = some next := by
    simp only [exec, stepped]
  refine ⟨throughout [] [action] rest state next rfl rfl single, ?_⟩
  intro before between after first second split earlier later
  have prefixed : exec step state (action :: before) = some first := by
    simp only [exec, stepped]
    exact earlier
  have whole : action :: rest = (action :: before) ++ between ++ after := by
    rw [split]
    rfl
  exact throughout (action :: before) between after first second whole prefixed later

theorem along_append {guard : State -> Action -> Prop} {state middle : State}
    {before after : List Action} (along : Along step guard state (before ++ after))
    (ran : exec step state before = some middle) :
    Along step guard state before ∧ Along step guard middle after := by
  induction before generalizing state with
  | nil =>
      cases ran
      exact ⟨trivial, along⟩
  | cons action rest ih =>
      rcases exec_cons ran with ⟨next, stepped, ran⟩
      have split := along_cons along stepped
      have others := ih split.2 ran
      refine ⟨?_, others.2⟩
      unfold Along
      rw [stepped]
      exact ⟨split.1, others.1⟩

/-- A run is guarded when its two parts are. -/
theorem along_concat {guard : State -> Action -> Prop} {state middle : State}
    {before after : List Action} (along : Along step guard state before)
    (ran : exec step state before = some middle) (later : Along step guard middle after) :
    Along step guard state (before ++ after) := by
  induction before generalizing state with
  | nil =>
      cases ran
      exact later
  | cons action rest ih =>
      rcases exec_cons ran with ⟨next, stepped, ran⟩
      rcases along_cons along stepped with ⟨accepted, others⟩
      exact (along_cons_iff stepped).mpr ⟨accepted, ih others ran⟩

/-- A guard that the actions meet in any state. -/
theorem along_of_mem {guard : State -> Action -> Prop} {state : State} {actions : List Action}
    (meets : forall state action, action ∈ actions -> guard state action) :
    Along step guard state actions := by
  induction actions generalizing state with
  | nil => trivial
  | cons action rest ih =>
      unfold Along
      refine ⟨meets state action List.mem_cons_self, ?_⟩
      cases step state action with
      | none => trivial
      | some next =>
          exact ih fun state other member =>
            meets state other (List.mem_cons_of_mem _ member)

/-- The rule for facts about a state and the guarded actions that led to it. -/
theorem exec_history_along {guard : State -> Action -> Prop} {fact : List Action -> State -> Prop}
    {state final : State} {actions : List Action} (start : fact [] state)
    (preserves : forall before action middle next, fact before middle -> guard middle action ->
      step middle action = some next -> fact (before ++ [action]) next)
    (along : Along step guard state actions) (ran : exec step state actions = some final) :
    fact actions final := by
  induction actions using List.reverseRecOn generalizing final with
  | nil =>
      cases ran
      exact start
  | append_singleton before action ih =>
      rw [exec_append] at ran
      rcases Option.bind_eq_some_iff.mp ran with ⟨middle, earlier, last⟩
      rcases exec_cons last with ⟨next, stepped, ended⟩
      cases ended
      rcases along_append along earlier with ⟨first, second⟩
      exact preserves before action middle final (ih first earlier) second.1 stepped

/-- When a step meets the guard exactly if it keeps the relation, a run keeps the
relation throughout exactly if it is guarded. -/
theorem throughout_iff_along {guard : State -> Action -> Prop} {invariant : State -> Prop}
    {related : State -> State -> Prop} (reflexive : forall state, related state state)
    (transitive : forall first second third,
      related first second -> related second third -> related first third)
    (preserves : forall state action next, invariant state -> guard state action ->
      step state action = some next -> invariant next)
    (relates : forall state action next, invariant state ->
      step state action = some next -> (related state next ↔ guard state action))
    {state final : State} {actions : List Action} (holds : invariant state)
    (ran : exec step state actions = some final) :
    Throughout step related state actions ↔ Along step guard state actions := by
  constructor
  · intro throughout
    induction actions generalizing state with
    | nil => trivial
    | cons action rest ih =>
        rcases exec_cons ran with ⟨next, stepped, ran⟩
        have kept := throughout_cons throughout stepped
        have accepted := (relates state action next holds stepped).mp kept.1
        unfold Along
        rw [stepped]
        exact ⟨accepted,
          ih (preserves state action next holds accepted stepped) ran kept.2⟩
  · intro along before between after first second split earlier later
    subst split
    rw [List.append_assoc] at along
    have parts := along_append along earlier
    have middle := exec_preserves_along preserves holds parts.1 earlier
    have tail := along_append parts.2 later
    exact exec_relates_along reflexive transitive preserves
      (fun state action next holds accepted stepped =>
        (relates state action next holds stepped).mpr accepted) middle tail.1 later

end TransitionSystem
end Library
end Tropek
