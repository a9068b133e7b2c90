import Mathlib.Data.List.Chain
import Mathlib.Data.List.Nodup
import Mathlib.Logic.Relation

namespace Tropek
namespace Library

/-!
# Acyclic graphs and recursion along their edges

A graph is a relation between its nodes.  A recursion that follows the edges ends on
every node of a finite graph when the graph has no cycle, and does not end on a node of
a cycle.  What carries both is the length of the walks from a node: a recursion that is
cut off after a number of rounds is cut off exactly where there is a walk of that
length, and without cycles no walk has more edges than there are nodes.
-/

namespace Graph

open Relation

variable {Node : Type} {edge larger : Node -> Node -> Prop}

def Acyclic (edge : Node -> Node -> Prop) : Prop :=
  forall node, ¬ TransGen edge node node

theorem Acyclic.mono (contained : forall first second, larger first second -> edge first second)
    (acyclic : Acyclic edge) : Acyclic larger :=
  fun node cycle => acyclic node (TransGen.mono contained _ _ cycle)

theorem Acyclic.flip (acyclic : Acyclic edge) : Acyclic (Function.swap edge) :=
  fun node cycle => acyclic node (transGen_swap.mp cycle)

/-- An edge closes a cycle exactly if its end already leads to its beginning. -/
theorem acyclic_insert_iff {source target : Node} (acyclic : Acyclic edge)
    (edges : forall first second,
      larger first second ↔ edge first second ∨ (first = source ∧ second = target)) :
    Acyclic larger ↔ ¬ ReflTransGen edge target source := by
  have contained : forall first second, edge first second -> larger first second :=
    fun first second old => (edges first second).mpr (Or.inl old)
  constructor
  · intro stays back
    have forth : larger source target := (edges source target).mpr (Or.inr ⟨rfl, rfl⟩)
    exact stays source (TransGen.head' forth (ReflTransGen.mono contained _ _ back))
  · intro apart
    -- A walk in the larger graph is one in the old graph, or it comes to the source and
    -- goes on from the target.
    have split : forall first second, TransGen larger first second -> TransGen edge first second ∨
        (ReflTransGen edge first source ∧ ReflTransGen edge target second) := by
      intro first second walk
      induction walk with
      | single last =>
          rcases (edges _ _).mp last with old | ⟨isSource, isTarget⟩
          · exact Or.inl (.single old)
          · exact Or.inr ⟨isSource ▸ .refl, isTarget ▸ .refl⟩
      | tail _ last ih =>
          rcases (edges _ _).mp last with old | ⟨isSource, isTarget⟩
          · rcases ih with before | ⟨before, after⟩
            · exact Or.inl (before.tail old)
            · exact Or.inr ⟨before, after.tail old⟩
          · subst isSource isTarget
            rcases ih with before | ⟨before, after⟩
            · exact Or.inr ⟨before.to_reflTransGen, .refl⟩
            · exact absurd after apart
    intro node cycle
    rcases split node node cycle with old | ⟨before, after⟩
    · exact acyclic node old
    · exact apart (after.trans before)

/-- A new node that no edge leads to closes no cycle. -/
theorem acyclic_add_source {source : Node} (acyclic : Acyclic edge)
    (edges : forall first second, larger first second -> edge first second ∨ first = source)
    (unreached : forall first, ¬ larger first source) : Acyclic larger := by
  have stays : forall first second, TransGen larger first second -> first ≠ source ->
      TransGen edge first second := by
    intro first second walk
    induction walk with
    | single last =>
        intro different
        exact .single ((edges _ _ last).resolve_right different)
    | tail before last ih =>
        intro different
        refine (ih different).tail ((edges _ _ last).resolve_right ?_)
        rintro isSource
        rcases TransGen.tail'_iff.mp (isSource ▸ before) with ⟨previous, _, reaches⟩
        exact unreached previous reaches
  intro node cycle
  by_cases isSource : node = source
  · rcases TransGen.tail'_iff.mp (isSource ▸ cycle) with ⟨previous, _, reaches⟩
    exact unreached previous reaches
  · exact acyclic node (stays node node cycle isSource)

/-- There is a walk of so many edges from the node. -/
def Walk (edge : Node -> Node -> Prop) : Nat -> Node -> Prop
  | 0, _ => True
  | length + 1, node => Exists fun next => edge node next ∧ Walk edge length next

variable {node : Node} {nodes : List Node}

theorem walk_chain {length : Nat} (walk : Walk edge length node) :
    Exists fun nodes : List Node => nodes.length = length ∧ (node :: nodes).IsChain edge := by
  induction length generalizing node with
  | zero => exact ⟨[], rfl, .singleton node⟩
  | succ length ih =>
      rcases walk with ⟨next, first, others⟩
      rcases ih others with ⟨nodes, count, chain⟩
      exact ⟨next :: nodes, congrArg _ count, List.isChain_cons_cons.mpr ⟨first, chain⟩⟩

theorem walk_of_cycle (cycle : TransGen edge node node) (length : Nat) : Walk edge length node := by
  have onward : forall current, TransGen edge current node -> Walk edge length current := by
    induction length with
    | zero => exact fun _ _ => trivial
    | succ length ih =>
        intro current reaches
        rcases TransGen.head'_iff.mp reaches with ⟨next, first, others⟩
        refine ⟨next, first, ih next ?_⟩
        exact TransGen.trans_right others cycle
  exact onward node cycle

/-- Without cycles a walk has no more edges than there are nodes for them to end at. -/
theorem not_walk_of_acyclic (acyclic : Acyclic edge)
    (targets : forall first second, edge first second -> second ∈ nodes) (node : Node) :
    ¬ Walk edge (nodes.length + 1) node := by
  intro walk
  rcases walk_chain walk with ⟨visited, count, chain⟩
  have reaches : (node :: visited).Pairwise (TransGen edge) :=
    List.isChain_iff_pairwise.mp (chain.imp fun _ _ first => .single first)
  have distinct : visited.Nodup := by
    refine List.Pairwise.imp ?_ (List.pairwise_cons.mp reaches).2
    intro first second forth same
    subst same
    exact acyclic first forth
  have inside : visited ⊆ nodes := by
    intro visitedNode member
    rcases TransGen.tail'_iff.mp ((List.pairwise_cons.mp reaches).1 visitedNode member) with
      ⟨previous, _, last⟩
    exact targets previous visitedNode last
  have short := distinct.length_le_of_subset inside
  omega

theorem walk_of_reaches {first second : Node} (reaches : ReflTransGen edge first second) :
    Exists fun length => forall further, Walk edge further second ->
      Walk edge (length + further) first := by
  induction reaches using ReflTransGen.head_induction_on with
  | refl => exact ⟨0, fun further walk => (Nat.zero_add further).symm ▸ walk⟩
  | head step _ ih =>
      rcases ih with ⟨length, onward⟩
      refine ⟨length + 1, fun further walk => ?_⟩
      rw [Nat.add_right_comm]
      exact ⟨_, step, onward further walk⟩

theorem walk_of_le {shorter longer : Nat} (less : shorter ≤ longer) (walk : Walk edge longer node) :
    Walk edge shorter node := by
  induction shorter generalizing longer node with
  | zero => trivial
  | succ shorter ih =>
      cases longer with
      | zero => exact absurd less (Nat.not_succ_le_zero shorter)
      | succ longer =>
          rcases walk with ⟨next, first, others⟩
          exact ⟨next, first, ih (Nat.le_of_succ_le_succ less) others⟩

/-- If the walks from a node are bounded at all, then by the number of nodes. -/
theorem not_walk_of_bounded {length : Nat} (bounded : ¬ Walk edge length node)
    (targets : forall first second, edge first second -> second ∈ nodes) :
    ¬ Walk edge (nodes.length + 1) node := by
  let reachable (first second : Node) : Prop := edge first second ∧ ReflTransGen edge node first
  have acyclic : Acyclic reachable := by
    intro inside cycle
    rcases TransGen.head'_iff.mp cycle with ⟨_, ⟨_, reaches⟩, _⟩
    have old : TransGen edge inside inside := TransGen.mono (fun _ _ both => both.1) _ _ cycle
    rcases walk_of_reaches reaches with ⟨before, onward⟩
    exact bounded (walk_of_le (Nat.le_add_left length before) (onward length (walk_of_cycle old length)))
  have stays : forall count current, ReflTransGen edge node current -> Walk edge count current ->
      Walk reachable count current := by
    intro count
    induction count with
    | zero => exact fun _ _ _ => trivial
    | succ count ih =>
        rintro current reaches ⟨next, first, others⟩
        exact ⟨next, ⟨first, reaches⟩, ih next (reaches.tail first) others⟩
  intro walk
  exact not_walk_of_acyclic acyclic (fun first second both => targets first second both.1) node
    (stays _ node .refl walk)

/-- A recursion that has no result without fuel, and otherwise has none exactly if it has
none for some successor, has none exactly where there is a walk as long as the fuel. -/
theorem none_iff_walk {Result : Type} {recurse : Nat -> Node -> Option Result}
    (out : forall node, recurse 0 node = none)
    (fails : forall fuel node, recurse (fuel + 1) node = none ↔
      Exists fun next => edge node next ∧ recurse fuel next = none) (fuel : Nat) (node : Node) :
    recurse fuel node = none ↔ Walk edge fuel node := by
  induction fuel generalizing node with
  | zero => exact ⟨fun _ => trivial, fun _ => out node⟩
  | succ fuel ih =>
      rw [fails fuel node]
      exact exists_congr fun next => and_congr_right fun _ => ih next

/-- Without cycles every node is reached from one that no edge leads to. -/
theorem exists_source (acyclic : Acyclic edge)
    (sources : forall first second, edge first second -> first ∈ nodes) (node : Node) :
    Exists fun source => (forall previous, ¬ edge previous source) ∧ ReflTransGen edge source node := by
  have climb : forall length node, ¬ Walk (Function.swap edge) length node ->
      Exists fun source => (forall previous, ¬ edge previous source) ∧
        ReflTransGen edge source node := by
    intro length
    induction length with
    | zero => exact fun node blocked => absurd trivial blocked
    | succ length ih =>
        intro node blocked
        by_cases isSource : forall previous, ¬ edge previous node
        · exact ⟨node, isSource, .refl⟩
        · push Not at isSource
          rcases isSource with ⟨previous, last⟩
          have shorter : ¬ Walk (Function.swap edge) length previous :=
            fun walk => blocked ⟨previous, last, walk⟩
          rcases ih previous shorter with ⟨source, unreached, reaches⟩
          exact ⟨source, unreached, reaches.tail last⟩
  have targets : forall first second, Function.swap edge first second -> second ∈ nodes :=
    fun first second back => sources second first back
  exact climb _ node (not_walk_of_acyclic acyclic.flip targets node)

end Graph
end Library
end Tropek
