import Tropek.Library.Graphs
import Tropek.Library.TransitionSystem
import Tropek.Manifest.Effects

namespace Tropek
namespace Catalog

open Library Manifest Relation KeyedTable Fallible

/-!
# Groups of asset groups

An asset group has assets as members and other groups as subgroups.  A link from a group
to a subgroup is a row of its own, whose two ends must exist; nothing else is asked of it.

Two traversals follow the links without remembering where they have been: the deletion
of a group, which collects what is below it, and the tree of the user interface.  Both
are cut off here after a number of rounds, and they end when some number is enough.
-/

structure GroupCreate where
  name : String
  displayName : Option String := none
  members : List (String × Option ℚ) := []
  subgroups : List (String × Option ℚ) := []

/-- `POST /asset-groups`.  The request cannot name the group that it creates, whose
identifier is drawn after it has been sent. -/
def createGroup (body : GroupCreate) : Command := fun api => do
  if (body.subgroups.map Prod.fst).contains body.name then
    .error (.constraint "asset_group_links_child_asset_group_id")
  else do
    let created <- createAssetGroup { name := body.name, displayName := body.displayName } api
    let filled <- body.members.foldlM
      (fun api member => addGroupMember body.name member.1 member.2 api) created
    body.subgroups.foldlM
      (fun api subgroup => addGroupSubgroup body.name subgroup.1 subgroup.2 api) filled

def AssetGroup.rename (displayName : Option String) (row : AssetGroup) : AssetGroup :=
  { row with displayName := displayName.or row.displayName }

/-- `PATCH /asset-groups/{name}`. -/
def updateAssetGroup (name : String) (displayName : Option String) : Command := fun api => do
  checkOptional [displayName]
  let _ <- getAssetGroup name api
  return { api with
    assetGroups := api.assetGroups.update name (AssetGroup.rename displayName) (fun _ => rfl) }

def AssetGroup.dropSubgroup (child : String) (row : AssetGroup) : AssetGroup :=
  { row with subgroups := row.subgroups.filter fun subgroup => subgroup.1 ≠ child }

/-- `DELETE /asset-groups/{name}/subgroups/{child_group_id}`. -/
def removeGroupSubgroup (name child : String) : Command := fun api => do
  let _ <- getAssetGroup name api
  return { api with
    assetGroups := api.assetGroups.update name (AssetGroup.dropSubgroup child) (fun _ => rfl) }

def subgroupIds (api : Api) (name : String) : List String :=
  ((api.assetGroups.find name).map fun group => group.subgroups.map Prod.fst).getD []

def collectSubgroupIds (api : Api) : Nat -> String -> Option (List String)
  | 0, _ => none
  | fuel + 1, name =>
      let collected := (subgroupIds api name).mapM fun child =>
        (collectSubgroupIds api fuel child).map fun below => child :: below
      collected.map List.flatten

def dropAssetGroup (api : Api) (name : String) : Api :=
  { api with
    assetGroups := (api.assetGroups.delete name).updateWhere (fun _ => true)
      (AssetGroup.dropSubgroup name) (fun _ => rfl)
    sloAssignments := api.sloAssignments.deleteWhere fun row => row.target = .assetGroup name
    groupAssignments := api.groupAssignments.deleteWhere fun row => row.target = .assetGroup name }

def enoughRounds (api : Api) : Nat :=
  api.assetGroups.rows.length + 1

/-- `DELETE /asset-groups/{name}`, when its recursion ends. -/
def deleteAssetGroup (api : Api) (name : String) : Option Api := do
  let group <- api.assetGroups.find name
  let descendants <- collectSubgroupIds api (enoughRounds api) group.name
  return (group.name :: descendants).reverse.foldl dropAssetGroup api

inductive AssetGroupRequest where
  | create (body : GroupCreate)
  | update (name : String) (displayName : Option String)
  | link (name child : String) (weight : Option ℚ)
  | unlink (name child : String)
  | delete (name : String)

/-- A request that is accepted.  One that is refused leaves the state as it is. -/
def AssetGroupRequest.step (api : Api) : AssetGroupRequest -> Option Api
  | .create body => (createGroup body api).toOption
  | .update name displayName => (updateAssetGroup name displayName api).toOption
  | .link name child weight => (addGroupSubgroup name child weight api).toOption
  | .unlink name child => (removeGroupSubgroup name child api).toOption
  | .delete name => deleteAssetGroup api name

structure AssetGroupTree where
  topLevel : List AssetGroup
  allGroups : List AssetGroup

/-- `GET /asset-groups/tree`. -/
def getTree (api : Api) : AssetGroupTree :=
  let childIds := api.assetGroups.rows.flatMap fun group => group.subgroups.map Prod.fst
  let allGroups := api.assetGroups.rows.insertionSort fun first second => first.name ≤ second.name
  { topLevel := allGroups.filter fun group => !childIds.contains group.name
    allGroups }

inductive TreeNode where
  | group (name : String) (displayName : Option String) (badge : Option Nat)
      (children : List TreeNode)
  | asset (name : String) (children : List TreeNode)
  | binding (name : String) (children : List TreeNode)

def shownSubgroups (allGroups : List AssetGroup) (group : AssetGroup) : List AssetGroup :=
  group.subgroups.filterMap fun subgroup =>
    allGroups.reverse.find? fun other => other.name = subgroup.1

/-- `buildGroupNode`.  What is shown for the members does not come back to it. -/
def buildGroupNode (allGroups : List AssetGroup) (memberChildren : AssetGroup -> List TreeNode) :
    Nat -> AssetGroup -> Option TreeNode
  | 0, _ => none
  | fuel + 1, group =>
      let subgroupChildren := (shownSubgroups allGroups group).mapM
        (buildGroupNode allGroups memberChildren fuel)
      subgroupChildren.map fun children =>
        .group group.name group.displayName
          (if group.members = [] then none else some group.members.length)
          (children ++ memberChildren group)

def buildAssetTree (memberChildren : AssetGroup -> List TreeNode) (fuel : Nat)
    (tree : AssetGroupTree) : Option (List TreeNode) :=
  tree.topLevel.mapM (buildGroupNode tree.allGroups memberChildren fuel)

def Subgroup (api : Api) (parent child : String) : Prop :=
  child ∈ subgroupIds api parent

instance (api : Api) (parent child : String) : Decidable (Subgroup api parent child) :=
  inferInstanceAs (Decidable (child ∈ subgroupIds api parent))

def Linked (api : Api) : Prop :=
  forall parent child, Subgroup api parent child -> (api.assetGroups.find child).isSome = true

variable {api : Api} {group : AssetGroup}

theorem subgroup_iff {parent child : String} :
    Subgroup api parent child ↔ Exists fun group =>
      api.assetGroups.find parent = some group ∧ child ∈ group.subgroups.map Prod.fst := by
  unfold Subgroup subgroupIds
  cases api.assetGroups.find parent with
  | none =>
      constructor
      · exact fun impossible => absurd impossible List.not_mem_nil
      · rintro ⟨_, impossible, _⟩
        cases impossible
  | some group =>
      constructor
      · exact fun listed => ⟨group, rfl, listed⟩
      · rintro ⟨_, same, listed⟩
        cases same
        exact listed

theorem subgroup_parent {parent child : String} (link : Subgroup api parent child) :
    parent ∈ api.assetGroups.rows.map AssetGroup.name := by
  rcases subgroup_iff.mp link with ⟨group, found, _⟩
  exact List.mem_map.mpr ⟨group, find_mem found, find_key found⟩

theorem Linked.child {api : Api} (linked : Linked api) {parent child : String}
    (link : Subgroup api parent child) : child ∈ api.assetGroups.rows.map AssetGroup.name := by
  rcases Option.isSome_iff_exists.mp (linked parent child link) with ⟨group, found⟩
  exact List.mem_map.mpr ⟨group, find_mem found, find_key found⟩

theorem subgroup_of_mem (member : group ∈ api.assetGroups.rows) {child : String}
    (listed : child ∈ group.subgroups.map Prod.fst) : Subgroup api group.name child :=
  subgroup_iff.mpr ⟨group, find_of_mem member, listed⟩

theorem collectSubgroupIds_eq_none (api : Api) (fuel : Nat) (name : String) :
    collectSubgroupIds api fuel name = none ↔ Graph.Walk (Subgroup api) fuel name := by
  refine Graph.none_iff_walk (fun _ => rfl) (fun fuel name => ?_) fuel name
  conv_lhs => unfold collectSubgroupIds
  simp only [Option.map_eq_none_iff, mapM_eq_none]
  rfl

/-- `_collect_subgroup_ids` gives what is below the group. -/
theorem mem_collectSubgroupIds {fuel : Nat} {name : String} {collected : List String}
    (ended : collectSubgroupIds api fuel name = some collected) (other : String) :
    other ∈ collected ↔ TransGen (Subgroup api) name other := by
  induction fuel generalizing name collected with
  | zero => cases ended
  | succ fuel ih =>
      unfold collectSubgroupIds at ended
      rcases Option.map_eq_some_iff.mp ended with ⟨parts, looped, same⟩
      subst same
      have related := (mapM_eq_some _ _ _).mp looped
      rw [List.mem_flatten, TransGen.head'_iff]
      constructor
      · rintro ⟨part, inside, listed⟩
        rcases mem_related related.flip inside with ⟨child, link, collects⟩
        rcases Option.map_eq_some_iff.mp collects with ⟨below, ended, same⟩
        subst same
        rcases List.mem_cons.mp listed with isChild | deeper
        · exact ⟨child, link, isChild ▸ .refl⟩
        · exact ⟨child, link, ((ih ended).mp deeper).to_reflTransGen⟩
      · rintro ⟨child, link, reaches⟩
        rcases mem_related related link with ⟨part, inside, collects⟩
        rcases Option.map_eq_some_iff.mp collects with ⟨below, ended, same⟩
        subst same
        refine ⟨_, inside, ?_⟩
        rcases reflTransGen_iff_eq_or_transGen.mp reaches with isChild | deeper
        · exact isChild ▸ List.mem_cons_self
        · exact List.mem_cons_of_mem _ ((ih ended).mpr deeper)

theorem enoughRounds_eq (api : Api) :
    enoughRounds api = (api.assetGroups.rows.map AssetGroup.name).length + 1 := by
  rw [List.length_map]
  rfl

theorem collectSubgroupIds_enough (linked : Linked api) {fuel : Nat} {name : String}
    (ended : collectSubgroupIds api fuel name ≠ none) :
    collectSubgroupIds api (enoughRounds api) name ≠ none := by
  have bounded : ¬ Graph.Walk (Subgroup api) fuel name :=
    fun walk => ended ((collectSubgroupIds_eq_none api fuel name).mpr walk)
  rw [Ne, collectSubgroupIds_eq_none, enoughRounds_eq]
  exact Graph.not_walk_of_bounded bounded fun _ _ link => linked.child link

def Shown (allGroups : List AssetGroup) (group other : AssetGroup) : Prop :=
  other ∈ shownSubgroups allGroups group

theorem buildGroupNode_eq_none (allGroups : List AssetGroup)
    (memberChildren : AssetGroup -> List TreeNode) (fuel : Nat) (group : AssetGroup) :
    buildGroupNode allGroups memberChildren fuel group = none ↔
      Graph.Walk (Shown allGroups) fuel group := by
  refine Graph.none_iff_walk (fun _ => rfl) (fun fuel group => ?_) fuel group
  conv_lhs => unfold buildGroupNode
  simp only [Option.map_eq_none_iff, mapM_eq_none]
  rfl

theorem mem_allGroups : group ∈ (getTree api).allGroups ↔ group ∈ api.assetGroups.rows :=
  List.mem_insertionSort _

theorem walk_shown {length : Nat} (member : group ∈ api.assetGroups.rows)
    (walk : Graph.Walk (Shown (getTree api).allGroups) length group) :
    Graph.Walk (Subgroup api) length group.name := by
  induction length generalizing group with
  | zero => trivial
  | succ length ih =>
      rcases walk with ⟨other, shown, others⟩
      rcases List.mem_filterMap.mp shown with ⟨subgroup, listed, found⟩
      have named : other.name = subgroup.1 := by
        have selected := List.find?_some found
        exact of_decide_eq_true selected
      have inside := mem_allGroups.mp (List.mem_reverse.mp (List.mem_of_find?_eq_some found))
      refine ⟨other.name, ?_, ih inside others⟩
      rw [named]
      exact subgroup_of_mem member (List.mem_map_of_mem listed)

theorem buildAssetTree_eq_none (memberChildren : AssetGroup -> List TreeNode) (fuel : Nat)
    (tree : AssetGroupTree) : buildAssetTree memberChildren fuel tree = none ↔
      Exists fun top => top ∈ tree.topLevel ∧ Graph.Walk (Shown tree.allGroups) fuel top := by
  unfold buildAssetTree
  rw [mapM_eq_none]
  exact exists_congr fun top => and_congr_right fun _ => buildGroupNode_eq_none _ _ _ _

theorem mem_topLevel :
    group ∈ (getTree api).topLevel ↔ group ∈ api.assetGroups.rows ∧
      forall parent, ¬ Subgroup api parent group.name := by
  have listed : forall name, name ∈ (api.assetGroups.rows.flatMap fun group =>
      group.subgroups.map Prod.fst) ↔ Exists fun parent => Subgroup api parent name := by
    intro name
    rw [List.mem_flatMap]
    constructor
    · rintro ⟨parent, member, child⟩
      exact ⟨parent.name, subgroup_of_mem member child⟩
    · rintro ⟨parent, link⟩
      rcases subgroup_iff.mp link with ⟨group, found, child⟩
      exact ⟨group, find_mem found, child⟩
  change group ∈ (getTree api).allGroups.filter _ ↔ _
  rw [List.mem_filter, mem_allGroups, Bool.not_eq_true', Bool.eq_false_iff, Ne, List.contains_iff_mem,
    listed, not_exists]

end Catalog
end Tropek
