import Tropek.Catalog.Agreement
import Tropek.Catalog.Subgroups

namespace Tropek
namespace Catalog

open Library Manifest Relation KeyedTable Fallible

/-!
# The hierarchy of asset groups

Without a cycle among the links, the deletion of a group and the tree of the user
interface end, and the tree shows every group.  A link closes a cycle exactly if its
parent is the child or below the child.  Nothing looks at that, and no other request can
close one.
-/

structure Hierarchical (api : Api) : Prop where
  acyclic : Graph.Acyclic (Subgroup api)
  collects : forall name, Exists fun fuel => collectSubgroupIds api fuel name ≠ none
  builds : forall memberChildren, Exists fun fuel =>
    buildAssetTree memberChildren fuel (getTree api) ≠ none
  shown : forall group, group ∈ api.assetGroups.rows -> Exists fun top =>
    top ∈ (getTree api).topLevel ∧ ReflTransGen (Subgroup api) top.name group.name

def NoWayBack (api : Api) : AssetGroupRequest -> Prop
  | .link name child _ =>
      child ≠ name ∧ name ∉ (collectSubgroupIds api (enoughRounds api) child).getD []
  | .create _ | .update _ _ | .unlink _ _ | .delete _ => True

instance (api : Api) : DecidablePred (NoWayBack api)
  | .link name child _ => inferInstanceAs (Decidable (child ≠ name ∧
      name ∉ (collectSubgroupIds api (enoughRounds api) child).getD []))
  | .create _ | .update _ _ | .unlink _ _ | .delete _ => isTrue trivial

variable {api later : Api} {name child : String} {weight : Option ℚ} {request : AssetGroupRequest}

theorem hierarchical_of_acyclic (linked : Linked api) (acyclic : Graph.Acyclic (Subgroup api)) :
    Hierarchical api := by
  have short : forall name, ¬ Graph.Walk (Subgroup api) (enoughRounds api) name := by
    intro name
    rw [enoughRounds_eq]
    exact Graph.not_walk_of_acyclic acyclic (fun _ _ link => linked.child link) name
  refine ⟨acyclic, fun name => ⟨enoughRounds api, ?_⟩,
    fun memberChildren => ⟨enoughRounds api, ?_⟩, fun group member => ?_⟩
  · exact (collectSubgroupIds_eq_none api _ name).not.mpr (short name)
  · rw [Ne, buildAssetTree_eq_none]
    rintro ⟨top, isTop, walk⟩
    exact short top.name (walk_shown (mem_topLevel.mp isTop).1 walk)
  · rcases Graph.exists_source acyclic (fun _ _ link => subgroup_parent link) group.name with
      ⟨source, unreached, reaches⟩
    have isGroup : source ∈ api.assetGroups.rows.map AssetGroup.name := by
      rcases ReflTransGen.cases_head reaches with same | ⟨next, link, _⟩
      · exact same ▸ List.mem_map_of_mem member
      · exact subgroup_parent link
    rcases List.mem_map.mp isGroup with ⟨top, inside, named⟩
    subst named
    exact ⟨top, mem_topLevel.mpr ⟨inside, unreached⟩, reaches⟩

def changeGroup (api : Api) (name : String) (change : AssetGroup -> AssetGroup)
    (keeps : forall row, (change row).name = row.name) : Api :=
  { api with assetGroups := api.assetGroups.update name change keeps }

section Updates

variable (api : Api) (name : String) (change : AssetGroup -> AssetGroup)
  (keeps : forall row, (change row).name = row.name)

theorem subgroupIds_update (parent : String) :
    subgroupIds (changeGroup api name change keeps) parent =
      if parent = name then
        ((api.assetGroups.find parent).map fun group => (change group).subgroups.map Prod.fst).getD []
      else subgroupIds api parent := by
  unfold subgroupIds changeGroup
  dsimp only
  rw [find_update]
  by_cases same : parent = name
  · rw [if_pos same, if_pos same, Option.map_map]
    rfl
  · rw [if_neg same, if_neg same]

theorem find_changeGroup (other : String) :
    ((changeGroup api name change keeps).assetGroups.find other).isSome =
      (api.assetGroups.find other).isSome := by
  unfold changeGroup
  dsimp only
  rw [find_update]
  split
  · exact Option.isSome_map
  · rfl

variable {api name change keeps}

theorem subgroup_changeGroup (same : forall group, (change group).subgroups = group.subgroups)
    {parent child : String} :
    Subgroup (changeGroup api name change keeps) parent child ↔
      Subgroup api parent child := by
  unfold Subgroup
  rw [subgroupIds_update]
  split
  · simp only [same]
    rfl
  · exact Iff.rfl

end Updates

theorem addGroupSubgroup_checks (accepted : addGroupSubgroup name child weight api = .ok later) :
    (api.assetGroups.find name).isSome = true ∧ (api.assetGroups.find child).isSome = true := by
  unfold addGroupSubgroup getAssetGroup at accepted
  rcases bind_eq_ok.mp accepted with ⟨group, found, stored⟩
  rw [orRaise_eq_ok] at found
  split at stored
  · cases stored
  · split at stored
    · cases stored
    · rename_i present
      exact ⟨found ▸ rfl, Option.isSome_iff_ne_none.mpr present⟩

theorem addSubgroup_name (child : String) (weight : ℚ) (row : AssetGroup) :
    (AssetGroup.addSubgroup child weight row).name = row.name :=
  rfl

theorem addGroupSubgroup_changes (accepted : addGroupSubgroup name child weight api = .ok later) :
    later = changeGroup api name (AssetGroup.addSubgroup child (weight.getD 1))
      (addSubgroup_name child (weight.getD 1)) :=
  addGroupSubgroup_eq_ok accepted

theorem subgroup_link (accepted : addGroupSubgroup name child weight api = .ok later)
    (first second : String) :
    Subgroup later first second ↔
      Subgroup api first second ∨ (first = name ∧ second = child) := by
  have present := (addGroupSubgroup_checks accepted).1
  rw [addGroupSubgroup_changes accepted]
  unfold Subgroup
  rw [subgroupIds_update]
  by_cases same : first = name
  · subst same
    rcases Option.isSome_iff_exists.mp present with ⟨group, found⟩
    unfold subgroupIds AssetGroup.addSubgroup
    rw [if_pos rfl, found]
    simp
  · rw [if_neg same]
    simp [same]

theorem linked_link (linked : Linked api)
    (accepted : addGroupSubgroup name child weight api = .ok later) : Linked later := by
  intro parent other link
  rw [addGroupSubgroup_changes accepted, find_changeGroup]
  rcases (subgroup_link accepted parent other).mp link with old | ⟨_, isChild⟩
  · exact linked parent other old
  · exact isChild ▸ (addGroupSubgroup_checks accepted).2

structure StaysAcyclic (api later : Api) : Prop where
  linked : Linked later
  acyclic : Graph.Acyclic (Subgroup api) -> Graph.Acyclic (Subgroup later)

theorem changeGroup_stays {change : AssetGroup -> AssetGroup}
    {keeps : forall row, (change row).name = row.name} (linked : Linked api)
    (fewer : forall group, (change group).subgroups ⊆ group.subgroups) :
    StaysAcyclic api (changeGroup api name change keeps) := by
  have contained : forall parent child, Subgroup (changeGroup api name change keeps) parent child ->
      Subgroup api parent child := by
    intro parent child link
    unfold Subgroup at link ⊢
    rw [subgroupIds_update] at link
    split at link
    · unfold subgroupIds
      cases found : api.assetGroups.find parent with
      | none =>
          rw [found] at link
          exact absurd link List.not_mem_nil
      | some group =>
          rw [found] at link
          exact List.map_subset Prod.fst (fewer group) link
    · exact link
  refine ⟨fun parent child link => ?_, Graph.Acyclic.mono contained⟩
  rw [find_changeGroup]
  exact linked parent child (contained parent child link)

theorem update_stays {displayName : Option String} (linked : Linked api)
    (accepted : updateAssetGroup name displayName api = .ok later) : StaysAcyclic api later := by
  unfold updateAssetGroup at accepted
  simp only [bind_eq_ok] at accepted
  rcases accepted with ⟨_, _, _, _, finished⟩
  cases finished
  exact changeGroup_stays linked fun group => List.Subset.refl group.subgroups

theorem unlink_stays (linked : Linked api)
    (accepted : removeGroupSubgroup name child api = .ok later) : StaysAcyclic api later := by
  unfold removeGroupSubgroup at accepted
  simp only [bind_eq_ok] at accepted
  rcases accepted with ⟨_, _, finished⟩
  cases finished
  exact changeGroup_stays linked fun group => List.filter_sublist.subset

theorem dropSubgroup_name (child : String) (row : AssetGroup) :
    (AssetGroup.dropSubgroup child row).name = row.name :=
  rfl

theorem find_dropAssetGroup (api : Api) (name other : String) :
    (dropAssetGroup api name).assetGroups.find other =
      if other = name then none
      else (api.assetGroups.find other).map (AssetGroup.dropSubgroup name) := by
  change ((api.assetGroups.delete name).updateWhere (fun _ => true) (AssetGroup.dropSubgroup name)
    (dropSubgroup_name name)).find other = _
  rw [find_updateWhere, find_delete]
  by_cases same : other = name
  · rw [if_pos same, if_pos same]
    rfl
  · rw [if_neg same, if_neg same]
    rfl

theorem subgroup_dropAssetGroup {parent : String}
    (link : Subgroup (dropAssetGroup api name) parent child) :
    Subgroup api parent child ∧ child ≠ name := by
  rcases subgroup_iff.mp link with ⟨group, found, listed⟩
  rw [find_dropAssetGroup] at found
  split at found
  · cases found
  · rcases Option.map_eq_some_iff.mp found with ⟨old, isOld, same⟩
    subst same
    rcases List.mem_map.mp listed with ⟨subgroup, kept, isChild⟩
    rcases List.mem_filter.mp kept with ⟨inside, different⟩
    subst isChild
    exact ⟨subgroup_iff.mpr ⟨old, isOld, List.mem_map_of_mem inside⟩, of_decide_eq_true different⟩

theorem drop_stays (linked : Linked api) (name : String) :
    StaysAcyclic api (dropAssetGroup api name) := by
  have contained : forall parent child, Subgroup (dropAssetGroup api name) parent child ->
      Subgroup api parent child := fun parent child link => (subgroup_dropAssetGroup link).1
  refine ⟨fun parent child link => ?_, Graph.Acyclic.mono contained⟩
  rw [find_dropAssetGroup, if_neg (subgroup_dropAssetGroup link).2, Option.isSome_map]
  exact linked parent child (contained parent child link)

theorem drops_stays (linked : Linked api) (names : List String) :
    StaysAcyclic api (names.foldl dropAssetGroup api) := by
  induction names generalizing api with
  | nil => exact ⟨linked, id⟩
  | cons name rest ih =>
      have first := drop_stays linked name
      have others := ih first.linked
      exact ⟨others.linked, fun acyclic => others.acyclic (first.acyclic acyclic)⟩

theorem delete_stays (linked : Linked api) (accepted : deleteAssetGroup api name = some later) :
    StaysAcyclic api later := by
  unfold deleteAssetGroup at accepted
  rcases Option.bind_eq_some_iff.mp accepted with ⟨group, _, accepted⟩
  rcases Option.bind_eq_some_iff.mp accepted with ⟨descendants, _, finished⟩
  cases finished
  exact drops_stays linked _

/-- A group that is being created: it is not in the state before, no link leads to it,
and the other groups have no link but their old ones. -/
structure Creating (api : Api) (name : String) (middle : Api) : Prop where
  linked : Linked middle
  unreached : forall parent, ¬ Subgroup middle parent name
  links : forall parent child, Subgroup middle parent child ->
    Subgroup api parent child ∨ parent = name

theorem creating_created {body : AssetGroupCreate} (linked : Linked api)
    (accepted : createAssetGroup body api = .ok later) : Creating api body.name later := by
  rcases createAssetGroup_eq_ok accepted with ⟨fresh, same⟩
  subst same
  let row : AssetGroup := { name := body.name, displayName := body.displayName }
  have contained : forall parent child,
      Subgroup { api with assetGroups := api.assetGroups.insert row fresh } parent child ->
        Subgroup api parent child := by
    intro parent child link
    rcases subgroup_iff.mp link with ⟨group, found, listed⟩
    dsimp only at found
    rw [find_insert] at found
    split at found
    · cases found
      exact absurd listed List.not_mem_nil
    · exact subgroup_iff.mpr ⟨group, found, listed⟩
  refine ⟨fun parent child link => ?_, fun parent link => ?_,
    fun parent child link => Or.inl (contained parent child link)⟩
  · dsimp only
    rw [find_insert]
    split
    · rfl
    · exact linked parent child (contained parent child link)
  · have present := linked parent body.name (contained parent body.name link)
    rw [show api.assetGroups.find body.name = none from fresh] at present
    cases present

theorem addMember_name (asset : String) (weight : ℚ) (row : AssetGroup) :
    (AssetGroup.addMember asset weight row).name = row.name :=
  rfl

theorem creating_member {middle : Api} {asset : String} (creating : Creating api name middle)
    (accepted : addGroupMember name asset weight middle = .ok later) : Creating api name later := by
  have same : later = changeGroup middle name (AssetGroup.addMember asset (weight.getD 1))
      (addMember_name asset (weight.getD 1)) := addGroupMember_eq_ok accepted
  have links : forall parent child, Subgroup later parent child ↔ Subgroup middle parent child := by
    rw [same]
    have keeps : forall group, (AssetGroup.addMember asset (weight.getD 1) group).subgroups =
        group.subgroups := fun _ => rfl
    exact fun _ _ => subgroup_changeGroup keeps
  refine ⟨?_, ?_, ?_⟩
  · intro parent child link
    rw [same, find_changeGroup]
    exact creating.linked parent child ((links parent child).mp link)
  · exact fun parent link => creating.unreached parent ((links parent name).mp link)
  · exact fun parent child link => creating.links parent child ((links parent child).mp link)

theorem creating_subgroup {middle : Api} (creating : Creating api name middle)
    (different : child ≠ name) (accepted : addGroupSubgroup name child weight middle = .ok later) :
    Creating api name later := by
  refine ⟨linked_link creating.linked accepted, fun parent link => ?_, fun parent other link => ?_⟩
  · rcases (subgroup_link accepted parent name).mp link with old | ⟨_, isChild⟩
    · exact creating.unreached parent old
    · exact different isChild.symm
  · rcases (subgroup_link accepted parent other).mp link with old | ⟨isName, _⟩
    · exact creating.links parent other old
    · exact Or.inr isName

theorem create_stays {body : GroupCreate} (linked : Linked api)
    (accepted : createGroup body api = .ok later) : StaysAcyclic api later := by
  unfold createGroup at accepted
  split at accepted
  · cases accepted
  · rename_i apart
    simp only [bind_eq_ok] at accepted
    rcases accepted with ⟨created, isCreated, filled, isFilled, isLater⟩
    have isNew : Creating api body.name created := creating_created linked isCreated
    have withMembers := foldlM_preserves
      (fun middle member next _ creating added => creating_member creating added)
      isNew isFilled
    have final := foldlM_preserves
      (fun middle subgroup next listed creating added => by
        refine creating_subgroup creating (fun same => apart ?_) added
        rw [List.contains_iff_mem, <- same]
        exact List.mem_map_of_mem listed)
      withMembers isLater
    exact ⟨final.linked, fun acyclic =>
      Graph.acyclic_add_source acyclic final.links final.unreached⟩

theorem link_acyclic_iff (linked : Linked api) (hierarchical : Hierarchical api)
    (accepted : addGroupSubgroup name child weight api = .ok later) :
    Graph.Acyclic (Subgroup later) ↔ NoWayBack api (.link name child weight) := by
  rw [Graph.acyclic_insert_iff hierarchical.acyclic (subgroup_link accepted)]
  rcases hierarchical.collects child with ⟨fuel, ended⟩
  rcases Option.ne_none_iff_exists'.mp (collectSubgroupIds_enough linked ended) with
    ⟨collected, isCollected⟩
  unfold NoWayBack
  dsimp only
  rw [isCollected, Option.getD_some, mem_collectSubgroupIds isCollected, reflTransGen_iff_eq_or_transGen,
    not_or, ne_comm]

theorem step_linked (linked : Linked api) (accepted : request.step api = some later) :
    Linked later := by
  cases request with
  | create body => exact (create_stays linked (toOption_eq_some.mp accepted)).linked
  | update name displayName =>
      exact (update_stays linked (toOption_eq_some.mp accepted)).linked
  | link name child weight => exact linked_link linked (toOption_eq_some.mp accepted)
  | unlink name child =>
      exact (unlink_stays linked (toOption_eq_some.mp accepted)).linked
  | delete name => exact (delete_stays linked accepted).linked

theorem step_hierarchical_iff (linked : Linked api) (hierarchical : Hierarchical api)
    (accepted : request.step api = some later) : Hierarchical later ↔ NoWayBack api request := by
  have laterLinked := step_linked linked accepted
  have enough : Hierarchical later ↔ Graph.Acyclic (Subgroup later) :=
    ⟨Hierarchical.acyclic, hierarchical_of_acyclic laterLinked⟩
  have stays : StaysAcyclic api later -> (Hierarchical later ↔ True) := fun stays =>
    iff_true_intro (enough.mpr (stays.acyclic hierarchical.acyclic))
  cases request with
  | create body => exact stays (create_stays linked (toOption_eq_some.mp accepted))
  | update name displayName =>
      exact stays (update_stays linked (toOption_eq_some.mp accepted))
  | link name child weight =>
      exact enough.trans (link_acyclic_iff linked hierarchical (toOption_eq_some.mp accepted))
  | unlink name child =>
      exact stays (unlink_stays linked (toOption_eq_some.mp accepted))
  | delete name => exact stays (delete_stays linked accepted)

/-- The groups are a hierarchy throughout a run exactly if every accepted link has a
parent that is neither its child nor below it. -/
theorem always_hierarchical_iff {api final : Api} {requests : List AssetGroupRequest}
    (linked : Linked api) (hierarchical : Hierarchical api)
    (ran : TransitionSystem.exec AssetGroupRequest.step api requests = some final) :
    TransitionSystem.Always AssetGroupRequest.step Hierarchical api requests ↔
      TransitionSystem.Along AssetGroupRequest.step NoWayBack api requests :=
  TransitionSystem.always_iff_along_of_invariant
    (fun _ _ _ linked stepped => step_linked linked stepped)
    (fun _ _ _ linked hierarchical stepped => step_hierarchical_iff linked hierarchical stepped)
    linked hierarchical ran

theorem empty_linked : Linked Api.empty :=
  fun _ _ impossible => absurd impossible List.not_mem_nil

theorem empty_hierarchical : Hierarchical Api.empty := by
  refine hierarchical_of_acyclic empty_linked fun name cycle => ?_
  rcases TransGen.head'_iff.mp cycle with ⟨_, impossible, _⟩
  exact absurd impossible List.not_mem_nil

def regionRequests : List AssetGroupRequest :=
  [.create { name := "cluster" }, .create { name := "region", subgroups := [("cluster", none)] },
    .create { name := "site" }, .link "region" "site" none]

theorem region_hierarchical :
    TransitionSystem.Always AssetGroupRequest.step Hierarchical Api.empty regionRequests := by
  have accepted : (TransitionSystem.exec AssetGroupRequest.step Api.empty
      regionRequests).isSome = true := by decide +kernel
  rcases Option.isSome_iff_exists.mp accepted with ⟨final, ran⟩
  exact (always_hierarchical_iff empty_linked empty_hierarchical ran).mpr (by decide +kernel)

def regionCycle : List AssetGroupRequest :=
  regionRequests ++ [.link "cluster" "region" none]

/-- The two groups are below each other, so that neither of them is at the top. -/
theorem cycle_not_hierarchical : Exists fun final =>
    TransitionSystem.exec AssetGroupRequest.step Api.empty regionCycle = some final ∧
      ¬ TransitionSystem.Always AssetGroupRequest.step Hierarchical Api.empty regionCycle := by
  have accepted : ((TransitionSystem.exec AssetGroupRequest.step Api.empty regionCycle).map
      fun final => (subgroupIds final "region", subgroupIds final "cluster")) =
      some (["cluster", "site"], ["region"]) := by decide +kernel
  rcases Option.map_eq_some_iff.mp accepted with ⟨final, ran, links⟩
  refine ⟨final, ran, fun always => ?_⟩
  have hierarchical := always regionCycle [] final (List.append_nil _).symm ran
  rcases Prod.mk.inj links with ⟨below, above⟩
  have down : Subgroup final "region" "cluster" := by
    unfold Subgroup
    rw [below]
    exact List.mem_cons_self
  have up : Subgroup final "cluster" "region" := by
    unfold Subgroup
    rw [above]
    exact List.mem_cons_self
  exact hierarchical.acyclic "region" ((TransGen.single down).tail up)

end Catalog
end Tropek
