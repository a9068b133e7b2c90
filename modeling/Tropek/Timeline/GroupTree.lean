import Mathlib.Data.List.Dedup
import Tropek.Timeline.Rendering

namespace Tropek
namespace Timeline

/-!
# The tree of the rows

The rows of a timeline are the paths of its items and their ancestors.  A row
lists its immediate children, so the rows make a forest.  The list is sorted by
the depth of the paths, which puts every row before its children, and since no
two paths have the same name the client can tell the rows apart by their names.
-/

def TimelineGroup.nestedIds (group : TimelineGroup) : List String :=
  group.nestedGroups.getD []

structure GroupTree (groups : List TimelineGroup) (items : List TimelineItem) : Prop where
  named : forall group, group ∈ groups ->
    Exists fun path : LabelPath => path ≠ [] ∧ group.id = encodePathAsGroupId path
  distinct : (groups.map (·.id)).Nodup
  item_row : forall item, item ∈ items -> item.group ∈ groups.map (·.id)
  nested_row : forall group, group ∈ groups -> forall id, id ∈ group.nestedIds ->
    id ∈ groups.map (·.id)
  nested_once : forall path : LabelPath, 1 < path.length ->
    encodePathAsGroupId path ∈ groups.map (·.id) ->
    (groups.flatMap (·.nestedIds)).count (encodePathAsGroupId path) = 1 ∧
      Exists fun parent => parent ∈ groups ∧ parent.id = encodePathAsGroupId path.dropLast ∧
        encodePathAsGroupId path ∈ parent.nestedIds
  children_after : forall before group after, groups = before ++ group :: after ->
    forall id, id ∈ group.nestedIds -> id ∈ after.map (·.id)

variable {path child : LabelPath} {paths : List LabelPath} {spans : List ClippedSpan}

theorem mem_expandWithSyntheticAncestors :
    path ∈ expandWithSyntheticAncestors paths ↔
      path ≠ [] ∧ Exists fun leaf => leaf ∈ paths ∧ path <+: leaf := by
  unfold expandWithSyntheticAncestors
  rw [List.mem_dedup, List.mem_flatMap]
  constructor
  · rintro ⟨leaf, member, listed⟩
    rcases List.mem_map.mp listed with ⟨length, inside, rfl⟩
    have positive : 0 < leaf.length := lt_of_le_of_lt (Nat.zero_le _) (List.mem_range.mp inside)
    refine ⟨?_, leaf, member, List.take_prefix _ _⟩
    simp only [ne_eq, List.take_eq_nil_iff, not_or]
    exact ⟨Nat.succ_ne_zero _, List.ne_nil_of_length_pos positive⟩
  · rintro ⟨nonempty, leaf, member, initial⟩
    have positive : 0 < path.length := List.length_pos_of_ne_nil nonempty
    refine ⟨leaf, member, List.mem_map.mpr ⟨path.length - 1, ?_, ?_⟩⟩
    · apply List.mem_range.mpr
      have shorter := initial.length_le
      omega
    · rw [Nat.sub_add_cancel positive]
      exact (List.prefix_iff_eq_take.mp initial).symm

theorem dropLast_mem_expand (member : path ∈ expandWithSyntheticAncestors paths)
    (deep : 1 < path.length) : path.dropLast ∈ expandWithSyntheticAncestors paths := by
  rcases mem_expandWithSyntheticAncestors.mp member with ⟨_, leaf, isLeaf, initial⟩
  refine mem_expandWithSyntheticAncestors.mpr
    ⟨?_, leaf, isLeaf, (List.dropLast_prefix path).trans initial⟩
  apply List.ne_nil_of_length_pos
  rw [List.length_dropLast]
  omega

theorem mem_childrenOf :
    child ∈ childrenOf paths path ↔ child ∈ paths ∧ 1 < child.length ∧ child.dropLast = path := by
  simp [childrenOf]

theorem children_nodup {parents : List LabelPath} (distinct : paths.Nodup)
    (distinctParents : parents.Nodup) :
    (parents.flatMap fun path => (childrenOf paths path).insertionSort (· ≤ ·)).Nodup := by
  rw [List.nodup_flatMap]
  constructor
  · intro path _
    exact (List.perm_insertionSort _ _).nodup_iff.mpr (distinct.filter _)
  · refine distinctParents.imp ?_
    intro first second different child ofFirst ofSecond
    rw [List.mem_insertionSort, mem_childrenOf] at ofFirst ofSecond
    exact different (ofFirst.2.2.symm.trans ofSecond.2.2)

theorem mem_sortGroups : path ∈ sortGroupsDeterministically paths ↔ path ∈ paths :=
  List.mem_insertionSort _

theorem sortGroups_lengths (paths : List LabelPath) :
    (sortGroupsDeterministically paths).Pairwise fun first second =>
      first.length ≤ second.length := by
  have sorted := List.pairwise_insertionSort
    (fun first second : LabelPath => toLex (first.length, first) ≤ toLex (second.length, second)) paths
  refine sorted.imp ?_
  intro first second ordered
  rcases Prod.Lex.toLex_le_toLex.mp ordered with shorter | sameLength
  · exact shorter.le
  · exact sameLength.1.le

theorem longer_after {before after : List LabelPath}
    (sorted : paths.Pairwise fun first second => first.length ≤ second.length)
    (split : paths = before ++ path :: after) (member : child ∈ paths)
    (longer : path.length < child.length) : child ∈ after := by
  subst split
  rcases List.mem_append.mp member with early | late
  · have ordered := (List.pairwise_append.mp sorted).2.2 child early path List.mem_cons_self
    omega
  · rcases List.mem_cons.mp late with rfl | here
    · exact absurd longer (lt_irrefl _)
    · exact here

def groupPaths (spans : List ClippedSpan) : List LabelPath :=
  sortGroupsDeterministically (expandWithSyntheticAncestors (collectDistinctPaths spans))

theorem mem_groupPaths :
    path ∈ groupPaths spans ↔
      path ≠ [] ∧ Exists fun span => span ∈ spans ∧ path <+: span.labelPath := by
  rw [groupPaths, mem_sortGroups, mem_expandWithSyntheticAncestors]
  simp [collectDistinctPaths]

theorem groupPaths_nodup (spans : List ClippedSpan) : (groupPaths spans).Nodup :=
  (List.perm_insertionSort _ _).nodup_iff.mpr (List.nodup_dedup _)

theorem mem_childrenOf_groupPaths :
    child ∈ childrenOf (expandWithSyntheticAncestors (collectDistinctPaths spans)) path ↔
      child ∈ groupPaths spans ∧ 1 < child.length ∧ child.dropLast = path := by
  rw [mem_childrenOf, groupPaths, mem_sortGroups]

def rowOf (spans : List ClippedSpan) (path : LabelPath) : TimelineGroup :=
  buildGroupEntry path
    (childrenOf (expandWithSyntheticAncestors (collectDistinctPaths spans)) path)

theorem buildGroupsWire_eq (spans : List ClippedSpan) :
    buildGroupsWire spans = (groupPaths spans).map (rowOf spans) := rfl

theorem rowOf_id (spans : List ClippedSpan) (path : LabelPath) :
    (rowOf spans path).id = encodePathAsGroupId path := rfl

theorem buildGroupsWire_ids (spans : List ClippedSpan) :
    (buildGroupsWire spans).map (·.id) = (groupPaths spans).map encodePathAsGroupId := by
  rw [buildGroupsWire_eq, List.map_map]
  rfl

theorem buildGroupEntry_nestedIds (path : LabelPath) (children : List LabelPath) :
    (buildGroupEntry path children).nestedIds =
      (children.insertionSort (· ≤ ·)).map encodePathAsGroupId := by
  unfold TimelineGroup.nestedIds buildGroupEntry
  cases children with
  | nil => rfl
  | cons child others => rfl

theorem mem_nestedIds {id : String} :
    id ∈ (rowOf spans path).nestedIds ↔
      Exists fun child => child ∈ groupPaths spans ∧ 1 < child.length ∧ child.dropLast = path ∧
        encodePathAsGroupId child = id := by
  unfold rowOf
  simp only [buildGroupEntry_nestedIds, List.mem_map, List.mem_insertionSort,
    mem_childrenOf_groupPaths, and_assoc]

theorem encode_mem_ids :
    encodePathAsGroupId path ∈ (buildGroupsWire spans).map (·.id) ↔ path ∈ groupPaths spans := by
  rw [buildGroupsWire_ids]
  constructor
  · intro named
    rcases List.mem_map.mp named with ⟨other, member, same⟩
    exact encodePathAsGroupId_injective same ▸ member
  · exact List.mem_map_of_mem

theorem nestedIds_flatMap (spans : List ClippedSpan) :
    (buildGroupsWire spans).flatMap (·.nestedIds) =
      ((groupPaths spans).flatMap fun path =>
        (childrenOf (expandWithSyntheticAncestors (collectDistinctPaths spans)) path).insertionSort
          (· ≤ ·)).map encodePathAsGroupId := by
  rw [buildGroupsWire_eq, List.flatMap_map, List.map_flatMap]
  congr 1
  funext path
  exact buildGroupEntry_nestedIds _ _

theorem nested_count (deep : 1 < path.length) (member : path ∈ groupPaths spans) :
    ((buildGroupsWire spans).flatMap (·.nestedIds)).count (encodePathAsGroupId path) = 1 ∧
      path.dropLast ∈ groupPaths spans ∧
        encodePathAsGroupId path ∈ (rowOf spans path.dropLast).nestedIds := by
  have parentListed : path.dropLast ∈ groupPaths spans :=
    mem_sortGroups.mpr (dropLast_mem_expand (mem_sortGroups.mp member) deep)
  have nested : encodePathAsGroupId path ∈ (rowOf spans path.dropLast).nestedIds :=
    mem_nestedIds.mpr ⟨path, member, deep, rfl, rfl⟩
  refine ⟨List.count_eq_one_of_mem ?_ ?_, parentListed, nested⟩
  · rw [nestedIds_flatMap]
    exact (children_nodup (List.nodup_dedup _) (groupPaths_nodup spans)).map
      fun _ _ => encodePathAsGroupId_injective
  · refine List.mem_flatMap.mpr ⟨rowOf spans path.dropLast, ?_, nested⟩
    exact List.mem_map_of_mem parentListed

theorem nested_after {before after : List TimelineGroup} {group : TimelineGroup}
    (split : buildGroupsWire spans = before ++ group :: after) {id : String}
    (nested : id ∈ group.nestedIds) : id ∈ after.map (·.id) := by
  rw [buildGroupsWire_eq] at split
  rcases List.map_eq_append_iff.mp split with ⟨early, rest, paths, _, behind⟩
  rcases List.map_eq_cons_iff.mp behind with ⟨path, late, isRest, rfl, rfl⟩
  rcases mem_nestedIds.mp nested with ⟨child, member, deep, isParent, rfl⟩
  have longer : path.length < child.length := by
    rw [<- isParent, List.length_dropLast]
    omega
  rw [isRest] at paths
  have here := longer_after (sortGroups_lengths _) paths member longer
  exact List.mem_map.mpr ⟨rowOf spans child, List.mem_map_of_mem here, rowOf_id spans child⟩

/-- Distinct paths have distinct names, and the rows of a response make a forest
in which every item has its row. -/
theorem buildGroupsWire_tree (spans : List ClippedSpan)
    (nonempty : forall span, span ∈ spans -> span.labelPath ≠ []) :
    (forall first second : LabelPath, first ≠ second ->
        encodePathAsGroupId first ≠ encodePathAsGroupId second) ∧
      GroupTree (buildGroupsWire spans) (buildItemsWire spans) := by
  refine ⟨fun first second => mt encodePathAsGroupId_injective, ?_, ?_, ?_, ?_, ?_, ?_⟩
  · intro group member
    rcases List.mem_map.mp member with ⟨path, listed, rfl⟩
    exact ⟨path, (mem_groupPaths.mp listed).1, rowOf_id spans path⟩
  · rw [buildGroupsWire_ids]
    exact (groupPaths_nodup spans).map fun _ _ => encodePathAsGroupId_injective
  · intro item member
    rcases List.mem_map.mp member with ⟨indexed, inside, rfl⟩
    have isSpan : indexed.1 ∈ spans := List.fst_mem_of_mem_zipIdx inside
    exact encode_mem_ids.mpr
      (mem_groupPaths.mpr ⟨nonempty _ isSpan, indexed.1, isSpan, List.prefix_refl _⟩)
  · intro group member id nested
    rcases List.mem_map.mp member with ⟨path, _, rfl⟩
    rcases mem_nestedIds.mp nested with ⟨child, listed, _, _, rfl⟩
    exact encode_mem_ids.mpr listed
  · intro path deep named
    have counted := nested_count deep (encode_mem_ids.mp named)
    exact ⟨counted.1, rowOf spans path.dropLast, List.mem_map_of_mem counted.2.1,
      rowOf_id spans _, counted.2.2⟩
  · intro before group after split id nested
    exact nested_after split nested

def nestedSpan : ClippedSpan :=
  { source := "pkg", labelPath := ["app-A", "say \"hi\"", "alpha"], value := "1.0", start := 0,
    stop := 10, className := "meta-span" }

theorem nestedSpan_tree :
    (forall first second : LabelPath, first ≠ second ->
        encodePathAsGroupId first ≠ encodePathAsGroupId second) ∧
      GroupTree (buildGroupsWire [nestedSpan]) (buildItemsWire [nestedSpan]) :=
  buildGroupsWire_tree [nestedSpan] (by
    intro span member
    rw [List.mem_singleton.mp member]
    decide)

end Timeline
end Tropek
