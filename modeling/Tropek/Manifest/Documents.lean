import Tropek.Library.Latest
import Tropek.Registry.Definitions

namespace Tropek
namespace Manifest

open Library Engine

/-!
# Manifest documents

A manifest is a list of documents, each of which describes one entity of the
API.  A document is a dictionary that a file was parsed to, so every key of it may
be left out, or set to null; which of the two it is matters where the code reads
the key with a default.

Documents are sorted by kind before they are applied, so that a document comes after
those that it refers to.  A table of dependencies between the kinds says what is not
applied any more once a document has failed.
-/

inductive Kind where
  | assetType
  | dataSource
  | asset
  | sli
  | slo
  | assetGroup
  | sloGroup
  | sloDisplayGroup
  | sloAssignment
  | sloGroupAssignment
  | metaSnapshot
deriving DecidableEq, Repr

def kindOrder : List Kind :=
  [.assetType, .dataSource, .asset, .sli, .slo, .assetGroup, .sloGroup, .sloDisplayGroup,
    .sloAssignment, .sloGroupAssignment, .metaSnapshot]

def Kind.sortKey (kind : Kind) : Nat :=
  kindOrder.idxOf kind

def kindDeps : Kind -> List Kind
  | .assetType => [.asset]
  | .dataSource => [.sloAssignment, .sloGroupAssignment]
  | .asset => [.assetGroup, .sloAssignment, .sloGroupAssignment, .metaSnapshot]
  | .slo => [.sloAssignment, .sloGroup, .sloDisplayGroup]
  | .assetGroup => [.sloAssignment, .sloGroupAssignment]
  | .sloGroup => [.sloGroupAssignment]
  | .sli | .sloDisplayGroup | .sloAssignment | .sloGroupAssignment | .metaSnapshot => []

/-- The loop of `_dependents_of`.  The fuel bounds the number of kinds that are
taken from the stack. -/
def visitDependents : Nat -> List Kind -> List Kind -> List Kind
  | 0, _, found => found
  | _ + 1, [], found => found
  | fuel + 1, kind :: stack, found =>
      let new := (kindDeps kind).filter fun dep => !found.contains dep
      visitDependents fuel (new.reverse ++ stack) (found ++ new)

/-- `_dependents_of`: no kind is on the stack twice, so the fuel is enough. -/
def dependentsOf (kind : Kind) : List Kind :=
  visitDependents (kindOrder.length + 1) [kind] []

theorem kindDeps_subset (kind dep : Kind) (depends : dep ∈ kindDeps kind) :
    dep ∈ dependentsOf kind := by
  revert depends dep
  cases kind <;> decide +kernel

theorem dependentsOf_closed (kind dep further : Kind) (found : dep ∈ dependentsOf kind)
    (depends : further ∈ kindDeps dep) : further ∈ dependentsOf kind := by
  have closed : forall dep, dep ∈ dependentsOf kind ->
      forall further, further ∈ kindDeps dep -> further ∈ dependentsOf kind := by
    cases kind <;> decide +kernel
  exact closed dep found further depends

inductive Setting (α : Type) where
  | leftOut
  | null
  | value (given : α)

namespace Setting

variable {α : Type}

/-- `.get(key)`. -/
def get : Setting α -> Option α
  | .value given => some given
  | .leftOut | .null => none

def getOr (default : α) : Setting α -> Option α
  | .value given => some given
  | .leftOut => some default
  | .null => none

end Setting

structure AssetTypeSpec where
  isDefault : Setting Bool := .leftOut

structure DataSourceSpec where
  adapterType : Setting String := .leftOut
  adapterUrl : Setting String := .leftOut
  displayName : Setting String := .leftOut
  tags : Setting (Dict String) := .leftOut

structure AssetSpec where
  typeName : Setting String := .leftOut
  displayName : Setting String := .leftOut
  tags : Setting (Dict String) := .leftOut
  vars : Setting (Dict String) := .leftOut

structure SLISpec where
  indicators : Setting (Dict String) := .leftOut
  adapterType : Setting String := .leftOut
  displayName : Setting String := .leftOut
  notes : Setting String := .leftOut
  author : Setting String := .leftOut
  mode : Setting String := .leftOut
  queryTemplate : Setting String := .leftOut
  interval : Setting String := .leftOut
  methods : Setting (List String) := .leftOut

structure ChangePointSpec where
  enabled : Setting Bool := .leftOut
  higherIsBetter : Setting Bool := .leftOut
  windowSize : Setting Int := .leftOut
  maxPvalue : Setting ℚ := .leftOut
  minMagnitude : Setting ℚ := .leftOut
  minSampleSize : Setting Int := .leftOut

structure ObjectiveSpec where
  sli : Setting String := .leftOut
  displayName : Setting String := .leftOut
  passThreshold : Setting (List String) := .leftOut
  warningThreshold : Setting (List String) := .leftOut
  weight : Setting Int := .leftOut
  keySli : Setting Bool := .leftOut
  changePoint : Setting ChangePointSpec := .leftOut

structure TotalScoreSpec where
  passThreshold : Setting ℚ := .leftOut
  warningThreshold : Setting ℚ := .leftOut

structure ComparisonSpec where
  compareWith : Setting String := .leftOut
  includeResultWithScore : Setting String := .leftOut
  numberOfComparisonResults : Setting Int := .leftOut
  aggregateFunction : Setting String := .leftOut
  scopeTags : Setting (List String) := .leftOut

structure MethodCriteriaSpec where
  method : Setting String := .leftOut
  aggregation : Setting String := .leftOut
  passThreshold : Setting (List String) := .leftOut
  warningThreshold : Setting (List String) := .leftOut
  weight : Setting Int := .leftOut
  keySli : Setting Bool := .leftOut

structure SLOSpec where
  objectives : Setting (List ObjectiveSpec) := .leftOut
  totalScore : Setting TotalScoreSpec := .leftOut
  comparison : Setting ComparisonSpec := .leftOut
  displayName : Setting String := .leftOut
  notes : Setting String := .leftOut
  author : Setting String := .leftOut
  sliName : Setting String := .leftOut
  sliVersion : Setting Int := .leftOut
  kind : Setting String := .leftOut
  vars : Setting (Dict String) := .leftOut
  methodCriteria : Setting (Dict MethodCriteriaSpec) := .leftOut

structure MemberSpec where
  assetName : String
  weight : Setting ℚ := .leftOut

structure SubgroupSpec where
  groupName : String
  weight : Setting ℚ := .leftOut

structure AssetGroupSpec where
  displayName : Setting String := .leftOut
  members : Setting (List MemberSpec) := .leftOut
  subgroups : Setting (List SubgroupSpec) := .leftOut

structure SLOGroupSpec where
  templateSloName : Setting String := .leftOut
  templateSloVersion : Setting Int := .leftOut
  genVariables : Setting (Dict (List String)) := .leftOut
  displayName : Setting String := .leftOut
  tags : Setting (Dict String) := .leftOut
  author : Setting String := .leftOut

structure DisplayGroupSpec where
  displayName : Setting String := .leftOut
  parentName : Setting String := .leftOut
  sortOrder : Setting Int := .leftOut
  members : Setting (List String) := .leftOut

structure SLOAssignmentSpec where
  targetType : Setting String := .leftOut
  targetName : Setting String := .leftOut
  sloName : Setting String := .leftOut
  dataSourceName : Setting String := .leftOut

structure SLOGroupAssignmentSpec where
  targetType : Setting String := .leftOut
  targetName : Setting String := .leftOut
  sloGroupName : Setting String := .leftOut
  dataSourceName : Setting String := .leftOut

structure MetaValue where
  labelPath : List String
  value : String
deriving DecidableEq, Repr

structure SnapshotSpec where
  source : String
  observedAt : Int
  values : Setting (List MetaValue) := .leftOut
  closed : Setting (List (List String)) := .leftOut

structure MetaSnapshotSpec where
  asset : String
  snapshots : Setting (List SnapshotSpec) := .leftOut

inductive Spec where
  | assetType (spec : AssetTypeSpec)
  | dataSource (spec : DataSourceSpec)
  | asset (spec : AssetSpec)
  | sli (spec : SLISpec)
  | slo (spec : SLOSpec)
  | assetGroup (spec : AssetGroupSpec)
  | sloGroup (spec : SLOGroupSpec)
  | sloDisplayGroup (spec : DisplayGroupSpec)
  | sloAssignment (spec : SLOAssignmentSpec)
  | sloGroupAssignment (spec : SLOGroupAssignmentSpec)
  | metaSnapshot (spec : MetaSnapshotSpec)

def Spec.kind : Spec -> Kind
  | .assetType _ => .assetType
  | .dataSource _ => .dataSource
  | .asset _ => .asset
  | .sli _ => .sli
  | .slo _ => .slo
  | .assetGroup _ => .assetGroup
  | .sloGroup _ => .sloGroup
  | .sloDisplayGroup _ => .sloDisplayGroup
  | .sloAssignment _ => .sloAssignment
  | .sloGroupAssignment _ => .sloGroupAssignment
  | .metaSnapshot _ => .metaSnapshot

/-- A document of a manifest; its kind is the kind of its specification.  `name`: the
name in the metadata, or the asset there. -/
structure ManifestDocument where
  name : String
  spec : Spec

def ManifestDocument.kind (doc : ManifestDocument) : Kind :=
  doc.spec.kind

def Sorted (docs : List ManifestDocument) : Prop :=
  docs.Pairwise fun first second => first.kind.sortKey ≤ second.kind.sortKey

/-- `_topological_sort`, with which `load_manifests` ends: the documents in the order of
their kinds, those of one kind in the order of the files. -/
def topologicalSort (docs : List ManifestDocument) : List ManifestDocument :=
  Latest.sortBy (fun doc => doc.kind.sortKey) docs

theorem topologicalSort_sorted (docs : List ManifestDocument) : Sorted (topologicalSort docs) :=
  Latest.sortBy_pairwise _ docs

theorem topologicalSort_filter (docs : List ManifestDocument) (kind : Kind) :
    (topologicalSort docs).filter (·.kind = kind) = docs.filter (·.kind = kind) := by
  unfold topologicalSort Latest.sortBy
  rw [Latest.filter_insertionSort]
  refine List.Pairwise.insertionSort_eq (List.pairwise_of_forall_mem_list ?_)
  intro first firstListed second secondListed
  have firstKind := of_decide_eq_true (List.mem_filter.mp firstListed).2
  have secondKind := of_decide_eq_true (List.mem_filter.mp secondListed).2
  exact (congrArg Kind.sortKey (firstKind.trans secondKind.symm)).le

end Manifest
end Tropek
