import Tropek.Library.DistinctOn
import Tropek.Catalog.Agreement

namespace Tropek
namespace Catalog

open Library Manifest
open Engine (Dict)

/-!
# Which assignment counts

An asset gets an SLO from four places: it is assigned to the asset or to one of its
groups, or an SLO group that generates it is assigned to the asset or to one of its
groups.  `resolve_for_asset` puts the four selections together and keeps one row for each
name, the first one of the highest place.

Nothing in the order of the rows separates two rows of one place.  Each regeneration of
an SLO group leaves the earlier versions active, so that such rows are the rule there
and not the exception.
-/

inductive Source where
  | directAsset
  | directGroup
  | templateAsset
  | templateGroup
deriving DecidableEq, Repr

def Source.rank : Source -> Int
  | .directAsset => 4
  | .directGroup => 3
  | .templateAsset => 2
  | .templateGroup => 1

def Source.isTemplate : Source -> Bool
  | .directAsset | .directGroup => false
  | .templateAsset | .templateGroup => true

theorem Source.rank_injective : Function.Injective Source.rank := by
  intro first second same
  cases first <;> cases second <;> first | rfl | cases same

structure ResolvedAssignment (Rules : Type) where
  sloName : String
  sloDefinition : String × Int
  dataSource : String
  comparisonRules : Option Rules
  source : Source
deriving DecidableEq, Repr

/-- An asset with the groups that it is resolved for, and the comparison rules of the
assignments, a column that nothing looks into here. -/
structure Resolution (Rules : Type) where
  asset : String
  groups : List String
  comparisonRules : SLOAssignment -> Option Rules

variable {Rules : Type}

def Resolution.selects (resolution : Resolution Rules) : Source -> Target -> Bool
  | .directAsset, target | .templateAsset, target => target = .asset resolution.asset
  | .directGroup, target | .templateGroup, target =>
      (resolution.groups.map Target.assetGroup).contains target

def Resolution.direct (resolution : Resolution Rules) (api : Api) (source : Source) :
    List (ResolvedAssignment Rules) :=
  (api.sloAssignments.rows.filter fun row => resolution.selects source row.target).filterMap
    fun row => (api.slos.find row.sloDefinition).map fun slo =>
      { sloName := slo.name
        sloDefinition := slo.key
        dataSource := row.dataSource
        comparisonRules := resolution.comparisonRules row
        source }

/-- An assignment of an SLO group, joined with the group, if it is active, and with the
active SLOs that it has generated. -/
def Resolution.template (resolution : Resolution Rules) (api : Api) (source : Source) :
    List (ResolvedAssignment Rules) :=
  (api.groupAssignments.rows.filter fun row => resolution.selects source row.target).flatMap
    fun row => ((api.sloGroups.find row.sloGroupId).filter SLOGroup.active).elim [] fun group =>
      (api.generatedSlos group.id).map fun slo =>
        { sloName := slo.name
          sloDefinition := slo.key
          dataSource := row.dataSource
          comparisonRules := none
          source }

def Resolution.offers (resolution : Resolution Rules) (api : Api) (source : Source) :
    List (ResolvedAssignment Rules) :=
  if source.isTemplate then resolution.template api source else resolution.direct api source

/-- `UNION ALL` of the selections. -/
def Resolution.allAssignments (resolution : Resolution Rules) (api : Api) :
    List (ResolvedAssignment Rules) :=
  [Source.directAsset, .directGroup, .templateAsset, .templateGroup].flatMap
    (resolution.offers api)

/-- `resolve_for_asset`, on the rows in the order in which the database has them. -/
def resolveForAsset (rows : List (ResolvedAssignment Rules)) : List (ResolvedAssignment Rules) :=
  DistinctOn.distinctOn (· ≤ ·) ResolvedAssignment.sloName (fun row => row.source.rank) rows

variable {api : Api} {resolution : Resolution Rules} {row : ResolvedAssignment Rules}

theorem source_of_offers {source : Source} (offered : row ∈ resolution.offers api source) :
    row.source = source := by
  unfold Resolution.offers at offered
  split at offered
  · unfold Resolution.template at offered
    rcases List.mem_flatMap.mp offered with ⟨assigned, _, generated⟩
    cases found : (api.sloGroups.find assigned.sloGroupId).filter SLOGroup.active with
    | none =>
        rw [found] at generated
        exact absurd generated List.not_mem_nil
    | some group =>
        rw [found] at generated
        rcases List.mem_map.mp generated with ⟨slo, _, same⟩
        rw [<- same]
  · unfold Resolution.direct at offered
    rcases List.mem_filterMap.mp offered with ⟨assigned, _, joined⟩
    rcases Option.map_eq_some_iff.mp joined with ⟨slo, _, same⟩
    rw [<- same]

theorem mem_allAssignments :
    row ∈ resolution.allAssignments api ↔ row ∈ resolution.offers api row.source := by
  unfold Resolution.allAssignments
  rw [List.mem_flatMap]
  constructor
  · rintro ⟨source, _, offered⟩
    rw [source_of_offers offered]
    exact offered
  · intro offered
    refine ⟨row.source, ?_, offered⟩
    cases row.source <;> decide

/-- One row for each name that is offered, from the highest place that offers it; from a
template the highest active version; and the same rows in every order of the union. -/
structure WellDefined (resolution : Resolution Rules) (api : Api) : Prop where
  oneEach : forall order : List (ResolvedAssignment Rules),
    order.Perm (resolution.allAssignments api) ->
      ((resolveForAsset order).map ResolvedAssignment.sloName).Nodup ∧
        forall name, name ∈ (resolveForAsset order).map ResolvedAssignment.sloName ↔
          Exists fun row => row ∈ resolution.allAssignments api ∧ row.sloName = name
  foremost : forall order : List (ResolvedAssignment Rules),
    order.Perm (resolution.allAssignments api) -> forall row, row ∈ resolveForAsset order ->
      row ∈ resolution.allAssignments api ∧
        forall other, other ∈ resolution.allAssignments api -> other.sloName = row.sloName ->
          other.source.rank ≤ row.source.rank
  latest : forall order : List (ResolvedAssignment Rules),
    order.Perm (resolution.allAssignments api) -> forall row, row ∈ resolveForAsset order ->
      row.source.isTemplate = true ->
        (api.latestSlo row.sloName).map SLO.key = some row.sloDefinition
  stable : forall order : List (ResolvedAssignment Rules),
    order.Perm (resolution.allAssignments api) ->
      resolveForAsset order = resolveForAsset (resolution.allAssignments api)

def Resolution.Decides (resolution : Resolution Rules) (api : Api) (source : Source)
    (name : String) : Prop :=
  forall higher : Source, source.rank < higher.rank ->
    forall row, row ∈ resolution.offers api higher -> row.sloName ≠ name

/-- What the place that decides on a name offers for it is one definition with one data
source and one set of rules, and a template offers no other version than the highest
active one. -/
structure Unambiguous (resolution : Resolution Rules) (api : Api) : Prop where
  alike : forall source first second, first ∈ resolution.offers api source ->
    second ∈ resolution.offers api source -> first.sloName = second.sloName ->
    resolution.Decides api source first.sloName -> first = second
  current : forall source row, source.isTemplate = true -> row ∈ resolution.offers api source ->
    resolution.Decides api source row.sloName ->
    (api.latestSlo row.sloName).map SLO.key = some row.sloDefinition

theorem foremost_iff_decides :
    DistinctOn.Foremost ResolvedAssignment.sloName (fun row => row.source.rank)
        (resolution.allAssignments api) row ↔
      resolution.Decides api row.source row.sloName := by
  constructor
  · intro foremost higher above other offered same
    have place := source_of_offers offered
    have listed : other ∈ resolution.allAssignments api := by
      rw [mem_allAssignments, place]
      exact offered
    have below : other.source.rank ≤ row.source.rank := foremost other listed same
    rw [place] at below
    exact absurd above (not_lt.mpr below)
  · intro decides other listed same
    by_contra above
    exact decides other.source (not_le.mp above) other (mem_allAssignments.mp listed) same

theorem source_of_foremost {rows : List (ResolvedAssignment Rules)}
    {first second : ResolvedAssignment Rules} (firstIn : first ∈ rows) (secondIn : second ∈ rows)
    (named : first.sloName = second.sloName)
    (firstForemost : DistinctOn.Foremost ResolvedAssignment.sloName (fun row => row.source.rank)
      rows first)
    (secondForemost : DistinctOn.Foremost ResolvedAssignment.sloName (fun row => row.source.rank)
      rows second) : first.source = second.source :=
  Source.rank_injective (le_antisymm (secondForemost first firstIn named)
    (firstForemost second secondIn named.symm))

/-- The rows of the union are decided exactly when each place that decides on a name
offers one row for it. -/
theorem decided_iff_alike (resolution : Resolution Rules) (api : Api) :
    DistinctOn.Decided ResolvedAssignment.sloName (fun row => row.source.rank)
        (resolution.allAssignments api) ↔
      forall source first second, first ∈ resolution.offers api source ->
        second ∈ resolution.offers api source -> first.sloName = second.sloName ->
        resolution.Decides api source first.sloName -> first = second := by
  constructor
  · intro decided source first second firstIn secondIn named decides
    have firstPlace := source_of_offers firstIn
    have secondPlace := source_of_offers secondIn
    refine decided first second ?_ ?_ named ?_ ?_
    · rw [mem_allAssignments, firstPlace]
      exact firstIn
    · rw [mem_allAssignments, secondPlace]
      exact secondIn
    · rw [foremost_iff_decides, firstPlace]
      exact decides
    · rw [foremost_iff_decides, secondPlace, <- named]
      exact decides
  · intro alike first second firstIn secondIn named firstForemost secondForemost
    have place := source_of_foremost firstIn secondIn named firstForemost secondForemost
    refine alike first.source first second (mem_allAssignments.mp firstIn) ?_ named
      (foremost_iff_decides.mp firstForemost)
    rw [place]
    exact mem_allAssignments.mp secondIn

section Kept

variable {resolution : Resolution Rules} {api : Api} {order : List (ResolvedAssignment Rules)}

theorem kept_foremost (perm : order.Perm (resolution.allAssignments api))
    {row : ResolvedAssignment Rules} (kept : row ∈ resolveForAsset order) :
    row ∈ resolution.allAssignments api ∧
      DistinctOn.Foremost ResolvedAssignment.sloName (fun row => row.source.rank)
        (resolution.allAssignments api) row := by
  have chosen := DistinctOn.top_eq_some (DistinctOn.mem_distinctOn.mp kept)
  exact ⟨perm.mem_iff.mp chosen.1, (DistinctOn.foremost_perm perm row).mp chosen.2.2⟩

theorem kept_names (perm : order.Perm (resolution.allAssignments api)) :
    ((resolveForAsset order).map ResolvedAssignment.sloName).Nodup ∧
      forall name, name ∈ (resolveForAsset order).map ResolvedAssignment.sloName ↔
        Exists fun row => row ∈ resolution.allAssignments api ∧ row.sloName = name := by
  have named : (resolveForAsset order).map ResolvedAssignment.sloName =
      DistinctOn.names (· ≤ ·) ResolvedAssignment.sloName order :=
    DistinctOn.map_name_distinctOn order
  rw [named]
  refine ⟨DistinctOn.nodup_names order, fun name => ?_⟩
  rw [DistinctOn.mem_names]
  simp only [perm.mem_iff]

end Kept

theorem kept_of_decides (listed : row ∈ resolution.allAssignments api)
    (decides : resolution.Decides api row.source row.sloName) :
    Exists fun order : List (ResolvedAssignment Rules) =>
      order.Perm (resolution.allAssignments api) ∧ row ∈ resolveForAsset order :=
  DistinctOn.kept_of_foremost listed (foremost_iff_decides.mpr decides)

/-- Resolution is well defined exactly when it is unambiguous. -/
theorem wellDefined_iff_unambiguous (resolution : Resolution Rules) (api : Api) :
    WellDefined resolution api ↔ Unambiguous resolution api := by
  constructor
  · rintro ⟨_, _, latest, stable⟩
    refine ⟨(decided_iff_alike resolution api).mp (DistinctOn.distinctOn_perm_iff _ |>.mp stable), ?_⟩
    intro source row isTemplate offered decides
    have place := source_of_offers offered
    subst place
    rcases kept_of_decides (mem_allAssignments.mpr offered) decides with ⟨order, perm, kept⟩
    exact latest order perm row kept isTemplate
  · rintro ⟨alike, current⟩
    have decided := (decided_iff_alike resolution api).mpr alike
    refine ⟨fun order perm => kept_names perm, fun order perm row kept => kept_foremost perm kept,
      fun order perm row kept isTemplate => ?_, DistinctOn.distinctOn_perm_iff _ |>.mpr decided⟩
    rcases kept_foremost perm kept with ⟨listed, foremost⟩
    exact current row.source row isTemplate (mem_allAssignments.mp listed)
      (foremost_iff_decides.mp foremost)

/-- A template that one SLO is generated from, a group of it that is assigned to an
asset, and requests after that. -/
def paymentsApi (later : List Command) : Api :=
  let template : SLODefinitionCreate := {
    name := "svc-$__gen_service"
    objectives := [{ sli := "latency" }]
    kind := "template" }
  let group : SLOGroupCreate := {
    name := "services"
    templateSloName := "svc-$__gen_service"
    templateSloVersion := 1
    genVariables := (∅ : Dict (List String)).insert "service" ["payments"] }
  after ([createAssetType { name := "host" }, createAsset { name := "host-7", typeName := "host" },
    createDataSource { name := "prom", adapterType := "prometheus", adapterUrl := "http://prom" },
    createSlo template, createSloGroup group,
    putSloGroupAssignment (.asset "host-7") "services" "prom"] ++ later)

def hostResolution : Resolution Unit where
  asset := "host-7"
  groups := []
  comparisonRules := fun _ => none

/-- After the update of a group that changes nothing, two versions of its SLO are offered
in the same place, and the one that is kept depends on the order. -/
theorem updated_not_wellDefined :
    ¬ WellDefined hostResolution
      (paymentsApi [updateSloGroup "services" { displayName := some "Services" }]) := by
  intro wellDefined
  let api := paymentsApi [updateSloGroup "services" { displayName := some "Services" }]
  have perm : (hostResolution.allAssignments api).reverse.Perm (hostResolution.allAssignments api) :=
    List.reverse_perm _
  have same := wellDefined.stable _ perm
  have different : resolveForAsset (hostResolution.allAssignments api).reverse ≠
      resolveForAsset (hostResolution.allAssignments api) := by decide +kernel
  exact different same

end Catalog
end Tropek
