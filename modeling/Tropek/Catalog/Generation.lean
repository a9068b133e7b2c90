import Tropek.Library.TransitionSystem
import Tropek.Manifest.Effects

namespace Tropek
namespace Catalog

open Library Manifest KeyedTable Fallible
open Engine (Dict)

/-!
# What the requests on SLO groups write

A request on an SLO group appends versions to the table of SLOs and then deactivates
names.  For each of the four requests one record says which: what the request has read,
the rows that it has appended, the names that it has deactivated, and the row of the
group after it.
-/

inductive GroupRequest where
  | create (body : SLOGroupCreate)
  | update (name : String) (body : SLOGroupUpdate)
  | extract (name : String) (body : ExtractRequest)
  | delete (name : String)

def GroupRequest.command : GroupRequest -> Command
  | .create body => createSloGroup body
  | .update name body => updateSloGroup name body
  | .extract name body => extractSlo name body
  | .delete name => deleteSloGroup name

/-- A request that is accepted.  One that is refused leaves the state as it is. -/
def GroupRequest.step (api : Api) (request : GroupRequest) : Option Api :=
  (request.command api).toOption

/-! ## Deactivated rows -/

def retire (names : List String) (slo : SLO) : SLO :=
  if slo.name ∈ names then { slo with active := false } else slo

section Retired

variable (names : List String) (slo : SLO)

@[simp] theorem retire_name : (retire names slo).name = slo.name := by
  unfold retire
  split <;> rfl

@[simp] theorem retire_version : (retire names slo).version = slo.version := by
  unfold retire
  split <;> rfl

@[simp] theorem retire_generatedByGroup :
    (retire names slo).generatedByGroup = slo.generatedByGroup := by
  unfold retire
  split <;> rfl

@[simp] theorem retire_objectives : (retire names slo).objectives = slo.objectives := by
  unfold retire
  split <;> rfl

@[simp] theorem retire_comparableFromVersion :
    (retire names slo).comparableFromVersion = slo.comparableFromVersion := by
  unfold retire
  split <;> rfl

theorem retire_key : (retire names slo).key = slo.key :=
  Prod.ext (retire_name names slo) (retire_version names slo)

theorem retire_active : (retire names slo).active = true ↔ slo.active = true ∧ slo.name ∉ names := by
  unfold retire
  by_cases listed : slo.name ∈ names
  · rw [if_pos listed]
    exact ⟨fun impossible => Bool.noConfusion impossible, fun both => absurd listed both.2⟩
  · rw [if_neg listed]
    exact ⟨fun active => ⟨active, listed⟩, And.left⟩

theorem retire_of_not_mem (outside : slo.name ∉ names) : retire names slo = slo :=
  if_neg outside

theorem retire_nil : retire [] slo = slo :=
  if_neg List.not_mem_nil

end Retired

@[simp] theorem retire_nil_eq : retire [] = id :=
  funext retire_nil

theorem deactivateSlo_rows (api : Api) (name : String) :
    (api.deactivateSlo name).slos.rows = api.slos.rows.map (retire [name]) := by
  refine List.map_congr_left fun slo _ => ?_
  unfold retire
  simp only [List.mem_singleton, decide_eq_true_eq]

theorem deactivateAll_rows (names : List String) (api : Api) :
    (names.foldl Api.deactivateSlo api).slos.rows = api.slos.rows.map (retire names) := by
  induction names generalizing api with
  | nil => rw [List.foldl_nil, retire_nil_eq, List.map_id]
  | cons name rest ih =>
      rw [List.foldl_cons, ih, deactivateSlo_rows, List.map_map]
      refine List.map_congr_left fun slo _ => ?_
      change retire rest (retire [name] slo) = retire (name :: rest) slo
      by_cases first : slo.name = name
      · have once : retire [name] slo = { slo with active := false } :=
          if_pos (List.mem_singleton.mpr first)
        have both : retire (name :: rest) slo = { slo with active := false } :=
          if_pos (first ▸ List.mem_cons_self)
        rw [once, both]
        unfold retire
        split <;> rfl
      · rw [retire_of_not_mem [name] slo fun member => first (List.mem_singleton.mp member)]
        unfold retire
        simp only [List.mem_cons, first, false_or]

/-! ## Appended rows -/

def versionsOf (api : Api) (name : String) : List SLO :=
  api.slos.rows.filter fun slo => slo.name = name

theorem find_version (api : Api) (name : String) (version : Int) :
    api.slos.find (name, version) = (versionsOf api name).find? fun slo => slo.version = version := by
  unfold versionsOf find
  rw [List.find?_filter]
  congr 1
  funext slo
  refine decide_eq_decide.mpr ?_
  rw [decide_eq_true_eq, decide_eq_true_eq]
  exact Prod.ext_iff

variable {api later : Api} {params spec : SLOCreateParams} {slo : SLO}
  {specs : List SLOCreateParams} {gone : List String} {added : List SLO} {name : String}
  {body : SLOGroupCreate}

theorem nextSlo_congr {other : Api}
    (versions : versionsOf api params.name = versionsOf other params.name)
    (defaults : api.changePointDefaults = other.changePointDefaults) :
    api.nextSlo params = other.nextSlo params := by
  have maximum : api.maxSloVersion params.name = other.maxSloVersion params.name := by
    unfold Api.maxSloVersion
    unfold versionsOf at versions
    rw [versions]
  unfold Api.nextSlo
  simp only [find_version, maximum, versions, defaults]

theorem le_max_of_mem {Row : Type} {rows : List Row} (version : Row -> Int) {row : Row}
    (member : row ∈ rows) :
    Exists fun highest => (rows.map version).max? = some highest ∧ version row ≤ highest := by
  have listed : version row ∈ rows.map version := List.mem_map_of_mem member
  cases maximum : (rows.map version).max? with
  | none => exact absurd listed (by simp [List.max?_eq_none_iff.mp maximum])
  | some highest => exact ⟨highest, rfl, (List.max?_eq_some_iff.mp maximum).2 _ listed⟩

theorem version_le_max (member : slo ∈ api.slos.rows) :
    Exists fun version => api.maxSloVersion slo.name = some version ∧ slo.version ≤ version :=
  le_max_of_mem SLO.version (List.mem_filter.mpr ⟨member, decide_eq_true rfl⟩)

theorem version_lt_next (member : slo ∈ api.slos.rows) (named : slo.name = params.name) :
    slo.version < (api.nextSlo params).version := by
  rcases version_le_max member with ⟨version, maximum, below⟩
  change slo.version < (api.maxSloVersion params.name).getD 0 + 1
  rw [<- named, maximum]
  exact Int.lt_add_one_of_le below

theorem storeSlo_rows (stored : api.storeSlo params = .ok later) :
    later = { api with slos := later.slos } ∧
      later.slos.rows = api.slos.rows ++ [api.nextSlo params] := by
  rcases storeSlo_eq_ok stored with ⟨fresh, left⟩
  subst left
  exact ⟨rfl, rfl⟩

/-- The rule for a list of insertions: each of the parameters becomes the next version in
a state in which whatever the insertions preserve holds. -/
theorem storeSlos_each {invariant : Api -> Prop} (holds : invariant api)
    (preserves : forall middle spec next, spec ∈ specs -> invariant middle ->
      middle.storeSlo spec = .ok next -> invariant next)
    (stored : api.storeSlos specs = .ok later) :
    Exists fun added => later = { api with slos := later.slos } ∧
      later.slos.rows = api.slos.rows ++ added ∧
      List.Forall₂ (fun spec row => Exists fun middle : Api =>
        invariant middle ∧ row = middle.nextSlo spec) specs added := by
  unfold Api.storeSlos at stored
  induction specs generalizing api with
  | nil =>
      cases stored
      exact ⟨[], rfl, (List.append_nil _).symm, .nil⟩
  | cons spec rest ih =>
      rw [List.foldlM_cons] at stored
      rcases bind_eq_ok.mp stored with ⟨next, first, storedRest⟩
      rcases storeSlo_rows first with ⟨same, rows⟩
      have nextHolds := preserves api spec next List.mem_cons_self holds first
      rcases ih nextHolds (fun middle other next member =>
        preserves middle other next (List.mem_cons_of_mem _ member)) storedRest with
          ⟨added, sameRest, rowsRest, each⟩
      refine ⟨api.nextSlo spec :: added, ?_, ?_, .cons ⟨api, holds, rfl⟩ each⟩
      · rw [sameRest, same]
      · rw [rowsRest, rows, List.append_assoc]
        rfl

theorem storeSlos_rows (stored : api.storeSlos specs = .ok later) :
    Exists fun added => later = { api with slos := later.slos } ∧
      later.slos.rows = api.slos.rows ++ added ∧
      List.Forall₂ (fun spec row => Exists fun middle : Api =>
        api.slos.rows ⊆ middle.slos.rows ∧ row = middle.nextSlo spec) specs added := by
  have holds : api.slos.rows ⊆ api.slos.rows := List.Subset.refl _
  refine storeSlos_each holds (fun middle spec next _ contained first => ?_) stored
  rw [(storeSlo_rows first).2]
  exact List.subset_append_of_subset_left _ contained

theorem storeSlos_of_distinct (distinct : (specs.map SLOCreateParams.name).Nodup)
    (stored : api.storeSlos specs = .ok later) :
    later.slos.rows = api.slos.rows ++ specs.map api.nextSlo := by
  unfold Api.storeSlos at stored
  induction specs generalizing api with
  | nil =>
      cases stored
      exact (List.append_nil _).symm
  | cons spec rest ih =>
      rw [List.foldlM_cons] at stored
      rw [List.map_cons, List.nodup_cons] at distinct
      rcases bind_eq_ok.mp stored with ⟨next, first, storedRest⟩
      rcases storeSlo_rows first with ⟨same, rows⟩
      have others : rest.map next.nextSlo = rest.map api.nextSlo := by
        refine List.map_congr_left fun other member => nextSlo_congr ?_ ?_
        · have different : ¬ spec.name = other.name := fun collide =>
            distinct.1 (collide ▸ List.mem_map_of_mem member)
          have unseen : [api.nextSlo spec].filter (fun slo => slo.name = other.name) = [] :=
            List.filter_eq_nil_iff.mpr fun slo inside => by
              rw [List.mem_singleton.mp inside]
              exact fun same => different (of_decide_eq_true same)
          unfold versionsOf
          rw [rows, List.filter_append, unseen, List.append_nil]
        · rw [same]
      rw [ih distinct.2 storedRest, rows, others, List.append_assoc]
      rfl

/-! ## What is written -/

/-- The table of SLOs has got rows, and then some names have been deactivated. -/
def Written (api later : Api) (added : List SLO) (gone : List String) : Prop :=
  later.slos.rows = (api.slos.rows ++ added).map (retire gone)

theorem versionsOf_written (written : Written api later added gone) (name : String) :
    versionsOf later name =
      (versionsOf api name ++ added.filter fun slo => slo.name = name).map (retire gone) := by
  unfold versionsOf
  rw [written, List.filter_map, <- List.filter_append]
  congr 2
  funext slo
  exact congrArg (fun found => decide (found = name)) (retire_name gone slo)

theorem latestSlo_eq (api : Api) (name : String) :
    api.latestSlo name = Latest.newest SLO.version ((versionsOf api name).filter SLO.active) := by
  unfold Api.latestSlo versionsOf
  rw [List.filter_filter]
  congr 2
  funext slo
  exact Bool.and_comm _ _

theorem latestSlo_mem (latest : api.latestSlo name = some slo) :
    slo ∈ api.slos.rows ∧ slo.name = name ∧ slo.active = true := by
  have member := List.mem_filter.mp (Latest.newest_mem SLO.version latest)
  rw [Bool.and_eq_true] at member
  exact ⟨member.1, of_decide_eq_true member.2.1, member.2.2⟩

theorem mem_versionsOf : slo ∈ versionsOf api name ↔ slo ∈ api.slos.rows ∧ slo.name = name := by
  unfold versionsOf
  rw [List.mem_filter, decide_eq_true_eq]

theorem latestSlo_of_gone (written : Written api later added gone) (listed : name ∈ gone) :
    later.latestSlo name = none := by
  cases latest : later.latestSlo name with
  | none => rfl
  | some slo =>
      rcases latestSlo_mem latest with ⟨member, named, active⟩
      rw [written] at member
      rcases List.mem_map.mp member with ⟨old, _, same⟩
      subst same
      rw [retire_name] at named
      exact absurd (named ▸ listed) ((retire_active gone old).mp active).2

theorem latestSlo_of_added (written : Written api later [api.nextSlo params] gone)
    (kept : params.name ∉ gone) : later.latestSlo params.name = some (api.nextSlo params) := by
  have versions : versionsOf later params.name =
      versionsOf api params.name ++ [api.nextSlo params] := by
    have added : [api.nextSlo params].filter (fun slo => slo.name = params.name) =
        [api.nextSlo params] := by
      have named : decide ((api.nextSlo params).name = params.name) = true := decide_eq_true rfl
      rw [List.filter_singleton, named]
      rfl
    rw [versionsOf_written written, added]
    refine (List.map_congr_left fun slo member => ?_).trans (List.map_id _)
    have named : slo.name = params.name := by
      rcases List.mem_append.mp member with old | new
      · exact (mem_versionsOf.mp old).2
      · rw [List.mem_singleton.mp new]
        rfl
    exact retire_of_not_mem gone slo (named ▸ kept)
  have active : [api.nextSlo params].filter SLO.active = [api.nextSlo params] := rfl
  rw [latestSlo_eq, versions, List.filter_append, active, Latest.newest_append]
  cases newest : Latest.newest SLO.version ((versionsOf api params.name).filter SLO.active) with
  | none => rfl
  | some slo =>
      have member := List.mem_filter.mp (Latest.newest_mem SLO.version newest)
      rcases mem_versionsOf.mp member.1 with ⟨inside, named⟩
      exact if_pos (version_lt_next inside named)

theorem nextSlo_fresh {middle : Api} (contained : api.slos.rows ⊆ middle.slos.rows)
    (params : SLOCreateParams) : api.slos.find (middle.nextSlo params).key = none := by
  cases found : api.slos.find (middle.nextSlo params).key with
  | none => rfl
  | some slo =>
      have sameKey := find_key found
      have named : slo.name = params.name := congrArg Prod.fst sameKey
      have older := version_lt_next (contained (find_mem found)) named
      have sameVersion : slo.version = (middle.nextSlo params).version := congrArg Prod.snd sameKey
      exact absurd sameVersion (ne_of_lt older)

theorem new_iff_added (written : Written api later added gone)
    (fresh : forall row, row ∈ added -> api.slos.find row.key = none) (row : SLO) :
    (row ∈ later.slos.rows ∧ api.slos.find row.key = none) ↔
      Exists fun new => new ∈ added ∧ retire gone new = row := by
  rw [written, List.mem_map]
  constructor
  · rintro ⟨⟨old, member, same⟩, absent⟩
    rcases List.mem_append.mp member with kept | new
    · rw [<- same, retire_key, find_of_mem kept] at absent
      cases absent
    · exact ⟨old, new, same⟩
  · rintro ⟨new, member, same⟩
    refine ⟨⟨new, List.mem_append.mpr (Or.inr member), same⟩, ?_⟩
    rw [<- same, retire_key]
    exact fresh new member

theorem generateSloSpecs_mem {template : SLO} {genVariables : Dict (List String)} {group : Nat}
    (generated : generateSloSpecs template genVariables group = .ok specs) (member : spec ∈ specs) :
    Exists fun values => spec = generatedSlo template group values := by
  unfold generateSloSpecs at generated
  rcases bind_eq_ok.mp generated with ⟨_, _, made⟩
  cases made
  rcases List.mem_map.mp member with ⟨index, _, same⟩
  exact ⟨genRow genVariables index, same.symm⟩

theorem names_of_each {invariant : Api -> Prop}
    (each : List.Forall₂ (fun spec row => Exists fun middle : Api => invariant middle ∧
      row = middle.nextSlo spec) specs added) :
    added.map SLO.name = specs.map SLOCreateParams.name := by
  induction each with
  | nil => rfl
  | cons here _ ih =>
      rcases here with ⟨middle, _, same⟩
      rw [List.map_cons, List.map_cons, ih, same]
      rfl

theorem map_name_nextSlo (api : Api) (specs : List SLOCreateParams) :
    (specs.map api.nextSlo).map SLO.name = specs.map SLOCreateParams.name := by
  rw [List.map_map]
  rfl

/-! ## Previous versions -/

def previousVersion (api : Api) (name : String) : Option SLO :=
  (api.maxSloVersion name).bind fun version => api.slos.find (name, version)

theorem previousVersion_of_mem (member : slo ∈ api.slos.rows) :
    Exists fun previous => previousVersion api slo.name = some previous ∧
      api.maxSloVersion slo.name = some previous.version ∧ slo.version ≤ previous.version := by
  rcases version_le_max member with ⟨version, maximum, below⟩
  rcases List.mem_map.mp (List.max?_eq_some_iff.mp maximum).1 with ⟨previous, among, isVersion⟩
  rcases mem_versionsOf.mp among with ⟨inside, named⟩
  have key : previous.key = (slo.name, version) := Prod.ext named isVersion
  refine ⟨previous, ?_, isVersion ▸ maximum, isVersion ▸ below⟩
  unfold previousVersion
  rw [maximum, Option.bind_some, <- key]
  exact find_of_mem inside

theorem previousVersion_congr {other : Api} (versions : versionsOf api name = versionsOf other name) :
    previousVersion api name = previousVersion other name := by
  have maximum : api.maxSloVersion name = other.maxSloVersion name :=
    congrArg (fun rows : List SLO => (rows.map SLO.version).max?) versions
  unfold previousVersion
  simp only [find_version, maximum, versions]

/-- After an insertion, the row that was inserted is the previous version of its name. -/
theorem previousVersion_stored {next : Api} (stored : api.storeSlo params = .ok next) :
    previousVersion next params.name = some (api.nextSlo params) := by
  have rows := (storeSlo_rows stored).2
  have member : api.nextSlo params ∈ next.slos.rows := by
    rw [rows]
    exact List.mem_append.mpr (Or.inr List.mem_cons_self)
  rcases version_le_max member with ⟨version, maximum, below⟩
  have reached : version ∈ (versionsOf next params.name).map SLO.version :=
    (List.max?_eq_some_iff.mp maximum).1
  rcases List.mem_map.mp reached with ⟨slo, among, isVersion⟩
  rcases mem_versionsOf.mp among with ⟨inside, named⟩
  have above : slo.version ≤ (api.nextSlo params).version := by
    rw [rows] at inside
    rcases List.mem_append.mp inside with old | new
    · exact le_of_lt (version_lt_next old named)
    · rw [List.mem_singleton.mp new]
  have same : version = (api.nextSlo params).version := le_antisymm (isVersion ▸ above) below
  have named : next.maxSloVersion params.name = some version := maximum
  unfold previousVersion
  rw [named, Option.bind_some, same]
  exact find_of_mem member

/-! ## Plans -/

theorem specNamed_name (found : specNamed specs name = some spec) : spec.name = name := by
  have selected := List.find?_some found
  exact of_decide_eq_true selected

theorem specNamed_isSome (listed : name ∈ specs.map SLOCreateParams.name) :
    Exists fun spec => specNamed specs name = some spec := by
  rcases List.mem_map.mp listed with ⟨spec, member, named⟩
  cases found : specNamed specs name with
  | some spec => exact ⟨spec, rfl⟩
  | none =>
      have refused := List.find?_eq_none.mp found spec (List.mem_reverse.mpr member)
      exact absurd (decide_eq_true named) refused

theorem nodup_sortedNames (names : List String) : (sortedNames names).Nodup :=
  (List.perm_insertionSort _ _).nodup_iff.mpr (List.nodup_dedup names)

theorem names_filterMap_specNamed {names : List String}
    (listed : forall name, name ∈ names -> name ∈ specs.map SLOCreateParams.name) :
    (names.filterMap (specNamed specs)).map SLOCreateParams.name = names := by
  have each : forall name, name ∈ names ->
      (specNamed specs name).map SLOCreateParams.name = some name := by
    intro name member
    rcases specNamed_isSome (listed name member) with ⟨spec, found⟩
    rw [found, Option.map_some, specNamed_name found]
  rw [List.map_filterMap, List.filterMap_congr each, List.filterMap_some]

section Planned

variable (oldGenerated : List SLO) (specs : List SLOCreateParams)
  (oldIndicators newIndicators : Dict String) (changed : Bool)

def plannedVersions (plan : RegenerationPlan) : List SLOCreateParams :=
  plan.toCreate ++ plan.toUpdate.map UpdateAction.params

theorem stored_names :
    (plannedVersions (planRegeneration oldGenerated specs oldIndicators newIndicators
        changed)).map SLOCreateParams.name =
      sortedNames ((specs.map SLOCreateParams.name).filter fun name =>
          !(oldGenerated.map SLO.name).contains name) ++
        sortedNames ((oldGenerated.map SLO.name).filter fun name =>
          (specs.map SLOCreateParams.name).contains name) := by
  have named : forall names : List String,
      (forall name, name ∈ names -> name ∈ specs.map SLOCreateParams.name) ->
      forall marker : String -> Option Int,
      ((names.filterMap fun name => (specNamed specs name).map fun spec =>
        (⟨spec, marker name⟩ : UpdateAction)).map UpdateAction.params).map SLOCreateParams.name =
          names := by
    intro names listed marker
    have each : forall name, name ∈ names ->
        ((specNamed specs name).map fun spec =>
          (UpdateAction.params ⟨spec, marker name⟩).name) = some name := by
      intro name member
      rcases specNamed_isSome (listed name member) with ⟨spec, found⟩
      rw [found, Option.map_some]
      have isNamed : spec.name = name := specNamed_name found
      exact congrArg some isNamed
    rw [List.map_map, List.map_filterMap]
    simp only [Option.map_map]
    exact (List.filterMap_congr each).trans (List.filterMap_some)
  unfold plannedVersions planRegeneration
  rw [List.map_append, names_filterMap_specNamed, named]
  · intro name member
    have kept := List.mem_filter.mp (mem_sortedNames.mp member)
    exact List.contains_iff_mem.mp kept.2
  · intro name member
    exact (List.mem_filter.mp (mem_sortedNames.mp member)).1

theorem mem_stored_names {name : String} :
    name ∈ (plannedVersions (planRegeneration oldGenerated specs oldIndicators
        newIndicators changed)).map SLOCreateParams.name ↔
      name ∈ specs.map SLOCreateParams.name := by
  rw [stored_names, List.mem_append, mem_sortedNames, mem_sortedNames, List.mem_filter,
    List.mem_filter, List.contains_iff_mem, Bool.not_eq_true', Bool.eq_false_iff, ne_eq,
    List.contains_iff_mem]
  constructor
  · rintro (created | updated)
    · exact created.1
    · exact updated.2
  · intro listed
    by_cases old : name ∈ oldGenerated.map SLO.name
    · exact Or.inr ⟨old, listed⟩
    · exact Or.inl ⟨listed, old⟩

theorem nodup_stored_names :
    ((plannedVersions (planRegeneration oldGenerated specs oldIndicators newIndicators
      changed)).map SLOCreateParams.name).Nodup := by
  rw [stored_names]
  refine List.nodup_append.mpr ⟨nodup_sortedNames _, nodup_sortedNames _, ?_⟩
  intro created isCreated updated isUpdated same
  have new := (List.mem_filter.mp (mem_sortedNames.mp isCreated)).2
  have old := (List.mem_filter.mp (mem_sortedNames.mp isUpdated)).1
  rw [Bool.not_eq_true', Bool.eq_false_iff, ne_eq, List.contains_iff_mem, same] at new
  exact new old

theorem mem_toDeactivate {name : String} :
    name ∈ (planRegeneration oldGenerated specs oldIndicators newIndicators
        changed).toDeactivate ↔
      name ∈ oldGenerated.map SLO.name ∧ name ∉ specs.map SLOCreateParams.name := by
  unfold planRegeneration
  rw [mem_sortedNames, List.mem_filter, Bool.not_eq_true', Bool.eq_false_iff, ne_eq,
    List.contains_iff_mem]

theorem mem_stored {params : SLOCreateParams}
    (stored : params ∈ plannedVersions (planRegeneration oldGenerated specs oldIndicators
      newIndicators changed)) :
    Exists fun spec => spec ∈ specs ∧ spec.name = params.name ∧
      params = { spec with comparableFromVersion := params.comparableFromVersion } := by
  rcases List.mem_append.mp stored with created | updated
  · rcases List.mem_filterMap.mp created with ⟨name, _, found⟩
    exact ⟨params, specNamed_mem found, rfl, rfl⟩
  · rcases List.mem_map.mp updated with ⟨action, isAction, same⟩
    rcases List.mem_filterMap.mp isAction with ⟨name, _, mapped⟩
    rcases Option.map_eq_some_iff.mp mapped with ⟨spec, found, made⟩
    subst made
    subst same
    exact ⟨spec, specNamed_mem found, rfl, rfl⟩

end Planned

/-! ## The four requests -/

def createdGroup (body : SLOGroupCreate) (template : SLO) (id : Nat) : SLOGroup where
  id
  name := body.name
  displayName := body.displayName
  templateSlo := template.key
  genVariables := body.genVariables
  tags := body.tags.getD ∅
  author := body.author

structure GroupCreation (body : SLOGroupCreate) (api later : Api) where
  template : SLO
  specs : List SLOCreateParams
  added : List SLO
  loaded : api.loadTemplateSlo body.templateSloName (some body.templateSloVersion) = .ok template
  generated : generateSloSpecs template body.genVariables api.freshGroupId = .ok specs
  noCollision : forall spec, spec ∈ specs -> api.latestSlo spec.name = none
  unused : api.activeSloGroup body.name = none
  written : Written api later added []
  each : List.Forall₂ (fun spec row => Exists fun middle : Api =>
    api.slos.rows ⊆ middle.slos.rows ∧ row = middle.nextSlo spec) specs added
  fresh : api.sloGroups.find (createdGroup body template api.freshGroupId).id = none
  stored : Api.storeSlos { api with
    sloGroups := api.sloGroups.insert (createdGroup body template api.freshGroupId) fresh } specs =
      .ok later
  left : later = { api with
    slos := later.slos
    sloGroups := api.sloGroups.insert (createdGroup body template api.freshGroupId) fresh }

theorem checkCollisions_eq_ok (accepted : api.checkCollisions specs = .ok ()) :
    forall spec, spec ∈ specs -> api.latestSlo spec.name = none := by
  unfold Api.checkCollisions at accepted
  induction specs with
  | nil => exact fun spec member => absurd member List.not_mem_nil
  | cons head rest ih =>
      rw [List.forM_eq_forM, List.forM_cons] at accepted
      rcases bind_eq_ok.mp accepted with ⟨_, first, others⟩
      split at first
      · cases first
      · rename_i unused
        refine List.forall_mem_cons.mpr ⟨Option.not_isSome_iff_eq_none.mp unused, ?_⟩
        exact ih others

theorem create_record (accepted : createSloGroup body api = .ok later) :
    Nonempty (GroupCreation body api later) := by
  unfold createSloGroup at accepted
  simp only [bind_eq_ok] at accepted
  rcases accepted with ⟨_, _, _, _, _, _, _, _, template, loaded, specs, generated, _,
    noCollision, stored⟩
  split at stored
  · cases stored
  · rename_i unused
    split at stored
    · rename_i fresh
      rcases storeSlos_rows stored with ⟨added, same, rows, each⟩
      exact ⟨{
        template, specs, added, loaded, generated
        noCollision := checkCollisions_eq_ok noCollision
        unused := Option.not_isSome_iff_eq_none.mp unused
        written := by
          unfold Written
          rw [retire_nil_eq, List.map_id]
          exact rows
        each, fresh, stored
        left := same }⟩
    · cases stored

structure GroupUpdate (name : String) (body : SLOGroupUpdate) (api later : Api) where
  group : SLOGroup
  current : SLO
  template : SLO
  specs : List SLOCreateParams
  isGroup : api.activeSloGroup name = some group
  isCurrent : api.slos.find group.templateSlo = some current
  isTemplate : api.effectiveTemplate body current = .ok template
  generated : generateSloSpecs template
    (effectiveVariables body.genVariables group.genVariables) group.id = .ok specs
  plan : RegenerationPlan
  isPlan : plan = planRegeneration (api.generatedSlos group.id) specs
    (api.oldIndicators body current) (api.sliIndicators template.sliDefinition)
    (body.variablesChanged group)
  written : Written api later ((plannedVersions plan).map api.nextSlo) plan.toDeactivate
  left : later = { api with
    slos := later.slos
    sloGroups := api.sloGroups.update group.id (body.apply template) (fun _ => rfl) }

theorem update_record {body : SLOGroupUpdate} (accepted : updateSloGroup name body api = .ok later) :
    Nonempty (GroupUpdate name body api later) := by
  unfold updateSloGroup at accepted
  simp only [bind_eq_ok] at accepted
  rcases accepted with ⟨_, _, _, _, _, _, group, isGroup, current, isCurrent, template,
    isTemplate, specs, generated, regenerated, replaced, finished⟩
  rcases applyRegenerationPlan_eq_ok replaced with ⟨same, _⟩
  unfold Api.applyRegenerationPlan at replaced
  rcases bind_eq_ok.mp replaced with ⟨stored, storedSpecs, cleared⟩
  have appended := storeSlos_of_distinct (nodup_stored_names _ _ _ _ _) storedSpecs
  have rows := deactivateAll_rows (planRegeneration (api.generatedSlos group.id) specs
    (api.oldIndicators body current) (api.sliIndicators template.sliDefinition)
    (body.variablesChanged group)).toDeactivate stored
  cases cleared
  cases finished
  rw [appended] at rows
  exact ⟨{
    group, current, template, specs
    isGroup := orRaise_eq_ok.mp isGroup
    isCurrent := orRaise_eq_ok.mp isCurrent
    isTemplate, generated
    plan := _
    isPlan := rfl
    written := rows
    left := by rw [same] }⟩

structure GroupExtraction (name : String) (body : ExtractRequest) (api later : Api) where
  group : SLOGroup
  genSlo : SLO
  template : SLO
  specs : List SLOCreateParams
  isGroup : api.activeSloGroup name = some group
  isGenSlo : api.latestSlo body.sloName = some genSlo
  owned : genSlo.generatedByGroup = some group.id
  isTemplate : api.slos.find group.templateSlo = some template
  generated : generateSloSpecs template group.genVariables group.id = .ok specs
  written : Written api later [api.nextSlo (genSlo.standalone body.newName)] [body.sloName]
  left : later = { api with
    slos := later.slos
    sloGroups := api.sloGroups.update group.id
      (SLOGroup.shrunk (tableWithout group.genVariables specs body.sloName))
      (SLOGroup.shrunk_id _) }

theorem extract_record {body : ExtractRequest} (accepted : extractSlo name body api = .ok later) :
    Nonempty (GroupExtraction name body api later) := by
  unfold extractSlo at accepted
  simp only [bind_eq_ok] at accepted
  rcases accepted with ⟨_, _, group, isGroup, genSlo, isGenSlo, extracted⟩
  split at extracted
  · cases extracted
  · rename_i owned
    simp only [bind_eq_ok] at extracted
    rcases extracted with ⟨template, isTemplate, copied, stored, specs, generated, finished⟩
    rcases storeSlo_rows stored with ⟨same, appended⟩
    have rows := deactivateSlo_rows copied body.sloName
    cases finished
    rw [appended] at rows
    exact ⟨{
      group, genSlo, template, specs
      isGroup := orRaise_eq_ok.mp isGroup
      isGenSlo := orRaise_eq_ok.mp isGenSlo
      owned := not_not.mp owned
      isTemplate := orRaise_eq_ok.mp isTemplate
      generated
      written := rows
      left := by
        unfold Api.deactivateSlo
        rw [same] }⟩

structure GroupDeletion (name : String) (api later : Api) where
  group : SLOGroup
  isGroup : api.activeSloGroup name = some group
  written : Written api later [] (api.generatedNames group.id)
  left : later = { api with
    slos := later.slos
    sloGroups := api.sloGroups.update group.id SLOGroup.deactivated (fun _ => rfl) }

theorem delete_record (accepted : deleteSloGroup name api = .ok later) :
    Nonempty (GroupDeletion name api later) := by
  unfold deleteSloGroup at accepted
  rcases bind_eq_ok.mp accepted with ⟨group, isGroup, finished⟩
  have rows := deactivateAll_rows (api.generatedNames group.id) api
  have listed : forall name, name ∈ api.generatedNames group.id -> name ∈ api.generatedNames group.id :=
    fun _ member => member
  have same := (deactivateAll_leaves api listed).1
  cases finished
  exact ⟨{
    group
    isGroup := orRaise_eq_ok.mp isGroup
    written := by
      unfold Written
      rw [List.append_nil]
      exact rows
    left := by rw [same] }⟩

/-! ## What a request generates -/

def createdSpecs (api : Api) (body : SLOGroupCreate) :
    Except ApiError (SLO × List SLOCreateParams) := do
  let template <- api.loadTemplateSlo body.templateSloName (some body.templateSloVersion)
  let specs <- generateSloSpecs template body.genVariables api.freshGroupId
  return (template, specs)

def updatedSpecs (api : Api) (name : String) (body : SLOGroupUpdate) :
    Except ApiError (SLO × List SLOCreateParams) := do
  let group <- orRaise (.notFound "slo group" name) (api.activeSloGroup name)
  let current <- orRaise (.invalid "current template slo definition not found")
    (api.slos.find group.templateSlo)
  let template <- api.effectiveTemplate body current
  let specs <- generateSloSpecs template
    (effectiveVariables body.genVariables group.genVariables) group.id
  return (template, specs)

theorem createdSpecs_eq (record : GroupCreation body api later) :
    createdSpecs api body = .ok (record.template, record.specs) := by
  unfold createdSpecs
  rw [record.loaded]
  change generateSloSpecs _ _ _ >>= _ = _
  rw [record.generated]
  rfl

theorem updatedSpecs_eq {body : SLOGroupUpdate} (record : GroupUpdate name body api later) :
    updatedSpecs api name body = .ok (record.template, record.specs) := by
  unfold updatedSpecs
  rw [record.isGroup, orRaise]
  change orRaise _ _ >>= _ = _
  rw [record.isCurrent, orRaise]
  change api.effectiveTemplate body record.current >>= _ = _
  rw [record.isTemplate]
  change generateSloSpecs _ _ _ >>= _ = _
  rw [record.generated]
  rfl

end Catalog
end Tropek
