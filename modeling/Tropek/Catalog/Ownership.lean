import Tropek.Catalog.Agreement
import Tropek.Catalog.Generation

namespace Tropek
namespace Catalog

open Library Manifest Fallible
open Engine (Dict)

/-!
# Whose names a request writes

An SLO name belongs to whoever made its latest active version: a group, or nobody.  The
creation of a group refuses the names of others.  The update of a group and the
extraction of an SLO write through the same two functions and do not look at the names,
so that they add versions to the SLOs of others and deactivate them.
-/

def Foreign (api : Api) (group : Nat) (name : String) : Prop :=
  Exists fun slo => api.latestSlo name = some slo ∧ slo.generatedByGroup ≠ some group

def Untouched (api later : Api) (name : String) : Prop :=
  versionsOf later name = versionsOf api name

def GroupRequest.group (api : Api) : GroupRequest -> Nat
  | .create _ => api.freshGroupId
  | .update name _ | .extract name _ | .delete name =>
      (api.activeSloGroup name).elim api.freshGroupId SLOGroup.id

/-- A request leaves the names of others alone, and an extraction leaves a standalone
version of the new name with the objectives of the SLO that it has extracted. -/
structure KeepsOwners (request : GroupRequest) (api later : Api) : Prop where
  owners : forall name, Foreign api (request.group api) name -> Untouched api later name
  standalone : forall name body, request = .extract name body ->
    Exists fun slo => Exists fun copy => api.latestSlo body.sloName = some slo ∧
      later.latestSlo body.newName = some copy ∧ copy.generatedByGroup = none ∧
      copy.objectives.map Objective.copied = slo.objectives.map Objective.copied

def deletedNames (api : Api) (name : String) : List String :=
  (api.activeSloGroup name).elim [] fun group => api.generatedNames group.id

/-- The names that the update of a group generates, and those that it has generated. -/
def updatedNames (api : Api) (name : String) (body : SLOGroupUpdate) : List String :=
  ((updatedSpecs api name body).toOption.elim [] fun made => made.2.map SLOCreateParams.name) ++
    deletedNames api name

/-- What is not checked: none of the names of an update belongs to somebody else, and the
new name of an extraction neither does nor is the name that is extracted.  A creation
needs no condition. -/
def WritesOwn (api : Api) : GroupRequest -> Prop
  | .create _ => True
  | .update name body => forall written, written ∈ updatedNames api name body ->
      ¬ Foreign api (GroupRequest.group api (.update name body)) written
  | .extract name body => body.newName ≠ body.sloName ∧
      ¬ Foreign api (GroupRequest.group api (.extract name body)) body.newName
  | .delete name => forall written, written ∈ deletedNames api name ->
      ¬ Foreign api (GroupRequest.group api (.delete name)) written

section Touched

variable {api later : Api} {added : List SLO} {gone : List String}

section

variable (written : Written api later added gone)

include written

theorem untouched_of_outside {name : String} (notAdded : name ∉ added.map SLO.name)
    (notGone : name ∉ gone) : Untouched api later name := by
  have none : added.filter (fun slo => slo.name = name) = [] := by
    refine List.filter_eq_nil_iff.mpr fun slo member named => notAdded ?_
    exact List.mem_map.mpr ⟨slo, member, of_decide_eq_true named⟩
  unfold Untouched
  rw [versionsOf_written written, none, List.append_nil]
  refine (List.map_congr_left fun slo member => ?_).trans (List.map_id _)
  exact retire_of_not_mem gone slo ((mem_versionsOf.mp member).2 ▸ notGone)

theorem touched_of_added {name : String} (isAdded : name ∈ added.map SLO.name) :
    ¬ Untouched api later name := by
  intro untouched
  rcases List.mem_map.mp isAdded with ⟨slo, member, named⟩
  have present : 0 < (added.filter fun slo => slo.name = name).length :=
    List.length_pos_of_mem (List.mem_filter.mpr ⟨member, decide_eq_true named⟩)
  have lengths := congrArg List.length untouched
  rw [versionsOf_written written, List.length_map, List.length_append] at lengths
  omega

theorem touched_of_gone {name : String} (isGone : name ∈ gone) {slo : SLO}
    (latest : api.latestSlo name = some slo) : ¬ Untouched api later name := by
  intro untouched
  have none := latestSlo_of_gone written isGone
  rw [latestSlo_eq, untouched, <- latestSlo_eq, latest] at none
  cases none

theorem owners_iff (group : Nat) :
    (forall name, Foreign api group name -> Untouched api later name) ↔
      forall name, name ∈ added.map SLO.name ∨ name ∈ gone -> ¬ Foreign api group name := by
  constructor
  · rintro owners name (isAdded | isGone) foreign
    · exact touched_of_added written isAdded (owners name foreign)
    · rcases foreign with ⟨slo, latest, other⟩
      exact touched_of_gone written isGone latest (owners name ⟨slo, latest, other⟩)
  · intro own name foreign
    refine untouched_of_outside written (fun isAdded => ?_) fun isGone => ?_
    · exact own name (Or.inl isAdded) foreign
    · exact own name (Or.inr isGone) foreign

end

end Touched

variable {api later : Api} {body : SLOGroupUpdate} {name : String}

theorem create_keepsOwners {body : SLOGroupCreate} (record : GroupCreation body api later) :
    KeepsOwners (.create body) api later := by
  refine ⟨(owners_iff record.written _).mpr ?_, fun _ _ impossible => by cases impossible⟩
  rintro name (isAdded | isGone) ⟨slo, latest, _⟩
  · rw [names_of_each record.each] at isAdded
    rcases List.mem_map.mp isAdded with ⟨spec, member, named⟩
    rw [<- named, record.noCollision spec member] at latest
    cases latest
  · exact absurd isGone List.not_mem_nil

section

variable (record : GroupUpdate name body api later)

include record

theorem updatedNames_eq :
    updatedNames api name body =
      record.specs.map SLOCreateParams.name ++ api.generatedNames record.group.id := by
  unfold updatedNames deletedNames
  rw [updatedSpecs_eq record, record.isGroup]
  rfl

theorem update_writes (written : String) :
    (written ∈ ((plannedVersions record.plan).map api.nextSlo).map SLO.name ∨
        written ∈ record.plan.toDeactivate) ↔ written ∈ updatedNames api name body := by
  rw [updatedNames_eq record, map_name_nextSlo, record.isPlan, mem_stored_names, mem_toDeactivate,
    List.mem_append]
  constructor
  · rintro (stored | ⟨old, _⟩)
    · exact Or.inl stored
    · exact Or.inr old
  · rintro (new | old)
    · exact Or.inl new
    · by_cases new : written ∈ record.specs.map SLOCreateParams.name
      · exact Or.inl new
      · exact Or.inr ⟨old, new⟩

theorem update_keepsOwners_iff :
    KeepsOwners (.update name body) api later ↔ WritesOwn api (.update name body) := by
  have owners := owners_iff record.written (GroupRequest.group api (.update name body))
  simp only [update_writes record] at owners
  constructor
  · intro keeps
    exact owners.mp keeps.owners
  · intro own
    exact ⟨owners.mpr own, fun _ _ impossible => by cases impossible⟩

end

theorem extract_keepsOwners_iff {body : ExtractRequest}
    (record : GroupExtraction name body api later) :
    KeepsOwners (.extract name body) api later ↔ WritesOwn api (.extract name body) := by
  have group : GroupRequest.group api (.extract name body) = record.group.id := by
    change (api.activeSloGroup name).elim api.freshGroupId SLOGroup.id = _
    rw [record.isGroup]
    rfl
  have owners := owners_iff record.written record.group.id
  have extracted : ¬ Foreign api record.group.id body.sloName := by
    rintro ⟨slo, latest, other⟩
    rw [record.isGenSlo] at latest
    cases latest
    exact other record.owned
  constructor
  · rintro ⟨kept, standalone⟩
    rw [group] at kept
    refine ⟨fun same => ?_, ?_⟩
    · rcases standalone name body rfl with ⟨_, copy, _, latest, _⟩
      have none := latestSlo_of_gone record.written (List.mem_singleton.mpr same)
      rw [none] at latest
      cases latest
    · rw [group]
      exact owners.mp kept body.newName (Or.inl (List.mem_singleton.mpr rfl))
  · rintro ⟨different, own⟩
    rw [group] at own
    constructor
    · rw [group]
      refine owners.mpr fun written isWritten => ?_
      rcases isWritten with isAdded | isGone
      · rw [List.mem_singleton.mp isAdded]
        exact own
      · rw [List.mem_singleton.mp isGone]
        exact extracted
    · rintro _ _ same
      cases same
      have kept : (record.genSlo.standalone body.newName).name ∉ [body.sloName] := fun member =>
        different (List.mem_singleton.mp member)
      refine ⟨record.genSlo, _, record.isGenSlo, latestSlo_of_added record.written kept, rfl, ?_⟩
      change ((record.genSlo.objectives.map Objective.copied).map (storedObjective _ _)).map
        Objective.copied = _
      rw [List.map_map, List.map_map]
      exact List.map_congr_left fun objective _ => rfl

theorem delete_keepsOwners_iff (record : GroupDeletion name api later) :
    KeepsOwners (.delete name) api later ↔ WritesOwn api (.delete name) := by
  have deleted : deletedNames api name = api.generatedNames record.group.id := by
    unfold deletedNames
    rw [record.isGroup]
    rfl
  have owners := owners_iff record.written (GroupRequest.group api (.delete name))
  rw [<- deleted] at owners
  simp only [List.map_nil, List.not_mem_nil, false_or] at owners
  constructor
  · intro keeps
    exact owners.mp keeps.owners
  · intro own
    exact ⟨owners.mpr own, fun _ _ impossible => by cases impossible⟩

/-- An accepted request leaves the names of others alone, and an extraction leaves its
copy, exactly when the request writes no name of somebody else and an extraction renames. -/
theorem keepsOwners_iff_writesOwn (request : GroupRequest) (api later : Api)
    (accepted : request.command api = .ok later) :
    KeepsOwners request api later ↔ WritesOwn api request := by
  cases request with
  | create body =>
      rcases create_record accepted with ⟨record⟩
      exact iff_of_true (create_keepsOwners record) trivial
  | update name body =>
      rcases update_record accepted with ⟨record⟩
      exact update_keepsOwners_iff record
  | extract name body =>
      rcases extract_record accepted with ⟨record⟩
      exact extract_keepsOwners_iff record
  | delete name =>
      rcases delete_record accepted with ⟨record⟩
      exact delete_keepsOwners_iff record

/-- A group with one SLO, and a standalone SLO that the template could generate. -/
def ordersApi : Api :=
  let template : SLODefinitionCreate := {
    name := "svc-$__gen_service"
    objectives := [{ sli := "latency" }]
    kind := "template" }
  let group : SLOGroupCreate := {
    name := "services"
    templateSloName := "svc-$__gen_service"
    templateSloVersion := 1
    genVariables := (∅ : Dict (List String)).insert "service" ["payments"] }
  after [createSlo template, createSloGroup group,
    createSlo { name := "svc-orders", objectives := [{ sli := "errors" }] }]

def paymentsExtraction : GroupRequest :=
  .extract "services" { sloName := "svc-payments", newName := "payments" }

theorem payments_keepsOwners : Exists fun later =>
    paymentsExtraction.command ordersApi = .ok later ∧
      KeepsOwners paymentsExtraction ordersApi later := by
  have accepted : (paymentsExtraction.command ordersApi).isOk = true := by decide +kernel
  rcases (isOk_iff _).mp accepted with ⟨later, extracted⟩
  have unused : (ordersApi.latestSlo "payments").isSome = false := by decide +kernel
  refine ⟨later, extracted, (keepsOwners_iff_writesOwn paymentsExtraction ordersApi later
    extracted).mpr ⟨by decide, ?_⟩⟩
  rintro ⟨slo, latest, _⟩
  rw [latest] at unused
  cases unused

/-- The update of the group to a second row, which gives the name of the standalone SLO. -/
def ordersUpdate : GroupRequest :=
  .update "services" {
    genVariables := some ((∅ : Dict (List String)).insert "service" ["payments", "orders"]) }

/-- The update adds a version to the standalone SLO. -/
theorem orders_not_keepsOwners : Exists fun later =>
    ordersUpdate.command ordersApi = .ok later ∧ ¬ KeepsOwners ordersUpdate ordersApi later := by
  have outcome : (ordersUpdate.command ordersApi).toOption.map
      (fun later => (versionsOf later "svc-orders").length) = some 2 := by decide +kernel
  have before : (versionsOf ordersApi "svc-orders").length = 1 := by decide +kernel
  have standalone : (ordersApi.latestSlo "svc-orders").map SLO.generatedByGroup = some none := by
    decide +kernel
  rcases Option.map_eq_some_iff.mp outcome with ⟨later, accepted, versions⟩
  rcases Option.map_eq_some_iff.mp standalone with ⟨slo, latest, nobody⟩
  refine ⟨later, toOption_eq_some.mp accepted, fun keeps => ?_⟩
  have foreign : Foreign ordersApi (ordersUpdate.group ordersApi) "svc-orders" := by
    refine ⟨slo, latest, ?_⟩
    rw [nobody]
    exact (Option.some_ne_none _).symm
  have untouched := keeps.owners "svc-orders" foreign
  rw [untouched, before] at versions
  cases versions

end Catalog
end Tropek
