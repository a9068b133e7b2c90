import Tropek.Catalog.Agreement
import Tropek.Catalog.Generation

namespace Tropek
namespace Catalog

open Library Manifest KeyedTable Fallible
open Engine (Dict)

/-!
# From which version on a generated SLO is comparable

Each version of an SLO has a marker, the version from which on its evaluations are
comparable.  An update of a group that changes a query or the table of values should
start over at the new version, and any other update should keep the marker.

Three places decide it.  The plan leaves the marker out of an update that starts over,
in the belief that the router fills it in; the router does not, and the registry takes an
absent marker for the version before.  And the markers that the plan keeps are those of
the rows that the database happens to return last.
-/

/-- The database returns rows in an order of its own, which may change at any time. -/
structure Reordering where
  order : List SLO -> List SLO
  perm : forall rows, (order rows).Perm rows

def Reordering.apply (reordering : Reordering) (api : Api) : Api :=
  { api with
    slos := {
      rows := reordering.order api.slos.rows
      nodup := ((reordering.perm api.slos.rows).map SLO.key).nodup_iff.mpr api.slos.nodup } }

inductive RegistryEvent where
  | group (request : GroupRequest)
  | defineSlo (body : SLODefinitionCreate)
  | removeSlo (name : String)
  | defineSli (body : SLIDefinitionCreate)
  | reordered (reordering : Reordering)

/-- An accepted request on the registry, or another order in which the database returns
the rows. -/
def RegistryEvent.step (api : Api) : RegistryEvent -> Option Api
  | .group request => request.step api
  | .defineSlo body => (createSlo body api).toOption
  | .removeSlo name => (deleteSlo name api).toOption
  | .defineSli body => (createSli body api).toOption
  | .reordered reordering => some (reordering.apply api)

/-- A query of the SLI that the group has been bound to is gone or different, or the table
of values is. -/
def Breaking (api : Api) (group : SLOGroup) (body : SLOGroupUpdate) (template : SLO) : Bool :=
  indicatorsChanged
      (api.sliIndicators ((api.slos.find group.templateSlo).bind SLO.sliDefinition))
      (api.sliIndicators template.sliDefinition) ||
    !sameEntries (effectiveVariables body.genVariables group.genVariables) group.genVariables

def Remains (api : Api) (name : String) (body : SLOGroupUpdate) (group : SLOGroup) (template : SLO)
    (sloName : String) : Prop :=
  api.activeSloGroup name = some group ∧ sloName ∈ api.generatedNames group.id ∧
    Exists fun specs => updatedSpecs api name body = .ok (template, specs) ∧
      sloName ∈ specs.map SLOCreateParams.name

/-- Each name that remains gets a next version, which is comparable from itself on when
the update is breaking, and otherwise from where the version before it was. -/
def MarksVersions (api : Api) (name : String) (body : SLOGroupUpdate) (later : Api) : Prop :=
  forall group template sloName, Remains api name body group template sloName ->
    Exists fun previous => Exists fun new =>
      previousVersion api sloName = some previous ∧
      later.slos.find (sloName, previous.version + 1) = some new ∧
      new.comparableFromVersion = if Breaking api group body template = true then new.version
        else previous.comparableFromVersion

def BreaksBaseline (api : Api) (group : SLOGroup) (body : SLOGroupUpdate) (template : SLO) : Bool :=
  ((api.slos.find group.templateSlo).any fun current => indicatorsChanged
      (api.oldIndicators body current) (api.sliIndicators template.sliDefinition)) ||
    body.variablesChanged group

/-- The update is not breaking for any name that remains.  If the code takes it for
breaking nevertheless, the latest version of the name is comparable from itself on; if
not, the row that the database returns last for the name has the marker of the latest
version. -/
def KeepsMarkers (api : Api) (name : String) (body : SLOGroupUpdate) : Prop :=
  forall group template sloName previous, Remains api name body group template sloName ->
    previousVersion api sloName = some previous ->
    Breaking api group body template = false ∧
      if BreaksBaseline api group body template = true then
        previous.comparableFromVersion = previous.version
      else oldMarker (api.generatedSlos group.id) sloName = some previous.comparableFromVersion

def MarkersBelow (api : Api) : Prop :=
  forall slo, slo ∈ api.slos.rows -> slo.generatedByGroup ≠ none ->
    slo.comparableFromVersion ≤ slo.version

def EarlierMarker (api : Api) (params : SLOCreateParams) : Prop :=
  forall marker, params.comparableFromVersion = some marker ->
    Exists fun slo => slo ∈ api.slos.rows ∧ slo.name = params.name ∧ marker ≤ slo.version

variable {api later : Api} {params : SLOCreateParams} {name : String} {specs : List SLOCreateParams}
  {body : SLOGroupUpdate}

theorem nextSlo_marker (earlier : EarlierMarker api params) :
    (api.nextSlo params).comparableFromVersion ≤ (api.nextSlo params).version := by
  change params.comparableFromVersion.getD ((api.maxSloVersion params.name).getD 1) ≤
    (api.maxSloVersion params.name).getD 0 + 1
  cases marked : params.comparableFromVersion with
  | some marker =>
      rcases earlier marker marked with ⟨slo, member, named, below⟩
      have later := version_lt_next member named
      exact le_trans below (le_of_lt later)
  | none =>
      cases api.maxSloVersion params.name with
      | none => exact le_refl _
      | some version => exact le_of_lt (Int.lt_succ version)

theorem markersBelow_of_written {added : List SLO} {gone : List String} (below : MarkersBelow api)
    (written : Written api later added gone)
    (new : forall row, row ∈ added -> row.generatedByGroup ≠ none ->
      row.comparableFromVersion ≤ row.version) :
    MarkersBelow later := by
  intro slo member generated
  rw [written] at member
  rcases List.mem_map.mp member with ⟨row, listed, same⟩
  subst same
  rw [retire_generatedByGroup] at generated
  rw [retire_comparableFromVersion, retire_version]
  rcases List.mem_append.mp listed with old | isNew
  · exact below row old generated
  · exact new row isNew generated

theorem oldMarker_eq_some {rows : List SLO} {marker : Int}
    (found : oldMarker rows name = some marker) :
    Exists fun slo => slo ∈ rows ∧ slo.name = name ∧ slo.comparableFromVersion = marker := by
  rcases Option.map_eq_some_iff.mp found with ⟨slo, last, same⟩
  have selected := List.find?_some last
  exact ⟨slo, List.mem_reverse.mp (List.mem_of_find?_eq_some last), of_decide_eq_true selected, same⟩

theorem mem_generatedSlos {group : Nat} {slo : SLO} :
    slo ∈ api.generatedSlos group ↔
      slo ∈ api.slos.rows ∧ slo.generatedByGroup = some group ∧ slo.active = true := by
  unfold Api.generatedSlos
  rw [List.mem_filter, Bool.and_eq_true, decide_eq_true_eq]

theorem planned_earlierMarker {group : Nat} {oldIndicators newIndicators : Dict String}
    {changed : Bool} (below : MarkersBelow api)
    (unmarked : forall spec, spec ∈ specs -> spec.comparableFromVersion = none)
    (planned : params ∈ plannedVersions (planRegeneration (api.generatedSlos group) specs
      oldIndicators newIndicators changed)) :
    EarlierMarker api params := by
  intro marker marked
  rcases List.mem_append.mp planned with created | updated
  · rcases List.mem_filterMap.mp created with ⟨name, _, found⟩
    rw [unmarked params (specNamed_mem found)] at marked
    cases marked
  · rcases List.mem_map.mp updated with ⟨action, isAction, made⟩
    rcases List.mem_filterMap.mp isAction with ⟨name, _, mapped⟩
    rcases Option.map_eq_some_iff.mp mapped with ⟨spec, found, isMade⟩
    subst isMade
    subst made
    have named : spec.name = name := specNamed_name found
    change (if _ then none else oldMarker (api.generatedSlos group) name) = some marker at marked
    split at marked
    · cases marked
    · rcases oldMarker_eq_some marked with ⟨slo, member, isNamed, isMarker⟩
      rcases mem_generatedSlos.mp member with ⟨inside, owner, _⟩
      refine ⟨slo, inside, isNamed.trans named.symm, ?_⟩
      rw [<- isMarker]
      refine below slo inside ?_
      rw [owner]
      exact Option.some_ne_none group

theorem request_markersBelow {request : GroupRequest} (below : MarkersBelow api)
    (accepted : request.command api = .ok later) : MarkersBelow later := by
  cases request with
  | create body =>
      rcases create_record accepted with ⟨record⟩
      refine markersBelow_of_written below record.written fun row member _ => ?_
      rcases mem_related record.each.flip member with ⟨spec, listed, middle, _, made⟩
      subst made
      rcases generateSloSpecs_mem record.generated listed with ⟨values, same⟩
      refine nextSlo_marker fun marker marked => ?_
      rw [same] at marked
      cases marked
  | update name body =>
      rcases update_record accepted with ⟨record⟩
      refine markersBelow_of_written below record.written fun row member _ => ?_
      rcases List.mem_map.mp member with ⟨params, planned, made⟩
      subst made
      rw [record.isPlan] at planned
      refine nextSlo_marker (planned_earlierMarker below (fun spec listed => ?_) planned)
      rcases generateSloSpecs_mem record.generated listed with ⟨values, same⟩
      rw [same]
      rfl
  | extract name body =>
      rcases extract_record accepted with ⟨record⟩
      refine markersBelow_of_written below record.written fun row member generated => ?_
      rw [List.mem_singleton.mp member] at generated
      exact absurd rfl generated
  | delete name =>
      rcases delete_record accepted with ⟨record⟩
      refine markersBelow_of_written below record.written fun row member _ => ?_
      exact absurd member List.not_mem_nil

theorem step_markersBelow {event : RegistryEvent} (below : MarkersBelow api)
    (stepped : RegistryEvent.step api event = some later) : MarkersBelow later := by
  cases event with
  | group request => exact request_markersBelow below (toOption_eq_some.mp stepped)
  | defineSlo body =>
      rcases createSlo_eq_ok (toOption_eq_some.mp stepped) with ⟨_, _, fresh, left⟩
      subst left
      intro slo member generated
      rcases (mem_insert _ _ fresh slo).mp member with old | new
      · exact below slo old generated
      · subst new
        exact absurd rfl generated
  | removeSlo name =>
      have accepted := toOption_eq_some.mp stepped
      unfold deleteSlo at accepted
      split at accepted
      · cases accepted
      · cases accepted
        have written : Written api (api.deactivateSlo name) [] [name] := by
          unfold Written
          rw [List.append_nil]
          exact deactivateSlo_rows api name
        exact markersBelow_of_written below written fun row member => absurd member List.not_mem_nil
  | defineSli body =>
      rcases createSli_eq_ok (toOption_eq_some.mp stepped) with ⟨_, _, _, _, _, left⟩
      subst left
      exact below
  | reordered reordering =>
      cases stepped
      intro slo member generated
      exact below slo ((reordering.perm api.slos.rows).mem_iff.mp member) generated

theorem planned_of_remains {oldGenerated : List SLO} {oldIndicators newIndicators : Dict String}
    {changed : Bool} (old : name ∈ oldGenerated.map SLO.name)
    (new : name ∈ specs.map SLOCreateParams.name) :
    Exists fun params => params.name = name ∧ params.comparableFromVersion =
        (if (indicatorsChanged oldIndicators newIndicators || changed) = true then none
          else oldMarker oldGenerated name) ∧
      params ∈ plannedVersions (planRegeneration oldGenerated specs oldIndicators newIndicators
        changed) := by
  rcases specNamed_isSome new with ⟨spec, found⟩
  have listed : name ∈ sortedNames ((oldGenerated.map SLO.name).filter fun name =>
      (specs.map SLOCreateParams.name).contains name) :=
    mem_sortedNames.mpr (List.mem_filter.mpr ⟨old, List.contains_iff_mem.mpr new⟩)
  refine ⟨_, ?_, rfl, List.mem_append.mpr (Or.inr (List.mem_map.mpr ⟨⟨spec, _⟩, ?_, rfl⟩))⟩
  · have named : spec.name = name := specNamed_name found
    exact named
  · refine List.mem_filterMap.mpr ⟨name, listed, ?_⟩
    rw [found]
    rfl

theorem update_stores (record : GroupUpdate name body api later) {template : SLO} {group : SLOGroup}
    {sloName : String} (remains : Remains api name body group template sloName) :
    Exists fun previous => Exists fun new => previousVersion api sloName = some previous ∧
      later.slos.find (sloName, previous.version + 1) = some new ∧
      new.version = previous.version + 1 ∧
      new.comparableFromVersion =
        (if BreaksBaseline api group body template = true then none
          else oldMarker (api.generatedSlos group.id) sloName).getD previous.version := by
  rcases remains with ⟨isGroup, old, specs, generated, new⟩
  rw [record.isGroup] at isGroup
  cases isGroup
  rw [updatedSpecs_eq record] at generated
  cases generated
  rcases List.mem_map.mp old with ⟨slo, isGenerated, named⟩
  subst named
  rcases previousVersion_of_mem (mem_generatedSlos.mp isGenerated).1 with ⟨previous, isPrevious, maximum, _⟩
  rcases planned_of_remains old new with ⟨params, isNamed, marker, planned⟩
  rw [<- record.isPlan] at planned
  have version : (api.nextSlo params).version = previous.version + 1 := by
    change (api.maxSloVersion params.name).getD 0 + 1 = _
    rw [isNamed, maximum]
    rfl
  have kept : params.name ∉ record.plan.toDeactivate := by
    rw [isNamed, record.isPlan, mem_toDeactivate]
    exact fun gone => gone.2 new
  have stored : api.nextSlo params ∈ later.slos.rows := by
    rw [record.written]
    refine List.mem_map.mpr ⟨api.nextSlo params, ?_, retire_of_not_mem _ _ kept⟩
    exact List.mem_append.mpr (Or.inr (List.mem_map_of_mem planned))
  have key : (api.nextSlo params).key = (slo.name, previous.version + 1) :=
    Prod.ext isNamed version
  refine ⟨previous, api.nextSlo params, isPrevious, ?_, version, ?_⟩
  · rw [<- key]
    exact find_of_mem stored
  · change params.comparableFromVersion.getD ((api.maxSloVersion params.name).getD 1) = _
    rw [marker, isNamed, maximum, Option.getD_some]
    unfold BreaksBaseline
    rw [record.isCurrent]
    rfl

/-- The marker of a name that remains is the right one exactly when the update is not
breaking and what the code does instead comes to the same. -/
theorem marker_iff {breaking breaks : Bool} {kept marker version : Int} (below : kept ≤ version) :
    ((if breaks = true then none else some kept).getD version =
        if breaking = true then version + 1 else marker) ↔
      breaking = false ∧ if breaks = true then marker = version else some kept = some marker := by
  cases breaking with
  | true =>
      refine iff_of_false ?_ fun both => Bool.noConfusion both.1
      cases breaks with
      | true => exact ne_of_lt (Int.lt_succ version)
      | false => exact ne_of_lt (lt_of_le_of_lt below (Int.lt_succ version))
  | false =>
      rw [and_iff_right rfl]
      cases breaks with
      | true => exact eq_comm
      | false => exact (Option.some.injEq kept marker).symm ▸ Iff.rfl

theorem update_marks_iff (below : MarkersBelow api) (record : GroupUpdate name body api later) :
    MarksVersions api name body later ↔ KeepsMarkers api name body := by
  have each : forall group template sloName previous, Remains api name body group template sloName ->
      previousVersion api sloName = some previous -> Exists fun new =>
        later.slos.find (sloName, previous.version + 1) = some new ∧
        (new.comparableFromVersion = (if Breaking api group body template = true then new.version
            else previous.comparableFromVersion) ↔
          Breaking api group body template = false ∧
            if BreaksBaseline api group body template = true then
              previous.comparableFromVersion = previous.version
            else oldMarker (api.generatedSlos group.id) sloName =
              some previous.comparableFromVersion) := by
    intro group template sloName previous remains isPrevious
    rcases update_stores record remains with ⟨highest, new, isHighest, found, version, marker⟩
    rw [isPrevious] at isHighest
    cases isHighest
    refine ⟨new, found, ?_⟩
    rcases List.mem_map.mp remains.2.1 with ⟨slo, isGenerated, named⟩
    have present : Exists fun kept => oldMarker (api.generatedSlos group.id) sloName = some kept := by
      cases last : (api.generatedSlos group.id).reverse.find? fun slo => slo.name = sloName with
      | some slo => exact ⟨slo.comparableFromVersion, congrArg (Option.map _) last⟩
      | none =>
          have refused := List.find?_eq_none.mp last slo (List.mem_reverse.mpr isGenerated)
          exact absurd (decide_eq_true named) refused
    rcases present with ⟨kept, isKept⟩
    rcases oldMarker_eq_some isKept with ⟨row, rowIn, rowNamed, rowMarker⟩
    rcases mem_generatedSlos.mp rowIn with ⟨inside, owner, _⟩
    have keptBelow : kept ≤ previous.version := by
      rcases previousVersion_of_mem inside with ⟨top, isTop, _, above⟩
      rw [rowNamed, isPrevious] at isTop
      cases isTop
      have rowBelow := below row inside (owner ▸ Option.some_ne_none group.id)
      rw [rowMarker] at rowBelow
      exact le_trans rowBelow above
    rw [marker, version, isKept]
    exact marker_iff keptBelow
  constructor
  · intro marks group template sloName previous remains isPrevious
    rcases each group template sloName previous remains isPrevious with ⟨new, found, decided⟩
    rcases marks group template sloName remains with ⟨highest, other, isHighest, isOther, marked⟩
    rw [isPrevious] at isHighest
    cases isHighest
    rw [found] at isOther
    cases isOther
    exact decided.mp marked
  · intro keeps group template sloName remains
    rcases List.mem_map.mp remains.2.1 with ⟨slo, isGenerated, named⟩
    rcases previousVersion_of_mem (mem_generatedSlos.mp isGenerated).1 with ⟨previous, isPrevious, _⟩
    rw [named] at isPrevious
    rcases each group template sloName previous remains isPrevious with ⟨new, found, decided⟩
    exact ⟨previous, new, isPrevious, found,
      decided.mpr (keeps group template sloName previous remains isPrevious)⟩

def Marked (api : Api) : RegistryEvent -> Prop
  | .group (.update name body) => forall later, updateSloGroup name body api = .ok later ->
      MarksVersions api name body later
  | _ => True

def Harmless (api : Api) : RegistryEvent -> Prop
  | .group (.update name body) => forall later, updateSloGroup name body api = .ok later ->
      KeepsMarkers api name body
  | _ => True

theorem marked_iff_harmless (below : MarkersBelow api) (event : RegistryEvent) :
    Marked api event ↔ Harmless api event := by
  cases event with
  | group request =>
      cases request with
      | update name body =>
          refine forall_congr' fun later => forall_congr' fun accepted => ?_
          rcases update_record accepted with ⟨record⟩
          exact update_marks_iff below record
      | create | extract | delete => exact Iff.rfl
  | defineSlo | removeSlo | defineSli | reordered => exact Iff.rfl

/-- In a run from a registry without generated SLOs, all updates of groups follow the rule
for the markers exactly when none of them is breaking, and the markers that are kept
instead are those of the latest versions. -/
theorem along_marked_iff_harmless {api : Api} (start : forall slo, slo ∈ api.slos.rows ->
      slo.generatedByGroup = none) (events : List RegistryEvent) :
    TransitionSystem.Along RegistryEvent.step Marked api events ↔
      TransitionSystem.Along RegistryEvent.step Harmless api events := by
  have below : MarkersBelow api := fun slo member generated => absurd (start slo member) generated
  constructor
  · exact TransitionSystem.along_of_invariant
      (fun _ _ _ holds _ stepped => step_markersBelow holds stepped)
      (fun _ event holds marked => (marked_iff_harmless holds event).mp marked) below
  · exact TransitionSystem.along_of_invariant
      (fun _ _ _ holds _ stepped => step_markersBelow holds stepped)
      (fun _ event holds harmless => (marked_iff_harmless holds event).mpr harmless) below

def cartEvents : List RegistryEvent :=
  [.defineSlo {
      name := "cart-$__gen_zone"
      objectives := [{ sli := "latency" }]
      kind := "template" },
    .group (.create {
      name := "carts"
      templateSloName := "cart-$__gen_zone"
      templateSloVersion := 1
      genVariables := (∅ : Dict (List String)).insert "zone" ["north"] })]

def cartApi : Api :=
  (TransitionSystem.exec RegistryEvent.step Api.empty cartEvents).getD Api.empty

theorem cart_ran : TransitionSystem.exec RegistryEvent.step Api.empty cartEvents = some cartApi := by
  have accepted : (TransitionSystem.exec RegistryEvent.step Api.empty cartEvents).isSome = true := by
    decide +kernel
  rcases Option.isSome_iff_exists.mp accepted with ⟨api, ran⟩
  unfold cartApi
  rw [ran, Option.getD_some]

def cartRenaming : SLOGroupUpdate :=
  { displayName := some "Carts" }

def cartExtension : SLOGroupUpdate :=
  { genVariables := some ((∅ : Dict (List String)).insert "zone" ["north", "south"]) }

theorem renaming_keepsMarkers : KeepsMarkers cartApi "carts" cartRenaming := by
  have decided : forall group, group ∈ cartApi.activeSloGroup "carts" ->
      forall made, made ∈ (updatedSpecs cartApi "carts" cartRenaming).toOption ->
      forall sloName, sloName ∈ cartApi.generatedNames group.id ->
      forall previous, previous ∈ previousVersion cartApi sloName ->
        Breaking cartApi group cartRenaming made.1 = false ∧
          if BreaksBaseline cartApi group cartRenaming made.1 = true then
            previous.comparableFromVersion = previous.version
          else oldMarker (cartApi.generatedSlos group.id) sloName =
            some previous.comparableFromVersion := by decide +kernel
  rintro group template sloName previous ⟨isGroup, old, specs, generated, _⟩ isPrevious
  exact decided group isGroup (template, specs) (toOption_eq_some.mpr generated) sloName old
    previous isPrevious

theorem renaming_marked : TransitionSystem.Along RegistryEvent.step Marked Api.empty
    (cartEvents ++ [.group (.update "carts" cartRenaming)]) := by
  refine (along_marked_iff_harmless (fun slo member => absurd member List.not_mem_nil) _).mpr ?_
  refine TransitionSystem.along_concat (TransitionSystem.along_of_mem fun api event member => ?_)
    cart_ran ⟨fun _ _ => renaming_keepsMarkers, ?_⟩
  · rcases List.mem_cons.mp member with same | later
    · rw [same]
      trivial
    · rw [List.mem_singleton.mp later]
      trivial
  · cases RegistryEvent.step cartApi (.group (.update "carts" cartRenaming)) <;> trivial

/-- The SLO that remains in a larger table is comparable from its first version on, and not
from its second one. -/
theorem extension_not_marked : ¬ TransitionSystem.Along RegistryEvent.step Marked Api.empty
    (cartEvents ++ [.group (.update "carts" cartExtension)]) := by
  intro along
  have marked := (TransitionSystem.along_append along cart_ran).2.1
  have outcome : (updateSloGroup "carts" cartExtension cartApi).toOption.bind (fun later =>
      (later.slos.find ("cart-north", 2)).map fun slo => (slo.version, slo.comparableFromVersion)) =
      some (2, 1) := by decide +kernel
  have breaking : ((cartApi.activeSloGroup "carts").bind fun group =>
      (updatedSpecs cartApi "carts" cartExtension).toOption.map fun made =>
        (Breaking cartApi group cartExtension made.1,
          (cartApi.generatedNames group.id).contains "cart-north",
          (made.2.map SLOCreateParams.name).contains "cart-north")) = some (true, true, true) := by
    decide +kernel
  have first : (previousVersion cartApi "cart-north").map SLO.version = some 1 := by decide +kernel
  rcases Option.bind_eq_some_iff.mp outcome with ⟨later, accepted, stored⟩
  rcases Option.map_eq_some_iff.mp stored with ⟨slo, found, numbers⟩
  rcases Option.bind_eq_some_iff.mp breaking with ⟨group, isGroup, made⟩
  rcases Option.map_eq_some_iff.mp made with ⟨⟨template, specs⟩, generated, facts⟩
  rcases Prod.mk.inj facts with ⟨breaks, names⟩
  rcases Prod.mk.inj names with ⟨old, new⟩
  have remains : Remains cartApi "carts" cartExtension group template "cart-north" :=
    ⟨isGroup, List.contains_iff_mem.mp old, specs, toOption_eq_some.mp generated,
      List.contains_iff_mem.mp new⟩
  rcases marked later (toOption_eq_some.mp accepted) group template "cart-north" remains with
    ⟨previous, other, isPrevious, isOther, marker⟩
  rw [isPrevious, Option.map_some, Option.some.injEq] at first
  rw [first] at isOther
  have same : some slo = some other := found.symm.trans isOther
  cases same
  rw [breaks, if_pos rfl] at marker
  rcases Prod.mk.inj numbers with ⟨version, comparable⟩
  rw [version, comparable] at marker
  exact absurd marker (by decide)

end Catalog
end Tropek
