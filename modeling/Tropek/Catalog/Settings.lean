import Tropek.Catalog.Agreement
import Tropek.Catalog.Generation

namespace Tropek
namespace Catalog

open Library Manifest KeyedTable Fallible
open Engine (Dict)

/-!
# Change point settings of copied objectives

An objective may have change point settings of its own, else the system defaults apply
when the detector runs.  The requests on groups copy objectives without their settings.
What a copy gets instead is what the previous version of its name has for the metric, so
that settings are lost, and settings that nobody asked for come back.
-/

structure DetectorDefaults where
  settings : ChangePointConfigInput := {}
  pvalueStrictThreshold : Option ℚ := none
  pvalueModerateThreshold : Option ℚ := none

structure ResolvedConfig where
  config : ChangePointConfig
  pvalueStrictThreshold : ℚ
  pvalueModerateThreshold : ℚ
deriving DecidableEq, Repr

/-- `resolve_from_objective`: the row of the objective, else the system defaults. -/
def resolveFromObjective (changePoint : Option ChangePointConfig) (defaults : DetectorDefaults) :
    ResolvedConfig where
  config := changePoint.getD (ChangePointConfigInput.resolve {} defaults.settings)
  pvalueStrictThreshold := defaults.pvalueStrictThreshold.getD (1 / 20)
  pvalueModerateThreshold := defaults.pvalueModerateThreshold.getD (1 / 2)

/-- Objective by objective, the copy resolves to what its source resolves to. -/
def Faithful (defaults : DetectorDefaults) (source copy : SLO) : Prop :=
  List.Forall₂ (fun copied objective : Objective => copied.sli = objective.sli ∧
    resolveFromObjective copied.changePoint defaults =
      resolveFromObjective objective.changePoint defaults) copy.objectives source.objectives

/-- The SLO that a request copies, and the names that it stores copies under. -/
def GroupRequest.copies (api : Api) : GroupRequest -> Option (SLO × List String)
  | .create body => (createdSpecs api body).toOption.map fun made =>
      (made.1, made.2.map SLOCreateParams.name)
  | .update name body => (updatedSpecs api name body).toOption.map fun made =>
      (made.1, made.2.map SLOCreateParams.name)
  | .extract _ body => (api.latestSlo body.sloName).map fun slo => (slo, [body.newName])
  | .delete _ => none

def SettingsKept (defaults : DetectorDefaults) (request : GroupRequest) (api later : Api) : Prop :=
  forall source names, request.copies api = some (source, names) ->
    forall row, row ∈ later.slos.rows -> api.slos.find row.key = none -> Faithful defaults source row

/-- For each metric, the previous version of each name resolves to what the source
resolves to. -/
def Carried (defaults : DetectorDefaults) (request : GroupRequest) (api : Api) : Prop :=
  forall source names, request.copies api = some (source, names) ->
    forall name, name ∈ names -> forall objective, objective ∈ source.objectives ->
      resolveFromObjective (previousConfig (previousVersion api name) objective.sli) defaults =
        resolveFromObjective objective.changePoint defaults

def CopiedFrom (source : SLO) (previous : Option SLO) (row : SLO) : Prop :=
  row.objectives.map (fun copied => (copied.sli, copied.changePoint)) =
    source.objectives.map fun objective => (objective.sli, previousConfig previous objective.sli)

theorem copiedFrom_nextSlo {api : Api} {params : SLOCreateParams} {source : SLO}
    (objectives : params.objectives = source.objectives.map Objective.copied) :
    CopiedFrom source (previousVersion api params.name) (api.nextSlo params) := by
  unfold CopiedFrom
  change (params.objectives.map (storedObjective _ (previousVersion api params.name))).map _ = _
  rw [objectives, List.map_map, List.map_map]
  exact List.map_congr_left fun objective _ => rfl

theorem faithful_iff {defaults : DetectorDefaults} {source row : SLO} {previous : Option SLO}
    (copied : CopiedFrom source previous row) :
    Faithful defaults source row ↔ forall objective, objective ∈ source.objectives ->
      resolveFromObjective (previousConfig previous objective.sli) defaults =
        resolveFromObjective objective.changePoint defaults := by
  let agrees := fun (copy : String × Option ChangePointConfig) (objective : Objective) =>
    copy.1 = objective.sli ∧ resolveFromObjective copy.2 defaults =
      resolveFromObjective objective.changePoint defaults
  have columns : Faithful defaults source row ↔ List.Forall₂ agrees
      (row.objectives.map fun copied => (copied.sli, copied.changePoint)) source.objectives := by
    rw [List.forall₂_map_left_iff]
    rfl
  rw [columns, copied, List.forall₂_map_left_iff, List.forall₂_same]
  exact ⟨fun all objective member => (all objective member).2,
    fun all objective member => ⟨rfl, all objective member⟩⟩

theorem previousConfig_of_copy {source row : SLO} {previous : Option SLO}
    (copied : CopiedFrom source previous row) {objective : Objective}
    (listed : objective ∈ source.objectives) :
    previousConfig (some row) objective.sli = previousConfig previous objective.sli := by
  have each : forall copy, copy ∈ row.objectives -> copy.sli = objective.sli ->
      copy.changePoint = previousConfig previous objective.sli := by
    intro copy member same
    have column : (copy.sli, copy.changePoint) ∈
        row.objectives.map fun copied => (copied.sli, copied.changePoint) :=
      List.mem_map.mpr ⟨copy, member, rfl⟩
    rw [copied] at column
    rcases List.mem_map.mp column with ⟨other, _, pair⟩
    have sameSli : other.sli = copy.sli := congrArg Prod.fst pair
    have sameConfig : previousConfig previous other.sli = copy.changePoint := congrArg Prod.snd pair
    rw [<- sameConfig, sameSli, same]
  have present : Exists fun copy => copy ∈ row.objectives ∧ copy.sli = objective.sli := by
    have column : (objective.sli, previousConfig previous objective.sli) ∈
        source.objectives.map fun objective =>
          (objective.sli, previousConfig previous objective.sli) :=
      List.mem_map.mpr ⟨objective, listed, rfl⟩
    rw [<- copied] at column
    rcases List.mem_map.mp column with ⟨copy, member, pair⟩
    exact ⟨copy, member, congrArg Prod.fst pair⟩
  change ((row.objectives.reverse.find? _).bind Objective.changePoint) = _
  cases found : row.objectives.reverse.find? (fun copy =>
    copy.sli = objective.sli && copy.changePoint.isSome) with
  | some copy =>
      have member := List.mem_reverse.mp (List.mem_of_find?_eq_some found)
      have selected := List.find?_some found
      rw [Bool.and_eq_true, decide_eq_true_eq] at selected
      exact each copy member selected.1
  | none =>
      rcases present with ⟨copy, member, same⟩
      have refused := List.find?_eq_none.mp found copy (List.mem_reverse.mpr member)
      rw [<- each copy member same]
      cases config : copy.changePoint with
      | none => rfl
      | some settings =>
          rw [config, same] at refused
          simp at refused

/-- A list of copies of one source: every name keeps the settings that its previous
version had before the first of them. -/
theorem storeSlos_copies {specs : List SLOCreateParams} {api later : Api} {source : SLO}
    (objectives : forall spec, spec ∈ specs ->
      spec.objectives = source.objectives.map Objective.copied)
    (stored : api.storeSlos specs = .ok later) :
    Exists fun added => later.slos.rows = api.slos.rows ++ added ∧
      List.Forall₂ (fun spec row => row.name = spec.name ∧
        api.slos.find row.key = none ∧
        forall defaults, Faithful defaults source row ↔
          forall objective, objective ∈ source.objectives ->
            resolveFromObjective (previousConfig (previousVersion api spec.name) objective.sli)
              defaults = resolveFromObjective objective.changePoint defaults) specs added := by
  let invariant := fun middle : Api => api.slos.rows ⊆ middle.slos.rows ∧
    forall name objective, objective ∈ source.objectives ->
      previousConfig (previousVersion middle name) objective.sli =
        previousConfig (previousVersion api name) objective.sli
  have holds : invariant api := ⟨List.Subset.refl _, fun _ _ _ => rfl⟩
  have preserves : forall middle spec next, spec ∈ specs -> invariant middle ->
      middle.storeSlo spec = .ok next -> invariant next := by
    rintro middle spec next member ⟨contained, same⟩ first
    have rows := (storeSlo_rows first).2
    refine ⟨?_, fun name objective listed => ?_⟩
    · rw [rows]
      exact List.subset_append_of_subset_left _ contained
    · by_cases named : spec.name = name
      · subst named
        rw [previousVersion_stored first,
          previousConfig_of_copy (copiedFrom_nextSlo (objectives spec member)) listed,
          same spec.name objective listed]
      · have versions : versionsOf next name = versionsOf middle name := by
          have unseen : [middle.nextSlo spec].filter (fun slo => slo.name = name) = [] :=
            List.filter_eq_nil_iff.mpr fun slo inside => by
              rw [List.mem_singleton.mp inside]
              exact fun selected => named (of_decide_eq_true selected)
          unfold versionsOf
          rw [rows, List.filter_append, unseen, List.append_nil]
        rw [previousVersion_congr versions, same name objective listed]
  rcases storeSlos_each holds preserves stored with ⟨added, _, rows, each⟩
  refine ⟨added, rows, ?_⟩
  have copied := Latest.related_with_members each
  refine copied.imp fun spec row related => ?_
  rcases related with ⟨member, _, middle, ⟨contained, same⟩, made⟩
  subst made
  refine ⟨rfl, nextSlo_fresh contained spec, fun defaults => ?_⟩
  rw [faithful_iff (copiedFrom_nextSlo (objectives spec member))]
  refine forall_congr' fun objective => forall_congr' fun listed => ?_
  rw [same spec.name objective listed]

section Requests

variable {defaults : DetectorDefaults} {request : GroupRequest} {api later : Api}

theorem faithful_retire (defaults : DetectorDefaults) (source row : SLO) (gone : List String) :
    Faithful defaults source (retire gone row) ↔ Faithful defaults source row := by
  unfold Faithful
  rw [retire_objectives]

theorem settingsKept_iff_of_added {source : SLO} {names : List String} {added : List SLO}
    {gone : List String} (copies : request.copies api = some (source, names))
    (written : Written api later added gone)
    (fresh : forall row, row ∈ added -> api.slos.find row.key = none)
    (settings : forall row, row ∈ added -> (Faithful defaults source row ↔
      forall objective, objective ∈ source.objectives ->
        resolveFromObjective (previousConfig (previousVersion api row.name) objective.sli) defaults =
          resolveFromObjective objective.changePoint defaults))
    (named : forall name, name ∈ added.map SLO.name ↔ name ∈ names) :
    SettingsKept defaults request api later ↔ Carried defaults request api := by
  constructor
  · intro kept other others same name listed
    rw [copies] at same
    cases same
    rcases List.mem_map.mp ((named name).mpr listed) with ⟨row, member, isNamed⟩
    subst isNamed
    rcases (new_iff_added written fresh (retire gone row)).mpr ⟨row, member, rfl⟩ with ⟨stored, new⟩
    exact (settings row member).mp
      ((faithful_retire defaults source row gone).mp (kept source names copies _ stored new))
  · intro carried other others same row stored new
    rw [copies] at same
    cases same
    rcases (new_iff_added written fresh row).mp ⟨stored, new⟩ with ⟨made, member, retired⟩
    subst retired
    refine (faithful_retire defaults source made gone).mpr ((settings made member).mpr ?_)
    exact carried source names copies made.name
      ((named made.name).mp (List.mem_map_of_mem member))

theorem create_settingsKept_iff {body : SLOGroupCreate} (record : GroupCreation body api later) :
    SettingsKept defaults (.create body) api later ↔ Carried defaults (.create body) api := by
  have objectives : forall spec, spec ∈ record.specs ->
      spec.objectives = record.template.objectives.map Objective.copied := by
    intro spec member
    rcases generateSloSpecs_mem record.generated member with ⟨values, same⟩
    rw [same]
    rfl
  rcases storeSlos_copies objectives record.stored with ⟨added, rows, each⟩
  have written : Written api later added [] := by
    unfold Written
    rw [retire_nil_eq, List.map_id]
    exact rows
  have copies : GroupRequest.copies api (.create body) =
      some (record.template, record.specs.map SLOCreateParams.name) := by
    change (createdSpecs api body).toOption.map _ = _
    rw [createdSpecs_eq record]
    rfl
  refine settingsKept_iff_of_added copies written ?_ ?_ ?_
  · intro row member
    rcases mem_related each.flip member with ⟨_, _, _, fresh, _⟩
    exact fresh
  · intro row member
    rcases mem_related each.flip member with ⟨_, _, named, _, settings⟩
    rw [named]
    exact settings defaults
  · intro name
    have names : added.map SLO.name = record.specs.map SLOCreateParams.name :=
      (Latest.map_eq_of_related (each.imp fun _ _ related => related.1.symm)).symm
    rw [names]

theorem update_settingsKept_iff {name : String} {body : SLOGroupUpdate}
    (record : GroupUpdate name body api later) :
    SettingsKept defaults (.update name body) api later ↔
      Carried defaults (.update name body) api := by
  have copies : GroupRequest.copies api (.update name body) =
      some (record.template, record.specs.map SLOCreateParams.name) := by
    change (updatedSpecs api name body).toOption.map _ = _
    rw [updatedSpecs_eq record]
    rfl
  refine settingsKept_iff_of_added copies record.written ?_ ?_ ?_
  · intro row member
    rcases List.mem_map.mp member with ⟨params, _, made⟩
    subst made
    exact nextSlo_fresh (List.Subset.refl _) params
  · intro row member
    rcases List.mem_map.mp member with ⟨params, isPlanned, made⟩
    subst made
    rw [record.isPlan] at isPlanned
    rcases mem_stored _ _ _ _ _ isPlanned with ⟨spec, listed, _, same⟩
    rcases generateSloSpecs_mem record.generated listed with ⟨values, isSpec⟩
    refine faithful_iff (copiedFrom_nextSlo ?_)
    rw [same, isSpec]
    rfl
  · intro written
    rw [map_name_nextSlo, record.isPlan, mem_stored_names]

theorem extract_settingsKept_iff {name : String} {body : ExtractRequest}
    (record : GroupExtraction name body api later) :
    SettingsKept defaults (.extract name body) api later ↔
      Carried defaults (.extract name body) api := by
  have copies : GroupRequest.copies api (.extract name body) =
      some (record.genSlo, [body.newName]) := by
    change (api.latestSlo body.sloName).map _ = _
    rw [record.isGenSlo]
    rfl
  refine settingsKept_iff_of_added copies record.written ?_ ?_ ?_
  · intro row member
    rw [List.mem_singleton.mp member]
    exact nextSlo_fresh (List.Subset.refl _) _
  · intro row member
    rw [List.mem_singleton.mp member]
    exact faithful_iff (copiedFrom_nextSlo rfl)
  · intro written
    rw [List.map_singleton]
    rfl

end Requests

/-- The versions that an accepted request stores resolve to what their sources resolve
to exactly when the previous versions of their names already did. -/
theorem settingsKept_iff_carried (defaults : DetectorDefaults) (request : GroupRequest)
    (api later : Api) (accepted : request.command api = .ok later) :
    SettingsKept defaults request api later ↔ Carried defaults request api := by
  cases request with
  | create body =>
      rcases create_record accepted with ⟨record⟩
      exact create_settingsKept_iff record
  | update name body =>
      rcases update_record accepted with ⟨record⟩
      exact update_settingsKept_iff record
  | extract name body =>
      rcases extract_record accepted with ⟨record⟩
      exact extract_settingsKept_iff record
  | delete name =>
      refine iff_of_true ?_ ?_ <;> exact fun _ _ impossible => by cases impossible

def quiet : ChangePointConfigInput :=
  { enabled := some false }

def appTemplate : Command :=
  createSlo {
    name := "app-$__gen_service"
    objectives := [{ sli := "latency", changePoint := some quiet }]
    kind := "template" }

def watchedApi : Api :=
  after [appTemplate]

def retiredApi : Api :=
  after [
    appTemplate,
    createSlo {
      name := "app-search"
      objectives := [{ sli := "latency", changePoint := some quiet }] },
    deleteSlo "app-search"]

def watchedGroup : GroupRequest :=
  .create {
    name := "watched"
    templateSloName := "app-$__gen_service"
    templateSloVersion := 1
    genVariables := (∅ : Dict (List String)).insert "service" ["search"] }

/-- The generated SLO has the settings of its retired version, which are those of the
template. -/
theorem retired_settingsKept : Exists fun later =>
    watchedGroup.command retiredApi = .ok later ∧
      SettingsKept {} watchedGroup retiredApi later := by
  have accepted : (watchedGroup.command retiredApi).isOk = true := by
    decide +kernel
  have carried : forall made, made ∈ GroupRequest.copies retiredApi watchedGroup ->
      forall name, name ∈ made.2 -> forall objective, objective ∈ made.1.objectives ->
        resolveFromObjective (previousConfig (previousVersion retiredApi name) objective.sli) {} =
          resolveFromObjective objective.changePoint {} := by
    decide +kernel
  rcases (isOk_iff _).mp accepted with ⟨later, created⟩
  exact ⟨later, created, (settingsKept_iff_carried {} watchedGroup retiredApi later created).mpr
    fun source names copies => carried (source, names) copies⟩

/-- The detector is switched off for the objective of the template, and runs for the
generated one. -/
theorem app_not_settingsKept : Exists fun later =>
    watchedGroup.command watchedApi = .ok later ∧
      ¬ SettingsKept {} watchedGroup watchedApi later := by
  have generated : ((watchedGroup.command watchedApi).toOption.bind
      fun later => (later.slos.find ("app-search", 1)).map fun row =>
        row.objectives.map Objective.changePoint) = some [none] := by decide +kernel
  have template : ((GroupRequest.copies watchedApi watchedGroup).map
      fun made => made.1.objectives.map fun objective =>
        objective.changePoint.map ChangePointConfig.enabled) = some [some false] := by decide +kernel
  have absent : (watchedApi.slos.find ("app-search", 1)).isSome = false := by decide +kernel
  rcases Option.bind_eq_some_iff.mp generated with ⟨later, accepted, stored⟩
  rcases Option.map_eq_some_iff.mp stored with ⟨row, found, unset⟩
  rcases Option.map_eq_some_iff.mp template with ⟨⟨source, names⟩, copies, disabled⟩
  refine ⟨later, toOption_eq_some.mp accepted, fun kept => ?_⟩
  have fresh : watchedApi.slos.find row.key = none := by
    rw [find_key found]
    exact Option.not_isSome_iff_eq_none.mp (Bool.eq_false_iff.mp absent)
  have faithful := kept source names copies row (find_mem found) fresh
  have enabled := Latest.map_eq_of_related (faithful.imp fun copied objective related =>
    congrArg (fun resolved => resolved.config.enabled) related.2)
  have generatedEnabled : (row.objectives.map fun copied =>
      (resolveFromObjective copied.changePoint {}).config.enabled) = [true] := by
    have columns := congrArg (List.map fun config =>
      (resolveFromObjective config {}).config.enabled) unset
    rw [List.map_map] at columns
    exact columns.trans (by decide)
  have templateEnabled : (source.objectives.map fun objective =>
      (resolveFromObjective objective.changePoint {}).config.enabled) = [false] := by
    have columns := congrArg (List.map fun config : Option Bool => config.getD true) disabled
    rw [List.map_map] at columns
    refine Eq.trans (List.map_congr_left fun objective _ => ?_) columns
    cases config : objective.changePoint with
    | none =>
        change _ = ((objective.changePoint.map ChangePointConfig.enabled).getD true)
        rw [config]
        rfl
    | some settings =>
        change _ = ((objective.changePoint.map ChangePointConfig.enabled).getD true)
        rw [config]
        rfl
  rw [generatedEnabled, templateEnabled] at enabled
  cases enabled

end Catalog
end Tropek
