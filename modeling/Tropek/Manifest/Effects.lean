import Mathlib.Data.List.Dedup
import Tropek.Manifest.BindingRoutes

namespace Tropek
namespace Manifest

open Library Engine KeyedTable Fallible

/-!
# What the routes leave

For each route that writes, what is known when it has succeeded: the checks that have
an influence on what follows, and the state that is left.  Later modules use these
facts and do not look into the routes again.
-/

variable {api later : Api} {name asset : String} {names : List String}
  {specs : List SLOCreateParams} {target : Target}

theorem createAssetType_eq_ok {body : AssetTypeCreate}
    (accepted : createAssetType body api = .ok later) :
    (body.isDefault = some true -> forall row, row ∈ api.assetTypes.rows -> row.isDefault = false) ∧
      Exists fun fresh => later = { api with
        assetTypes := api.assetTypes.insert ⟨body.name, body.isDefault.getD false⟩ fresh } := by
  unfold createAssetType at accepted
  simp only [bind_eq_ok] at accepted
  rcases accepted with ⟨_, _, stored⟩
  split at stored
  · cases stored
  · rename_i permitted
    split at stored
    · rename_i fresh
      cases stored
      refine ⟨fun isDefault row member => ?_, fresh, rfl⟩
      rw [isDefault, Option.getD_some, Bool.true_and, List.any_eq_true] at permitted
      exact Bool.eq_false_iff.mpr fun marked => permitted ⟨row, member, marked⟩
    · cases stored

theorem setDefaultAssetType_eq_ok (accepted : setDefaultAssetType name api = .ok later) :
    later = { api with
      assetTypes := api.assetTypes.updateWhere (fun _ => true) (AssetType.setDefault name)
        (fun _ => rfl) } := by
  unfold setDefaultAssetType at accepted
  split at accepted <;> cases accepted
  rfl

theorem createDataSource_eq_ok {body : DataSourceCreate}
    (accepted : createDataSource body api = .ok later) :
    Exists fun fresh => later = { api with
      dataSources := api.dataSources.insert {
        name := body.name
        displayName := body.displayName
        adapterType := body.adapterType
        adapterUrl := body.adapterUrl
        tags := body.tags.getD ∅ } fresh } := by
  unfold createDataSource at accepted
  simp only [bind_eq_ok] at accepted
  rcases accepted with ⟨_, _, _, _, _, _, stored⟩
  split at stored
  · cases stored
    exact ⟨_, rfl⟩
  · cases stored

theorem updateDataSource_eq_ok {body : DataSourceUpdate}
    (accepted : updateDataSource name body api = .ok later) :
    later = { api with
      dataSources := api.dataSources.update name body.apply (fun _ => rfl) } := by
  unfold updateDataSource at accepted
  simp only [bind_eq_ok] at accepted
  rcases accepted with ⟨_, _, _, _, stored⟩
  split at stored <;> cases stored
  rfl

theorem createAsset_eq_ok {body : AssetCreate} (accepted : createAsset body api = .ok later) :
    Exists fun fresh => later = { api with
      assets := api.assets.insert {
        name := body.name
        displayName := body.displayName
        typeName := body.typeName
        tags := body.tags.getD ∅
        vars := body.vars.getD ∅ } fresh } := by
  unfold createAsset at accepted
  simp only [bind_eq_ok] at accepted
  rcases accepted with ⟨_, _, _, _, _, _, _, _, stored⟩
  split at stored
  · cases stored
  · split at stored
    · cases stored
      exact ⟨_, rfl⟩
    · cases stored

theorem updateAsset_eq_ok {body : AssetUpdate} (accepted : updateAsset name body api = .ok later) :
    later = { api with assets := api.assets.update name body.apply (fun _ => rfl) } := by
  unfold updateAsset at accepted
  simp only [bind_eq_ok] at accepted
  rcases accepted with ⟨_, _, _, _, _, _, stored⟩
  split at stored <;> cases stored
  rfl

theorem createSli_eq_ok {body : SLIDefinitionCreate} (accepted : createSli body api = .ok later) :
    Exists fun methods => Exists fun mode => Exists fun fresh =>
      body.methods.mapM (fun methods => methods.mapM parseMethod) = .ok methods ∧
      Registry.validateModeFields
        { name := body.name, mode := body.mode, indicators := body.indicators.getD ∅
          queryTemplate := body.queryTemplate, interval := body.interval, methods } = .ok mode ∧
      later = { api with
        slis := api.slis.insert {
          definition := Registry.storedSli
            { name := body.name, mode := body.mode, indicators := body.indicators.getD ∅
              queryTemplate := body.queryTemplate, interval := body.interval, methods }
            mode ((api.maxSliVersion body.name).getD 0 + 1) ((api.maxSliVersion body.name).getD 1)
          adapterType := body.adapterType
          displayName := body.displayName
          notes := body.notes
          author := body.author } fresh } := by
  unfold createSli at accepted
  simp only [bind_eq_ok] at accepted
  rcases accepted with ⟨_, _, _, _, sli, checkedBody, _, _, mode, validated, stored⟩
  unfold SLIDefinitionCreate.checkedBody at checkedBody
  rcases bind_eq_ok.mp checkedBody with ⟨methods, parsed, same⟩
  cases same
  split at stored
  · cases stored
    exact ⟨methods, mode, _, parsed, mapError_eq_ok validated, rfl⟩
  · cases stored

theorem storeSlo_eq_ok {params : SLOCreateParams} (stored : api.storeSlo params = .ok later) :
    Exists fun fresh => later = { api with slos := api.slos.insert (api.nextSlo params) fresh } := by
  unfold Api.storeSlo at stored
  split at stored
  · cases stored
    exact ⟨_, rfl⟩
  · cases stored

theorem createSlo_eq_ok {body : SLODefinitionCreate} (accepted : createSlo body api = .ok later) :
    Exists fun sliDefinition => api.resolveSli body = .ok sliDefinition ∧
      Exists fun fresh => later = { api with
        slos := api.slos.insert (api.nextSlo (body.params sliDefinition)) fresh } := by
  unfold createSlo at accepted
  simp only [bind_eq_ok] at accepted
  rcases accepted with ⟨_, _, sliDefinition, resolved, stored⟩
  exact ⟨sliDefinition, resolved, storeSlo_eq_ok stored⟩

/-- The table has lost no row, and the versions of the names outside of the list are
what they were. -/
structure Regenerated (names : List String) (before after : KeyedTable SLO.key) : Prop where
  found : forall key, before.find key ≠ none -> after.find key ≠ none
  others : forall name, name ∉ names ->
    (after.rows.filter fun slo => slo.name = name) = before.rows.filter fun slo => slo.name = name

theorem Regenerated.refl (names : List String) (table : KeyedTable SLO.key) :
    Regenerated names table table :=
  ⟨fun _ present => present, fun _ _ => rfl⟩

theorem Regenerated.trans {first second third : KeyedTable SLO.key}
    (before : Regenerated names first second) (after : Regenerated names second third) :
    Regenerated names first third :=
  ⟨fun key present => after.found key (before.found key present),
    fun name outside => (after.others name outside).trans (before.others name outside)⟩

theorem Regenerated.mono {more : List String} {before after : KeyedTable SLO.key}
    (regenerated : Regenerated names before after)
    (listed : forall name, name ∈ names -> name ∈ more) : Regenerated more before after :=
  ⟨regenerated.found, fun name outside =>
    regenerated.others name fun member => outside (listed name member)⟩

theorem regenerated_insert (table : KeyedTable SLO.key) (row : SLO)
    (fresh : table.find row.key = none) (listed : row.name ∈ names) :
    Regenerated names table (table.insert row fresh) := by
  constructor
  · intro key present
    rw [find_insert]
    split
    · exact Option.some_ne_none row
    · exact present
  · intro name outside
    have other : ¬ row.name = name := fun same => outside (same ▸ listed)
    change (table.rows ++ [row]).filter (fun slo => slo.name = name) = _
    rw [List.filter_append, List.filter_singleton]
    simp [other]

theorem storeSlos_eq_ok (stored : api.storeSlos specs = .ok later) :
    later = { api with slos := later.slos } ∧
      Regenerated (specs.map SLOCreateParams.name) api.slos later.slos := by
  have general : forall names : List String, (forall spec, spec ∈ specs -> spec.name ∈ names) ->
      later = { api with slos := later.slos } ∧ Regenerated names api.slos later.slos := by
    intro names listed
    unfold Api.storeSlos at stored
    induction specs generalizing api with
    | nil =>
        cases stored
        exact ⟨rfl, Regenerated.refl names _⟩
    | cons spec rest ih =>
        rw [List.foldlM_cons] at stored
        rcases bind_eq_ok.mp stored with ⟨next, first, storedRest⟩
        rcases storeSlo_eq_ok first with ⟨fresh, same⟩
        rcases ih storedRest fun other member =>
          listed other (List.mem_cons_of_mem _ member) with ⟨rest, regenerated⟩
        subst same
        exact ⟨rest, (regenerated_insert _ _ fresh (listed spec List.mem_cons_self)).trans
          regenerated⟩
  exact general _ fun spec member => List.mem_map.mpr ⟨spec, member, rfl⟩

theorem regenerated_updateWhere (table : KeyedTable SLO.key) (condition : SLO -> Bool)
    (change : SLO -> SLO) (keeps : forall row, (change row).key = row.key)
    (listed : forall row, condition row = true -> row.name ∈ names) :
    Regenerated names table (table.updateWhere condition change keeps) := by
  constructor
  · intro key present
    rw [find_updateWhere]
    exact fun absent => present (Option.map_eq_none_iff.mp absent)
  · intro name outside
    refine filter_map_of_unchanged table.rows (fun slo => slo.name = name)
      (fun row => if condition row then change row else row) fun row _ => ?_
    by_cases selected : condition row = true
    · have sameName : (change row).name = row.name := congrArg Prod.fst (keeps row)
      have different : ¬ row.name = name := fun same => outside (same ▸ listed row selected)
      rw [if_pos selected, sameName]
      exact Or.inr ⟨decide_eq_false different, decide_eq_false different⟩
    · rw [if_neg selected]
      exact Or.inl rfl

theorem deactivateSlo_leaves (api : Api) (name : String) (listed : name ∈ names) :
    api.deactivateSlo name = { api with slos := (api.deactivateSlo name).slos } ∧
      Regenerated names api.slos (api.deactivateSlo name).slos := by
  refine ⟨rfl, regenerated_updateWhere api.slos (fun slo => slo.name = name)
    (fun slo => { slo with active := false }) (fun _ => rfl) fun row selected => ?_⟩
  rw [of_decide_eq_true selected]
  exact listed

theorem deactivateAll_leaves (api : Api) {gone : List String}
    (listed : forall name, name ∈ gone -> name ∈ names) :
    gone.foldl Api.deactivateSlo api =
        { api with slos := (gone.foldl Api.deactivateSlo api).slos } ∧
      Regenerated names api.slos (gone.foldl Api.deactivateSlo api).slos := by
  induction gone generalizing api with
  | nil => exact ⟨rfl, Regenerated.refl names _⟩
  | cons name rest ih =>
      rcases deactivateSlo_leaves api name (listed name List.mem_cons_self) with ⟨same, first⟩
      rcases ih (api.deactivateSlo name) fun other member =>
        listed other (List.mem_cons_of_mem _ member) with ⟨sameRest, regenerated⟩
      rw [List.foldl_cons]
      refine ⟨sameRest.trans ?_, first.trans regenerated⟩
      rw [same]

theorem specNamed_mem {spec : SLOCreateParams} (found : specNamed specs name = some spec) :
    spec ∈ specs :=
  List.mem_reverse.mp (List.mem_of_find?_eq_some found)

theorem mem_sortedNames : name ∈ sortedNames names ↔ name ∈ names := by
  unfold sortedNames
  rw [List.mem_insertionSort, List.mem_dedup]

/-- A regeneration writes versions of the names that the group had and of those that it
gets. -/
theorem applyRegenerationPlan_eq_ok {oldGenerated : List SLO}
    {oldIndicators newIndicators : Dict String} {changed : Bool}
    (regenerated : api.applyRegenerationPlan (planRegeneration oldGenerated specs oldIndicators
      newIndicators changed) = .ok later) :
    later = { api with slos := later.slos } ∧
      Regenerated (specs.map SLOCreateParams.name ++ oldGenerated.map SLO.name) api.slos
        later.slos := by
  let names := specs.map SLOCreateParams.name ++ oldGenerated.map SLO.name
  have ofSpec : forall name spec, specNamed specs name = some spec -> spec.name ∈ names :=
    fun name spec found =>
      List.mem_append.mpr (Or.inl (List.mem_map.mpr ⟨spec, specNamed_mem found, rfl⟩))
  unfold Api.applyRegenerationPlan planRegeneration at regenerated
  rcases bind_eq_ok.mp regenerated with ⟨stored, storedSpecs, finished⟩
  rcases storeSlos_eq_ok storedSpecs with ⟨same, written⟩
  have generated : Regenerated names api.slos stored.slos := written.mono fun name member => by
    rcases List.mem_map.mp member with ⟨params, inside, named⟩
    subst named
    rcases List.mem_append.mp inside with created | updated
    · rcases List.mem_filterMap.mp created with ⟨_, _, found⟩
      exact ofSpec _ _ found
    · rcases List.mem_map.mp updated with ⟨action, isAction, same⟩
      subst same
      rcases List.mem_filterMap.mp isAction with ⟨_, _, mapped⟩
      rcases Option.map_eq_some_iff.mp mapped with ⟨spec, found, made⟩
      subst made
      exact ofSpec _ spec found
  have listed : forall name, name ∈ sortedNames ((oldGenerated.map SLO.name).filter
      fun name => !(specs.map SLOCreateParams.name).contains name) -> name ∈ names :=
    fun name member =>
      List.mem_append.mpr (Or.inr (List.mem_filter.mp (mem_sortedNames.mp member)).1)
  rcases deactivateAll_leaves stored listed with ⟨sameGone, gone⟩
  cases finished
  refine ⟨sameGone.trans ?_, generated.trans gone⟩
  rw [same]

theorem updateSloGroup_eq_ok {body : SLOGroupUpdate}
    (accepted : updateSloGroup name body api = .ok later) :
    Exists fun group => Exists fun current => Exists fun template => Exists fun specs =>
      api.activeSloGroup name = some group ∧ api.slos.find group.templateSlo = some current ∧
      api.effectiveTemplate body current = .ok template ∧
      generateSloSpecs template (effectiveVariables body.genVariables group.genVariables) group.id =
        .ok specs ∧
      later = { api with
        slos := later.slos
        sloGroups := api.sloGroups.update group.id (body.apply template) (fun _ => rfl) } ∧
      Regenerated (specs.map SLOCreateParams.name ++ api.generatedNames group.id) api.slos
        later.slos := by
  unfold updateSloGroup at accepted
  simp only [bind_eq_ok] at accepted
  rcases accepted with ⟨_, _, _, _, _, _, group, isGroup, current, isCurrent, template,
    isTemplate, specs, generated, regenerated, replaced, finished⟩
  rcases applyRegenerationPlan_eq_ok replaced with ⟨same, written⟩
  cases finished
  refine ⟨group, current, template, specs, orRaise_eq_ok.mp isGroup,
    orRaise_eq_ok.mp isCurrent, isTemplate, generated, ?_, written⟩
  rw [same]

theorem createSloGroup_eq_ok {body : SLOGroupCreate}
    (accepted : createSloGroup body api = .ok later) :
    Exists fun template => Exists fun specs => Exists fun fresh =>
      api.loadTemplateSlo body.templateSloName (some body.templateSloVersion) = .ok template ∧
      generateSloSpecs template body.genVariables api.freshGroupId = .ok specs ∧
      api.checkCollisions specs = .ok () ∧ api.activeSloGroup body.name = none ∧
      later = { api with
        slos := later.slos
        sloGroups := api.sloGroups.insert {
          id := api.freshGroupId
          name := body.name
          displayName := body.displayName
          templateSlo := template.key
          genVariables := body.genVariables
          tags := body.tags.getD ∅
          author := body.author } fresh } ∧
      Regenerated (specs.map SLOCreateParams.name) api.slos later.slos := by
  unfold createSloGroup at accepted
  simp only [bind_eq_ok] at accepted
  rcases accepted with ⟨_, _, _, _, _, _, _, _, template, isTemplate, specs, generated, _,
    noCollision, stored⟩
  split at stored
  · cases stored
  · rename_i unused
    split at stored
    · rename_i fresh
      rcases storeSlos_eq_ok stored with ⟨same, written⟩
      exact ⟨template, specs, fresh, isTemplate, generated, noCollision,
        Option.not_isSome_iff_eq_none.mp unused, same, written⟩
    · cases stored

theorem createAssetGroup_eq_ok {body : AssetGroupCreate}
    (accepted : createAssetGroup body api = .ok later) :
    Exists fun fresh => later = { api with
      assetGroups := api.assetGroups.insert
        { name := body.name, displayName := body.displayName } fresh } := by
  unfold createAssetGroup at accepted
  simp only [bind_eq_ok] at accepted
  rcases accepted with ⟨_, _, _, _, stored⟩
  split at stored
  · cases stored
    exact ⟨_, rfl⟩
  · cases stored

theorem addGroupMember_eq_ok {weight : Option ℚ}
    (accepted : addGroupMember name asset weight api = .ok later) :
    later = { api with
      assetGroups := api.assetGroups.update name (AssetGroup.addMember asset (weight.getD 1))
        (fun _ => rfl) } := by
  unfold addGroupMember at accepted
  rcases bind_eq_ok.mp accepted with ⟨_, _, stored⟩
  split at stored
  · cases stored
  · split at stored <;> cases stored
    rfl

theorem addGroupSubgroup_eq_ok {child : String} {weight : Option ℚ}
    (accepted : addGroupSubgroup name child weight api = .ok later) :
    later = { api with
      assetGroups := api.assetGroups.update name (AssetGroup.addSubgroup child (weight.getD 1))
        (fun _ => rfl) } := by
  unfold addGroupSubgroup at accepted
  rcases bind_eq_ok.mp accepted with ⟨_, _, stored⟩
  split at stored
  · cases stored
  · split at stored <;> cases stored
    rfl

theorem createDisplayGroup_eq_ok {body : DisplayGroupCreate}
    (accepted : createDisplayGroup body api = .ok later) :
    Exists fun fresh => later = { api with
      displayGroups := api.displayGroups.insert {
        name := body.name
        displayName := body.displayName
        parent := body.parent
        sortOrder := body.sortOrder } fresh } := by
  unfold createDisplayGroup at accepted
  simp only [bind_eq_ok] at accepted
  rcases accepted with ⟨_, _, _, _, _, _, stored⟩
  split at stored
  · cases stored
  · split at stored
    · cases stored
      exact ⟨_, rfl⟩
    · cases stored

theorem addDisplayGroupMember_eq_ok {sloName : String}
    (accepted : addDisplayGroupMember name sloName api = .ok later) :
    later = { api with
      displayGroups := api.displayGroups.update name (DisplayGroup.addMember sloName)
        (DisplayGroup.addMember_name sloName) } := by
  unfold addDisplayGroupMember at accepted
  rcases bind_eq_ok.mp accepted with ⟨_, _, stored⟩
  split at stored <;> cases stored
  rfl

theorem checkTarget_eq_ok {answer : Unit} (accepted : api.checkTarget target = .ok answer) :
    api.hasTarget target = true := by
  unfold Api.checkTarget at accepted
  split at accepted
  · assumption
  · cases accepted

/-- An upsert inserts a row for the name of the SLO, or changes the data source of the
one row that is pinned to the version. -/
theorem upsertSloAssignment_eq_ok {slo : SLO} {dataSource : String}
    (stored : api.upsertSloAssignment target slo dataSource = .ok later) :
    ((forall row, row ∈ api.assignmentsOf target -> row.sloDefinition ≠ slo.key) ∧
      Exists fun fresh => later = { api with
        sloAssignments := api.sloAssignments.insert
          ⟨target, slo.name, slo.key, dataSource⟩ fresh }) ∨
    Exists fun row => row ∈ api.assignmentsOf target ∧ row.sloDefinition = slo.key ∧
      later = { api with
        sloAssignments := api.sloAssignments.update row.key
          (SLOAssignment.useDataSource dataSource) (fun _ => rfl) } := by
  unfold Api.upsertSloAssignment at stored
  split at stored
  · rename_i unpinned
    dsimp only at stored
    split at stored
    · rename_i fresh
      cases stored
      refine Or.inl ⟨fun row member pinned => ?_, fresh, rfl⟩
      exact List.filter_eq_nil_iff.mp unpinned row member (decide_eq_true pinned)
    · cases stored
  · rename_i row pinned
    cases stored
    have member : row ∈ (api.assignmentsOf target).filter fun row => row.sloDefinition = slo.key := by
      rw [pinned]
      exact List.mem_singleton.mpr rfl
    rcases List.mem_filter.mp member with ⟨inside, same⟩
    exact Or.inr ⟨row, inside, of_decide_eq_true same, rfl⟩
  · cases stored

theorem putSloAssignment_eq_ok {sloDefinitionId : Uuid} {dataSourceName : String}
    (accepted : putSloAssignment target sloDefinitionId dataSourceName api = .ok later) :
    checkStrings [dataSourceName] = .ok () ∧ api.hasTarget target = true ∧
      Exists fun slo => api.sloById sloDefinitionId = some slo ∧
      Exists fun dataSource => api.dataSources.find dataSourceName = some dataSource ∧
        api.upsertSloAssignment target slo dataSource.name = .ok later := by
  unfold putSloAssignment at accepted
  simp only [bind_eq_ok] at accepted
  rcases accepted with ⟨_, safe, _, isTarget, slo, isSlo, dataSource, isDataSource, stored⟩
  exact ⟨safe, checkTarget_eq_ok isTarget, slo, orRaise_eq_ok.mp isSlo, dataSource,
    orRaise_eq_ok.mp isDataSource, stored⟩

theorem deleteSloAssignment_of_assignment (target assigned : Target) (sloName : String) (api : Api) :
    (deleteSloAssignment target (.sloAssignment assigned sloName) api).toOption = none := by
  unfold deleteSloAssignment
  cases api.checkTarget target <;> rfl

theorem upgradeSloAssignment_eq_ok {assignmentId sloDefinitionId : Uuid}
    (accepted : upgradeSloAssignment asset assignmentId sloDefinitionId api = .ok later) :
    Exists fun slo => api.sloById sloDefinitionId = some slo ∧
      Exists fun row => row ∈ api.assignmentsOf (.asset asset) ∧ row.id = assignmentId ∧
        later = { api with
          sloAssignments := api.sloAssignments.update row.key (SLOAssignment.pin slo.key)
            (fun _ => rfl) } := by
  unfold upgradeSloAssignment at accepted
  simp only [bind_eq_ok] at accepted
  rcases accepted with ⟨_, _, slo, isSlo, stored⟩
  split at stored
  · cases stored
  · rename_i row found
    cases stored
    have selected := List.find?_some found
    exact ⟨slo, orRaise_eq_ok.mp isSlo, row, List.mem_of_find?_eq_some found,
      of_decide_eq_true selected, rfl⟩

theorem putSloGroupAssignment_eq_ok {sloGroupName dataSourceName : String}
    (accepted : putSloGroupAssignment target sloGroupName dataSourceName api = .ok later) :
    api.hasTarget target = true ∧ Exists fun group =>
      api.activeSloGroup sloGroupName = some group ∧ Exists fun dataSource =>
      api.dataSources.find dataSourceName = some dataSource ∧
      later = { api with
        groupAssignments := api.groupAssignments.upsert ⟨target, group.id, dataSource.name⟩
          (SLOGroupAssignment.useDataSource dataSource.name) (fun _ => rfl) } := by
  unfold putSloGroupAssignment at accepted
  simp only [bind_eq_ok] at accepted
  rcases accepted with ⟨_, _, _, isTarget, group, isGroup, dataSource, isDataSource, stored⟩
  cases stored
  exact ⟨checkTarget_eq_ok isTarget, group, orRaise_eq_ok.mp isGroup, dataSource,
    orRaise_eq_ok.mp isDataSource, rfl⟩

theorem createSnapshot_eq_ok {body : MetaSnapshotCreate}
    (accepted : createSnapshot asset body api = .ok later) :
    api.assets.find asset ≠ none ∧ later = { api with
      snapshots := api.snapshots ++ [{
        asset
        source := body.source
        observedAt := body.observedAt
        values := body.values.getD []
        closed := body.closed.getD [] }] } := by
  unfold createSnapshot at accepted
  rcases bind_eq_ok.mp accepted with ⟨_, _, stored⟩
  split at stored
  · cases stored
  · rename_i present
    cases stored
    exact ⟨present, rfl⟩

end Manifest
end Tropek
