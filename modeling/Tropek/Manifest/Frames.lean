import Tropek.Manifest.Comparison
import Tropek.Manifest.Effects

namespace Tropek
namespace Manifest

open Library Engine Fallible

/-!
# What an attempt may change

Every change of the API is made by a request, and which requests a document can send
is a short list: `Sends`.  Whatever relation between states these requests respect,
the attempt respects, in every run and whether it fails or not.  In particular an
attempt writes only the tables of its kind.
-/

inductive Sends : ManifestDocument -> Command -> Prop where
  | createAssetType {name : String} {spec : AssetTypeSpec} (isDefault : Option Bool) :
      Sends ⟨name, .assetType spec⟩ (createAssetType { name, isDefault })
  | setDefaultAssetType {name : String} {spec : AssetTypeSpec} :
      Sends ⟨name, .assetType spec⟩ (setDefaultAssetType name)
  | createAsset {name : String} {spec : AssetSpec} (body : AssetCreate)
      (named : body.name = name) : Sends ⟨name, .asset spec⟩ (createAsset body)
  | updateAsset {name : String} {spec : AssetSpec} (body : AssetUpdate) :
      Sends ⟨name, .asset spec⟩ (updateAsset name body)
  | createDataSource {name : String} {spec : DataSourceSpec} (body : DataSourceCreate)
      (named : body.name = name) : Sends ⟨name, .dataSource spec⟩ (createDataSource body)
  | updateDataSource {name : String} {spec : DataSourceSpec} (body : DataSourceUpdate) :
      Sends ⟨name, .dataSource spec⟩ (updateDataSource name body)
  | createSli {name : String} {spec : SLISpec} (body : SLIDefinitionCreate)
      (named : body.name = name) : Sends ⟨name, .sli spec⟩ (createSli body)
  | createSlo {name : String} {spec : SLOSpec} (body : SLODefinitionCreate)
      (named : body.name = name) : Sends ⟨name, .slo spec⟩ (createSlo body)
  | createAssetGroup {name : String} {spec : AssetGroupSpec} (body : AssetGroupCreate)
      (named : body.name = name) : Sends ⟨name, .assetGroup spec⟩ (createAssetGroup body)
  | addGroupMember {name : String} {spec : AssetGroupSpec} (asset : String) (weight : Option ℚ) :
      Sends ⟨name, .assetGroup spec⟩ (addGroupMember name asset weight)
  | addGroupSubgroup {name : String} {spec : AssetGroupSpec} (child : String) (weight : Option ℚ) :
      Sends ⟨name, .assetGroup spec⟩ (addGroupSubgroup name child weight)
  | createSloGroup {name : String} {spec : SLOGroupSpec} (body : SLOGroupCreate)
      (named : body.name = name) : Sends ⟨name, .sloGroup spec⟩ (createSloGroup body)
  | updateSloGroup {name : String} {spec : SLOGroupSpec} (body : SLOGroupUpdate) :
      Sends ⟨name, .sloGroup spec⟩ (updateSloGroup name body)
  | createDisplayGroup {name : String} {spec : DisplayGroupSpec} (body : DisplayGroupCreate)
      (named : body.name = name) : Sends ⟨name, .sloDisplayGroup spec⟩ (createDisplayGroup body)
  | addDisplayGroupMember {name : String} {spec : DisplayGroupSpec} (sloName : String) :
      Sends ⟨name, .sloDisplayGroup spec⟩ (addDisplayGroupMember name sloName)
  | putSloAssignment {name : String} {spec : SLOAssignmentSpec} (target : Target)
      (sloDefinitionId : Uuid) (dataSourceName : String) :
      Sends ⟨name, .sloAssignment spec⟩ (putSloAssignment target sloDefinitionId dataSourceName)
  | deleteSloAssignment {name : String} {spec : SLOAssignmentSpec} (target : Target)
      (sloDefinitionId : Uuid) :
      Sends ⟨name, .sloAssignment spec⟩ (deleteSloAssignment target sloDefinitionId)
  | upgradeSloAssignment {name : String} {spec : SLOAssignmentSpec} (asset : String)
      (assignmentId sloDefinitionId : Uuid) :
      Sends ⟨name, .sloAssignment spec⟩ (upgradeSloAssignment asset assignmentId sloDefinitionId)
  | putSloGroupAssignment {name : String} {spec : SLOGroupAssignmentSpec} (target : Target)
      (sloGroupName dataSourceName : String) :
      Sends ⟨name, .sloGroupAssignment spec⟩
        (putSloGroupAssignment target sloGroupName dataSourceName)
  | createSnapshot {name : String} {spec : MetaSnapshotSpec} (asset : String)
      (body : MetaSnapshotCreate) :
      Sends ⟨name, .metaSnapshot spec⟩ (createSnapshot asset body)

def Respects (relation : Api -> Api -> Prop) (command : Command) : Prop :=
  forall api later, command api = .ok later -> relation api later

def OnApi (relation : Api -> Api -> Prop) (before after : Session) : Prop :=
  relation before.api after.api

section Keeping

variable {relation : Api -> Api -> Prop} [Std.Refl relation] [IsTrans Api relation]

instance : Std.Refl (OnApi relation) :=
  ⟨fun session => Std.Refl.refl session.api⟩

instance : IsTrans Session (OnApi relation) :=
  ⟨fun _ _ _ first second => IsTrans.trans (r := relation) _ _ _ first second⟩

omit [IsTrans Api relation] in
theorem tell_keeps (faults : Faults) {command : Command} (respects : Respects relation command) :
    Program.Keeps (OnApi relation) (tell faults command) := by
  intro session
  unfold OnApi
  have leaves : (Program.run (tell faults command) session).2.api = session.api ∨
      command session.api = .ok (Program.run (tell faults command) session).2.api :=
    tell_leaves command
  rcases leaves with same | carriedOut
  · rw [same]
    exact Std.Refl.refl _
  · exact respects _ _ carriedOut

omit [IsTrans Api relation] in
theorem ask_keeps {α : Type} (faults : Faults) (query : Query α) :
    Program.Keeps (OnApi relation) (ask faults query) := by
  intro session
  by_cases answered : faults session.sent = .answered
  · rw [run_ask_answered answered]
    exact Std.Refl.refl session.api
  · rw [run_ask_lost answered]
    exact Std.Refl.refl session.api

theorem allSnapshotsExist_keeps (faults : Faults) (asset : String) (entries : List SnapshotSpec) :
    Program.Keeps (OnApi relation) (allSnapshotsExist faults asset entries) := by
  induction entries with
  | nil => exact Program.keeps_pure true
  | cons entry rest ih =>
      refine Program.keeps_bind (ask_keeps faults _) fun existing => ?_
      by_cases empty : existing.isEmpty = true
      · rw [if_pos empty]
        exact Program.keeps_pure false
      · rw [if_neg empty]
        exact ih

section

variable (faults : Faults) (doc : ManifestDocument)

include faults doc

theorem lookupEntity_keeps : Program.Keeps (OnApi relation) (lookupEntity faults doc) := by
  have asked : forall {α β : Type} (query : Query α) (pick : α -> β),
      Program.Keeps (OnApi relation) (ask faults query >>= fun answer => pure (pick answer)) :=
    fun query pick => Program.keeps_bind (ask_keeps faults query) fun _ => Program.keeps_pure _
  rcases doc with ⟨name, spec⟩
  cases spec with
  | sloAssignment spec =>
      exact Program.keeps_bind (asked (listSloAssignments spec.target) _)
        fun _ => Program.keeps_pure _
  | sloGroupAssignment spec =>
      exact Program.keeps_bind (asked (listSloGroupAssignments spec.target) _)
        fun _ => Program.keeps_pure _
  | metaSnapshot spec =>
      exact Program.keeps_bind (ask_keeps faults _) fun asset =>
        Program.keeps_bind (Program.keeps_ofExcept _) fun entries =>
          Program.keeps_bind (allSnapshotsExist_keeps faults asset.name entries)
            fun _ => Program.keeps_pure _
  | assetType => exact asked listAssetTypes _
  | asset => exact asked (getAsset name) _
  | assetGroup => exact asked (getAssetGroup name) _
  | dataSource => exact asked (getDataSource name) _
  | sli => exact asked (getSli name) _
  | slo => exact asked (getSlo name) _
  | sloGroup => exact asked (getSloGroup name) _
  | sloDisplayGroup => exact asked listDisplayGroups _

theorem hasDiff_keeps (existing : Existing) :
    Program.Keeps (OnApi relation) (hasDiff faults doc existing) := by
  rcases doc with ⟨name, spec⟩
  cases spec with
  | slo spec =>
      cases existing with
      | slo row => exact Program.keeps_ofExcept (sloDiffers spec row)
      | _ => exact Program.keeps_pure false
  | sloAssignment spec =>
      cases existing with
      | sloAssignment row =>
          exact Program.keeps_bind (Program.keeps_bind (ask_keeps faults (getSlo spec.sloName.pathTextOr))
            fun _ => Program.keeps_pure _) fun _ => Program.keeps_pure _
      | _ => exact Program.keeps_pure false
  | _ => cases existing <;> exact Program.keeps_pure _

theorem compare_keeps : Program.Keeps (OnApi relation) (compare faults doc) := by
  refine Program.keeps_bind (Program.keeps_orElse (lookupEntity_keeps faults doc) none) fun found => ?_
  cases found with
  | none => exact Program.keeps_pure _
  | some existing =>
      refine Program.keeps_bind (hasDiff_keeps faults doc existing) fun different => ?_
      cases different <;> exact Program.keeps_pure _

end

omit [Std.Refl relation] [IsTrans Api relation] in
theorem sliBody_name {name : String} {spec : SLISpec} {body : SLIDefinitionCreate}
    (validated : sliBody name spec = .ok body) : body.name = name := by
  unfold sliBody at validated
  simp only [bind_eq_ok] at validated
  rcases validated with ⟨_, _, _, _, same⟩
  cases same
  rfl

omit [Std.Refl relation] [IsTrans Api relation] in
theorem sloBody_name {name : String} {spec : SLOSpec} {body : SLODefinitionCreate}
    (validated : sloBody name spec = .ok body) : body.name = name := by
  unfold sloBody at validated
  simp only [bind_eq_ok] at validated
  rcases validated with ⟨_, _, _, _, _, _, _, _, _, _, _, _, _, _, same⟩
  cases same
  rfl

omit [IsTrans Api relation] in
theorem createSliOf_keeps (faults : Faults) {name : String} {spec : SLISpec}
    (respects : forall command, Sends ⟨name, .sli spec⟩ command -> Respects relation command) :
    Program.Keeps (OnApi relation) (createSliOf faults name spec) := by
  exact Program.keeps_ofExcept_bind fun body validated =>
    tell_keeps faults (respects _ (Sends.createSli body (sliBody_name validated)))

omit [IsTrans Api relation] in
theorem createSloOf_keeps (faults : Faults) {name : String} {spec : SLOSpec}
    (respects : forall command, Sends ⟨name, .slo spec⟩ command -> Respects relation command) :
    Program.Keeps (OnApi relation) (createSloOf faults name spec) := by
  exact Program.keeps_ofExcept_bind fun body validated =>
    tell_keeps faults (respects _ (Sends.createSlo body (sloBody_name validated)))

variable {name : String} {spec : SLOAssignmentSpec} {doc : ManifestDocument}

theorem createAssetGroupOf_keeps (faults : Faults) {spec : AssetGroupSpec}
    (respects : forall command, Sends ⟨name, .assetGroup spec⟩ command ->
      Respects relation command) :
    Program.Keeps (OnApi relation) (createAssetGroupOf faults name spec) := by
  refine Program.keeps_bind (tell_keeps faults (respects _ (Sends.createAssetGroup _ rfl))) fun _ => ?_
  refine Program.keeps_bind (Program.keeps_ofExcept _) fun members => ?_
  refine Program.keeps_bind (Program.keeps_forM fun member _ => ?_) fun _ => ?_
  · exact Program.keeps_bind (ask_keeps faults _) fun asset =>
      tell_keeps faults (respects _ (Sends.addGroupMember asset.name _))
  refine Program.keeps_bind (Program.keeps_ofExcept _) fun subgroups => ?_
  refine Program.keeps_forM fun subgroup _ => ?_
  exact Program.keeps_bind (ask_keeps faults _) fun child =>
    tell_keeps faults (respects _ (Sends.addGroupSubgroup child.name _))

omit [IsTrans Api relation] in
theorem raise_keeps {α : Type} (error : ClientError) :
    Program.Keeps (OnApi relation) (throw error : Request α) :=
  fun session => Std.Refl.refl session.api

section

variable (faults : Faults)

include faults

theorem findParent_keeps (parentName : Option String) :
    Program.Keeps (OnApi relation) (findParent faults parentName) := by
  unfold findParent
  split
  · exact Program.keeps_pure none
  · refine Program.keeps_bind (ask_keeps faults _) fun groups => ?_
    split
    · exact raise_keeps _
    · exact Program.keeps_pure _

theorem createDisplayGroupOf_keeps {spec : DisplayGroupSpec}
    (respects : forall command, Sends ⟨name, .sloDisplayGroup spec⟩ command ->
      Respects relation command) :
    Program.Keeps (OnApi relation) (createDisplayGroupOf faults name spec) := by
  refine Program.keeps_bind (findParent_keeps faults _) fun parent => ?_
  refine Program.keeps_bind (Program.keeps_ofExcept _) fun sortOrder => ?_
  refine Program.keeps_bind (tell_keeps faults (respects _ (Sends.createDisplayGroup _ rfl)))
    fun _ => ?_
  refine Program.keeps_bind (Program.keeps_ofExcept _) fun members => ?_
  exact Program.keeps_forM fun sloName _ =>
    tell_keeps faults (respects _ (Sends.addDisplayGroupMember sloName))

theorem createSloAssignmentOf_keeps
    (respects : forall command, Sends ⟨name, .sloAssignment spec⟩ command ->
      Respects relation command) :
    Program.Keeps (OnApi relation) (createSloAssignmentOf faults spec) :=
  Program.keeps_bind (Program.keeps_ofExcept _) fun targetType =>
    Program.keeps_bind (Program.keeps_ofExcept _) fun targetName =>
      Program.keeps_bind (Program.keeps_ofExcept _) fun sloName =>
        Program.keeps_bind (Program.keeps_bind (ask_keeps faults (getSlo sloName))
          fun _ => Program.keeps_pure _) fun sloDefinitionId =>
            Program.keeps_bind (Program.keeps_ofExcept _) fun dataSourceName =>
              tell_keeps faults (respects _ (Sends.putSloAssignment
                (targetOf (some targetType) targetName) sloDefinitionId dataSourceName))

theorem createSloGroupAssignmentOf_keeps {spec : SLOGroupAssignmentSpec}
    (respects : forall command, Sends ⟨name, .sloGroupAssignment spec⟩ command ->
      Respects relation command) :
    Program.Keeps (OnApi relation) (createSloGroupAssignmentOf faults spec) :=
  Program.keeps_bind (Program.keeps_ofExcept _) fun targetType =>
    Program.keeps_bind (Program.keeps_ofExcept _) fun targetName =>
      Program.keeps_bind (Program.keeps_ofExcept _) fun sloGroupName =>
        Program.keeps_bind (Program.keeps_ofExcept _) fun dataSourceName =>
          tell_keeps faults (respects _ (Sends.putSloGroupAssignment
            (targetOf (some targetType) targetName) sloGroupName dataSourceName))

theorem createMetaSnapshots_keeps {spec : MetaSnapshotSpec}
    (respects : forall command, Sends ⟨name, .metaSnapshot spec⟩ command ->
      Respects relation command) :
    Program.Keeps (OnApi relation) (createMetaSnapshots faults spec) := by
  refine Program.keeps_bind (ask_keeps faults _) fun asset => ?_
  refine Program.keeps_bind (Program.keeps_ofExcept _) fun entries => ?_
  refine Program.keeps_forM fun entry _ => ?_
  refine Program.keeps_bind (ask_keeps faults _) fun existing => ?_
  by_cases empty : existing.isEmpty = true
  · rw [if_pos empty]
    exact Program.keeps_bind (Program.keeps_ofExcept _) fun values =>
      Program.keeps_bind (Program.keeps_ofExcept _) fun closed =>
        tell_keeps faults (respects _ (Sends.createSnapshot asset.name _))
  · rw [if_neg empty]
    exact Program.keeps_pure _

theorem create_keeps (respects : forall command, Sends doc command -> Respects relation command) :
    Program.Keeps (OnApi relation) (create faults doc) := by
  rcases doc with ⟨name, spec⟩
  cases spec with
  | assetType spec =>
      exact tell_keeps faults (respects _ (Sends.createAssetType _))
  | asset spec =>
      exact Program.keeps_bind (Program.keeps_ofExcept _) fun typeName =>
        tell_keeps faults (respects _ (Sends.createAsset _ rfl))
  | dataSource spec =>
      exact Program.keeps_bind (Program.keeps_ofExcept _) fun adapterType =>
        Program.keeps_bind (Program.keeps_ofExcept _) fun adapterUrl =>
          tell_keeps faults (respects _ (Sends.createDataSource _ rfl))
  | sloGroup spec =>
      exact Program.keeps_bind (Program.keeps_ofExcept _) fun templateSloName =>
        Program.keeps_bind (Program.keeps_ofExcept _) fun templateSloVersion =>
          Program.keeps_bind (Program.keeps_ofExcept _) fun genVariables =>
            tell_keeps faults (respects _ (Sends.createSloGroup _ rfl))
  | sli spec => exact createSliOf_keeps faults respects
  | slo spec => exact createSloOf_keeps faults respects
  | assetGroup spec => exact createAssetGroupOf_keeps faults respects
  | sloDisplayGroup spec => exact createDisplayGroupOf_keeps faults respects
  | sloAssignment spec => exact createSloAssignmentOf_keeps faults respects
  | sloGroupAssignment spec => exact createSloGroupAssignmentOf_keeps faults respects
  | metaSnapshot spec => exact createMetaSnapshots_keeps faults respects

theorem repointSloAssignment_keeps
    (respects : forall command, Sends ⟨name, .sloAssignment spec⟩ command ->
      Respects relation command) :
    Program.Keeps (OnApi relation) (repointSloAssignment faults name spec) := by
  refine Program.keeps_bind (Program.keeps_bind (ask_keeps faults _)
    fun _ => Program.keeps_pure _) fun found => ?_
  cases found with
  | none => exact raise_keeps _
  | some existing =>
      refine Program.keeps_bind (Program.keeps_bind (ask_keeps faults _)
        fun _ => Program.keeps_pure _) fun latest => ?_
      by_cases isAsset : spec.targetType.get = some "asset"
      · rw [if_pos isAsset]
        exact Program.keeps_bind (Program.keeps_ofExcept _) fun targetName =>
          tell_keeps faults (respects _ (Sends.upgradeSloAssignment targetName existing.id latest))
      · rw [if_neg isAsset]
        refine Program.keeps_bind (Program.keeps_bind (Program.keeps_ofExcept _) fun targetName =>
          tell_keeps faults (respects _ (Sends.deleteSloAssignment _ existing.id))) fun _ => ?_
        exact createSloAssignmentOf_keeps faults respects

theorem update_keeps (respects : forall command, Sends doc command -> Respects relation command) :
    Program.Keeps (OnApi relation) (update faults doc) := by
  rcases doc with ⟨name, spec⟩
  cases spec with
  | assetType spec =>
      change Program.Keeps _ (if spec.isDefault.get = some true then
        tell faults (setDefaultAssetType name) else pure PUnit.unit)
      by_cases isDefault : spec.isDefault.get = some true
      · rw [if_pos isDefault]
        exact tell_keeps faults (respects _ Sends.setDefaultAssetType)
      · rw [if_neg isDefault]
        exact Program.keeps_pure _
  | asset spec => exact tell_keeps faults (respects _ (Sends.updateAsset _))
  | dataSource spec => exact tell_keeps faults (respects _ (Sends.updateDataSource _))
  | sloGroup spec => exact tell_keeps faults (respects _ (Sends.updateSloGroup _))
  | sli spec => exact createSliOf_keeps faults respects
  | slo spec => exact createSloOf_keeps faults respects
  | sloAssignment spec => exact repointSloAssignment_keeps faults respects
  | assetGroup | sloDisplayGroup | sloGroupAssignment | metaSnapshot =>
      exact Program.keeps_pure _

theorem attempt_keeps (progress : Progress)
    (respects : forall command, Sends doc command -> Respects relation command) :
    relation progress.session.api (progress.attempt faults doc).2.api := by
  unfold Progress.attempt
  split
  · exact Std.Refl.refl _
  · have before : OnApi relation progress.session (Program.run (compare faults doc) progress.session).2 :=
      compare_keeps faults doc progress.session
    unfold process
    cases compared : Program.run (compare faults doc) progress.session with
    | mk answer left =>
        rw [compared] at before
        cases answer with
        | error => exact before
        | ok verdict =>
            cases verdict with
            | same => exact before
            | missing =>
                dsimp only
                rw [concluded_session]
                exact IsTrans.trans _ _ _ before (create_keeps faults respects left)
            | differs =>
                dsimp only
                rw [concluded_session]
                exact IsTrans.trans _ _ _ before (update_keeps faults respects left)

end

end Keeping

inductive Table where
  | assetTypes
  | dataSources
  | assets
  | slis
  | slos
  | assetGroups
  | sloGroups
  | displayGroups
  | sloAssignments
  | groupAssignments
  | snapshots
deriving DecidableEq, Repr

def Table.Same : Table -> Api -> Api -> Prop
  | .assetTypes, before, after => after.assetTypes = before.assetTypes
  | .dataSources, before, after => after.dataSources = before.dataSources
  | .assets, before, after => after.assets = before.assets
  | .slis, before, after => after.slis = before.slis
  | .slos, before, after => after.slos = before.slos
  | .assetGroups, before, after => after.assetGroups = before.assetGroups
  | .sloGroups, before, after => after.sloGroups = before.sloGroups
  | .displayGroups, before, after => after.displayGroups = before.displayGroups
  | .sloAssignments, before, after => after.sloAssignments = before.sloAssignments
  | .groupAssignments, before, after => after.groupAssignments = before.groupAssignments
  | .snapshots, before, after => after.snapshots = before.snapshots

instance (table : Table) : Std.Refl table.Same :=
  ⟨fun api => by cases table <;> exact Eq.refl _⟩

instance (table : Table) : IsTrans Api table.Same :=
  ⟨fun first second third before after => by
    cases table <;> exact Eq.trans after before⟩

def Kind.tables : Kind -> List Table
  | .assetType => [.assetTypes]
  | .dataSource => [.dataSources]
  | .asset => [.assets]
  | .sli => [.slis]
  | .slo => [.slos]
  | .assetGroup => [.assetGroups]
  | .sloGroup => [.sloGroups, .slos]
  | .sloDisplayGroup => [.displayGroups]
  | .sloAssignment => [.sloAssignments]
  | .sloGroupAssignment => [.groupAssignments]
  | .metaSnapshot => [.snapshots]

theorem sends_tables {doc : ManifestDocument} {command : Command} (sent : Sends doc command)
    {table : Table} (untouched : table ∉ doc.kind.tables) : Respects table.Same command := by
  intro api later accepted
  cases sent
  case' createAssetType => rcases (createAssetType_eq_ok accepted).2 with ⟨_, same⟩
  case' setDefaultAssetType => have same := setDefaultAssetType_eq_ok accepted
  case' createAsset => rcases createAsset_eq_ok accepted with ⟨_, same⟩
  case' updateAsset => have same := updateAsset_eq_ok accepted
  case' createDataSource => rcases createDataSource_eq_ok accepted with ⟨_, same⟩
  case' updateDataSource => have same := updateDataSource_eq_ok accepted
  case' createSli => rcases createSli_eq_ok accepted with ⟨_, _, _, _, _, same⟩
  case' createSlo => rcases createSlo_eq_ok accepted with ⟨_, _, _, same⟩
  case' createAssetGroup => rcases createAssetGroup_eq_ok accepted with ⟨_, same⟩
  case' addGroupMember => have same := addGroupMember_eq_ok accepted
  case' addGroupSubgroup => have same := addGroupSubgroup_eq_ok accepted
  case' createSloGroup =>
    rcases createSloGroup_eq_ok accepted with ⟨_, _, _, _, _, _, _, same, _⟩
  case' updateSloGroup =>
    rcases updateSloGroup_eq_ok accepted with ⟨_, _, _, _, _, _, _, _, same, _⟩
  case' createDisplayGroup => rcases createDisplayGroup_eq_ok accepted with ⟨_, same⟩
  case' addDisplayGroupMember => have same := addDisplayGroupMember_eq_ok accepted
  case' putSloAssignment =>
    rcases putSloAssignment_eq_ok accepted with ⟨_, _, _, _, _, _, stored⟩
    rcases upsertSloAssignment_eq_ok stored with ⟨_, _, same⟩ | ⟨_, _, _, same⟩
  case' deleteSloAssignment =>
    unfold deleteSloAssignment at accepted
    simp only [bind_eq_ok] at accepted
    rcases accepted with ⟨_, _, _, _, stored⟩
    have same := (Except.ok.inj stored).symm
  case' upgradeSloAssignment =>
    rcases upgradeSloAssignment_eq_ok accepted with ⟨_, _, _, _, _, same⟩
  case' putSloGroupAssignment =>
    rcases putSloGroupAssignment_eq_ok accepted with ⟨_, _, _, _, _, same⟩
  case' createSnapshot => have same := (createSnapshot_eq_ok accepted).2
  all_goals
    rw [same]
    cases table <;>
      first
      | rfl
      | exact absurd (by simp [ManifestDocument.kind, Spec.kind, Kind.tables]) untouched

theorem attempt_tables (faults : Faults) (progress : Progress) {doc : ManifestDocument}
    {table : Table} (untouched : table ∉ doc.kind.tables) :
    table.Same progress.session.api (progress.attempt faults doc).2.api :=
  attempt_keeps faults progress fun _ sent => sends_tables sent untouched

end Manifest
end Tropek
