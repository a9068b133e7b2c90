import Tropek.Manifest.Apply

namespace Tropek
namespace Manifest

open Library Engine KeyedTable

/-!
# What a comparison sees

When every request is answered, to look an entity up and to compare it with its
document is to read the state of the API.  `findExisting`, `differs` and `verdict`
are the functions that are read.  A document is settled in a state where its entity
exists and does not differ: it is then skipped, and planned to be skipped.
-/

def SLOAssignmentSpec.target (spec : SLOAssignmentSpec) : Target :=
  targetOf (spec.targetType.getOr "") spec.targetName.pathTextOr

def SLOGroupAssignmentSpec.target (spec : SLOGroupAssignmentSpec) : Target :=
  targetOf (spec.targetType.getOr "") spec.targetName.pathTextOr

def Api.hasSnapshot (api : Api) (asset : String) (entry : SnapshotSpec) : Bool :=
  api.snapshots.any (Snapshot.isAt asset entry.source entry.observedAt)

def Api.assignmentFor (api : Api) (target : Target) (sloName : Option String) :
    Option SLOAssignment :=
  if api.hasTarget target then
    (api.assignmentsOf target).find? fun row => some row.sloName = sloName
  else none

def Api.groupAssignmentFor (api : Api) (target : Target) (sloGroupName : Option String) :
    Option SLOGroupAssignmentRead :=
  (listSloGroupAssignments target api).toOption.bind fun rows =>
    rows.find? fun row => some row.sloGroupName = sloGroupName

def findExisting (api : Api) (doc : ManifestDocument) : Option Existing :=
  match doc.spec with
  | .assetType _ => (api.assetTypes.find doc.name).map .assetType
  | .asset _ => (api.assets.find doc.name).map .asset
  | .assetGroup _ => (api.assetGroups.find doc.name).map .assetGroup
  | .dataSource _ => (api.dataSources.find doc.name).map .dataSource
  | .sli _ => (api.latestSli doc.name).map .sli
  | .slo _ => (api.latestSlo doc.name).map .slo
  | .sloAssignment spec =>
      (api.assignmentFor spec.target (spec.sloName.getOr "")).map fun row =>
        .sloAssignment row.read
  | .sloGroup _ => (getSloGroup doc.name api).toOption.map .sloGroup
  | .sloDisplayGroup _ => (api.displayGroups.find doc.name).map .sloDisplayGroup
  | .sloGroupAssignment spec =>
      (api.groupAssignmentFor spec.target (spec.sloGroupName.getOr "")).map .sloGroupAssignment
  | .metaSnapshot spec =>
      if api.assets.find spec.asset ≠ none ∧
          (spec.snapshots.getOr []).any (fun entries => entries.all (api.hasSnapshot spec.asset)) then
        some .metaSnapshot
      else none

variable {α : Type} {api : Api} {doc : ManifestDocument}

theorem filter_isEmpty (selected : α -> Bool) (rows : List α) :
    (rows.filter selected).isEmpty = !rows.any selected := by
  induction rows with
  | nil => rfl
  | cons row rest ih =>
      rw [List.filter_cons, List.any_cons]
      cases selected row with
      | true => rfl
      | false => exact ih

/-- Whether all snapshots are there; an asset that has gone is noticed by the first
request. -/
def snapshotsAnswer (asset : String) (entries : List SnapshotSpec) (api : Api) :
    Except ClientError Bool :=
  if entries ≠ [] ∧ api.assets.find asset = none then .error (.api (.notFound "asset" asset))
  else .ok (entries.all (api.hasSnapshot asset))

theorem allSnapshotsExist_reads (asset : String) (entries : List SnapshotSpec) :
    Program.Reads Session.api (allSnapshotsExist allAnswered asset entries)
      (snapshotsAnswer asset entries) := by
  induction entries with
  | nil => exact Program.reads_pure true
  | cons entry rest ih =>
      have round : forall existing : List Snapshot, Program.Reads Session.api
          (if existing.isEmpty then pure false else allSnapshotsExist allAnswered asset rest)
          fun api => if existing.isEmpty then .ok false else snapshotsAnswer asset rest api := by
        intro existing
        by_cases empty : existing.isEmpty = true
        · simp only [empty, if_true]
          exact Program.reads_pure false
        · simp only [empty]
          exact ih
      refine Program.reads_congr (Program.reads_bind (ask_reads _) round) fun api => ?_
      unfold listSnapshots snapshotsAnswer
      by_cases absent : api.assets.find asset = none
      · simp [absent, Except.mapError, bind, Except.bind]
      · simp only [absent, if_false, and_false, Except.mapError, bind, Except.bind,
          filter_isEmpty, List.all_cons]
        unfold Api.hasSnapshot
        cases api.snapshots.any (Snapshot.isAt asset entry.source entry.observedAt) <;> rfl

theorem picked_reads (query : Query α) (pick : α -> Option Existing)
    (found : Api -> Option Existing)
    (answers : forall api, (query api).toOption.bind pick = found api) :
    Program.Reads Session.api
      (Program.orElse (ask allAnswered query >>= fun answer => pure (pick answer)) none)
      fun api => .ok (found api) := by
  refine Program.reads_congr (Program.reads_orElse
    (Program.reads_bind (ask_reads query) fun answer => Program.reads_pure _) none) fun api => ?_
  rw [<- answers]
  cases query api <;> rfl

theorem named_reads (query : Query α) (failure : ApiError) (found : Api -> Option α)
    (wrap : α -> Existing)
    (answers : forall api, query api = Fallible.orRaise failure (found api)) :
    Program.Reads Session.api
      (Program.orElse (ask allAnswered query >>= fun row => pure (some (wrap row))) none)
      fun api => .ok ((found api).map wrap) := by
  refine picked_reads query (fun row => some (wrap row)) _ fun api => ?_
  rw [answers]
  cases found api <;> rfl

theorem findAssignment_eq (api : Api) (target : Target) (sloName : Option String) :
    ((listSloAssignments target api).toOption.bind fun rows =>
      rows.find? fun row => some row.sloName = sloName) =
      (api.assignmentFor target sloName).map SLOAssignment.read := by
  unfold listSloAssignments Api.checkTarget Api.assignmentFor
  cases api.hasTarget target with
  | false => rfl
  | true =>
      change ((api.assignmentsOf target).map SLOAssignment.read).find? _ = _
      rw [List.find?_map]
      rfl

theorem listed_reads {Row : Type} {key : Row -> String} (table : Api -> KeyedTable key)
    (name : String) (wrap : Row -> Existing) :
    Program.Reads Session.api
      (Program.orElse (ask allAnswered (fun api => .ok (table api).rows) >>= fun rows =>
        pure ((rows.find? fun row => key row = name).map wrap)) none)
      fun api => .ok (((table api).find name).map wrap) := by
  have answers : forall api : Api,
      (Except.ok (table api).rows : Except ApiError (List Row)).toOption.bind
        (fun rows => (rows.find? fun row => key row = name).map wrap) =
        ((table api).find name).map wrap := by
    intro api
    rfl
  exact picked_reads _ _ _ answers

theorem lookupSloAssignment_reads (spec : SLOAssignmentSpec) :
    Program.Reads Session.api (lookupSloAssignment allAnswered spec) fun api => do
      let rows <- (listSloAssignments spec.target api).mapError ClientError.api
      return rows.find? fun row => some row.sloName = spec.sloName.getOr "" :=
  Program.reads_bind (ask_reads _) fun _ => Program.reads_pure _

theorem lookupSloGroupAssignment_reads (spec : SLOGroupAssignmentSpec) :
    Program.Reads Session.api (lookupSloGroupAssignment allAnswered spec) fun api => do
      let rows <- (listSloGroupAssignments spec.target api).mapError ClientError.api
      return rows.find? fun row => some row.sloGroupName = spec.sloGroupName.getOr "" :=
  Program.reads_bind (ask_reads _) fun _ => Program.reads_pure _

def metaSnapshotAnswer (spec : MetaSnapshotSpec) (api : Api) :
    Except ClientError (Option Existing) := do
  let asset <- (getAsset spec.asset api).mapError ClientError.api
  let entries <- accept "snapshots" (spec.snapshots.getOr [])
  let found <- snapshotsAnswer asset.name entries api
  return if found then some .metaSnapshot else none

theorem lookupMetaSnapshots_reads (spec : MetaSnapshotSpec) :
    Program.Reads Session.api (lookupMetaSnapshots allAnswered spec) (metaSnapshotAnswer spec) :=
  Program.reads_bind (ask_reads _) fun _ =>
    Program.reads_bind (Program.reads_ofExcept _) fun _ =>
      Program.reads_bind (allSnapshotsExist_reads _ _) fun _ => Program.reads_pure _

theorem metaSnapshot_found (api : Api) (spec : MetaSnapshotSpec) :
    (metaSnapshotAnswer spec api).toOption.getD none =
      if api.assets.find spec.asset ≠ none ∧ (spec.snapshots.getOr []).any
          (fun entries => entries.all (api.hasSnapshot spec.asset)) then
        some .metaSnapshot
      else none := by
  unfold metaSnapshotAnswer getAsset
  cases found : api.assets.find spec.asset with
  | none => rfl
  | some asset =>
      have named : asset.name = spec.asset := find_key found
      cases given : spec.snapshots.getOr [] with
      | none => rfl
      | some entries =>
          have answer : snapshotsAnswer asset.name entries api =
              .ok (entries.all (api.hasSnapshot spec.asset)) := by
            unfold snapshotsAnswer
            rw [named, found]
            exact if_neg fun both => Option.some_ne_none asset both.2
          change (Except.toOption (snapshotsAnswer asset.name entries api >>= fun found =>
            pure (if found then some Existing.metaSnapshot else none))).getD none = _
          rw [answer]
          cases complete : entries.all (api.hasSnapshot spec.asset) with
          | false =>
              rw [if_neg fun both => Bool.false_ne_true (complete.symm.trans both.2)]
              rfl
          | true =>
              rw [if_pos ⟨Option.some_ne_none asset, complete⟩]
              rfl

theorem lookup_reads (doc : ManifestDocument) :
    Program.Reads Session.api (lookup allAnswered doc) fun api => .ok (findExisting api doc) := by
  rcases doc with ⟨name, spec⟩
  cases spec with
  | assetType spec => exact listed_reads Api.assetTypes name Existing.assetType
  | sloDisplayGroup spec => exact listed_reads Api.displayGroups name Existing.sloDisplayGroup
  | dataSource spec =>
      exact named_reads (getDataSource name) (.notFound "datasource" name)
        (fun api => api.dataSources.find name) Existing.dataSource fun _ => rfl
  | asset spec =>
      exact named_reads (getAsset name) (.notFound "asset" name) (fun api => api.assets.find name)
        Existing.asset fun _ => rfl
  | sli spec =>
      exact named_reads (getSli name) (.notFound "sli definition" name)
        (fun api => api.latestSli name) Existing.sli fun _ => rfl
  | slo spec =>
      exact named_reads (getSlo name) (.notFound "slo definition" name)
        (fun api => api.latestSlo name) Existing.slo fun _ => rfl
  | assetGroup spec =>
      exact named_reads (getAssetGroup name) (.notFound "asset group" name)
        (fun api => api.assetGroups.find name) Existing.assetGroup fun _ => rfl
  | sloGroup spec =>
      refine picked_reads (getSloGroup name) (fun row => some (Existing.sloGroup row)) _ fun api => ?_
      change _ = (getSloGroup name api).toOption.map Existing.sloGroup
      cases (getSloGroup name api).toOption <;> rfl
  | sloAssignment spec =>
      refine Program.reads_congr (Program.reads_orElse (Program.reads_bind
        (lookupSloAssignment_reads spec) fun _ => Program.reads_pure _) none) fun api => ?_
      change _ = Except.ok ((api.assignmentFor spec.target (spec.sloName.getOr "")).map fun row =>
        Existing.sloAssignment row.read)
      have same : ((api.assignmentFor spec.target (spec.sloName.getOr "")).map fun row =>
          Existing.sloAssignment row.read) =
          ((api.assignmentFor spec.target (spec.sloName.getOr "")).map SLOAssignment.read).map
            Existing.sloAssignment := (Option.map_map _ _ _).symm
      rw [same, <- findAssignment_eq]
      cases listSloAssignments spec.target api <;> rfl
  | sloGroupAssignment spec =>
      refine Program.reads_congr (Program.reads_orElse (Program.reads_bind
        (lookupSloGroupAssignment_reads spec) fun _ => Program.reads_pure _) none) fun api => ?_
      change _ = Except.ok ((api.groupAssignmentFor spec.target (spec.sloGroupName.getOr "")).map
        Existing.sloGroupAssignment)
      unfold Api.groupAssignmentFor
      cases listSloGroupAssignments spec.target api <;> rfl
  | metaSnapshot spec =>
      refine Program.reads_congr (Program.reads_orElse (lookupMetaSnapshots_reads spec) none)
        fun api => ?_
      exact congrArg Except.ok (metaSnapshot_found api spec)

def differs (api : Api) (doc : ManifestDocument) (existing : Existing) : Except ClientError Bool :=
  match doc.spec, existing with
  | .assetType spec, .assetType row => .ok (assetTypeDiffers spec row)
  | .asset spec, .asset row => .ok (assetDiffers spec row)
  | .dataSource spec, .dataSource row => .ok (dataSourceDiffers spec row)
  | .sli spec, .sli row => .ok (sliDiffers spec row)
  | .slo spec, .slo row => sloDiffers spec row
  | .sloAssignment spec, .sloAssignment row => do
      let latest <- (getSlo spec.sloName.pathTextOr api).mapError ClientError.api
      return row.sloDefinitionId ≠ latest.id
  | .sloGroup spec, .sloGroup row => .ok (sloGroupDiffers spec row)
  | _, _ => .ok false

theorem assignmentDiff_reads (row : SLOAssignmentRead) (sloName : String) :
    Program.Reads Session.api
      (resolveSloDefinitionId allAnswered sloName >>= fun latest =>
        pure (decide (row.sloDefinitionId ≠ latest)))
      fun api => do
        let latest <- (getSlo sloName api).mapError ClientError.api
        return row.sloDefinitionId ≠ latest.id := by
  refine Program.reads_congr (Program.reads_bind (Program.reads_bind (ask_reads _)
    fun _ => Program.reads_pure _) fun _ => Program.reads_pure _) fun api => ?_
  cases getSlo sloName api <;> rfl

theorem hasDiff_reads (doc : ManifestDocument) (existing : Existing) :
    Program.Reads Session.api (hasDiff allAnswered doc existing) fun api =>
      differs api doc existing := by
  rcases doc with ⟨name, spec⟩
  cases spec with
  | slo spec =>
      cases existing with
      | slo row => exact Program.reads_ofExcept (sloDiffers spec row)
      | _ => exact Program.reads_pure false
  | sloAssignment spec =>
      cases existing with
      | sloAssignment row => exact assignmentDiff_reads row spec.sloName.pathTextOr
      | _ => exact Program.reads_pure false
  | _ => cases existing <;> exact Program.reads_pure _

def verdict (api : Api) (doc : ManifestDocument) : Except ClientError Verdict :=
  match findExisting api doc with
  | none => .ok .missing
  | some existing => do
      if <- differs api doc existing then return .differs else return .same

theorem verdict_of_missing (missing : findExisting api doc = none) :
    verdict api doc = .ok .missing := by
  unfold verdict
  rw [missing]

theorem verdict_of_found {existing : Existing} (found : findExisting api doc = some existing) :
    verdict api doc = (differs api doc existing).map fun different =>
      if different then Verdict.differs else Verdict.same := by
  unfold verdict
  rw [found]
  dsimp only
  cases differs api doc existing with
  | error => rfl
  | ok different => cases different <;> rfl

theorem compare_reads (doc : ManifestDocument) :
    Program.Reads Session.api (compare allAnswered doc) fun api => verdict api doc := by
  have compared : forall found : Option Existing, Program.Reads Session.api
      (match found with
        | none => pure Verdict.missing
        | some existing => do
            if <- hasDiff allAnswered doc existing then return Verdict.differs
            else return Verdict.same)
      fun api => match found with
        | none => .ok .missing
        | some existing => do
            if <- differs api doc existing then return .differs else return .same := by
    intro found
    cases found with
    | none => exact Program.reads_pure _
    | some existing =>
        refine Program.reads_bind (hasDiff_reads doc existing) fun different => ?_
        cases different <;> exact Program.reads_pure _
  exact Program.reads_bind (lookup_reads doc) compared

theorem latestSlo_facts {name : String} {slo : SLO} (found : api.latestSlo name = some slo) :
    slo.name = name ∧ slo.active = true ∧ api.slos.find slo.key = some slo := by
  rcases List.mem_filter.mp (Latest.newest_mem _ found) with ⟨member, selected⟩
  rcases Bool.and_eq_true_iff.mp selected with ⟨named, active⟩
  exact ⟨of_decide_eq_true named, active, find_of_mem member⟩

theorem latestSli_facts {name : String} {sli : SLI} (found : api.latestSli name = some sli) :
    sli.definition.name = name ∧ sli.active = true ∧ api.slis.find sli.key = some sli := by
  rcases List.mem_filter.mp (Latest.newest_mem _ found) with ⟨member, selected⟩
  rcases Bool.and_eq_true_iff.mp selected with ⟨named, active⟩
  exact ⟨of_decide_eq_true named, active, find_of_mem member⟩

theorem mem_assignmentsOf {target : Target} {row : SLOAssignment} :
    row ∈ api.assignmentsOf target ↔ row ∈ api.sloAssignments.rows ∧ row.target = target := by
  unfold Api.assignmentsOf
  rw [List.mem_filter, decide_eq_true_eq]

theorem assignmentsOf_filter (api : Api) (target : Target) (sloName : String) :
    ((api.assignmentsOf target).filter fun row => row.sloName = sloName) =
      (api.sloAssignments.find (target, sloName)).toList := by
  unfold Api.assignmentsOf
  rw [List.filter_filter, <- filter_key]
  refine List.filter_congr fun row _ => ?_
  rw [<- Bool.decide_and, decide_eq_decide]
  exact (Prod.mk.injEq _ _ _ _).symm ▸ and_comm

theorem assignmentFor_eq (api : Api) (target : Target) (sloName : String) :
    api.assignmentFor target (some sloName) =
      if api.hasTarget target then api.sloAssignments.find (target, sloName) else none := by
  have picked : ((api.assignmentsOf target).find? fun row => some row.sloName = some sloName) =
      api.sloAssignments.find (target, sloName) := by
    have rewritten : (fun row : SLOAssignment => decide (some row.sloName = some sloName)) =
        fun row => decide (row.sloName = sloName) := by
      funext row
      exact decide_eq_decide.mpr (Option.some_inj)
    rw [rewritten, <- List.head?_filter, assignmentsOf_filter]
    cases api.sloAssignments.find (target, sloName) <;> rfl
  unfold Api.assignmentFor
  rw [picked]

theorem process_answered (doc : ManifestDocument) (session : Session) :
    Exists fun left : Session => left.api = session.api ∧
      process allAnswered doc session =
        match verdict session.api doc with
        | .error error => (.failed .comparing error, left)
        | .ok .same => (.skipped, left)
        | .ok .missing =>
            concluded .creating .created (Program.run (create allAnswered doc) left)
        | .ok .differs =>
            concluded .updating .updated (Program.run (update allAnswered doc) left) := by
  rcases compare_reads doc session with ⟨answer, kept⟩
  refine ⟨(Program.run (compare allAnswered doc) session).2, kept, ?_⟩
  unfold process
  change (Program.run (compare allAnswered doc) session).1 = verdict session.api doc at answer
  rw [<- answer]
  cases Program.run (compare allAnswered doc) session with
  | mk outcome left =>
      cases outcome with
      | error => rfl
      | ok verdict => cases verdict <;> rfl

end Manifest
end Tropek
