import Tropek.Manifest.Frames

namespace Tropek
namespace Manifest

open Library Engine KeyedTable Fallible

/-!
# Which assignments are repointed

After a run in which every request is answered, a target should have exactly one
assignment for the SLO name of a document, pinned to the latest version.  An asset is
moved in place.  For an asset group the assignment should be deleted and created
again, but the deletion passes the identifier of the assignment to a route that takes
the identifier of a definition, so it is refused and nothing changes.

The last theorem says of every list exactly when its documents reach the goal.
-/

/-! ## The goal -/

/-- The target has exactly one assignment for the SLO name, and it is pinned to the
latest version. -/
def Api.PinnedToLatest (api : Api) (target : Target) (sloName : String) : Prop :=
  Exists fun row => Exists fun slo =>
    ((api.assignmentsOf target).filter fun row => row.sloName = sloName) = [row] ∧
      api.latestSlo sloName = some slo ∧ row.sloDefinition = slo.key

theorem pinnedToLatest_iff (api : Api) (target : Target) (sloName : String) :
    api.PinnedToLatest target sloName ↔
      Exists fun row => Exists fun slo =>
        api.sloAssignments.find (target, sloName) = some row ∧
          api.latestSlo sloName = some slo ∧ row.sloDefinition = slo.key := by
  unfold Api.PinnedToLatest
  rw [assignmentsOf_filter]
  cases api.sloAssignments.find (target, sloName) with
  | none =>
      constructor
      · rintro ⟨row, slo, impossible, _⟩
        cases impossible
      · rintro ⟨row, slo, impossible, _⟩
        cases impossible
  | some row =>
      constructor
      · rintro ⟨only, slo, same, latest, pinned⟩
        cases same
        exact ⟨row, slo, rfl, latest, pinned⟩
      · rintro ⟨only, slo, same, latest, pinned⟩
        cases same
        exact ⟨row, slo, rfl, latest, pinned⟩

theorem pinnedToLatest_with (api : Api) (assignments : KeyedTable SLOAssignment.key)
    (target : Target) (sloName : String) :
    ({ api with sloAssignments := assignments } : Api).PinnedToLatest target sloName ↔
      Exists fun row => Exists fun slo =>
        assignments.find (target, sloName) = some row ∧ api.latestSlo sloName = some slo ∧
          row.sloDefinition = slo.key :=
  pinnedToLatest_iff _ target sloName

theorem latestSlo_congr {before after : Api} (same : after.slos = before.slos) (name : String) :
    after.latestSlo name = before.latestSlo name := by
  unfold Api.latestSlo
  rw [same]

theorem pinnedToLatest_congr {before after : Api} (slos : after.slos = before.slos)
    (assignments : after.sloAssignments = before.sloAssignments) (target : Target)
    (sloName : String) :
    after.PinnedToLatest target sloName ↔ before.PinnedToLatest target sloName := by
  rw [pinnedToLatest_iff, pinnedToLatest_iff, latestSlo_congr slos, assignments]

/-! ## How a document reaches it -/

/-- The document creates the assignment: the target has none for the name and none that
is pinned to the version, and the target, the SLO and the data source exist. -/
structure InsertsLatest (api : Api) (spec : SLOAssignmentSpec) (target : Target)
    (sloName : String) : Prop where
  targetGiven : Exists fun targetType => Exists fun targetName =>
    spec.targetType.pathText "target_type" = .ok targetType ∧
      spec.targetName.pathText "target_name" = .ok targetName ∧
      target = targetOf (some targetType) targetName
  sloGiven : spec.sloName.pathText "slo_name" = .ok sloName
  hasTarget : api.hasTarget target = true
  hasDataSource : Exists fun dataSource => spec.dataSourceName = .value dataSource ∧
    checkStrings [dataSource] = .ok () ∧ api.dataSources.find dataSource ≠ none
  unassigned : api.sloAssignments.find (target, sloName) = none
  unpinned : Exists fun slo => api.latestSlo sloName = some slo ∧
    forall row, row ∈ api.assignmentsOf target -> row.sloDefinition ≠ slo.key

structure MovesToLatest (api : Api) (spec : SLOAssignmentSpec) (target : Target)
    (sloName : String) : Prop where
  isAsset : spec.targetType.get = some "asset"
  targetGiven : Exists fun targetName =>
    spec.targetName.pathText "target_name" = .ok targetName ∧ target = .asset targetName
  sloGiven : spec.sloName.getOr "" = some sloName
  hasTarget : api.hasTarget target = true
  assigned : api.sloAssignments.find (target, sloName) ≠ none
  hasSlo : api.latestSlo sloName ≠ none

/-! ## Creation -/

def createdAssignment (api : Api) (spec : SLOAssignmentSpec) : Option Api := do
  let targetType <- (spec.targetType.pathText "target_type").toOption
  let targetName <- (spec.targetName.pathText "target_name").toOption
  let sloName <- (spec.sloName.pathText "slo_name").toOption
  let slo <- api.latestSlo sloName
  let dataSource <- (spec.dataSourceName.require "data_source_name").toOption
  (putSloAssignment (targetOf (some targetType) targetName) slo.id dataSource api).toOption

theorem run_resolveSloDefinitionId (session : Session) (sloName : String) :
    Program.run (resolveSloDefinitionId allAnswered sloName) session =
      (((orRaise (.notFound "slo definition" sloName) (session.api.latestSlo sloName)).mapError
        ClientError.api).map SLO.id, session.next) := by
  unfold resolveSloDefinitionId
  rw [Program.run_bind, run_ask_answered rfl]
  unfold getSlo
  cases session.api.latestSlo sloName <;> rfl

variable {slo : SLO} {sloName name : String} {session : Session} {api : Api} {row : SLOAssignment}
  {target : Target} {spec : SLOAssignmentSpec} {setting : Setting String}
  {docs : List ManifestDocument}

theorem run_resolve_latest (latest : session.api.latestSlo sloName = some slo) :
    Program.run (resolveSloDefinitionId allAnswered sloName) session = (.ok slo.id, session.next) := by
  rw [run_resolveSloDefinitionId, latest]
  rfl

theorem run_tell_refused (command : Command) {error : ApiError}
    (refused : command session.api = .error error) :
    Program.run (tell allAnswered command) session = (.error (.api error), session.next) := by
  unfold tell allAnswered
  rw [Program.run_ofFunction, refused]

theorem run_tell_api (session : Session) (command : Command) :
    (Program.run (tell allAnswered command) session).2.api =
      (command session.api).toOption.getD session.api := by
  unfold tell allAnswered
  rw [Program.run_ofFunction]
  cases command session.api <;> rfl

theorem run_createSloAssignmentOf (session : Session) (spec : SLOAssignmentSpec) :
    (Program.run (createSloAssignmentOf allAnswered spec) session).2.api =
      (createdAssignment session.api spec).getD session.api := by
  unfold createSloAssignmentOf createdAssignment
  rw [Program.run_bind, Program.run_ofExcept]
  cases spec.targetType.pathText "target_type" with
  | error => rfl
  | ok targetType =>
      dsimp only
      rw [Program.run_bind, Program.run_ofExcept]
      cases spec.targetName.pathText "target_name" with
      | error => rfl
      | ok targetName =>
          dsimp only
          rw [Program.run_bind, Program.run_ofExcept]
          cases spec.sloName.pathText "slo_name" with
          | error => rfl
          | ok sloName =>
              dsimp only
              rw [Program.run_bind, run_resolveSloDefinitionId]
              cases found : session.api.latestSlo sloName with
              | none =>
                  change session.api = (Option.bind (session.api.latestSlo sloName) _).getD _
                  rw [found]
                  rfl
              | some slo =>
                  dsimp only [orRaise, Except.mapError, Except.map]
                  rw [Program.run_bind, Program.run_ofExcept]
                  cases spec.dataSourceName.require "data_source_name" with
                  | error =>
                      change session.api = (Option.bind (session.api.latestSlo sloName) _).getD _
                      rw [found]
                      rfl
                  | ok dataSource =>
                      dsimp only
                      rw [run_tell_api]
                      change _ = (Option.bind (session.api.latestSlo sloName) _).getD _
                      rw [found]
                      rfl

theorem sloById_latest (latest : api.latestSlo name = some slo) : api.sloById slo.id = some slo :=
  (latestSlo_facts latest).2.2

theorem pinned_insert (fresh : api.sloAssignments.find row.key = none)
    (latest : api.latestSlo row.sloName = some slo) (pinned : row.sloDefinition = slo.key)
    (target : Target) (sloName : String) :
    ({ api with sloAssignments := api.sloAssignments.insert row fresh } : Api).PinnedToLatest
        target sloName ↔
      api.PinnedToLatest target sloName ∨ (target, sloName) = row.key := by
  rw [pinnedToLatest_with, pinnedToLatest_iff, find_insert]
  by_cases here : (target, sloName) = row.key
  · rw [if_pos here]
    have named : sloName = row.sloName := congrArg Prod.snd here
    refine iff_of_true ⟨row, slo, rfl, ?_, pinned⟩ (Or.inr here)
    rw [named]
    exact latest
  · rw [if_neg here, or_iff_left here]

theorem pinned_update (api : Api) (updated : Target × String) (change : SLOAssignment -> SLOAssignment)
    (keeps : forall row, (change row).key = row.key)
    (pins : forall row, (change row).sloDefinition = row.sloDefinition) (target : Target)
    (sloName : String) :
    ({ api with sloAssignments := api.sloAssignments.update updated change keeps } : Api).PinnedToLatest
        target sloName ↔ api.PinnedToLatest target sloName := by
  rw [pinnedToLatest_with, pinnedToLatest_iff, find_update]
  by_cases here : (target, sloName) = updated
  · rw [if_pos here]
    cases api.sloAssignments.find (target, sloName) with
    | none => exact iff_of_false (by simp) (by simp)
    | some row =>
        constructor
        · rintro ⟨found, newest, same, latest, pinned⟩
          cases same
          exact ⟨row, newest, rfl, latest, (pins row).symm.trans pinned⟩
        · rintro ⟨found, newest, same, latest, pinned⟩
          cases same
          exact ⟨change row, newest, rfl, latest, (pins row).trans pinned⟩
  · rw [if_neg here]

/-- To put the latest version of an SLO on a target inserts the assignment if the target
has neither one for the name nor one that is pinned to the version. -/
theorem pinned_put {later : Api} {put : Target} {dataSource : String}
    (latest : api.latestSlo name = some slo)
    (accepted : putSloAssignment put slo.id dataSource api = .ok later) (target : Target)
    (sloName : String) :
    later.PinnedToLatest target sloName ↔
      api.PinnedToLatest target sloName ∨
        (target = put ∧ sloName = name ∧ api.sloAssignments.find (put, name) = none ∧
          forall row, row ∈ api.assignmentsOf put -> row.sloDefinition ≠ slo.key) := by
  have named : slo.name = name := (latestSlo_facts latest).1
  rcases putSloAssignment_eq_ok accepted with ⟨_, _, chosen, isChosen, source, _, stored⟩
  rw [sloById_latest latest] at isChosen
  cases isChosen
  rcases upsertSloAssignment_eq_ok stored with ⟨unpinned, fresh, same⟩ | ⟨row, member, pinned, same⟩
  · have latestOfRow : api.latestSlo slo.name = some slo := by
      rw [named]
      exact latest
    rw [same, pinned_insert fresh latestOfRow rfl target sloName]
    have freshKey : api.sloAssignments.find (put, name) = none := by
      rw [<- named]
      exact fresh
    refine or_congr_right ⟨fun here => ?_, ?_⟩
    · exact ⟨congrArg Prod.fst here, (congrArg Prod.snd here).trans named, freshKey, unpinned⟩
    · rintro ⟨sameTarget, sameName, _, _⟩
      rw [sameTarget, sameName, <- named]
      rfl
  · rw [same, pinned_update api row.key (SLOAssignment.useDataSource source.name) (fun _ => rfl)
      (fun _ => rfl) target sloName]
    refine (or_iff_left ?_).symm
    rintro ⟨_, _, _, unpinned⟩
    exact unpinned row member pinned

theorem accept_put {dataSource : String} (hasTarget : api.hasTarget target = true)
    (safe : checkStrings [dataSource] = .ok ())
    (hasDataSource : api.dataSources.find dataSource ≠ none)
    (latest : api.latestSlo sloName = some slo)
    (unassigned : api.sloAssignments.find (target, sloName) = none)
    (unpinned : forall row, row ∈ api.assignmentsOf target -> row.sloDefinition ≠ slo.key) :
    Exists fun later => putSloAssignment target slo.id dataSource api = .ok later := by
  rcases Option.ne_none_iff_exists'.mp hasDataSource with ⟨source, isSource⟩
  have noneToUpdate : ((api.assignmentsOf target).filter fun row => row.sloDefinition = slo.key) =
      [] :=
    List.filter_eq_nil_iff.mpr fun row member selected =>
      unpinned row member (of_decide_eq_true selected)
  have fresh : api.sloAssignments.find (target, slo.name) = none := by
    rw [(latestSlo_facts latest).1]
    exact unassigned
  have upserted : putSloAssignment target slo.id dataSource api =
      api.upsertSloAssignment target slo source.name := by
    unfold putSloAssignment Api.checkTarget
    rw [safe, if_pos hasTarget, sloById_latest latest, isSource]
    rfl
  rw [upserted]
  unfold Api.upsertSloAssignment
  rw [noneToUpdate]
  exact ⟨_, dif_pos fresh⟩

theorem Setting.require_eq_ok {α : Type} {key : String} {setting : Setting α} {given : α}
    (required : setting.require key = .ok given) : setting = .value given := by
  cases setting with
  | leftOut => cases required
  | null => cases required
  | value => rw [Except.ok.inj required]

theorem pinned_created (api : Api) (spec : SLOAssignmentSpec) (target : Target) (sloName : String) :
    ((createdAssignment api spec).getD api).PinnedToLatest target sloName ↔
      api.PinnedToLatest target sloName ∨ InsertsLatest api spec target sloName := by
  constructor
  · intro reached
    cases created : createdAssignment api spec with
    | none =>
        rw [created] at reached
        exact Or.inl reached
    | some later =>
        rw [created, Option.getD_some] at reached
        unfold createdAssignment at created
        simp only [Option.bind_eq_bind, Option.bind_eq_some_iff, toOption_eq_some] at created
        rcases created with ⟨targetType, isType, targetName, isName, name, isSlo, slo, latest,
          dataSource, isSource, accepted⟩
        refine ((pinned_put latest accepted target sloName).mp reached).imp_right ?_
        rintro ⟨sameTarget, sameName, unassigned, unpinned⟩
        subst sameTarget sameName
        rcases putSloAssignment_eq_ok accepted with ⟨safe, hasTarget, _, _, source, found, _⟩
        exact {
          targetGiven := ⟨targetType, targetName, isType, isName, rfl⟩
          sloGiven := isSlo
          hasTarget
          hasDataSource := ⟨dataSource, Setting.require_eq_ok isSource, safe,
            Option.ne_none_iff_exists'.mpr ⟨source, found⟩⟩
          unassigned
          unpinned := ⟨slo, latest, unpinned⟩ }
  · rintro (before | inserts)
    · cases created : createdAssignment api spec with
      | none => exact before
      | some later =>
          unfold createdAssignment at created
          simp only [Option.bind_eq_bind, Option.bind_eq_some_iff,
            toOption_eq_some] at created
          rcases created with ⟨_, _, _, _, _, _, slo, latest, _, _, accepted⟩
          exact (pinned_put latest accepted target sloName).mpr (Or.inl before)
    · rcases inserts.targetGiven with ⟨targetType, targetName, isType, isName, isTarget⟩
      rcases inserts.hasDataSource with ⟨dataSource, isSource, safe, hasDataSource⟩
      rcases inserts.unpinned with ⟨slo, latest, unpinned⟩
      rcases accept_put inserts.hasTarget safe hasDataSource latest inserts.unassigned unpinned with
        ⟨later, accepted⟩
      have created : createdAssignment api spec = some later := by
        unfold createdAssignment
        rw [isType, isName, inserts.sloGiven, isSource]
        change (api.latestSlo sloName).bind (fun slo =>
          (putSloAssignment (targetOf (some targetType) targetName) slo.id dataSource api).toOption) = _
        rw [latest, <- isTarget]
        change (putSloAssignment target slo.id dataSource api).toOption = _
        rw [accepted]
        rfl
      rw [created, Option.getD_some]
      exact (pinned_put latest accepted target sloName).mpr
        (Or.inr ⟨rfl, rfl, inserts.unassigned, unpinned⟩)

/-! ## Moving -/

theorem assignmentFor_facts {sloName : Option String}
    (found : api.assignmentFor target sloName = some row) :
    api.hasTarget target = true ∧ row ∈ api.assignmentsOf target ∧ some row.sloName = sloName := by
  unfold Api.assignmentFor at found
  split at found
  · rename_i hasTarget
    have selected := List.find?_some found
    exact ⟨hasTarget, List.mem_of_find?_eq_some found, of_decide_eq_true selected⟩
  · cases found

theorem run_lookupSloAssignment
    (found : session.api.assignmentFor spec.target (spec.sloName.getOr "") = some row) :
    Program.run (lookupSloAssignment allAnswered spec) session =
      (.ok (some row.read), session.next) := by
  have picked := findAssignment_eq session.api spec.target (spec.sloName.getOr "")
  rw [found] at picked
  unfold lookupSloAssignment
  have sameTarget : targetOf (spec.targetType.getOr "") spec.targetName.pathTextOr = spec.target := rfl
  rw [Program.run_bind, run_ask_answered rfl, sameTarget]
  cases listed : listSloAssignments spec.target session.api with
  | error =>
      rw [listed] at picked
      cases picked
  | ok rows =>
      rw [listed] at picked
      change (rows.find? fun row => some row.sloName = spec.sloName.getOr "") = some row.read at picked
      change (Except.ok (rows.find? fun row => some row.sloName = spec.sloName.getOr ""), session.next) = _
      rw [picked]

theorem run_repointSloAssignment
    (found : session.api.assignmentFor spec.target (spec.sloName.getOr "") = some row)
    (latest : session.api.latestSlo spec.sloName.pathTextOr = some slo) :
    (Program.run (repointSloAssignment allAnswered name spec) session).2.api =
      if spec.targetType.get = some "asset" then
        ((spec.targetName.pathText "target_name").toOption.bind fun targetName =>
          (upgradeSloAssignment targetName row.id slo.id session.api).toOption).getD session.api
      else session.api := by
  unfold repointSloAssignment
  rw [Program.run_bind, run_lookupSloAssignment found]
  dsimp only
  have later : session.next.api.latestSlo spec.sloName.pathTextOr = some slo := latest
  rw [Program.run_bind, run_resolve_latest later]
  dsimp only
  by_cases isAsset : spec.targetType.get = some "asset"
  · rw [if_pos isAsset, if_pos isAsset, Program.run_bind, Program.run_ofExcept]
    cases spec.targetName.pathText "target_name" with
    | error => rfl
    | ok targetName => exact run_tell_api _ _
  · rw [if_neg isAsset, if_neg isAsset, Program.run_bind]
    unfold deleteGroupSloAssignmentOf
    rw [Program.run_bind, Program.run_ofExcept]
    cases spec.targetName.pathText "target_name" with
    | error => rfl
    | ok targetName =>
        dsimp only
        have refused := deleteSloAssignment_of_assignment (.assetGroup targetName) row.target
          row.sloName session.api
        have sameId : row.read.id = .sloAssignment row.target row.sloName := rfl
        cases outcome : deleteSloAssignment (.assetGroup targetName)
          (.sloAssignment row.target row.sloName) session.api with
        | error error =>
            have unchanged : deleteSloAssignment (.assetGroup targetName)
                (.sloAssignment row.target row.sloName) session.next.next.api = .error error := outcome
            rw [sameId, run_tell_refused _ unchanged]
            rfl
        | ok later =>
            rw [outcome] at refused
            cases refused

theorem pinned_pin (inside : row ∈ api.sloAssignments.rows)
    (latest : api.latestSlo row.sloName = some slo) (target : Target) (sloName : String) :
    ({ api with
      sloAssignments := api.sloAssignments.update row.key (SLOAssignment.pin slo.key)
        (fun _ => rfl) } : Api).PinnedToLatest target sloName ↔
      api.PinnedToLatest target sloName ∨ (target, sloName) = row.key := by
  have moved := find_update api.sloAssignments row.key (SLOAssignment.pin slo.key)
    (fun _ => rfl) (target, sloName)
  rw [pinnedToLatest_with, pinnedToLatest_iff, moved]
  by_cases here : (target, sloName) = row.key
  · have named : sloName = row.sloName := congrArg Prod.snd here
    rw [if_pos here, here, find_of_mem inside, named]
    exact iff_of_true ⟨row.pin slo.key, slo, rfl, latest, rfl⟩ (Or.inr rfl)
  · rw [if_neg here, or_iff_left here]

theorem accept_upgrade {asset : String} (hasTarget : api.hasTarget (.asset asset) = true)
    (inside : row ∈ api.assignmentsOf (.asset asset)) (latest : api.latestSlo name = some slo) :
    upgradeSloAssignment asset row.id slo.id api = .ok { api with
      sloAssignments := api.sloAssignments.update row.key (SLOAssignment.pin slo.key)
        (fun _ => rfl) } := by
  have found : ((api.assignmentsOf (.asset asset)).find? fun other => other.id = row.id) =
      some row := by
    cases result : (api.assignmentsOf (.asset asset)).find? fun other => other.id = row.id with
    | none => exact absurd (decide_eq_true rfl) (List.find?_eq_none.mp result row inside)
    | some other =>
        have selected := List.find?_some result
        have sameId : other.id = row.id := of_decide_eq_true selected
        have sameKey : other.key = row.key := by
          unfold SLOAssignment.key
          unfold SLOAssignment.id at sameId
          rw [(Uuid.sloAssignment.inj sameId).1, (Uuid.sloAssignment.inj sameId).2]
        rw [eq_of_key (mem_assignmentsOf.mp (List.mem_of_find?_eq_some result)).1
          (mem_assignmentsOf.mp inside).1 sameKey]
  unfold upgradeSloAssignment Api.checkTarget
  rw [if_pos hasTarget, sloById_latest latest, found]
  rfl

theorem Setting.pathText_agrees {key given : String} (inPath : setting.pathText key = .ok given) :
    setting.pathTextOr = given := by
  cases setting with
  | leftOut => cases inPath
  | null => exact Except.ok.inj inPath
  | value => exact Except.ok.inj inPath

theorem Setting.pathTextOr_of_given {given : String} (isGiven : setting.getOr "" = some given) :
    setting.pathTextOr = given := by
  unfold Setting.pathTextOr
  rw [isGiven]
  rfl

theorem target_of_asset {targetName : String} (isAsset : spec.targetType.get = some "asset")
    (inPath : spec.targetName.pathText "target_name" = .ok targetName) :
    spec.target = .asset targetName := by
  have typed : spec.targetType.getOr "" = some "asset" := by
    cases setting : spec.targetType with
    | value =>
        rw [setting] at isAsset
        exact isAsset
    | leftOut | null =>
        rw [setting] at isAsset
        cases isAsset
  unfold SLOAssignmentSpec.target
  rw [typed, Setting.pathText_agrees inPath]
  rfl

theorem pinned_repointed
    (found : session.api.assignmentFor spec.target (spec.sloName.getOr "") = some row)
    (latest : session.api.latestSlo spec.sloName.pathTextOr = some slo) (target : Target)
    (sloName : String) :
    (Program.run (repointSloAssignment allAnswered name spec) session).2.api.PinnedToLatest target
        sloName ↔
      session.api.PinnedToLatest target sloName ∨
        MovesToLatest session.api spec target sloName := by
  rcases assignmentFor_facts found with ⟨hasTarget, inside, named⟩
  rcases mem_assignmentsOf.mp inside with ⟨member, ofTarget⟩
  have latestOfRow : session.api.latestSlo row.sloName = some slo := by
    rw [<- Setting.pathTextOr_of_given named.symm]
    exact latest
  rw [run_repointSloAssignment found latest]
  by_cases isAsset : spec.targetType.get = some "asset"
  · rw [if_pos isAsset]
    cases inPath : spec.targetName.pathText "target_name" with
    | error error =>
        refine (or_iff_left ?_).symm
        intro moves
        rcases moves.targetGiven with ⟨targetName, given, _⟩
        rw [inPath] at given
        cases given
    | ok targetName =>
        have targetIs := target_of_asset isAsset inPath
        rw [targetIs] at hasTarget inside ofTarget
        change ((upgradeSloAssignment targetName row.id slo.id session.api).toOption.getD
          session.api).PinnedToLatest target sloName ↔ _
        rw [accept_upgrade hasTarget inside latestOfRow]
        refine (pinned_pin member latestOfRow target sloName).trans (or_congr_right ⟨?_, ?_⟩)
        · intro here
          have sameTarget : target = .asset targetName := (congrArg Prod.fst here).trans ofTarget
          have sameName : sloName = row.sloName := congrArg Prod.snd here
          exact {
            isAsset
            targetGiven := ⟨targetName, inPath, sameTarget⟩
            sloGiven := named.symm.trans (congrArg some sameName.symm)
            hasTarget := by
              rw [sameTarget]
              exact hasTarget
            assigned := by
              rw [here, find_of_mem member]
              exact Option.some_ne_none row
            hasSlo := by
              rw [sameName, latestOfRow]
              exact Option.some_ne_none slo }
        · intro moves
          rcases moves.targetGiven with ⟨other, given, isTarget⟩
          rw [inPath] at given
          have sameName : row.sloName = sloName := Option.some.inj (named.trans moves.sloGiven)
          unfold SLOAssignment.key
          rw [isTarget, ofTarget, sameName, Except.ok.inj given]
  · rw [if_neg isAsset]
    exact (or_iff_left fun moves : MovesToLatest _ _ _ _ => isAsset moves.isAsset).symm

/-! ## One document -/

theorem InsertsLatest.target_eq (inserts : InsertsLatest api spec target sloName) :
    spec.target = target := by
  rcases inserts.targetGiven with ⟨targetType, targetName, isType, isName, isTarget⟩
  unfold SLOAssignmentSpec.target
  rw [isTarget, Setting.pathText_agrees isName]
  cases setting : spec.targetType with
  | leftOut =>
      rw [setting] at isType
      cases isType
  | null =>
      rw [setting] at isType
      rw [<- Except.ok.inj isType]
      rfl
  | value =>
      rw [setting] at isType
      rw [<- Except.ok.inj isType]
      rfl

theorem InsertsLatest.missing (inserts : InsertsLatest api spec target sloName) :
    api.assignmentFor spec.target (spec.sloName.getOr "") = none := by
  cases found : api.assignmentFor spec.target (spec.sloName.getOr "") with
  | none => rfl
  | some row =>
      rcases assignmentFor_facts found with ⟨hasTarget, _, named⟩
      have given := Setting.pathText_agrees inserts.sloGiven
      rw [Setting.pathTextOr_of_given named.symm] at given
      rw [<- named, given, assignmentFor_eq, if_pos hasTarget, inserts.target_eq,
        inserts.unassigned] at found
      cases found

theorem MovesToLatest.target_eq (moves : MovesToLatest api spec target sloName) :
    spec.target = target := by
  rcases moves.targetGiven with ⟨targetName, inPath, isTarget⟩
  rw [isTarget]
  exact target_of_asset moves.isAsset inPath

theorem MovesToLatest.found (moves : MovesToLatest api spec target sloName) :
    api.assignmentFor spec.target (spec.sloName.getOr "") =
      api.sloAssignments.find (target, sloName) := by
  rw [moves.sloGiven, assignmentFor_eq, moves.target_eq, if_pos moves.hasTarget]

theorem differs_of_latest (latest : api.latestSlo spec.sloName.pathTextOr = some slo) :
    differs api ⟨name, .sloAssignment spec⟩ (.sloAssignment row.read) =
      .ok (decide (row.sloDefinition ≠ slo.key)) := by
  change (do
    let latest <- (getSlo spec.sloName.pathTextOr api).mapError ClientError.api
    return decide (row.read.sloDefinitionId ≠ latest.id)) = _
  unfold getSlo
  rw [latest]
  refine congrArg Except.ok (decide_eq_decide.mpr (not_congr ?_))
  unfold SLOAssignment.read SLO.id SLO.key
  rw [Uuid.sloDefinition.injEq, Prod.ext_iff]

theorem pinned_process (name : String) (spec : SLOAssignmentSpec) (session : Session)
    (target : Target) (sloName : String) :
    (process allAnswered ⟨name, .sloAssignment spec⟩ session).2.api.PinnedToLatest target sloName ↔
      session.api.PinnedToLatest target sloName ∨ InsertsLatest session.api spec target sloName ∨
        MovesToLatest session.api spec target sloName := by
  rcases process_answered ⟨name, .sloAssignment spec⟩ session with ⟨left, kept, processed⟩
  rw [processed, <- kept]
  have looked : findExisting left.api ⟨name, .sloAssignment spec⟩ =
      (left.api.assignmentFor spec.target (spec.sloName.getOr "")).map fun row =>
        .sloAssignment row.read := rfl
  cases found : left.api.assignmentFor spec.target (spec.sloName.getOr "") with
  | none =>
      have notMoved : ¬ MovesToLatest left.api spec target sloName :=
        fun moves => moves.assigned (moves.found.symm.trans found)
      rw [found] at looked
      rw [verdict_of_missing looked, or_iff_left notMoved]
      dsimp only
      rw [concluded_session]
      change (Program.run (createSloAssignmentOf allAnswered spec) left).2.api.PinnedToLatest target
        sloName ↔ _
      rw [run_createSloAssignmentOf]
      exact pinned_created left.api spec target sloName
  | some row =>
      have notInserted : ¬ InsertsLatest left.api spec target sloName := by
        intro inserts
        rw [inserts.missing] at found
        cases found
      rw [found] at looked
      rw [verdict_of_found looked, or_iff_right notInserted]
      cases latest : left.api.latestSlo spec.sloName.pathTextOr with
      | none =>
          have unread : differs left.api ⟨name, .sloAssignment spec⟩ (.sloAssignment row.read) =
              .error (.api (.notFound "slo definition" spec.sloName.pathTextOr)) := by
            change (do
              let latest <- (getSlo spec.sloName.pathTextOr left.api).mapError ClientError.api
              return decide (row.read.sloDefinitionId ≠ latest.id)) = _
            unfold getSlo
            rw [latest]
            rfl
          rw [unread]
          refine (or_iff_left fun moves => moves.hasSlo ?_).symm
          rw [<- Setting.pathTextOr_of_given moves.sloGiven]
          exact latest
      | some slo =>
          rw [differs_of_latest latest]
          by_cases stale : row.sloDefinition ≠ slo.key
          · rw [decide_eq_true stale]
            change (concluded .updating .updated (Program.run (repointSloAssignment allAnswered name
              spec) left)).2.api.PinnedToLatest target sloName ↔ _
            rw [concluded_session]
            exact pinned_repointed found latest target sloName
          · rw [decide_eq_false stale]
            refine (or_iff_left_of_imp fun moves => ?_).symm
            rw [Setting.pathTextOr_of_given moves.sloGiven] at latest
            rw [moves.found] at found
            exact (pinnedToLatest_iff _ _ _).mpr ⟨row, slo, found, latest, not_not.mp stale⟩

/-! ## A run -/

def Kind.isBinding : Kind -> Bool
  | .sloAssignment | .sloGroupAssignment | .metaSnapshot => true
  | _ => false

def Acts (progress : Progress) (doc : ManifestDocument) (target : Target) (sloName : String) :
    Prop :=
  Exists fun spec => doc.spec = .sloAssignment spec ∧ doc.kind ∉ progress.blockedKinds ∧
    (InsertsLatest progress.session.api spec target sloName ∨
      MovesToLatest progress.session.api spec target sloName)

/-- The document is one for the target and the SLO name and the goal is reached already,
or its kind is not blocked and it inserts the assignment or moves it. -/
def Repoints (target : Target) (sloName : String) (progress : Progress) (doc : ManifestDocument) :
    Prop :=
  (Exists fun spec => doc.spec = .sloAssignment spec ∧ spec.target = target ∧
    spec.sloName.getOr "" = some sloName ∧ progress.session.api.PinnedToLatest target sloName) ∨
  Acts progress doc target sloName

theorem pinned_step (progress : Progress) {doc : ManifestDocument}
    (binding : doc.kind.isBinding = true) (target : Target) (sloName : String) :
    (progress.applyDocument allAnswered doc).session.api.PinnedToLatest target sloName ↔
      progress.session.api.PinnedToLatest target sloName ∨ Acts progress doc target sloName := by
  change (progress.attempt allAnswered doc).2.api.PinnedToLatest target sloName ↔ _
  rcases doc with ⟨name, spec⟩
  have untouched : forall other : Spec, (forall spec, other ≠ .sloAssignment spec) ->
      Table.slos ∉ (other.kind).tables -> Table.sloAssignments ∉ (other.kind).tables ->
      ((progress.attempt allAnswered ⟨name, other⟩).2.api.PinnedToLatest target sloName ↔
        progress.session.api.PinnedToLatest target sloName ∨
          Acts progress ⟨name, other⟩ target sloName) := by
    intro other different slos assignments
    have slosKept : Table.slos ∉ (⟨name, other⟩ : ManifestDocument).kind.tables := slos
    have assignmentsKept : Table.sloAssignments ∉ (⟨name, other⟩ : ManifestDocument).kind.tables :=
      assignments
    rw [pinnedToLatest_congr (attempt_tables allAnswered progress slosKept)
      (attempt_tables allAnswered progress assignmentsKept)]
    refine (or_iff_left ?_).symm
    rintro ⟨spec, same, _⟩
    exact different spec same
  cases spec with
  | sloAssignment spec =>
      by_cases blocked : (⟨name, .sloAssignment spec⟩ : ManifestDocument).kind ∈ progress.blockedKinds
      · rw [attempt_of_blocked blocked]
        refine (or_iff_left ?_).symm
        rintro ⟨_, _, unblocked, _⟩
        exact unblocked blocked
      · rw [attempt_of_unblocked blocked, pinned_process]
        refine or_congr_right ⟨fun acts => ⟨spec, rfl, blocked, acts⟩, ?_⟩
        rintro ⟨_, same, _, acts⟩
        cases same
        exact acts
  | sloGroupAssignment spec =>
      refine untouched (.sloGroupAssignment spec) ?_ (by simp [Spec.kind, Kind.tables])
        (by simp [Spec.kind, Kind.tables])
      intro other same
      cases same
  | metaSnapshot spec =>
      refine untouched (.metaSnapshot spec) ?_ (by simp [Spec.kind, Kind.tables])
        (by simp [Spec.kind, Kind.tables])
      intro other same
      cases same
  | _ => exact absurd binding Bool.false_ne_true

theorem pinned_run (progress : Progress)
    (binding : forall doc, doc ∈ docs -> doc.kind.isBinding = true) (target : Target)
    (sloName : String) :
    (progress.applyAll allAnswered docs).session.api.PinnedToLatest target sloName ↔
      progress.session.api.PinnedToLatest target sloName ∨
        progress.AtSome allAnswered (Repoints target sloName) docs := by
  induction docs generalizing progress with
  | nil => exact (or_iff_left id).symm
  | cons doc rest ih =>
      have step := pinned_step progress (binding doc List.mem_cons_self) target sloName
      rw [applyAll_cons, ih _ fun other member =>
        binding other (List.mem_cons_of_mem doc member), step]
      change _ ↔ _ ∨ Repoints target sloName progress doc ∨ _
      unfold Repoints
      constructor
      · rintro ((before | acts) | later)
        · exact Or.inl before
        · exact Or.inr (Or.inl (Or.inr acts))
        · exact Or.inr (Or.inr later)
      · rintro (before | (⟨_, _, _, _, before⟩ | acts) | later)
        · exact Or.inl (Or.inl before)
        · exact Or.inl (Or.inl before)
        · exact Or.inl (Or.inr acts)
        · exact Or.inr later

theorem pinned_until (progress : Progress)
    (binding : forall doc, doc ∈ docs -> doc.kind.isBinding = true)
    (listed : ⟨name, .sloAssignment spec⟩ ∈ docs) (given : spec.sloName.getOr "" = some sloName)
    (reached : progress.session.api.PinnedToLatest spec.target sloName) :
    progress.AtSome allAnswered (Repoints spec.target sloName) docs := by
  induction docs generalizing progress with
  | nil => exact absurd listed List.not_mem_nil
  | cons doc rest ih =>
      rcases List.mem_cons.mp listed with same | later
      · rw [<- same]
        exact Or.inl (Or.inl ⟨spec, rfl, rfl, given, reached⟩)
      · exact Or.inr (ih _
          (fun other member => binding other (List.mem_cons_of_mem doc member)) later
          ((pinned_step progress (binding doc List.mem_cons_self) _ _).mpr (Or.inl reached)))

theorem isBinding_of_sortKey {kind : Kind}
    (late : Kind.sloAssignment.sortKey ≤ kind.sortKey) : kind.isBinding = true := by
  revert late
  cases kind <;> decide

/-- After the application of a sorted list, the target of an assignment document has
exactly one assignment for the SLO name, at the latest version, if and only if one of
the documents repoints it. -/
theorem pinnedToLatest_iff_repoints (api : Api) {docs : List ManifestDocument}
    (sorted : Sorted docs) {name : String} {spec : SLOAssignmentSpec}
    (listed : ⟨name, .sloAssignment spec⟩ ∈ docs) {sloName : String}
    (given : spec.sloName.getOr "" = some sloName) :
    (apply allAnswered api docs).session.api.PinnedToLatest spec.target sloName ↔
      (start api).AtSome allAnswered (Repoints spec.target sloName) docs := by
  unfold apply
  generalize start api = progress
  induction docs generalizing progress with
  | nil => exact absurd listed List.not_mem_nil
  | cons doc rest inductionHypothesis =>
      rcases List.pairwise_cons.mp sorted with ⟨first, sortedRest⟩
      by_cases binding : doc.kind.isBinding = true
      · have late : Kind.sloAssignment.sortKey ≤ doc.kind.sortKey := by
          revert binding
          cases doc.kind <;> decide
        have bindings : forall other, other ∈ doc :: rest -> other.kind.isBinding = true := by
          intro other member
          rcases List.mem_cons.mp member with same | later
          · rw [same]
            exact binding
          · exact isBinding_of_sortKey (Nat.le_trans late (first other later))
        rw [pinned_run progress bindings]
        exact or_iff_right_of_imp (pinned_until progress bindings listed given)
      · have later : ⟨name, .sloAssignment spec⟩ ∈ rest := by
          rcases List.mem_cons.mp listed with same | member
          · rw [<- same] at binding
            exact absurd rfl binding
          · exact member
        have silent : ¬ Repoints spec.target sloName progress doc := by
          rintro (⟨_, isAssignment, _⟩ | ⟨_, isAssignment, _⟩)
          all_goals
            unfold ManifestDocument.kind at binding
            rw [isAssignment] at binding
            exact binding rfl
        rw [applyAll_cons, inductionHypothesis sortedRest later]
        exact (or_iff_right silent).symm

/-- An SLO in two versions, and the requests that assign the first one to an asset and to
an asset group. -/
def uptimeRequests : List Command :=
  let uptime : SLODefinitionCreate := { name := "uptime", objectives := [{ sli := "up" }] }
  let first : Uuid := .sloDefinition "uptime" 1
  [createAssetType { name := "vm" }, createAsset { name := "node-1", typeName := "vm" },
    createAssetGroup { name := "cluster" },
    createDataSource { name := "thanos", adapterType := "prometheus", adapterUrl := "http://thanos" },
    createSlo uptime, putSloAssignment (.asset "node-1") first "thanos",
    putSloAssignment (.assetGroup "cluster") first "thanos", createSlo uptime]

def uptimeApi : Api :=
  (uptimeRequests.foldlM (fun api (request : Command) => request api) Api.empty).toOption.getD Api.empty

def uptimeDocument (targetType targetName : String) : ManifestDocument where
  name := "uptime-" ++ targetName
  spec := .sloAssignment {
    targetType := .value targetType
    targetName := .value targetName
    sloName := .value "uptime"
    dataSourceName := .value "thanos" }

def nodeDocuments : List ManifestDocument :=
  topologicalSort [uptimeDocument "asset" "node-1", { name := "vm", spec := .assetType {} }]

/-- The assignment of the asset is moved to the second version. -/
theorem node_pinnedToLatest :
    (apply allAnswered uptimeApi nodeDocuments).session.api.PinnedToLatest (.asset "node-1")
      "uptime" := by
  have listed : uptimeDocument "asset" "node-1" ∈ nodeDocuments :=
    (Latest.sortBy_perm _ _).mem_iff.mpr List.mem_cons_self
  refine (pinnedToLatest_iff_repoints uptimeApi (topologicalSort_sorted _) listed rfl).mpr
    (Or.inr (Or.inl (Or.inr ⟨_, rfl, by decide +kernel, Or.inr ?_⟩)))
  exact {
    isAsset := rfl
    targetGiven := ⟨"node-1", rfl, rfl⟩
    sloGiven := rfl
    hasTarget := by decide +kernel
    assigned := by
      refine Option.ne_none_iff_isSome.mpr ?_
      decide +kernel
    hasSlo := by
      refine Option.ne_none_iff_isSome.mpr ?_
      decide +kernel }

/-- The assignment of the asset group stays at the first version. -/
theorem cluster_not_pinnedToLatest :
    ¬ (apply allAnswered uptimeApi [uptimeDocument "asset_group" "cluster"]).session.api.PinnedToLatest
      (.assetGroup "cluster") "uptime" := by
  intro reached
  rcases (pinnedToLatest_iff _ _ _).mp reached with ⟨row, slo, found, latest, pinned⟩
  have assigned : (((apply allAnswered uptimeApi [uptimeDocument "asset_group"
      "cluster"]).session.api.sloAssignments.find (.assetGroup "cluster", "uptime")).map
        SLOAssignment.sloDefinition) = some ("uptime", 1) := by decide +kernel
  have second : (((apply allAnswered uptimeApi [uptimeDocument "asset_group"
      "cluster"]).session.api.latestSlo "uptime").map SLO.key) = some ("uptime", 2) := by
    decide +kernel
  rw [found, Option.map_some, pinned] at assigned
  rw [latest, Option.map_some, assigned] at second
  cases second

end Manifest
end Tropek
