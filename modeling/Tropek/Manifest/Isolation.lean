import Tropek.Manifest.Comparison
import Tropek.Manifest.Effects

namespace Tropek
namespace Manifest

open Library Engine KeyedTable

/-!
# Which failures stay isolated

A failed document blocks the kinds that the table of dependencies names.  The
references that a document carries are more than this table: an SLO names an SLI, an
asset group has subgroups and a display group has a parent.  A lookup that fails in
transit counts as an entity that does not exist, and to create an SLO or an SLI that
exists is to append a version to it.

The section at the end says of every run, and of every pattern of failing requests,
exactly when a failure stays isolated in it.
-/

def targetKind (targetType : Setting String) : Kind :=
  if targetType.getOr "" = some "asset" then .asset else .assetGroup

def refersIf (carried : Bool) (kind : Kind) : List Kind :=
  if carried then [kind] else []

/-- The kinds of the entities that the specification of a document refers to. -/
def references (doc : ManifestDocument) : List Kind :=
  match doc.spec with
  | .assetType _ | .dataSource _ | .sli _ => []
  | .asset spec => refersIf (spec.typeName.getOr "vm").isSome .assetType
  | .slo spec => refersIf spec.sliName.get.isSome .sli
  | .assetGroup spec =>
      refersIf (spec.members.get.any fun members => !members.isEmpty) .asset ++
        refersIf (spec.subgroups.get.any fun subgroups => !subgroups.isEmpty) .assetGroup
  | .sloGroup spec => refersIf spec.templateSloName.get.isSome .slo
  | .sloDisplayGroup spec =>
      refersIf (spec.members.get.any fun members => !members.isEmpty) .slo ++
        refersIf (spec.parentName.get.any fun parentName => parentName ≠ "") .sloDisplayGroup
  | .sloAssignment spec =>
      targetKind spec.targetType :: refersIf spec.sloName.get.isSome .slo ++
        refersIf spec.dataSourceName.get.isSome .dataSource
  | .sloGroupAssignment spec =>
      targetKind spec.targetType :: refersIf spec.sloGroupName.get.isSome .sloGroup ++
        refersIf spec.dataSourceName.get.isSome .dataSource
  | .metaSnapshot _ => [.asset]

def untracked : Kind -> Kind -> Bool
  | .slo, .sli | .assetGroup, .assetGroup | .sloDisplayGroup, .sloDisplayGroup => true
  | _, _ => false

variable {kind : Kind} {doc : ManifestDocument} {progress : Progress}

theorem mem_refersIf {carried : Bool} {reference : Kind}
    (member : reference ∈ refersIf carried kind) : reference = kind := by
  unfold refersIf at member
  split at member
  · exact List.mem_singleton.mp member
  · exact absurd member List.not_mem_nil

theorem targetKind_cases (targetType : Setting String) :
    targetKind targetType = .asset ∨ targetKind targetType = .assetGroup := by
  unfold targetKind
  split
  · exact Or.inl rfl
  · exact Or.inr rfl

theorem references_tracked (carried : kind ∈ references doc) :
    doc.kind ∈ kindDeps kind ∨ untracked doc.kind kind = true := by
  rcases doc with ⟨name, spec⟩
  change spec.kind ∈ kindDeps kind ∨ untracked spec.kind kind = true
  unfold references at carried
  cases spec with
  | assetType | dataSource | sli => cases carried
  | asset | sloGroup | slo =>
      rw [mem_refersIf carried]
      simp [Spec.kind, kindDeps, untracked]
  | assetGroup | sloDisplayGroup =>
      rcases List.mem_append.mp carried with member | member <;> rw [mem_refersIf member] <;> simp [Spec.kind, kindDeps, untracked]
  | sloAssignment spec | sloGroupAssignment spec =>
      rcases List.mem_append.mp carried with members | member
      · rcases List.mem_cons.mp members with same | member
        · rcases targetKind_cases spec.targetType with isAsset | isGroup
          · rw [same, isAsset]
            simp [Spec.kind, kindDeps, untracked]
          · rw [same, isGroup]
            simp [Spec.kind, kindDeps, untracked]
        · rw [mem_refersIf member]
          simp [Spec.kind, kindDeps, untracked]
      · rw [mem_refersIf member]
        simp [Spec.kind, kindDeps, untracked]
  | metaSnapshot =>
      rw [List.mem_singleton.mp carried]
      simp [Spec.kind, kindDeps, untracked]

theorem dependentsOf_unversioned (kind dep : Kind) (found : dep ∈ dependentsOf kind) :
    dep ≠ .sli ∧ dep ≠ .slo := by
  revert found dep
  cases kind <;> decide +kernel

def Progress.failedKinds (progress : Progress) : List Kind :=
  progress.result.errors.map ApplyError.kind

/-- What the table lets depend on a blocked or a failed kind is blocked.  The kinds
with versions depend on nothing. -/
structure Progress.Closed (progress : Progress) : Prop where
  unversioned : forall kind, kind ∈ progress.blockedKinds -> kind ≠ .sli ∧ kind ≠ .slo
  ofBlocked : forall kind, kind ∈ progress.blockedKinds ->
    forall dep, dep ∈ kindDeps kind -> dep ∈ progress.blockedKinds
  ofFailed : forall kind, kind ∈ progress.failedKinds ->
    forall dep, dep ∈ kindDeps kind -> dep ∈ progress.blockedKinds

theorem start_closed (api : Api) : (start api).Closed :=
  ⟨fun _ member => absurd member List.not_mem_nil, fun _ member => absurd member List.not_mem_nil,
    fun _ member => absurd member List.not_mem_nil⟩

theorem attempt_blocked {faults : Faults} (blocked : (progress.attempt faults doc).1 = .blocked) :
    doc.kind ∈ progress.blockedKinds := by
  unfold Progress.attempt at blocked
  split at blocked
  · rename_i listed
    exact List.contains_iff_mem.mp listed
  · unfold process at blocked
    split at blocked
    · cases blocked
    · cases blocked
    · unfold concluded at blocked
      split at blocked <;> cases blocked
    · unfold concluded at blocked
      split at blocked <;> cases blocked

theorem applyDocument_closed (faults : Faults) (closed : progress.Closed) (doc : ManifestDocument) :
    (progress.applyDocument faults doc).Closed := by
  have failedKinds : (progress.applyDocument faults doc).failedKinds =
      (progress.result.count doc (progress.attempt faults doc).1).errors.map ApplyError.kind := rfl
  have blockedKinds : (progress.applyDocument faults doc).blockedKinds =
      blockedAfter progress.blockedKinds doc.kind (progress.attempt faults doc).1 := rfl
  cases outcome : (progress.attempt faults doc).1 with
  | skipped | created | updated =>
      rw [outcome] at failedKinds blockedKinds
      constructor
      · rw [blockedKinds]
        exact closed.unversioned
      · rw [blockedKinds]
        exact closed.ofBlocked
      · rw [blockedKinds, failedKinds]
        exact closed.ofFailed
  | blocked =>
      rw [outcome] at failedKinds blockedKinds
      constructor
      · rw [blockedKinds]
        exact closed.unversioned
      · rw [blockedKinds]
        exact closed.ofBlocked
      · rw [blockedKinds, failedKinds]
        intro kind member dep depends
        dsimp only [ApplyResult.count] at member
        rw [List.map_append] at member
        rcases List.mem_append.mp member with earlier | now
        · exact closed.ofFailed kind earlier dep depends
        · rw [List.mem_singleton.mp now] at depends
          exact closed.ofBlocked doc.kind (attempt_blocked outcome) dep depends
  | failed call error =>
      rw [outcome] at failedKinds blockedKinds
      constructor
      · rw [blockedKinds]
        intro kind member
        rcases List.mem_append.mp member with earlier | now
        · exact closed.unversioned kind earlier
        · exact dependentsOf_unversioned doc.kind kind now
      · rw [blockedKinds]
        intro kind member dep depends
        rcases List.mem_append.mp member with earlier | now
        · exact List.mem_append.mpr (Or.inl (closed.ofBlocked kind earlier dep depends))
        · exact List.mem_append.mpr (Or.inr (dependentsOf_closed doc.kind kind dep now depends))
      · rw [blockedKinds, failedKinds]
        intro kind member dep depends
        dsimp only [ApplyResult.count] at member
        rw [List.map_append] at member
        rcases List.mem_append.mp member with earlier | now
        · exact List.mem_append.mpr (Or.inl (closed.ofFailed kind earlier dep depends))
        · rw [List.mem_singleton.mp now] at depends
          exact List.mem_append.mpr (Or.inr (kindDeps_subset doc.kind dep depends))

def Kind.isLookedUpOnce : Kind -> Bool
  | .sli | .slo | .assetGroup | .sloDisplayGroup => true
  | _ => false

section OneRequest

variable {faults : Faults} {session : Session}

theorem run_picked {α : Type} (query : Query α) (pick : α -> Option Existing)
    {found : Option Existing} (answers : (query session.api).toOption.bind pick = found) :
    Program.run (Program.orElse (ask faults query >>= fun answer => pure (pick answer)) none)
        session =
      (.ok (if faults session.sent = .answered then found else none), session.next) := by
  rw [Program.run_orElse, Program.run_bind]
  by_cases answered : faults session.sent = .answered
  · rw [run_ask_answered answered, if_pos answered, <- answers]
    cases query session.api <;> rfl
  · rw [run_ask_lost answered, if_neg answered]

theorem run_named {α : Type} (query : Query α) (failure : ApiError) {found : Option α}
    (wrap : α -> Existing) (answers : query session.api = Fallible.orRaise failure found) :
    Program.run (Program.orElse (ask faults query >>= fun row => pure (some (wrap row))) none)
        session =
      (.ok (if faults session.sent = .answered then found.map wrap else none), session.next) := by
  refine run_picked query (fun row => some (wrap row)) ?_
  rw [answers]
  cases found <;> rfl

theorem run_lookup_once {doc : ManifestDocument} (once : doc.kind.isLookedUpOnce = true) :
    Program.run (lookup faults doc) session =
      (.ok (if faults session.sent = .answered then findExisting session.api doc else none),
        session.next) := by
  rcases doc with ⟨name, spec⟩
  cases spec with
  | sli spec => exact run_named (getSli name) (.notFound "sli definition" name) Existing.sli rfl
  | slo spec => exact run_named (getSlo name) (.notFound "slo definition" name) Existing.slo rfl
  | assetGroup spec =>
      exact run_named (getAssetGroup name) (.notFound "asset group" name) Existing.assetGroup rfl
  | sloDisplayGroup spec =>
      have answers : (listDisplayGroups session.api).toOption.bind (fun rows =>
          (rows.find? fun row => row.name = name).map Existing.sloDisplayGroup) =
          (session.api.displayGroups.find name).map Existing.sloDisplayGroup := rfl
      exact run_picked listDisplayGroups _ answers
  | _ => exact absurd once Bool.false_ne_true

theorem run_hasDiff_once {doc : ManifestDocument} (once : doc.kind.isLookedUpOnce = true)
    (existing : Existing) :
    Program.run (hasDiff faults doc existing) session = (differs session.api doc existing, session) := by
  rcases doc with ⟨name, spec⟩
  cases spec with
  | slo spec =>
      cases existing with
      | slo row => exact Program.run_ofExcept (sloDiffers spec row) session
      | _ => exact Program.run_pure false session
  | sli | assetGroup | sloDisplayGroup => cases existing <;> exact Program.run_pure _ session
  | _ => exact absurd once Bool.false_ne_true

theorem run_compare_once {doc : ManifestDocument} (once : doc.kind.isLookedUpOnce = true) :
    Program.run (compare faults doc) session =
      (if faults session.sent = .answered then verdict session.api doc else .ok .missing,
        session.next) := by
  unfold compare
  rw [Program.run_bind, run_lookup_once once]
  by_cases answered : faults session.sent = .answered
  · rw [if_pos answered, if_pos answered]
    unfold verdict
    cases findExisting session.api doc with
    | none => rfl
    | some existing =>
        have kept : session.next.api = session.api := rfl
        dsimp only
        rw [Program.run_bind, run_hasDiff_once once, kept]
        cases differs session.api doc existing with
        | error => rfl
        | ok different => cases different <;> rfl
  · rw [if_neg answered, if_neg answered]
    rfl

end OneRequest

def Verdict.acts : Except ClientError Verdict -> Bool
  | .ok .missing | .ok .differs => true
  | .ok .same | .error _ => false

theorem process_issued (faults : Faults) (doc : ManifestDocument) (session : Session) :
    (process faults doc session).1.issued =
      Verdict.acts (Program.run (compare faults doc) session).1 := by
  unfold process
  cases compared : Program.run (compare faults doc) session with
  | mk answer left =>
      cases answer with
      | error => rfl
      | ok verdict =>
          cases verdict with
          | same => rfl
          | missing =>
              change (concluded .creating .created (Program.run (create faults doc) left)).1.issued = true
              unfold concluded
              split <;> rfl
          | differs =>
              change (concluded .updating .updated (Program.run (update faults doc) left)).1.issued = true
              unfold concluded
              split <;> rfl

/-- The entity exists, and no difference between it and its document is made out. -/
def upToDate (api : Api) (doc : ManifestDocument) : Bool :=
  match doc.spec with
  | .slo spec => (api.latestSlo doc.name).any fun row => sloDiffers spec row ≠ .ok true
  | .assetGroup _ => (api.assetGroups.find doc.name).isSome
  | .sloDisplayGroup _ => (api.displayGroups.find doc.name).isSome
  | _ => false

def matchesLatest (api : Api) (doc : ManifestDocument) : Bool :=
  match doc.spec with
  | .sli spec => (api.latestSli doc.name).any fun row => !sliDiffers spec row
  | .slo spec => (api.latestSlo doc.name).any fun row => sloDiffers spec row = .ok false
  | _ => false

def acceptsVersion (api : Api) (doc : ManifestDocument) : Bool :=
  match doc.spec with
  | .sli spec => (sliBody doc.name spec).toOption.any fun body => (createSli body api).toOption.isSome
  | .slo spec => (sloBody doc.name spec).toOption.any fun body => (createSlo body api).toOption.isSome
  | _ => false

/-- Nothing that refers to a failed kind is created or updated, and nothing that
matches its latest version gets another one. -/
structure Isolated (faults : Faults) (progress : Progress) (doc : ManifestDocument) : Prop where
  notIssued : forall kind, kind ∈ progress.failedKinds -> kind ∈ references doc ->
    (progress.attempt faults doc).1.issued = false
  noVersion : matchesLatest progress.session.api doc = true ->
    (progress.attempt faults doc).2.api.slis = progress.session.api.slis ∧
      (progress.attempt faults doc).2.api.slos = progress.session.api.slos

/-- A reference to a failed kind is in the table of dependencies, or the kind of the
document is blocked for another reason, or the entity is up to date and its lookup is
answered.  If the latest version of a document matches it then its lookup is answered,
or else the version that is sent in its place does not arrive or is not accepted. -/
structure Guarded (faults : Faults) (progress : Progress) (doc : ManifestDocument) : Prop where
  tracked : forall kind, kind ∈ progress.failedKinds -> kind ∈ references doc ->
    doc.kind ∈ kindDeps kind ∨ doc.kind ∈ progress.blockedKinds ∨
      (faults progress.session.sent = .answered ∧ upToDate progress.session.api doc = true)
  lookedUp : matchesLatest progress.session.api doc = true ->
    faults progress.session.sent = .answered ∨
      faults (progress.session.sent + 1) = .unreached ∨
      acceptsVersion progress.session.api doc = false

theorem verdict_acts (api : Api) (untrackedReference : untracked doc.kind kind = true) :
    Verdict.acts (verdict api doc) = !upToDate api doc := by
  rcases doc with ⟨name, spec⟩
  cases spec with
  | slo spec =>
      have isUpToDate : upToDate api ⟨name, .slo spec⟩ =
          (api.latestSlo name).any fun row => sloDiffers spec row ≠ .ok true := rfl
      have looked : findExisting api ⟨name, .slo spec⟩ = (api.latestSlo name).map .slo := rfl
      rw [isUpToDate]
      cases found : api.latestSlo name with
      | none =>
          rw [found] at looked
          rw [verdict_of_missing looked]
          rfl
      | some row =>
          have compared : differs api ⟨name, .slo spec⟩ (.slo row) = sloDiffers spec row := rfl
          rw [found] at looked
          rw [verdict_of_found looked, compared, Option.any_some]
          cases sloDiffers spec row with
          | error => rfl
          | ok different => cases different <;> rfl
  | assetGroup spec =>
      have looked : findExisting api ⟨name, .assetGroup spec⟩ =
          (api.assetGroups.find name).map .assetGroup := rfl
      have isUpToDate : upToDate api ⟨name, .assetGroup spec⟩ =
          (api.assetGroups.find name).isSome := rfl
      rw [isUpToDate]
      cases found : api.assetGroups.find name with
      | none =>
          rw [found] at looked
          rw [verdict_of_missing looked]
          rfl
      | some row =>
          rw [found] at looked
          rw [verdict_of_found looked]
          rfl
  | sloDisplayGroup spec =>
      have looked : findExisting api ⟨name, .sloDisplayGroup spec⟩ =
          (api.displayGroups.find name).map .sloDisplayGroup := rfl
      have isUpToDate : upToDate api ⟨name, .sloDisplayGroup spec⟩ =
          (api.displayGroups.find name).isSome := rfl
      rw [isUpToDate]
      cases found : api.displayGroups.find name with
      | none =>
          rw [found] at looked
          rw [verdict_of_missing looked]
          rfl
      | some row =>
          rw [found] at looked
          rw [verdict_of_found looked]
          rfl
  | _ => exact absurd untrackedReference Bool.false_ne_true

theorem isLookedUpOnce_of_untracked {reference : Kind}
    (untrackedReference : untracked kind reference = true) : kind.isLookedUpOnce = true := by
  cases kind with
  | slo | assetGroup | sloDisplayGroup => rfl
  | _ => exact absurd untrackedReference Bool.false_ne_true

theorem issued_iff (faults : Faults) (closed : progress.Closed)
    (failed : kind ∈ progress.failedKinds) (carried : kind ∈ references doc) :
    (progress.attempt faults doc).1.issued = false ↔
      doc.kind ∈ kindDeps kind ∨ doc.kind ∈ progress.blockedKinds ∨
        (faults progress.session.sent = .answered ∧ upToDate progress.session.api doc = true) := by
  by_cases blocked : doc.kind ∈ progress.blockedKinds
  · rw [attempt_of_blocked blocked]
    exact ⟨fun _ => Or.inr (Or.inl blocked), fun _ => rfl⟩
  · have notInTable : doc.kind ∉ kindDeps kind :=
      fun depends => blocked (closed.ofFailed kind failed doc.kind depends)
    have untrackedReference := (references_tracked carried).resolve_left notInTable
    rw [attempt_of_unblocked blocked, process_issued,
      run_compare_once (isLookedUpOnce_of_untracked untrackedReference)]
    simp only [notInTable, blocked, false_or]
    by_cases answered : faults progress.session.sent = .answered
    · rw [if_pos answered, verdict_acts _ untrackedReference]
      simp [answered]
    · rw [if_neg answered]
      simp [answered, Verdict.acts]

theorem append_ne {α : Type} (rows : List α) (row : α) : rows ++ [row] ≠ rows := by
  intro same
  have shorter := congrArg List.length same
  rw [List.length_append, List.length_singleton] at shorter
  omega

theorem sent_iff {β : Type} (faults : Faults) (session : Session) (body : Except ClientError β)
    (command : β -> Command) (same : Api -> Prop) (kept : same session.api)
    (changed : forall value later, command value session.api = .ok later -> ¬ same later) :
    same (Program.run (Program.ofExcept body >>= fun value => tell faults (command value))
        session).2.api ↔
      faults session.sent = .unreached ∨
        (body.toOption.any fun value => (command value session.api).toOption.isSome) = false := by
  rw [Program.run_bind, Program.run_ofExcept]
  cases body with
  | error failure => exact ⟨fun _ => Or.inr rfl, fun _ => kept⟩
  | ok value =>
      change same (Program.run (tell faults (command value)) session).2.api ↔
        faults session.sent = .unreached ∨ (command value session.api).toOption.isSome = false
      unfold tell
      rw [Program.run_ofFunction]
      cases fault : faults session.sent with
      | unreached => exact ⟨fun _ => Or.inl rfl, fun _ => kept⟩
      | answered | unanswered =>
          cases answer : command value session.api with
          | error => exact ⟨fun _ => Or.inr rfl, fun _ => kept⟩
          | ok later =>
              constructor
              · intro unchanged
                exact absurd unchanged (changed value later answer)
              · rintro (impossible | impossible) <;> cases impossible

theorem verdict_of_matched {api : Api} (isMatched : matchesLatest api doc = true) :
    verdict api doc = .ok .same := by
  rcases doc with ⟨name, spec⟩
  cases spec with
  | sli spec =>
      rcases (Option.any_eq_true _ _).mp isMatched with ⟨row, found, matched⟩
      have same : sliDiffers spec row = false := Bool.not_eq_true' _ ▸ matched
      have looked : findExisting api ⟨name, .sli spec⟩ = some (.sli row) :=
        congrArg (Option.map Existing.sli) found
      have compared : differs api ⟨name, .sli spec⟩ (.sli row) = .ok (sliDiffers spec row) := rfl
      rw [verdict_of_found looked, compared, same]
      rfl
  | slo spec =>
      rcases (Option.any_eq_true _ _).mp isMatched with ⟨row, found, matched⟩
      have same : sloDiffers spec row = .ok false := of_decide_eq_true matched
      have looked : findExisting api ⟨name, .slo spec⟩ = some (.slo row) :=
        congrArg (Option.map Existing.slo) found
      have compared : differs api ⟨name, .slo spec⟩ (.slo row) = sloDiffers spec row := rfl
      rw [verdict_of_found looked, compared, same]
      rfl
  | _ => exact absurd isMatched Bool.false_ne_true

theorem isLookedUpOnce_of_matched {api : Api} (isMatched : matchesLatest api doc = true) :
    doc.kind.isLookedUpOnce = true ∧ (doc.kind = .sli ∨ doc.kind = .slo) := by
  rcases doc with ⟨name, spec⟩
  cases spec with
  | sli => exact ⟨rfl, Or.inl rfl⟩
  | slo => exact ⟨rfl, Or.inr rfl⟩
  | _ => exact absurd isMatched Bool.false_ne_true

theorem create_iff (faults : Faults) (session : Session)
    (versioned : doc.kind = .sli ∨ doc.kind = .slo) :
    ((Program.run (create faults doc) session).2.api.slis = session.api.slis ∧
        (Program.run (create faults doc) session).2.api.slos = session.api.slos) ↔
      faults session.sent = .unreached ∨ acceptsVersion session.api doc = false := by
  rcases doc with ⟨name, spec⟩
  cases spec with
  | sli spec =>
      refine sent_iff faults session (sliBody name spec) createSli
        (fun later => later.slis = session.api.slis ∧ later.slos = session.api.slos) ⟨rfl, rfl⟩ ?_
      intro body later accepted unchanged
      rcases createSli_eq_ok accepted with ⟨_, _, _, _, _, stored⟩
      rw [stored] at unchanged
      exact append_ne _ _ (congrArg rows unchanged.1)
  | slo spec =>
      refine sent_iff faults session (sloBody name spec) createSlo
        (fun later => later.slis = session.api.slis ∧ later.slos = session.api.slos) ⟨rfl, rfl⟩ ?_
      intro body later accepted unchanged
      rcases createSlo_eq_ok accepted with ⟨_, _, _, stored⟩
      rw [stored] at unchanged
      exact append_ne _ _ (congrArg rows unchanged.2)
  | _ => rcases versioned with impossible | impossible <;> cases impossible

theorem noVersion_iff (faults : Faults) (closed : progress.Closed)
    (isMatched : matchesLatest progress.session.api doc = true) :
    ((progress.attempt faults doc).2.api.slis = progress.session.api.slis ∧
        (progress.attempt faults doc).2.api.slos = progress.session.api.slos) ↔
      faults progress.session.sent = .answered ∨
        faults (progress.session.sent + 1) = .unreached ∨
        acceptsVersion progress.session.api doc = false := by
  rcases isLookedUpOnce_of_matched isMatched with ⟨once, versioned⟩
  have unblocked : doc.kind ∉ progress.blockedKinds := by
    intro blocked
    rcases closed.unversioned doc.kind blocked with ⟨notSli, notSlo⟩
    exact versioned.elim notSli notSlo
  have compared : Program.run (compare faults doc) progress.session = _ := run_compare_once once
  rw [attempt_of_unblocked unblocked]
  unfold process
  by_cases answered : faults progress.session.sent = .answered
  · rw [compared, if_pos answered, verdict_of_matched isMatched]
    exact ⟨fun _ => Or.inl answered, fun _ => ⟨rfl, rfl⟩⟩
  · rw [compared, if_neg answered]
    dsimp only
    rw [concluded_session, or_iff_right answered]
    exact create_iff faults progress.session.next versioned

/-- In every run, whatever requests fail, failures are isolated at each document if
and only if each is guarded. -/
theorem apply_isolates_iff (faults : Faults) (api : Api) (docs : List ManifestDocument) :
    (start api).AtEach faults (Isolated faults) docs ↔
      (start api).AtEach faults (Guarded faults) docs := by
  constructor
  · intro isolated
    refine (atEach_of_step ?_ (start_closed api) isolated).1
    intro progress doc closed isolatedHere
    refine ⟨⟨?_, ?_⟩, applyDocument_closed faults closed doc⟩
    · intro kind failed carried
      exact (issued_iff faults closed failed carried).mp (isolatedHere.notIssued kind failed carried)
    · intro isMatched
      exact (noVersion_iff faults closed isMatched).mp (isolatedHere.noVersion isMatched)
  · intro guarded
    refine (atEach_of_step ?_ (start_closed api) guarded).1
    intro progress doc closed guardedHere
    refine ⟨⟨?_, ?_⟩, applyDocument_closed faults closed doc⟩
    · intro kind failed carried
      exact (issued_iff faults closed failed carried).mpr (guardedHere.tracked kind failed carried)
    · intro isMatched
      exact (noVersion_iff faults closed isMatched).mpr (guardedHere.lookedUp isMatched)

def probeApi : Api :=
  ((createSli { name := "probe"
                adapterType := "prometheus"
                indicators := some ((∅ : Dict String).insert "p95" "up") } Api.empty).toOption).getD
    Api.empty

def probeDocument : ManifestDocument where
  name := "probe"
  spec := .sli {}

def probeSloDocument : ManifestDocument where
  name := "probe-slo"
  spec := .slo {
    objectives := .value [{
      sli := .value "p95"
      passThreshold := .value ["<100"]
      warningThreshold := .value [] }]
    sliName := .value "probe" }

def firstLost : Faults :=
  fun request => if request = 0 then .unreached else .answered

/-- The SLO is created although its SLI has failed.  It gets a second version, equal to
the first one, when its lookup is lost. -/
theorem apply_not_isolated :
    ¬ (start probeApi).AtEach allAnswered (Isolated allAnswered)
        [probeDocument, probeSloDocument] ∧
      ¬ (start (apply allAnswered probeApi [probeSloDocument]).session.api).AtEach firstLost
        (Isolated firstLost) [probeSloDocument] := by
  constructor
  · intro isolated
    have silent := isolated.2.1.notIssued .sli (by decide +kernel) (by decide +kernel)
    have issued : (((start probeApi).applyDocument allAnswered probeDocument).attempt allAnswered
      probeSloDocument).1.issued = true := by decide +kernel
    rw [silent] at issued
    cases issued
  · intro isolated
    have unchanged := (isolated.1.noVersion (by decide +kernel)).2
    have before : ((start (apply allAnswered probeApi
      [probeSloDocument]).session.api).session.api.slos.rows.map SLO.version) = [1] := by
      decide +kernel
    have after : (((start (apply allAnswered probeApi [probeSloDocument]).session.api).attempt
      firstLost probeSloDocument).2.api.slos.rows.map SLO.version) = [1, 2] := by decide +kernel
    rw [unchanged, before] at after
    cases after

end Manifest
end Tropek
