import Tropek.Manifest.Frames

namespace Tropek
namespace Manifest

open Library KeyedTable Fallible

/-!
# What an apply leaves

No document deletes a version.  A regeneration deactivates SLO versions, and nothing
else about a stored version changes, also when answers are lost on the way.  Tables of
kinds that the manifest does not have stay as they are.
-/

/-- The versions of the SLIs and the SLOs are still there, and no SLO is activated. -/
structure VersionsLast (before after : Api) : Prop where
  slis : forall key sli, before.slis.find key = some sli -> after.slis.find key = some sli
  slos : forall key slo, before.slos.find key = some slo ->
    Exists fun active => after.slos.find key = some { slo with active } ∧
      (active = true -> slo.active = true)

theorem versionsLast_of_same {before after : Api} (slis : after.slis = before.slis)
    (slos : after.slos = before.slos) : VersionsLast before after := by
  constructor
  · intro key sli found
    rw [slis]
    exact found
  · intro key slo found
    rw [slos]
    exact ⟨slo.active, found, id⟩

instance : Std.Refl VersionsLast :=
  ⟨fun _ => versionsLast_of_same rfl rfl⟩

instance : IsTrans Api VersionsLast where
  trans := by
    intro first second third before after
    refine ⟨fun key sli found => after.slis key sli (before.slis key sli found), ?_⟩
    intro key slo found
    rcases before.slos key slo found with ⟨_, there, early⟩
    rcases after.slos key _ there with ⟨active, later, late⟩
    exact ⟨active, later, fun isActive => early (late isActive)⟩

theorem versionsLast_insertSlo (api : Api) (row : SLO) (fresh : api.slos.find row.key = none) :
    VersionsLast api { api with slos := api.slos.insert row fresh } := by
  exact ⟨fun _ _ found => found,
    fun _ slo found => ⟨slo.active, find_insert_of_some found fresh, id⟩⟩

theorem storeSlos_versionsLast {specs : List SLOCreateParams} {api later : Api}
    (stored : api.storeSlos specs = .ok later) : VersionsLast api later := by
  apply foldlM_preserves _ (Std.Refl.refl api) stored
  intro state params next _ last stored
  rcases storeSlo_eq_ok stored with ⟨fresh, same⟩
  rw [same]
  exact IsTrans.trans _ _ _ last (versionsLast_insertSlo state _ fresh)

theorem deactivateSlo_versionsLast (api : Api) (name : String) :
    VersionsLast api (api.deactivateSlo name) := by
  refine ⟨fun _ _ found => found, fun key slo found => ?_⟩
  have updated := find_updateWhere api.slos (fun slo => slo.name = name)
    (fun slo => { slo with active := false }) (fun _ => rfl) key
  rw [found, Option.map_some] at updated
  by_cases named : slo.name = name
  · rw [if_pos (decide_eq_true named)] at updated
    exact ⟨false, updated, nofun⟩
  · rw [if_neg (by simpa using named)] at updated
    exact ⟨slo.active, updated, id⟩

theorem deactivateAll_versionsLast (api : Api) (gone : List String) :
    VersionsLast api (gone.foldl Api.deactivateSlo api) := by
  induction gone generalizing api with
  | nil => exact Std.Refl.refl api
  | cons name rest ih =>
      exact IsTrans.trans _ _ _ (deactivateSlo_versionsLast api name) (ih _)

theorem sends_versionsLast {doc : ManifestDocument} {command : Command}
    (sent : Sends doc command) : Respects VersionsLast command := by
  intro api later accepted
  have slis := @sends_tables _ _ sent .slis
  have slos := @sends_tables _ _ sent .slos
  cases sent with
  | createSli body =>
      rcases createSli_eq_ok accepted with ⟨_, _, fresh, _, _, same⟩
      rw [same]
      exact ⟨fun _ _ found => find_insert_of_some found fresh,
        fun _ slo found => ⟨slo.active, found, id⟩⟩
  | createSlo body =>
      rcases createSlo_eq_ok accepted with ⟨_, _, fresh, same⟩
      rw [same]
      exact versionsLast_insertSlo api _ fresh
  | createSloGroup body =>
      unfold createSloGroup at accepted
      simp only [bind_eq_ok] at accepted
      rcases accepted with ⟨_, _, _, _, _, _, _, _, _, _, _, _, _, _, stored⟩
      split at stored
      · cases stored
      · split at stored
        · have kept := storeSlos_versionsLast stored
          exact ⟨kept.slis, kept.slos⟩
        · cases stored
  | updateSloGroup body =>
      unfold updateSloGroup at accepted
      simp only [bind_eq_ok] at accepted
      rcases accepted with ⟨_, _, _, _, _, _, _, _, _, _, _, _, _, _, regenerated, replaced, same⟩
      unfold Api.applyRegenerationPlan at replaced
      rcases bind_eq_ok.mp replaced with ⟨stored, storedSpecs, finished⟩
      have kept : VersionsLast api regenerated := by
        rw [<- Except.ok.inj finished]
        exact IsTrans.trans _ _ _ (storeSlos_versionsLast storedSpecs)
          (deactivateAll_versionsLast stored _)
      rw [<- Except.ok.inj same]
      exact ⟨kept.slis, kept.slos⟩
  | _ =>
      exact versionsLast_of_same
        (slis (by simp [ManifestDocument.kind, Spec.kind, Kind.tables]) api later accepted)
        (slos (by simp [ManifestDocument.kind, Spec.kind, Kind.tables]) api later accepted)

theorem applyAll_keeps {relation : Api -> Api -> Prop} [Std.Refl relation]
    [IsTrans Api relation] (faults : Faults) (progress : Progress) {docs : List ManifestDocument}
    (respects : forall doc, doc ∈ docs -> forall command, Sends doc command ->
      Respects relation command) :
    relation progress.session.api (progress.applyAll faults docs).session.api := by
  induction docs generalizing progress with
  | nil => exact Std.Refl.refl _
  | cons doc rest ih =>
      have first : relation progress.session.api (progress.applyDocument faults doc).session.api :=
        attempt_keeps faults progress (respects doc List.mem_cons_self)
      exact IsTrans.trans _ _ _ first (ih (progress.applyDocument faults doc) fun other member =>
        respects other (List.mem_cons_of_mem doc member))

/-- Whatever answers are lost, an apply loses no version and writes no table of another kind. -/
theorem apply_leaves (faults : Faults) (api : Api) (docs : List ManifestDocument) :
    VersionsLast api (apply faults api docs).session.api ∧
      forall table : Table, (forall doc, doc ∈ docs -> table ∉ doc.kind.tables) ->
        table.Same api (apply faults api docs).session.api :=
  ⟨applyAll_keeps faults (start api) fun _ _ _ sent => sends_versionsLast sent,
    fun _ untouched => applyAll_keeps faults (start api) fun doc member _ sent =>
      sends_tables sent (untouched doc member)⟩

end Manifest
end Tropek
