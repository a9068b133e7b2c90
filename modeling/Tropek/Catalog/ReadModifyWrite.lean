import Tropek.Catalog.DefinitionHistory
import Tropek.Library.DistinctOn

namespace Tropek
namespace Catalog

open Library Manifest TransitionSystem KeyedTable Fallible
open Engine (Dict)
open Store (SLIMode)

/-!
# Reading a definition and writing it again

The version that the client's request stores is compared with the one that it has read,
field by field.  Most fields come back because an empty or null field that is not sent is
stored as empty or null.  Three things do not come back: change point settings are not
part of what is read, so that objectives on one metric all get those of the last one;
an empty table of method criteria becomes none; and some names are never read, because
their path belongs to another route.
-/

/-! ## The version that is read -/

variable {defs : Definitions} {name : String} {current : SLO} {transport : Transport}
  {overrides : SLIOverrides} {outcome : SLI × Definitions}

theorem previousVersion_latest (upheld : Upheld defs)
    (latest : defs.api.latestSlo name = some current) :
    previousVersion defs.api name = some current ∧
      defs.api.maxSloVersion name = some current.version := by
  rcases latestSlo_mem latest with ⟨member, named, active⟩
  rcases previousVersion_of_mem member with ⟨previous, found, maximum, above⟩
  rw [named] at found maximum
  have among : previous ∈ defs.api.slos.rows ∧ previous.name = name := by
    unfold previousVersion at found
    rw [maximum, Option.bind_some] at found
    exact ⟨find_mem found, congrArg Prod.fst (find_key found)⟩
  have stillActive := upheld.suffix current member previous among.1
    (named.trans among.2.symm) active above
  have below : previous.version ≤ current.version := by
    refine Latest.le_newest SLO.version latest previous (List.mem_filter.mpr ⟨among.1, ?_⟩)
    rw [decide_eq_true among.2, stillActive]
    rfl
  have sameVersion := le_antisymm above below
  have same : current = previous := eq_of_key member among.1
    (Prod.ext (named.trans among.2.symm) sameVersion)
  exact ⟨same ▸ found, sameVersion ▸ maximum⟩

theorem fetchSlo_eq_ok {row : SLO} (fetched : fetchSlo transport name defs = .ok row) :
    Exists fun reached => sloReached transport name = some reached ∧
      defs.api.latestSlo reached = some row := by
  unfold fetchSlo at fetched
  split at fetched
  · cases fetched
  · rename_i reached route
    exact ⟨reached, route, orRaise_eq_ok.mp (mapError_eq_ok fetched)⟩

theorem fetchSlo_current_iff (latest : defs.api.latestSlo name = some current) :
    fetchSlo transport name defs = .ok current ↔ sloReached transport name = some name := by
  constructor
  · intro fetched
    rcases fetchSlo_eq_ok fetched with ⟨reached, route, found⟩
    rw [route, <- (latestSlo_mem found).2.1, (latestSlo_mem latest).2.1]
  · intro route
    unfold fetchSlo getSlo
    rw [route]
    dsimp only
    rw [latest]
    rfl

theorem fetchSli_current_iff {current : SLI} (latest : defs.api.latestSli name = some current) :
    fetchSli transport name defs = .ok current ↔ sliReached transport name = some name := by
  constructor
  · intro fetched
    unfold fetchSli at fetched
    split at fetched
    · cases fetched
    · rename_i reached route
      have found := orRaise_eq_ok.mp (mapError_eq_ok fetched)
      rw [route, <- (latestSli_facts found).1, (latestSli_facts latest).1]
  · intro route
    unfold fetchSli getSli
    rw [route]
    dsimp only
    rw [latest]
    rfl

/-- An objective gets back its own settings exactly when no other objective on its metric
has other ones. -/
theorem previousConfig_own_iff (slo : SLO) :
    (forall objective, objective ∈ slo.objectives ->
      previousConfig (some slo) objective.sli = objective.changePoint) ↔ UniformSettings slo := by
  constructor
  · intro own first firstIn second secondIn same
    rw [<- own first firstIn, <- own second secondIn, same]
  · intro uniform objective member
    change (slo.objectives.reverse.find? _).bind Objective.changePoint = _
    cases found : slo.objectives.reverse.find? (fun other =>
      other.sli = objective.sli && other.changePoint.isSome) with
    | some other =>
        have otherIn := List.mem_reverse.mp (List.mem_of_find?_eq_some found)
        have selected := List.find?_some found
        rw [Bool.and_eq_true, decide_eq_true_eq] at selected
        exact uniform other otherIn objective member selected.1
    | none =>
        have refused := List.find?_eq_none.mp found objective (List.mem_reverse.mpr member)
        cases config : objective.changePoint with
        | none => rfl
        | some settings =>
            rw [config] at refused
            simp at refused

/-! ## Field by field -/

theorem option_pair_ext {α β : Type} {first second : Option (α × β)}
    (left : first.map Prod.fst = second.map Prod.fst)
    (right : first.map Prod.snd = second.map Prod.snd) : first = second := by
  cases first with
  | none =>
      cases second with
      | none => rfl
      | some _ => cases left
  | some one =>
      cases second with
      | none => cases left
      | some other => exact congrArg some (Prod.ext (Option.some.inj left) (Option.some.inj right))

section Rewriting

variable {transport : Transport} {defs : Definitions} {name : String} {current : SLO}
  {overrides : SLOOverrides} {outcome : SLO × Definitions} {sliDefinition : Option (String × Int)}

abbrev sentBody (defs : Definitions) (current : SLO) (overrides : SLOOverrides) :
    SLODefinitionBody :=
  overrides.apply (readSlo (defs.sloTags current.key) current).forCreate

theorem newSloVersion_eq_ok (made : newSloVersion transport name overrides defs = .ok outcome) :
    Exists fun row => fetchSlo transport name defs = .ok row ∧
      createSloDefinition (sentBody defs row overrides) defs = .ok outcome := by
  unfold newSloVersion at made
  rcases bind_eq_ok.mp made with ⟨row, fetched, made⟩
  rcases bind_eq_ok.mp made with ⟨_, _, made⟩
  exact ⟨row, fetched, mapError_eq_ok made⟩

section

variable (done : Posted (sentBody defs current overrides) defs sliDefinition outcome)

include done

theorem storedObjectives (kept : overrides.objectives = none) :
    outcome.1.objectives = current.objectives.map fun objective =>
      { objective with
        changePoint := previousConfig
          (previousVersion defs.api (overrides.name.getD current.name)) objective.sli } := by
  have sent : (sentBody defs current overrides).objectives =
      current.objectives.map Objective.copied := by
    change overrides.objectives.getD _ = _
    rw [kept]
    exact forCreate_objectives current _
  rw [done.row]
  change (sentBody defs current overrides).objectives.map (storedObjective _ _) = _
  rw [sent, List.map_map]
  rfl

theorem settings_iff (kept : overrides.objectives = none) :
    outcome.1.objectives.map Objective.changePoint = current.objectives.map Objective.changePoint ↔
      forall objective, objective ∈ current.objectives ->
        previousConfig (previousVersion defs.api (overrides.name.getD current.name)) objective.sli =
          objective.changePoint := by
  rw [storedObjectives done kept, List.map_map]
  exact List.map_inj_left

theorem readObjectives_kept (kept : overrides.objectives = none) :
    outcome.1.objectives.zipIdx.map readObjective = current.objectives.zipIdx.map readObjective := by
  rw [storedObjectives done kept, List.zipIdx_map, List.map_map]
  rfl

theorem sliVersion_iff (kept : overrides.sliVersion = none) :
    sliDefinition.map Prod.snd = current.sliDefinition.map Prod.snd ↔
      (overrides.sliName.getD (current.sliDefinition.map Prod.fst)).isSome =
        current.sliDefinition.isSome := by
  have version : (sentBody defs current overrides).sliVersion =
      current.sliDefinition.map Prod.snd := by
    change overrides.sliVersion.getD _ = _
    rw [kept]
    rfl
  change _ ↔ (sentBody defs current overrides).sliName.isSome = _
  rcases resolveSli_eq_ok done.resolved with ⟨unnamed, isNone⟩ |
    ⟨_, sli, _, named, found, _, _, isKey⟩
  · rw [unnamed, isNone]
    cases current.sliDefinition with
    | none => simp
    | some _ => simp
  · rw [named, isKey]
    have asked := (findSli_key found).2.2
    rw [version] at asked
    cases bound : current.sliDefinition with
    | none => simp
    | some pair =>
        rw [bound] at asked
        have same : pair.2 = sli.key.2 := by simpa using asked
        simp [same]

end

theorem getD_of_kept {α : Type} {override : Option α} (kept : override = none) (value : α) :
    override.getD value = value := by
  rw [kept]
  rfl

theorem sloUnchanged_iff (active : current.active = true)
    (done : Posted (sentBody defs current overrides) defs sliDefinition outcome) :
    SLOUnchanged overrides (defs.content current) (outcome.2.content outcome.1) ↔
      (overrides.objectives = none -> forall objective, objective ∈ current.objectives ->
        previousConfig (previousVersion defs.api (overrides.name.getD current.name)) objective.sli =
          objective.changePoint) ∧
      (overrides.methodCriteria = none -> current.methodCriteria ≠ some ∅) ∧
      (overrides.sliVersion = none ->
        (overrides.sliName.getD (current.sliDefinition.map Prod.fst)).isSome =
          current.sliDefinition.isSome) := by
  have bound : outcome.1.sliDefinition = sliDefinition := by
    rw [done.row]
    rfl
  have criteria : outcome.1.methodCriteria =
      overrides.methodCriteria.getD (current.methodCriteria.bind orAbsent) := by
    rw [done.row]
    rfl
  have sliName : overrides.sliName = none ->
      sliDefinition.map Prod.fst = current.sliDefinition.map Prod.fst := by
    intro kept
    rw [done.sliName]
    change overrides.sliName.getD _ = _
    rw [kept]
    rfl
  constructor
  · intro unchanged
    refine ⟨fun kept => (settings_iff done kept).mp (unchanged.settings kept), fun kept => ?_,
      fun kept => (sliVersion_iff done kept).mp ?_⟩
    · have same : outcome.1.methodCriteria = current.methodCriteria := unchanged.methodCriteria kept
      rw [criteria, kept] at same
      exact (bind_orAbsent_iff _).mp same
    · rw [<- bound]
      exact unchanged.sliVersion kept
  · rintro ⟨settings, methodCriteria, sliVersion⟩
    have row := done.row
    have tags := done.ownTags
    constructor
    case objectives => exact readObjectives_kept done
    case settings => exact fun kept => (settings_iff done kept).mpr (settings kept)
    case methodCriteria =>
      intro kept
      change outcome.1.methodCriteria = current.methodCriteria
      rw [criteria, kept]
      exact (bind_orAbsent_iff _).mpr (methodCriteria kept)
    case sliName =>
      intro kept
      change outcome.1.sliDefinition.map Prod.fst = _
      rw [bound]
      exact sliName kept
    case sliVersion =>
      intro kept
      change outcome.1.sliDefinition.map Prod.snd = _
      rw [bound]
      exact (sliVersion_iff done kept).mpr (sliVersion kept)
    case sliDefinitionId =>
      intro keptName keptVersion
      change outcome.1.sliDefinition = current.sliDefinition
      rw [bound]
      exact option_pair_ext (sliName keptName)
        ((sliVersion_iff done keptVersion).mpr (sliVersion keptVersion))
    case tags =>
      intro kept
      change outcome.2.sloTags outcome.1.key = defs.sloTags current.key
      rw [tags]
      change (overrides.tags.getD (orAbsent (defs.sloTags current.key))).getD ∅ = _
      rw [kept]
      exact orAbsent_getD _
    case vars =>
      intro kept
      change outcome.1.vars = current.vars
      rw [row]
      change (overrides.vars.getD (orAbsent current.vars)).getD ∅ = _
      rw [kept]
      exact orAbsent_getD _
    case active => exact (congrArg SLO.active row).trans active.symm
    case name => exact fun kept => (congrArg SLO.name row).trans (getD_of_kept kept _)
    case displayName => exact fun kept => (congrArg SLO.displayName row).trans (getD_of_kept kept _)
    case totalScorePassThreshold =>
      exact fun kept => (congrArg SLO.totalScorePassThreshold row).trans (getD_of_kept kept _)
    case totalScoreWarningThreshold =>
      exact fun kept => (congrArg SLO.totalScoreWarningThreshold row).trans (getD_of_kept kept _)
    case notes => exact fun kept => (congrArg SLO.notes row).trans (getD_of_kept kept _)
    case author => exact fun kept => (congrArg SLO.author row).trans (getD_of_kept kept _)
    case kind => exact fun kept => (congrArg SLO.kind row).trans (getD_of_kept kept _)
    case comparison =>
      intro kept
      change outcome.1.comparison = current.comparison
      rw [row]
      change (overrides.comparison.getD (some current.comparison)).getD {} = _
      rw [kept]
      rfl

end Rewriting

/-! ## Acceptance -/

theorem acceptComparison_of_checked {comparison : ComparisonConfig}
    (accepted : checkComparison comparison = .ok ()) :
    acceptComparison comparison = .ok PUnit.unit := by
  unfold checkComparison at accepted
  simp only [bind_eq_ok] at accepted
  rcases accepted with ⟨_, _, _, _, known⟩
  split at known
  · rename_i listed
    exact if_pos listed
  · cases known

theorem storeSlo_ok (api : Api) (params : SLOCreateParams) :
    Exists fun later => api.storeSlo params = .ok later := by
  unfold Api.storeSlo
  rw [dif_pos (nextSlo_fresh (List.Subset.refl _) params)]
  exact ⟨_, rfl⟩

theorem previousConfig_mem {slo : SLO} {sli : String} {config : ChangePointConfig}
    (found : previousConfig (some slo) sli = some config) :
    Exists fun objective => objective ∈ slo.objectives ∧ objective.changePoint = some config := by
  change (slo.objectives.reverse.find? _).bind Objective.changePoint = _ at found
  rcases Option.bind_eq_some_iff.mp found with ⟨objective, isObjective, isConfig⟩
  exact ⟨objective, List.mem_reverse.mp (List.mem_of_find?_eq_some isObjective), isConfig⟩

theorem newSloVersion_accepted (upheld : Upheld defs)
    (latest : defs.api.latestSlo name = some current) (posted : current.key ∈ defs.posted)
    (routed : sloReached transport name = some name) (room : current.version + 1 ≤ 2 ^ 31 - 1) :
    Exists fun outcome => newSloVersion transport name {} defs = .ok outcome := by
  rcases latestSlo_mem latest with ⟨member, named, _⟩
  rcases previousVersion_latest upheld latest with ⟨previous, maximum⟩
  have sendable := upheld.sendable current member posted
  have fetched := (fetchSlo_current_iff latest).mpr routed
  have comparison := acceptComparison_of_checked ((sloCheck_eq_ok _).mp sendable.checks).2.2.2.2.2.1
  let params := (sentBody defs current {}).params current.sliDefinition
  have version : (defs.api.nextSlo params).version = current.version + 1 := by
    change (defs.api.maxSloVersion current.name).getD 0 + 1 = _
    rw [named, maximum]
    rfl
  have marker : (defs.api.nextSlo params).comparableFromVersion = current.version := by
    change (defs.api.maxSloVersion current.name).getD 1 = _
    rw [named, maximum]
    rfl
  have objectives : (defs.api.nextSlo params).objectives =
      current.objectives.map fun objective =>
        { objective with changePoint := previousConfig (some current) objective.sli } := by
    change ((readSlo (defs.sloTags current.key) current).forCreate.objectives).map
      (storedObjective _ (previousVersion defs.api current.name)) = _
    rw [forCreate_objectives, named, previous, List.map_map]
    rfl
  rcases integerColumns_fit.mp (upheld.columns current member) with ⟨⟨ownVersion, _⟩, settings⟩
  have columns : (integerColumns (defs.api.nextSlo params)).all fitsColumn = true := by
    refine integerColumns_fit.mpr ⟨⟨?_, ?_⟩, fun objective among config isConfig => ?_⟩
    · rw [version]
      unfold fitsColumn at ownVersion ⊢
      rw [Bool.and_eq_true, decide_eq_true_eq, decide_eq_true_eq] at ownVersion ⊢
      exact ⟨by omega, room⟩
    · rw [marker]
      exact ownVersion
    · rw [objectives] at among
      rcases List.mem_map.mp among with ⟨own, _, same⟩
      rw [<- same] at isConfig
      rcases previousConfig_mem isConfig with ⟨source, sourceIn, sourceConfig⟩
      exact settings source sourceIn config sourceConfig
  rcases storeSlo_ok defs.api params with ⟨api, stored⟩
  have created : Exists fun outcome =>
      createSloDefinition (sentBody defs current {}) defs = .ok outcome := by
    unfold createSloDefinition storeDefinition
    simp only [bind_eq_ok]
    exact ⟨_, (), sendable.checks, current.sliDefinition, sendable.resolved, _,
      ⟨(), columnCheck_eq_ok.mpr columns, api, stored, rfl⟩, rfl⟩
  rcases created with ⟨outcome, created⟩
  refine ⟨outcome, ?_⟩
  unfold newSloVersion
  simp only [bind_eq_ok]
  exact ⟨current, fetched, PUnit.unit, comparison, congrArg (Except.mapError ClientError.api) created⟩

theorem newSliVersion_eq_ok (made : newSliVersion transport name overrides defs = .ok outcome) :
    Exists fun row => fetchSli transport name defs = .ok row ∧
      createSliDefinition (overrides.apply (readSli (defs.sliTags row.key) row).forCreate) defs =
        .ok outcome := by
  unfold newSliVersion at made
  rcases bind_eq_ok.mp made with ⟨row, fetched, made⟩
  exact ⟨row, fetched, mapError_eq_ok made⟩

/-- A stored version of an SLI differs from the one that was read in what is overridden. -/
theorem sliUnchanged_of_posted {current : SLI} {valid : Registry.SLIDefinitionCreate × SLIMode}
    (active : current.active = true)
    (done : PostedSli (overrides.apply (readSli (defs.sliTags current.key) current).forCreate) defs
      valid outcome) :
    SLIUnchanged overrides (readSli (defs.sliTags current.key) current)
      (readSli (outcome.2.sliTags outcome.1.key) outcome.1) := by
  rw [done.read]
  constructor
  case active => exact active.symm
  case indicators =>
    intro kept
    change (overrides.indicators.getD (orAbsent current.definition.indicators)).getD ∅ = _
    rw [kept]
    exact orAbsent_getD _
  case tags =>
    intro kept
    change (overrides.tags.getD (orAbsent (defs.sliTags current.key))).getD ∅ = _
    rw [kept]
    exact orAbsent_getD _
  all_goals exact fun kept => getD_of_kept kept _

theorem sliVersion_le_max {api : Api} {sli : SLI} (member : sli ∈ api.slis.rows) :
    Exists fun version => api.maxSliVersion sli.definition.name = some version ∧
      sli.definition.version ≤ version := by
  have selected : sli ∈ api.slis.rows.filter fun other =>
      other.definition.name = sli.definition.name :=
    List.mem_filter.mpr ⟨member, decide_eq_true rfl⟩
  exact le_max_of_mem (fun other => other.definition.version) selected

theorem maxSliVersion_mem {api : Api} {version : Int}
    (maximum : api.maxSliVersion name = some version) :
    Exists fun sli => sli ∈ api.slis.rows ∧ sli.definition.version = version := by
  rcases List.mem_map.mp (List.max?_eq_some_iff.mp maximum).1 with ⟨sli, among, isVersion⟩
  exact ⟨sli, (List.mem_filter.mp among).1, isVersion⟩

theorem newSliVersion_accepted {current : SLI} (upheld : Upheld defs)
    (latest : defs.api.latestSli name = some current)
    (resendable : SLIResendable transport defs name) :
    Exists fun outcome => newSliVersion transport name {} defs = .ok outcome := by
  rcases latestSli_facts latest with ⟨named, _, stored⟩
  have member := find_mem stored
  have fetched := (fetchSli_current_iff latest).mpr resendable.routed
  let body := (readSli (defs.sliTags current.key) current).forCreate
  rcases (isOk_iff _).mp (upheld.validates current member) with ⟨valid, validated⟩
  have validName : valid.1.name = name := (sliValidate_eq_ok validated).2.1.trans named
  rcases sliVersion_le_max member with ⟨last, maximum, below⟩
  rw [named] at maximum
  rcases maxSliVersion_mem maximum with ⟨newest, newestIn, isLast⟩
  have lastFits : fitsColumn last = true := isLast ▸ upheld.versions newest newestIn
  have room := resendable.room
  rw [maximum] at room
  have version : (nextSli defs.api body valid.1 valid.2).definition.version = last + 1 := by
    change (defs.api.maxSliVersion current.definition.name).getD 0 + 1 = _
    rw [named, maximum]
    rfl
  have marker :
      (nextSli defs.api body valid.1 valid.2).definition.comparableFromVersion = last := by
    change (defs.api.maxSliVersion current.definition.name).getD 1 = _
    rw [named, maximum]
    rfl
  have columns : columnCheck [(nextSli defs.api body valid.1 valid.2).definition.version,
      (nextSli defs.api body valid.1 valid.2).definition.comparableFromVersion] = .ok () := by
    rw [columnCheck_eq_ok, version, marker]
    simp only [List.all_cons, List.all_nil, Bool.and_true, Bool.and_eq_true]
    refine ⟨?_, lastFits⟩
    unfold fitsColumn at lastFits ⊢
    rw [Bool.and_eq_true, decide_eq_true_eq, decide_eq_true_eq] at lastFits ⊢
    exact ⟨by omega, room⟩
  have fresh : defs.api.slis.find (nextSli defs.api body valid.1 valid.2).key = none := by
    cases found : defs.api.slis.find (nextSli defs.api body valid.1 valid.2).key with
    | none => rfl
    | some sli =>
        have sameKey := find_key found
        have sameName : sli.definition.name = name := (congrArg Prod.fst sameKey).trans validName
        have sameVersion : sli.definition.version = last + 1 :=
          (congrArg Prod.snd sameKey).trans version
        rcases sliVersion_le_max (find_mem found) with ⟨highest, isHighest, notAbove⟩
        rw [sameName, maximum] at isHighest
        cases isHighest
        omega
  have accepted : (createSliDefinition body defs).isOk = true := by
    refine bind_isOk.mpr ⟨valid, validated, ?_⟩
    refine bind_isOk.mpr ⟨(), columns, ?_⟩
    rw [dif_pos fresh]
    rfl
  rcases (isOk_iff _).mp accepted with ⟨outcome, created⟩
  refine ⟨outcome, ?_⟩
  unfold newSliVersion
  simp only [bind_eq_ok]
  exact ⟨current, fetched, congrArg (Except.mapError ClientError.api) created⟩

/-! ## New versions -/

section NewVersions

variable {transport : Transport} {defs : Definitions} {name : String}

theorem rewritesSlo_iff {current : SLO} {overrides : SLOOverrides} {outcome : SLO × Definitions}
    (latest : defs.api.latestSlo name = some current)
    (made : newSloVersion transport name overrides defs = .ok outcome) :
    RewritesSlo transport defs name current overrides outcome ↔
      SLOReplaceable transport defs name current overrides := by
  rcases latestSlo_mem latest with ⟨_, named, active⟩
  rcases newSloVersion_eq_ok made with ⟨row, fetched, created⟩
  constructor
  · rintro ⟨isCurrent, unchanged⟩
    rw [isCurrent] at fetched
    cases fetched
    rcases posted_of_created created with ⟨_, done⟩
    rcases (sloUnchanged_iff active done).mp unchanged with ⟨settings, criteria, version⟩
    rw [named] at settings
    exact ⟨(fetchSlo_current_iff latest).mp isCurrent, settings, criteria, version⟩
  · intro replaceable
    have isCurrent := (fetchSlo_current_iff latest).mpr replaceable.routed
    rw [isCurrent] at fetched
    cases fetched
    rcases posted_of_created created with ⟨_, done⟩
    refine ⟨isCurrent, (sloUnchanged_iff active done).mpr
      ⟨?_, replaceable.methodCriteria, replaceable.sliVersion⟩⟩
    rw [named]
    exact replaceable.settings

section

variable {current : SLO} (upheld : Upheld defs) (latest : defs.api.latestSlo name = some current)

include upheld latest

theorem sloResendable_iff :
    SLOResendable transport name current ↔
      SLOReplaceable transport defs name current {} ∧ current.version + 1 ≤ 2 ^ 31 - 1 := by
  have previous := (previousVersion_latest upheld latest).1
  have settings : (forall objective, objective ∈ current.objectives ->
      previousConfig (previousVersion defs.api name) objective.sli = objective.changePoint) ↔
        UniformSettings current := by
    rw [previous]
    exact previousConfig_own_iff current
  constructor
  · intro resendable
    refine ⟨⟨resendable.routed, fun _ => settings.mpr resendable.settings,
      fun _ => resendable.methodCriteria, fun _ => ?_⟩, resendable.room⟩
    change (current.sliDefinition.map Prod.fst).isSome = _
    exact Option.isSome_map
  · rintro ⟨replaceable, room⟩
    exact ⟨replaceable.routed, settings.mp (replaceable.settings rfl),
      replaceable.methodCriteria rfl, room⟩

theorem copiesSlo_iff (posted : current.key ∈ defs.posted) :
    (Exists fun outcome => newSloVersion transport name {} defs = .ok outcome ∧
        RewritesSlo transport defs name current {} outcome) ↔
      SLOResendable transport name current := by
  constructor
  · rintro ⟨outcome, made, rewrites⟩
    refine (sloResendable_iff upheld latest).mpr ⟨(rewritesSlo_iff latest made).mp rewrites, ?_⟩
    rcases newSloVersion_eq_ok made with ⟨row, fetched, created⟩
    rw [rewrites.1] at fetched
    cases fetched
    rcases posted_of_created created with ⟨_, done⟩
    have fits := (integerColumns_fit.mp done.columns).1.1
    have version : outcome.1.version = current.version + 1 := by
      rw [done.row]
      change (defs.api.maxSloVersion current.name).getD 0 + 1 = _
      rw [(latestSlo_mem latest).2.1, (previousVersion_latest upheld latest).2]
      rfl
    unfold fitsColumn at fits
    rw [version, Bool.and_eq_true, decide_eq_true_eq, decide_eq_true_eq] at fits
    exact fits.2
  · intro resendable
    rcases newSloVersion_accepted upheld latest posted resendable.routed resendable.room with
      ⟨outcome, made⟩
    exact ⟨outcome, made, (rewritesSlo_iff latest made).mpr
      ((sloResendable_iff upheld latest).mp resendable).1⟩

end

theorem rewritesSli_iff {current : SLI} {overrides : SLIOverrides} {outcome : SLI × Definitions}
    (latest : defs.api.latestSli name = some current)
    (made : newSliVersion transport name overrides defs = .ok outcome) :
    RewritesSli transport defs name current overrides outcome ↔
      sliReached transport name = some name := by
  rw [<- fetchSli_current_iff latest]
  refine ⟨fun rewrites => rewrites.1, fun isCurrent => ⟨isCurrent, ?_⟩⟩
  rcases newSliVersion_eq_ok made with ⟨row, fetched, created⟩
  rw [isCurrent] at fetched
  cases fetched
  rcases postedSli_of_created created with ⟨_, done⟩
  exact sliUnchanged_of_posted (latestSli_facts latest).2.1 done

theorem copiesSli_iff {current : SLI} (upheld : Upheld defs)
    (latest : defs.api.latestSli name = some current) :
    (Exists fun outcome => newSliVersion transport name {} defs = .ok outcome ∧
        RewritesSli transport defs name current {} outcome) ↔
      SLIResendable transport defs name := by
  constructor
  · rintro ⟨outcome, made, rewrites⟩
    refine ⟨(rewritesSli_iff latest made).mp rewrites, ?_⟩
    rcases newSliVersion_eq_ok made with ⟨row, fetched, created⟩
    rw [rewrites.1] at fetched
    cases fetched
    rcases postedSli_of_created created with ⟨_, done⟩
    have fits := List.all_eq_true.mp done.columns _ List.mem_cons_self
    have version : outcome.1.definition.version =
        (defs.api.maxSliVersion current.definition.name).getD 0 + 1 := by
      rw [done.row]
      rfl
    unfold fitsColumn at fits
    rw [version, (latestSli_facts latest).1, Bool.and_eq_true, decide_eq_true_eq,
      decide_eq_true_eq] at fits
    exact fits.2
  · intro resendable
    rcases newSliVersion_accepted upheld latest resendable with ⟨outcome, made⟩
    exact ⟨outcome, made, (rewritesSli_iff latest made).mpr resendable.routed⟩

end NewVersions

/-- In every state of the registries: without overrides, a new version of an SLO that was
created through the endpoint is accepted and equal to the current one exactly when the
SLO is one that can be sent again; with overrides, an accepted version differs only in what
is overridden exactly when nothing else depends on it.  An SLI that is reached under its
name has no other condition. -/
theorem newVersion_faithful_iff (transport : Transport) {defs : Definitions}
    (reached : Reachable Definitions.step Undefined defs) :
    (forall name current, defs.api.latestSlo name = some current -> current.key ∈ defs.posted ->
      ((Exists fun outcome => newSloVersion transport name {} defs = .ok outcome ∧
          RewritesSlo transport defs name current {} outcome) ↔
        SLOResendable transport name current) ∧
      forall overrides outcome, newSloVersion transport name overrides defs = .ok outcome ->
        (RewritesSlo transport defs name current overrides outcome ↔
          SLOReplaceable transport defs name current overrides)) ∧
    (forall name current, defs.api.latestSli name = some current ->
      ((Exists fun outcome => newSliVersion transport name {} defs = .ok outcome ∧
          RewritesSli transport defs name current {} outcome) ↔
        SLIResendable transport defs name) ∧
      forall overrides outcome, newSliVersion transport name overrides defs = .ok outcome ->
        (RewritesSli transport defs name current overrides outcome ↔
          sliReached transport name = some name)) := by
  have upheld := upheld_of_reachable reached
  constructor
  · intro name current latest posted
    exact ⟨copiesSlo_iff upheld latest posted, fun _ _ made => rewritesSlo_iff latest made⟩
  · intro name current latest
    exact ⟨copiesSli_iff upheld latest, fun _ _ made => rewritesSli_iff latest made⟩

/-! ## Two SLOs -/

/-- An SLO with two objectives, of which the first one has change point settings. -/
def twoObjectives (first second : String) : SLODefinitionBody where
  name := "checkout"
  objectives := [
    { sli := first, passThreshold := some ["<600"], changePoint := some { windowSize := some 60 } },
    { sli := second, warningThreshold := some ["<800"] }]

def definedOnce (first second : String) : Except ApiError (SLO × Definitions) :=
  createSloDefinition (twoObjectives first second) { api := Api.empty }

/-- The created version is the latest one, and the only one whose settings are looked up. -/
theorem definedOnce_facts {first second : String} {outcome : SLO × Definitions}
    (created : definedOnce first second = .ok outcome) :
    Reachable Definitions.step Undefined outcome.2 ∧
      outcome.2.api.latestSlo "checkout" = some outcome.1 ∧ outcome.1.key ∈ outcome.2.posted ∧
      outcome.1.version = 1 ∧ outcome.1.methodCriteria = none ∧
      Exists fun settings => outcome.1.objectives = [
        { sli := first, passThreshold := ["<600"], changePoint := some settings },
        { sli := second, warningThreshold := ["<800"] }] := by
  rcases posted_of_created created with ⟨sliDefinition, done⟩
  have undefined : Undefined { api := Api.empty } := ⟨rfl, rfl, rfl⟩
  have stepped : Definitions.step { api := Api.empty } (.createSlo (twoObjectives first second)) =
      some outcome.2 := congrArg (fun made => made.toOption.map Prod.snd) created
  refine ⟨⟨_, _, undefined, exec_single stepped⟩, ?_, ?_, ?_, ?_, ?_⟩
  · rcases done.stores with ⟨api, stores, same⟩
    have written : Written Api.empty api
        [Api.empty.nextSlo ((twoObjectives first second).params sliDefinition)] [] := by
      unfold Written
      rw [retire_nil_eq, List.map_id]
      exact (storeSlo_rows stores).2
    rw [same, done.row]
    exact latestSlo_of_added written List.not_mem_nil
  · rw [done.posted]
    exact List.mem_cons_self
  · rw [done.row]
    rfl
  · rw [done.row]
    rfl
  · rw [done.row]
    exact ⟨_, rfl⟩

/-- An SLO whose objectives are on different metrics is copied as it is. -/
theorem newVersion_copies_distinct : Exists fun first => definedOnce "latency" "errors" = .ok first ∧
    Exists fun outcome => newSloVersion some "checkout" {} first.2 = .ok outcome ∧
      RewritesSlo some first.2 "checkout" first.1 {} outcome := by
  have accepted : (definedOnce "latency" "errors").isOk = true := by decide +kernel
  rcases (isOk_iff _).mp accepted with ⟨first, created⟩
  rcases definedOnce_facts created with ⟨reached, latest, posted, version, criteria, _, objectives⟩
  have copies :=
    ((newVersion_faithful_iff some reached).1 "checkout" first.1 latest posted).1
  refine ⟨first, created, copies.mpr ⟨by decide +kernel, ?_, ?_, ?_⟩⟩
  · have different : "latency" ≠ "errors" := by decide
    intro one oneIn other otherIn same
    rw [objectives] at oneIn otherIn
    simp only [List.mem_cons, List.not_mem_nil, or_false] at oneIn otherIn
    rcases oneIn with rfl | rfl <;> rcases otherIn with rfl | rfl
    · rfl
    · exact absurd same different
    · exact absurd same different.symm
    · rfl
  · rw [criteria]
    exact (Option.some_ne_none _).symm
  · rw [version]
    decide

/-- When both objectives are on one metric, the second one gets the settings of the first. -/
theorem newVersion_spreads_settings :
    Exists fun first => definedOnce "latency" "latency" = .ok first ∧
      Reachable Definitions.step Undefined first.2 ∧
      first.2.api.latestSlo "checkout" = some first.1 ∧ first.1.key ∈ first.2.posted ∧
      ¬ Exists fun outcome => newSloVersion some "checkout" {} first.2 = .ok outcome ∧
        RewritesSlo some first.2 "checkout" first.1 {} outcome := by
  have accepted : (definedOnce "latency" "latency").isOk = true := by decide +kernel
  rcases (isOk_iff _).mp accepted with ⟨first, created⟩
  rcases definedOnce_facts created with ⟨reached, latest, posted, _, _, settings, objectives⟩
  refine ⟨first, created, reached, latest, posted, fun copied => ?_⟩
  have uniform := ((copiesSlo_iff (upheld_of_reachable reached) latest posted).mp copied).settings
  have firstIn : _ ∈ first.1.objectives := objectives ▸ List.mem_cons_self
  have secondIn : _ ∈ first.1.objectives :=
    objectives ▸ List.mem_cons_of_mem _ List.mem_cons_self
  cases uniform _ firstIn _ secondIn rfl

end Catalog
end Tropek
