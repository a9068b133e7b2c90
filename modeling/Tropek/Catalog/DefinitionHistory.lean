import Tropek.Catalog.NewVersions
import Tropek.Manifest.Comparison

namespace Tropek
namespace Catalog

open Library Manifest TransitionSystem KeyedTable Fallible
open Engine (Dict)
open Store (SLIMode)

/-!
# Histories of the registries

What an accepted request has established about the version that it stores stays true of
it: the body that the client makes out of the version passes the same checks, and leads
to the same SLI.  This, and the order in which versions become inactive, is kept along
every history of the registries.
-/

/-! ## Fields that are not sent -/

variable {V : Type} {defs : Definitions} {params : SLOCreateParams} {outcome : SLO × Definitions}
  {body : Manifest.SLODefinitionCreate} {api : Api} {sliDefinition : Option (String × Int)}
  {name : String} {config : Option ChangePointConfig}

theorem orAbsent_getD (entries : Dict V) : (orAbsent entries).getD ∅ = entries := by
  unfold orAbsent
  by_cases empty : entries.entries = []
  · rw [if_pos empty]
    exact (AList.ext empty).symm
  · rw [if_neg empty]
    rfl

theorem bind_orAbsent_iff (entries : Option (Dict V)) :
    entries.bind orAbsent = entries ↔ entries ≠ some ∅ := by
  cases entries with
  | none => simp
  | some entries =>
      rw [Option.bind_some]
      unfold orAbsent
      by_cases empty : entries.entries = []
      · have same : entries = ∅ := AList.ext empty
        simp [same]
      · have different : entries ≠ ∅ := fun same => empty (congrArg AList.entries same)
        simp [empty, different]

theorem bind_orAbsent_getD (entries : Option (Dict V)) :
    (entries.bind orAbsent).getD ∅ = entries.getD ∅ := by
  cases entries with
  | none => rfl
  | some entries => exact orAbsent_getD entries

theorem forCreate_objectives (slo : SLO) (tags : Dict String) :
    (readSlo tags slo).forCreate.objectives = slo.objectives.map Objective.copied := by
  change (slo.objectives.zipIdx.map readObjective).map SLOObjectiveRead.forCreate = _
  have each : SLOObjectiveRead.forCreate ∘ readObjective = Objective.copied ∘ Prod.fst := by
    funext entry
    rfl
  rw [List.map_map, each, <- List.map_map, List.zipIdx_map_fst]

/-! ## What the create endpoints do -/

theorem storeDefinition_eq_ok {tags : Dict String}
    (stored : storeDefinition params tags defs = .ok outcome) :
    outcome.1 = defs.api.nextSlo params ∧
      (integerColumns (defs.api.nextSlo params)).all fitsColumn = true ∧
      Exists fun api => defs.api.storeSlo params = .ok api ∧
        outcome.2 = { defs with
          api, sloTags := Function.update defs.sloTags (defs.api.nextSlo params).key tags } := by
  unfold storeDefinition at stored
  simp only [bind_eq_ok] at stored
  rcases stored with ⟨_, columns, api, inserted, same⟩
  cases same
  unfold columnCheck at columns
  split at columns
  · rename_i fits
    exact ⟨rfl, fits, api, inserted, rfl⟩
  · cases columns

theorem createSloDefinition_eq_ok {body : SLODefinitionBody}
    (created : createSloDefinition body defs = .ok outcome) :
    body.check = .ok () ∧ Exists fun sliDefinition =>
      defs.api.resolveSli body.toSLODefinitionCreate = .ok sliDefinition ∧
      Exists fun stored =>
        storeDefinition (body.params sliDefinition) (body.tags.getD ∅) defs = .ok stored ∧
        outcome = (stored.1, { stored.2 with posted := stored.1.key :: stored.2.posted }) := by
  unfold createSloDefinition at created
  simp only [bind_eq_ok] at created
  rcases created with ⟨_, checks, sliDefinition, resolved, stored, inserted, same⟩
  cases same
  exact ⟨checks, sliDefinition, resolved, stored, inserted, rfl⟩

theorem resolveSli_eq_ok (resolved : api.resolveSli body = .ok sliDefinition) :
    (body.sliName = none ∧ sliDefinition = none) ∨
      Exists fun name => Exists fun sli : SLI => Exists fun keys =>
        body.sliName = some name ∧ api.findSli name body.sliVersion = some sli ∧
          Registry.buildIndicatorKeys sli.definition = .ok keys ∧
          (forall objective, objective ∈ body.objectives -> objective.sli ∈ keys) ∧
          sliDefinition = some sli.key := by
  unfold Api.resolveSli at resolved
  cases named : body.sliName with
  | none =>
      rw [named] at resolved
      cases resolved
      exact Or.inl ⟨rfl, rfl⟩
  | some name =>
      rw [named] at resolved
      simp only [bind_eq_ok] at resolved
      rcases resolved with ⟨sli, found, keys, built, _, contained, same⟩
      cases same
      refine Or.inr ⟨name, sli, keys, rfl, orRaise_eq_ok.mp found,
        mapError_eq_ok built, fun objective member => ?_, rfl⟩
      have each := (forM_isOk _ _).mp ((isOk_iff _).mpr ⟨_, contained⟩)
        objective member
      by_contra missing
      simp [missing, Except.isOk, Except.toBool] at each

theorem resolveSli_of_found {sli : SLI} {keys : List String} (named : body.sliName = some name)
    (found : api.findSli name body.sliVersion = some sli)
    (built : Registry.buildIndicatorKeys sli.definition = .ok keys)
    (contained : forall objective, objective ∈ body.objectives -> objective.sli ∈ keys) :
    api.resolveSli body = .ok (some sli.key) := by
  have each : forall objective, objective ∈ body.objectives ->
      (if keys.contains objective.sli then (.ok () : Except ApiError Unit)
        else .error (.invalid ("objective sli '" ++ objective.sli ++ "' not found"))).isOk = true := by
    intro objective member
    simp [contained objective member, Except.isOk, Except.toBool]
  rcases (isOk_iff _).mp ((forM_isOk _ _).mpr each) with ⟨_, all⟩
  unfold Api.resolveSli
  rw [named]
  simp only [bind_eq_ok]
  refine ⟨sli, orRaise_eq_ok.mpr found, keys, ?_, (), all, rfl⟩
  rw [built]
  rfl

theorem findSli_key {version : Option Int} {sli : SLI} (found : api.findSli name version = some sli) :
    api.slis.find sli.key = some sli ∧ sli.key.1 = name ∧
      (version = none ∨ version = some sli.key.2) := by
  cases version with
  | none =>
      rcases latestSli_facts found with ⟨named, _, stored⟩
      exact ⟨stored, named, Or.inl rfl⟩
  | some version =>
      have key := find_key found
      refine ⟨?_, congrArg Prod.fst key, Or.inr (congrArg some (congrArg Prod.snd key).symm)⟩
      rw [key]
      exact found

/-! ## What is sent again -/

theorem forM_eq_ok_iff {α : Type} (check : α -> Except ApiError Unit) (inputs : List α) :
    inputs.forM check = .ok () ↔ forall input, input ∈ inputs -> (check input).isOk = true := by
  rw [<- forM_isOk, isOk_iff]
  exact ⟨fun same => ⟨(), same⟩, fun ⟨(), same⟩ => same⟩

theorem sloCheck_eq_ok (body : SLODefinitionBody) :
    body.check = .ok () ↔
      checkStrings [body.name, body.kind] = .ok () ∧
      checkOptional [body.displayName, body.notes, body.author, body.sliName] = .ok () ∧
      checkInt "sli_version" (body.sliVersion.getD 0) = .ok () ∧
      checkInt "comparable_from_version" (body.comparableFromVersion.getD 0) = .ok () ∧
      (forall objective, objective ∈ body.objectives -> (checkObjective objective).isOk = true) ∧
      checkComparison (body.comparison.getD {}) = .ok () ∧
      checked (Registry.checkDict (body.vars.getD ∅)) = .ok () ∧
      ((body.methodCriteria.getD ∅).entries.map fun entry => (entry.1, entry.2)).forM
        checkMethodCriteria = .ok () ∧
      checkTags (body.tags.getD ∅) = .ok () ∧
      (forall input, input ∈ body.objectives.filterMap SLOObjectiveIn.changePoint ->
        (checkChangePoint input).isOk = true) := by
  unfold SLODefinitionBody.check SLODefinitionCreate.check
  simp only [bind_eq_ok, <- forM_eq_ok_iff]
  constructor
  · rintro ⟨_, ⟨_, names, _, texts, _, sliVersion, _, marker, _, objectives, _, comparison, _, vars,
      criteria⟩, _, tags, settings⟩
    exact ⟨names, texts, sliVersion, marker, objectives, comparison, vars, criteria, tags, settings⟩
  · rintro ⟨names, texts, sliVersion, marker, objectives, comparison, vars, criteria, tags, settings⟩
    exact ⟨(), ⟨(), names, (), texts, (), sliVersion, (), marker, (), objectives, (), comparison, (),
      vars, criteria⟩, (), tags, settings⟩

structure Sendable (defs : Definitions) (slo : SLO) : Prop where
  checks : (readSlo (defs.sloTags slo.key) slo).forCreate.check = .ok ()
  resolved : defs.api.resolveSli
    (readSlo (defs.sloTags slo.key) slo).forCreate.toSLODefinitionCreate = .ok slo.sliDefinition

/-- No SLI that is stored goes away or changes, except that it becomes inactive. -/
def SlisLast (before after : Api) : Prop :=
  forall key sli, before.slis.find key = some sli ->
    Exists fun later => after.slis.find key = some later ∧ later.definition = sli.definition

theorem resolveSli_lasts {before after : Api} (lasts : SlisLast before after)
    (versioned : body.sliName = none ∨ body.sliVersion.isSome = true)
    (resolved : before.resolveSli body = .ok sliDefinition) :
    after.resolveSli body = .ok sliDefinition := by
  rcases resolveSli_eq_ok resolved with ⟨unnamed, isNone⟩ |
    ⟨name, sli, keys, named, found, built, contained, isKey⟩
  · unfold Api.resolveSli
    rw [unnamed, isNone]
  · cases version : body.sliVersion with
    | none =>
        rw [named, version] at versioned
        simp at versioned
    | some version' =>
        rw [version] at found
        rcases lasts (name, version') sli found with ⟨later, foundLater, same⟩
        have key : later.key = sli.key := by
          unfold SLI.key
          rw [same]
        rw [isKey, <- key]
        refine resolveSli_of_found named ?_ (same ▸ built) contained
        rw [version]
        exact foundLater

theorem versioned_forCreate (defs : Definitions) (slo : SLO) :
    (readSlo (defs.sloTags slo.key) slo).forCreate.sliName = none ∨
      (readSlo (defs.sloTags slo.key) slo).forCreate.sliVersion.isSome = true := by
  change slo.sliDefinition.map Prod.fst = none ∨ (slo.sliDefinition.map Prod.snd).isSome = true
  cases slo.sliDefinition with
  | none => exact Or.inl rfl
  | some _ => exact Or.inr rfl

theorem checkInt_of_fits {value : Int} (fits : fitsColumn value = true) :
    checkInt name value = .ok () := by
  unfold fitsColumn at fits
  rw [Bool.and_eq_true, decide_eq_true_eq, decide_eq_true_eq] at fits
  exact if_pos fits

/-- What a create request has done: the row it has stored, with its tags and with the SLI
that its body leads to. -/
structure Posted (body : SLODefinitionBody) (defs : Definitions)
    (sliDefinition : Option (String × Int)) (outcome : SLO × Definitions) : Prop where
  checks : body.check = .ok ()
  resolved : defs.api.resolveSli body.toSLODefinitionCreate = .ok sliDefinition
  row : outcome.1 = defs.api.nextSlo (body.params sliDefinition)
  columns : (integerColumns outcome.1).all fitsColumn = true
  tags : outcome.2.sloTags = Function.update defs.sloTags outcome.1.key (body.tags.getD ∅)
  stores : Exists fun api => defs.api.storeSlo (body.params sliDefinition) = .ok api ∧
    outcome.2.api = api
  sliTags : outcome.2.sliTags = defs.sliTags
  posted : outcome.2.posted = outcome.1.key :: defs.posted

theorem posted_of_created {body : SLODefinitionBody}
    (created : createSloDefinition body defs = .ok outcome) :
    Exists fun sliDefinition => Posted body defs sliDefinition outcome := by
  rcases createSloDefinition_eq_ok created with
    ⟨checks, sliDefinition, resolved, ⟨row, later⟩, inserted, same⟩
  rcases storeDefinition_eq_ok inserted with ⟨isRow, columns, api, stores, isLater⟩
  dsimp only at isRow isLater
  subst isRow isLater same
  exact ⟨sliDefinition, checks, resolved, rfl, columns, rfl, ⟨api, stores, rfl⟩, rfl, rfl⟩

section Posted

variable {body : SLODefinitionBody} {defs : Definitions} {outcome : SLO × Definitions}
  {sliDefinition : Option (String × Int)}

section

variable (done : Posted body defs sliDefinition outcome)

include done

theorem Posted.ownTags : outcome.2.sloTags outcome.1.key = body.tags.getD ∅ := by
  rw [done.tags]
  exact Function.update_self _ _ _

theorem Posted.slis : outcome.2.api.slis = defs.api.slis := by
  rcases done.stores with ⟨api, stores, same⟩
  rcases storeSlo_eq_ok stores with ⟨_, isApi⟩
  rw [same, isApi]

theorem Posted.sliName : sliDefinition.map Prod.fst = body.sliName := by
  rcases resolveSli_eq_ok done.resolved with ⟨unnamed, isNone⟩ |
    ⟨name, sli, _, named, found, _, _, isKey⟩
  · rw [unnamed, isNone]
    rfl
  · rw [named, isKey, <- (findSli_key found).2.1]
    rfl

theorem Posted.objectives (tags : Dict String) :
    (readSlo tags outcome.1).forCreate.objectives =
      body.objectives.map fun objective => (storedObjective defs.api.changePointDefaults
        (previousVersion defs.api body.name) objective).copied := by
  rw [forCreate_objectives, done.row]
  exact List.map_map

theorem Posted.checksAgain
    (versions : forall sli, sli ∈ defs.api.slis.rows -> fitsColumn sli.definition.version = true) :
    (readSlo (body.tags.getD ∅) outcome.1).forCreate.check = .ok () := by
  have version : fitsColumn ((sliDefinition.map Prod.snd).getD 0) = true := by
    rcases resolveSli_eq_ok done.resolved with ⟨_, isNone⟩ |
      ⟨name, sli, _, _, found, _, _, isKey⟩
    · rw [isNone]
      rfl
    · rw [isKey]
      exact versions sli (find_mem (findSli_key found).1)
  rcases (sloCheck_eq_ok body).mp done.checks with
    ⟨names, texts, _, _, eachObjective, comparison, vars, criteria, tags, _⟩
  refine (sloCheck_eq_ok _).mpr ⟨?_, ?_, checkInt_of_fits ?_, rfl, ?_, ?_, ?_, ?_, ?_, ?_⟩
  · rw [done.row]
    exact names
  · rw [done.row]
    change checkOptional [body.displayName, body.notes, body.author, sliDefinition.map Prod.fst] = _
    rw [done.sliName]
    exact texts
  · rw [done.row]
    exact version
  · intro objective member
    rw [done.objectives] at member
    rcases List.mem_map.mp member with ⟨sent, sentIn, isObjective⟩
    rw [<- isObjective]
    exact eachObjective sent sentIn
  · rw [done.row]
    exact comparison
  · change checked (Registry.checkDict ((orAbsent outcome.1.vars).getD ∅)) = _
    rw [orAbsent_getD, done.row]
    exact vars
  · change (((outcome.1.methodCriteria.bind orAbsent).getD ∅).entries.map _).forM _ = _
    rw [bind_orAbsent_getD, done.row]
    exact criteria
  · change checkTags ((orAbsent (body.tags.getD ∅)).getD ∅) = _
    rw [orAbsent_getD]
    exact tags
  · intro input member
    rw [done.objectives] at member
    rcases List.mem_filterMap.mp member with ⟨objective, sent, isInput⟩
    rcases List.mem_map.mp sent with ⟨_, _, isObjective⟩
    rw [<- isObjective] at isInput
    cases isInput

theorem Posted.resolvesAgain (tags : Dict String) :
    outcome.2.api.resolveSli (readSlo tags outcome.1).forCreate.toSLODefinitionCreate =
      .ok outcome.1.sliDefinition := by
  have bound : outcome.1.sliDefinition = sliDefinition := by
    rw [done.row]
    rfl
  have named : (readSlo tags outcome.1).forCreate.sliName = sliDefinition.map Prod.fst :=
    congrArg (Option.map Prod.fst) bound
  have version : (readSlo tags outcome.1).forCreate.sliVersion = sliDefinition.map Prod.snd :=
    congrArg (Option.map Prod.snd) bound
  rw [bound]
  rcases resolveSli_eq_ok done.resolved with ⟨_, isNone⟩ |
    ⟨name, sli, keys, _, found, built, contained, isKey⟩
  · rw [isNone] at named
    unfold Api.resolveSli
    rw [named, isNone]
    rfl
  · rw [isKey] at named version
    rw [isKey]
    have finds : outcome.2.api.findSli sli.key.1
        (readSlo tags outcome.1).forCreate.sliVersion = some sli := by
      rw [version]
      change outcome.2.api.slis.find sli.key = some sli
      rw [done.slis]
      exact (findSli_key found).1
    refine resolveSli_of_found named finds built fun objective member => ?_
    rw [done.objectives] at member
    rcases List.mem_map.mp member with ⟨sent, sentIn, isObjective⟩
    rw [<- isObjective]
    exact contained sent sentIn

theorem Posted.sendable
    (versions : forall sli, sli ∈ defs.api.slis.rows -> fitsColumn sli.definition.version = true) :
    Sendable outcome.2 outcome.1 := by
  constructor
  · rw [done.ownTags]
    exact done.checksAgain versions
  · exact done.resolvesAgain _

end

end Posted

/-! ## SLIs -/

theorem parseMethod_iff {text : String} {method : Registry.AggregationMethod} :
    parseMethod text = .ok method ↔ method.name = text := by
  unfold parseMethod
  rw [orRaise_eq_ok]
  constructor
  · intro found
    have selected := List.find?_some found
    exact of_decide_eq_true selected
  · intro named
    rw [<- named]
    cases method <;> rfl

theorem parseMethods_iff (texts : List String) (methods : List Registry.AggregationMethod) :
    texts.mapM parseMethod = .ok methods ↔ methods.map Registry.AggregationMethod.name = texts := by
  rw [mapM_eq_ok]
  constructor
  · intro each
    induction each with
    | nil => rfl
    | cons parsed _ ih =>
        rw [List.map_cons, ih, parseMethod_iff.mp parsed]
  · intro same
    rw [<- same, List.forall₂_map_left_iff, List.forall₂_same]
    exact fun _ _ => parseMethod_iff.mpr rfl

theorem optionalMethods_iff (texts : Option (List String))
    (methods : Option (List Registry.AggregationMethod)) :
    texts.mapM (fun texts => texts.mapM parseMethod) = .ok methods ↔
      methods.map (List.map Registry.AggregationMethod.name) = texts := by
  cases texts with
  | none => cases methods <;> simp [pure, Except.pure]
  | some texts =>
      rw [Option.mapM_some, map_eq_pure_bind, bind_eq_ok]
      cases methods with
      | none => simp [pure, Except.pure]
      | some methods =>
          rw [Option.map_some, Option.some.injEq, <- parseMethods_iff]
          simp [pure, Except.pure]

theorem modeName_of_valid {sli : Registry.SLIDefinitionCreate} {mode : SLIMode}
    (valid : Registry.validateModeFields sli = .ok mode) : mode.name = sli.mode := by
  unfold Registry.validateModeFields at valid
  split at valid
  · rename_i isRaw
    rcases bind_eq_ok.mp valid with ⟨_, _, same⟩
    cases same
    exact isRaw.symm
  · rename_i isAggregated
    rcases bind_eq_ok.mp valid with ⟨_, _, same⟩
    cases same
    exact isAggregated.symm
  · cases valid

theorem sliValidate_eq_ok {body : SLIDefinitionBody}
    {valid : Registry.SLIDefinitionCreate × SLIMode} (validated : body.validate = .ok valid) :
    valid.2.name = body.mode ∧ valid.1.name = body.name ∧
      valid.1.indicators = body.indicators.getD ∅ ∧ valid.1.queryTemplate = body.queryTemplate ∧
      valid.1.interval = body.interval ∧
      valid.1.methods.map (List.map Registry.AggregationMethod.name) = body.methods := by
  unfold SLIDefinitionBody.validate at validated
  simp only [bind_eq_ok] at validated
  rcases validated with ⟨_, _, _, _, _, _, sli, parsed, _, _, mode, isMode, same⟩
  cases same
  unfold SLIDefinitionCreate.checkedBody at parsed
  rcases bind_eq_ok.mp parsed with ⟨methods, isMethods, same⟩
  cases same
  exact ⟨modeName_of_valid (mapError_eq_ok isMode), rfl, rfl, rfl, rfl,
    (optionalMethods_iff _ _).mp isMethods⟩

structure PostedSli (body : SLIDefinitionBody) (defs : Definitions)
    (valid : Registry.SLIDefinitionCreate × SLIMode) (outcome : SLI × Definitions) : Prop where
  validated : body.validate = .ok valid
  row : outcome.1 = nextSli defs.api body valid.1 valid.2
  columns : [outcome.1.definition.version, outcome.1.definition.comparableFromVersion].all
    fitsColumn = true
  later : Exists fun fresh => outcome.2 = { defs with
    api := { defs.api with slis := defs.api.slis.insert outcome.1 fresh }
    sliTags := Function.update defs.sliTags outcome.1.key (body.tags.getD ∅) }

theorem columnCheck_eq_ok {values : List Int} :
    columnCheck values = .ok () ↔ values.all fitsColumn = true := by
  unfold columnCheck
  split
  · rename_i fits
    exact ⟨fun _ => fits, fun _ => rfl⟩
  · rename_i refused
    exact ⟨(fun impossible => by cases impossible), fun fits => absurd fits refused⟩

theorem postedSli_of_created {body : SLIDefinitionBody} {outcome : SLI × Definitions}
    (created : createSliDefinition body defs = .ok outcome) :
    Exists fun valid => PostedSli body defs valid outcome := by
  unfold createSliDefinition at created
  rcases bind_eq_ok.mp created with ⟨valid, validated, created⟩
  rcases bind_eq_ok.mp created with ⟨_, columns, created⟩
  split at created
  · rename_i fresh
    cases created
    exact ⟨valid, validated, rfl, columnCheck_eq_ok.mp columns, fresh, rfl⟩
  · cases created

section PostedSli

variable {body : SLIDefinitionBody} {defs : Definitions} {outcome : SLI × Definitions}
  {valid : Registry.SLIDefinitionCreate × SLIMode}

section

variable (done : PostedSli body defs valid outcome)

include done

theorem PostedSli.ownTags : outcome.2.sliTags outcome.1.key = body.tags.getD ∅ := by
  rcases done.later with ⟨_, later⟩
  rw [later]
  exact Function.update_self _ _ _

theorem PostedSli.read :
    readSli (outcome.2.sliTags outcome.1.key) outcome.1 =
      { name := body.name
        adapterType := body.adapterType
        displayName := body.displayName
        version := outcome.1.definition.version
        comparableFromVersion := outcome.1.definition.comparableFromVersion
        indicators := body.indicators.getD ∅
        notes := body.notes
        author := body.author
        tags := body.tags.getD ∅
        mode := body.mode
        queryTemplate := body.queryTemplate
        interval := body.interval
        methods := body.methods
        active := true } := by
  rcases sliValidate_eq_ok done.validated with
    ⟨mode, name, indicators, queryTemplate, interval, methods⟩
  rw [done.ownTags, done.row, <- mode, <- name, <- indicators, <- queryTemplate, <- interval,
    <- methods]
  rfl

theorem PostedSli.validatesAgain :
    (readSli (outcome.2.sliTags outcome.1.key) outcome.1).forCreate.validate = .ok valid := by
  rw [done.read, <- done.validated]
  unfold SLIDefinitionRead.forCreate SLIDefinitionBody.validate SLIDefinitionCreate.checkedBody
  simp only [orAbsent_getD]

end

end PostedSli

/-! ## Histories -/

/-- What every history keeps.  Above an active version of a name there is no inactive one,
so that the latest version is the one that the next version is merged with. -/
structure Upheld (defs : Definitions) : Prop where
  suffix : forall first, first ∈ defs.api.slos.rows -> forall second, second ∈ defs.api.slos.rows ->
    first.name = second.name -> first.active = true -> first.version ≤ second.version ->
    second.active = true
  columns : forall slo, slo ∈ defs.api.slos.rows -> (integerColumns slo).all fitsColumn = true
  stored : forall key, key ∈ defs.posted -> defs.api.slos.find key ≠ none
  sendable : forall slo, slo ∈ defs.api.slos.rows -> slo.key ∈ defs.posted -> Sendable defs slo
  versions : forall sli, sli ∈ defs.api.slis.rows -> fitsColumn sli.definition.version = true
  validates : forall sli, sli ∈ defs.api.slis.rows ->
    (readSli (defs.sliTags sli.key) sli).forCreate.validate.isOk = true

theorem upheld_undefined (undefined : Undefined defs) : Upheld defs := by
  rcases undefined with ⟨noSlis, noSlos, noPosted⟩
  constructor
  · simp [noSlos]
  · simp [noSlos]
  · simp [noPosted]
  · simp [noSlos]
  · simp [noSlis]
  · simp [noSlis]

theorem slisLast_refl (api : Api) : SlisLast api api :=
  fun _ sli found => ⟨sli, found, rfl⟩

structure SentAlike (before after : SLO) : Prop where
  key : after.key = before.key
  body : forall tags, (readSlo tags after).forCreate = (readSlo tags before).forCreate
  bound : after.sliDefinition = before.sliDefinition

theorem Sendable.lasts {later : Definitions} {before after : SLO} (sendable : Sendable defs before)
    (alike : SentAlike before after) (tags : later.sloTags after.key = defs.sloTags before.key)
    (slis : SlisLast defs.api later.api) : Sendable later after := by
  constructor
  · rw [tags, alike.body]
    exact sendable.checks
  · rw [tags, alike.body, alike.bound]
    exact resolveSli_lasts slis (versioned_forCreate defs before) sendable.resolved

theorem sentAlike_refl (slo : SLO) : SentAlike slo slo :=
  ⟨rfl, fun _ => rfl, rfl⟩

theorem sentAlike_inactive (slo : SLO) : SentAlike slo { slo with active := false } :=
  ⟨rfl, fun _ => rfl, rfl⟩

theorem sentAlike_setChangePoint (position : Nat) (config : Option ChangePointConfig) (slo : SLO) :
    SentAlike slo (setChangePoint position config slo) := by
  refine ⟨rfl, fun tags => ?_, rfl⟩
  have objectives : (slo.objectives.modify position fun objective =>
      { objective with changePoint := config }).map Objective.copied =
        slo.objectives.map Objective.copied := by
    refine List.ext_getElem? fun index => ?_
    rw [List.getElem?_map, List.getElem?_map, List.getElem?_modify]
    cases slo.objectives[index]? with
    | none => rfl
    | some objective =>
        by_cases here : position = index
        · simp [here, Objective.copied]
        · simp [here]
  have sent := forCreate_objectives (setChangePoint position config slo) tags
  have before := forCreate_objectives slo tags
  change _ = (slo.objectives.modify position fun objective =>
    { objective with changePoint := config }).map Objective.copied at sent
  rw [objectives, <- before] at sent
  unfold SLODefinitionRead.forCreate at sent ⊢
  dsimp only at sent ⊢
  rw [sent]
  rfl

theorem Upheld.amended (upheld : Upheld defs) (condition : SLO -> Bool) (change : SLO -> SLO)
    (keeps : forall slo, (change slo).key = slo.key)
    (alike : forall slo, SentAlike slo (change slo))
    (fits : forall slo, (integerColumns slo).all fitsColumn = true ->
      (integerColumns (change slo)).all fitsColumn = true)
    (suffix : forall first, first ∈ (defs.api.slos.updateWhere condition change keeps).rows ->
      forall second, second ∈ (defs.api.slos.updateWhere condition change keeps).rows ->
      first.name = second.name -> first.active = true -> first.version ≤ second.version ->
      second.active = true) :
    Upheld { defs with
      api := { defs.api with slos := defs.api.slos.updateWhere condition change keeps } } := by
  have old : forall after, after ∈ (defs.api.slos.updateWhere condition change keeps).rows ->
      Exists fun before => before ∈ defs.api.slos.rows ∧ SentAlike before after ∧
        (integerColumns after).all fitsColumn = true := by
    intro after member
    rcases (mem_updateWhere _ _ _ _ _).mp member with ⟨before, inside, same⟩
    rw [<- same]
    refine ⟨before, inside, ?_⟩
    by_cases selected : condition before = true
    · rw [if_pos selected]
      exact ⟨alike before, fits before (upheld.columns before inside)⟩
    · rw [if_neg selected]
      exact ⟨sentAlike_refl before, upheld.columns before inside⟩
  refine ⟨suffix, ?_, ?_, ?_, upheld.versions, upheld.validates⟩
  · intro after member
    rcases old after member with ⟨_, _, _, columns⟩
    exact columns
  · intro key listed
    change (defs.api.slos.updateWhere condition change keeps).find key ≠ none
    rw [find_updateWhere, Ne, Option.map_eq_none_iff]
    exact upheld.stored key listed
  · intro after member listed
    rcases old after member with ⟨before, inside, sent, _⟩
    rw [sent.key] at listed
    exact (upheld.sendable before inside listed).lasts sent (congrArg defs.sloTags sent.key)
      (slisLast_refl _)

theorem Upheld.deactivated (upheld : Upheld defs) (name : String) :
    Upheld { defs with api := defs.api.deactivateSlo name } := by
  refine upheld.amended (fun slo => slo.name = name) (fun slo => { slo with active := false })
    (fun _ => rfl) sentAlike_inactive (fun _ fits => fits) ?_
  intro first firstIn second secondIn sameName active below
  rcases (mem_updateWhere _ _ _ _ _).mp firstIn with ⟨one, oneIn, isFirst⟩
  rcases (mem_updateWhere _ _ _ _ _).mp secondIn with ⟨other, otherIn, isSecond⟩
  by_cases gone : one.name = name
  · rw [if_pos (decide_eq_true gone)] at isFirst
    rw [<- isFirst] at active
    cases active
  · rw [if_neg (by simpa using gone)] at isFirst
    subst isFirst
    by_cases goneToo : other.name = name
    · rw [if_pos (decide_eq_true goneToo)] at isSecond
      rw [<- isSecond] at sameName
      exact absurd (sameName.trans goneToo) gone
    · rw [if_neg (by simpa using goneToo)] at isSecond
      subst isSecond
      exact upheld.suffix one oneIn other otherIn sameName active below

theorem integerColumns_fit {slo : SLO} :
    (integerColumns slo).all fitsColumn = true ↔
      (fitsColumn slo.version = true ∧ fitsColumn slo.comparableFromVersion = true) ∧
        forall objective, objective ∈ slo.objectives -> forall config,
          objective.changePoint = some config -> (settingsColumns config).all fitsColumn = true := by
  unfold integerColumns
  simp only [List.all_append, List.all_flatMap, Bool.and_eq_true, List.all_eq_true,
    List.mem_filterMap, List.forall_mem_cons, List.not_mem_nil, false_implies, implies_true, and_true]
  constructor
  · rintro ⟨own, each⟩
    exact ⟨own, fun objective member config isConfig => each config ⟨objective, member, isConfig⟩⟩
  · rintro ⟨own, each⟩
    exact ⟨own, fun config ⟨objective, member, isConfig⟩ => each objective member config isConfig⟩

theorem integerColumns_setChangePoint (position : Nat)
    (fits : forall settings, config = some settings ->
      (settingsColumns settings).all fitsColumn = true)
    {slo : SLO} (before : (integerColumns slo).all fitsColumn = true) :
    (integerColumns (setChangePoint position config slo)).all fitsColumn = true := by
  rcases integerColumns_fit.mp before with ⟨own, each⟩
  refine integerColumns_fit.mpr ⟨own, fun objective member settings isSettings => ?_⟩
  rcases List.getElem?_of_mem member with ⟨index, found⟩
  change (slo.objectives.modify position _)[index]? = some objective at found
  rw [List.getElem?_modify] at found
  rcases Option.map_eq_some_iff.mp found with ⟨old, isOld, same⟩
  by_cases here : position = index
  · rw [if_pos here] at same
    rw [<- same] at isSettings
    exact fits settings isSettings
  · rw [if_neg here] at same
    rw [<- same] at isSettings
    exact each old (List.mem_of_getElem? isOld) settings isSettings

theorem Upheld.settingsPut (upheld : Upheld defs) (key : String × Int) (position : Nat)
    (fits : forall settings, config = some settings ->
      (settingsColumns settings).all fitsColumn = true) :
    Upheld (defs.putSettings key position config) := by
  refine upheld.amended _ (setChangePoint position config) (fun _ => rfl)
    (sentAlike_setChangePoint position config)
    (fun _ before => integerColumns_setChangePoint position fits before) ?_
  intro first firstIn second secondIn sameName active below
  have unchanged : forall after,
      after ∈ (defs.api.slos.updateWhere (fun slo => slo.key = key)
        (setChangePoint position config) fun _ => rfl).rows ->
      Exists fun before => before ∈ defs.api.slos.rows ∧ before.name = after.name ∧
        before.active = after.active ∧ before.version = after.version := by
    intro after member
    rcases (mem_updateWhere _ _ _ _ _).mp member with ⟨before, inside, same⟩
    rw [<- same]
    refine ⟨before, inside, ?_⟩
    split <;> exact ⟨rfl, rfl, rfl⟩
  rcases unchanged first firstIn with ⟨one, oneIn, oneName, oneActive, oneVersion⟩
  rcases unchanged second secondIn with ⟨other, otherIn, otherName, otherActive, otherVersion⟩
  rw [<- otherActive]
  rw [<- oneName, <- otherName] at sameName
  rw [<- oneActive] at active
  rw [<- oneVersion, <- otherVersion] at below
  exact upheld.suffix one oneIn other otherIn sameName active below

theorem Upheld.storing {tags : Dict String} (upheld : Upheld defs)
    (stored : storeDefinition params tags defs = .ok outcome) : Upheld outcome.2 := by
  rcases storeDefinition_eq_ok stored with ⟨_, columns, api, stores, isLater⟩
  rcases storeSlo_eq_ok stores with ⟨fresh, isApi⟩
  rw [isLater, isApi]
  have split : forall {slo : SLO}, slo ∈ (defs.api.slos.insert (defs.api.nextSlo params) fresh).rows ->
      slo ∈ defs.api.slos.rows ∨ slo = defs.api.nextSlo params :=
    (mem_insert _ _ fresh _).mp
  have notPosted : (defs.api.nextSlo params).key ∉ defs.posted :=
    fun listed => upheld.stored _ listed fresh
  refine ⟨?_, ?_, ?_, ?_, upheld.versions, upheld.validates⟩
  · intro first firstIn second secondIn sameName active below
    rcases split secondIn with secondOld | secondNew
    · rcases split firstIn with firstOld | firstNew
      · exact upheld.suffix first firstOld second secondOld sameName active below
      · rw [firstNew] at sameName below
        exact absurd below (not_le.mpr (version_lt_next secondOld sameName.symm))
    · rw [secondNew]
      rfl
  · intro slo member
    rcases split member with old | new
    · exact upheld.columns slo old
    · rw [new]
      exact columns
  · intro key listed
    change (defs.api.slos.insert (defs.api.nextSlo params) fresh).find key ≠ none
    rw [find_insert]
    split
    · exact Option.some_ne_none _
    · exact upheld.stored key listed
  · intro slo member listed
    have different : slo.key ≠ (defs.api.nextSlo params).key :=
      fun same => notPosted (same ▸ listed)
    rcases split member with old | new
    · exact (upheld.sendable slo old listed).lasts (sentAlike_refl slo)
        (Function.update_of_ne different _ _) (slisLast_refl _)
    · exact absurd (congrArg SLO.key new) different

theorem Upheld.created {body : SLODefinitionBody} {defs : Definitions}
    {outcome : SLO × Definitions} (upheld : Upheld defs)
    (created : createSloDefinition body defs = .ok outcome) : Upheld outcome.2 := by
  rcases posted_of_created created with ⟨_, done⟩
  have sendable := done.sendable upheld.versions
  rcases createSloDefinition_eq_ok created with ⟨_, _, _, stored, inserted, same⟩
  have before := upheld.storing inserted
  rcases storeDefinition_eq_ok inserted with ⟨isRow, _, api, stores, isLater⟩
  rw [same] at sendable ⊢
  refine ⟨before.suffix, before.columns, ?_, ?_, before.versions, before.validates⟩
  · intro key listed
    rcases List.mem_cons.mp listed with isNew | old
    · rcases storeSlo_eq_ok stores with ⟨fresh, isApi⟩
      change stored.2.api.slos.find key ≠ none
      rw [isNew, isLater, isApi, isRow]
      change (defs.api.slos.insert _ fresh).find _ ≠ none
      rw [find_insert, if_pos rfl]
      exact Option.some_ne_none _
    · exact before.stored key old
  · intro slo member listed
    rcases List.mem_cons.mp listed with isNew | old
    · have here : stored.1 ∈ stored.2.api.slos.rows := by
        rw [isLater, isRow]
        change _ ∈ api.slos.rows
        rw [(storeSlo_rows stores).2]
        exact List.mem_append.mpr (Or.inr List.mem_cons_self)
      rw [eq_of_key member here isNew]
      exact sendable
    · exact ⟨(before.sendable slo member old).checks, (before.sendable slo member old).resolved⟩

theorem Upheld.createdSli {body : SLIDefinitionBody} {outcome : SLI × Definitions}
    (upheld : Upheld defs) (created : createSliDefinition body defs = .ok outcome) :
    Upheld outcome.2 := by
  rcases postedSli_of_created created with ⟨valid, done⟩
  have again := done.validatesAgain
  have ownColumns := done.columns
  rcases done.later with ⟨fresh, later⟩
  rw [later] at again ⊢
  have split : forall {sli : SLI}, sli ∈ (defs.api.slis.insert outcome.1 fresh).rows ->
      sli ∈ defs.api.slis.rows ∨ sli = outcome.1 :=
    (mem_insert _ _ fresh _).mp
  have lasts : SlisLast defs.api
      { defs.api with slis := defs.api.slis.insert outcome.1 fresh } := by
    intro key sli found
    refine ⟨sli, ?_, rfl⟩
    change (defs.api.slis.insert outcome.1 fresh).find key = some sli
    rw [find_insert, if_neg]
    · exact found
    · rintro rfl
      rw [fresh] at found
      cases found
  refine ⟨upheld.suffix, upheld.columns, upheld.stored, ?_, ?_, ?_⟩
  · intro slo member listed
    exact (upheld.sendable slo member listed).lasts (sentAlike_refl slo) rfl lasts
  · intro sli member
    rcases split member with old | new
    · exact upheld.versions sli old
    · rw [new]
      exact List.all_eq_true.mp ownColumns _ List.mem_cons_self
  · intro sli member
    rcases split member with old | new
    · have different : sli.key ≠ outcome.1.key := fun same =>
        Option.some_ne_none sli ((find_of_mem old).symm.trans (same ▸ fresh))
      change (readSli (Function.update defs.sliTags outcome.1.key _ sli.key) sli).forCreate.validate.isOk
        = true
      rw [Function.update_of_ne different]
      exact upheld.validates sli old
    · rw [new]
      exact (isOk_iff _).mpr ⟨valid, again⟩

theorem slisLast_deactivateSli (defs : Definitions) (name : String) :
    SlisLast defs.api (defs.deactivateSli name).api := by
  intro key sli found
  refine ⟨if sli.definition.name = name then inactiveSli sli else sli, ?_, ?_⟩
  · refine (find_updateWhere defs.api.slis _ inactiveSli (fun _ => rfl) key).trans ?_
    rw [found, Option.map_some]
    simp only [decide_eq_true_eq]
  · split <;> rfl

theorem Upheld.deactivatedSli (upheld : Upheld defs) (name : String) :
    Upheld (defs.deactivateSli name) := by
  have old : forall sli, sli ∈ (defs.deactivateSli name).api.slis.rows ->
      Exists fun before => before ∈ defs.api.slis.rows ∧ before.definition = sli.definition ∧
        forall tags, (readSli tags before).forCreate = (readSli tags sli).forCreate := by
    intro sli member
    rcases (mem_updateWhere _ _ inactiveSli (fun _ => rfl) _).mp member with
      ⟨before, inside, same⟩
    rw [<- same]
    refine ⟨before, inside, ?_⟩
    split <;> exact ⟨rfl, fun _ => rfl⟩
  have lasts := slisLast_deactivateSli defs name
  refine ⟨upheld.suffix, upheld.columns, upheld.stored, ?_, ?_, ?_⟩
  · intro slo member listed
    exact (upheld.sendable slo member listed).lasts (sentAlike_refl slo) rfl lasts
  · intro sli member
    rcases old sli member with ⟨before, inside, same, _⟩
    rw [<- same]
    exact upheld.versions before inside
  · intro sli member
    rcases old sli member with ⟨before, inside, same, sent⟩
    have key : sli.key = before.key := by
      unfold SLI.key
      rw [same]
    change (readSli (defs.sliTags sli.key) sli).forCreate.validate.isOk = true
    rw [key, <- sent]
    exact upheld.validates before inside

theorem Upheld.step {next : Definitions} {request : DefinitionRequest}
    (stepped : defs.step request = some next) (upheld : Upheld defs) : Upheld next := by
  cases request with
  | createSli body =>
      rcases Option.map_eq_some_iff.mp stepped with ⟨outcome, made, isNext⟩
      rw [<- isNext]
      exact upheld.createdSli (toOption_eq_some.mp made)
  | createSlo body =>
      rcases Option.map_eq_some_iff.mp stepped with ⟨outcome, made, isNext⟩
      rw [<- isNext]
      exact upheld.created (toOption_eq_some.mp made)
  | generate params tags =>
      rcases Option.map_eq_some_iff.mp stepped with ⟨outcome, made, isNext⟩
      rw [<- isNext]
      exact upheld.storing (toOption_eq_some.mp made)
  | deleteSli name =>
      cases stepped
      exact upheld.deactivatedSli name
  | deleteSlo name =>
      cases stepped
      exact upheld.deactivated name
  | configure defaults =>
      cases stepped
      refine ⟨upheld.suffix, upheld.columns, upheld.stored, ?_, upheld.versions,
        upheld.validates⟩
      intro slo member listed
      exact (upheld.sendable slo member listed).lasts (sentAlike_refl slo) rfl
        (slisLast_refl _)
  | putChangePoint key position input =>
      unfold Definitions.step at stepped
      dsimp only at stepped
      split at stepped
      · rename_i accepted
        cases stepped
        refine upheld.settingsPut key position fun settings same => ?_
        cases same
        rw [Bool.and_eq_true] at accepted
        rcases (isOk_iff _).mp accepted.2 with ⟨_, fits⟩
        exact columnCheck_eq_ok.mp fits
      · cases stepped
  | deleteChangePoint key position =>
      cases stepped
      exact upheld.settingsPut key position fun _ impossible => by cases impossible

theorem upheld_of_reachable (reached : Reachable Definitions.step Undefined defs) : Upheld defs :=
  reachable_preserves (fun _ => upheld_undefined)
    (fun _ _ _ upheld stepped => Upheld.step stepped upheld) reached

end Catalog
end Tropek
