import Mathlib.Data.List.InsertIdx
import Tropek.Catalog.Agreement
import Tropek.Catalog.Generation

namespace Tropek
namespace Catalog

open Library Manifest KeyedTable Fallible
open Engine (Dict)

/-!
# Groups and the SLOs that they have generated

What a group has generated should be what its template and its table of values give.
The names are compared as sets: by design two rows may give the same name, and a
placeholder without a column stays in the name.

The correspondence rests on each name being generated by one group at a time.  The
creation of a group sees to that.  The update does not, and an extraction removes only
the first of the rows that give the name; runs in which one of the two matters are left
out here.
-/

/-- The active SLOs of an active group have the names that its template and table give,
and an inactive group has no active SLO. -/
structure Corresponds (api : Api) : Prop where
  active : forall group, group ∈ api.sloGroups.rows -> group.active = true ->
    Exists fun template => Exists fun specs => api.slos.find group.templateSlo = some template ∧
      generateSloSpecs template group.genVariables group.id = .ok specs ∧
      forall name, name ∈ api.generatedNames group.id ↔ name ∈ specs.map SLOCreateParams.name
  inactive : forall group, group ∈ api.sloGroups.rows -> group.active = false ->
    forall name, name ∉ api.generatedNames group.id

/-- An update generates no name that is an active name of another group, and the name of
an extraction is generated by one row. -/
def KeepsApart (api : Api) : GroupRequest -> Prop
  | .update name body => forall group template specs, api.activeSloGroup name = some group ->
      updatedSpecs api name body = .ok (template, specs) -> forall spec, spec ∈ specs ->
      forall other, spec.name ∈ api.generatedNames other -> other = group.id
  | .extract name body => forall group template specs, api.activeSloGroup name = some group ->
      api.slos.find group.templateSlo = some template ->
      generateSloSpecs template group.genVariables group.id = .ok specs ->
      (specs.map SLOCreateParams.name).count body.sloName ≤ 1
  | .create _ | .delete _ => True

/-! ## The invariant -/

/-- Beside the correspondence: a name is generated by one group at most, and by one that
exists. -/
structure Consistent (api : Api) : Prop where
  corresponds : Corresponds api
  oneOwner : forall name first second, name ∈ api.generatedNames first ->
    name ∈ api.generatedNames second -> first = second
  known : forall slo group, slo ∈ api.slos.rows -> slo.generatedByGroup = some group ->
    api.sloGroups.find group ≠ none

variable {group rowIdx rows : Nat} {api later : Api} {name : String} {gone : List String}
  {added : List SLO} {key : String × Int} {genVariables : Dict (List String)}
  {specs : List SLOCreateParams} {template : SLO}

theorem mem_generatedNames :
    name ∈ api.generatedNames group ↔ Exists fun slo => slo ∈ api.slos.rows ∧
      slo.generatedByGroup = some group ∧ slo.active = true ∧ slo.name = name := by
  unfold Api.generatedNames Api.generatedSlos
  rw [List.mem_map]
  constructor
  · rintro ⟨slo, member, named⟩
    rcases List.mem_filter.mp member with ⟨inside, selected⟩
    rw [Bool.and_eq_true, decide_eq_true_eq] at selected
    exact ⟨slo, inside, selected.1, selected.2, named⟩
  · rintro ⟨slo, inside, owner, active, named⟩
    refine ⟨slo, List.mem_filter.mpr ⟨inside, ?_⟩, named⟩
    rw [Bool.and_eq_true, decide_eq_true_eq]
    exact ⟨owner, active⟩

theorem generatedNames_written (written : Written api later added gone) (group : Nat)
    (name : String) :
    name ∈ later.generatedNames group ↔ name ∉ gone ∧ (name ∈ api.generatedNames group ∨
      Exists fun row => row ∈ added ∧ row.generatedByGroup = some group ∧ row.active = true ∧
        row.name = name) := by
  rw [mem_generatedNames, mem_generatedNames, written]
  constructor
  · rintro ⟨slo, member, owner, active, named⟩
    rcases List.mem_map.mp member with ⟨row, listed, same⟩
    subst same
    rw [retire_generatedByGroup] at owner
    rw [retire_name] at named
    rcases (retire_active gone row).mp active with ⟨wasActive, kept⟩
    rw [named] at kept
    refine ⟨kept, ?_⟩
    rcases List.mem_append.mp listed with old | new
    · exact Or.inl ⟨row, old, owner, wasActive, named⟩
    · exact Or.inr ⟨row, new, owner, wasActive, named⟩
  · rintro ⟨kept, found⟩
    have present : Exists fun row => row ∈ api.slos.rows ++ added ∧
        row.generatedByGroup = some group ∧ row.active = true ∧ row.name = name := by
      rcases found with ⟨row, old, facts⟩ | ⟨row, new, facts⟩
      · exact ⟨row, List.mem_append.mpr (Or.inl old), facts⟩
      · exact ⟨row, List.mem_append.mpr (Or.inr new), facts⟩
    rcases present with ⟨row, listed, owner, active, named⟩
    refine ⟨retire gone row, List.mem_map_of_mem listed, ?_, ?_, ?_⟩
    · rw [retire_generatedByGroup, owner]
    · exact (retire_active gone row).mpr ⟨active, named ▸ kept⟩
    · rw [retire_name, named]

theorem find_written (written : Written api later added gone) {slo : SLO}
    (found : api.slos.find key = some slo) : later.slos.find key = some (retire gone slo) := by
  have member : retire gone slo ∈ later.slos.rows := by
    rw [written]
    exact List.mem_map_of_mem (List.mem_append.mpr (Or.inl (find_mem found)))
  have stored := find_of_mem member
  rw [retire_key, find_key found] at stored
  exact stored

theorem generateSloSpecs_retire (gone : List String) (template : SLO)
    (genVariables : Dict (List String)) (group : Nat) :
    generateSloSpecs (retire gone template) genVariables group =
      generateSloSpecs template genVariables group := by
  unfold retire
  split <;> rfl

/-- A group that a request does not touch, and whose names it does not touch either, goes
on to correspond. -/
theorem corresponds_kept (written : Written api later added gone) {group : SLOGroup}
    (names : forall name, name ∈ later.generatedNames group.id ↔ name ∈ api.generatedNames group.id)
    (before : Exists fun template => Exists fun specs =>
      api.slos.find group.templateSlo = some template ∧
      generateSloSpecs template group.genVariables group.id = .ok specs ∧
      forall name, name ∈ api.generatedNames group.id ↔ name ∈ specs.map SLOCreateParams.name) :
    Exists fun template => Exists fun specs =>
      later.slos.find group.templateSlo = some template ∧
      generateSloSpecs template group.genVariables group.id = .ok specs ∧
      forall name, name ∈ later.generatedNames group.id ↔ name ∈ specs.map SLOCreateParams.name := by
  rcases before with ⟨template, specs, found, generated, same⟩
  refine ⟨retire gone template, specs, find_written written found, ?_, fun name => ?_⟩
  · rw [generateSloSpecs_retire, generated]
  · rw [names, same]

theorem generatedNames_kept (written : Written api later added gone)
    (notAdded : forall row, row ∈ added -> row.generatedByGroup ≠ some group)
    (notGone : forall name, name ∈ gone -> name ∉ api.generatedNames group) (name : String) :
    name ∈ later.generatedNames group ↔ name ∈ api.generatedNames group := by
  rw [generatedNames_written written]
  constructor
  · rintro ⟨_, old | ⟨row, member, owner, _⟩⟩
    · exact old
    · exact absurd owner (notAdded row member)
  · intro old
    exact ⟨fun isGone => notGone name isGone old, Or.inl old⟩

/-! ## Tables of values -/

def Rectangular (genVariables : Dict (List String)) (rows : Nat) : Prop :=
  genVariables.entries ≠ [] ∧ 0 < rows ∧
    forall entry, entry ∈ genVariables.entries -> entry.2.length = rows

theorem validateGenVariables_iff (genVariables : Dict (List String)) :
    validateGenVariables genVariables = .ok () ↔
      Exists fun rows => Rectangular genVariables rows ∧
        rows = (genVariables.entries.head?.map fun entry => entry.2.length).getD 0 := by
  unfold validateGenVariables Rectangular
  cases genVariables.entries with
  | nil =>
      constructor
      · intro impossible
        cases impossible
      · rintro ⟨_, ⟨impossible, _⟩, _⟩
        exact absurd rfl impossible
  | cons first others =>
      change (if _ then _ else if _ then _ else _) = _ ↔ Exists fun rows => _ ∧ rows = first.2.length
      by_cases empty : ((first :: others).any fun entry => entry.2.isEmpty) = true
      · rw [if_pos empty]
        refine iff_of_false (fun impossible => by cases impossible) ?_
        rintro ⟨rows, ⟨_, positive, lengths⟩, _⟩
        rcases List.any_eq_true.mp empty with ⟨entry, member, isEmpty⟩
        have none := lengths entry member
        rw [List.isEmpty_iff.mp isEmpty] at none
        exact absurd none (ne_of_lt positive)
      · rw [if_neg empty]
        by_cases uneven : (others.any fun entry => entry.2.length ≠ first.2.length) = true
        · rw [if_pos uneven]
          refine iff_of_false (fun impossible => by cases impossible) ?_
          rintro ⟨rows, ⟨_, _, lengths⟩, same⟩
          rcases List.any_eq_true.mp uneven with ⟨entry, member, different⟩
          have equal := lengths entry (List.mem_cons_of_mem first member)
          rw [same] at equal
          exact of_decide_eq_true different equal
        · rw [if_neg uneven]
          refine iff_of_true rfl ⟨first.2.length, ⟨List.cons_ne_nil _ _, ?_, ?_⟩, rfl⟩
          · refine List.length_pos_iff.mpr fun none => empty ?_
            exact List.any_eq_true.mpr ⟨first, List.mem_cons_self, List.isEmpty_iff.mpr none⟩
          · intro entry member
            rcases List.mem_cons.mp member with same | later
            · rw [same]
            · by_contra different
              exact uneven (List.any_eq_true.mpr ⟨entry, later, decide_eq_true different⟩)

theorem generateSloSpecs_iff :
    generateSloSpecs template genVariables group = .ok specs ↔
      Exists fun rows => Rectangular genVariables rows ∧ specs = (List.range rows).map fun index =>
        generatedSlo template group (genRow genVariables index) := by
  unfold generateSloSpecs
  rw [bind_eq_ok]
  constructor
  · rintro ⟨_, valid, made⟩
    rcases (validateGenVariables_iff genVariables).mp valid with ⟨rows, rectangular, same⟩
    cases made
    exact ⟨rows, rectangular, by rw [<- same]⟩
  · rintro ⟨rows, rectangular, made⟩
    have first : (genVariables.entries.head?.map fun entry => entry.2.length).getD 0 = rows := by
      rcases List.exists_cons_of_ne_nil rectangular.1 with ⟨entry, others, same⟩
      rw [same]
      exact rectangular.2.2 entry (same ▸ List.mem_cons_self)
    refine ⟨(), (validateGenVariables_iff genVariables).mpr ⟨rows, rectangular, first.symm⟩, ?_⟩
    rw [first, made]
    rfl

def unshrunk (rowIdx index : Nat) : Nat :=
  if index < rowIdx then index else index + 1

theorem genRow_shrink (genVariables : Dict (List String)) (rowIdx index : Nat) :
    genRow (shrinkGenVariables genVariables rowIdx) index =
      genRow genVariables (unshrunk rowIdx index) := by
  have columns : (shrinkGenVariables genVariables rowIdx).entries.map
      (fun entry => (entry.1, entry.2.getD index "")) =
        genVariables.entries.map fun entry =>
          (entry.1, entry.2.getD (unshrunk rowIdx index) "") := by
    unfold shrinkGenVariables changeValues
    rw [List.map_map]
    refine List.map_congr_left fun entry _ => ?_
    change (entry.1, (entry.2.eraseIdx rowIdx).getD index "") = _
    rw [List.getD_eq_getElem?_getD, List.getD_eq_getElem?_getD, List.getElem?_eraseIdx]
    unfold unshrunk
    split <;> rfl
  unfold genRow
  rw [columns]

theorem rectangular_shrink (rectangular : Rectangular genVariables (rows + 1))
    (inside : rowIdx < rows + 1) (positive : 0 < rows) :
    Rectangular (shrinkGenVariables genVariables rowIdx) rows := by
  refine ⟨fun none => rectangular.1 (List.map_eq_nil_iff.mp none), positive, fun entry member => ?_⟩
  rcases List.mem_map.mp member with ⟨column, listed, same⟩
  subst same
  change (column.2.eraseIdx rowIdx).length = rows
  have length := rectangular.2.2 column listed
  rw [List.length_eraseIdx_of_lt (by omega), length]
  rfl

theorem hasRows_shrink (rectangular : Rectangular genVariables rows) (inside : rowIdx < rows) :
    (!(shrinkGenVariables genVariables rowIdx).entries.isEmpty &&
        (shrinkGenVariables genVariables rowIdx).entries.all fun entry => !entry.2.isEmpty) = true ↔
      1 < rows := by
  have lengths : forall entry, entry ∈ (shrinkGenVariables genVariables rowIdx).entries ->
      entry.2.length = rows - 1 := by
    intro entry member
    rcases List.mem_map.mp member with ⟨column, listed, same⟩
    subst same
    change (column.2.eraseIdx rowIdx).length = rows - 1
    have length := rectangular.2.2 column listed
    rw [List.length_eraseIdx_of_lt (by omega), length]
  have columns : (shrinkGenVariables genVariables rowIdx).entries ≠ [] :=
    fun none => rectangular.1 (List.map_eq_nil_iff.mp none)
  rw [Bool.and_eq_true, List.all_eq_true, Bool.not_eq_true', List.isEmpty_eq_false_iff]
  constructor
  · rintro ⟨_, filled⟩
    rcases List.exists_mem_of_ne_nil _ columns with ⟨entry, member⟩
    have positive := filled entry member
    rw [Bool.not_eq_true', List.isEmpty_eq_false_iff, <- List.length_pos_iff,
      lengths entry member] at positive
    omega
  · intro several
    refine ⟨columns, fun entry member => ?_⟩
    rw [Bool.not_eq_true', List.isEmpty_eq_false_iff, <- List.length_pos_iff, lengths entry member]
    omega

theorem eraseIdx_map_range {Value : Type} (value : Nat -> Value) (inside : rowIdx < rows + 1) :
    ((List.range (rows + 1)).map value).eraseIdx rowIdx =
      (List.range rows).map fun index => value (unshrunk rowIdx index) := by
  refine List.ext_getElem ?_ fun index _ _ => ?_
  · rw [List.length_eraseIdx_of_lt (by simpa using inside)]
    simp
  · simp only [List.getElem_eraseIdx, List.getElem_map, List.getElem_range, unshrunk]
    by_cases before : index < rowIdx
    · rw [dif_pos before, if_pos before]
    · rw [dif_neg before, if_neg before]

theorem generateSloSpecs_shrink
    (generated : generateSloSpecs template genVariables group = .ok specs)
    (inside : rowIdx < specs.length) (others : 1 < specs.length) :
    generateSloSpecs template (shrinkGenVariables genVariables rowIdx) group =
      .ok (specs.eraseIdx rowIdx) := by
  rcases generateSloSpecs_iff.mp generated with ⟨rows, rectangular, made⟩
  have length : specs.length = rows := by
    rw [made, List.length_map, List.length_range]
  rw [length] at inside others
  rcases Nat.exists_eq_add_one_of_ne_zero (ne_of_gt rectangular.2.1) with ⟨fewer, same⟩
  subst same
  refine generateSloSpecs_iff.mpr ⟨fewer, rectangular_shrink rectangular inside (by omega), ?_⟩
  rw [made, eraseIdx_map_range _ inside]
  refine List.map_congr_left fun index _ => ?_
  rw [genRow_shrink]

theorem mem_eraseIdx_iff {names : List String} {index : Nat} (there : names[index]? = some name)
    (once : names.count name ≤ 1) (other : String) :
    other ∈ names.eraseIdx index ↔ other ≠ name ∧ other ∈ names := by
  induction names generalizing index with
  | nil => cases there
  | cons head rest ih =>
      cases index with
      | zero =>
          cases there
          have gone : name ∉ rest := by
            rw [List.count_cons_self] at once
            exact List.count_eq_zero.mp (by omega)
          rw [List.eraseIdx_cons_zero, List.mem_cons]
          constructor
          · intro member
            exact ⟨fun same => gone (same ▸ member), Or.inr member⟩
          · rintro ⟨different, same | member⟩
            · exact absurd same different
            · exact member
      | succ index =>
          rw [List.getElem?_cons_succ] at there
          have inside : name ∈ rest := List.mem_of_getElem? there
          have present : 0 < rest.count name := List.count_pos_iff.mpr inside
          have different : head ≠ name := by
            intro same
            rw [same, List.count_cons_self] at once
            omega
          rw [List.count_cons_of_ne different] at once
          rw [List.eraseIdx_cons_succ, List.mem_cons, ih there once, List.mem_cons]
          constructor
          · rintro (same | ⟨unequal, member⟩)
            · exact ⟨same ▸ different, Or.inl same⟩
            · exact ⟨unequal, Or.inr member⟩
          · rintro ⟨unequal, same | member⟩
            · exact Or.inl same
            · exact Or.inr ⟨unequal, member⟩

/-! ## Steps -/

theorem spec_owner (generated : generateSloSpecs template genVariables group = .ok specs)
    {spec : SLOCreateParams} (member : spec ∈ specs) : spec.generatedByGroup = some group := by
  rcases generateSloSpecs_mem generated member with ⟨values, same⟩
  rw [same]
  rfl

theorem activeSloGroup_eq_some {group : SLOGroup} (found : api.activeSloGroup name = some group) :
    api.sloGroups.find group.id = some group ∧ group.active = true := by
  have selected := List.find?_some found
  rw [Bool.and_eq_true] at selected
  exact ⟨find_of_mem (List.mem_of_find?_eq_some found), selected.2⟩

theorem latestSlo_isSome_of_active {slo : SLO} (member : slo ∈ api.slos.rows)
    (active : slo.active = true) : api.latestSlo slo.name ≠ none := by
  intro none
  rw [latestSlo_eq] at none
  have empty : (versionsOf api slo.name).filter SLO.active = [] := by
    cases rows : (versionsOf api slo.name).filter SLO.active with
    | nil => rfl
    | cons head rest =>
        rw [rows, Latest.newest_cons] at none
        split at none
        · cases none
        · split at none <;> cases none
  have listed : slo ∈ (versionsOf api slo.name).filter SLO.active :=
    List.mem_filter.mpr ⟨mem_versionsOf.mpr ⟨member, rfl⟩, active⟩
  rw [empty] at listed
  exact List.not_mem_nil listed

theorem loadTemplateSlo_eq_ok {version : Option Int}
    (loaded : api.loadTemplateSlo name version = .ok template) :
    api.slos.find template.key = some template := by
  unfold Api.loadTemplateSlo at loaded
  rcases bind_eq_ok.mp loaded with ⟨found, isFound, checked⟩
  split at checked
  · cases checked
    have stored := orRaise_eq_ok.mp isFound
    cases version with
    | some version => exact find_of_mem (find_mem stored)
    | none => exact find_of_mem (latestSlo_mem stored).1
  · cases checked

theorem effectiveTemplate_eq_ok {body : SLOGroupUpdate} {current : SLO}
    (isCurrent : api.slos.find key = some current)
    (effective : api.effectiveTemplate body current = .ok template) :
    api.slos.find template.key = some template := by
  unfold Api.effectiveTemplate at effective
  split at effective
  · cases effective
    exact find_of_mem (find_mem isCurrent)
  · exact loadTemplateSlo_eq_ok effective

section Steps

variable {api later : Api}

theorem create_added {body : SLOGroupCreate} (record : GroupCreation body api later) {row : SLO}
    (member : row ∈ record.added) : Exists fun spec => spec ∈ record.specs ∧
      row.name = spec.name ∧ row.active = true ∧ row.generatedByGroup = some api.freshGroupId := by
  rcases mem_related record.each.flip member with ⟨spec, listed, middle, _, made⟩
  subst made
  exact ⟨spec, listed, rfl, rfl, spec_owner record.generated listed⟩

theorem create_consistent {body : SLOGroupCreate} (consistent : Consistent api)
    (record : GroupCreation body api later) : Consistent later := by
  let new := createdGroup body record.template api.freshGroupId
  have groups : later.sloGroups = api.sloGroups.insert new record.fresh :=
    congrArg Api.sloGroups record.left
  have oldGroup : forall group, group ∈ api.sloGroups.rows -> api.freshGroupId ≠ group.id := by
    intro group member same
    have absent := record.fresh
    change api.sloGroups.find api.freshGroupId = none at absent
    rw [same, find_of_mem member] at absent
    cases absent
  have kept : forall group, group ∈ api.sloGroups.rows -> forall name,
      name ∈ later.generatedNames group.id ↔ name ∈ api.generatedNames group.id := by
    intro group member name
    refine generatedNames_kept record.written (fun row isNew owner => ?_)
      (fun name gone => absurd gone List.not_mem_nil) name
    rcases create_added record isNew with ⟨_, _, _, _, fresh⟩
    rw [fresh] at owner
    exact oldGroup group member (Option.some.inj owner)
  have before : forall name, name ∉ api.generatedNames api.freshGroupId := by
    intro name generated
    rcases mem_generatedNames.mp generated with ⟨slo, member, owner, _⟩
    exact consistent.known slo _ member owner record.fresh
  have unused : forall name group, name ∈ api.generatedNames group ->
      name ∉ record.specs.map SLOCreateParams.name := by
    intro name group generated listed
    rcases List.mem_map.mp listed with ⟨spec, member, named⟩
    rcases mem_generatedNames.mp generated with ⟨slo, inside, _, active, sloNamed⟩
    refine latestSlo_isSome_of_active inside active ?_
    rw [sloNamed, <- named]
    exact record.noCollision spec member
  have addedNames : forall name group, (Exists fun row => row ∈ record.added ∧
      row.generatedByGroup = some group ∧ row.active = true ∧ row.name = name) ↔
        group = api.freshGroupId ∧ name ∈ record.specs.map SLOCreateParams.name := by
    intro name group
    rw [<- names_of_each record.each, List.mem_map]
    constructor
    · rintro ⟨row, member, owner, _, named⟩
      rcases create_added record member with ⟨_, _, _, _, fresh⟩
      rw [fresh] at owner
      exact ⟨(Option.some.inj owner).symm, row, member, named⟩
    · rintro ⟨same, row, member, named⟩
      rcases create_added record member with ⟨_, _, _, active, fresh⟩
      exact ⟨row, member, same ▸ fresh, active, named⟩
  have names : forall group name, name ∈ later.generatedNames group ↔
      name ∈ api.generatedNames group ∨
        (group = api.freshGroupId ∧ name ∈ record.specs.map SLOCreateParams.name) := by
    intro group name
    rw [generatedNames_written record.written, addedNames]
    exact and_iff_right List.not_mem_nil
  refine ⟨⟨fun group member active => ?_, fun group member inactive name => ?_⟩, ?_, ?_⟩
  · rw [groups, mem_insert] at member
    rcases member with old | isNew
    · exact corresponds_kept record.written (kept group old)
        (consistent.corresponds.active group old active)
    · subst isNew
      refine ⟨retire [] record.template, record.specs, ?_, ?_, fun name => ?_⟩
      · exact find_written record.written (loadTemplateSlo_eq_ok record.loaded)
      · rw [generateSloSpecs_retire]
        exact record.generated
      · rw [names]
        exact ⟨fun either => either.elim (fun old => absurd old (before name)) And.right,
          fun listed => Or.inr ⟨rfl, listed⟩⟩
  · rw [groups, mem_insert] at member
    rcases member with old | isNew
    · rw [kept group old]
      exact consistent.corresponds.inactive group old inactive name
    · subst isNew
      cases inactive
  · intro name first second inFirst inSecond
    rcases (names first name).mp inFirst with oldFirst | ⟨firstFresh, listed⟩
    · rcases (names second name).mp inSecond with oldSecond | ⟨_, listed⟩
      · exact consistent.oneOwner name first second oldFirst oldSecond
      · exact absurd listed (unused name first oldFirst)
    · rcases (names second name).mp inSecond with oldSecond | ⟨secondFresh, _⟩
      · exact absurd listed (unused name second oldSecond)
      · exact firstFresh.trans secondFresh.symm
  · intro slo group member owner
    rw [groups, find_insert]
    split
    · exact Option.some_ne_none _
    · rename_i other
      rw [record.written, retire_nil_eq, List.map_id] at member
      rcases List.mem_append.mp member with old | isNew
      · exact consistent.known slo group old owner
      · rcases create_added record isNew with ⟨_, _, _, _, fresh⟩
        rw [fresh] at owner
        exact absurd (Option.some.inj owner).symm other

/-- The rule for a request on a group that exists: it deactivates names of the group, and
what it adds is standalone, or has names of no other group.  Then only the group itself
remains to be looked at. -/
theorem consistent_of_request {group : SLOGroup} (change : SLOGroup -> SLOGroup)
    (keeps : forall row, (change row).id = row.id) {added : List SLO} {gone : List String}
    (consistent : Consistent api) (isGroup : api.sloGroups.find group.id = some group)
    (groups : later.sloGroups = api.sloGroups.update group.id change keeps)
    (written : Written api later added gone)
    (goneOwn : forall name, name ∈ gone -> name ∈ api.generatedNames group.id)
    (addedOwn : forall row owner, row ∈ added -> row.generatedByGroup = some owner ->
      owner = group.id ∧ forall other, row.name ∈ api.generatedNames other -> other = group.id)
    (active : (change group).active = true -> Exists fun template => Exists fun specs =>
      later.slos.find (change group).templateSlo = some template ∧
      generateSloSpecs template (change group).genVariables group.id = .ok specs ∧
      forall name, name ∈ later.generatedNames group.id ↔ name ∈ specs.map SLOCreateParams.name)
    (inactive : (change group).active = false ->
      forall name, name ∉ later.generatedNames group.id) : Consistent later := by
  have kept : forall other, other ≠ group.id -> forall name,
      name ∈ later.generatedNames other ↔ name ∈ api.generatedNames other := by
    intro other different name
    refine generatedNames_kept written (fun row isNew owner => ?_) (fun name isGone others => ?_) name
    · exact different (addedOwn row other isNew owner).1
    · exact different (consistent.oneOwner name other group.id others (goneOwn name isGone))
  have rows : forall row, row ∈ later.sloGroups.rows ->
      (row ∈ api.sloGroups.rows ∧ row.id ≠ group.id) ∨ row = change group := by
    intro row member
    rw [groups] at member
    rcases (mem_update _ _ change keeps row).mp member with old | ⟨found, isFound, same⟩
    · exact Or.inl old
    · rw [isGroup] at isFound
      cases isFound
      exact Or.inr same.symm
  refine ⟨⟨fun row member isActive => ?_, fun row member isInactive => ?_⟩, ?_, ?_⟩
  · rcases rows row member with ⟨old, different⟩ | same
    · exact corresponds_kept written (kept row.id different)
        (consistent.corresponds.active row old isActive)
    · subst same
      rw [keeps]
      exact active isActive
  · rcases rows row member with ⟨old, different⟩ | same
    · intro name generated
      exact consistent.corresponds.inactive row old isInactive name
        ((kept row.id different name).mp generated)
    · subst same
      rw [keeps]
      exact inactive isInactive
  · intro name first second inFirst inSecond
    rcases (generatedNames_written written first name).mp inFirst with
      ⟨_, oldFirst | ⟨firstRow, firstNew, firstOwner, _, firstNamed⟩⟩
    · rcases (generatedNames_written written second name).mp inSecond with
        ⟨_, oldSecond | ⟨secondRow, secondNew, secondOwner, _, secondNamed⟩⟩
      · exact consistent.oneOwner name first second oldFirst oldSecond
      · rcases addedOwn secondRow second secondNew secondOwner with ⟨isOwn, apart⟩
        rw [secondNamed] at apart
        exact (apart first oldFirst).trans isOwn.symm
    · rcases addedOwn firstRow first firstNew firstOwner with ⟨isOwn, apart⟩
      rw [firstNamed] at apart
      rcases (generatedNames_written written second name).mp inSecond with
        ⟨_, oldSecond | ⟨secondRow, secondNew, secondOwner, _⟩⟩
      · exact isOwn.trans (apart second oldSecond).symm
      · exact isOwn.trans (addedOwn secondRow second secondNew secondOwner).1.symm
  · intro slo owner member isOwner
    rw [groups, find_update]
    have present : api.sloGroups.find owner ≠ none := by
      rw [written] at member
      rcases List.mem_map.mp member with ⟨row, listed, same⟩
      subst same
      rw [retire_generatedByGroup] at isOwner
      rcases List.mem_append.mp listed with old | isNew
      · exact consistent.known row owner old isOwner
      · rw [(addedOwn row owner isNew isOwner).1, isGroup]
        exact Option.some_ne_none group
    split
    · exact fun absent => present (Option.map_eq_none_iff.mp absent)
    · exact present

theorem update_consistent {name : String} {body : SLOGroupUpdate} (consistent : Consistent api)
    (record : GroupUpdate name body api later) (apart : KeepsApart api (.update name body)) :
    Consistent later := by
  rcases activeSloGroup_eq_some record.isGroup with ⟨isGroup, isActive⟩
  have added : forall row, row ∈ (plannedVersions record.plan).map api.nextSlo ->
      Exists fun spec => spec ∈ record.specs ∧ row.name = spec.name ∧ row.active = true ∧
        row.generatedByGroup = some record.group.id := by
    intro row member
    rcases List.mem_map.mp member with ⟨params, planned, made⟩
    subst made
    rw [record.isPlan] at planned
    rcases mem_stored _ _ _ _ _ planned with ⟨spec, listed, named, same⟩
    refine ⟨spec, listed, named.symm, rfl, ?_⟩
    have owner := spec_owner record.generated listed
    change params.generatedByGroup = _
    rw [same]
    exact owner
  have gone : forall written, written ∈ record.plan.toDeactivate ↔
      written ∈ api.generatedNames record.group.id ∧
        written ∉ record.specs.map SLOCreateParams.name := by
    intro written
    rw [record.isPlan, mem_toDeactivate]
    rfl
  have names : forall written, written ∈ later.generatedNames record.group.id ↔
      written ∈ record.specs.map SLOCreateParams.name := by
    intro written
    rw [generatedNames_written record.written, gone]
    constructor
    · rintro ⟨kept, old | ⟨row, isNew, _, _, named⟩⟩
      · by_contra unlisted
        exact kept ⟨old, unlisted⟩
      · rcases added row isNew with ⟨spec, listed, rowNamed, _⟩
        exact List.mem_map.mpr ⟨spec, listed, rowNamed.symm.trans named⟩
    · intro listed
      refine ⟨fun isGone => isGone.2 listed, Or.inr ?_⟩
      have stored : written ∈ ((plannedVersions record.plan).map api.nextSlo).map SLO.name := by
        rw [map_name_nextSlo, record.isPlan, mem_stored_names]
        exact listed
      rcases List.mem_map.mp stored with ⟨row, isNew, named⟩
      rcases added row isNew with ⟨_, _, _, active, owner⟩
      exact ⟨row, isNew, owner, active, named⟩
  refine consistent_of_request (body.apply record.template) (fun _ => rfl) consistent isGroup
    (congrArg Api.sloGroups record.left) record.written
    (fun written isGone => ((gone written).mp isGone).1) (fun row owner isNew isOwner => ?_)
    (fun _ => ?_) (fun impossible => ?_)
  · rcases added row isNew with ⟨spec, listed, named, _, rowOwner⟩
    rw [rowOwner] at isOwner
    refine ⟨(Option.some.inj isOwner).symm, ?_⟩
    rw [named]
    exact apart record.group record.template record.specs record.isGroup (updatedSpecs_eq record)
      spec listed
  · refine ⟨retire record.plan.toDeactivate record.template, record.specs, ?_, ?_, names⟩
    · exact find_written record.written (effectiveTemplate_eq_ok record.isCurrent record.isTemplate)
    · rw [generateSloSpecs_retire]
      exact record.generated
  · have stays : (body.apply record.template record.group).active = true := isActive
    rw [stays] at impossible
    cases impossible

theorem delete_consistent {name : String} (consistent : Consistent api)
    (record : GroupDeletion name api later) : Consistent later := by
  rcases activeSloGroup_eq_some record.isGroup with ⟨isGroup, _⟩
  refine consistent_of_request SLOGroup.deactivated (fun _ => rfl) consistent isGroup
    (congrArg Api.sloGroups record.left) record.written (fun _ isGone => isGone)
    (fun row _ isNew => absurd isNew List.not_mem_nil) (fun impossible => by cases impossible)
    fun _ written generated => ?_
  rcases (generatedNames_written record.written _ written).mp generated with
    ⟨kept, old | ⟨row, isNew, _⟩⟩
  · exact kept old
  · exact absurd isNew List.not_mem_nil

theorem extract_consistent {name : String} {body : ExtractRequest} (consistent : Consistent api)
    (record : GroupExtraction name body api later)
    (apart : KeepsApart api (.extract name body)) : Consistent later := by
  rcases activeSloGroup_eq_some record.isGroup with ⟨isGroup, isActive⟩
  have once := apart record.group record.template record.specs record.isGroup record.isTemplate
    record.generated
  have before : forall written, written ∈ api.generatedNames record.group.id ↔
      written ∈ record.specs.map SLOCreateParams.name := by
    rcases consistent.corresponds.active record.group (find_mem isGroup) isActive with
      ⟨template, specs, found, generated, same⟩
    rw [record.isTemplate] at found
    cases found
    rw [record.generated] at generated
    cases generated
    exact same
  have owned : body.sloName ∈ api.generatedNames record.group.id := by
    rcases latestSlo_mem record.isGenSlo with ⟨member, named, active⟩
    exact mem_generatedNames.mpr ⟨record.genSlo, member, record.owned, active, named⟩
  have names : forall written, written ∈ later.generatedNames record.group.id ↔
      written ≠ body.sloName ∧ written ∈ record.specs.map SLOCreateParams.name := by
    intro written
    rw [generatedNames_written record.written, List.mem_singleton, before]
    refine and_congr_right fun _ => or_iff_left ?_
    rintro ⟨row, isNew, owner, _⟩
    rw [List.mem_singleton.mp isNew] at owner
    cases owner
  rcases List.mem_map.mp ((before body.sloName).mp owned) with ⟨spec, listed, named⟩
  cases found : record.specs.findIdx? fun spec => spec.name = body.sloName with
  | none => exact absurd (decide_eq_true named) (List.findIdx?_eq_none_iff.mp found spec listed ▸ by simp)
  | some rowIdx =>
      rcases List.findIdx?_eq_some_iff_getElem.mp found with ⟨inside, isNamed, _⟩
      have there : (record.specs.map SLOCreateParams.name)[rowIdx]? = some body.sloName := by
        rw [List.getElem?_map, List.getElem?_eq_getElem inside]
        exact congrArg some (of_decide_eq_true isNamed)
      rcases generateSloSpecs_iff.mp record.generated with ⟨rows, rectangular, made⟩
      have length : record.specs.length = rows := by
        rw [made, List.length_map, List.length_range]
      have table : tableWithout record.group.genVariables record.specs body.sloName =
          shrinkGenVariables record.group.genVariables rowIdx := by
        unfold tableWithout
        rw [found]
      have several := hasRows_shrink rectangular (length ▸ inside)
      refine consistent_of_request
        (SLOGroup.shrunk (tableWithout record.group.genVariables record.specs body.sloName))
        (SLOGroup.shrunk_id _) consistent isGroup (congrArg Api.sloGroups record.left) record.written
        (fun written isGone => List.mem_singleton.mp isGone ▸ owned)
        (fun row owner isNew isOwner => ?_) (fun staysActive => ?_) (fun isInactive written => ?_)
      · rw [List.mem_singleton.mp isNew] at isOwner
        cases isOwner
      · rw [table] at staysActive ⊢
        unfold SLOGroup.shrunk at staysActive ⊢
        split at staysActive
        · rename_i left
          have others : 1 < record.specs.length := length ▸ several.mp left
          rw [if_pos left]
          refine ⟨retire [body.sloName] record.template, record.specs.eraseIdx rowIdx, ?_, ?_, ?_⟩
          · exact find_written record.written record.isTemplate
          · rw [generateSloSpecs_retire]
            exact generateSloSpecs_shrink record.generated inside others
          · intro written
            rw [names, <- mem_eraseIdx_iff there once, List.eraseIdx_map]
        · cases staysActive
      · rw [table] at isInactive
        unfold SLOGroup.shrunk at isInactive
        split at isInactive
        · rw [isActive] at isInactive
          cases isInactive
        · rename_i empty
          have single : record.specs.length = 1 := by
            have notSeveral : ¬ 1 < rows := fun many => empty (several.mpr many)
            omega
          rcases List.length_eq_one_iff.mp single with ⟨only, same⟩
          rw [names]
          rintro ⟨different, member⟩
          rw [same, List.map_singleton, List.mem_singleton] at member
          rw [same, List.mem_singleton] at listed
          exact different (member.trans (listed ▸ named))

theorem step_consistent {request : GroupRequest} (consistent : Consistent api)
    (apart : KeepsApart api request) (stepped : GroupRequest.step api request = some later) :
    Consistent later := by
  have accepted := toOption_eq_some.mp stepped
  cases request with
  | create body =>
      rcases create_record accepted with ⟨record⟩
      exact create_consistent consistent record
  | update name body =>
      rcases update_record accepted with ⟨record⟩
      exact update_consistent consistent record apart
  | extract name body =>
      rcases extract_record accepted with ⟨record⟩
      exact extract_consistent consistent record apart
  | delete name =>
      rcases delete_record accepted with ⟨record⟩
      exact delete_consistent consistent record

end Steps

/-! ## Runs -/

/-- From a registry without groups, groups correspond to what they have generated after
every run in which updates and extractions keep the names apart. -/
theorem run_corresponds {api final : Api} {requests : List GroupRequest}
    (noGroups : api.sloGroups.rows = [])
    (standalone : forall slo, slo ∈ api.slos.rows -> slo.generatedByGroup = none)
    (along : TransitionSystem.Along GroupRequest.step KeepsApart api requests)
    (ran : TransitionSystem.exec GroupRequest.step api requests = some final) :
    Corresponds final := by
  have nothing : forall name group, name ∉ api.generatedNames group := by
    intro name group generated
    rcases mem_generatedNames.mp generated with ⟨slo, member, owner, _⟩
    rw [standalone slo member] at owner
    cases owner
  have start : Consistent api := by
    refine ⟨⟨fun group member => ?_, fun group member => ?_⟩, ?_, ?_⟩
    · rw [noGroups] at member
      exact absurd member List.not_mem_nil
    · rw [noGroups] at member
      exact absurd member List.not_mem_nil
    · exact fun name first second inFirst => absurd inFirst (nothing name first)
    · intro slo group member owner
      rw [standalone slo member] at owner
      cases owner
  exact (TransitionSystem.exec_preserves_along
    (fun _ _ _ consistent apart stepped => step_consistent consistent apart stepped)
    start along ran).corresponds

def tierApi : Api :=
  after [createSlo {
    name := "tier-$__gen_zone-$__gen_size"
    objectives := [{ sli := "latency" }]
    kind := "template" }]

def tierGroup (zones : List String) : GroupRequest :=
  .create {
    name := "tiers"
    templateSloName := "tier-$__gen_zone-$__gen_size"
    templateSloVersion := 1
    genVariables := (∅ : Dict (List String)).insert "zone" zones }

def tierRequests : List GroupRequest :=
  [tierGroup ["north", "south"],
    .extract "tiers" { sloName := "tier-north-$__gen_size", newName := "north" }]

/-- A group of two SLOs, one of which is extracted. -/
theorem tier_corresponds : Exists fun final =>
    TransitionSystem.exec GroupRequest.step tierApi tierRequests = some final ∧ Corresponds final := by
  have noGroups : tierApi.sloGroups.rows = [] := by decide +kernel
  have standalone : forall slo, slo ∈ tierApi.slos.rows -> slo.generatedByGroup = none := by
    decide +kernel
  have accepted : (TransitionSystem.exec GroupRequest.step tierApi tierRequests).isSome = true := by
    decide +kernel
  have created : (GroupRequest.step tierApi (tierGroup ["north", "south"])).isSome = true := by
    decide +kernel
  have once : forall api, api ∈ GroupRequest.step tierApi (tierGroup ["north", "south"]) ->
      forall group, group ∈ api.activeSloGroup "tiers" ->
      forall template, template ∈ api.slos.find group.templateSlo ->
      forall specs, specs ∈ (generateSloSpecs template group.genVariables group.id).toOption ->
        (specs.map SLOCreateParams.name).count "tier-north-$__gen_size" ≤ 1 := by decide +kernel
  rcases Option.isSome_iff_exists.mp accepted with ⟨final, ran⟩
  rcases Option.isSome_iff_exists.mp created with ⟨api, stepped⟩
  refine ⟨final, ran, run_corresponds noGroups standalone ?_ ran⟩
  refine (TransitionSystem.along_cons_iff stepped).mpr ⟨trivial, ?_, ?_⟩
  · intro group template specs isGroup isTemplate generated
    exact once api stepped group isGroup template isTemplate specs
      (toOption_eq_some.mpr generated)
  · split <;> trivial

def DistinctNames (api : Api) : Prop :=
  forall group template specs, group ∈ api.sloGroups.rows -> group.active = true ->
    api.slos.find group.templateSlo = some template ->
    generateSloSpecs template group.genVariables group.id = .ok specs ->
    (specs.map SLOCreateParams.name).Nodup

def PlaceholdersReplaced (api : Api) : Prop :=
  forall group template specs, group ∈ api.sloGroups.rows -> group.active = true ->
    api.slos.find group.templateSlo = some template ->
    generateSloSpecs template group.genVariables group.id = .ok specs ->
    forall spec, spec ∈ specs -> ¬ genMarker <:+: spec.name.toList

/-- Two rows give the same name, and one of the placeholders has no column. -/
theorem tier_not_distinct : Exists fun final =>
    TransitionSystem.exec GroupRequest.step tierApi [tierGroup ["north", "north"]] = some final ∧
      ¬ DistinctNames final ∧ ¬ PlaceholdersReplaced final := by
  have facts : ((TransitionSystem.exec GroupRequest.step tierApi [tierGroup ["north", "north"]]).bind
      fun final => (final.activeSloGroup "tiers").bind fun group =>
        (final.slos.find group.templateSlo).bind fun template =>
          (generateSloSpecs template group.genVariables group.id).toOption.map fun specs =>
            specs.map SLOCreateParams.name) =
      some ["tier-north-$__gen_size", "tier-north-$__gen_size"] := by decide +kernel
  rcases Option.bind_eq_some_iff.mp facts with ⟨final, ran, facts⟩
  rcases Option.bind_eq_some_iff.mp facts with ⟨group, isGroup, facts⟩
  rcases Option.bind_eq_some_iff.mp facts with ⟨template, isTemplate, facts⟩
  rcases Option.map_eq_some_iff.mp facts with ⟨specs, made, names⟩
  have generated := toOption_eq_some.mp made
  rcases activeSloGroup_eq_some isGroup with ⟨stored, active⟩
  refine ⟨final, ran, fun distinct => ?_, fun replaced => ?_⟩
  · have nodup := distinct group template specs (find_mem stored) active isTemplate generated
    rw [names] at nodup
    exact absurd nodup (by decide)
  · have listed : "tier-north-$__gen_size" ∈ specs.map SLOCreateParams.name := by
      rw [names]
      exact List.mem_cons_self
    rcases List.mem_map.mp listed with ⟨spec, member, named⟩
    have absent := replaced group template specs (find_mem stored) active isTemplate
      generated spec member
    rw [named] at absent
    exact absurd ⟨"tier-north-".toList, "size".toList, by decide⟩ absent

end Catalog
end Tropek
