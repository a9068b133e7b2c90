import Tropek.Settings.Configuration

namespace Tropek
namespace Settings

open Library KeyedTable Fallible

/-!
# Which accepted values the readers can read

The validator of integers looks at digits only: of any number of dashes, and of digits that
are not decimal.  What `int` then reads of an accepted text is what is written plainly, with
one dash at most, decimal digits, and no more of them than the interpreter's limit; any other
accepted text makes every reader of the change point settings raise, whichever setting it
needs.  And an integer may be too large for the column it is copied to, or negative where
the history is limited by it.

A run of requests is followed from a table that can be read.
-/

structure PutRequest where
  name : String
  value : String
deriving DecidableEq, Repr

section Requests

variable {F : Type} (python : Python F)

/-- `PUT /configuration/{name}`: what is refused leaves the table. -/
def putConfiguration (table : ConfigurationTable) (request : PutRequest) : ConfigurationTable :=
  match updateValue python table request.name request.value with
  | .ok changed => changed
  | .error _ => table

def putStep (table : ConfigurationTable) (request : PutRequest) : Option ConfigurationTable :=
  some (putConfiguration python table request)

end Requests

def integerSettings : List String :=
  ["window_size", "min_sample_size"]

def floatSettings : List String :=
  ["max_pvalue", "min_magnitude", "pvalue_strict_threshold", "pvalue_moderate_threshold"]

/-- Both integers are stored in a column, and the window limits the history. -/
def InRange (key : String) (number : Int) : Prop :=
  (key = "window_size" -> 0 ≤ number ∧ number ≤ 2 ^ 31 - 1) ∧
    (key = "min_sample_size" -> IsInt32 number)

instance (key : String) (number : Int) : Decidable (InRange key number) :=
  inferInstanceAs (Decidable ((_ -> _) ∧ (_ -> _)))

structure Usable {F : Type} (key : String) (value : TypedValue F) : Prop where
  integer : key ∈ integerSettings -> value.type = .int
  float : key ∈ floatSettings -> value.type = .float
  inRange : forall number, value = .int number -> InRange key number

section Conditions

variable {F : Type} (python : Python F)

/-- The entry is read as a value of its type, which the reader of the setting can use.
-/
def Sound (entry : Configuration) : Prop :=
  Exists fun value => parseTypedValue python entry.value entry.valueType = .ok value ∧
    Usable (settingKey entry.name) value

/-- An accepted text for an integer is written plainly, and its number is in range. -/
def Harmless (table : ConfigurationTable) (request : PutRequest) : Prop :=
  forall entry, table.find request.name = some entry -> entry.valueType = .int ->
    accepts python .int request.value = true ->
    Exists fun number => python.plain request.value.toList = some number ∧
      InRange (settingKey request.name) number

structure Readable (table : ConfigurationTable) : Prop where
  parsed : forall entry, entry ∈ table.rows ->
    Exists fun value => parseTypedValue python entry.value entry.valueType = .ok value ∧
      value.type = entry.valueType
  defaults : (getChangePointDefaults python table).isOk = true
  creation : forall objectives, (createSloConfigs python table objectives).isOk = true
  shown : forall stored, (getChangePointConfig python table stored).isOk = true
  changed : forall body, (upsertChangePointConfig python table body).isOk = true
  detection : forall objectives,
    (forall override, some override ∈ objectives -> 0 ≤ override.windowSize.val) ->
    (loadChangePointInputs python table objectives).isOk = true

end Conditions

section Parsing

variable {F : Type} {python : Python F}

theorem parseTypedValue_type {value : String} {valueType : ValueType} {parsed : TypedValue F}
    (returned : parseTypedValue python value valueType = .ok parsed) : parsed.type = valueType := by
  cases valueType with
  | bool =>
      cases returned
      rfl
  | int =>
      unfold parseTypedValue at returned
      cases read : python.int value.toList with
      | none =>
          rw [read] at returned
          cases returned
      | some number =>
          rw [read] at returned
          cases returned
          rfl
  | float =>
      unfold parseTypedValue at returned
      cases read : python.float value with
      | none =>
          rw [read] at returned
          cases returned
      | some number =>
          rw [read] at returned
          cases returned
          rfl
  | str =>
      cases returned
      rfl

theorem parse_int_of_plain {value : String} {number : Int} (accepted : accepts python .int value = true)
    (read : python.plain value.toList = some number) :
    parseTypedValue python value .int = .ok (.int number) := by
  have int : python.int value.toList = some number := by
    rw [PythonText.int_eq_plain accepted, read]
  unfold parseTypedValue
  dsimp only
  rw [int]
  rfl

/-- An accepted text is read, unless it is one for an integer and not written plainly. -/
theorem accepted_reads_iff {valueType : ValueType} {value : String}
    (accepted : accepts python valueType value = true) :
    (Exists fun parsed => parseTypedValue python value valueType = .ok parsed ∧ parsed.type = valueType) ↔
      (valueType = .int -> (python.plain value.toList).isSome = true) := by
  cases valueType with
  | bool => exact ⟨fun _ impossible => (by cases impossible), fun _ => ⟨_, rfl, rfl⟩⟩
  | str => exact ⟨fun _ impossible => (by cases impossible), fun _ => ⟨_, rfl, rfl⟩⟩
  | float =>
      refine ⟨fun _ impossible => (by cases impossible), fun _ => ?_⟩
      rcases Option.isSome_iff_exists.mp accepted with ⟨number, read⟩
      refine ⟨.float number, ?_, rfl⟩
      unfold parseTypedValue
      dsimp only
      rw [read]
      rfl
  | int =>
      constructor
      · rintro ⟨parsed, returned, _⟩ _
        unfold parseTypedValue at returned
        dsimp only at returned
        rw [PythonText.int_eq_plain accepted] at returned
        cases read : python.plain value.toList with
        | none =>
            rw [read] at returned
            cases returned
        | some number => rfl
      · intro plain
        rcases Option.isSome_iff_exists.mp (plain rfl) with ⟨number, read⟩
        exact ⟨.int number, parse_int_of_plain accepted read, rfl⟩

end Parsing

section Step

variable {F : Type} {python : Python F}

theorem usable_of_same {key : String} {old new : TypedValue F} (usable : Usable key old)
    (same : new.type = old.type) (range : forall number, new = .int number -> InRange key number) :
    Usable key new where
  integer member := same.trans (usable.integer member)
  float member := same.trans (usable.float member)
  inRange := range

theorem sound_changed {table : ConfigurationTable} {request : PutRequest} {entry : Configuration}
    (sound : Sound python entry) (found : table.find request.name = some entry)
    (accepted : accepts python entry.valueType request.value = true)
    (harmless : Harmless python table request) :
    Sound python { entry with value := request.value } := by
  rcases sound with ⟨old, returned, usable⟩
  have oldType := parseTypedValue_type returned
  by_cases isInt : entry.valueType = .int
  · rw [isInt] at accepted
    rcases harmless entry found isInt accepted with ⟨number, read, range⟩
    have parsed := parse_int_of_plain accepted read
    refine ⟨.int number, ?_, usable_of_same usable ?_ ?_⟩
    · change parseTypedValue python request.value entry.valueType = _
      rw [isInt, parsed]
    · rw [oldType, isInt]
      rfl
    · rintro _ same
      cases same
      rw [find_key found]
      exact range
  · rcases (accepted_reads_iff accepted).mpr (fun isInt' => absurd isInt' isInt) with ⟨new, read, newType⟩
    refine ⟨new, read, usable_of_same usable (newType.trans oldType.symm) ?_⟩
    intro number same
    rw [same] at newType
    exact absurd newType.symm isInt

theorem sound_step {table next : ConfigurationTable} {request : PutRequest}
    (sound : forall entry, entry ∈ table.rows -> Sound python entry)
    (harmless : Harmless python table request)
    (stepped : putStep python table request = some next) :
    forall entry, entry ∈ next.rows -> Sound python entry := by
  cases stepped
  unfold putConfiguration updateValue
  cases found : table.find request.name with
  | none => exact sound
  | some entry =>
      dsimp only
      by_cases accepted : accepts python entry.valueType request.value = false
      · rw [if_pos accepted]
        exact sound
      · rw [if_neg accepted]
        by_cases null : request.value.toList.contains (Char.ofNat 0) = true
        · rw [if_pos null]
          exact sound
        · rw [if_neg null]
          intro row member
          rcases (mem_update _ _ _ _ _).mp member with ⟨kept, _⟩ | ⟨old, foundOld, changed⟩
          · exact sound row kept
          · rw [found] at foundOld
            cases foundOld
            rw [<- changed]
            exact sound_changed (sound entry (find_mem found)) found
              (Bool.eq_true_of_not_eq_false accepted) harmless

end Step

section Reading

variable {F : Type} {python : Python F}

variable {table : ConfigurationTable} {defaults : Defaults F}

theorem defaults_usable (sound : forall entry, entry ∈ table.rows -> Sound python entry) :
    Exists fun defaults => getChangePointDefaults python table = .ok defaults ∧
      forall setting, setting ∈ defaults -> Usable setting.1 setting.2 := by
  have returns : (getChangePointDefaults python table).isOk = true := by
    apply (mapM_isOk _ _).mpr
    intro row member
    rcases sound row (List.mem_filter.mp member).1 with ⟨value, returned, _⟩
    exact bind_isOk.mpr ⟨value, returned, rfl⟩
  rcases (isOk_iff _).mp returns with ⟨defaults, returned⟩
  refine ⟨defaults, returned, ?_⟩
  have related := mapM_eq_ok.mp returned
  intro setting member
  rcases List.forall₂_iff_get.mp related with ⟨lengths, each⟩
  rcases List.mem_iff_get.mp member with ⟨position, same⟩
  have inRows : position.val < (table.rows.filter fun row =>
      likeStart changePointPrefix.toList row.name.toList).length := by
    rw [lengths]
    exact position.isLt
  have read := each position.val inRows position.isLt
  rcases bind_eq_ok.mp read with ⟨value, parsed, result⟩
  have inside := (List.mem_filter.mp (List.get_mem _ ⟨position.val, inRows⟩)).1
  rcases sound _ inside with ⟨other, parsedAgain, usable⟩
  rw [parsed] at parsedAgain
  cases parsedAgain
  rw [<- same]
  change Usable (List.get defaults position).1 (List.get defaults position).2
  rw [<- Except.ok.inj result]
  exact usable

theorem get_usable {key : String} {value : TypedValue F}
    (usable : forall setting, setting ∈ defaults -> Usable setting.1 setting.2)
    (found : defaults.get key = some value) : Usable key value := by
  unfold Defaults.get at found
  rcases Option.map_eq_some_iff.mp found with ⟨setting, found, same⟩
  have member := List.mem_reverse.mp (List.mem_of_find?_eq_some found)
  have key := List.find?_some found
  rw [decide_eq_true_iff] at key
  rw [<- same, <- key]
  exact usable setting member

theorem intSetting_returns (python : Python F) (key : String) (otherwise : Int)
    (usable : forall setting, setting ∈ defaults -> Usable setting.1 setting.2)
    (integer : key ∈ integerSettings) (range : InRange key otherwise) :
    Exists fun number => intSetting python defaults key otherwise = .ok number ∧ InRange key number := by
  unfold intSetting
  cases found : defaults.get key with
  | none => exact ⟨otherwise, rfl, range⟩
  | some value =>
      have fits := get_usable usable found
      have isInt := fits.integer integer
      cases value with
      | int number => exact ⟨number, rfl, fits.inRange number rfl⟩
      | bool flag => cases isInt
      | float number => cases isInt
      | str text => cases isInt

theorem floatSetting_returns (python : Python F) (key : String) (otherwise : F)
    (usable : forall setting, setting ∈ defaults -> Usable setting.1 setting.2)
    (float : key ∈ floatSettings) :
    Exists fun number => floatSetting python defaults key otherwise = .ok number := by
  unfold floatSetting
  cases found : defaults.get key with
  | none => exact ⟨otherwise, rfl⟩
  | some value =>
      have isFloat := (get_usable usable found).float float
      cases value with
      | float number => exact ⟨number, rfl⟩
      | bool flag => cases isFloat
      | int number => cases isFloat
      | str text => cases isFloat

theorem givenOr_returns {α : Type} {property : α -> Prop} {field : Option α} {otherwise : Except Failure α}
    (given : forall value, field = some value -> property value)
    (read : field = none -> Exists fun value => otherwise = .ok value ∧ property value) :
    Exists fun value => givenOr field otherwise = .ok value ∧ property value := by
  cases field with
  | none => exact read rfl
  | some value => exact ⟨value, rfl, given value rfl⟩

theorem storeInteger_isOk {number : Int} (fits : IsInt32 number) :
    (storeInteger number).isOk = true := by
  unfold storeInteger
  rw [dif_pos fits]
  rfl

theorem storeConfig_isOk {config : ChangePointConfig Int F}
    (window : IsInt32 config.windowSize) (sample : IsInt32 config.minSampleSize) :
    (storeConfig config).isOk = true := by
  rcases (isOk_iff _).mp (storeInteger_isOk window) with ⟨windowSize, windowStored⟩
  rcases (isOk_iff _).mp (storeInteger_isOk sample) with ⟨minSampleSize, sampleStored⟩
  apply bind_isOk.mpr
  refine ⟨windowSize, windowStored, ?_⟩
  apply bind_isOk.mpr
  exact ⟨minSampleSize, sampleStored, rfl⟩

/-- Settings that a row can hold, with a window that is not negative unless one is given. -/
theorem resolveInput_returns (python : Python F) (input : ChangePointConfigInput F)
    (usable : forall setting, setting ∈ defaults -> Usable setting.1 setting.2) :
    Exists fun config => resolveInput python defaults input = .ok config ∧
      (IsInt32 config.windowSize ∧ IsInt32 config.minSampleSize) ∧
        (input.windowSize = none -> 0 ≤ config.windowSize) := by
  have windowReturns : Exists fun number =>
      givenOr (input.windowSize.map Subtype.val) (intSetting python defaults "window_size" 30) = .ok number ∧
        IsInt32 number ∧ (input.windowSize = none -> 0 ≤ number) := by
    apply givenOr_returns
    · intro number given
      rcases Option.map_eq_some_iff.mp given with ⟨column, isGiven, same⟩
      rw [<- same, isGiven]
      exact ⟨column.property, fun impossible => by cases impossible⟩
    · intro _
      rcases intSetting_returns python "window_size" 30 usable
        (by decide) (by decide) with ⟨number, read, range⟩
      rcases range.1 rfl with ⟨low, high⟩
      exact ⟨number, read, ⟨by omega, high⟩, fun _ => low⟩
  have sampleReturns : Exists fun number =>
      givenOr (input.minSampleSize.map Subtype.val) (intSetting python defaults "min_sample_size" 10) =
        .ok number ∧ IsInt32 number := by
    apply givenOr_returns
    · intro number given
      rcases Option.map_eq_some_iff.mp given with ⟨column, _, same⟩
      rw [<- same]
      exact column.property
    · intro _
      rcases intSetting_returns python "min_sample_size" 10 usable
        (by decide) (by decide) with ⟨number, read, range⟩
      exact ⟨number, read, range.2 rfl⟩
  have floatReturns (field : Option F) (key : String) (otherwise : F) (float : key ∈ floatSettings) :
      Exists fun number =>
        givenOr field (floatSetting python defaults key otherwise) = .ok number ∧ True := by
    apply givenOr_returns
    · intro _ _
      trivial
    · intro _
      rcases floatSetting_returns python key otherwise usable float with ⟨number, read⟩
      exact ⟨number, read, trivial⟩
  rcases windowReturns with ⟨window, windowRead, windowFits, notNegative⟩
  rcases sampleReturns with ⟨sample, sampleRead, sampleFits⟩
  rcases floatReturns input.maxPvalue "max_pvalue" (python.literal (1 / 1000)) (by decide) with
    ⟨maxPvalue, pvalueRead, _⟩
  rcases floatReturns input.minMagnitude "min_magnitude" (python.literal 0) (by decide) with
    ⟨minMagnitude, magnitudeRead, _⟩
  unfold resolveInput
  rw [windowRead, pvalueRead, magnitudeRead, sampleRead]
  exact ⟨_, rfl, ⟨windowFits, sampleFits⟩, notNegative⟩

theorem attach_isOk (input : Option (ChangePointConfigInput F))
    (previous : Option (ChangePointConfig DbInteger F))
    (usable : forall setting, setting ∈ defaults -> Usable setting.1 setting.2) :
    (attachChangePointConfig python defaults input previous).isOk = true := by
  cases input with
  | none => rfl
  | some input =>
      rcases resolveInput_returns python input usable with ⟨config, resolved, ⟨window, sample⟩, _⟩
      rcases (isOk_iff _).mp (storeConfig_isOk window sample) with ⟨stored, isStored⟩
      apply bind_isOk.mpr
      refine ⟨config, resolved, ?_⟩
      apply bind_isOk.mpr
      exact ⟨stored, isStored, rfl⟩

theorem resolveFromObjective_returns (python : Python F)
    (override : Option (ChangePointConfig DbInteger F))
    (usable : forall setting, setting ∈ defaults -> Usable setting.1 setting.2)
    (given : forall config, override = some config -> 0 ≤ config.windowSize.val) :
    Exists fun config => resolveFromObjective python defaults override = .ok config ∧
      0 ≤ config.windowSize ∧ config.windowSize ≤ 2 ^ 31 - 1 := by
  rcases floatSetting_returns python "pvalue_strict_threshold" (python.literal (1 / 20)) usable
    (by decide) with ⟨strict, strictRead⟩
  rcases floatSetting_returns python "pvalue_moderate_threshold" (python.literal (1 / 2)) usable
    (by decide) with ⟨moderate, moderateRead⟩
  have configReturns : Exists fun config =>
      givenOr (override.map ChangePointConfig.read) (resolveInput python defaults {}) = .ok config ∧
        0 ≤ config.windowSize ∧ config.windowSize ≤ 2 ^ 31 - 1 := by
    apply givenOr_returns
    · intro config isRead
      rcases Option.map_eq_some_iff.mp isRead with ⟨stored, isGiven, same⟩
      rw [<- same]
      exact ⟨given stored isGiven, stored.windowSize.property.2⟩
    · intro _
      rcases resolveInput_returns python {} usable with ⟨config, resolved, ⟨window, _⟩, low⟩
      exact ⟨config, resolved, low rfl, window.2⟩
  rcases configReturns with ⟨config, configRead, low, high⟩
  unfold resolveFromObjective
  rw [strictRead, moderateRead, configRead]
  exact ⟨_, rfl, low, high⟩

theorem maxWindow_bounds {configs : List (ResolvedConfig F)} {first : Int}
    (bounds : 0 ≤ first ∧ first ≤ 2 ^ 31 - 1)
    (each : forall config, config ∈ configs -> 0 ≤ config.windowSize ∧
      config.windowSize ≤ 2 ^ 31 - 1) :
    0 ≤ configs.foldl (fun window config => max window config.windowSize) first ∧
      configs.foldl (fun window config => max window config.windowSize) first ≤ 2 ^ 31 - 1 := by
  induction configs generalizing first with
  | nil => exact bounds
  | cons config rest ih =>
      have here := each config List.mem_cons_self
      apply ih
      · exact ⟨le_trans bounds.1 (le_max_left _ _), max_le bounds.2 here.2⟩
      · intro other member
        exact each other (List.mem_cons_of_mem _ member)

theorem load_isOk (sound : forall entry, entry ∈ table.rows -> Sound python entry)
    {objectives : List (Option (ChangePointConfig DbInteger F))}
    (given : forall override, some override ∈ objectives -> 0 ≤ override.windowSize.val) :
    (loadChangePointInputs python table objectives).isOk = true := by
  rcases defaults_usable sound with ⟨defaults, returned, usable⟩
  have looped : (objectives.mapM (resolveFromObjective python defaults)).isOk = true := by
    apply (mapM_isOk _ _).mpr
    intro override member
    rcases resolveFromObjective_returns python override usable
      (fun config same => given config (same ▸ member)) with ⟨config, resolved, _⟩
    rw [resolved]
    rfl
  rcases (isOk_iff _).mp looped with ⟨resolved, looped⟩
  have windows : forall config, config ∈ resolved ->
      0 ≤ config.windowSize ∧ config.windowSize ≤ 2 ^ 31 - 1 := by
    intro config member
    rcases List.mem_iff_get.mp member with ⟨position, same⟩
    rcases List.forall₂_iff_get.mp (mapM_eq_ok.mp looped) with ⟨lengths, each⟩
    have inside : position.val < objectives.length := by
      rw [lengths]
      exact position.isLt
    have read := each position.val inside position.isLt
    rcases resolveFromObjective_returns python _ usable
      (fun other isGiven => given other (isGiven ▸ List.get_mem objectives ⟨position.val, inside⟩)) with
      ⟨other, resolvedAgain, bounds⟩
    rw [resolvedAgain] at read
    rw [<- same, <- Except.ok.inj read]
    exact bounds
  apply bind_isOk.mpr
  refine ⟨defaults, returned, ?_⟩
  apply bind_isOk.mpr
  refine ⟨resolved, looped, ?_⟩
  cases enabled : resolved.filter (·.enabled) with
  | nil => rfl
  | cons first others =>
      have kept : forall config, config ∈ first :: others ->
          0 ≤ config.windowSize ∧ config.windowSize ≤ 2 ^ 31 - 1 := by
        intro config member
        rw [<- enabled] at member
        exact windows config (List.mem_filter.mp member).1
      have bounds := maxWindow_bounds (kept first List.mem_cons_self)
        (fun config member => kept config (List.mem_cons_of_mem _ member))
      apply bind_isOk.mpr
      exact ⟨_, if_pos ⟨bounds.1, by omega⟩, rfl⟩

theorem readable_of_sound (sound : forall entry, entry ∈ table.rows -> Sound python entry) :
    Readable python table := by
  rcases defaults_usable sound with ⟨defaults, returned, usable⟩
  constructor
  · intro entry member
    rcases sound entry member with ⟨value, parsed, _⟩
    exact ⟨value, parsed, parseTypedValue_type parsed⟩
  · rw [returned]
    rfl
  · intro objectives
    apply bind_isOk.mpr
    refine ⟨defaults, returned, (mapM_isOk _ _).mpr fun objective _ => ?_⟩
    exact attach_isOk objective.1 objective.2 usable
  · intro stored
    cases stored with
    | some config => rfl
    | none =>
        rcases resolveInput_returns python {} usable with ⟨config, resolved, _⟩
        apply bind_isOk.mpr
        exact ⟨defaults, returned, (isOk_iff _).mpr ⟨config, resolved⟩⟩
  · intro body
    rcases resolveInput_returns python body usable with ⟨config, resolved, ⟨window, sample⟩, _⟩
    apply bind_isOk.mpr
    refine ⟨defaults, returned, bind_isOk.mpr ⟨config, resolved, ?_⟩⟩
    exact storeConfig_isOk window sample
  · intro objectives given
    exact load_isOk sound given

end Reading

/-- What is accepted for an entry is read as a value of its type, unless it is an integer that
is not written plainly; and where every request writes integers plainly and in range, no
reader raises in any state of the run. -/
theorem configuration_readable_along {F : Type} (python : Python F) :
    (forall valueType value, accepts python valueType value = true ->
      ((Exists fun parsed => parseTypedValue python value valueType = .ok parsed ∧
          parsed.type = valueType) ↔
        (valueType = .int -> (python.plain value.toList).isSome = true))) ∧
      forall (start final : ConfigurationTable) (requests : List PutRequest),
        (forall entry, entry ∈ start.rows -> Sound python entry) ->
        TransitionSystem.Along (putStep python) (Harmless python) start requests ->
        TransitionSystem.exec (putStep python) start requests = some final -> Readable python final := by
  refine ⟨fun valueType value accepted => accepted_reads_iff accepted, ?_⟩
  intro start final requests sound along ran
  apply readable_of_sound
  exact TransitionSystem.exec_preserves_along
    (fun _ _ _ sound harmless stepped => sound_step sound harmless stepped) sound along ran

/-- An interpreter that knows the digits of ASCII, one superscript, and the fractions of the
seeded table. -/
def asciiPython : Python ℚ where
  isSpace letter := letter = ' '
  decimal letter := if 48 ≤ letter.toNat ∧ letter.toNat ≤ 57 then some (letter.toNat - 48) else none
  otherDigit letter := letter = '²'
  marks := by
    rw [List.forall_mem_cons, List.forall_mem_cons, List.forall_mem_singleton]
    decide
  apart letter digit := by
    apply decide_eq_false
    intro space
    rw [space] at digit
    exact absurd digit (by decide)
  lower := String.toLower
  float text :=
    (["0.001", "0.0", "0.05", "0.5"].zip [1 / 1000, 0, 1 / 20, 1 / 2]).lookup text
  truth number := number ≠ 0
  floatOfInt number := some number
  intOfFloat number := some (number.num.tdiv number.den)
  literal number := number

def seededTable : ConfigurationTable where
  rows := [
    ⟨"change_point.enabled", "true", .bool⟩,
    ⟨"change_point.window_size", "30", .int⟩,
    ⟨"change_point.max_pvalue", "0.001", .float⟩,
    ⟨"change_point.min_magnitude", "0.0", .float⟩,
    ⟨"change_point.min_sample_size", "10", .int⟩,
    ⟨"change_point.pvalue_strict_threshold", "0.05", .float⟩,
    ⟨"change_point.pvalue_moderate_threshold", "0.5", .float⟩]
  nodup := by decide

theorem settingKey_changePoint (key : String) : settingKey (changePointPrefix ++ key) = key := by
  unfold settingKey
  rw [String.toList_append, if_pos (by simp), List.drop_left, String.ofList_toList]

theorem sound_of_key (key : String) {value : String} {valueType : ValueType} (parsed : TypedValue ℚ)
    (read : parseTypedValue asciiPython value valueType = .ok parsed) (usable : Usable key parsed) :
    Sound asciiPython ⟨changePointPrefix ++ key, value, valueType⟩ := by
  refine ⟨parsed, read, ?_⟩
  change Usable (settingKey (changePointPrefix ++ key)) parsed
  rw [settingKey_changePoint]
  exact usable

theorem usable_int {key : String} {number : Int} (notFloat : key ∉ floatSettings)
    (range : InRange key number) : Usable key (.int number : TypedValue ℚ) where
  integer _ := rfl
  float member := absurd member notFloat
  inRange _ same := by
    cases same
    exact range

theorem usable_float {key : String} (notInteger : key ∉ integerSettings) (number : ℚ) :
    Usable key (.float number) where
  integer member := absurd member notInteger
  float _ := rfl
  inRange _ same := by cases same

theorem usable_bool {key : String} (notInteger : key ∉ integerSettings) (notFloat : key ∉ floatSettings)
    (flag : Bool) : Usable key (.bool flag : TypedValue ℚ) where
  integer member := absurd member notInteger
  float member := absurd member notFloat
  inRange _ same := by cases same

theorem seeded_sound : forall entry, entry ∈ seededTable.rows -> Sound asciiPython entry := by
  intro entry member
  rcases List.mem_cons.mp member with same | member
  · rw [same]
    exact sound_of_key "enabled" _ rfl (usable_bool (by decide) (by decide) _)
  rcases List.mem_cons.mp member with same | member
  · rw [same]
    exact sound_of_key "window_size" (.int 30) rfl (usable_int (by decide) (by decide))
  rcases List.mem_cons.mp member with same | member
  · rw [same]
    exact sound_of_key "max_pvalue" (.float (1 / 1000)) rfl (usable_float (by decide) _)
  rcases List.mem_cons.mp member with same | member
  · rw [same]
    exact sound_of_key "min_magnitude" (.float 0) rfl (usable_float (by decide) _)
  rcases List.mem_cons.mp member with same | member
  · rw [same]
    exact sound_of_key "min_sample_size" (.int 10) rfl (usable_int (by decide) (by decide))
  rcases List.mem_cons.mp member with same | member
  · rw [same]
    exact sound_of_key "pvalue_strict_threshold" (.float (1 / 20)) rfl (usable_float (by decide) _)
  · rw [List.mem_singleton.mp member]
    exact sound_of_key "pvalue_moderate_threshold" (.float (1 / 2)) rfl (usable_float (by decide) _)

/-- A smaller window is stored, and everything can be read. -/
theorem smallerWindow_readable :
    TransitionSystem.exec (putStep asciiPython) seededTable [⟨"change_point.window_size", "25"⟩] =
        some (putConfiguration asciiPython seededTable ⟨"change_point.window_size", "25"⟩) ∧
      Readable asciiPython
        (putConfiguration asciiPython seededTable ⟨"change_point.window_size", "25"⟩) := by
  refine ⟨rfl, (configuration_readable_along asciiPython).2 seededTable _
    [⟨"change_point.window_size", "25"⟩] seeded_sound ?_ rfl⟩
  refine (TransitionSystem.along_cons_iff rfl).mpr ⟨?_, trivial⟩
  intro entry _ _ _
  refine ⟨25, rfl, ?_⟩
  have key : settingKey "change_point.window_size" = "window_size" := settingKey_changePoint "window_size"
  change InRange (settingKey "change_point.window_size") 25
  rw [key]
  decide

/-- Two dashes are accepted, and no defaults are left: no SLO can be created. -/
theorem doubleDash_breaksReaders :
    accepts asciiPython .int "--5" = true ∧
      parseTypedValue asciiPython "--5" .int = .error .conversion ∧
      Exists fun table =>
        TransitionSystem.exec (putStep asciiPython) seededTable [⟨"change_point.window_size", "--5"⟩] =
            some table ∧
          getChangePointDefaults asciiPython table = .error .conversion ∧
          createSloConfigs asciiPython table [] = .error .conversion :=
  ⟨rfl, rfl, _, rfl, rfl, rfl⟩

end Settings
end Tropek
