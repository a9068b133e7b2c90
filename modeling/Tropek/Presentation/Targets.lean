import Tropek.Engine.Totals

namespace Tropek
namespace Presentation
namespace TargetResolver

open Library Engine Fallible

/-!
# Targets

The criteria of an objective are evaluated in four places: the scoring reads a list
until the first criterion that does not hold, the evaluation builds one target for each
criterion, and the presenter builds the targets again, from the strings or from the
criteria that it has parsed once per objective.  All of them come to the same targets,
and the status of the objective can be read off them.
-/

/-- How the targets of an objective fail to be presented.  `unevenLists`: `zip` of two
lists of different lengths. -/
inductive TargetError where
  | engine (error : EngineError)
  | unevenLists
deriving DecidableEq, Repr

def parsedTarget (value comparedValue : Option ℚ) (parsed : ParsedCriteria) (raw : String) :
    CriteriaTarget :=
  { criteria := raw
    targetValue := parsed.computeTargetValue comparedValue
    violated := value.elim true fun value => !evaluateCriteria parsed value comparedValue }

def resolveTargets (criteria : Option (List String)) (value comparedValue : Option ℚ) :
    Except EngineError (Option (List CriteriaTarget)) :=
  match criteria with
  | none => .ok none
  | some criteria => do
      let targets <- criteria.mapM fun raw => do
        let parsed <- parseCriteriaString raw
        return parsedTarget value comparedValue parsed raw
      return some targets

/-- The variant of `resolveTargets` for criteria that the caller has parsed. -/
def resolveTargetsFromParsed (parsedCriteria : Option (List ParsedCriteria))
    (rawCriteria : Option (List String)) (value comparedValue : Option ℚ) :
    Except TargetError (Option (List CriteriaTarget)) :=
  match parsedCriteria, rawCriteria with
  | some parsedCriteria, some rawCriteria =>
      if parsedCriteria.length = rawCriteria.length then
        .ok (some (List.zipWith (parsedTarget value comparedValue) parsedCriteria rawCriteria))
      else .error .unevenLists
  | _, _ => .ok none

structure ParsedObjectiveCriteria where
  rawPass : Option (List String)
  parsedPass : Option (List ParsedCriteria)
  rawWarning : Option (List String)
  parsedWarning : Option (List ParsedCriteria)
deriving DecidableEq, Repr

/-- `list(criteria) if criteria else None`. -/
def rawCriteria (criteria : List String) : Option (List String) :=
  if criteria = [] then none else some criteria

def parsedCriteria : Option (List String) -> Except EngineError (Option (List ParsedCriteria))
  | none => .ok none
  | some raw => do
      let parsed <- raw.mapM parseCriteriaString
      return some parsed

def parseObjectiveCriteria (objective : SLOObjective) :
    Except EngineError ParsedObjectiveCriteria := do
  let rawPass := rawCriteria objective.passThreshold
  let rawWarning := rawCriteria objective.warningThreshold
  let parsedPass <- parsedCriteria rawPass
  let parsedWarning <- parsedCriteria rawWarning
  return { rawPass, parsedPass, rawWarning, parsedWarning }

section Agreement

variable {criteria : List String} {value baseline : Option ℚ} {targets : List CriteriaTarget}

theorem buildTarget_eq_ok {raw : String} {target : CriteriaTarget} :
    buildTarget value baseline raw = .ok target ↔
      Exists fun parsed => parseCriteriaString raw = .ok parsed ∧
        parsedTarget value baseline parsed raw = target := by
  unfold buildTarget
  rw [bind_eq_ok]
  refine exists_congr fun parsed => and_congr_right fun _ => ?_
  exact ⟨fun same => Except.ok.inj same, fun same => congrArg Except.ok same⟩

theorem resolveTargets_eq (built : buildTargets criteria value baseline = .ok targets) :
    resolveTargets (some criteria) value baseline = .ok (some targets) := by
  apply bind_eq_ok.mpr
  exact ⟨targets, built, rfl⟩

theorem parsed_of_buildTargets (built : buildTargets criteria value baseline = .ok targets) :
    Exists fun parsed => criteria.mapM parseCriteriaString = .ok parsed ∧
      parsed.length = criteria.length ∧
      List.zipWith (parsedTarget value baseline) parsed criteria = targets := by
  have related := mapM_eq_ok.mp built
  clear built
  induction related with
  | nil => exact ⟨[], rfl, rfl, rfl⟩
  | @cons raw target criteria targets first others ih =>
      rcases buildTarget_eq_ok.mp first with ⟨head, parses, same⟩
      rcases ih with ⟨parsed, looped, length, zipped⟩
      refine ⟨head :: parsed, ?_, congrArg Nat.succ length, ?_⟩
      · rw [List.mapM_cons, parses, looped]
        rfl
      · rw [List.zipWith_cons_cons, same, zipped]

/-- From parsed criteria the targets are the same, except that an empty list has
none. -/
theorem resolveTargetsFromParsed_eq (built : buildTargets criteria value baseline = .ok targets) :
    Exists fun parsed => parsedCriteria (rawCriteria criteria) = .ok parsed ∧
      resolveTargetsFromParsed parsed (rawCriteria criteria) value baseline =
        .ok (if criteria = [] then none else some targets) := by
  rcases parsed_of_buildTargets built with ⟨parsed, looped, length, zipped⟩
  unfold rawCriteria
  by_cases empty : criteria = []
  · rw [if_pos empty, if_pos empty]
    exact ⟨none, rfl, rfl⟩
  · rw [if_neg empty, if_neg empty]
    refine ⟨some parsed, bind_eq_ok.mpr ⟨parsed, looped, rfl⟩, ?_⟩
    unfold resolveTargetsFromParsed
    dsimp only
    rw [if_pos length, zipped]

end Agreement

def Unviolated (targets : List CriteriaTarget) : Prop :=
  forall target, target ∈ targets -> target.violated = false

instance (targets : List CriteriaTarget) : Decidable (Unviolated targets) :=
  inferInstanceAs (Decidable (forall target, target ∈ targets -> target.violated = false))

/-- Reading a list until the first criterion that does not hold comes to the same as
reading all of its targets. -/
theorem evaluateCriteriaBlock_eq {criteria : List String} {value : ℚ} {baseline : Option ℚ}
    {targets : List CriteriaTarget}
    (built : buildTargets criteria (some value) baseline = .ok targets) :
    evaluateCriteriaBlock criteria value baseline = .ok (decide (Unviolated targets)) := by
  have related := mapM_eq_ok.mp built
  clear built
  induction related with
  | nil => simp [evaluateCriteriaBlock, Unviolated]
  | @cons raw target criteria targets first others ih =>
      rcases buildTarget_eq_ok.mp first with ⟨parsed, parses, same⟩
      have violated : target.violated = !evaluateCriteria parsed value baseline := by
        rw [<- same]
        rfl
      rw [evaluateCriteriaBlock, parses]
      change (if evaluateCriteria parsed value baseline = true then _ else _) = _
      cases holds : evaluateCriteria parsed value baseline with
      | true =>
          rw [if_pos rfl, ih]
          apply congrArg Except.ok
          apply decide_eq_decide.mpr
          simp [Unviolated, violated, holds]
      | false =>
          have missed : ¬ Unviolated (target :: targets) := by
            simp [Unviolated, violated, holds]
          rw [if_neg Bool.false_ne_true, decide_eq_false missed]
          rfl

def statusOf (objective : SLOObjective) (value : Option ℚ)
    (passTargets warningTargets : List CriteriaTarget) : IndicatorStatus :=
  if objective.passThreshold = [] then .info
  else if value = none then .error
  else if Unviolated passTargets then .pass
  else if objective.warningThreshold ≠ [] ∧ Unviolated warningTargets then .warning
  else .fail

variable {objective : SLOObjective} {passTargets warningTargets : List CriteriaTarget}

theorem scoreObjective_eq {value baseline : Option ℚ}
    (passBuilt : buildTargets objective.passThreshold value baseline = .ok passTargets)
    (warningBuilt : buildTargets objective.warningThreshold value baseline = .ok warningTargets) :
    scoreObjective objective value baseline =
      .ok (.ofStatus objective (statusOf objective value passTargets warningTargets)) := by
  have scored : (scoreObjective objective value baseline).isOk = true :=
    scoreObjective_isOk
      ((buildTargets_isOk _ _ _).mp ((isOk_iff _).mpr ⟨_, passBuilt⟩))
      ((buildTargets_isOk _ _ _).mp ((isOk_iff _).mpr ⟨_, warningBuilt⟩)) value baseline
  rcases (isOk_iff _).mp scored with ⟨result, scored⟩
  have form := scoreObjective_eq_ofStatus scored
  suffices status : result.status = statusOf objective value passTargets warningTargets by
    rw [scored, <- status, <- form]
  unfold scoreObjective at scored
  unfold statusOf
  by_cases informational : objective.passThreshold = []
  · rw [if_pos informational] at scored ⊢
    cases scored
    rfl
  · rw [if_neg informational] at scored ⊢
    cases value with
    | none =>
        cases scored
        rfl
    | some value =>
        rw [if_neg (Option.some_ne_none value)]
        dsimp only at scored
        rw [evaluateCriteriaBlock_eq passBuilt] at scored
        by_cases passes : Unviolated passTargets
        · rw [if_pos passes]
          rw [decide_eq_true passes] at scored
          cases scored
          rfl
        · rw [if_neg passes]
          rw [decide_eq_false passes] at scored
          unfold warns at scored
          rw [evaluateCriteriaBlock_eq warningBuilt] at scored
          by_cases silent : objective.warningThreshold = []
          · rw [if_pos silent] at scored
            cases scored
            simp [silent]
          · rw [if_neg silent] at scored
            by_cases warned : Unviolated warningTargets
            · rw [decide_eq_true warned] at scored
              cases scored
              simp [silent, warned]
            · rw [decide_eq_false warned] at scored
              cases scored
              simp [warned]

theorem statusOf_pass (objective : SLOObjective) (value : Option ℚ)
    (passTargets warningTargets : List CriteriaTarget) :
    statusOf objective value passTargets warningTargets = .pass ↔
      objective.passThreshold ≠ [] ∧ value ≠ none ∧ Unviolated passTargets := by
  unfold statusOf
  split_ifs <;> simp_all

theorem statusOf_warning (objective : SLOObjective) (value : Option ℚ)
    (passTargets warningTargets : List CriteriaTarget) :
    statusOf objective value passTargets warningTargets = .warning ↔
      objective.passThreshold ≠ [] ∧ ¬ Unviolated passTargets ∧ objective.warningThreshold ≠ [] ∧
        value ≠ none ∧ Unviolated warningTargets := by
  unfold statusOf
  split_ifs <;> simp_all

theorem statusOf_error (objective : SLOObjective) (value : Option ℚ)
    (passTargets warningTargets : List CriteriaTarget) :
    statusOf objective value passTargets warningTargets = .error ↔
      objective.passThreshold ≠ [] ∧ value = none := by
  unfold statusOf
  split_ifs <;> simp_all

/-- The targets that the loop of `evaluate` keeps for an objective. -/
theorem evaluateObjective_targets {metrics baselines : Dict (Option ℚ)}
    (passBuilt : buildTargets objective.passThreshold (getValue metrics objective.sli) (getValue
      baselines objective.sli) = .ok passTargets)
    (warningBuilt : buildTargets objective.warningThreshold (getValue metrics objective.sli)
      (getValue baselines objective.sli) = .ok warningTargets) :
    Exists fun pair => evaluateObjective metrics baselines objective = .ok pair ∧
      pair.2.status = statusOf objective (getValue metrics objective.sli) passTargets
        warningTargets ∧
      pair.2.passTargets = passTargets ∧
      pair.2.warningTargets =
        if objective.warningThreshold = [] then none else some warningTargets := by
  have parse : objective.CriteriaParse := by
    rw [SLOObjective.CriteriaParse, List.forall_mem_append]
    exact ⟨(buildTargets_isOk _ _ _).mp ((isOk_iff _).mpr ⟨_, passBuilt⟩),
      (buildTargets_isOk _ _ _).mp ((isOk_iff _).mpr ⟨_, warningBuilt⟩)⟩
  rcases (isOk_iff _).mp ((evaluateObjective_isOk metrics baselines objective).mpr parse)
    with ⟨pair, evaluated⟩
  refine ⟨pair, evaluated, ?_⟩
  rcases bind_eq_ok.mp evaluated with ⟨objResult, scored, evaluated⟩
  rcases bind_eq_ok.mp evaluated with ⟨passTargets', passBuilt', evaluated⟩
  rcases bind_eq_ok.mp evaluated with ⟨warningTargets', warningBuilt', same⟩
  cases same
  cases (scoreObjective_eq passBuilt warningBuilt).symm.trans scored
  cases passBuilt.symm.trans passBuilt'
  cases warningBuilt.symm.trans warningBuilt'
  exact ⟨rfl, rfl, rfl⟩

/-- The status of an objective whose criteria parse, read off its targets, and the
targets of the presenter beside those of the evaluation.  A warning needs pass criteria.
An empty list has no targets where the evaluation has an empty list of them, except
that the evaluation leaves out its warning targets, too. -/
theorem status_and_targets {objective : SLOObjective} (parse : objective.CriteriaParse)
    (metrics baselines : Dict (Option ℚ)) :
    let value := getValue metrics objective.sli
    let baseline := getValue baselines objective.sli
    Exists fun result => Exists fun pair => Exists fun parsed => Exists fun warningTargets =>
      scoreObjective objective value baseline = .ok result ∧
      evaluateObjective metrics baselines objective = .ok pair ∧
      parseObjectiveCriteria objective = .ok parsed ∧
      resolveTargets (some objective.passThreshold) value baseline =
        .ok (some pair.2.passTargets) ∧
      resolveTargets (some objective.warningThreshold) value baseline =
        .ok (some warningTargets) ∧
      resolveTargetsFromParsed parsed.parsedPass parsed.rawPass value baseline =
        .ok (if objective.passThreshold = [] then none else some pair.2.passTargets) ∧
      resolveTargetsFromParsed parsed.parsedWarning parsed.rawWarning value baseline =
        .ok pair.2.warningTargets ∧
      pair.2.warningTargets =
        (if objective.warningThreshold = [] then none else some warningTargets) ∧
      pair.2.status = result.status ∧
      (result.status = .pass ↔
        objective.passThreshold ≠ [] ∧ value ≠ none ∧ Unviolated pair.2.passTargets) ∧
      (result.status = .warning ↔
        objective.passThreshold ≠ [] ∧ result.status ≠ .pass ∧ objective.warningThreshold ≠ [] ∧
          value ≠ none ∧ Unviolated warningTargets) ∧
      (result.status = .error ↔ objective.passThreshold ≠ [] ∧ value = none) := by
  intro value baseline
  rw [SLOObjective.CriteriaParse, List.forall_mem_append] at parse
  rcases (isOk_iff _).mp ((buildTargets_isOk _ value baseline).mpr parse.1) with
    ⟨passTargets, passBuilt⟩
  rcases (isOk_iff _).mp ((buildTargets_isOk _ value baseline).mpr parse.2) with
    ⟨warningTargets, warningBuilt⟩
  rcases evaluateObjective_targets passBuilt warningBuilt with
    ⟨pair, evaluated, status, samePass, sameWarning⟩
  rcases resolveTargetsFromParsed_eq passBuilt with ⟨parsedPass, passParsed, passResolved⟩
  rcases resolveTargetsFromParsed_eq warningBuilt with
    ⟨parsedWarning, warningParsed, warningResolved⟩
  have parsed : parseObjectiveCriteria objective =
      .ok { rawPass := rawCriteria objective.passThreshold, parsedPass
            rawWarning := rawCriteria objective.warningThreshold, parsedWarning } := by
    unfold parseObjectiveCriteria
    dsimp only [bind, Except.bind]
    rw [passParsed, warningParsed]
    rfl
  refine ⟨_, pair, _, warningTargets, scoreObjective_eq passBuilt warningBuilt, evaluated, parsed,
    ?_, resolveTargets_eq warningBuilt, ?_, ?_, sameWarning, status, ?_, ?_, ?_⟩
  · rw [samePass]
    exact resolveTargets_eq passBuilt
  · rw [samePass]
    exact passResolved
  · rw [sameWarning]
    exact warningResolved
  · rw [samePass]
    exact statusOf_pass objective value passTargets warningTargets
  · change statusOf objective value passTargets warningTargets = .warning ↔ _ ∧
      statusOf objective value passTargets warningTargets ≠ .pass ∧ _
    have passes := statusOf_pass objective value passTargets warningTargets
    rw [statusOf_warning]
    constructor
    · rintro ⟨criteria, violated, present, some, unviolated⟩
      exact ⟨criteria, fun passed => violated (passes.mp passed).2.2, present, some, unviolated⟩
    · rintro ⟨criteria, unpassed, present, some, unviolated⟩
      exact ⟨criteria, fun held => unpassed (passes.mpr ⟨criteria, some, held⟩), present, some,
        unviolated⟩
  · exact statusOf_error objective value passTargets warningTargets

def Sample.graded : SLOObjective :=
  { sli := "latency", passThreshold := ["<=40"], warningThreshold := ["<=100", "<=+10%"] }

def Sample.advisory : SLOObjective :=
  { sli := "latency", warningThreshold := ["<=100"] }

def Sample.latency : Dict (Option ℚ) :=
  (∅ : Dict (Option ℚ)).insert "latency" (some 50)

theorem graded_targets_shared :
    Exists fun result => Exists fun pair => Exists fun warningTargets =>
      scoreObjective Sample.graded (some 50) (some 48) = .ok result ∧ result.status = .warning ∧
        evaluateObjective Sample.latency (Sample.latency.insert "latency" (some 48)) Sample.graded =
          .ok pair ∧
        pair.2.passTargets.length = 1 ∧ pair.2.warningTargets = some warningTargets ∧
        warningTargets.length = 2 ∧
        resolveTargets (some ["<=40"]) (some 50) (some 48) = .ok (some pair.2.passTargets) ∧
        resolveTargets (some ["<=100", "<=+10%"]) (some 50) (some 48) =
          .ok (some warningTargets) := by
  have parse : Sample.graded.CriteriaParse := by decide +kernel
  rcases status_and_targets parse Sample.latency (Sample.latency.insert "latency" (some 48)) with
    ⟨result, pair, parsed, warningTargets, scored, evaluated, -, passResolved, warningResolved, -, -,
      same, -, -, warns, -⟩
  have value : getValue Sample.latency "latency" = some 50 := by decide +kernel
  have baseline : getValue (Sample.latency.insert "latency" (some 48)) "latency" = some 48 := by
    decide +kernel
  change scoreObjective Sample.graded (getValue Sample.latency "latency") (getValue _ "latency") = _
    at scored
  change resolveTargets _ (getValue Sample.latency "latency") (getValue _ "latency") = _
    at passResolved warningResolved
  rw [value, baseline] at scored passResolved warningResolved
  have lengths : (resolveTargets (some ["<=40"]) (some 50) (some 48)).toOption.map
      (·.map List.length) = some (some 1) ∧
      (resolveTargets (some ["<=100", "<=+10%"]) (some 50) (some 48)).toOption.map
        (·.map List.length) = some (some 2) := by
    decide +kernel
  rw [show Sample.graded.passThreshold = ["<=40"] from rfl] at passResolved
  rw [show Sample.graded.warningThreshold = ["<=100", "<=+10%"] from rfl] at warningResolved
  rw [passResolved, warningResolved] at lengths
  have warned : (scoreObjective Sample.graded (some 50) (some 48)).toOption.map (·.status) =
      some .warning := by
    decide +kernel
  rw [scored] at warned
  exact ⟨result, pair, warningTargets, scored, Option.some.inj warned, evaluated,
    Option.some.inj (Option.some.inj lengths.1), same,
    Option.some.inj (Option.some.inj lengths.2), passResolved, warningResolved⟩

/-- The objective does not pass, it has a value and no warning target is violated, and
still its status is no warning. -/
theorem advisory_never_warns :
    Exists fun result => Exists fun targets =>
      Sample.advisory.CriteriaParse ∧
        scoreObjective Sample.advisory (some 50) none = .ok result ∧
        buildTargets Sample.advisory.warningThreshold (some 50) none = .ok targets ∧
        result.status ≠ .pass ∧ Sample.advisory.warningThreshold ≠ [] ∧ Unviolated targets ∧
        result.status = .info := by
  have built : (buildTargets Sample.advisory.warningThreshold (some 50) none).toOption.any
      (fun targets => decide (Unviolated targets)) = true := by
    decide +kernel
  rcases (Option.any_eq_true _ _).mp built with ⟨targets, resolved, unviolated⟩
  have unpassed : IndicatorStatus.info ≠ .pass := by decide
  exact ⟨_, targets, by decide +kernel, rfl, toOption_eq_some.mp resolved, unpassed,
    List.cons_ne_nil _ _, of_decide_eq_true unviolated, rfl⟩

end TargetResolver
end Presentation
end Tropek
