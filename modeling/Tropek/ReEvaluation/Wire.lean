import Tropek.ReEvaluation.Service

namespace Tropek
namespace ReEvaluation

open Library Engine Store Registry Fallible

/-!
# Requests on the wire

The form of the UI fills in one input for three ways to name the start of a re-evaluation.
The input becomes the body of one of three endpoints, and each endpoint translates its body
back into the request of the service.

The bodies of two endpoints do not carry the pin strategy although the endpoints accept it,
and an empty list of names becomes the absent selector, which stands for every assigned SLO.

Instants and identifiers are the values that their texts stand for.
-/

inductive ReEvaluateMode where
  | baseline
  | date (fromDate : Instant)
  | evaluation (fromEvaluationId : Nat)
deriving DecidableEq, Repr

structure ReEvaluateInput where
  assetName : String
  sloName : Option String
  sloNames : Option (List String)
  mode : ReEvaluateMode
  sloVersion : Option Int
  dryRun : Bool
  pinStrategy : Option PinStrategy
deriving DecidableEq, Repr

inductive ReEvaluateScope where
  | asset (assetName : String)
  | group (groupName : String)
deriving DecidableEq, Repr

inductive ReEvaluateSelector where
  | slo (sloName : String)
  | evaluationNames (evaluationNames : List String)
deriving DecidableEq, Repr

structure ReEvaluateFromDateBody where
  scope : ReEvaluateScope
  selector : Option ReEvaluateSelector
  fromDate : Instant
  sloVersion : Option Int
  dryRun : Bool
deriving DecidableEq, Repr

structure ReEvaluateFromBaselineBody where
  scope : ReEvaluateScope
  selector : Option ReEvaluateSelector
  sloVersion : Option Int
  dryRun : Bool
  pinStrategy : Option PinStrategy
deriving DecidableEq, Repr

structure ReEvaluateFromEvaluationBody where
  scope : ReEvaluateScope
  selector : Option ReEvaluateSelector
  sloVersion : Option Int
  dryRun : Bool
deriving DecidableEq, Repr

inductive ReEvaluateDto where
  | fromDate (requestBody : ReEvaluateFromDateBody)
  | fromBaseline (requestBody : ReEvaluateFromBaselineBody)
  | fromEvaluation (evaluationId : Nat) (requestBody : ReEvaluateFromEvaluationBody)
deriving DecidableEq, Repr

def buildScope (assetName : String) : ReEvaluateScope :=
  .asset assetName

def buildSelector (input : ReEvaluateInput) : Option ReEvaluateSelector :=
  match input.sloName, input.sloNames with
  | some sloName, _ => some (.slo sloName)
  | none, some sloNames =>
      if 0 < sloNames.length then some (.evaluationNames sloNames) else none
  | none, none => none

def reEvaluateInputToDto (input : ReEvaluateInput) : ReEvaluateDto :=
  let scope := buildScope input.assetName
  let selector := buildSelector input
  match input.mode with
  | .date fromDate =>
      .fromDate { scope, selector, fromDate, sloVersion := input.sloVersion, dryRun := input.dryRun }
  | .baseline =>
      .fromBaseline {
        scope, selector, sloVersion := input.sloVersion, dryRun := input.dryRun,
        pinStrategy := input.pinStrategy }
  | .evaluation fromEvaluationId =>
      .fromEvaluation fromEvaluationId {
        scope, selector, sloVersion := input.sloVersion, dryRun := input.dryRun }

/-- The input of the form, for the selected SLOs.  After a conflict the form submits again
with a strategy. -/
def submitReEval (assetName : String) (selected : List String) (fromBaseline : Bool)
    (fromDate : Instant) (pinStrategy : Option PinStrategy) : ReEvaluateInput :=
  { assetName
    sloName := none
    sloNames := some selected
    mode := if fromBaseline then .baseline else .date fromDate
    sloVersion := none
    dryRun := false
    pinStrategy }

structure ReEvaluateFromDateRequest where
  scope : ReEvaluateScope
  selector : Option ReEvaluateSelector := none
  fromDate : Instant
  sloVersion : Option Int := none
  dryRun : Bool := false
  pinStrategy : Option PinStrategy := none
deriving DecidableEq, Repr

structure ReEvaluateFromBaselineRequest where
  scope : ReEvaluateScope
  selector : Option ReEvaluateSelector := none
  sloVersion : Option Int := none
  dryRun : Bool := false
  pinStrategy : Option PinStrategy := none
deriving DecidableEq, Repr

structure ReEvaluateFromEvaluationRequest where
  scope : ReEvaluateScope
  selector : Option ReEvaluateSelector := none
  sloVersion : Option Int := none
  dryRun : Bool := false
  pinStrategy : Option PinStrategy := none
deriving DecidableEq, Repr

/-- How the endpoint refuses a request of the client.  `invalid`: a value that the
schema of the endpoint refuses; `noNames`: `evaluation_names` needs one name;
`groupScope`: `group scope is not yet supported on split re-evaluate endpoints`. -/
inductive WireError where
  | invalid (error : RegistryError)
  | noNames
  | groupScope
  | service (error : ReEvalError)
deriving DecidableEq, Repr

def checkName (name : String) : Except WireError Unit :=
  (checkSafeStr name).mapError .invalid

def checkScope : ReEvaluateScope -> Except WireError Unit
  | .asset assetName => checkName assetName
  | .group groupName => checkName groupName

def checkSelector : Option ReEvaluateSelector -> Except WireError Unit
  | none => .ok ()
  | some (.slo sloName) => checkName sloName
  | some (.evaluationNames evaluationNames) => do
      evaluationNames.forM checkName
      if evaluationNames = [] then .error .noNames else return ()

/-- The body of an endpoint as its schema reads it.  Keys that the body does not have take
their defaults. -/
def ReEvaluateFromDateRequest.ofBody (body : ReEvaluateFromDateBody) :
    Except WireError ReEvaluateFromDateRequest := do
  checkScope body.scope
  checkSelector body.selector
  return {
    scope := body.scope
    selector := body.selector
    fromDate := body.fromDate
    sloVersion := body.sloVersion
    dryRun := body.dryRun }

def ReEvaluateFromBaselineRequest.ofBody (body : ReEvaluateFromBaselineBody) :
    Except WireError ReEvaluateFromBaselineRequest := do
  checkScope body.scope
  checkSelector body.selector
  return {
    scope := body.scope
    selector := body.selector
    sloVersion := body.sloVersion
    dryRun := body.dryRun
    pinStrategy := body.pinStrategy }

def ReEvaluateFromEvaluationRequest.ofBody (body : ReEvaluateFromEvaluationBody) :
    Except WireError ReEvaluateFromEvaluationRequest := do
  checkScope body.scope
  checkSelector body.selector
  return {
    scope := body.scope
    selector := body.selector
    sloVersion := body.sloVersion
    dryRun := body.dryRun }

def scopeToAssetName : ReEvaluateScope -> Except WireError String
  | .asset assetName => .ok assetName
  | .group _ => .error .groupScope

def selectorToSloFields : Option ReEvaluateSelector -> Option String × Option (List String)
  | none => (none, none)
  | some (.slo sloName) => (some sloName, none)
  | some (.evaluationNames evaluationNames) => (none, some evaluationNames)

def reEvaluateFromDate (body : ReEvaluateFromDateRequest) : Except WireError ReEvaluateRequest := do
  let assetName <- scopeToAssetName body.scope
  let (sloName, sloNames) := selectorToSloFields body.selector
  return {
    assetName, sloName, sloNames
    fromDate := some body.fromDate
    fromBaseline := false
    fromEvaluationId := none
    sloVersion := body.sloVersion
    dryRun := body.dryRun
    pinStrategy := body.pinStrategy }

def reEvaluateFromBaseline (body : ReEvaluateFromBaselineRequest) :
    Except WireError ReEvaluateRequest := do
  let assetName <- scopeToAssetName body.scope
  let (sloName, sloNames) := selectorToSloFields body.selector
  return {
    assetName, sloName, sloNames
    fromDate := none
    fromBaseline := true
    fromEvaluationId := none
    sloVersion := body.sloVersion
    dryRun := body.dryRun
    pinStrategy := body.pinStrategy }

def reEvaluateFromEvaluation (body : ReEvaluateFromEvaluationRequest) (evaluationId : Nat) :
    Except WireError ReEvaluateRequest := do
  let assetName <- scopeToAssetName body.scope
  let (sloName, sloNames) := selectorToSloFields body.selector
  return {
    assetName, sloName, sloNames
    fromDate := none
    fromBaseline := false
    fromEvaluationId := some evaluationId
    sloVersion := body.sloVersion
    dryRun := body.dryRun
    pinStrategy := body.pinStrategy }

def receive : ReEvaluateDto -> Except WireError ReEvaluateRequest
  | .fromDate requestBody => do
      let body <- ReEvaluateFromDateRequest.ofBody requestBody
      reEvaluateFromDate body
  | .fromBaseline requestBody => do
      let body <- ReEvaluateFromBaselineRequest.ofBody requestBody
      reEvaluateFromBaseline body
  | .fromEvaluation evaluationId requestBody => do
      let body <- ReEvaluateFromEvaluationRequest.ofBody requestBody
      reEvaluateFromEvaluation body evaluationId

def submit (assigned : Nat -> List String) (clock : Nat -> Instant) (db : Database)
    (input : ReEvaluateInput) : Except WireError (Database × ReEvaluateResponse) := do
  let request <- receive (reEvaluateInputToDto input)
  (reEvaluate assigned clock db request).mapError .service

def ReEvaluateInput.selected (input : ReEvaluateInput) : Option (List String) :=
  match input.sloName with
  | some sloName => some [sloName]
  | none => input.sloNames

def ReEvaluateRequest.selected (request : ReEvaluateRequest) : Option (List String) :=
  request.sloNames.or (request.sloName.map fun sloName => [sloName])

def ReEvaluateRequest.anchor (request : ReEvaluateRequest) : Option Instant × Bool × Option Nat :=
  (request.fromDate, request.fromBaseline, request.fromEvaluationId)

def ReEvaluateMode.anchor : ReEvaluateMode -> Option Instant × Bool × Option Nat
  | .baseline => (none, true, none)
  | .date fromDate => (some fromDate, false, none)
  | .evaluation fromEvaluationId => (none, false, some fromEvaluationId)

structure Carries (input : ReEvaluateInput) (request : ReEvaluateRequest) : Prop where
  asset : request.assetName = input.assetName
  anchor : request.anchor = input.mode.anchor
  sloVersion : request.sloVersion = input.sloVersion
  dryRun : request.dryRun = input.dryRun
  pinStrategy : request.pinStrategy = input.pinStrategy
  selected : request.selected = input.selected

def PinConflict (outcome : Except WireError (Database × ReEvaluateResponse)) : Prop :=
  Exists fun pinDate => Exists fun pinEvalId =>
    outcome = .error (.service (.baselinePinConflict pinDate pinEvalId))

/-- The input arrives as it is, and submitting it with a strategy settles a conflict. -/
structure Survives (input : ReEvaluateInput) : Prop where
  arrives : Exists fun request => receive (reEvaluateInputToDto input) = .ok request ∧
    Carries input request
  settles : forall assigned clock db,
    PinConflict (submit assigned clock db { input with pinStrategy := none }) ->
      input.pinStrategy ≠ none -> ¬ PinConflict (submit assigned clock db input)

/-- The names are texts that the API takes, some SLO is selected, and a strategy is only
given where the body carries it. -/
structure Expressible (input : ReEvaluateInput) : Prop where
  names : forall name, name ∈ input.assetName :: input.selected.getD [] ->
    (checkSafeStr name).isOk = true
  selection : input.selected ≠ some []
  strategy : input.pinStrategy = none ∨ input.mode = .baseline

def sentRequest (input : ReEvaluateInput) : ReEvaluateRequest :=
  { assetName := input.assetName
    sloName := (selectorToSloFields (buildSelector input)).1
    sloNames := (selectorToSloFields (buildSelector input)).2
    fromDate := input.mode.anchor.1
    fromBaseline := input.mode.anchor.2.1
    fromEvaluationId := input.mode.anchor.2.2
    sloVersion := input.sloVersion
    dryRun := input.dryRun
    pinStrategy := if input.mode = .baseline then input.pinStrategy else none }

theorem receive_eq (input : ReEvaluateInput) :
    receive (reEvaluateInputToDto input) = (do
      checkName input.assetName
      checkSelector (buildSelector input)
      return sentRequest input) := by
  unfold receive reEvaluateInputToDto sentRequest
  cases input.mode
  all_goals
    simp only [ReEvaluateFromDateRequest.ofBody, ReEvaluateFromBaselineRequest.ofBody,
      ReEvaluateFromEvaluationRequest.ofBody, buildScope, checkScope]
    cases checkName input.assetName with
    | error failure => rfl
    | ok _ => cases checkSelector (buildSelector input) <;> rfl

theorem checkName_isOk (name : String) :
    (checkName name).isOk = true ↔ (checkSafeStr name).isOk = true := by
  unfold checkName
  rw [mapError_isOk]

theorem checkSelector_isOk (input : ReEvaluateInput) :
    (checkSelector (buildSelector input)).isOk = true ↔
      forall name, name ∈ input.selected.getD [] -> (checkSafeStr name).isOk = true := by
  unfold buildSelector ReEvaluateInput.selected
  cases input.sloName with
  | some sloName =>
      change (checkName sloName).isOk = true ↔ forall name, name ∈ [sloName] -> _
      rw [List.forall_mem_singleton]
      exact checkName_isOk sloName
  | none =>
      cases input.sloNames with
      | none => exact ⟨fun _ _ impossible => absurd impossible List.not_mem_nil, fun _ => rfl⟩
      | some sloNames =>
          cases sloNames with
          | nil => exact ⟨fun _ _ impossible => absurd impossible List.not_mem_nil, fun _ => rfl⟩
          | cons first rest =>
              have checks := forM_isOk checkName (first :: rest)
              simp only [checkName_isOk] at checks
              change ((first :: rest).forM checkName >>= fun _ =>
                (.ok () : Except WireError Unit)).isOk = true ↔
                  forall name, name ∈ first :: rest -> _
              rw [<- checks, bind_isOk, isOk_iff ((first :: rest).forM checkName)]
              constructor
              · rintro ⟨value, checked, _⟩
                exact ⟨value, checked⟩
              · rintro ⟨value, checked⟩
                exact ⟨value, checked, rfl⟩

theorem receive_eq_ok {input : ReEvaluateInput} {request : ReEvaluateRequest} :
    receive (reEvaluateInputToDto input) = .ok request ↔
      (forall name, name ∈ input.assetName :: input.selected.getD [] ->
        (checkSafeStr name).isOk = true) ∧ request = sentRequest input := by
  rw [receive_eq, List.forall_mem_cons, <- checkName_isOk, <- checkSelector_isOk]
  cases checkName input.assetName with
  | error failure =>
      constructor
      · intro impossible
        cases impossible
      · rintro ⟨⟨impossible, _⟩, _⟩
        cases impossible
  | ok _ =>
      cases checkSelector (buildSelector input) with
      | error failure =>
          constructor
          · intro impossible
            cases impossible
          · rintro ⟨⟨_, impossible⟩, _⟩
            cases impossible
      | ok _ =>
          constructor
          · intro same
            exact ⟨⟨rfl, rfl⟩, (Except.ok.inj same).symm⟩
          · rintro ⟨_, same⟩
            rw [same]
            rfl

theorem carries_sentRequest (input : ReEvaluateInput) :
    Carries input (sentRequest input) ↔
      input.selected ≠ some [] ∧ (input.pinStrategy = none ∨ input.mode = .baseline) := by
  have strategy : (sentRequest input).pinStrategy = input.pinStrategy ↔
      input.pinStrategy = none ∨ input.mode = .baseline := by
    change (if input.mode = .baseline then input.pinStrategy else none) = input.pinStrategy ↔ _
    by_cases baseline : input.mode = .baseline
    · simp [baseline]
    · rw [if_neg baseline]
      exact ⟨fun same => Or.inl same.symm, fun either => (either.resolve_right baseline).symm⟩
  have selected : (sentRequest input).selected = input.selected ↔ input.selected ≠ some [] := by
    unfold ReEvaluateRequest.selected sentRequest buildSelector ReEvaluateInput.selected
    cases input.sloName with
    | some sloName => simp [selectorToSloFields]
    | none =>
        cases input.sloNames with
        | none => simp [selectorToSloFields]
        | some sloNames => cases sloNames <;> simp [selectorToSloFields]
  constructor
  · intro carries
    exact ⟨selected.mp carries.selected, strategy.mp carries.pinStrategy⟩
  · rintro ⟨some, given⟩
    exact ⟨rfl, rfl, rfl, rfl, strategy.mpr given, selected.mpr some⟩

def isPinConflict : ReEvalError -> Prop
  | .baselinePinConflict _ _ => True
  | _ => False

section Settled

variable {request : ReEvaluateRequest}
  (settled : request.fromBaseline = true ∨ request.pinStrategy ≠ none)

include settled

theorem resolvePinConflict_avoids (table : Evaluations) (fromDate : Instant) (assetId : Nat)
    (sloName : String) :
    Avoids isPinConflict (resolvePinConflict request table fromDate assetId sloName) := by
  unfold resolvePinConflict
  by_cases fromBaseline : request.fromBaseline = true
  · rw [if_pos fromBaseline]
    exact avoids_ok _
  · rw [if_neg fromBaseline]
    rcases getActivePin table assetId sloName with _ | _ | ⟨pinDate, pinEvalId⟩
    · exact avoids_error id
    · exact avoids_ok _
    · dsimp only
      split
      · exact avoids_ok _
      · cases given : request.pinStrategy with
        | none => exact absurd given (settled.resolve_left fromBaseline)
        | some strategy => cases strategy <;> exact avoids_ok _

omit settled in
theorem resolveFromDate_avoids (table : Evaluations) (assetId : Nat) (sloName : String) :
    Avoids isPinConflict (resolveFromDate request table assetId sloName) := by
  unfold resolveFromDate
  split
  · exact avoids_ok _
  · split
    · exact avoids_error id
    · exact avoids_ok _
  · dsimp only
    split
    · exact avoids_error id
    · exact avoids_ok _

theorem resolveWindow_avoids (db : Database) (assetId : Nat) (sloName : String) :
    Avoids isPinConflict (resolveWindow request db assetId sloName) := by
  unfold resolveWindow
  refine (avoids_orRaise id _).bind fun sloDef => ?_
  split
  · exact avoids_error id
  · refine (resolveFromDate_avoids _ _ _).bind fun fromDate => ?_
    exact (resolvePinConflict_avoids settled _ _ _ _).bind fun _ => avoids_ok _

omit settled in
theorem rescoreWindow_avoids (window : Window) (clock : Nat -> Instant) (dryRun : Bool)
    (db : Database) : Avoids isPinConflict (rescoreWindow window clock dryRun db) := by
  have baselines : forall table before range ids,
      Avoids isPinConflict (window.baselines table before range ids) :=
    fun _ _ _ _ => avoids_orRaise id _
  have persists : forall now dryRun db ev evalResult,
      Avoids isPinConflict (persistUnlessDry window now dryRun db ev evalResult) := by
    intro now dryRun db ev evalResult
    unfold persistUnlessDry persistReevalResult
    dsimp only
    split
    · exact avoids_ok _
    · split
      · exact avoids_ok _
      · exact avoids_orRaise id _
  have single : forall range db ids ev,
      Avoids isPinConflict (rescoreSingle window range clock dryRun db ids ev) := by
    intro range db ids ev
    have rescores : Avoids isPinConflict (rescore window range db ids ev) := by
      refine (baselines _ _ _ _).bind fun baselineEvals => ?_
      refine (avoids_mapError (fun _ => id) _).bind fun _ => ?_
      exact avoids_mapError (fun _ => id) _
    exact rescores.bind fun _ => (persists _ _ _ _ _).bind fun _ => avoids_ok _
  have all : forall evals range db ids,
      Avoids isPinConflict (rescoreAll window range clock dryRun db ids evals) := by
    intro evals range
    induction evals with
    | nil => exact fun _ _ => avoids_ok _
    | cons ev rest ih =>
        intro db ids
        exact (single _ _ _ _).bind fun _ =>
          (ih _ _).bind fun _ => avoids_ok _
  unfold rescoreWindow
  split
  · exact avoids_ok _
  · exact (baselines _ _ _ _).bind fun _ => all _ _ _ _

/-- A re-evaluation from a baseline or with a strategy is never refused with a conflict. -/
theorem reEvaluate_avoids (assigned : Nat -> List String) (clock : Nat -> Instant) (db : Database) :
    Avoids isPinConflict (reEvaluate assigned clock db request) := by
  have looped : forall names assetId db,
      Avoids isPinConflict (reEvaluateSlos request clock assetId db names) := by
    intro names assetId
    induction names with
    | nil => exact fun _ => avoids_ok _
    | cons name rest ih =>
        intro db
        have single : Avoids isPinConflict
            (reEvaluateSingleSlo request clock assetId db name) :=
          (resolveWindow_avoids settled _ _ _).bind fun window =>
            (rescoreWindow_avoids window clock request.dryRun db).bind fun _ => avoids_ok _
        exact single.bind fun _ => (ih _).bind fun _ => avoids_ok _
  have named : forall assetId,
      Avoids isPinConflict (requestedSlos assigned request assetId) := by
    intro assetId
    unfold requestedSlos
    split
    · exact avoids_ok _
    · exact avoids_ok _
    · split
      · exact avoids_error id
      · exact avoids_ok _
  refine (avoids_orRaise id _).bind fun asset => ?_
  exact (named _).bind fun names => (looped names _ db).bind fun _ => avoids_ok _

end Settled

/-- The request of an input asks for the same, and a strategy settles a conflict, exactly
when the input selects an SLO and gives a strategy only from a baseline. -/
theorem survives_iff_expressible (input : ReEvaluateInput) :
    Survives input ↔ Expressible input := by
  constructor
  · intro survives
    rcases survives.arrives with ⟨request, received, carries⟩
    rcases receive_eq_ok.mp received with ⟨names, isSent⟩
    rw [isSent, carries_sentRequest] at carries
    exact ⟨names, carries.1, carries.2⟩
  · intro expressible
    have received := receive_eq_ok.mpr ⟨expressible.names, rfl⟩
    have carries := (carries_sentRequest input).mpr ⟨expressible.selection, expressible.strategy⟩
    refine ⟨⟨_, received, carries⟩, fun assigned clock db _ given conflict => ?_⟩
    have baseline := expressible.strategy.resolve_left given
    rcases conflict with ⟨pinDate, pinEvalId, conflict⟩
    have settled : (sentRequest input).fromBaseline = true := by
      change input.mode.anchor.2.1 = true
      rw [baseline]
      rfl
    unfold submit at conflict
    rw [received] at conflict
    change (reEvaluate assigned clock db (sentRequest input)).mapError WireError.service = _ at conflict
    cases ran : reEvaluate assigned clock db (sentRequest input) with
    | ok outcome =>
        rw [ran] at conflict
        cases conflict
    | error failure =>
        rw [ran] at conflict
        cases conflict
        exact reEvaluate_avoids (Or.inl settled) assigned clock db _ ran trivial

namespace Sample

def pinnedDatabase : Database :=
  { database with
    evaluations :=
      ⟨[failedEvaluation 10 0 100,
        { failedEvaluation 11 3600000000 200 with baselinePinnedAt := some 7200000000 }],
        by decide⟩ }

def formInput (pinStrategy : Option PinStrategy) : ReEvaluateInput :=
  submitReEval "storefront" ["checkout"] false 0 pinStrategy

def answer (pinStrategy : Option PinStrategy) :
    Except WireError (Database × ReEvaluateResponse) :=
  submit (fun _ => []) (fun _ => 0) pinnedDatabase (formInput pinStrategy)

end Sample

theorem pinConflict_of_match {outcome : Except WireError (Database × ReEvaluateResponse)}
    (refused : (match outcome with
      | .error (.service (.baselinePinConflict _ _)) => true
      | _ => false) = true) : PinConflict outcome := by
  split at refused
  · exact ⟨_, _, rfl⟩
  · cases refused

/-- The form is refused, and refused again whatever strategy it sends.  An input without
names becomes one for every SLO. -/
theorem form_strategy_lost :
    PinConflict (Sample.answer none) ∧ PinConflict (Sample.answer (some .skipToPin)) ∧
      PinConflict (Sample.answer (some .ignorePin)) ∧
      ¬ Survives (Sample.formInput (some .ignorePin)) ∧
      ¬ Survives (submitReEval "storefront" [] true 0 none) := by
  have first : PinConflict (Sample.answer none) := pinConflict_of_match (by decide +kernel)
  have skipped : PinConflict (Sample.answer (some .skipToPin)) :=
    pinConflict_of_match (by decide +kernel)
  have ignored : PinConflict (Sample.answer (some .ignorePin)) :=
    pinConflict_of_match (by decide +kernel)
  refine ⟨first, skipped, ignored, fun survives => ?_, fun survives => ?_⟩
  · exact survives.settles _ _ _ first (Option.some_ne_none _) ignored
  · rcases survives.arrives with ⟨request, received, carries⟩
    rw [(receive_eq_ok.mp received).2] at carries
    exact ((carries_sentRequest _).mp carries).1 rfl

end ReEvaluation
end Tropek
