import Tropek.Manifest.Client

namespace Tropek
namespace Manifest

open Library

/-!
# Applying a manifest

`apply` goes through the documents in their order and compares each with the state
at that moment.  A document that fails blocks the kinds that depend on its kind, for
the rest of the run.
-/

inductive Call where
  | comparing
  | creating
  | updating
deriving DecidableEq, Repr

inductive Outcome where
  | blocked
  | skipped
  | created
  | updated
  | failed (call : Call) (error : ClientError)
deriving DecidableEq, Repr

def Outcome.issued : Outcome -> Bool
  | .created | .updated | .failed .creating _ | .failed .updating _ => true
  | .blocked | .skipped | .failed .comparing _ => false

inductive Verdict where
  | missing
  | differs
  | same
deriving DecidableEq, Repr

def compare (faults : Faults) (doc : ManifestDocument) : Request Verdict := do
  match <- lookup faults doc with
  | none => return .missing
  | some existing =>
      if <- hasDiff faults doc existing then return .differs else return .same

def concluded (call : Call) (success : Outcome) :
    Except ClientError PUnit × Session -> Outcome × Session
  | (.ok _, session) => (success, session)
  | (.error error, session) => (.failed call error, session)

theorem concluded_session (call : Call) (success : Outcome)
    (answer : Except ClientError PUnit × Session) :
    (concluded call success answer).2 = answer.2 := by
  rcases answer with ⟨_ | _, session⟩ <;> rfl

def process (faults : Faults) (doc : ManifestDocument) (session : Session) : Outcome × Session :=
  match (compare faults doc).run session with
  | (.error error, session) => (.failed .comparing error, session)
  | (.ok .same, session) => (.skipped, session)
  | (.ok .missing, session) =>
      concluded .creating .created ((create faults doc).run session)
  | (.ok .differs, session) =>
      concluded .updating .updated ((update faults doc).run session)

/-- A document that could not be applied.  `error`: nothing for `blocked by prior
error`. -/
structure ApplyError where
  kind : Kind
  name : String
  error : Option ClientError
deriving DecidableEq, Repr

structure ApplyResult where
  created : Nat := 0
  updated : Nat := 0
  skipped : Nat := 0
  failed : Nat := 0
  errors : List ApplyError := []
deriving DecidableEq, Repr

def ApplyResult.count (result : ApplyResult) (doc : ManifestDocument) : Outcome -> ApplyResult
  | .blocked => { result with
      failed := result.failed + 1
      errors := result.errors ++ [⟨doc.kind, doc.name, none⟩] }
  | .skipped => { result with skipped := result.skipped + 1 }
  | .created => { result with created := result.created + 1 }
  | .updated => { result with updated := result.updated + 1 }
  | .failed _ error => { result with
      failed := result.failed + 1
      errors := result.errors ++ [⟨doc.kind, doc.name, some error⟩] }

/-- An application between two documents: the backend, what is reported so far, and the
kinds in which a document has failed. -/
structure Progress where
  session : Session
  result : ApplyResult := {}
  blockedKinds : List Kind := []

def start (api : Api) : Progress where
  session := { api }

def blockedAfter (blocked : List Kind) (kind : Kind) : Outcome -> List Kind
  | .failed _ _ => blocked ++ dependentsOf kind
  | .blocked | .skipped | .created | .updated => blocked

def Progress.attempt (progress : Progress) (faults : Faults) (doc : ManifestDocument) :
    Outcome × Session :=
  if progress.blockedKinds.contains doc.kind then (.blocked, progress.session)
  else process faults doc progress.session

def Progress.applyDocument (faults : Faults) (progress : Progress) (doc : ManifestDocument) :
    Progress where
  session := (progress.attempt faults doc).2
  result := progress.result.count doc (progress.attempt faults doc).1
  blockedKinds := blockedAfter progress.blockedKinds doc.kind (progress.attempt faults doc).1

/-- `apply`, from a state of the run on. -/
def Progress.applyAll (faults : Faults) (progress : Progress) (docs : List ManifestDocument) :
    Progress :=
  docs.foldl (Progress.applyDocument faults) progress

def apply (faults : Faults) (api : Api) (docs : List ManifestDocument) : Progress :=
  (start api).applyAll faults docs

variable {doc : ManifestDocument} {faults : Faults} {progress : Progress}

theorem attempt_of_unblocked (unblocked : doc.kind ∉ progress.blockedKinds) :
    progress.attempt faults doc = process faults doc progress.session := by
  unfold Progress.attempt
  exact if_neg fun listed => unblocked (List.contains_iff_mem.mp listed)

theorem attempt_of_blocked (blocked : doc.kind ∈ progress.blockedKinds) :
    progress.attempt faults doc = (.blocked, progress.session) := by
  unfold Progress.attempt
  exact if_pos (List.contains_iff_mem.mpr blocked)

@[simp] theorem applyAll_cons (faults : Faults) (progress : Progress) (doc : ManifestDocument)
    (docs : List ManifestDocument) :
    progress.applyAll faults (doc :: docs) =
      (progress.applyDocument faults doc).applyAll faults docs :=
  rfl

/-- The condition holds of each document, in the state in which it is applied. -/
def Progress.AtEach (faults : Faults) (condition : Progress -> ManifestDocument -> Prop) :
    Progress -> List ManifestDocument -> Prop
  | _, [] => True
  | progress, doc :: rest =>
      condition progress doc ∧ AtEach faults condition (progress.applyDocument faults doc) rest

/-- The condition holds of some document, in the state in which it is applied. -/
def Progress.AtSome (faults : Faults) (condition : Progress -> ManifestDocument -> Prop) :
    Progress -> List ManifestDocument -> Prop
  | _, [] => False
  | progress, doc :: rest =>
      condition progress doc ∨ AtSome faults condition (progress.applyDocument faults doc) rest

theorem atEach_of_step {condition conclusion : Progress -> ManifestDocument -> Prop}
    {invariant : Progress -> Prop}
    (step : forall progress doc, invariant progress -> condition progress doc ->
      conclusion progress doc ∧ invariant (progress.applyDocument faults doc))
    {docs : List ManifestDocument} (holds : invariant progress)
    (given : progress.AtEach faults condition docs) :
    progress.AtEach faults conclusion docs ∧ invariant (progress.applyAll faults docs) := by
  induction docs generalizing progress with
  | nil => exact ⟨trivial, holds⟩
  | cons doc rest ih =>
      rcases step progress doc holds given.1 with ⟨concluded, kept⟩
      rcases ih kept given.2 with ⟨later, final⟩
      exact ⟨⟨concluded, later⟩, final⟩

end Manifest
end Tropek
