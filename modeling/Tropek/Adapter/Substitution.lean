import Mathlib.Data.List.Dedup
import Tropek.Adapter.Indicators

namespace Tropek
namespace Adapter

open Library Engine Store Registry Worker Fallible

/-!
# Substituting once

An aggregated template reaches the adapter as it was written, and the adapter replaces its
placeholders, all at once.  A raw template is substituted twice: the worker replaces the
placeholders of its pattern, and the adapter replaces those that it finds in the text that
comes out, which may be parts of the values.

What counts as a placeholder, and which variables there are, is read from the first
substitution of the mode.  The adapter adds `interval` and `DURATION_SECONDS`, and its
names may have dots.
-/

def spelling : Piece -> String
  | .text c => String.singleton c
  | .placeholder name => "$" ++ name

/-- Every placeholder with a value is replaced, and the values are left alone. -/
def replaceAll (vars : Dict String) (pieces : List Piece) : String :=
  String.join (pieces.map (replaceWith vars))

def AllDefined (vars : Dict String) (pieces : List Piece) : Prop :=
  forall name, Piece.placeholder name ∈ pieces -> name ∈ vars

def workerSpec (mode : SLIMode) (template : String) (interval : Option String)
    (methods : Option (List String)) (vars : Dict String) : Except EngineError QuerySpec :=
  match mode with
  | .raw => do
      let query <- substituteVariables template vars
      return .raw query
  | .aggregated => .ok (.aggregated template interval methods)

/-- The query that the strategy of a spec sends, or the text of its rejection. -/
def strategyQuery (spec : QuerySpec) (vars : Dict String) (start finish : Instant) :
    Except String String :=
  match spec with
  | .raw query => substitute query vars none start finish
  | .aggregated template interval _ => substitute template vars interval start finish

def sentQuery (mode : SLIMode) (template : String) (interval : Option String)
    (methods : Option (List String)) (vars : Dict String) (start finish : Instant) :
    Option String := do
  let spec <- (workerSpec mode template interval methods vars).toOption
  (strategyQuery spec vars start finish).toOption

def placeholdersOf (mode : SLIMode) (template : String) : List Piece :=
  match mode with
  | .raw => templatePieces template
  | .aggregated => dottedPieces template

/-- The variables that the first substitution of the mode looks names up in. -/
def variablesOf (mode : SLIMode) (interval : Option String) (vars : Dict String)
    (start finish : Instant) : Dict String :=
  match mode with
  | .raw => vars
  | .aggregated => mergedVariables vars interval start finish

/-- What is sent is the template with its placeholders replaced at once, and a template
whose placeholders are all defined is sent. -/
def SubstitutedOnce (mode : SLIMode) (template : String) (interval : Option String)
    (methods : Option (List String)) (vars : Dict String) (start finish : Instant) : Prop :=
  (forall sent, sentQuery mode template interval methods vars start finish = some sent ->
    sent = replaceAll (variablesOf mode interval vars start finish)
      (placeholdersOf mode template)) ∧
  (AllDefined (variablesOf mode interval vars start finish) (placeholdersOf mode template) ->
    (sentQuery mode template interval methods vars start finish).isSome = true)

theorem mem_names {pieces : List Piece} {name : String} :
    name ∈ pieces.filterMap Piece.name? ↔ Piece.placeholder name ∈ pieces := by
  rw [List.mem_filterMap]
  constructor
  · rintro ⟨piece, member, isName⟩
    cases piece with
    | text c => cases isName
    | placeholder other =>
        cases isName
        exact member
  · intro member
    exact ⟨_, member, rfl⟩

theorem unresolvedNames_eq_nil (merged : Dict String) (pieces : List Piece) :
    unresolvedNames merged pieces = [] ↔ AllDefined merged pieces := by
  unfold unresolvedNames AllDefined
  rw [List.eq_nil_iff_forall_not_mem]
  refine forall_congr' fun name => ?_
  simp only [List.mem_insertionSort, List.mem_dedup, List.mem_filter, mem_names]
  simp

theorem substitute_eq_ok (template : String) (vars : Dict String) (interval : Option String)
    (start finish : Instant) (sent : String) :
    substitute template vars interval start finish = .ok sent ↔
      AllDefined (mergedVariables vars interval start finish) (dottedPieces template) ∧
        sent = replaceAll (mergedVariables vars interval start finish) (dottedPieces template) := by
  unfold substitute
  dsimp only
  by_cases unresolved : unresolvedNames (mergedVariables vars interval start finish)
      (dottedPieces template) = []
  · rw [if_neg (not_not.mpr unresolved), Except.ok.injEq]
    exact ⟨fun same => ⟨(unresolvedNames_eq_nil _ _).mp unresolved, same.symm⟩,
      fun both => both.2.symm⟩
  · rw [if_pos unresolved]
    constructor
    · intro impossible
      cases impossible
    · rintro ⟨defined, _⟩
      exact absurd ((unresolvedNames_eq_nil _ _).mpr defined) unresolved

theorem substituteVariables_eq_ok (template : String) (vars : Dict String) (query : String) :
    substituteVariables template vars = .ok query ↔
      AllDefined vars (templatePieces template) ∧
        query = replaceAll vars (templatePieces template) := by
  have replaced : AllDefined vars (templatePieces template) ->
      substituteVariables template vars = .ok (replaceAll vars (templatePieces template)) := by
    intro defined
    refine bind_eq_ok.mpr
      ⟨(templatePieces template).map (replaceWith vars), ?_, rfl⟩
    rw [mapM_eq_ok, List.forall₂_map_right_iff]
    apply List.forall₂_same.mpr
    intro piece member
    cases piece with
    | text c => rfl
    | placeholder name =>
        rcases Option.isSome_iff_exists.mp (AList.lookup_isSome.mpr (defined name member)) with
          ⟨value, looked⟩
        simp [replacePiece, replaceWith, looked]
  constructor
  · intro succeeded
    have defined : AllDefined vars (templatePieces template) :=
      (substituteVariables_isOk template vars).mp
        ((isOk_iff _).mpr ⟨query, succeeded⟩)
    rw [replaced defined] at succeeded
    cases succeeded
    exact ⟨defined, rfl⟩
  · rintro ⟨defined, same⟩
    rw [same]
    exact replaced defined

def readSoFar : ScanState -> List Char
  | .outside => []
  | .dollar => ['$']
  | .name reversed => '$' :: reversed.reverse

theorem spelling_scanPieces (continues : Char -> Bool) (state : ScanState) (text : List Char) :
    ((scanPieces continues state text).flatMap fun piece => (spelling piece).toList) =
      readSoFar state ++ text := by
  fun_induction scanPieces continues state text
  all_goals simp_all [readSoFar, spelling]

theorem join_spelling (text : String) :
    String.join ((dottedPieces text).map spelling) = text := by
  apply String.toList_injective
  rw [String.toList_join, List.flatMap_map]
  exact spelling_scanPieces isDottedChar .outside text.toList

def changedPieces (vars : Dict String) (pieces : List Piece) : List Piece :=
  pieces.filter fun piece => replaceWith vars piece ≠ spelling piece

/-- The adapter finds no undefined placeholder in the text, and either each placeholder
stands for its own spelling, or several do not and what they stand for spells the same
text. -/
structure Inert (vars : Dict String) (text : String) : Prop where
  defined : AllDefined vars (dottedPieces text)
  unchanged : changedPieces vars (dottedPieces text) = [] ∨
    2 ≤ (changedPieces vars (dottedPieces text)).length ∧
      replaceAll vars (dottedPieces text) = text

theorem replaceAll_of_unchanged {vars : Dict String} {pieces : List Piece}
    (unchanged : changedPieces vars pieces = []) :
    replaceAll vars pieces = String.join (pieces.map spelling) := by
  unfold replaceAll
  refine congrArg String.join (List.map_congr_left fun piece member => ?_)
  have kept := List.filter_eq_nil_iff.mp unchanged piece member
  simpa using kept

theorem replaceAll_ne_of_one_changed {vars : Dict String} {pieces : List Piece}
    (one : (changedPieces vars pieces).length = 1) :
    replaceAll vars pieces ≠ String.join (pieces.map spelling) := by
  intro same
  rcases List.length_eq_one_iff.mp one with ⟨changed, isOnly⟩
  rcases List.filter_eq_cons_iff.mp isOnly with ⟨before, after, split, noneBefore, isChanged, noneAfter⟩
  have beforeSame : replaceAll vars before = String.join (before.map spelling) :=
    replaceAll_of_unchanged (List.filter_eq_nil_iff.mpr noneBefore)
  have afterSame : replaceAll vars after = String.join (after.map spelling) :=
    replaceAll_of_unchanged noneAfter
  unfold replaceAll at same beforeSame afterSame
  simp only [split, List.map_append, List.map_cons, String.join_append, String.join_cons,
    beforeSame, afterSame] at same
  simp at same isChanged
  exact isChanged same

theorem inert_iff (vars : Dict String) (text : String) :
    Inert vars text ↔
      AllDefined vars (dottedPieces text) ∧ replaceAll vars (dottedPieces text) = text := by
  constructor
  · rintro ⟨defined, unchanged | ⟨_, same⟩⟩
    · exact ⟨defined, (replaceAll_of_unchanged unchanged).trans (join_spelling text)⟩
    · exact ⟨defined, same⟩
  · rintro ⟨defined, same⟩
    refine ⟨defined, ?_⟩
    have notOne : (changedPieces vars (dottedPieces text)).length ≠ 1 := fun one =>
      replaceAll_ne_of_one_changed one (same.trans (join_spelling text).symm)
    rcases Nat.eq_zero_or_pos (changedPieces vars (dottedPieces text)).length with none | some
    · exact Or.inl (List.length_eq_zero_iff.mp none)
    · exact Or.inr ⟨by omega, same⟩

theorem scanPieces_no_dollar (continues : Char -> Bool) {text : List Char} (none : '$' ∉ text) :
    scanPieces continues .outside text = text.map .text := by
  induction text with
  | nil =>
      rfl
  | cons c rest ih =>
      have other : c ≠ '$' := fun same => none (same ▸ List.mem_cons_self)
      have later : '$' ∉ rest := fun member => none (List.mem_cons_of_mem c member)
      unfold scanPieces
      rw [if_neg other, ih later, List.map_cons]

theorem inert_of_no_dollar (vars : Dict String) {text : String} (none : '$' ∉ text.toList) :
    Inert vars text := by
  have pieces : dottedPieces text = text.toList.map .text := scanPieces_no_dollar isDottedChar none
  constructor
  · rw [pieces]
    intro name listed
    simp at listed
  · refine Or.inl (List.filter_eq_nil_iff.mpr fun piece member => ?_)
    rw [pieces] at member
    rcases List.mem_map.mp member with ⟨c, _, rfl⟩
    simp [replaceWith, spelling]

theorem toOption_isSome_iff {ε α : Type} (outcome : Except ε α) :
    outcome.toOption.isSome = true ↔ Exists fun value => outcome = .ok value := by
  cases outcome <;> simp [Except.toOption]

section Sent

variable {mode : SLIMode} {template : String} {interval : Option String}
  {methods : Option (List String)} {vars : Dict String} {start finish : Instant}

theorem sentQuery_of_spec {spec : QuerySpec}
    (built : workerSpec mode template interval methods vars = .ok spec) :
    sentQuery mode template interval methods vars start finish =
      (strategyQuery spec vars start finish).toOption := by
  unfold sentQuery
  rw [built]
  rfl

theorem sentQuery_of_error {failure : EngineError}
    (raised : workerSpec mode template interval methods vars = .error failure) :
    sentQuery mode template interval methods vars start finish = none := by
  unfold sentQuery
  rw [raised]
  rfl

theorem workerSpec_raw (defined : AllDefined vars (templatePieces template)) :
    workerSpec .raw template interval methods vars =
      .ok (.raw (replaceAll vars (templatePieces template))) :=
  bind_eq_ok.mpr
    ⟨_, (substituteVariables_eq_ok template vars _).mpr ⟨defined, rfl⟩, rfl⟩

theorem sentQuery_raw_undefined (undefined : ¬ AllDefined vars (templatePieces template)) :
    sentQuery .raw template interval methods vars start finish = none := by
  cases built : workerSpec .raw template interval methods vars with
  | error failure => exact sentQuery_of_error built
  | ok spec =>
      rcases bind_eq_ok.mp built with ⟨query, replaced, _⟩
      exact absurd ((substituteVariables_eq_ok template vars query).mp replaced).1 undefined

end Sent

/-- An aggregated template is substituted once.  A raw template is exactly when the text
that the worker makes of it is inert for the adapter. -/
theorem substitutedOnce_iff (mode : SLIMode) (template : String) (interval : Option String)
    (methods : Option (List String)) (vars : Dict String) (start finish : Instant) :
    SubstitutedOnce mode template interval methods vars start finish ↔
      (mode = .raw -> AllDefined vars (templatePieces template) ->
        Inert (mergedVariables vars none start finish)
          (replaceAll vars (templatePieces template))) := by
  unfold SubstitutedOnce
  cases mode with
  | aggregated =>
      have built : workerSpec .aggregated template interval methods vars =
          .ok (.aggregated template interval methods) := rfl
      rw [sentQuery_of_spec built]
      dsimp only [strategyQuery]
      refine ⟨fun _ isRaw => (by cases isRaw), fun _ => ?_⟩
      refine ⟨fun sent isSent => ?_, fun defined => ?_⟩
      · exact ((substitute_eq_ok _ _ _ _ _ _).mp (toOption_eq_some.mp isSent)).2
      · exact (toOption_isSome_iff _).mpr ⟨_, (substitute_eq_ok _ _ _ _ _ _).mpr ⟨defined, rfl⟩⟩
  | raw =>
      dsimp only [variablesOf, placeholdersOf]
      by_cases defined : AllDefined vars (templatePieces template)
      · rw [sentQuery_of_spec (workerSpec_raw defined)]
        dsimp only [strategyQuery]
        simp only [defined, forall_const, inert_iff]
        constructor
        · rintro ⟨same, accepted⟩
          rcases (toOption_isSome_iff _).mp accepted with ⟨sent, isSent⟩
          have isText := same sent (toOption_eq_some.mpr isSent)
          rcases (substitute_eq_ok _ _ _ _ _ _).mp isSent with ⟨textDefined, replaced⟩
          exact ⟨textDefined, replaced.symm.trans isText⟩
        · rintro ⟨textDefined, unchanged⟩
          have isSent := (substitute_eq_ok _ vars none start finish _).mpr
            ⟨textDefined, unchanged.symm⟩
          refine ⟨fun sent isOther => ?_, (toOption_isSome_iff _).mpr ⟨_, isSent⟩⟩
          rw [isSent] at isOther
          cases isOther
          rfl
      · rw [sentQuery_raw_undefined defined]
        simp [defined]

/-- The variables of an evaluation of an asset whose zone is written with a dollar sign. -/
def zonedVariables (zone : String) : Dict String :=
  buildEvalVariables (some "db") "nightly" (isoformat 0) (isoformat 60000000)
    (single "zone" zone) ∅ ∅ ∅

/-- A value that looks like an undefined variable is rejected, and one that looks like a
defined variable is replaced. -/
theorem dollar_value_substituted_twice :
    (¬ SubstitutedOnce .raw "up\x7bzone=\"$zone\"\x7d" none none (zonedVariables "$eu") 0
        60000000) ∧
      sentQuery .raw "up\x7bzone=\"$zone\"\x7d" none none (zonedVariables "$asset_name") 0
        60000000 = some "up\x7bzone=\"db\"\x7d" := by
  constructor
  · rintro ⟨_, accepted⟩
    have defined : AllDefined (zonedVariables "$eu") (templatePieces "up\x7bzone=\"$zone\"\x7d") :=
      (substituteVariables_isOk _ _).mp (by decide +kernel)
    have rejected : sentQuery .raw "up\x7bzone=\"$zone\"\x7d" none none (zonedVariables "$eu") 0
        60000000 = none := by
      decide +kernel
    have sent := accepted defined
    rw [rejected] at sent
    cases sent
  · decide +kernel

end Adapter
end Tropek
