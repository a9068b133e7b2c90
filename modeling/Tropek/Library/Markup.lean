import Mathlib.Data.List.Basic
import Mathlib.Data.List.Forall2

namespace Tropek
namespace Library

/-!
# The tags of a fragment of HTML

A browser reads a fragment character by character.  What it takes for tags depends on
the state it is in: the same quotation mark is text between two tags and ends a value
inside of one.  The reader below follows the states of the HTML standard for tags,
attributes and comments, and collects the source of each tag, with its attributes.
A tag that is not closed at the end of the fragment is dropped.

Elements whose content is not markup, such as scripts, are read like any other.
-/

namespace Markup

inductive Mode where
  | data
  | tagOpen
  | endTagOpen
  | tagName
  | beforeAttributeName
  | attributeName
  | afterAttributeName
  | beforeAttributeValue
  | valueDoubleQuoted
  | valueSingleQuoted
  | valueUnquoted
  | afterValueQuoted
  | selfClosing
  | markupDeclaration
  | markupDash
  | bogusComment
  | commentStart
  | commentStartDash
  | comment
  | commentEndDash
  | commentEnd
  | commentEndBang
deriving DecidableEq, Repr

/-- Where the reader is, with the source of the tag it is in and of the tags before it. -/
structure Reader where
  mode : Mode
  raw : List Char
  tags : List (List Char)
deriving DecidableEq, Repr

namespace Reader

def toData (reader : Reader) : Reader :=
  { reader with mode := .data, raw := [] }

def skip (reader : Reader) (mode : Mode) : Reader :=
  { reader with mode }

/-- The character belongs to the tag. -/
def keep (reader : Reader) (mode : Mode) (c : Char) : Reader :=
  { reader with mode, raw := reader.raw ++ [c] }

def close (reader : Reader) : Reader :=
  { mode := .data, raw := [], tags := reader.tags ++ [reader.raw] }

end Reader

def isSpace (c : Char) : Bool :=
  c = ' ' || c = '\n' || c = '\t' || c = '\r' || c = Char.ofNat 12

def stepData (reader : Reader) (c : Char) : Reader :=
  if c = '<' then reader.skip .tagOpen else reader

def stepAfterAttributeName (reader : Reader) (c : Char) : Reader :=
  if isSpace c then reader.keep .afterAttributeName c
  else if c = '/' then reader.keep .selfClosing c
  else if c = '=' then reader.keep .beforeAttributeValue c
  else if c = '>' then reader.close
  else reader.keep .attributeName c

def stepBeforeAttributeName (reader : Reader) (c : Char) : Reader :=
  if isSpace c then reader.keep .beforeAttributeName c
  else if c = '/' || c = '>' then stepAfterAttributeName reader c
  else reader.keep .attributeName c

def stepBogusComment (reader : Reader) (c : Char) : Reader :=
  if c = '>' then reader.toData else reader.skip .bogusComment

def step (reader : Reader) (c : Char) : Reader :=
  match reader.mode with
  | .data => stepData reader c
  | .tagOpen =>
      if c = '!' then reader.skip .markupDeclaration
      else if c = '/' then reader.keep .endTagOpen c
      else if c.isAlpha then reader.keep .tagName c
      else if c = '?' then reader.skip .bogusComment
      else stepData reader.toData c
  | .endTagOpen =>
      if c.isAlpha then reader.keep .tagName c
      else if c = '>' then reader.toData
      else reader.toData.skip .bogusComment
  | .tagName =>
      if isSpace c then reader.keep .beforeAttributeName c
      else if c = '/' then reader.keep .selfClosing c
      else if c = '>' then reader.close
      else reader.keep .tagName c
  | .beforeAttributeName => stepBeforeAttributeName reader c
  | .attributeName =>
      if isSpace c || c = '/' || c = '>' then stepAfterAttributeName reader c
      else if c = '=' then reader.keep .beforeAttributeValue c
      else reader.keep .attributeName c
  | .afterAttributeName => stepAfterAttributeName reader c
  | .beforeAttributeValue =>
      if isSpace c then reader.keep .beforeAttributeValue c
      else if c = '"' then reader.keep .valueDoubleQuoted c
      else if c = '\'' then reader.keep .valueSingleQuoted c
      else if c = '>' then reader.close
      else reader.keep .valueUnquoted c
  | .valueDoubleQuoted =>
      reader.keep (if c = '"' then .afterValueQuoted else .valueDoubleQuoted) c
  | .valueSingleQuoted =>
      reader.keep (if c = '\'' then .afterValueQuoted else .valueSingleQuoted) c
  | .valueUnquoted =>
      if isSpace c then reader.keep .beforeAttributeName c
      else if c = '>' then reader.close
      else reader.keep .valueUnquoted c
  | .afterValueQuoted =>
      if isSpace c then reader.keep .beforeAttributeName c
      else if c = '/' then reader.keep .selfClosing c
      else if c = '>' then reader.close
      else stepBeforeAttributeName reader c
  | .selfClosing =>
      if c = '>' then reader.close else stepBeforeAttributeName reader c
  | .markupDeclaration =>
      if c = '-' then reader.skip .markupDash else stepBogusComment reader c
  | .markupDash =>
      if c = '-' then reader.skip .commentStart else stepBogusComment reader c
  | .bogusComment => stepBogusComment reader c
  | .commentStart =>
      if c = '-' then reader.skip .commentStartDash
      else if c = '>' then reader.toData
      else reader.skip .comment
  | .commentStartDash =>
      if c = '-' then reader.skip .commentEnd
      else if c = '>' then reader.toData
      else reader.skip .comment
  | .comment => reader.skip (if c = '-' then .commentEndDash else .comment)
  | .commentEndDash => reader.skip (if c = '-' then .commentEnd else .comment)
  | .commentEnd =>
      if c = '>' then reader.toData
      else if c = '!' then reader.skip .commentEndBang
      else reader.skip (if c = '-' then .commentEnd else .comment)
  | .commentEndBang =>
      if c = '-' then reader.skip .commentEndDash
      else if c = '>' then reader.toData
      else reader.skip .comment

def scan (reader : Reader) (html : List Char) : Reader :=
  html.foldl step reader

def start : Reader :=
  { mode := .data, raw := [], tags := [] }

/-- The tags of a fragment, each as it is written between its brackets. -/
def tags (html : List Char) : List (List Char) :=
  (scan start html).tags

example : tags "<b style=\"x>y\">a < b</b><!-- <i> --><br/>".toList =
    ["b style=\"x>y\"".toList, "/b".toList, "br/".toList] := by decide +kernel

/-- The same reader behind some tags. -/
def Reader.behind (before : List (List Char)) (reader : Reader) : Reader :=
  { reader with tags := before ++ reader.tags }

section Behind

variable (before : List (List Char)) (reader : Reader) (c : Char)

theorem skip_behind (mode : Mode) :
    (reader.behind before).skip mode = (reader.skip mode).behind before := rfl

theorem keep_behind (mode : Mode) :
    (reader.behind before).keep mode c = (reader.keep mode c).behind before := rfl

theorem toData_behind : (reader.behind before).toData = reader.toData.behind before := rfl

theorem close_behind : (reader.behind before).close = reader.close.behind before := by
  simp [Reader.close, Reader.behind]

theorem stepData_behind :
    stepData (reader.behind before) c = (stepData reader c).behind before := by
  unfold stepData
  split <;> rfl

theorem stepAfterAttributeName_behind :
    stepAfterAttributeName (reader.behind before) c =
      (stepAfterAttributeName reader c).behind before := by
  unfold stepAfterAttributeName
  simp only [keep_behind, close_behind, apply_ite (Reader.behind before)]

theorem stepBeforeAttributeName_behind :
    stepBeforeAttributeName (reader.behind before) c =
      (stepBeforeAttributeName reader c).behind before := by
  unfold stepBeforeAttributeName
  simp only [keep_behind, stepAfterAttributeName_behind, apply_ite (Reader.behind before)]

theorem stepBogusComment_behind :
    stepBogusComment (reader.behind before) c = (stepBogusComment reader c).behind before := by
  unfold stepBogusComment
  simp only [skip_behind, toData_behind, apply_ite (Reader.behind before)]

/-- What is read next does not depend on the tags before. -/
theorem step_behind : step (reader.behind before) c = (step reader c).behind before := by
  have mode : (reader.behind before).mode = reader.mode := rfl
  unfold step
  rw [mode]
  cases reader.mode <;>
    simp only [skip_behind, keep_behind, toData_behind, close_behind, stepData_behind,
      stepAfterAttributeName_behind, stepBeforeAttributeName_behind, stepBogusComment_behind,
      apply_ite (Reader.behind before)]

end Behind

theorem scan_behind (before : List (List Char)) (reader : Reader) (html : List Char) :
    scan (reader.behind before) html = (scan reader html).behind before := by
  induction html generalizing reader with
  | nil => rfl
  | cons c rest ih =>
      change scan (step (reader.behind before) c) rest = (scan (step reader c) rest).behind before
      rw [step_behind, ih]

/-- A fragment between whose tags and behind which there is text. -/
def Whole (html : List Char) (found : List (List Char)) : Prop :=
  forall before, scan { mode := .data, raw := [], tags := before } html =
    { mode := .data, raw := [], tags := before ++ found }

variable {found : List (List Char)} {html first second : List Char}

theorem Whole.tags_eq (whole : Whole html found) : tags html = found :=
  congrArg Reader.tags (whole [])

/-- It is enough to read a fragment by itself. -/
theorem Whole.of_scan (read : scan start html = { mode := .data, raw := [], tags := found }) :
    Whole html found := by
  intro before
  have behind := scan_behind before start html
  rw [read] at behind
  simpa [Reader.behind, start] using behind

theorem Whole.nil : Whole [] [] := fun before => by
  rw [List.append_nil]
  rfl

theorem Whole.append {more : List (List Char)} (left : Whole first found)
    (right : Whole second more) : Whole (first ++ second) (found ++ more) := by
  intro before
  unfold scan
  rw [List.foldl_append]
  change scan (scan _ first) second = _
  rw [left before, right, List.append_assoc]

/-- Text without an opening bracket has no tags. -/
theorem Whole.text {text : List Char} (plain : '<' ∉ text) : Whole text [] := by
  intro before
  rw [List.append_nil]
  induction text with
  | nil => rfl
  | cons c rest ih =>
      rcases List.ne_and_not_mem_of_not_mem_cons plain with ⟨notOpen, plainRest⟩
      change scan (stepData _ c) rest = _
      unfold stepData
      rw [if_neg (Ne.symm notOpen)]
      exact ih plainRest

theorem Whole.flatMap {Part : Type} {htmlOf : Part -> List Char}
    {tagsOf : Part -> List (List Char)} {parts : List Part}
    (whole : forall part, part ∈ parts -> Whole (htmlOf part) (tagsOf part)) :
    Whole (parts.flatMap htmlOf) (parts.flatMap tagsOf) := by
  induction parts with
  | nil => exact Whole.nil
  | cons part rest ih =>
      rw [List.forall_mem_cons] at whole
      exact whole.1.append (ih whole.2)

/-- Inside a quoted value every character but the quotation mark belongs to it. -/
theorem scan_value {value : List Char} (unquoted : '"' ∉ value) (raw : List Char)
    (before : List (List Char)) :
    scan { mode := .valueDoubleQuoted, raw, tags := before } value =
      { mode := .valueDoubleQuoted, raw := raw ++ value, tags := before } := by
  induction value generalizing raw with
  | nil =>
      rw [List.append_nil]
      rfl
  | cons c rest ih =>
      rcases List.ne_and_not_mem_of_not_mem_cons unquoted with ⟨notQuote, unquotedRest⟩
      have one : step { mode := .valueDoubleQuoted, raw, tags := before } c =
          { mode := .valueDoubleQuoted, raw := raw ++ [c], tags := before } := by
        unfold step
        dsimp only
        rw [if_neg (Ne.symm notQuote)]
        rfl
      change scan (step _ c) rest = _
      rw [one, ih unquotedRest, List.append_assoc]
      rfl

/-- A tag whose last attribute has a quoted value. -/
theorem Whole.valued {opening : List Char} {value : List Char} (unquoted : '"' ∉ value)
    {raw : List Char}
    (opens : scan start opening = { mode := .valueDoubleQuoted, raw, tags := [] }) :
    Whole (opening ++ value ++ ['"', '>']) [raw ++ value ++ ['"']] := by
  apply Whole.of_scan
  unfold scan
  rw [List.foldl_append, List.foldl_append]
  change scan (scan (scan start opening) value) ['"', '>'] = _
  rw [opens, scan_value unquoted]
  rfl

/-- The first of several separated fragments, and the others with their separators. -/
theorem intercalate_cons (separator first : List Char) (rest : List (List Char)) :
    separator.intercalate (first :: rest) = first ++ rest.flatMap (separator ++ ·) := by
  induction rest generalizing first with
  | nil => simp [List.intercalate]
  | cons second others ih =>
      have step : separator.intercalate (first :: second :: others) =
          first ++ (separator ++ separator.intercalate (second :: others)) := by
        simp [List.intercalate, List.intersperse]
      rw [step, ih, List.flatMap_cons, List.append_assoc]

/-- Two fragments with the same tags. -/
def SameTags (first second : List Char) : Prop :=
  Exists fun found => Whole first found ∧ Whole second found

theorem Whole.same (whole : Whole html found) : SameTags html html :=
  ⟨found, whole, whole⟩

theorem SameTags.tags_eq (same : SameTags first second) : tags first = tags second := by
  rcases same with ⟨found, left, right⟩
  rw [left.tags_eq, right.tags_eq]

theorem SameTags.text (plain : '<' ∉ first) (alsoPlain : '<' ∉ second) : SameTags first second :=
  ⟨[], Whole.text plain, Whole.text alsoPlain⟩

theorem SameTags.append {more other : List Char} (same : SameTags first second)
    (also : SameTags more other) : SameTags (first ++ more) (second ++ other) := by
  rcases same with ⟨found, left, right⟩
  rcases also with ⟨added, alsoLeft, alsoRight⟩
  exact ⟨found ++ added, left.append alsoLeft, right.append alsoRight⟩

theorem SameTags.flatMap {Part Other : Type} {related : Part -> Other -> Prop}
    {htmlOf : Part -> List Char} {otherHtml : Other -> List Char}
    (same : forall part other, related part other -> SameTags (htmlOf part) (otherHtml other))
    {parts : List Part} {others : List Other} (alike : List.Forall₂ related parts others) :
    SameTags (parts.flatMap htmlOf) (others.flatMap otherHtml) := by
  induction alike with
  | nil => exact Whole.nil.same
  | cons here _ ih => exact (same _ _ here).append ih

end Markup

end Library
end Tropek
