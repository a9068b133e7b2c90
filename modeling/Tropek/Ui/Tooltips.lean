import Mathlib.Data.List.Perm.Basic
import Tropek.Library.Markup

namespace Tropek
namespace Ui

open Library Markup

/-!
# The tooltips of the trend chart

Two places build HTML for a point of a trend: the tooltip of the chart and the body of the
tooltip of its note label.  Both put in texts that users wrote: the name of the evaluation,
the labels of the note categories and the contents of the notes.

The texts that the program writes itself, such as times and numbers, have no opening
bracket.  That is part of their type.
-/

inductive Theme where
  | current
  | dark
  | light
deriving DecidableEq, Repr

inductive Outcome where
  | pass
  | warning
  | fail
  | error
  | invalidated
deriving DecidableEq, Repr

inductive CategoryColor where
  | sky
  | green
  | amber
  | red
  | purple
  | pink
  | slate
  | gray
deriving DecidableEq, Repr

inductive ChangeDirection where
  | regression
  | improvement
deriving DecidableEq, Repr

structure WrittenText where
  text : String
  plain : '<' ∉ text.toList

/-- A change point with the text that `formatChangePointPct` makes of its numbers. -/
structure TrendChangePoint where
  direction : ChangeDirection
  magnitude : WrittenText

structure NoteCategory where
  label : String
  color : CategoryColor
  showOnGraph : Bool

structure NoteAnnotation where
  content : String
  category : NoteCategory

structure TrendPoint where
  time : WrittenText
  value : WrittenText
  evaluationName : Option String
  outcome : Outcome
  overridden : Bool
  changePoint : Option TrendChangePoint
  notes : List NoteAnnotation

def axisLabel : Theme -> String
  | .current => "#c0c8d0"
  | .dark => "#b0b4ba"
  | .light => "#595959"

def borderColour : Theme -> String
  | .current => "#374151"
  | .dark => "#363a3f"
  | .light => "#e0e0e0"

def resultColour : Theme -> Outcome -> String
  | .current, .pass => "#7dc540"
  | .current, .warning => "#e6be00"
  | .current, .fail => "#dc172a"
  | .current, .error => "#888888"
  | .current, .invalidated => "#b0b0b0"
  | _, .pass => "#46a758"
  | _, .warning => "#ffe629"
  | _, .fail => "#e5484d"
  | _, .error => "#696e77"
  | _, .invalidated => "#777b84"

def CategoryColor.token : CategoryColor -> String
  | .sky => "sky"
  | .green => "green"
  | .amber => "amber"
  | .red => "red"
  | .purple => "purple"
  | .pink => "pink"
  | .slate => "slate"
  | .gray => "gray"

def paletteFg (color : CategoryColor) : String :=
  "var(--color-category-" ++ color.token ++ "-fg)"

def ChangeDirection.text : ChangeDirection -> String
  | .regression => "regression"
  | .improvement => "improvement"

def changePointColour (direction : ChangeDirection) : String :=
  "var(--change-point-" ++ direction.text ++ ")"

def Outcome.upper : Outcome -> String
  | .pass => "PASS"
  | .warning => "WARNING"
  | .fail => "FAIL"
  | .error => "ERROR"
  | .invalidated => "INVALIDATED"

def escapedChar (c : Char) : List Char :=
  if c = '&' then "&amp;".toList
  else if c = '<' then "&lt;".toList
  else if c = '>' then "&gt;".toList
  else if c = '"' then "&quot;".toList
  else if c = Char.ofNat 39 then "&#39;".toList
  else [c]

def escapeHtml (text : String) : List Char :=
  text.toList.flatMap escapedChar

def TrendPoint.visible (point : TrendPoint) : List NoteAnnotation :=
  point.notes.filter (·.category.showOnGraph)

def styled (tag colour : String) : List Char :=
  ("<" ++ tag ++ " style=\"color:").toList ++ colour.toList ++ ['"', '>']

def headLines (theme : Theme) (point : TrendPoint) : List (List Char) :=
  [ styled "b" "#58a6ff" ++ (point.evaluationName.getD "(no evaluation_name)").toList ++
      "</b>".toList,
    "<b>".toList ++ point.time.text.toList ++ "</b>".toList,
    "value: <b>".toList ++ point.value.text.toList ++ "</b>".toList,
    "result: ".toList ++ styled "b" (resultColour theme point.outcome) ++
      point.outcome.upper.toList ++ "</b>".toList ]

def overrideLines (theme : Theme) (point : TrendPoint) : List (List Char) :=
  if point.overridden then
    [styled "span" (axisLabel theme) ++ "(override)</span>".toList]
  else []

def changePointLine (changePoint : TrendChangePoint) : List Char :=
  styled "span" (changePointColour changePoint.direction) ++
    ("◆ " ++ changePoint.direction.text ++ " (").toList ++ changePoint.magnitude.text.toList ++
    ")</span>".toList

def noteLine (note : NoteAnnotation) : List Char :=
  "<div>".toList ++ styled "b" (paletteFg note.category.color) ++ escapeHtml note.category.label ++
    "</b>: ".toList ++ escapeHtml note.content ++ "</div>".toList

def dividerLine (theme : Theme) : List Char :=
  "<div style=\"margin-top:4px;border-top:1px solid ".toList ++ (borderColour theme).toList ++
    ['"', '>'] ++ "</div>".toList

def noteLines (theme : Theme) (point : TrendPoint) : List (List Char) :=
  if point.visible = [] then [] else dividerLine theme :: point.visible.map noteLine

def tooltipFormatter (theme : Theme) (point : TrendPoint) : List Char :=
  "<br/>".toList.intercalate
    (headLines theme point ++ overrideLines theme point ++
      (point.changePoint.map changePointLine).toList ++ noteLines theme point)

def bodyLine (note : NoteAnnotation) : List Char :=
  "<div><b>".toList ++ note.category.label.toList ++ "</b>: ".toList ++ escapeHtml note.content ++
    "</div>".toList

def tooltipBody (point : TrendPoint) : List Char :=
  point.visible.flatMap bodyLine

structure TrendPoint.Accepted (point : TrendPoint) : Prop where
  evaluationName : forall name, point.evaluationName = some name -> Char.ofNat 0 ∉ name.toList
  content : forall note, note ∈ point.notes -> Char.ofNat 0 ∉ note.content.toList
  label : forall note, note ∈ point.notes -> 1 ≤ note.category.label.length ∧
    note.category.label.length ≤ 12 ∧ Char.ofNat 0 ∉ note.category.label.toList

structure SameNote (note other : NoteAnnotation) : Prop where
  color : other.category.color = note.category.color
  showOnGraph : other.category.showOnGraph = note.category.showOnGraph

structure SameButTexts (point other : TrendPoint) : Prop where
  time : other.time = point.time
  value : other.value = point.value
  named : other.evaluationName.isSome = point.evaluationName.isSome
  outcome : other.outcome = point.outcome
  overridden : other.overridden = point.overridden
  changePoint : other.changePoint = point.changePoint
  notes : List.Forall₂ SameNote point.notes other.notes

structure TrendPoint.Bracketless (point : TrendPoint) : Prop where
  evaluationName : forall name, point.evaluationName = some name -> '<' ∉ name.toList
  label : forall note, note ∈ point.visible -> '<' ∉ note.category.label.toList

theorem SameButTexts.visible {point other : TrendPoint} (same : SameButTexts point other) :
    List.Forall₂ SameNote point.visible other.visible :=
  List.rel_filter (fun _ _ alike => by simp only [alike.showOnGraph]) same.notes

theorem escapeHtml_plain (text : String) : '<' ∉ escapeHtml text := by
  intro bracket
  rcases List.mem_flatMap.mp bracket with ⟨c, _, inside⟩
  unfold escapedChar at inside
  split at inside
  · revert inside
    decide
  · split at inside
    · revert inside
      decide
    · rename_i notOpen
      split at inside
      · revert inside
        decide
      · split at inside
        · revert inside
          decide
        · split at inside
          · revert inside
            decide
          · exact notOpen (List.mem_singleton.mp inside).symm

theorem styled_bold {colour : String} (unquoted : '"' ∉ colour.toList) :
    Whole (styled "b" colour) ["b style=\"color:".toList ++ colour.toList ++ ['"']] :=
  Whole.valued unquoted rfl

theorem styled_span {colour : String} (unquoted : '"' ∉ colour.toList) :
    Whole (styled "span" colour) ["span style=\"color:".toList ++ colour.toList ++ ['"']] :=
  Whole.valued unquoted rfl

theorem bold_whole : Whole "<b>".toList ["b".toList] :=
  Whole.of_scan rfl

theorem boldEnd_whole : Whole "</b>".toList ["/b".toList] :=
  Whole.of_scan rfl

theorem resultColour_unquoted (theme : Theme) (outcome : Outcome) :
    '"' ∉ (resultColour theme outcome).toList := by
  cases theme <;> cases outcome <;> decide

theorem paletteFg_unquoted (color : CategoryColor) : '"' ∉ (paletteFg color).toList := by
  cases color <;> decide

theorem changePointColour_unquoted (direction : ChangeDirection) :
    '"' ∉ (changePointColour direction).toList := by
  cases direction <;> decide

theorem axisLabel_unquoted (theme : Theme) : '"' ∉ (axisLabel theme).toList := by
  cases theme <;> decide

theorem borderColour_unquoted (theme : Theme) : '"' ∉ (borderColour theme).toList := by
  cases theme <;> decide

theorem divEnd_whole : Whole "</div>".toList ["/div".toList] :=
  Whole.of_scan rfl

theorem dividerLine_whole (theme : Theme) : Exists fun found => Whole (dividerLine theme) found := by
  have cut : "<div style=\"margin-top:4px;border-top:1px solid ".toList =
      "<div style=\"".toList ++ "margin-top:4px;border-top:1px solid ".toList := by
    rw [<- String.toList_append]
    rfl
  have margin : '"' ∉ "margin-top:4px;border-top:1px solid ".toList := by decide
  have unquoted : '"' ∉ "margin-top:4px;border-top:1px solid ".toList ++
      (borderColour theme).toList := by
    rw [List.mem_append, not_or]
    exact ⟨margin, borderColour_unquoted theme⟩
  unfold dividerLine
  rw [cut, List.append_assoc "<div style=\"".toList]
  exact ⟨_, (Whole.valued unquoted rfl).append divEnd_whole⟩

def behindName (theme : Theme) (point : TrendPoint) : List Char :=
  "</b>".toList ++ ((headLines theme point).drop 1 ++ overrideLines theme point ++
    (point.changePoint.map changePointLine).toList ++ noteLines theme point).flatMap
      ("<br/>".toList ++ ·)

theorem tooltipFormatter_eq (theme : Theme) (point : TrendPoint) :
    tooltipFormatter theme point =
      styled "b" "#58a6ff" ++ (point.evaluationName.getD "(no evaluation_name)").toList ++
        behindName theme point := by
  unfold tooltipFormatter behindName headLines
  rw [List.cons_append, List.cons_append, List.cons_append, intercalate_cons, List.append_assoc]
  rfl

theorem name_styled : Whole (styled "b" "#58a6ff") ["b style=\"color:#58a6ff\"".toList] :=
  styled_bold (by decide)

theorem written_same (written : WrittenText) :
    SameTags written.text.toList written.text.toList :=
  (Whole.text written.plain).same

theorem escaped_same (text other : String) : SameTags (escapeHtml text) (escapeHtml other) :=
  SameTags.text (escapeHtml_plain text) (escapeHtml_plain other)

theorem changePointLine_same (changePoint : TrendChangePoint) :
    SameTags (changePointLine changePoint) (changePointLine changePoint) := by
  have words : '<' ∉ ("◆ " ++ changePoint.direction.text ++ " (").toList := by
    cases changePoint.direction <;> decide
  have ending : Whole ")</span>".toList ["/span".toList] := Whole.of_scan rfl
  have styledPart := styled_span (changePointColour_unquoted changePoint.direction)
  exact (((styledPart.append (Whole.text words)).append
    (Whole.text changePoint.magnitude.plain)).append ending).same

theorem noteLine_same {note other : NoteAnnotation} (same : SameNote note other) :
    SameTags (noteLine note) (noteLine other) := by
  have opening : Whole "<div>".toList ["div".toList] := Whole.of_scan rfl
  have between : Whole "</b>: ".toList ["/b".toList] := Whole.of_scan rfl
  have coloured := (opening.append (styled_bold (paletteFg_unquoted note.category.color))).same
  have labelled := coloured.append (escaped_same note.category.label other.category.label)
  have filled := (labelled.append between.same).append (escaped_same note.content other.content)
  unfold noteLine
  rw [same.color]
  exact filled.append divEnd_whole.same

theorem separated_same {line other : List Char} (same : SameTags line other) :
    SameTags ("<br/>".toList ++ line) ("<br/>".toList ++ other) := by
  have separator : Whole "<br/>".toList ["br/".toList] := Whole.of_scan rfl
  exact separator.same.append same

abbrev SameLines (lines others : List (List Char)) : Prop :=
  List.Forall₂ SameTags lines others

section SameButTexts

variable {point other : TrendPoint} (same : SameButTexts point other)

include same

theorem headLines_same (theme : Theme) :
    SameLines ((headLines theme point).drop 1) ((headLines theme other).drop 1) := by
  have prefixed : Whole "value: <b>".toList ["b".toList] := Whole.of_scan rfl
  have result : Whole "result: ".toList [] := Whole.of_scan rfl
  have upper : '<' ∉ point.outcome.upper.toList := by
    cases point.outcome <;> decide
  have time := (bold_whole.same.append (written_same point.time)).append boldEnd_whole.same
  have value := (prefixed.same.append (written_same point.value)).append boldEnd_whole.same
  have outcome := (((result.append (styled_bold (resultColour_unquoted theme point.outcome))).append
    (Whole.text upper)).append boldEnd_whole).same
  change SameLines [_, _, _] [_, _, _]
  rw [same.time, same.value, same.outcome]
  exact .cons time (.cons value (.cons outcome .nil))

theorem overrideLines_same (theme : Theme) :
    SameLines (overrideLines theme point) (overrideLines theme other) := by
  have ending : Whole "(override)</span>".toList ["/span".toList] :=
    Whole.of_scan rfl
  unfold overrideLines
  rw [same.overridden]
  split
  · exact .cons ((styled_span (axisLabel_unquoted theme)).append ending).same .nil
  · exact .nil

theorem changePointLines_same :
    SameLines (point.changePoint.map changePointLine).toList
      (other.changePoint.map changePointLine).toList := by
  rw [same.changePoint]
  cases point.changePoint with
  | none => exact .nil
  | some changePoint => exact .cons (changePointLine_same changePoint) .nil

theorem noteLines_same (theme : Theme) :
    SameLines (noteLines theme point) (noteLines theme other) := by
  have shown := same.visible
  unfold noteLines
  generalize point.visible = notes at shown ⊢
  generalize other.visible = others at shown ⊢
  cases shown with
  | nil => exact .nil
  | cons first rest =>
      rw [if_neg (List.cons_ne_nil _ _), if_neg (List.cons_ne_nil _ _)]
      rcases dividerLine_whole theme with ⟨found, divider⟩
      refine .cons divider.same ?_
      rw [List.forall₂_map_left_iff, List.forall₂_map_right_iff]
      exact (List.Forall₂.cons first rest).imp fun _ _ alike => noteLine_same alike

theorem behindName_same (theme : Theme) :
    SameTags (behindName theme point) (behindName theme other) := by
  have head := List.rel_append (headLines_same same theme) (overrideLines_same same theme)
  have lines := List.rel_append (List.rel_append head (changePointLines_same same))
    (noteLines_same same theme)
  exact boldEnd_whole.same.append (SameTags.flatMap (fun _ _ alike => separated_same alike) lines)

end SameButTexts

/-- The point with another name, and another label and no content for each note. -/
def TrendPoint.withTexts (point : TrendPoint) (name label : String) : TrendPoint :=
  { point with
    evaluationName := point.evaluationName.map fun _ => name
    notes := point.notes.map fun note => { content := "", category := { note.category with label } } }

theorem withTexts_same (point : TrendPoint) (name label : String) :
    SameButTexts point (point.withTexts name label) := by
  refine ⟨rfl, rfl, Option.isSome_map, rfl, rfl, rfl, ?_⟩
  rw [TrendPoint.withTexts, List.forall₂_map_right_iff, List.forall₂_same]
  exact fun _ _ => ⟨rfl, rfl⟩

theorem withTexts_visible (point : TrendPoint) (name label : String) :
    (point.withTexts name label).visible =
      point.visible.map fun note => { content := "", category := { note.category with label } } :=
  List.filter_map

theorem withTexts_accepted (point : TrendPoint) (name label : String)
    (nameAccepted : Char.ofNat 0 ∉ name.toList)
    (labelAccepted : 1 ≤ label.length ∧ label.length ≤ 12 ∧ Char.ofNat 0 ∉ label.toList) :
    (point.withTexts name label).Accepted := by
  refine ⟨fun other isName => ?_, fun note member => ?_, fun note member => ?_⟩
  · rcases Option.map_eq_some_iff.mp isName with ⟨_, _, rfl⟩
    exact nameAccepted
  · rcases List.mem_map.mp member with ⟨_, _, rfl⟩
    exact List.not_mem_nil
  · rcases List.mem_map.mp member with ⟨_, _, rfl⟩
    exact labelAccepted

theorem tooltipFormatter_tags {theme : Theme} {point : TrendPoint} {name : String}
    {found behind : List (List Char)} (named : point.evaluationName = some name)
    (nameWhole : Whole name.toList found) (behindWhole : Whole (behindName theme point) behind) :
    tags (tooltipFormatter theme point) =
      "b style=\"color:#58a6ff\"".toList :: (found ++ behind) := by
  have whole := (name_styled.append nameWhole).append behindWhole
  rw [tooltipFormatter_eq, named, Option.getD_some, whole.tags_eq]
  rfl

/-- The tooltip has the same tags whatever the users write exactly when the point has no
evaluation name. -/
theorem formatter_neutral_iff (theme : Theme) (point : TrendPoint) :
    (forall other : TrendPoint, other.Accepted -> SameButTexts point other ->
      tags (tooltipFormatter theme point) = tags (tooltipFormatter theme other)) ↔
        point.evaluationName = none := by
  constructor
  · intro neutral
    cases isName : point.evaluationName with
    | none => rfl
    | some given =>
        have empty := neutral _ (withTexts_accepted point "" "i" (by decide)
          (by decide)) (withTexts_same point _ _)
        have italic := neutral _ (withTexts_accepted point "<i>" "i" (by decide)
          (by decide)) (withTexts_same point _ _)
        have sameNotes : List.Forall₂ SameNote (point.withTexts "" "i").notes
            (point.withTexts "" "i").notes :=
          List.forall₂_same.mpr fun _ _ => ⟨rfl, rfl⟩
        have sameNamed : (point.withTexts "<i>" "i").evaluationName.isSome =
            (point.withTexts "" "i").evaluationName.isSome := by
          rw [TrendPoint.withTexts, TrendPoint.withTexts, Option.isSome_map, Option.isSome_map]
        have alike : SameButTexts (point.withTexts "" "i") (point.withTexts "<i>" "i") :=
          ⟨rfl, rfl, sameNamed, rfl, rfl, rfl, sameNotes⟩
        rcases behindName_same alike theme with ⟨behind, left, right⟩
        have opened : Whole "<i>".toList ["i".toList] := Whole.of_scan rfl
        have named : forall name, (point.withTexts name "i").evaluationName = some name := by
          intro name
          rw [TrendPoint.withTexts, isName]
          rfl
        have lengths := congrArg List.length (empty.symm.trans italic)
        rw [tooltipFormatter_tags (named "") Whole.nil left,
          tooltipFormatter_tags (named "<i>") opened right] at lengths
        simp at lengths
  · intro unnamed other _ same
    have alsoUnnamed : other.evaluationName = none := by
      have named := same.named
      rw [unnamed] at named
      exact Option.isNone_iff_eq_none.mp (by simpa using named)
    have fallback : '<' ∉ "(no evaluation_name)".toList := by decide
    rw [tooltipFormatter_eq, tooltipFormatter_eq, unnamed, alsoUnnamed]
    exact ((name_styled.append (Whole.text fallback)).same.append
      (behindName_same same theme)).tags_eq

theorem bodyLine_whole {note : NoteAnnotation} {found : List (List Char)}
    (labelWhole : Whole note.category.label.toList found) :
    Whole (bodyLine note) (["div".toList, "b".toList] ++ found ++ ["/b".toList, "/div".toList]) := by
  have opening : Whole "<div><b>".toList ["div".toList, "b".toList] :=
    Whole.of_scan rfl
  have between : Whole "</b>: ".toList ["/b".toList] := Whole.of_scan rfl
  have whole := (((opening.append labelWhole).append between).append
    (Whole.text (escapeHtml_plain note.content))).append divEnd_whole
  have joined : ((["div".toList, "b".toList] ++ found ++ ["/b".toList]) ++ []) ++ ["/div".toList] =
      ["div".toList, "b".toList] ++ found ++ ["/b".toList, "/div".toList] := by
    rw [List.append_nil, List.append_assoc]
    rfl
  exact joined ▸ whole

theorem tooltipBody_length (point : TrendPoint) (name label : String)
    {found : List (List Char)} (labelWhole : Whole label.toList found) :
    (tags (tooltipBody (point.withTexts name label))).length =
      point.visible.length * (4 + found.length) := by
  have whole : Whole (tooltipBody (point.withTexts name label))
      ((point.withTexts name label).visible.flatMap fun _ =>
        ["div".toList, "b".toList] ++ found ++ ["/b".toList, "/div".toList]) := by
    refine Whole.flatMap fun note member => bodyLine_whole ?_
    rw [withTexts_visible] at member
    rcases List.mem_map.mp member with ⟨_, _, rfl⟩
    exact labelWhole
  rw [whole.tags_eq, withTexts_visible, List.length_flatMap, List.map_map]
  induction point.visible with
  | nil => simp
  | cons note rest ih =>
      rw [List.map_cons, List.sum_cons, ih, List.length_cons, Nat.succ_mul]
      simp
      omega

/-- The body of a label has the same tags whatever the users write exactly when no note is
shown. -/
theorem body_neutral_iff (point : TrendPoint) :
    (forall other : TrendPoint, other.Accepted -> SameButTexts point other ->
      tags (tooltipBody point) = tags (tooltipBody other)) ↔ point.visible = [] := by
  constructor
  · intro neutral
    have plain := neutral _ (withTexts_accepted point "" "i" (by decide)
      (by decide)) (withTexts_same point _ _)
    have italic := neutral _ (withTexts_accepted point "" "<i>" (by decide)
      (by decide)) (withTexts_same point _ _)
    have opened : Whole "<i>".toList ["i".toList] := Whole.of_scan rfl
    have lengths := congrArg List.length (plain.symm.trans italic)
    rw [tooltipBody_length point "" "i" (Whole.text (by decide)),
      tooltipBody_length point "" "<i>" opened] at lengths
    have none : point.visible.length = 0 := by
      simp only [List.length_nil, List.length_singleton] at lengths
      omega
    exact List.eq_nil_of_length_eq_zero none
  · intro hidden other _ same
    have shown := same.visible
    rw [hidden] at shown
    have alsoHidden := List.forall₂_nil_left_iff.mp shown
    rw [tooltipBody, tooltipBody, hidden, alsoHidden]

theorem tooltipBody_same {notes others : List NoteAnnotation}
    (same : List.Forall₂ SameNote notes others)
    (plain : forall note, note ∈ notes -> '<' ∉ note.category.label.toList)
    (alsoPlain : forall note, note ∈ others -> '<' ∉ note.category.label.toList) :
    SameTags (notes.flatMap bodyLine) (others.flatMap bodyLine) := by
  induction same with
  | nil => exact Whole.nil.same
  | cons _ _ ih =>
      rw [List.forall_mem_cons] at plain alsoPlain
      have first := bodyLine_whole (Whole.text plain.1)
      have other := bodyLine_whole (Whole.text alsoPlain.1)
      exact SameTags.append ⟨_, first, other⟩ (ih plain.2 alsoPlain.2)

theorem tooltipFormatter_same (theme : Theme) {point other : TrendPoint}
    (same : SameButTexts point other) (plain : point.Bracketless) (alsoPlain : other.Bracketless) :
    SameTags (tooltipFormatter theme point) (tooltipFormatter theme other) := by
  have shown : forall point : TrendPoint, point.Bracketless ->
      '<' ∉ (point.evaluationName.getD "(no evaluation_name)").toList := by
    intro point plain
    cases named : point.evaluationName with
    | none => decide
    | some name => exact plain.evaluationName name named
  rw [tooltipFormatter_eq, tooltipFormatter_eq]
  exact (name_styled.same.append (SameTags.text (shown point plain) (shown other alsoPlain))).append
    (behindName_same same theme)

/-- What users write leaves the tags of both tooltips alone exactly when the point has no
evaluation name and shows no note.  Names and labels without an opening bracket do so too,
whatever the notes contain. -/
theorem tooltips_neutral_iff (theme : Theme) (point : TrendPoint) :
    ((forall other : TrendPoint, other.Accepted -> SameButTexts point other ->
        tags (tooltipFormatter theme point) = tags (tooltipFormatter theme other) ∧
          tags (tooltipBody point) = tags (tooltipBody other)) ↔
      point.evaluationName = none ∧ point.visible = []) ∧
    forall other : TrendPoint, SameButTexts point other -> point.Bracketless ->
      other.Bracketless ->
        tags (tooltipFormatter theme point) = tags (tooltipFormatter theme other) ∧
          tags (tooltipBody point) = tags (tooltipBody other) := by
  rw [<- formatter_neutral_iff theme point, <- body_neutral_iff point]
  refine ⟨⟨fun both => ⟨?_, ?_⟩, fun each other accepted same => ?_⟩,
    fun other same plain alsoPlain => ⟨?_, ?_⟩⟩
  · exact fun other accepted same => (both other accepted same).1
  · exact fun other accepted same => (both other accepted same).2
  · exact ⟨each.1 other accepted same, each.2 other accepted same⟩
  · exact (tooltipFormatter_same theme same plain alsoPlain).tags_eq
  · exact (tooltipBody_same same.visible plain.label alsoPlain.label).tags_eq

def namedPoint (name : String) : TrendPoint :=
  { time := ⟨"2026-01-01 10:00", by decide⟩
    value := ⟨"12.5", by decide⟩
    evaluationName := some name
    outcome := .pass
    overridden := false
    changePoint := none
    notes := [] }

/-- An evaluation name with an element in it puts the element into the tooltip. -/
theorem namedPoint_injects :
    SameButTexts (namedPoint "smoke") (namedPoint "<img src=x onerror=alert(1)>") ∧
      (namedPoint "smoke").Accepted ∧ (namedPoint "<img src=x onerror=alert(1)>").Accepted ∧
      tags (tooltipFormatter .dark (namedPoint "smoke")) ≠
        tags (tooltipFormatter .dark (namedPoint "<img src=x onerror=alert(1)>")) := by
  have accepted : forall name : String, Char.ofNat 0 ∉ name.toList ->
      (namedPoint name).Accepted := fun name valid =>
    { evaluationName := fun other isName => Option.some.inj isName ▸ valid
      content := fun _ impossible => absurd impossible List.not_mem_nil
      label := fun _ impossible => absurd impossible List.not_mem_nil }
  exact ⟨⟨rfl, rfl, rfl, rfl, rfl, rfl, .nil⟩, accepted _ (by decide), accepted _ (by decide),
    by decide +kernel⟩

def notedPoint (name content : String) : TrendPoint :=
  { namedPoint name with
    notes := [{ content, category := { label := "incident", color := .red, showOnGraph := true } }] }

/-- A note with an element in it adds no tag, as the name and the label have no bracket. -/
theorem notedPoint_neutral :
    let point := notedPoint "smoke" "disk was full"
    let other := notedPoint "load" "<img src=x onerror=alert(1)>"
    tags (tooltipFormatter .dark point) = tags (tooltipFormatter .dark other) ∧
      tags (tooltipBody point) = tags (tooltipBody other) := by
  have bracketless (name content : String) (plain : '<' ∉ name.toList) :
      (notedPoint name content).Bracketless := by
    constructor
    · intro other isName
      exact Option.some.inj isName ▸ plain
    · intro note member
      rw [List.mem_singleton.mp (List.mem_filter.mp member).1]
      show '<' ∉ "incident".toList
      decide
  exact (tooltips_neutral_iff .dark (notedPoint "smoke" "disk was full")).2
    (notedPoint "load" "<img src=x onerror=alert(1)>")
    ⟨rfl, rfl, rfl, rfl, rfl, rfl, .cons ⟨rfl, rfl⟩ .nil⟩ (bracketless _ _ (by decide))
    (bracketless _ _ (by decide))

end Ui
end Tropek
