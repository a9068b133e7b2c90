import Mathlib.Data.List.Sort
import Mathlib.Data.Prod.Lex
import Mathlib.Data.String.Basic
import Tropek.Timeline.Derivation

namespace Tropek
namespace Timeline

open Library Engine

/-!
# Rendering

The spans that remain are clipped to the window of the request and drawn in rows,
one for each path and one for each ancestor of a path.  A row is named by the
JSON text of its path, so that a path with a quotation mark in it cannot be taken
for another one.

The instants of an item are written with `isoformat` in the response; the model
keeps the instants.
-/

structure ClippedSpan where
  source : String
  labelPath : LabelPath
  value : String
  start : Instant
  stop : Instant
  className : String
deriving DecidableEq, Repr

def computeSpanClasses (span : RawSpan) (windowTo clippedStart : Instant) : List String :=
  ["meta-span"] ++ (if span.start < clippedStart then ["meta-span-clipped-left"] else []) ++
    (match span.stop with
      | none => ["meta-span-open"]
      | some stop => if windowTo < stop then ["meta-span-clipped-right"] else []) ++
    (if span.endReason = .closed then ["meta-span-closed"] else [])

def clipOneSpan (windowFrom windowTo : Instant) (span : RawSpan) : Option ClippedSpan :=
  let effectiveEnd := span.stop.getD windowTo
  if effectiveEnd ≤ windowFrom then none
  else if windowTo ≤ span.start then none
  else
    let clippedStart := max span.start windowFrom
    let clippedEnd := min effectiveEnd windowTo
    some
      { source := span.source, labelPath := span.labelPath, value := span.value,
        start := clippedStart, stop := clippedEnd,
        className := " ".intercalate (computeSpanClasses span windowTo clippedStart) }

def clipSpans (spans : List RawSpan) (windowFrom windowTo : Instant) : List ClippedSpan :=
  spans.filterMap (clipOneSpan windowFrom windowTo)

variable {windowFrom windowTo : Instant} {clipped : ClippedSpan} {span : RawSpan} {path : LabelPath}
  {spans : List ClippedSpan}

theorem mem_clipSpans {spans : List RawSpan} :
    clipped ∈ clipSpans spans windowFrom windowTo ↔
      Exists fun span => span ∈ spans ∧ clipOneSpan windowFrom windowTo span = some clipped :=
  List.mem_filterMap

theorem clipOneSpan_eq_some (kept : clipOneSpan windowFrom windowTo span = some clipped) :
    windowFrom < span.stop.getD windowTo ∧ span.start < windowTo ∧
      clipped.source = span.source ∧ clipped.labelPath = span.labelPath ∧
      clipped.value = span.value ∧ clipped.start = max span.start windowFrom ∧
      clipped.stop = min (span.stop.getD windowTo) windowTo := by
  unfold clipOneSpan at kept
  dsimp only at kept
  split at kept
  · cases kept
  · split at kept
    · cases kept
    · rename_i notBefore notAfter
      cases kept
      exact ⟨not_le.mp notBefore, not_le.mp notAfter, rfl, rfl, rfl, rfl, rfl⟩

theorem clipOneSpan_isSome (ends : windowFrom < span.stop.getD windowTo)
    (begins : span.start < windowTo) :
    Exists fun clipped => clipOneSpan windowFrom windowTo span = some clipped := by
  unfold clipOneSpan
  dsimp only
  rw [if_neg (not_le.mpr ends), if_neg (not_le.mpr begins)]
  exact ⟨_, rfl⟩

/-- The clipped span covers the instants of the window at which the span is in
effect, and no others. -/
theorem clipOneSpan_covers (span : RawSpan) (time : Instant) :
    (Exists fun clipped => clipOneSpan windowFrom windowTo span = some clipped ∧
        clipped.start ≤ time ∧ time < clipped.stop) ↔
      windowFrom ≤ time ∧ time < windowTo ∧ span.InEffect time := by
  unfold RawSpan.InEffect
  constructor
  · rintro ⟨clipped, kept, begun, notEnded⟩
    rcases clipOneSpan_eq_some kept with ⟨_, _, _, _, _, isStart, isStop⟩
    rw [isStart, max_le_iff] at begun
    rw [isStop, lt_min_iff] at notEnded
    refine ⟨begun.2, notEnded.2, begun.1, fun stop ends => ?_⟩
    rw [ends] at notEnded
    exact notEnded.1
  · rintro ⟨inWindow, beforeEnd, begun, notEnded⟩
    have ends : time < span.stop.getD windowTo := by
      cases isStop : span.stop with
      | none => exact beforeEnd
      | some stop => exact notEnded stop isStop
    rcases clipOneSpan_isSome (lt_of_le_of_lt inWindow ends) (lt_of_le_of_lt begun beforeEnd) with
      ⟨clipped, kept⟩
    rcases clipOneSpan_eq_some kept with ⟨_, _, _, _, _, isStart, isStop⟩
    refine ⟨clipped, kept, ?_, ?_⟩
    · rw [isStart]
      exact max_le begun inWindow
    · rw [isStop]
      exact lt_min ends beforeEnd

theorem clipOneSpan_bounds (ordered : windowFrom < windowTo)
    (positive : forall stop, span.stop = some stop -> span.start ≤ stop)
    (kept : clipOneSpan windowFrom windowTo span = some clipped) :
    windowFrom ≤ clipped.start ∧ clipped.start ≤ clipped.stop ∧ clipped.stop ≤ windowTo := by
  rcases clipOneSpan_eq_some kept with ⟨ends, begins, _, _, _, isStart, isStop⟩
  rw [isStart, isStop]
  refine ⟨le_max_right _ _, max_le (le_min ?_ begins.le) (le_min ends.le ordered.le), min_le_right _ _⟩
  cases isEnd : span.stop with
  | none => exact begins.le
  | some stop => exact positive stop isEnd

def hexDigit (digit : Nat) : Char :=
  if digit < 10 then Char.ofNat (48 + digit) else Char.ofNat (87 + digit)

/-- The characters that `json.dumps` writes with a backslash and a letter. -/
def escapeLetters : List (Char × Char) :=
  [('"', '"'), ('\\', '\\'), ('\n', 'n'), ('\r', 'r'), ('\t', 't'), (Char.ofNat 8, 'b'),
    (Char.ofNat 12, 'f')]

/-- A character as `json.dumps` writes it in a string, when it may write other
characters than those of ASCII. -/
def escapeChar (c : Char) : List Char :=
  match escapeLetters.lookup c with
  | some letter => ['\\', letter]
  | none =>
      if c.toNat < 32 then
        ['\\', 'u', '0', '0', hexDigit (c.toNat / 16), hexDigit (c.toNat % 16)]
      else [c]

def quoted (text : List Char) : List Char :=
  '"' :: text.flatMap escapeChar ++ ['"']

def commaSeparated : List (List Char) -> List Char
  | [] => []
  | [element] => element
  | element :: rest => element ++ ',' :: commaSeparated rest

def encodePathAsGroupId (path : LabelPath) : String :=
  String.ofList ('[' :: commaSeparated (path.map fun segment => quoted segment.toList) ++ [']'])

example : encodePathAsGroupId ["app", "say \"hi\""] = "[\"app\",\"say \\\"hi\\\"\"]" := by decide +kernel

def hexValue (c : Char) : Nat :=
  if c.toNat < 58 then c.toNat - 48 else c.toNat - 87

def readChar : List Char -> Option (Char × List Char)
  | '\\' :: 'u' :: '0' :: '0' :: high :: low :: rest =>
      some (Char.ofNat (16 * hexValue high + hexValue low), rest)
  | '\\' :: letter :: rest =>
      (escapeLetters.find? fun entry => entry.2 = letter).map fun entry => (entry.1, rest)
  | c :: rest => some (c, rest)
  | [] => none

theorem hexValue_hexDigit {digit : Nat} (small : digit < 16) : hexValue (hexDigit digit) = digit := by
  have all : forall digit, digit < 16 -> hexValue (hexDigit digit) = digit := by decide
  exact all digit small

theorem readChar_letter {c letter : Char} (entry : (c, letter) ∈ escapeLetters) (rest : List Char) :
    readChar ('\\' :: letter :: rest) = some (c, rest) := by
  simp only [escapeLetters, List.mem_cons, Prod.mk.injEq, List.not_mem_nil, or_false] at entry
  rcases entry with ⟨rfl, rfl⟩ | ⟨rfl, rfl⟩ | ⟨rfl, rfl⟩ | ⟨rfl, rfl⟩ | ⟨rfl, rfl⟩ | ⟨rfl, rfl⟩ | ⟨rfl, rfl⟩ <;>
    rfl

theorem readChar_escapeChar (c : Char) (rest : List Char) :
    readChar (escapeChar c ++ rest) = some (c, rest) := by
  unfold escapeChar
  cases found : escapeLetters.lookup c with
  | some letter =>
      rcases List.lookup_eq_some_iff.mp found with ⟨before, after, isTable, _⟩
      have entry : (c, letter) ∈ escapeLetters := by
        rw [isTable]
        exact List.mem_append_right _ List.mem_cons_self
      exact readChar_letter entry rest
  | none =>
      dsimp only
      split
      · rename_i small
        have high : c.toNat / 16 < 16 := by omega
        have low : c.toNat % 16 < 16 := by omega
        change some (Char.ofNat (16 * hexValue (hexDigit (c.toNat / 16)) +
          hexValue (hexDigit (c.toNat % 16))), rest) = _
        rw [hexValue_hexDigit high, hexValue_hexDigit low, Nat.div_add_mod, Char.ofNat_toNat]
      · have notBackslash : c ≠ '\\' := by
          rintro rfl
          cases found
        change readChar (c :: rest) = _
        unfold readChar
        split <;> simp_all

theorem escapeChar_head (c : Char) (rest others : List Char) :
    escapeChar c ++ rest ≠ '"' :: others := by
  have notMark : ('\\' : Char) ≠ '"' := by decide
  unfold escapeChar
  cases found : escapeLetters.lookup c with
  | some letter => exact fun same => notMark (List.cons.inj same).1
  | none =>
      dsimp only
      split
      · exact fun same => notMark (List.cons.inj same).1
      · intro same
        rw [(List.cons.inj same).1] at found
        cases found

theorem quoted_cons (c : Char) (text rest : List Char) :
    (c :: text).flatMap escapeChar ++ rest = escapeChar c ++ (text.flatMap escapeChar ++ rest) := by
  rw [List.flatMap_cons, List.append_assoc]

theorem quoted_injective {first second : List Char} {rest others : List Char}
    (same : quoted first ++ rest = quoted second ++ others) : first = second ∧ rest = others := by
  unfold quoted at same
  simp only [List.cons_append, List.append_assoc, List.nil_append, List.cons.injEq, true_and] at same
  induction first generalizing second with
  | nil =>
      cases second with
      | nil => exact ⟨rfl, (List.cons.inj same).2⟩
      | cons c text =>
          rw [quoted_cons] at same
          exact absurd same.symm (escapeChar_head c _ rest)
  | cons c text ih =>
      rw [quoted_cons] at same
      cases second with
      | nil => exact absurd same (escapeChar_head c _ others)
      | cons other otherText =>
          rw [quoted_cons] at same
          have read := congrArg readChar same
          rw [readChar_escapeChar, readChar_escapeChar, Option.some.injEq, Prod.mk.injEq] at read
          rcases ih read.2 with ⟨sameText, sameRest⟩
          exact ⟨by rw [read.1, sameText], sameRest⟩

def afterElement : List (List Char) -> List Char
  | [] => [']']
  | rest => ',' :: (commaSeparated (rest.map quoted) ++ [']'])

theorem commaSeparated_cons (head : List Char) (tail : List (List Char)) :
    commaSeparated ((head :: tail).map quoted) ++ [']'] = quoted head ++ afterElement tail := by
  cases tail with
  | nil => rfl
  | cons next rest =>
      simp only [List.map_cons, commaSeparated, afterElement, List.append_assoc, List.cons_append]

theorem commaSeparated_injective {first second : List (List Char)}
    (same : commaSeparated (first.map quoted) ++ [']'] =
      commaSeparated (second.map quoted) ++ [']']) : first = second := by
  have nonempty : forall (head : List Char) (tail : List (List Char)),
      commaSeparated ((head :: tail).map quoted) ++ [']'] ≠ [']'] := by
    intro head tail empty
    cases tail <;> cases empty
  induction first generalizing second with
  | nil =>
      cases second with
      | nil => rfl
      | cons head tail => exact absurd same.symm (nonempty head tail)
  | cons head tail ih =>
      cases second with
      | nil => exact absurd same (nonempty head tail)
      | cons other others =>
          rw [commaSeparated_cons, commaSeparated_cons] at same
          rcases quoted_injective same with ⟨sameHead, sameTail⟩
          cases tail with
          | nil =>
              cases others with
              | nil => rw [sameHead]
              | cons next rest => cases sameTail
          | cons next rest =>
              cases others with
              | nil => cases sameTail
              | cons otherNext otherRest =>
                  rw [sameHead, ih (List.cons.inj sameTail).2]

theorem encodePathAsGroupId_injective {first second : LabelPath}
    (same : encodePathAsGroupId first = encodePathAsGroupId second) : first = second := by
  have characters := String.ofList_injective same
  rw [List.cons_append, List.cons_append] at characters
  have listed : forall path : LabelPath,
      (path.map fun segment => quoted segment.toList) = (path.map String.toList).map quoted :=
    fun path => by
      rw [List.map_map]
      rfl
  rw [listed, listed] at characters
  have sameSegments := commaSeparated_injective (List.cons.inj characters).2
  exact List.map_injective_iff.mpr (fun _ _ => String.toList_inj.mp) sameSegments

structure TimelineGroup where
  id : String
  content : String
  nestedGroups : Option (List String)
  showNested : Option Bool
deriving DecidableEq, Repr

def collectDistinctPaths (spans : List ClippedSpan) : List LabelPath :=
  (spans.map (·.labelPath)).dedup

def expandWithSyntheticAncestors (paths : List LabelPath) : List LabelPath :=
  (paths.flatMap fun path => (List.range path.length).map fun length =>
    path.take (length + 1)).dedup

def childrenOf (paths : List LabelPath) (path : LabelPath) : List LabelPath :=
  paths.filter fun child => 1 < child.length && child.dropLast = path

/-- Shorter paths first, and paths of one length in the order of their segments. -/
def sortGroupsDeterministically (paths : List LabelPath) : List LabelPath :=
  paths.insertionSort fun first second =>
    toLex (first.length, first) ≤ toLex (second.length, second)

def buildGroupEntry (path : LabelPath) (children : List LabelPath) : TimelineGroup :=
  let nested := (children.insertionSort (· ≤ ·)).map encodePathAsGroupId
  { id := encodePathAsGroupId path
    content := path.getLast?.getD ""
    nestedGroups := if children = [] then none else some nested
    showNested := if children = [] then none else some false }

def buildGroupsWire (clippedSpans : List ClippedSpan) : List TimelineGroup :=
  let allGroupPaths := expandWithSyntheticAncestors (collectDistinctPaths clippedSpans)
  (sortGroupsDeterministically allGroupPaths).map fun path =>
    buildGroupEntry path (childrenOf allGroupPaths path)

structure TimelineItem where
  id : String
  group : String
  content : String
  start : Instant
  stop : Instant
  type : String
  className : String
  source : String
deriving DecidableEq, Repr

def itemFromSpan (span : ClippedSpan) (index : Nat) : TimelineItem :=
  { id := "s" ++ toString index
    group := encodePathAsGroupId span.labelPath
    content := span.value
    start := span.start
    stop := span.stop
    type := "range"
    className := span.className
    source := span.source }

def buildItemsWire (spans : List ClippedSpan) : List TimelineItem :=
  spans.zipIdx.map fun indexed => itemFromSpan indexed.1 indexed.2

def TimelineItem.Covers (item : TimelineItem) (time : Instant) : Prop :=
  item.start ≤ time ∧ time < item.stop

instance (item : TimelineItem) (time : Instant) : Decidable (item.Covers time) :=
  inferInstanceAs (Decidable (item.start ≤ time ∧ time < item.stop))

def itemsOf (path : LabelPath) (items : List TimelineItem) : List TimelineItem :=
  items.filter fun item => item.group = encodePathAsGroupId path

theorem itemsOf_build (path : LabelPath) (spans : List ClippedSpan) :
    itemsOf path (buildItemsWire spans) =
      (spans.zipIdx.filter fun indexed => indexed.1.labelPath = path).map
        fun indexed => itemFromSpan indexed.1 indexed.2 := by
  unfold itemsOf buildItemsWire
  rw [List.filter_map]
  congr 1
  refine List.filter_congr fun indexed _ => decide_eq_decide.mpr ?_
  exact ⟨fun same => encodePathAsGroupId_injective same, fun same => congrArg encodePathAsGroupId same⟩

theorem mem_itemsOf {item : TimelineItem} (member : item ∈ itemsOf path (buildItemsWire spans)) :
    Exists fun span => span ∈ spans ∧ span.labelPath = path ∧ item.content = span.value ∧
      item.source = span.source ∧ item.start = span.start ∧ item.stop = span.stop := by
  rw [itemsOf_build] at member
  rcases List.mem_map.mp member with ⟨indexed, selected, rfl⟩
  rcases List.mem_filter.mp selected with ⟨inside, isPath⟩
  exact ⟨indexed.1, List.fst_mem_of_mem_zipIdx inside, of_decide_eq_true isPath, rfl, rfl, rfl, rfl⟩

theorem exists_item {span : ClippedSpan} (member : span ∈ spans) (isPath : span.labelPath = path) :
    Exists fun item => item ∈ itemsOf path (buildItemsWire spans) ∧ item.content = span.value ∧
      item.start = span.start ∧ item.stop = span.stop := by
  have indexed : span ∈ spans.zipIdx.map Prod.fst := (List.zipIdx_map_fst 0 spans).symm ▸ member
  rcases List.mem_map.mp indexed with ⟨⟨_, index⟩, inside, rfl⟩
  refine ⟨itemFromSpan _ index, ?_, rfl, rfl, rfl⟩
  rw [itemsOf_build]
  exact List.mem_map.mpr ⟨_, List.mem_filter.mpr ⟨inside, decide_eq_true isPath⟩, rfl⟩

/-- A relation between the clipped spans of a path, in their order, holds between
the items of its row. -/
theorem itemsOf_pairwise {related : TimelineItem -> TimelineItem -> Prop}
    (pairwise : (spans.filter fun span => span.labelPath = path).Pairwise fun first second =>
      forall index other, related (itemFromSpan first index) (itemFromSpan second other)) :
    (itemsOf path (buildItemsWire spans)).Pairwise related := by
  have spansOfPath : (spans.filter fun span => span.labelPath = path) =
      (spans.zipIdx.filter fun indexed => indexed.1.labelPath = path).map Prod.fst := by
    conv_lhs => rw [<- List.zipIdx_map_fst 0 spans]
    rw [List.filter_map]
    rfl
  rw [itemsOf_build, List.pairwise_map]
  rw [spansOfPath, List.pairwise_map] at pairwise
  exact pairwise.imp fun {first second} here => here first.2 second.2

end Timeline
end Tropek
