import Mathlib.Data.List.Forall2
import Mathlib.Data.List.Sort

namespace Tropek
namespace Library

/-!
# The latest rows

`ORDER BY time DESC LIMIT n` is a stable sort followed by a cut.  The rules below
say how such a query reacts when its rows are filtered or changed: filtering
commutes with sorting, a change that keeps the times commutes with both, a
relation between two lists of rows that keeps the times carries over to the
answers, and restricting the older rows to those that the query would have
returned from them alone does not change its answer.
-/

namespace Latest

variable {Row : Type}

section Sorting

variable (before : Row -> Row -> Prop) [DecidableRel before]

theorem filter_orderedInsert [IsTrans Row before] (condition : Row -> Bool) (row : Row)
    (rows : List Row) (sorted : rows.Pairwise before) :
    (rows.orderedInsert before row).filter condition =
      if condition row then (rows.filter condition).orderedInsert before row
      else rows.filter condition := by
  induction rows with
  | nil =>
      by_cases selected : condition row = true <;> simp [selected]
  | cons head rest ih =>
      have sortedRest := List.Pairwise.of_cons sorted
      have headFirst : forall other, other ∈ rest -> before head other :=
        (List.pairwise_cons.mp sorted).1
      rw [List.orderedInsert_cons]
      by_cases first : before row head
      · rw [if_pos first]
        by_cases selected : condition row = true
        · rw [if_pos selected, List.filter_cons_of_pos selected]
          have least : forall other, other ∈ (head :: rest).filter condition ->
              before row other := by
            intro other member
            rcases List.mem_cons.mp (List.mem_filter.mp member).1 with same | later
            · exact same ▸ first
            · exact IsTrans.trans row head other first (headFirst other later)
          cases remaining : (head :: rest).filter condition with
          | nil => rfl
          | cons next others =>
              rw [remaining] at least
              rw [List.orderedInsert_cons, if_pos (least next List.mem_cons_self)]
        · rw [if_neg selected, List.filter_cons_of_neg selected]
      · rw [if_neg first]
        by_cases headSelected : condition head = true
        · rw [List.filter_cons_of_pos headSelected, List.filter_cons_of_pos headSelected,
            ih sortedRest]
          by_cases selected : condition row = true
          · rw [if_pos selected, if_pos selected, List.orderedInsert_cons, if_neg first]
          · rw [if_neg selected, if_neg selected]
        · rw [List.filter_cons_of_neg headSelected, List.filter_cons_of_neg headSelected]
          exact ih sortedRest

/-- Filtering commutes with stable sorting, whatever the filter is: rows that the order
does not tell apart stay as they were listed. -/
theorem filter_insertionSort [IsTrans Row before] [Std.Total before] (condition : Row -> Bool)
    (rows : List Row) :
    (rows.insertionSort before).filter condition =
      (rows.filter condition).insertionSort before := by
  induction rows with
  | nil => rfl
  | cons head rest ih =>
      rw [List.insertionSort_cons, filter_orderedInsert before condition head _
        (List.pairwise_insertionSort before rest), ih]
      by_cases selected : condition head = true
      · rw [if_pos selected, List.filter_cons_of_pos selected, List.insertionSort_cons]
      · rw [if_neg selected, List.filter_cons_of_neg selected]

end Sorting

variable (time : Row -> Int)

/-- `ORDER BY time ASC`. -/
def oldestFirst (rows : List Row) : List Row :=
  rows.insertionSort fun first second => time first ≤ time second

/-- `ORDER BY time DESC`. -/
def newestFirst (rows : List Row) : List Row :=
  rows.insertionSort fun first second => time second ≤ time first

instance newest_trans : IsTrans Row fun first second => time second ≤ time first :=
  ⟨fun _ _ _ older oldest => le_trans oldest older⟩

instance newest_total : Std.Total fun first second : Row => time second ≤ time first :=
  ⟨fun first second => le_total (time second) (time first)⟩

variable {rows : List Row} {row : Row}

theorem mem_newestFirst : row ∈ newestFirst time rows ↔ row ∈ rows :=
  List.mem_insertionSort _

theorem mem_oldestFirst : row ∈ oldestFirst time rows ↔ row ∈ rows :=
  List.mem_insertionSort _

theorem newestFirst_nodup {Key : Type} {key : Row -> Key} (nodup : (rows.map key).Nodup) :
    ((newestFirst time rows).map key).Nodup :=
  ((List.perm_insertionSort _ _).map _).nodup_iff.mpr nodup

theorem newestFirst_pairwise (rows : List Row) :
    (newestFirst time rows).Pairwise fun first second => time second ≤ time first :=
  List.pairwise_insertionSort _ rows

/-- A change of the rows that keeps their times commutes with the sort. -/
theorem newestFirst_map {Other : Type} {otherTime : Other -> Int} (change : Row -> Other)
    (rows : List Row) (keeps : forall row, row ∈ rows -> otherTime (change row) = time row) :
    newestFirst otherTime (rows.map change) = (newestFirst time rows).map change := by
  unfold newestFirst
  refine (List.map_insertionSort _ _ change rows fun first firstMember second secondMember => ?_).symm
  rw [keeps first firstMember, keeps second secondMember]

theorem oldestFirst_map {Other : Type} {otherTime : Other -> Int} (change : Row -> Other)
    (rows : List Row) (keeps : forall row, row ∈ rows -> otherTime (change row) = time row) :
    oldestFirst otherTime (rows.map change) = (oldestFirst time rows).map change := by
  unfold oldestFirst
  refine (List.map_insertionSort _ _ change rows fun first firstMember second secondMember => ?_).symm
  rw [keeps first firstMember, keeps second secondMember]

/-- `ORDER BY time DESC LIMIT limit`. -/
def latest (limit : Nat) (rows : List Row) : List Row :=
  (newestFirst time rows).take limit

theorem mem_of_mem_latest {limit : Nat} (member : row ∈ latest time limit rows) : row ∈ rows :=
  (mem_newestFirst time).mp (List.mem_of_mem_take member)

/-- A selection of the newest rows, in any order: it has as many as the limit allows,
and nothing that it leaves out is newer than what it has. -/
def MostRecent (limit : Nat) (rows selected : List Row) : Prop :=
  selected.length = min limit rows.length ∧
    Exists fun older => (selected ++ older).Perm rows ∧
      forall row other, row ∈ selected -> other ∈ older -> time other ≤ time row

theorem latest_mostRecent (limit : Nat) (rows : List Row) :
    MostRecent time limit rows (latest time limit rows) := by
  refine ⟨?_, (newestFirst time rows).drop limit, ?_, ?_⟩
  · unfold latest newestFirst
    rw [List.length_take, List.length_insertionSort]
  · unfold latest
    rw [List.take_append_drop]
    exact List.perm_insertionSort _ rows
  · intro row other selected leftOut
    have sorted := newestFirst_pairwise time rows
    rw [<- List.take_append_drop limit (newestFirst time rows)] at sorted
    exact (List.pairwise_append.mp sorted).2.2 row selected other leftOut

/-- A row that is newer than all others is the one most recent row. -/
theorem MostRecent.eq_singleton {selected : List Row} {newest : Row}
    (recent : MostRecent time 1 rows selected) (member : newest ∈ rows)
    (newer : forall other, other ∈ rows -> other ≠ newest -> time other < time newest) :
    selected = [newest] := by
  rcases recent with ⟨length, older, parts, ordered⟩
  have nonempty : 1 ≤ rows.length := List.length_pos_of_mem member
  rw [Nat.min_eq_left nonempty] at length
  rcases List.length_eq_one_iff.mp length with ⟨row, isRow⟩
  subst isRow
  rcases List.mem_cons.mp (parts.mem_iff.mpr member) with same | leftOut
  · rw [same]
  · have notNewer := ordered row newest List.mem_cons_self leftOut
    by_cases same : row = newest
    · rw [same]
    · have inRows : row ∈ rows := parts.mem_iff.mp List.mem_cons_self
      exact absurd (newer row inRows same) (not_lt.mpr notNewer)

section Related

variable {Other : Type} {otherTime : Other -> Int} {related : Row -> Other -> Prop}

omit time in
theorem map_eq_of_related {Value : Type} {column : Row -> Value} {otherColumn : Other -> Value}
    {rows : List Row} {others : List Other}
    (rowByRow : List.Forall₂ (fun row other => column row = otherColumn other) rows others) :
    rows.map column = others.map otherColumn := by
  induction rowByRow with
  | nil => rfl
  | cons same _ ih =>
      rw [List.map_cons, List.map_cons, same, ih]

omit time in
/-- Related lists are the two sides of one list of related pairs. -/
theorem pairs_of_related {rows : List Row} {others : List Other}
    (rowByRow : List.Forall₂ related rows others) :
    Exists fun pairs : List (Row × Other) =>
      rows = pairs.map Prod.fst ∧ others = pairs.map Prod.snd ∧
        forall pair, pair ∈ pairs -> related pair.1 pair.2 := by
  induction rowByRow with
  | nil => exact ⟨[], rfl, rfl, fun _ member => absurd member List.not_mem_nil⟩
  | cons here _ ih =>
      rcases ih with ⟨pairs, left, right, later⟩
      refine ⟨(_, _) :: pairs, congrArg _ left, congrArg _ right, ?_⟩
      exact List.forall_mem_cons.mpr ⟨here, later⟩

omit time in
/-- Related rows, with the second one known to be in its list. -/
theorem related_with_members {rows : List Row} {others : List Other}
    (rowByRow : List.Forall₂ related rows others) :
    List.Forall₂ (fun row other => row ∈ rows ∧ other ∈ others ∧ related row other) rows others := by
  rcases pairs_of_related rowByRow with ⟨pairs, left, right, all⟩
  have members : List.Forall₂ (fun row other => row ∈ rows ∧ other ∈ others ∧ related row other)
      (pairs.map Prod.fst) (pairs.map Prod.snd) := by
    rw [List.forall₂_map_left_iff, List.forall₂_map_right_iff]
    refine List.forall₂_same.mpr fun pair member => ⟨?_, ?_, all pair member⟩
    · rw [left]
      exact List.mem_map_of_mem member
    · rw [right]
      exact List.mem_map_of_mem member
  rw [<- left, <- right] at members
  exact members

omit time in
theorem related_comp {First Second Third : Type} {one : First -> Second -> Prop}
    {two : Second -> Third -> Prop} {whole : First -> Third -> Prop}
    (compose : forall first second third, one first second -> two second third -> whole first third)
    {rows : List First} {others : List Second} {last : List Third}
    (first : List.Forall₂ one rows others) (second : List.Forall₂ two others last) :
    List.Forall₂ whole rows last := by
  induction first generalizing last with
  | nil =>
      cases second
      exact .nil
  | cons here _ ih =>
      cases second with
      | cons next rest => exact .cons (compose _ _ _ here next) (ih rest)

omit time in
theorem related_of_pairs {pairs : List (Row × Other)}
    (all : forall pair, pair ∈ pairs -> related pair.1 pair.2) :
    List.Forall₂ related (pairs.map Prod.fst) (pairs.map Prod.snd) := by
  rw [List.forall₂_map_left_iff, List.forall₂_map_right_iff]
  exact List.forall₂_same.mpr all

omit time in
/-- The first selected rows of related lists are related. -/
theorem find?_related {selected : Row -> Bool} {otherSelected : Other -> Bool}
    (same : forall row other, related row other -> otherSelected other = selected row)
    {rows : List Row} {others : List Other} (rowByRow : List.Forall₂ related rows others) :
    Option.Rel related (rows.find? selected) (others.find? otherSelected) := by
  induction rowByRow with
  | nil => exact .none
  | @cons row other _ _ here _ ih =>
      rw [List.find?_cons, List.find?_cons, same row other here]
      cases selected row with
      | true => exact .some here
      | false => exact ih

variable {others : List Other} {rows : List Row}

theorem newestFirst_related
    (keeps : forall row other, related row other -> otherTime other = time row)
    (rowByRow : List.Forall₂ related rows others) :
    List.Forall₂ related (newestFirst time rows) (newestFirst otherTime others) := by
  rcases pairs_of_related rowByRow with ⟨pairs, left, right, all⟩
  let pairTime := fun pair : Row × Other => time pair.1
  rw [left, right, newestFirst_map pairTime Prod.fst pairs fun _ _ => rfl,
    newestFirst_map pairTime Prod.snd pairs fun pair member => keeps _ _ (all pair member)]
  exact related_of_pairs fun pair member => all pair ((mem_newestFirst pairTime).mp member)

theorem oldestFirst_related
    (keeps : forall row other, related row other -> otherTime other = time row)
    (rowByRow : List.Forall₂ related rows others) :
    List.Forall₂ related (oldestFirst time rows) (oldestFirst otherTime others) := by
  rcases pairs_of_related rowByRow with ⟨pairs, left, right, all⟩
  let pairTime := fun pair : Row × Other => time pair.1
  rw [left, right, oldestFirst_map pairTime Prod.fst pairs fun _ _ => rfl,
    oldestFirst_map pairTime Prod.snd pairs fun pair member => keeps _ _ (all pair member)]
  exact related_of_pairs fun pair member => all pair ((mem_oldestFirst pairTime).mp member)

theorem latest_related (keeps : forall row other, related row other -> otherTime other = time row)
    (limit : Nat) (rowByRow : List.Forall₂ related rows others) :
    List.Forall₂ related (latest time limit rows) (latest otherTime limit others) :=
  List.forall₂_take limit (newestFirst_related time keeps rowByRow)

end Related

section AnyKey

variable {Row Key : Type} [LinearOrder Key] (key : Row -> Key)

/-- `ORDER BY key`, and `sorted` with a key. -/
def sortBy (rows : List Row) : List Row :=
  rows.insertionSort fun first second => key first ≤ key second

instance sortBy_trans : IsTrans Row fun first second => key first ≤ key second :=
  ⟨fun _ _ _ => le_trans⟩

instance sortBy_total : Std.Total fun first second : Row => key first ≤ key second :=
  ⟨fun first second => le_total (key first) (key second)⟩

theorem sortBy_perm (rows : List Row) : (sortBy key rows).Perm rows :=
  List.perm_insertionSort _ rows

theorem sortBy_pairwise (rows : List Row) :
    (sortBy key rows).Pairwise fun first second => key first ≤ key second :=
  List.pairwise_insertionSort _ rows

variable {key}

/-- Two sorted lists of the same rows have the same keys, position by position. -/
theorem keys_eq_of_perm {first second : List Row} (same : first.Perm second)
    (firstSorted : first.Pairwise fun earlier later => key earlier ≤ key later)
    (secondSorted : second.Pairwise fun earlier later => key earlier ≤ key later) :
    first.map key = second.map key :=
  List.Perm.eq_of_pairwise (fun _ _ _ _ => le_antisymm) (List.pairwise_map.mpr firstSorted)
    (List.pairwise_map.mpr secondSorted) (same.map key)

end AnyKey

end Latest
end Library
end Tropek
