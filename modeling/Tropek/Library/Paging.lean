import Mathlib.Data.List.Perm.Basic
import Mathlib.Data.List.Nodup
import Tropek.Library.Latest

namespace Tropek
namespace Library

/-!
# Pages of a sorted query

`ORDER BY time DESC LIMIT size OFFSET start` fixes the order of rows with different times
only.  Rows with equal times come in any order, and not in the same one for every query.

A boundary between two pages is clean when the times on its sides differ.  When all
boundaries are clean, the pages are the same rows for every order, and together they are all
rows.  When one is not, some orders of its two sides list a row on both pages.
-/

namespace Paging

variable {Row : Type} {time : Row -> Int}

/-- An answer of `ORDER BY time DESC`: the rows in some order without a later time
behind an earlier one.  Rows of one time may come in any order, and in another one in
the next answer. -/
structure Answers (time : Row -> Int) (rows answer : List Row) : Prop where
  perm : answer.Perm rows
  ordered : answer.Pairwise fun earlier later => time later ≤ time earlier

/-- `LIMIT size OFFSET number * size`. -/
def page (size number : Nat) (answer : List Row) : List Row :=
  (answer.drop (number * size)).take size

/-- The pages before a number, each one from its own answer. -/
def pages (size count : Nat) (answerOf : Nat -> List Row) : List Row :=
  (List.range count).flatMap fun number => page size number (answerOf number)

/-- The times on the sides of a boundary, in the order of the query, differ. -/
def CleanAt (time : Row -> Int) (rows : List Row) (place : Nat) : Prop :=
  forall before after, (Latest.newestFirst time rows)[place - 1]? = some before ->
    (Latest.newestFirst time rows)[place]? = some after -> time before ≠ time after

theorem answers_newestFirst (rows : List Row) : Answers time rows (Latest.newestFirst time rows) :=
  ⟨List.perm_insertionSort _ rows, Latest.newestFirst_pairwise _ rows⟩

theorem pages_same (size count : Nat) (answer : List Row) :
    pages size count (fun _ => answer) = answer.take (count * size) := by
  unfold pages
  induction count with
  | zero => simp
  | succ count ih =>
      rw [List.range_succ, List.flatMap_append, ih, Nat.succ_mul, List.take_add]
      simp [page]

variable {answer rows : List Row} {size count : Nat} {answerOf : Nat -> List Row}

/-- The times of an answer do not depend on its order. -/
theorem Answers.times (answers : Answers time rows answer) :
    answer.map time = (Latest.newestFirst time rows).map time := by
  have sorted : Answers time rows (Latest.newestFirst time rows) := answers_newestFirst rows
  refine List.Perm.eq_of_pairwise (fun _ _ _ _ below above => le_antisymm above below)
    (List.pairwise_map.mpr answers.ordered) (List.pairwise_map.mpr sorted.ordered) ?_
  exact (answers.perm.trans sorted.perm.symm).map time

/-- Before a clean boundary stand the rows that are later than the first one after it. -/
theorem Answers.take_clean (answers : Answers time rows answer) {place : Nat} (positive : 0 < place)
    (clean : CleanAt time rows place) {after : Row} (here : answer[place]? = some after) :
    answer.take place = answer.filter fun row => time after < time row := by
  have inside := (List.getElem?_eq_some_iff.mp here).1
  have split := List.take_append_drop place answer
  have ordered := answers.ordered
  rw [<- split] at ordered
  have dropped : answer.drop place = after :: answer.drop (place + 1) := by
    rw [List.drop_eq_getElem_cons inside]
    rw [(List.getElem?_eq_some_iff.mp here).2]
  have atLeast : forall row, row ∈ answer.take place -> time after < time row := by
    intro row member
    have previous : answer[place - 1]? = some (answer[place - 1]) := List.getElem?_eq_getElem _
    have atMost : time answer[place - 1] ≤ time row := by
      rcases List.mem_iff_getElem.mp member with ⟨position, below, isRow⟩
      rw [List.length_take] at below
      rw [List.getElem_take] at isRow
      by_cases last : position = place - 1
      · rw [<- isRow]
        simp only [last, le_refl]
      · have before : position < place - 1 := by omega
        rw [<- isRow]
        exact List.pairwise_iff_getElem.mp answers.ordered _ _ _ _ before
    have notAfter : time after ≤ time answer[place - 1] :=
      (List.getElem?_eq_some_iff.mp here).2 ▸
        List.pairwise_iff_getElem.mp answers.ordered _ _ _ _ (by omega)
    have differ : time answer[place - 1] ≠ time after := by
      have times := answers.times
      have sameBefore := congrArg (fun all : List Int => all[place - 1]?) times
      have sameAfter := congrArg (fun all : List Int => all[place]?) times
      simp only [List.getElem?_map, previous, here, Option.map_some] at sameBefore sameAfter
      rcases Option.map_eq_some_iff.mp sameBefore.symm with ⟨before, isBefore, beforeTime⟩
      rcases Option.map_eq_some_iff.mp sameAfter.symm with ⟨next, isAfter, afterTime⟩
      rw [<- beforeTime, <- afterTime]
      exact clean before next isBefore isAfter
    exact lt_of_lt_of_le (lt_of_le_of_ne notAfter differ.symm) atMost
  have atMost : forall row, row ∈ answer.drop place -> ¬ time after < time row := by
    intro row member
    rw [dropped] at member
    rcases List.mem_cons.mp member with same | later
    · rw [same]
      exact lt_irrefl _
    · have tail := (List.pairwise_append.mp ordered).2.1
      rw [dropped] at tail
      exact not_lt.mpr ((List.pairwise_cons.mp tail).1 row later)
  conv_rhs => rw [<- split]
  rw [List.filter_append, List.filter_eq_self.mpr fun row member => decide_eq_true (atLeast row member),
    List.filter_eq_nil_iff.mpr fun row member => by simpa using atMost row member, List.append_nil]

theorem Answers.length (answers : Answers time rows answer) : answer.length = rows.length :=
  answers.perm.length_eq

/-- The boundaries of pages of a size that lie inside the rows are clean. -/
def CleanPages (time : Row -> Int) (rows : List Row) (size : Nat) : Prop :=
  forall number, 0 < number -> number * size < rows.length -> CleanAt time rows (number * size)

/-- What stands before a clean boundary, or before the beginning or the end, does not depend
on the order. -/
theorem take_perm {first second : List Row} (one : Answers time rows first)
    (other : Answers time rows second) {place : Nat}
    (clean : 0 < place -> place < rows.length -> CleanAt time rows place) :
    (first.take place).Perm (second.take place) := by
  by_cases positive : 0 < place
  · by_cases inside : place < rows.length
    · have firstHere := List.getElem?_eq_getElem (one.length ▸ inside : place < first.length)
      have secondHere := List.getElem?_eq_getElem (other.length ▸ inside : place < second.length)
      have sameTime : time (first.get ⟨place, one.length ▸ inside⟩) =
          time (second.get ⟨place, other.length ▸ inside⟩) := by
        have times := congrArg (fun all : List Int => all[place]?)
          (one.times.trans other.times.symm)
        simpa [firstHere, secondHere] using times
      rw [List.get_eq_getElem, List.get_eq_getElem] at sameTime
      rw [one.take_clean positive (clean positive inside) firstHere,
        other.take_clean positive (clean positive inside) secondHere, sameTime]
      exact (one.perm.trans other.perm.symm).filter _
    · rw [List.take_of_length_le (by rw [one.length]; omega),
        List.take_of_length_le (by rw [other.length]; omega)]
      exact one.perm.trans other.perm.symm
  · have none : place = 0 := by omega
    rw [none, List.take_zero, List.take_zero]

/-- A page between clean boundaries has the same rows for every order. -/
theorem page_perm {first second : List Row} (one : Answers time rows first)
    (other : Answers time rows second) (clean : CleanPages time rows size) (number : Nat) :
    (page size number first).Perm (page size number second) := by
  have cleanHere : 0 < number * size -> number * size < rows.length ->
      CleanAt time rows (number * size) :=
    fun positive inside => clean number (Nat.pos_of_mul_pos_right positive) inside
  have cleanNext : 0 < number * size + size -> number * size + size < rows.length ->
      CleanAt time rows (number * size + size) := by
    rw [<- Nat.succ_mul]
    exact fun _ inside => clean (number + 1) (Nat.succ_pos _) inside
  have before := take_perm one other cleanHere
  have upTo := take_perm one other cleanNext
  rw [List.take_add, List.take_add] at upTo
  exact (List.perm_append_left_iff _).mp ((before.append_right _).symm.trans upTo)

/-- With clean boundaries, the pages are all rows. -/
theorem pages_perm (answers : forall number, Answers time rows (answerOf number))
    (clean : CleanPages time rows size) (enough : rows.length ≤ count * size) :
    (pages size count answerOf).Perm rows := by
  have sorted : Answers time rows (Latest.newestFirst time rows) := answers_newestFirst rows
  have same : (pages size count answerOf).Perm
      (pages size count fun _ => Latest.newestFirst time rows) :=
    List.Perm.flatMap_left _ fun number _ => page_perm (answers number) sorted clean number
  rw [pages_same, List.take_of_length_le (by rw [sorted.length]; exact enough)] at same
  exact same.trans sorted.perm

/-- Two neighbours with the same time may change places. -/
theorem Answers.swap {front back : List Row} {before after : Row}
    (answers : Answers time rows (front ++ before :: after :: back))
    (tied : time before = time after) : Answers time rows (front ++ after :: before :: back) := by
  have ordered := answers.ordered
  constructor
  · exact (List.Perm.append_left front (List.Perm.swap before after back)).trans answers.perm
  · simp only [List.pairwise_append, List.pairwise_cons, List.mem_cons, forall_eq_or_imp] at ordered ⊢
    rcases ordered with ⟨frontOrdered, ⟨⟨_, fromBefore⟩, fromAfter, backOrdered⟩, across⟩
    refine ⟨frontOrdered, ⟨⟨tied.le, fromAfter⟩, fromBefore, backOrdered⟩, ?_⟩
    intro row member
    rcases across row member with ⟨toBefore, toAfter, toBack⟩
    exact ⟨toAfter, toBefore, toBack⟩

/-- When the pages are all rows for every choice of orders, the boundaries are clean. -/
theorem clean_of_pages_perm (nodup : rows.Nodup) (enough : rows.length ≤ count * size)
    (lossless : forall answerOf : Nat ->
      List Row, (forall number, Answers time rows (answerOf number)) ->
      (pages size count answerOf).Perm rows) :
    CleanPages time rows size := by
  intro number positive inside before after isBefore isAfter tied
  let sorted := Latest.newestFirst time rows
  have answers : Answers time rows sorted := answers_newestFirst rows
  have sizePositive : 0 < size := by
    by_contra none
    rw [Nat.eq_zero_of_not_pos none, Nat.mul_zero] at enough
    omega
  have placePositive : 0 < number * size := Nat.mul_pos positive sizePositive
  have beforeInside := (List.getElem?_eq_some_iff.mp isBefore).1
  have split : sorted = sorted.take (number * size - 1) ++
      before :: after :: sorted.drop (number * size + 1) := by
    have fromAfter : sorted.drop (number * size) = after :: sorted.drop (number * size + 1) := by
      rw [List.drop_eq_getElem_cons (List.getElem?_eq_some_iff.mp isAfter).1,
        (List.getElem?_eq_some_iff.mp isAfter).2]
    have next : number * size - 1 + 1 = number * size := by omega
    rw [<- fromAfter]
    have fromBefore : sorted.drop (number * size - 1) = before :: sorted.drop (number * size) := by
      rw [List.drop_eq_getElem_cons beforeInside, (List.getElem?_eq_some_iff.mp isBefore).2, next]
    rw [<- fromBefore, List.take_append_drop]
  have swapped := (split ▸ answers).swap tied
  have sortedLength : sorted.length = rows.length := answers.length
  have frontLength : (sorted.take (number * size - 1)).length = number * size - 1 := by
    rw [List.length_take, sortedLength]
    omega
  let answerOf (other : Nat) : List Row :=
    if other = number then
      sorted.take (number * size - 1) ++ after :: before :: sorted.drop (number * size + 1)
    else sorted
  have lawful : forall other, Answers time rows (answerOf other) := by
    intro other
    show Answers time rows (if other = number then _ else sorted)
    split
    · exact swapped
    · exact answers
  have distinct := (lossless answerOf lawful).nodup_iff.mpr nodup
  have apart := (List.nodup_flatMap.mp distinct).2
  have numberBelow : number < count := by
    by_contra beyond
    have more := Nat.mul_le_mul_right size (not_lt.mp beyond)
    omega
  have disjoint := List.pairwise_iff_getElem.mp apart (number - 1) number
    (by rw [List.length_range]; omega) (by rw [List.length_range]; omega) (by omega)
  rw [List.getElem_range, List.getElem_range] at disjoint
  have onPrevious : before ∈ page size (number - 1) (answerOf (number - 1)) := by
    have other : answerOf (number - 1) = sorted := if_neg (by omega)
    have start : (number - 1) * size + (size - 1) = number * size - 1 := by
      have atLeast : size ≤ number * size := Nat.le_mul_of_pos_left size positive
      rw [Nat.sub_mul, Nat.one_mul]
      omega
    rw [other]
    apply List.mem_of_getElem?
    rw [page, List.getElem?_take_of_lt (show size - 1 < size by omega), List.getElem?_drop, start]
    exact isBefore
  have onNext : before ∈ page size number (answerOf number) := by
    have same : answerOf number = _ := if_pos rfl
    rw [same]
    apply List.mem_of_getElem?
    rw [page, List.getElem?_take_of_lt sizePositive, List.getElem?_drop,
      List.getElem?_append_right (by omega), frontLength]
    have second : number * size + 0 - (number * size - 1) = 1 := by omega
    rw [second]
    rfl
  exact disjoint onPrevious onNext

theorem pages_succ (size count : Nat) (answerOf : Nat -> List Row) :
    pages size (count + 1) answerOf = pages size count answerOf ++ page size count (answerOf count) := by
  unfold pages
  rw [List.range_succ, List.flatMap_append, List.flatMap_singleton]

theorem length_page (answers : Answers time rows answer) (size number : Nat) :
    (page size number answer).length = min size (rows.length - number * size) := by
  rw [page, List.length_take, List.length_drop, answers.length]

theorem length_pages (answers : forall number, Answers time rows (answerOf number))
    (size count : Nat) : (pages size count answerOf).length = min (count * size) rows.length := by
  induction count with
  | zero => simp [pages]
  | succ count ih =>
      rw [pages_succ, List.length_append, ih, length_page (answers count),
        Nat.succ_mul]
      omega

/-- The first pages are the beginning of all pages. -/
theorem pages_take (answers : forall number, Answers time rows (answerOf number)) (size : Nat)
    {first : Nat} (atMost : first ≤ count) :
    pages size first answerOf = (pages size count answerOf).take (first * size) := by
  induction count with
  | zero =>
      have none : first = 0 := by omega
      simp [none, pages]
  | succ count ih =>
      have lengths := length_pages answers size count
      by_cases last : first = count + 1
      · rw [last, List.take_of_length_le]
        rw [length_pages answers]
        exact min_le_left _ _
      · have before : first ≤ count := by omega
        have scaled := Nat.mul_le_mul_right size before
        rw [pages_succ, ih before]
        by_cases inside : first * size ≤ (pages size count answerOf).length
        · rw [List.take_append_of_le_length inside]
        · have empty : page size count (answerOf count) = [] := by
            apply List.eq_nil_of_length_eq_zero
            rw [length_page (answers count)]
            omega
          rw [empty, List.append_nil]

end Paging
end Library
end Tropek
