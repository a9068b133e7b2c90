import Mathlib.Data.List.Dedup
import Mathlib.Data.List.Sort
import Mathlib.Data.List.Perm.Basic
import Tropek.Library.Thinning

namespace Tropek
namespace Library

/-!
# One row for each name

`SELECT DISTINCT ON (name) ... ORDER BY name, rank DESC` keeps for each name the first
row of the highest rank.  The rows arrive in the physical order of the database, so a
name whose highest rank is shared by different rows gives a different answer in a
different order.  `Decided` says that there is no such name, which is exactly when the
answer does not depend on the order.
-/

namespace DistinctOn

variable {Row Key : Type} [DecidableEq Key] (before : Key -> Key -> Prop) [DecidableRel before]
  (name : Row -> Key) (rank : Row -> Int)

/-- The names of the rows, each of them once and in their order. -/
def names (rows : List Row) : List Key :=
  (rows.map name).dedup.insertionSort before

/-- The row that is kept for a name. -/
def top (rows : List Row) (wanted : Key) : Option Row :=
  Latest.newest rank (rows.filter fun row => name row = wanted)

def distinctOn (rows : List Row) : List Row :=
  (names before name rows).filterMap (top name rank rows)

/-- No row of the same name has a higher rank. -/
def Foremost (rows : List Row) (row : Row) : Prop :=
  forall other, other ∈ rows -> name other = name row -> rank other ≤ rank row

/-- The foremost rows of one name are the same row.  Only then the answer does not
depend on the order in which the database returns rows of one rank. -/
def Decided (rows : List Row) : Prop :=
  forall first second, first ∈ rows -> second ∈ rows -> name first = name second ->
    Foremost name rank rows first -> Foremost name rank rows second -> first = second

end DistinctOn

namespace Latest

variable {Row : Type} (time : Row -> Int)

theorem newest_isSome_iff (rows : List Row) : (newest time rows).isSome = true ↔ rows ≠ [] := by
  cases rows with
  | nil => simp
  | cons head rest =>
      rw [newest_cons]
      cases newest time rest with
      | none => simp
      | some first =>
          by_cases older : time head < time first
          · simp [older]
          · simp [older]

theorem le_newest {rows : List Row} {row : Row} (found : newest time rows = some row) :
    forall other, other ∈ rows -> time other ≤ time row := by
  induction rows generalizing row with
  | nil => cases found
  | cons head rest ih =>
      rw [newest_cons] at found
      cases later : newest time rest with
      | none =>
          have empty : rest = [] := by
            by_contra filled
            have present := (newest_isSome_iff time rest).mpr filled
            rw [later] at present
            cases present
          subst empty
          rw [later] at found
          cases found
          intro other member
          rw [List.mem_singleton.mp member]
      | some first =>
          have others := ih later
          rw [later] at found
          dsimp only at found
          by_cases older : time head < time first
          · rw [if_pos older] at found
            cases found
            intro other member
            rcases List.mem_cons.mp member with same | inside
            · exact same ▸ le_of_lt older
            · exact others other inside
          · rw [if_neg older] at found
            cases found
            intro other member
            rcases List.mem_cons.mp member with same | inside
            · exact same ▸ le_refl _
            · exact le_trans (others other inside) (not_lt.mp older)

/-- A row that no other one is newer than comes out when it is first. -/
theorem newest_of_head {rest : List Row} {row : Row}
    (foremost : forall other, other ∈ rest -> time other ≤ time row) :
    newest time (row :: rest) = some row := by
  rw [newest_cons]
  cases later : newest time rest with
  | none => rfl
  | some first => exact if_neg (not_lt.mpr (foremost first (newest_mem time later)))

/-- When the newest row is the only one of its kind, the order of the rows does not
matter. -/
theorem newest_eq_of_unique {rows : List Row} {row : Row} (member : row ∈ rows)
    (foremost : forall other, other ∈ rows -> time other ≤ time row)
    (unique : forall other, other ∈ rows -> time other = time row -> other = row) :
    newest time rows = some row := by
  cases found : newest time rows with
  | none =>
      have present := (newest_isSome_iff time rows).mpr (List.ne_nil_of_mem member)
      rw [found] at present
      cases present
  | some first =>
      have inside := newest_mem time found
      have same := le_antisymm (foremost first inside) (le_newest time found row member)
      rw [unique first inside same]

end Latest

namespace DistinctOn

variable {Row Key : Type} [DecidableEq Key] {before : Key -> Key -> Prop} [DecidableRel before]
  {name : Row -> Key} {rank : Row -> Int}

variable {rows : List Row} {row : Row}

theorem mem_names {wanted : Key} :
    wanted ∈ names before name rows ↔ Exists fun row => row ∈ rows ∧ name row = wanted := by
  unfold names
  rw [List.mem_insertionSort, List.mem_dedup, List.mem_map]

theorem top_eq_some {wanted : Key} (kept : top name rank rows wanted = some row) :
    row ∈ rows ∧ name row = wanted ∧ Foremost name rank rows row := by
  have member := List.mem_filter.mp (Latest.newest_mem rank kept)
  have named : name row = wanted := of_decide_eq_true member.2
  refine ⟨member.1, named, fun other inside same => ?_⟩
  refine Latest.le_newest rank kept other (List.mem_filter.mpr ⟨inside, ?_⟩)
  exact decide_eq_true (same.trans named)

theorem top_isSome (member : row ∈ rows) : (top name rank rows (name row)).isSome = true := by
  refine (Latest.newest_isSome_iff rank _).mpr (List.ne_nil_of_mem (a := row) ?_)
  exact List.mem_filter.mpr ⟨member, decide_eq_true rfl⟩

theorem mem_distinctOn :
    row ∈ distinctOn before name rank rows ↔ top name rank rows (name row) = some row := by
  unfold distinctOn
  rw [List.mem_filterMap]
  constructor
  · rintro ⟨wanted, _, kept⟩
    have named := (top_eq_some kept).2.1
    rw [named]
    exact kept
  · intro kept
    exact ⟨name row, mem_names.mpr ⟨row, (top_eq_some kept).1, rfl⟩, kept⟩

/-- Every name of the rows is answered by one row. -/
theorem map_name_distinctOn (rows : List Row) :
    (distinctOn before name rank rows).map name = names before name rows := by
  unfold distinctOn
  rw [List.map_filterMap]
  have each : forall wanted, wanted ∈ names before name rows ->
      (top name rank rows wanted).map name = some wanted := by
    intro wanted listed
    rcases mem_names.mp listed with ⟨row, member, named⟩
    have present : (top name rank rows (name row)).isSome = true := top_isSome member
    rw [named] at present
    rcases Option.isSome_iff_exists.mp present with ⟨kept, isKept⟩
    rw [isKept, Option.map_some, (top_eq_some isKept).2.1]
  rw [List.filterMap_congr each, List.filterMap_some]

theorem nodup_names (rows : List Row) : (names before name rows).Nodup :=
  (List.perm_insertionSort before _).nodup_iff.mpr (List.nodup_dedup _)

omit [DecidableEq Key] in
theorem foremost_perm {rows order : List Row} (perm : order.Perm rows) (row : Row) :
    Foremost name rank order row ↔ Foremost name rank rows row :=
  ⟨fun foremost other member => foremost other (perm.mem_iff.mpr member),
    fun foremost other member => foremost other (perm.mem_iff.mp member)⟩

/-- The names come out in the same order, whatever the order of the rows. -/
theorem names_perm [IsTrans Key before] [Std.Total before] [Std.Antisymm before] {order : List Row}
    (perm : order.Perm rows) : names before name order = names before name rows := by
  have sorted : (names before name order).Perm (names before name rows) :=
    (List.perm_insertionSort before _).trans
      ((perm.map name).dedup.trans (List.perm_insertionSort before _).symm)
  exact sorted.eq_of_pairwise' (List.pairwise_insertionSort before _)
    (List.pairwise_insertionSort before _)

/-- Of decided rows, the row that is kept is the foremost one of its name. -/
theorem top_of_decided {order : List Row} (perm : order.Perm rows)
    (decided : Decided name rank rows) (member : row ∈ rows)
    (foremost : Foremost name rank rows row) : top name rank order (name row) = some row := by
  have inside : row ∈ order.filter fun other => name other = name row :=
    List.mem_filter.mpr ⟨perm.mem_iff.mpr member, decide_eq_true rfl⟩
  refine Latest.newest_eq_of_unique rank inside ?_ ?_
  · intro other selected
    rcases List.mem_filter.mp selected with ⟨listed, same⟩
    exact foremost other (perm.mem_iff.mp listed) (of_decide_eq_true same)
  · intro other selected equal
    rcases List.mem_filter.mp selected with ⟨listed, same⟩
    have named : name other = name row := of_decide_eq_true same
    refine decided other row (perm.mem_iff.mp listed) member named ?_ foremost
    intro further among shared
    rw [equal]
    exact foremost further among (shared.trans named)

/-- A foremost row is kept when it comes first. -/
theorem kept_of_foremost (member : row ∈ rows) (foremost : Foremost name rank rows row) :
    Exists fun order : List Row => order.Perm rows ∧ row ∈ distinctOn before name rank order := by
  rcases List.append_of_mem member with ⟨earlier, later, split⟩
  have perm : (row :: (earlier ++ later)).Perm rows := by
    rw [split]
    exact List.perm_middle.symm
  have selected : decide (name row = name row) = true := decide_eq_true rfl
  refine ⟨row :: (earlier ++ later), perm, mem_distinctOn.mpr ?_⟩
  unfold top
  rw [List.filter_cons, if_pos selected]
  refine Latest.newest_of_head rank fun other chosen => ?_
  rcases List.mem_filter.mp chosen with ⟨listed, same⟩
  have inside : other ∈ rows := perm.mem_iff.mp (List.mem_cons_of_mem row listed)
  exact foremost other inside (of_decide_eq_true same)

/-- The answer is the same in every order exactly when the rows are decided. -/
theorem distinctOn_perm_iff [IsTrans Key before] [Std.Total before]
    [Std.Antisymm before] (rows : List Row) :
    (forall order : List Row, order.Perm rows ->
      distinctOn before name rank order = distinctOn before name rank rows) ↔
      Decided name rank rows := by
  constructor
  · intro stable first second firstIn secondIn named firstForemost secondForemost
    have leads : forall row, row ∈ rows -> Foremost name rank rows row ->
        top name rank rows (name row) = some row := by
      intro row member foremost
      have leading : Exists fun order : List Row =>
          order.Perm rows ∧ row ∈ distinctOn before name rank order :=
        kept_of_foremost member foremost
      rcases leading with ⟨order, perm, kept⟩
      rw [stable order perm] at kept
      exact mem_distinctOn.mp kept
    have one := leads first firstIn firstForemost
    have other := leads second secondIn secondForemost
    rw [<- named, one] at other
    exact Option.some.inj other
  · intro decided order perm
    unfold distinctOn
    rw [names_perm perm]
    refine List.filterMap_congr fun wanted listed => ?_
    rcases mem_names.mp listed with ⟨row, member, named⟩
    have present : (top name rank rows (name row)).isSome = true := top_isSome member
    rcases Option.isSome_iff_exists.mp present with ⟨kept, isKept⟩
    rcases top_eq_some isKept with ⟨inside, same, foremost⟩
    have chosen := top_of_decided perm decided inside foremost
    rw [<- named, isKept, <- chosen, same]

end DistinctOn
end Library
end Tropek
