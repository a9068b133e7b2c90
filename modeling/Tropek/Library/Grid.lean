import Mathlib.Data.List.Nodup
import Mathlib.Tactic.Ring

namespace Tropek
namespace Library

/-!
# Points of a grid

A grid has a point at its first position and one every step after it, up to and including
its last position.  A grid that is cut at one of its points, so that the second part begins
one step later, is the two parts one after the other.  When the second part begins anywhere
else, at least one step later, the parts have at most as many points as the whole.
-/

namespace Grid

def points (first last step : Int) : List Int :=
  (List.range ((last - first) / step + 1).toNat).map fun number : Nat => first + number * step

variable {first last step : Int}

@[simp] theorem length_points :
    (points first last step).length = ((last - first) / step + 1).toNat := by
  simp [points]

theorem points_eq_nil (positive : 0 < step) (behind : last < first) :
    points first last step = [] := by
  have negative : (last - first) / step < 0 := Int.ediv_neg_of_neg_of_pos (by omega) positive
  apply List.eq_nil_of_length_eq_zero
  rw [length_points]
  omega

/-- The points are the positions between the ends that are a number of steps away from the
first one. -/
theorem mem_points (positive : 0 < step) {point : Int} :
    point ∈ points first last step ↔ first ≤ point ∧ point ≤ last ∧ step ∣ point - first := by
  simp only [points, List.mem_map, List.mem_range]
  constructor
  · rintro ⟨number, below, rfl⟩
    have atMost : (number : Int) ≤ (last - first) / step := by omega
    have scaled := (Int.le_ediv_iff_mul_le positive).mp atMost
    have forward : 0 ≤ (number : Int) * step := Int.mul_nonneg (by omega) (by omega)
    refine ⟨by omega, by omega, ?_⟩
    rw [add_sub_cancel_left]
    exact Int.dvd_mul_left _ _
  · rintro ⟨after, before, number, steps⟩
    have forward : 0 ≤ number := by
      by_contra negative
      have backward := Int.mul_neg_of_pos_of_neg positive (not_le.mp negative)
      omega
    have atMost : number ≤ (last - first) / step := by
      apply (Int.le_ediv_iff_mul_le positive).mpr
      rw [Int.mul_comm]
      omega
    refine ⟨number.toNat, by omega, ?_⟩
    rw [Int.toNat_of_nonneg forward, Int.mul_comm, <- steps]
    omega

/-- A cut at a point of the grid: the points are those up to the cut, followed by those
from the next one on, and none of them comes twice. -/
theorem points_split (positive : 0 < step) (number : Nat)
    (inside : first + number * step ≤ last) :
    points first last step =
      points first (first + number * step) step ++
        points (first + (number + 1) * step) last step := by
  have cut : (first + number * step - first) / step = number := by
    rw [add_sub_cancel_left]
    exact Int.mul_ediv_cancel _ positive.ne'
  have remaining : (last - (first + (number + 1) * step)) / step =
      (last - first) / step - (number + 1) := by
    rw [<- sub_sub]
    exact Int.sub_mul_ediv_right _ _ positive.ne'
  have atMost : (number : Int) ≤ (last - first) / step :=
    (Int.le_ediv_iff_mul_le positive).mpr (by omega)
  have total : ((last - first) / step + 1).toNat =
      (number + 1) + ((last - first) / step - (number + 1) + 1).toNat := by
    omega
  unfold points
  rw [cut, remaining, total, List.range_add, List.map_append, List.map_map]
  congr 1
  refine List.map_congr_left fun position _ => ?_
  simp only [Function.comp_apply, Nat.cast_add, Nat.cast_one]
  ring

/-- Two parts that are at least one step apart have no more points than the whole. -/
theorem length_add_le (positive : 0 < step) {middle next : Int} (after : first ≤ middle)
    (before : middle ≤ last) (apart : middle + step ≤ next) :
    (points first middle step).length + (points next last step).length ≤
      (points first last step).length := by
  by_cases behind : last < next
  · have fewer : (middle - first) / step ≤ (last - first) / step :=
      Int.ediv_le_ediv positive (by omega)
    rw [points_eq_nil positive behind, length_points, length_points, List.length_nil]
    omega
  · have front : (middle - first) / step * step ≤ middle - first := Int.ediv_mul_le _ positive.ne'
    have back : (last - next) / step * step ≤ last - next := Int.ediv_mul_le _ positive.ne'
    have frontNonneg : 0 ≤ (middle - first) / step := Int.ediv_nonneg (by omega) positive.le
    have backNonneg : 0 ≤ (last - next) / step := Int.ediv_nonneg (by omega) positive.le
    have together : (middle - first) / step + (last - next) / step + 1 ≤ (last - first) / step := by
      apply (Int.le_ediv_iff_mul_le positive).mpr
      calc
        ((middle - first) / step + (last - next) / step + 1) * step
            = (middle - first) / step * step + (last - next) / step * step + step := by ring
        _ ≤ last - first := by omega
    rw [length_points, length_points, length_points]
    omega

end Grid
end Library
end Tropek
