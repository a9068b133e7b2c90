import Mathlib.Algebra.Order.BigOperators.Group.List
import Mathlib.Algebra.Order.Field.Basic
import Mathlib.Tactic.NormNum
import Tropek.Engine.Criteria
import Tropek.Library.OrderStatistics

namespace Tropek
namespace Engine

open Library OrderStatistics

/-!
# Aggregation is a statistic

Whatever function aggregates the values of a baseline, the outcome depends on the values
and not on their order, lies between the least and the greatest of them, and grows with
each of them.  A higher percentile is not smaller.
-/

def percentileIndex (count pct : Nat) : Nat :=
  min (count * pct / 100) (count - 1)

theorem percentileIndex_lt {count : Nat} (positive : 0 < count) (pct : Nat) :
    percentileIndex count pct < count := by
  unfold percentileIndex
  omega

theorem percentileIndex_mono (count : Nat) {pct higher : Nat} (atMost : pct ≤ higher) :
    percentileIndex count pct ≤ percentileIndex count higher :=
  min_le_min (Nat.div_le_div_right (Nat.mul_le_mul_left count atMost)) le_rfl

variable {value : ℚ} {values : List ℚ}

theorem percentile_eq_ok {pct : Nat} :
    percentile values pct = .ok value ↔
      values[percentileIndex values.length pct]? = some value := by
  unfold percentile percentileIndex
  cases values[min (values.length * pct / 100) (values.length - 1)]? with
  | none => exact ⟨fun impossible => (by cases impossible), fun impossible => (by cases impossible)⟩
  | some found =>
      constructor
      · intro same
        rw [Except.ok.inj same]
      · intro same
        rw [Option.some.inj same]

def AggregateFunction.pct : AggregateFunction -> Option Nat
  | .avg => none
  | .p50 => some 50
  | .p90 => some 90
  | .p95 => some 95
  | .p99 => some 99

theorem aggregateValues_eq (nonempty : values ≠ []) (function : AggregateFunction) :
    aggregateValues values function =
      match function.pct with
      | none => .ok (values.sum / values.length)
      | some pct => percentile (ascending values) pct := by
  unfold aggregateValues
  rw [if_neg nonempty]
  cases function with
  | avg =>
      have sameSum := (List.perm_insertionSort (· ≤ ·) values).sum_eq
      change Except.ok (_ / _) = Except.ok _
      rw [sameSum, List.length_insertionSort]
  | p50 => rfl
  | p90 => rfl
  | p95 => rfl
  | p99 => rfl

theorem aggregateValues_of_perm {others : List ℚ} (same : others.Perm values)
    (function : AggregateFunction) :
    aggregateValues others function = aggregateValues values function := by
  unfold aggregateValues
  have sorted : others.insertionSort (· ≤ ·) = values.insertionSort (· ≤ ·) := ascending_of_perm same
  by_cases empty : values = []
  · subst empty
    rw [List.perm_nil.mp same]
  · have alsoNonempty : others ≠ [] := fun isEmpty => empty (List.nil_perm.mp (isEmpty ▸ same))
    rw [if_neg empty, if_neg alsoNonempty, sorted]

theorem percentile_mem {pct : Nat} (read : percentile (ascending values) pct = .ok value) :
    value ∈ values :=
  mem_ascending.mp (List.mem_of_getElem? (percentile_eq_ok.mp read))

section Aggregated

variable {values : List ℚ} (nonempty : values ≠ []) {function : AggregateFunction} {value : ℚ}
  (aggregated : aggregateValues values function = .ok value)

include nonempty aggregated

theorem aggregateValues_ge {low : ℚ} (bound : forall measured, measured ∈ values -> low ≤ measured) :
    low ≤ value := by
  rw [aggregateValues_eq nonempty] at aggregated
  cases isPct : function.pct with
  | none =>
      rw [isPct] at aggregated
      have positive : (0 : ℚ) < values.length := by
        exact_mod_cast List.length_pos_of_ne_nil nonempty
      rw [<- Except.ok.inj aggregated, le_div_iff₀ positive, mul_comm]
      simpa using List.card_nsmul_le_sum values low bound
  | some pct =>
      rw [isPct] at aggregated
      exact bound value (percentile_mem aggregated)

theorem aggregateValues_le {high : ℚ}
    (bound : forall measured, measured ∈ values -> measured ≤ high) : value ≤ high := by
  rw [aggregateValues_eq nonempty] at aggregated
  cases isPct : function.pct with
  | none =>
      rw [isPct] at aggregated
      have positive : (0 : ℚ) < values.length := by
        exact_mod_cast List.length_pos_of_ne_nil nonempty
      rw [<- Except.ok.inj aggregated, div_le_iff₀ positive, mul_comm]
      simpa using List.sum_le_card_nsmul values high bound
  | some pct =>
      rw [isPct] at aggregated
      exact bound value (percentile_mem aggregated)

theorem aggregateValues_mono {others : List ℚ} (grows : List.Forall₂ (· ≤ ·) values others)
    {larger : ℚ} (alsoAggregated : aggregateValues others function = .ok larger) :
    value ≤ larger := by
  have alsoNonempty : others ≠ [] := by
    rintro rfl
    cases grows
    exact nonempty rfl
  rw [aggregateValues_eq nonempty] at aggregated
  rw [aggregateValues_eq alsoNonempty] at alsoAggregated
  cases isPct : function.pct with
  | none =>
      rw [isPct] at aggregated alsoAggregated
      rw [<- Except.ok.inj aggregated, <- Except.ok.inj alsoAggregated, <- grows.length_eq]
      exact div_le_div_of_nonneg_right grows.sum_le_sum (Nat.cast_nonneg _)
  | some pct =>
      rw [isPct] at aggregated alsoAggregated
      have ordered := ascending_mono grows
      have here := percentile_eq_ok.mp aggregated
      have there := percentile_eq_ok.mp alsoAggregated
      rw [<- ordered.length_eq] at there
      exact related_at ordered here there

end Aggregated

theorem percentile_mono {pct higher : Nat} (atMost : pct ≤ higher) {larger : ℚ}
    (read : percentile (ascending values) pct = .ok value)
    (alsoRead : percentile (ascending values) higher = .ok larger) : value ≤ larger :=
  sorted_at (List.pairwise_insertionSort _ _) (percentileIndex_mono _ atMost)
    (percentile_eq_ok.mp read) (percentile_eq_ok.mp alsoRead)

/-- Aggregation of a nonempty list succeeds with a statistic of its values. -/
theorem aggregateValues_statistic {values : List ℚ} (nonempty : values ≠ []) :
    Exists fun statistic : AggregateFunction -> ℚ =>
      (forall function, aggregateValues values function = .ok (statistic function)) ∧
      (forall others, others.Perm values -> forall function,
        aggregateValues others function = aggregateValues values function) ∧
      (forall function low high, (forall measured, measured ∈ values -> low ≤ measured) ->
        (forall measured, measured ∈ values -> measured ≤ high) ->
          low ≤ statistic function ∧ statistic function ≤ high) ∧
      (forall others, List.Forall₂ (· ≤ ·) values others -> forall function larger,
        aggregateValues others function = .ok larger -> statistic function ≤ larger) ∧
      (statistic .p50 ≤ statistic .p90 ∧ statistic .p90 ≤ statistic .p95 ∧
        statistic .p95 ≤ statistic .p99) ∧
      forall pct, min ((ascending values).length * pct / 100) ((ascending values).length - 1) <
        (ascending values).length := by
  choose statistic aggregated using fun function => aggregateValues_ok nonempty function
  have read : forall function pct, function.pct = some pct ->
      percentile (ascending values) pct = .ok (statistic function) := by
    intro function pct isPct
    have here := aggregated function
    rw [aggregateValues_eq nonempty, isPct] at here
    exact here
  have positive : 0 < (ascending values).length := by
    rw [List.length_insertionSort]
    exact List.length_pos_of_ne_nil nonempty
  refine ⟨statistic, aggregated, fun others same => aggregateValues_of_perm same, ?_, ?_,
    ⟨?_, ?_, ?_⟩, percentileIndex_lt positive⟩
  · intro function low high atLeast atMost
    exact ⟨aggregateValues_ge nonempty (aggregated function) atLeast,
      aggregateValues_le nonempty (aggregated function) atMost⟩
  · intro others grows function larger alsoAggregated
    exact aggregateValues_mono nonempty (aggregated function) grows alsoAggregated
  · exact percentile_mono (by decide) (read .p50 50 rfl) (read .p90 90 rfl)
  · exact percentile_mono (by decide) (read .p90 90 rfl) (read .p95 95 rfl)
  · exact percentile_mono (by decide) (read .p95 95 rfl) (read .p99 99 rfl)

theorem threeValues_statistic : Exists fun statistic : AggregateFunction -> ℚ =>
    (forall function, aggregateValues [3, 1, 2] function = .ok (statistic function)) ∧
      statistic .p50 ≤ statistic .p90 := by
  rcases aggregateValues_statistic (List.cons_ne_nil (3 : ℚ) [1, 2]) with
    ⟨statistic, aggregated, _, _, _, chain, _⟩
  exact ⟨statistic, aggregated, chain.1⟩

end Engine
end Tropek
