import Mathlib.Algebra.BigOperators.Group.List.Basic
import Mathlib.Algebra.BigOperators.Ring.List
import Mathlib.Algebra.Order.BigOperators.Group.List
import Mathlib.Data.Rat.Cast.Order
import Mathlib.Tactic.FieldSimp
import Mathlib.Tactic.LinearCombination
import Mathlib.Tactic.Ring
import SampledMetrics.Statistics
/-!
The population variance of whole numbers, exactly: the mean squared distance from their average.  It is the
same when all of them are shifted by the same amount, when all change their sign, and when they are
repeated.  What the standard deviation takes the root of is a multiple of it.
-/

set_option autoImplicit false
set_option relaxedAutoImplicit false

namespace SampledMetrics.Statistics

def average (values : List Int) : ℚ :=
  values.sum / values.length

/-- The mean squared distance of whole numbers from their average. -/
def variance (values : List Int) : ℚ :=
  (values.map fun (x : Int) => ((x : ℚ) - average values) ^ 2).sum / values.length

theorem total_eq_sum (values : List Int) : total values = values.sum := by
  induction values with
  | nil => rfl
  | cons x rest ih => rw [total, List.sum_cons, ih]

section Variance

variable {values : List Int}

private theorem length_ne_zero (nonempty : values ≠ []) : (values.length : ℚ) ≠ 0 := by
  have positive := List.length_pos_iff.mpr nonempty
  exact Nat.cast_ne_zero.mpr (Nat.ne_of_gt positive)

private theorem cast_sum (values : List Int) : ((values.sum : Int) : ℚ) = (values.map fun (x : Int) => (x : ℚ)).sum := by
  induction values with
  | nil => rfl
  | cons x rest ih => rw [List.sum_cons, List.map_cons, List.sum_cons, Int.cast_add, ih]

private theorem length_sq_mul_variance (nonempty : values ≠ []) :
    (values.length : ℚ) ^ 2 * variance values =
      values.length * (values.map fun (x : Int) => (x : ℚ) ^ 2).sum - (values.sum : ℚ) ^ 2 := by
  have count := length_ne_zero nonempty
  have expand (x : Int) : ((x : ℚ) - average values) ^ 2 =
      (x : ℚ) ^ 2 + (-(2 * average values) * x + average values ^ 2) := by ring
  unfold variance
  simp only [expand, List.sum_map_add, List.sum_map_mul_left, List.map_const', List.sum_replicate,
    nsmul_eq_mul, ← cast_sum]
  unfold average
  field_simp
  ring

theorem variance_nonneg (values : List Int) : 0 ≤ variance values := by
  refine div_nonneg (List.sum_nonneg fun y present => ?_) (Nat.cast_nonneg _)
  obtain ⟨x, -, rfl⟩ := List.mem_map.mp present
  exact sq_nonneg _

private theorem average_shift (nonempty : values ≠ []) (shift : Int) :
    average (values.map (· + shift)) = average values + shift := by
  have count := length_ne_zero nonempty
  unfold average
  rw [List.sum_map_add, List.map_id', List.map_const', List.sum_replicate, List.length_map, nsmul_eq_mul]
  push_cast
  field_simp

theorem variance_shift (nonempty : values ≠ []) (shift : Int) :
    variance (values.map (· + shift)) = variance values := by
  have distance (x : Int) : (((x + shift : Int) : ℚ) - (average values + shift)) ^ 2 =
      ((x : ℚ) - average values) ^ 2 := by
    push_cast
    ring
  unfold variance
  rw [average_shift nonempty, List.map_map, List.length_map]
  simp only [Function.comp_def, distance]

private theorem average_negate (values : List Int) : average (values.map (- ·)) = -average values := by
  have sum : (values.map (- ·)).sum = -values.sum := (List.sum_neg values).symm
  unfold average
  rw [sum, List.length_map, Int.cast_neg, neg_div]

theorem variance_negate (values : List Int) : variance (values.map (- ·)) = variance values := by
  have distance (x : Int) : (((-x : Int) : ℚ) - -average values) ^ 2 = ((x : ℚ) - average values) ^ 2 := by
    push_cast
    ring
  unfold variance
  rw [average_negate, List.map_map, List.length_map]
  simp only [Function.comp_def, distance]

private theorem sum_map_repeat (f : Int → ℚ) (times : Nat) (values : List Int) :
    ((List.replicate times values).flatten.map f).sum = times * (values.map f).sum := by
  rw [List.map_flatten, List.sum_flatten, List.map_replicate, List.map_replicate, List.sum_replicate,
    nsmul_eq_mul]

theorem length_repeat (times : Nat) (values : List Int) :
    (List.replicate times values).flatten.length = times * values.length := by
  rw [List.length_flatten, List.map_replicate, List.sum_replicate, Nat.nsmul_eq_mul]

private theorem average_repeat {times : Nat} (repeated : 1 ≤ times) (values : List Int) :
    average (List.replicate times values).flatten = average values := by
  have count : (times : ℚ) ≠ 0 := Nat.cast_ne_zero.mpr (by omega)
  unfold average
  rw [cast_sum, sum_map_repeat, length_repeat, ← cast_sum, Nat.cast_mul, mul_div_mul_left _ _ count]

theorem variance_repeat {times : Nat} (repeated : 1 ≤ times) (values : List Int) :
    variance (List.replicate times values).flatten = variance values := by
  have count : (times : ℚ) ≠ 0 := Nat.cast_ne_zero.mpr (by omega)
  unfold variance
  rw [average_repeat repeated, sum_map_repeat, length_repeat, Nat.cast_mul, mul_div_mul_left _ _ count]

/-- What the deviation takes the root of, for whole numbers in units. -/
theorem scaledVariance_eq (nonempty : values ≠ []) (scale : Int) :
    ((scaledVariance (values.map (· * scale)) : Int) : ℚ) =
      (values.length : ℚ) ^ 2 * ((scale : ℚ) ^ 2 * variance values) := by
  have collected := length_sq_mul_variance nonempty
  have sum : (((values.map (· * scale)).sum : Int) : ℚ) = values.sum * scale := by
    rw [List.sum_map_mul_right, List.map_id', Int.cast_mul]
  have squares : ((((values.map (· * scale)).map fun u => u * u).sum : Int) : ℚ) =
      (values.map fun (x : Int) => (x : ℚ) ^ 2).sum * scale ^ 2 := by
    have square (x : Int) : ((x * scale * (x * scale) : Int) : ℚ) = (x : ℚ) ^ 2 * scale ^ 2 := by
      push_cast
      ring
    rw [cast_sum, List.map_map, List.map_map]
    simp only [Function.comp_def, square]
    rw [List.sum_map_mul_right]
  unfold scaledVariance
  rw [total_eq_sum, total_eq_sum, List.length_map, Int.cast_sub, Int.cast_mul, Int.cast_mul, sum, squares,
    Int.cast_natCast]
  linear_combination (-(scale : ℚ) ^ 2) * collected

end Variance

end SampledMetrics.Statistics
