import SampledMetrics.Proofs.Binary64.Root
import SampledMetrics.Proofs.Snapshot.Definedness
import SampledMetrics.Proofs.Snapshot.Sorted
import SampledMetrics.Proofs.Statistics.Twins
import SampledMetrics.Proofs.Statistics.Variance
/-!
The standard deviation of integers of any size.  It is the root of their exact variance, rounded correctly,
or refused when the variance is out of range.  Main statement: it does not change when the integers are
shifted, reflected or repeated.
-/

set_option autoImplicit false
set_option relaxedAutoImplicit false

namespace SampledMetrics

open Binary64 (unitsPerOne integerLimit pow_lt_integerLimit spacing)

namespace Binary64

def rational (x : Binary64) : ℚ :=
  Statistics.exactUnits x / unitsPerOne

/-- Correctly rounded as the root of a square: no finite number is nearer to it, and one is as near only if
the last bit of the significand of this one is zero.  Of two numbers the one is not nearer when the
square of the middle is on the other side. -/
structure IsRoundedRoot (root : Binary64) (square : ℚ) : Prop where
  finite : root.isFinite
  nonneg : 0 ≤ root.rational
  below : ∀ y : Binary64, y.isFinite → 0 ≤ y.rational → y.rational < root.rational →
    ((root.rational + y.rational) / 2) ^ 2 ≤ square
  above : ∀ y : Binary64, y.isFinite → root.rational < y.rational →
    square ≤ ((root.rational + y.rational) / 2) ^ 2
  even : ∀ y : Binary64, y.isFinite → 0 ≤ y.rational → y.rational ≠ root.rational →
    ((root.rational + y.rational) / 2) ^ 2 = square →
    2 * spacing (Statistics.exactUnits root).natAbs ∣ (Statistics.exactUnits root).natAbs

private theorem rational_of_place? {x : Binary64} {units : Int} (place : x.place? = some (.whole units)) :
    x.rational = units / unitsPerOne := by
  rw [rational, Statistics.exactUnits_eq_of_place? place]

private theorem unitsPerOne_cast_pos : (0 : ℚ) < unitsPerOne :=
  Nat.cast_pos.mpr unitsPerOne_pos

private theorem exists_units_of_nonneg {y : Binary64} (finite : y.isFinite) (nonneg : 0 ≤ y.rational) :
    ∃ units : Nat, y.rational = units / unitsPerOne ∧ spacing units ∣ units := by
  obtain ⟨units, place⟩ := isFinite_iff.mp finite
  have grid := onGrid_of_place? place
  have value := rational_of_place? place
  have one := unitsPerOne_cast_pos
  have sign : (0 : ℚ) ≤ units := by
    rw [value, le_div_iff₀ one, zero_mul] at nonneg
    exact nonneg
  have whole : ((units.natAbs : Nat) : Int) = units := Int.natAbs_of_nonneg (Int.cast_nonneg_iff.mp sign)
  refine ⟨units.natAbs, ?_, grid.2⟩
  rw [value, ← Int.cast_natCast units.natAbs, whole]

section Middle

variable {unit square : ℚ} {num den : Nat}

private theorem middle_scaled (positive : 0 < unit) (den point other : Nat) :
    (((point : ℚ) / unit + other / unit) / 2) ^ 2 * (4 * unit ^ 2 * den)
      = (((point + other) ^ 2 * den : Nat) : ℚ) := by
  push_cast
  field_simp
  ring

private theorem square_scaled (quotient : den * (unit ^ 2 * square) = num) :
    square * (4 * unit ^ 2 * den) = ((4 * num : Nat) : ℚ) := by
  push_cast
  rw [← quotient]
  ring

end Middle

private theorem isRoundedRoot_of_isNearestRoot {root : Binary64} {point num den : Nat} {square : ℚ}
    (place : root.place? = some (.whole point)) (positive : 0 < den) (nearest : IsNearestRoot point num den)
    (quotient : den * ((unitsPerOne : ℚ) ^ 2 * square) = num) : root.IsRoundedRoot square := by
  have value := rational_of_place? place
  have units := Statistics.exactUnits_eq_of_place? place
  have one := unitsPerOne_cast_pos
  rw [Int.cast_natCast] at value
  have nonneg : 0 ≤ root.rational := by
    rw [value]
    exact div_nonneg (Nat.cast_nonneg _) (le_of_lt one)
  have order (other : Nat) : (other : ℚ) / unitsPerOne < point / unitsPerOne ↔ other < point := by
    rw [div_lt_div_iff_of_pos_right one, Nat.cast_lt]
  have order' (other : Nat) : (point : ℚ) / unitsPerOne < other / unitsPerOne ↔ point < other := by
    rw [div_lt_div_iff_of_pos_right one, Nat.cast_lt]
  have factor : (0 : ℚ) < 4 * unitsPerOne ^ 2 * den :=
    mul_pos (mul_pos four_pos (pow_pos one 2)) (Nat.cast_pos.mpr positive)
  have middle := middle_scaled one den point
  have scaled := square_scaled quotient
  refine ⟨isFinite_iff.mpr ⟨_, place⟩, nonneg, ?_, ?_, ?_⟩
  · intro y finite nonneg lt
    obtain ⟨other, other_value, grid⟩ := exists_units_of_nonneg finite nonneg
    rw [value, other_value] at lt ⊢
    rw [← mul_le_mul_iff_left₀ factor, middle, scaled, Nat.cast_le]
    exact nearest.below other grid ((order other).mp lt)
  · intro y finite lt
    obtain ⟨other, other_value, grid⟩ := exists_units_of_nonneg finite (le_trans nonneg (le_of_lt lt))
    rw [value, other_value] at lt ⊢
    rw [← mul_le_mul_iff_left₀ factor, middle, scaled, Nat.cast_le]
    exact nearest.above other grid ((order' other).mp lt)
  · intro y finite nonneg different tie
    obtain ⟨other, other_value, grid⟩ := exists_units_of_nonneg finite nonneg
    rw [value, other_value] at different tie
    have equal := congrArg (· * (4 * (unitsPerOne : ℚ) ^ 2 * den)) tie
    rw [middle, scaled, Nat.cast_inj] at equal
    rw [units, Int.natAbs_natCast]
    refine nearest.even other grid (fun same => different ?_) equal
    rw [same]

end Binary64

namespace Statistics

open Binary64 (IsNearestRoot)

section Root

variable {values : List Int}

private theorem scaledVariance_perm {units units' : List Int} (perm : units.Perm units') :
    scaledVariance units = scaledVariance units' := by
  unfold scaledVariance
  rw [total_eq_sum, total_eq_sum, total_eq_sum, total_eq_sum, perm.length_eq, perm.sum_eq,
    (perm.map _).sum_eq]

private theorem toNat_scaledVariance (nonempty : values ≠ []) :
    ((values.length * values.length : Nat) : ℚ) * ((unitsPerOne : ℚ) ^ 2 * variance values) =
      ((scaledVariance (values.map (· * (unitsPerOne : Int)))).toNat : Nat) := by
  have scaled := scaledVariance_eq nonempty (unitsPerOne : Int)
  rw [Int.cast_natCast] at scaled
  have nonneg : 0 ≤ scaledVariance (values.map (· * (unitsPerOne : Int))) := by
    rw [← Int.cast_nonneg_iff (R := ℚ), scaled]
    exact mul_nonneg (sq_nonneg _) (mul_nonneg (sq_nonneg _) (variance_nonneg _))
  rw [← Int.cast_natCast (Int.toNat _), Int.toNat_of_nonneg nonneg, scaled, Nat.cast_mul,
    sq (values.length : ℚ), mul_assoc]

private theorem rootDeviation_eq_of_variance {others : List Int} (nonempty : values ≠ []) (nonempty' : others ≠ [])
    (same : variance values = variance others) :
    rootDeviation (values.map (· * (unitsPerOne : Int))) = rootDeviation (others.map (· * (unitsPerOne : Int))) := by
  have positive := List.length_pos_iff.mpr nonempty
  have positive' := List.length_pos_iff.mpr nonempty'
  have left := toNat_scaledVariance nonempty
  have right := toNat_scaledVariance nonempty'
  unfold rootDeviation
  rw [List.length_map, List.length_map]
  refine Binary64.sqrtUnits_eq_of_cross (Nat.mul_pos positive positive) (Nat.mul_pos positive' positive') ?_
  rw [← Nat.cast_inj (R := ℚ), Nat.cast_mul _ (others.length * others.length),
    Nat.cast_mul _ (values.length * values.length), ← left, ← right, same]
  ring

end Root

end Statistics

namespace Snapshot

open Statistics (variance rootDeviation)

def spread (values : List Int) : Except Failure Binary64 := do
  (← Snapshot.ofValues (values.map .int)).stddev

section Spread

variable {values : List Int}

private theorem spread_eq (several : 2 ≤ values.length) :
    spread values =
      if (rootDeviation (values.map (· * (unitsPerOne : Int)))).isFinite
      then .ok (rootDeviation (values.map (· * (unitsPerOne : Int)))) else .error .quotientTooLarge := by
  have perm := Number.sorted_perm (values.map .int)
  have finite : ∀ x ∈ Number.sorted (values.map .int), x.isFinite := by
    intro x present
    obtain ⟨whole, -, rfl⟩ := List.mem_map.mp (perm.mem_iff.mp present)
    rfl
  have many : ¬ size ⟨(Number.sorted (values.map .int)).map .number⟩ ≤ 1 := by
    have length := perm.length_eq
    rw [List.length_map] at length
    unfold size
    rw [List.length_map]
    omega
  have units : (values.map Number.int).map Number.units = values.map (· * (unitsPerOne : Int)) := by
    rw [List.map_map]
    exact List.map_congr_left fun whole _ => Number.units_int whole
  have root : rootDeviation ((Number.sorted (values.map .int)).map Number.units) =
      rootDeviation (values.map (· * (unitsPerOne : Int))) := by
    have rearranged := perm.map Number.units
    rw [units] at rearranged
    unfold rootDeviation
    rw [Statistics.scaledVariance_perm rearranged, rearranged.length_eq]
  unfold spread
  rw [ofValues_integers]
  change stddev _ = _
  unfold stddev
  rw [if_neg many, Statistics.deviation_eq finite, root]

private theorem spread_eq_of_variance {others : List Int} (several : 2 ≤ values.length) (several' : 2 ≤ others.length)
    (same : variance values = variance others) : spread values = spread others := by
  have nonempty : values ≠ [] := List.length_pos_iff.mp (by omega)
  have nonempty' : others ≠ [] := List.length_pos_iff.mp (by omega)
  rw [spread_eq several, spread_eq several', Statistics.rootDeviation_eq_of_variance nonempty nonempty' same]

private theorem spread_cases (several : 2 ≤ values.length) :
    (variance values < (integerLimit : ℚ) ^ 2 ∧
      ∃ root, spread values = .ok root ∧ root.IsRoundedRoot (variance values)) ∨
      ((integerLimit : ℚ) ^ 2 ≤ variance values ∧ spread values = .error .quotientTooLarge) := by
  have nonempty : values ≠ [] := List.length_pos_iff.mp (by omega)
  have positive := List.length_pos_iff.mpr nonempty
  have square := Nat.mul_pos positive positive
  have scaled := Statistics.toNat_scaledVariance nonempty
  have one := Binary64.unitsPerOne_cast_pos
  generalize numerator : (Statistics.scaledVariance (values.map (· * (unitsPerOne : Int)))).toNat = num at scaled
  have root : rootDeviation (values.map (· * (unitsPerOne : Int))) =
      Binary64.sqrtUnits num (values.length * values.length) := by
    unfold rootDeviation
    rw [numerator, List.length_map]
  have range : (rootDeviation (values.map (· * (unitsPerOne : Int)))).isFinite ↔
      variance values < (integerLimit : ℚ) ^ 2 := by
    have factor : (0 : ℚ) < ((values.length * values.length : Nat) : ℚ) * (unitsPerOne : ℚ) ^ 2 :=
      mul_pos (Nat.cast_pos.mpr square) (pow_pos one 2)
    have bound : ((Binary64.limit * Binary64.limit * (values.length * values.length) : Nat) : ℚ) =
        ((values.length * values.length : Nat) : ℚ) * (unitsPerOne : ℚ) ^ 2 * (integerLimit : ℚ) ^ 2 := by
      rw [Binary64.limit_eq]
      push_cast
      ring
    rw [root, Binary64.isFinite_sqrtUnits_iff square, ← Nat.cast_lt (α := ℚ), ← scaled, ← mul_assoc, bound,
      mul_lt_mul_iff_right₀ factor]
  rw [spread_eq several]
  by_cases small : variance values < (integerLimit : ℚ) ^ 2
  · have finite := range.mpr small
    left
    refine ⟨small, _, if_pos finite, ?_⟩
    rw [root] at finite ⊢
    exact Binary64.isRoundedRoot_of_isNearestRoot (Binary64.place?_sqrtUnits finite) square
      (Binary64.isNearestRoot_roundUnits square) scaled
  · right
    exact ⟨not_lt.mp small, if_neg fun finite => small (range.mp finite)⟩

/-- The standard deviation of integers does not change when they are shifted, reflected or repeated: it is
the root of their exact variance, rounded once, or too large for binary64. -/
theorem spread_moved (several : 2 ≤ values.length) (shift : Int) {times : Nat} (repeated : 1 ≤ times) :
    spread (values.map (· + shift)) = spread values ∧ spread (values.map (- ·)) = spread values ∧
      spread (List.replicate times values).flatten = spread values ∧
      ((variance values < (integerLimit : ℚ) ^ 2 ∧
          ∃ root, spread values = .ok root ∧ root.IsRoundedRoot (variance values)) ∨
        ((integerLimit : ℚ) ^ 2 ≤ variance values ∧ spread values = .error .quotientTooLarge)) := by
  have nonempty : values ≠ [] := List.length_pos_iff.mp (by omega)
  have shifted : 2 ≤ (values.map (· + shift)).length := by rwa [List.length_map]
  have reflected : 2 ≤ (values.map (- ·)).length := by rwa [List.length_map]
  have longer : 2 ≤ (List.replicate times values).flatten.length := by
    rw [Statistics.length_repeat]
    exact Nat.le_trans several (Nat.le_mul_of_pos_left _ repeated)
  refine ⟨?_, ?_, ?_, spread_cases several⟩
  · exact spread_eq_of_variance shifted several (Statistics.variance_shift nonempty shift)
  · exact spread_eq_of_variance reflected several (Statistics.variance_negate values)
  · exact spread_eq_of_variance longer several (Statistics.variance_repeat repeated values)

/-- Integers far beyond the range of binary64, close to each other. -/
def farIntegers : List Int :=
  [0, 1, 5].map (· + 10 ^ 400)

theorem spread_moved_far :
    2 ≤ farIntegers.length ∧ 1 ≤ 3 ∧
      spread (farIntegers.map (· + -10 ^ 400)) = spread farIntegers ∧
      spread (farIntegers.map (- ·)) = spread farIntegers ∧
      spread (List.replicate 3 farIntegers).flatten = spread farIntegers ∧
      ∃ root, spread farIntegers = .ok root ∧ root.IsRoundedRoot (14 / 3) := by
  have several : 2 ≤ farIntegers.length := by decide
  have repeated : 1 ≤ 3 := by decide
  have squares : variance farIntegers = 14 / 3 := by
    unfold farIntegers
    rw [Statistics.variance_shift (List.cons_ne_nil _ _)]
    norm_num [variance, Statistics.average]
  obtain ⟨shifted, reflected, longer, small | large⟩ := spread_moved several (-10 ^ 400) repeated
  · rw [squares] at small
    exact ⟨several, repeated, shifted, reflected, longer, small.2⟩
  · rw [squares] at large
    have limit : (3 : ℚ) ≤ integerLimit :=
      Nat.cast_le.mpr (Nat.le_trans (by decide) (Nat.le_of_lt pow_lt_integerLimit))
    nlinarith [large.1]

end Spread

end Snapshot

end SampledMetrics
