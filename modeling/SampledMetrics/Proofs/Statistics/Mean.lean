import Mathlib.Algebra.Order.BigOperators.Group.List
import SampledMetrics.Proofs.Statistics.Expansion
import SampledMetrics.Proofs.Statistics.Variance
/-!
How far the mean can pass the numbers it is taken of.  Their exact sum is not more than the greatest one so many
times; the rounded sum, and the quotient by the rounded number of them, may each be moved past it.  Main
statement: a rounding that moves nothing costs nothing, and any other one at most one step of the grid.
-/

set_option autoImplicit false
set_option relaxedAutoImplicit false

namespace SampledMetrics

open Binary64 (unitsPerOne ceiling spacing roundUnits roundSigned OnGrid)

namespace Binary64

variable {low high : Int}

/-- Whatever their signs, two points of the grid are at least the 2^53rd part of the greater one apart, and of
the lesser one. -/
private theorem gap_of_lt_signed (low_grid : OnGrid low) (high_grid : OnGrid high) (lt : low < high) :
    2 ^ 53 * low ≤ (2 ^ 53 - 1) * high ∧ (2 ^ 53 - 1) * low ≤ 2 ^ 53 * high := by
  have power : Nat.pow 2 53 = 9007199254740992 := by decide
  rcases Int.le_total 0 low with above | below
  · have gap := gap_of_lt low_grid.2 high_grid.2 (by omega)
    rw [power] at gap
    omega
  · rcases Int.le_total 0 high with above | negative
    · omega
    · have gap := gap_of_lt high_grid.2 low_grid.2 (by omega)
      rw [power] at gap
      omega

private theorem roundSigned_le_relative {n : Int} (nonneg : 0 ≤ n) :
    2 ^ 53 * roundSigned n 1 ≤ (2 ^ 53 + 1) * n := by
  have power : Nat.pow 2 53 = 9007199254740992 := by decide
  have moved := roundUnits_le_relative n.natAbs
  rw [power] at moved
  unfold roundSigned
  split <;> omega

private theorem roundSigned_le_relative_of_nonpos {n : Int} (nonpos : n ≤ 0) :
    2 ^ 53 * roundSigned n 1 ≤ (2 ^ 53 - 1) * n := by
  have power : Nat.pow 2 53 = 9007199254740992 := by decide
  have moved := le_roundUnits_relative n.natAbs
  have kept := roundUnits_le_relative n.natAbs
  rw [power] at moved kept
  unfold roundSigned
  split <;> omega

end Binary64

namespace Statistics

section Rounded

variable {sum bound next : Int} {count : Nat}

private theorem rounded_sum_le (grid : OnGrid bound) (next_grid : OnGrid next)
    (le : sum ≤ count * bound) (lt : bound < next) : roundSigned sum 1 ≤ count * next := by
  obtain ⟨gap, gap'⟩ := Binary64.gap_of_lt_signed grid next_grid lt
  have many : (0 : Int) ≤ count := Int.natCast_nonneg count
  have scaled := Int.mul_le_mul_of_nonneg_left gap many
  have scaled' := Int.mul_le_mul_of_nonneg_left gap' many
  rw [Int.mul_left_comm, Int.mul_left_comm (count : Int)] at scaled scaled'
  rcases Int.le_total 0 sum with above | below
  · have moved := Binary64.roundSigned_le_relative above
    omega
  · have moved := Binary64.roundSigned_le_relative_of_nonpos below
    omega

def countUnits (count : Nat) : Nat :=
  roundUnits (count * unitsPerOne) 1

private theorem mul_le_mul_countUnits (grid : OnGrid bound) (next_grid : OnGrid next) (lt : bound < next) :
    count * bound * unitsPerOne ≤ next * countUnits count := by
  obtain ⟨gap, gap'⟩ := Binary64.gap_of_lt_signed grid next_grid lt
  have power : Nat.pow 2 53 = 9007199254740992 := by decide
  have upper := Binary64.roundUnits_le_relative (count * unitsPerOne)
  have lower := Binary64.le_roundUnits_relative (count * unitsPerOne)
  change _ ≤ _ * countUnits count at lower
  change _ * countUnits count ≤ _ at upper
  rw [power] at upper lower
  have commuted : count * bound * unitsPerOne = ((count * unitsPerOne : Nat) : Int) * bound := by
    rw [Int.natCast_mul, Int.mul_right_comm]
  rw [commuted]
  generalize count * unitsPerOne = exact at upper lower
  generalize countUnits count = rounded at upper lower
  have many : (0 : Int) ≤ exact := Int.natCast_nonneg exact
  rcases Int.le_total 0 next with above | below
  · have fewer : (2 ^ 53 - 1) * (exact : Int) ≤ 2 ^ 53 * rounded := by omega
    have by_next := Int.mul_le_mul_of_nonneg_left fewer above
    have by_count := Int.mul_le_mul_of_nonneg_left gap many
    rw [Int.mul_left_comm, Int.mul_left_comm next] at by_next
    rw [Int.mul_left_comm, Int.mul_left_comm (exact : Int), Int.mul_comm _ next] at by_count
    omega
  · have more : 2 ^ 53 * (rounded : Int) ≤ (2 ^ 53 + 1) * exact := by omega
    have by_next := Int.mul_le_mul_of_nonpos_left below more
    have wide : 2 ^ 53 * bound ≤ (2 ^ 53 + 1) * next := by omega
    have by_count := Int.mul_le_mul_of_nonneg_left wide many
    rw [Int.mul_left_comm, Int.mul_left_comm next] at by_next
    rw [Int.mul_left_comm, Int.mul_left_comm (exact : Int), Int.mul_comm _ next] at by_count
    omega

end Rounded

/-- Not past a point by more than so many steps to the next greater point of the grid. -/
def WithinSteps : Nat → Int → Int → Prop
  | 0, bound, value => value ≤ bound
  | steps + 1, bound, value => ∀ next, OnGrid next → bound < next → WithinSteps steps next value

/-- One for a whole number of more than 53 significant bits, which rounding moves. -/
def excess (n : Nat) : Nat :=
  if spacing n ∣ n then 0 else 1

/-- The mean by the sum and the number of samples, in units. -/
def meanUnits (sum : Int) (count : Nat) : Int :=
  roundSigned (roundSigned sum 1 * unitsPerOne) (countUnits count)

section Mean

variable {sum bound : Int} {count : Nat}

private theorem countUnits_of_spacing_dvd (grid : spacing count ∣ count) : countUnits count = count * unitsPerOne := by
  have whole : spacing (count * unitsPerOne) ∣ count * unitsPerOne := by
    unfold unitsPerOne
    generalize 1074 = shift
    exact Binary64.spacing_dvd_mul_pow grid shift
  exact Binary64.roundUnits_one whole

private theorem unitsPerOne_le_countUnits (positive : 0 < count) : unitsPerOne ≤ countUnits count := by
  refine Binary64.le_roundUnits Nat.one_pos Binary64.spacing_dvd_unitsPerOne ?_
  rw [Nat.mul_one]
  exact Nat.le_mul_of_pos_left _ positive

private theorem withinSteps_quotient (positive : 0 < count) (grid : OnGrid bound)
    (le : roundSigned sum 1 ≤ count * bound) : WithinSteps (excess count) bound (meanUnits sum count) := by
  have divisor := Nat.lt_of_lt_of_le Binary64.unitsPerOne_pos (unitsPerOne_le_countUnits positive)
  have scaled := Int.mul_le_mul_of_nonneg_right le (Int.natCast_nonneg unitsPerOne)
  unfold excess
  split
  · rename_i exact
    refine Binary64.roundSigned_le divisor grid.2 (Int.le_trans scaled (Int.le_of_eq ?_))
    rw [countUnits_of_spacing_dvd exact, Int.natCast_mul, ← Int.mul_assoc, Int.mul_comm bound]
  · intro next next_grid lt
    exact Binary64.roundSigned_le divisor next_grid.2
      (Int.le_trans scaled (mul_le_mul_countUnits grid next_grid lt))

theorem withinSteps_mean (positive : 0 < count) (grid : OnGrid bound) (le : sum ≤ count * bound) :
    WithinSteps (excess count + excess (count * bound.natAbs)) bound (meanUnits sum count) := by
  have size : ((count : Int) * bound).natAbs = count * bound.natAbs := by
    rw [Int.natAbs_mul, Int.natAbs_natCast]
  by_cases exact : spacing (count * bound.natAbs) ∣ count * bound.natAbs
  · have none : excess (count * bound.natAbs) = 0 := if_pos exact
    rw [none]
    refine withinSteps_quotient positive grid (Binary64.roundSigned_le Nat.one_pos ?_ ?_)
    · rwa [size]
    · rwa [Int.natCast_one, Int.mul_one]
  · have one : excess (count * bound.natAbs) = 1 := if_neg exact
    rw [one]
    intro next next_grid lt
    exact withinSteps_quotient positive next_grid (rounded_sum_le grid next_grid le lt)

theorem meanUnits_neg (sum : Int) (count : Nat) : meanUnits (-sum) count = -meanUnits sum count := by
  unfold meanUnits
  rw [Binary64.roundSigned_neg, Int.neg_mul, Binary64.roundSigned_neg]

end Mean

section Reals

variable {reals : List Binary64} {bound : Int}

theorem partsSum_le (le : ∀ x ∈ reals, exactUnits x ≤ bound) : partsSum reals ≤ reals.length * bound := by
  have most := List.sum_le_card_nsmul (reals.map exactUnits) bound (List.forall_mem_map.mpr le)
  unfold partsSum
  rwa [total_eq_sum, ← nsmul_eq_mul, ← List.length_map exactUnits]

theorem le_partsSum (le : ∀ x ∈ reals, bound ≤ exactUnits x) : reals.length * bound ≤ partsSum reals := by
  have least := List.card_nsmul_le_sum (reals.map exactUnits) bound (List.forall_mem_map.mpr le)
  unfold partsSum
  rwa [total_eq_sum, ← nsmul_eq_mul, ← List.length_map exactUnits]

theorem place?_mean {m : Binary64} (nonempty : reals ≠ []) (finite : ∀ x ∈ reals, x.isFinite)
    (few : (Number.int (reals.length : Int)).inRange)
    (given : mean ((reals.map Number.float).map .number) = .ok m) :
    m.place? = some (.whole (meanUnits (partsSum reals) reals.length)) := by
  obtain ⟨total, summed, divided⟩ := Failure.bind_eq_ok_iff.mp given
  obtain rfl := Except.ok.inj divided
  have positive := List.length_pos_iff.mpr nonempty
  have sum_place := place?_sum finite summed
  have grid := Binary64.onGrid_of_place? sum_place
  have count_finite := (Binary64.isFinite_ofInt_iff _).mpr ((Number.inRange_int _).mp few)
  have count_place := Binary64.place?_ofInt count_finite
  rw [← Int.natCast_mul, Binary64.roundSigned_natCast] at count_place
  have divisor := unitsPerOne_le_countUnits positive
  have small := Binary64.roundUnits_le (Nat.lt_of_lt_of_le Binary64.unitsPerOne_pos divisor) grid.2
    (Nat.mul_le_mul_left _ divisor)
  have quotient := Binary64.place?_div sum_place count_place
    (Nat.lt_of_lt_of_le Binary64.unitsPerOne_pos divisor) (by
      rw [Binary64.natAbs_mul_unitsPerOne]
      exact Nat.lt_of_le_of_lt small grid.1)
  rw [List.length_map, List.length_map]
  exact quotient

end Reals

end Statistics

end SampledMetrics
