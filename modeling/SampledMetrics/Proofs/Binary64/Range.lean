import SampledMetrics.Proofs.Binary64.Arithmetic
/-!
The range of binary64.  The greatest magnitude is a full significand of 53 bits; half a step past it lies
the limit, and the rounded quotient is in range exactly below the limit.  An integer is converted
exactly below the limit in ones.
-/

set_option autoImplicit false
set_option relaxedAutoImplicit false

namespace SampledMetrics.Binary64

/-- The least number of units that is rounded out of range. -/
def limit : Nat :=
  (Nat.pow 2 54 - 1) * Nat.pow 2 2044

/-- The least positive integer that is rounded out of range. -/
def integerLimit : Nat :=
  (Nat.pow 2 54 - 1) * Nat.pow 2 970

theorem limit_pos : 0 < limit := by
  unfold limit
  generalize 2044 = shift
  exact Nat.mul_pos (by decide) (Nat.two_pow_pos shift)

theorem limit_eq : limit = integerLimit * unitsPerOne := by
  have exponents : 2044 = 970 + 1074 := by decide
  unfold limit integerLimit unitsPerOne
  rw [exponents]
  generalize 970 = a
  generalize 1074 = b
  rw [Nat.mul_assoc]
  exact congrArg _ (Nat.pow_add 2 a b)

theorem pow_lt_integerLimit : Nat.pow 2 54 < integerLimit := by
  have exponents : 970 = 969 + 1 := rfl
  unfold integerLimit
  rw [exponents]
  generalize 969 = shift
  have two : 1 * 2 ≤ Nat.pow 2 (shift + 1) := Nat.mul_le_mul_right 2 (Nat.two_pow_pos shift)
  exact Nat.lt_of_lt_of_le (by decide) (Nat.mul_le_mul_left (Nat.pow 2 54 - 1) two)

private theorem ceiling_eq : ceiling = Nat.pow 2 53 * (2 * Nat.pow 2 2044) := by
  have exponents : 2098 = 54 + 2044 := by decide
  unfold ceiling ceilingExponent
  rw [exponents]
  generalize 2044 = shift
  calc Nat.pow 2 (54 + shift) = Nat.pow 2 54 * Nat.pow 2 shift := Nat.pow_add 2 54 shift
    _ = Nat.pow 2 53 * 2 * Nat.pow 2 shift := rfl
    _ = Nat.pow 2 53 * (2 * Nat.pow 2 shift) := Nat.mul_assoc _ _ _

private theorem spacing_eq {units shift : Nat} (lower : Nat.pow 2 (53 + shift) ≤ units)
    (upper : units < Nat.pow 2 (54 + shift)) : spacing units = 2 * Nat.pow 2 shift := by
  have positive := Nat.two_pow_pos (53 + shift)
  have binade : units.log2 = 53 + shift := by
    refine (Nat.log2_eq_iff ?_).mpr ⟨lower, ?_⟩
    · rw [Nat.pow_eq] at lower
      omega
    · have exponents : 53 + shift + 1 = 54 + shift := by omega
      rw [exponents]
      exact upper
  unfold spacing
  rw [binade]
  have exponents : 53 + shift - 52 = shift + 1 := by omega
  rw [exponents, Nat.pow_eq, Nat.pow_eq, Nat.pow_succ, Nat.mul_comm]

private theorem roundQuotient_of_lt_half {num den whole : Nat} (le : whole * den ≤ num)
    (lt : 2 * (num - whole * den) < den) : roundQuotient num den = whole := by
  have positive : 0 < den := by omega
  obtain ⟨rest, rfl⟩ := Nat.exists_eq_add_of_le le
  have small : rest < den := by omega
  unfold roundQuotient
  rw [Nat.mul_comm, Nat.mul_add_div positive, Nat.div_eq_of_lt small, Nat.mul_add_mod,
    Nat.mod_eq_of_lt small]
  dsimp only
  rw [if_neg (by omega)]
  rfl

private theorem roundQuotient_tie {half whole : Nat} (positive : 0 < half) (odd : whole % 2 = 1) :
    roundQuotient ((2 * whole + 1) * half) (2 * half) = whole + 1 := by
  have product : (2 * whole + 1) * half = 2 * half * whole + half := by
    rw [Nat.add_mul, Nat.one_mul, Nat.mul_right_comm]
  unfold roundQuotient
  rw [product, Nat.mul_add_div (by omega), Nat.div_eq_of_lt (by omega), Nat.mul_add_mod,
    Nat.mod_eq_of_lt (by omega)]
  dsimp only
  rw [if_pos (by omega)]

private theorem spacing_of_top {units shift : Nat}
    (lower : (Nat.pow 2 53 - 1) * (2 * Nat.pow 2 shift) ≤ units)
    (upper : units ≤ (Nat.pow 2 54 - 1) * Nat.pow 2 shift) : spacing units = 2 * Nat.pow 2 shift := by
  have positive := Nat.two_pow_pos shift
  have full : Nat.pow 2 53 - 1 = 9007199254740991 := by decide
  have half : Nat.pow 2 54 - 1 = 18014398509481983 := by decide
  rw [full] at lower
  rw [half] at upper
  refine spacing_eq ?_ ?_
  · calc Nat.pow 2 (53 + shift) = Nat.pow 2 53 * Nat.pow 2 shift := Nat.pow_add 2 53 shift
      _ = 9007199254740992 * Nat.pow 2 shift := congrArg (· * Nat.pow 2 shift) (by decide)
      _ ≤ units := by omega
  · calc units ≤ 18014398509481983 * Nat.pow 2 shift := upper
      _ < 18014398509481984 * Nat.pow 2 shift := Nat.mul_lt_mul_of_pos_right (by decide) positive
      _ = Nat.pow 2 54 * Nat.pow 2 shift := congrArg (· * Nat.pow 2 shift) (by decide)
      _ = Nat.pow 2 (54 + shift) := (Nat.pow_add 2 54 shift).symm

private theorem roundUnits_limit {den : Nat} (positive : 0 < den) : roundUnits (limit * den) den = ceiling := by
  have step : spacing (limit * den / den) = 2 * Nat.pow 2 2044 := by
    rw [Nat.mul_div_cancel _ positive]
    unfold limit
    generalize 2044 = shift
    refine spacing_of_top ?_ (Nat.le_refl _)
    rw [← Nat.mul_assoc]
    exact Nat.mul_le_mul_right _ (by decide)
  unfold roundUnits
  rw [step, ceiling_eq]
  unfold limit
  generalize half_eq : Nat.pow 2 2044 = half
  have half_pos : 0 < half := by
    rw [← half_eq]
    generalize 2044 = shift
    exact Nat.two_pow_pos shift
  have num_eq : (Nat.pow 2 54 - 1) * half * den = (2 * (Nat.pow 2 53 - 1) + 1) * (half * den) := by
    rw [Nat.mul_assoc]
  have den_eq : den * (2 * half) = 2 * (half * den) := by ac_rfl
  have tie := roundQuotient_tie (Nat.mul_pos half_pos positive) (by decide : (Nat.pow 2 53 - 1) % 2 = 1)
  dsimp only
  rw [num_eq, den_eq, tie]

/-- The greatest magnitude. -/
def greatest : Nat :=
  (Nat.pow 2 53 - 1) * (2 * Nat.pow 2 2044)

theorem spacing_greatest : spacing greatest = 2 * Nat.pow 2 2044 := by
  unfold greatest
  generalize 2044 = shift
  refine spacing_of_top (Nat.le_refl _) ?_
  rw [← Nat.mul_assoc]
  exact Nat.mul_le_mul_right _ (by decide)

theorem spacing_dvd_greatest : spacing greatest ∣ greatest := by
  rw [spacing_greatest]
  unfold greatest
  generalize 2044 = shift
  exact Nat.dvd_mul_left _ _

theorem greatest_add_step : greatest + 2 * Nat.pow 2 2044 = ceiling := by
  rw [ceiling_eq]
  unfold greatest
  generalize 2 * Nat.pow 2 2044 = step
  exact (Nat.succ_mul _ step).symm

theorem greatest_add_half : greatest + Nat.pow 2 2044 = limit := by
  have full : Nat.pow 2 53 - 1 = 9007199254740991 := by decide
  have double : Nat.pow 2 54 - 1 = 18014398509481983 := by decide
  unfold greatest limit
  generalize Nat.pow 2 2044 = half
  rw [full, double]
  omega

theorem greatest_lt_ceiling : greatest < ceiling := by
  have step := greatest_add_step
  generalize 2044 = shift at step
  have positive := Nat.two_pow_pos shift
  rw [Nat.pow_eq] at step
  omega

private theorem roundUnits_of_lt_limit {num den : Nat} (above : greatest * den ≤ num)
    (below : num < limit * den) : roundUnits num den = greatest := by
  have positive : 0 < den := by
    refine Nat.pos_of_ne_zero fun zero => ?_
    rw [zero, Nat.mul_zero] at below
    exact Nat.not_lt_zero _ below
  have step : spacing (num / den) = 2 * Nat.pow 2 2044 := by
    have lower := (Nat.le_div_iff_mul_le positive).mpr above
    have upper := Nat.le_of_lt ((Nat.div_lt_iff_lt_mul positive).mpr below)
    unfold greatest at lower
    unfold limit at upper
    generalize 2044 = shift at lower upper ⊢
    exact spacing_of_top lower upper
  unfold roundUnits
  rw [step]
  unfold greatest at above ⊢
  unfold limit at below
  generalize Nat.pow 2 2044 = half at above below ⊢
  have quotient : roundQuotient num (den * (2 * half)) = Nat.pow 2 53 - 1 := by
    have full : Nat.pow 2 53 - 1 = 9007199254740991 := by decide
    have double : Nat.pow 2 54 - 1 = 18014398509481983 := by decide
    have product : den * (2 * half) = 2 * (half * den) := by ac_rfl
    rw [full, Nat.mul_assoc, Nat.mul_assoc] at above
    rw [double, Nat.mul_assoc] at below
    rw [full, product]
    exact roundQuotient_of_lt_half (by omega) (by omega)
  dsimp only
  rw [quotient]

theorem roundUnits_lt_ceiling_iff {num den : Nat} (positive : 0 < den) :
    roundUnits num den < ceiling ↔ num < limit * den := by
  constructor
  · intro finite
    refine Nat.lt_of_not_ge fun large => ?_
    have mono := roundUnits_mono positive large
    rw [roundUnits_limit positive] at mono
    omega
  · intro below
    rcases Nat.le_total num (greatest * den) with small | large
    · exact Nat.lt_of_le_of_lt (roundUnits_le positive spacing_dvd_greatest small) greatest_lt_ceiling
    · rw [roundUnits_of_lt_limit large below]
      exact greatest_lt_ceiling

/-- An integer has a nearest binary64 number exactly below the limit. -/
theorem isFinite_ofInt_iff (value : Int) : (ofInt value).isFinite ↔ value.natAbs < integerLimit := by
  rw [isFinite_ofInt, decide_eq_true_iff, roundUnits_lt_ceiling_iff Nat.one_pos, Nat.mul_one,
    limit_eq, natAbs_mul_unitsPerOne]
  exact Nat.mul_lt_mul_right unitsPerOne_pos

end SampledMetrics.Binary64
