/-!
The grid of 64-bit floating point, in exact whole numbers.  The smallest positive magnitude,
2^-1074, is one unit; every finite magnitude is a whole number of units with at most 53 significant
bits.  A quotient of two whole numbers is rounded to this grid once, halves going to the even
neighbour.  Main statement: a rounded magnitude lies on the grid.
-/

set_option autoImplicit false
set_option relaxedAutoImplicit false

namespace SampledMetrics.Binary64

/-- The whole number nearest to `num / den`; of two equally near ones, the even one. -/
def roundQuotient (num den : Nat) : Nat :=
  let quotient := num / den
  let twice := 2 * (num % den)
  if den < twice ∨ (twice = den ∧ quotient % 2 = 1) then quotient + 1 else quotient

/-- The distance between neighbouring magnitudes at `units`: one unit below 2^53 units, and
doubled with every further doubling. -/
def spacing (units : Nat) : Nat :=
  Nat.pow 2 (units.log2 - 52)

/-- The power of two, in units, that is 2^1024. -/
def ceilingExponent : Nat :=
  2098

def ceiling : Nat :=
  Nat.pow 2 ceilingExponent

theorem pow_le_ceiling {exponent : Nat} (bound : exponent ≤ 2098) :
    Nat.pow 2 exponent ≤ ceiling := by
  unfold ceiling
  rw [Nat.pow_eq, Nat.pow_eq]
  exact Nat.pow_le_pow_right (by decide) bound

/-- A magnitude of the grid: below the ceiling and a multiple of its own spacing. -/
def Representable (units : Nat) : Prop :=
  units < ceiling ∧ spacing units ∣ units

instance (units : Nat) : Decidable (Representable units) := by
  unfold Representable
  infer_instance

/-- `num / den` units rounded to 53 significant bits, whatever its size. -/
def roundUnits (num den : Nat) : Nat :=
  let step := spacing (num / den)
  roundQuotient num (den * step) * step

theorem roundQuotient_le (num den : Nat) : roundQuotient num den ≤ num / den + 1 := by
  unfold roundQuotient
  dsimp only
  split <;> omega

theorem le_roundQuotient (num den : Nat) : num / den ≤ roundQuotient num den := by
  unfold roundQuotient
  dsimp only
  split <;> omega

theorem spacing_pos (units : Nat) : 0 < spacing units :=
  Nat.two_pow_pos _

theorem lt_spacing_mul (units : Nat) : units < spacing units * Nat.pow 2 53 := by
  unfold spacing
  rw [Nat.pow_eq, Nat.pow_eq, ← Nat.pow_add]
  exact Nat.lt_of_lt_of_le Nat.lt_log2_self (Nat.pow_le_pow_right (by decide) (by omega))

/-- A significand of at most 53 bits, or the power of two just after them, is never finer than
the spacing of its own binade. -/
theorem spacing_dvd_of_le {significand : Nat} (shift : Nat) (bound : significand ≤ Nat.pow 2 53) :
    spacing (significand * Nat.pow 2 shift) ∣ significand * Nat.pow 2 shift := by
  unfold spacing
  simp only [Nat.pow_eq] at bound ⊢
  rcases Nat.eq_zero_or_pos significand with rfl | positive
  · simp
  · have product : significand * 2 ^ shift ≠ 0 :=
      Nat.ne_of_gt (Nat.mul_pos positive (Nat.two_pow_pos _))
    rcases Nat.lt_or_eq_of_le bound with below | equal
    · have small : (significand * 2 ^ shift).log2 < 53 + shift := by
        rw [Nat.log2_lt product, Nat.pow_add]
        exact Nat.mul_lt_mul_of_pos_right below (Nat.two_pow_pos _)
      exact Nat.dvd_mul_left_of_dvd (Nat.pow_dvd_pow 2 (by omega)) _
    · have small : (significand * 2 ^ shift).log2 < 54 + shift := by
        rw [Nat.log2_lt product, equal, ← Nat.pow_add]
        exact Nat.pow_lt_pow_right (by decide) (by omega)
      rw [equal, ← Nat.pow_add] at small ⊢
      exact Nat.pow_dvd_pow 2 (by omega)

theorem roundQuotient_spacing_le (num den : Nat) :
    roundQuotient num (den * spacing (num / den)) ≤ Nat.pow 2 53 := by
  refine Nat.le_trans (roundQuotient_le _ _) ?_
  rw [← Nat.div_div_eq_div_mul]
  exact (Nat.div_lt_iff_lt_mul (spacing_pos _)).2 (by
    rw [Nat.mul_comm]
    exact lt_spacing_mul _)

theorem representable_roundUnits {num den : Nat} (finite : roundUnits num den < ceiling) :
    Representable (roundUnits num den) :=
  ⟨finite, spacing_dvd_of_le _ (roundQuotient_spacing_le num den)⟩

end SampledMetrics.Binary64
