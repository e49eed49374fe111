import SampledMetrics.Binary64.Rounding
/-!
Rounding to the grid is monotone and leaves the grid as it is.  So a quotient that does not pass a
point of the grid does not pass it when it is rounded either, however the quotient was come by.
-/

set_option autoImplicit false
set_option relaxedAutoImplicit false

namespace SampledMetrics.Binary64

private theorem roundQuotient_mono {num num' : Nat} (den : Nat) (le : num ≤ num') :
    roundQuotient num den ≤ roundQuotient num' den := by
  rcases Nat.lt_or_eq_of_le (Nat.div_le_div_right (c := den) le) with below | same
  · have upper := roundQuotient_le num den
    have lower := le_roundQuotient num' den
    omega
  · have split := Nat.div_add_mod num den
    have split' := Nat.div_add_mod num' den
    rw [same] at split
    have remainders : num % den ≤ num' % den := by omega
    unfold roundQuotient
    rw [same]
    dsimp only
    split <;> split <;> omega

private theorem roundQuotient_mul (whole : Nat) {den : Nat} (positive : 0 < den) :
    roundQuotient (whole * den) den = whole := by
  unfold roundQuotient
  rw [Nat.mul_div_cancel _ positive, Nat.mul_mod_left]
  dsimp only
  rw [if_neg (by omega)]

private theorem roundQuotient_le_of_le {num den whole : Nat} (positive : 0 < den)
    (le : num ≤ whole * den) : roundQuotient num den ≤ whole := by
  have mono := roundQuotient_mono den le
  rwa [roundQuotient_mul whole positive] at mono

private theorem le_roundQuotient_of_le {num den whole : Nat} (positive : 0 < den)
    (le : whole * den ≤ num) : whole ≤ roundQuotient num den := by
  have mono := roundQuotient_mono den le
  rwa [roundQuotient_mul whole positive] at mono

theorem log2_le_log2 {a b : Nat} (le : a ≤ b) : a.log2 ≤ b.log2 := by
  rcases Nat.eq_zero_or_pos a with rfl | positive
  · simp
  · exact (Nat.le_log2 (by omega)).mpr (Nat.le_trans (Nat.log2_self_le (by omega)) le)

theorem spacing_dvd_spacing {a b : Nat} (le : a ≤ b) : spacing a ∣ spacing b := by
  have log2 := log2_le_log2 le
  unfold spacing
  rw [Nat.pow_eq, Nat.pow_eq]
  exact Nat.pow_dvd_pow 2 (by omega)

theorem spacing_dvd_pow {units exponent : Nat} (le : units.log2 ≤ exponent + 52) :
    spacing units ∣ Nat.pow 2 exponent := by
  unfold spacing
  rw [Nat.pow_eq, Nat.pow_eq]
  exact Nat.pow_dvd_pow 2 (by omega)

theorem pow_dvd_spacing {units exponent : Nat} (le : Nat.pow 2 (exponent + 52) ≤ units) :
    Nat.pow 2 exponent ∣ spacing units := by
  have positive := Nat.two_pow_pos (exponent + 52)
  rw [Nat.pow_eq] at le
  have log2 : exponent + 52 ≤ units.log2 := (Nat.le_log2 (by omega)).mpr le
  unfold spacing
  rw [Nat.pow_eq, Nat.pow_eq]
  exact Nat.pow_dvd_pow 2 (by omega)

private theorem spacing_pow_dvd (exponent : Nat) : spacing (Nat.pow 2 exponent) ∣ Nat.pow 2 exponent := by
  have grid := @spacing_dvd_of_le 1 exponent (by decide)
  simpa using grid

/-- What is finer than its own spacing is below the next power of two, which is on every coarser
spacing. -/
theorem lt_pow_log2 {a b : Nat} (le : a ≤ b) (finer : spacing a ≠ spacing b) :
    a < Nat.pow 2 b.log2 := by
  have log2 := log2_le_log2 le
  have strict : a.log2 < b.log2 := by
    refine Nat.lt_of_le_of_ne log2 ?_
    intro same
    exact finer (by unfold spacing; rw [same])
  have below : a < 2 ^ (a.log2 + 1) := Nat.lt_log2_self
  rw [Nat.pow_eq]
  exact Nat.lt_of_lt_of_le below (Nat.pow_le_pow_right (by decide) strict)

theorem spacing_dvd_roundUnits (num den : Nat) :
    spacing (roundUnits num den) ∣ roundUnits num den :=
  spacing_dvd_of_le _ (roundQuotient_spacing_le num den)

private theorem roundUnits_le_of_spacing {num den point : Nat} (positive : 0 < den)
    (grid : spacing (num / den) ∣ point) (le : num ≤ point * den) : roundUnits num den ≤ point := by
  obtain ⟨count, rfl⟩ := grid
  unfold roundUnits
  dsimp only
  have step := Nat.mul_pos positive (spacing_pos (num / den))
  have count_le : roundQuotient num (den * spacing (num / den)) ≤ count :=
    roundQuotient_le_of_le step (by
      calc num ≤ spacing (num / den) * count * den := le
        _ = count * (den * spacing (num / den)) := by ac_rfl)
  rw [Nat.mul_comm (spacing (num / den)) count]
  exact Nat.mul_le_mul_right _ count_le

private theorem le_roundUnits_of_spacing {num den point : Nat} (positive : 0 < den)
    (grid : spacing (num / den) ∣ point) (le : point * den ≤ num) : point ≤ roundUnits num den := by
  obtain ⟨count, rfl⟩ := grid
  unfold roundUnits
  dsimp only
  have step := Nat.mul_pos positive (spacing_pos (num / den))
  have le_count : count ≤ roundQuotient num (den * spacing (num / den)) :=
    le_roundQuotient_of_le step (by
      calc count * (den * spacing (num / den)) = spacing (num / den) * count * den := by ac_rfl
        _ ≤ num := le)
  rw [Nat.mul_comm (spacing (num / den)) count]
  exact Nat.mul_le_mul_right _ le_count

theorem roundUnits_le {num den point : Nat} (positive : 0 < den) (grid : spacing point ∣ point)
    (le : num ≤ point * den) : roundUnits num den ≤ point := by
  have quotient_le : num / den ≤ point := Nat.div_le_of_le_mul (by rwa [Nat.mul_comm])
  exact roundUnits_le_of_spacing positive
    (Nat.dvd_trans (spacing_dvd_spacing quotient_le) grid) le

theorem pow_le_roundUnits {num den : Nat} (positive : 0 < den) (large : den ≤ num) :
    Nat.pow 2 (num / den).log2 ≤ roundUnits num den := by
  have quotient : num / den ≠ 0 := Nat.ne_of_gt (Nat.div_pos large positive)
  refine le_roundUnits_of_spacing positive (spacing_dvd_pow (by omega)) ?_
  rw [Nat.pow_eq]
  exact (Nat.le_div_iff_mul_le positive).mp (Nat.log2_self_le quotient)

theorem le_roundUnits {num den point : Nat} (positive : 0 < den) (grid : spacing point ∣ point)
    (le : point * den ≤ num) : point ≤ roundUnits num den := by
  have le_quotient : point ≤ num / den := (Nat.le_div_iff_mul_le positive).mpr le
  by_cases same : spacing point = spacing (num / den)
  · exact le_roundUnits_of_spacing positive (same ▸ grid) le
  · have large : den ≤ num := by
      refine Nat.le_of_not_lt fun small => same ?_
      have quotient : num / den = 0 := Nat.div_eq_of_lt small
      rw [quotient] at le_quotient ⊢
      rw [Nat.le_zero.mp le_quotient]
    exact Nat.le_trans (Nat.le_of_lt (lt_pow_log2 le_quotient same))
      (pow_le_roundUnits positive large)

theorem roundUnits_mul {point den : Nat} (positive : 0 < den) (grid : spacing point ∣ point) :
    roundUnits (point * den) den = point :=
  Nat.le_antisymm (roundUnits_le positive grid (Nat.le_refl _))
    (le_roundUnits positive grid (Nat.le_refl _))

theorem roundUnits_one {point : Nat} (grid : spacing point ∣ point) : roundUnits point 1 = point := by
  have rounded := roundUnits_mul Nat.one_pos grid
  rwa [Nat.mul_one] at rounded

theorem roundUnits_mono {num num' den : Nat} (positive : 0 < den) (le : num ≤ num') :
    roundUnits num den ≤ roundUnits num' den := by
  have quotients : num / den ≤ num' / den := Nat.div_le_div_right le
  by_cases same : spacing (num / den) = spacing (num' / den)
  · unfold roundUnits
    rw [same]
    exact Nat.mul_le_mul_right _ (roundQuotient_mono _ le)
  · have large : den ≤ num' := by
      refine Nat.le_of_not_lt fun small => same ?_
      rw [Nat.div_eq_of_lt small, Nat.div_eq_of_lt (Nat.lt_of_le_of_lt le small)]
    have below := (Nat.div_lt_iff_lt_mul positive).mp (lt_pow_log2 quotients same)
    have lower : roundUnits num den ≤ Nat.pow 2 (num' / den).log2 :=
      roundUnits_le positive (spacing_pow_dvd _) (Nat.le_of_lt below)
    exact Nat.le_trans lower (pow_le_roundUnits positive large)

private theorem roundQuotient_mul_mul (num den : Nat) {scale : Nat} (positive : 0 < scale) :
    roundQuotient (num * scale) (den * scale) = roundQuotient num den := by
  unfold roundQuotient
  rw [Nat.mul_div_mul_right num den positive, Nat.mul_mod_mul_right]
  dsimp only
  have double : 2 * (num % den * scale) = 2 * (num % den) * scale := (Nat.mul_assoc ..).symm
  simp only [double, Nat.mul_lt_mul_right positive, Nat.mul_left_inj (Nat.ne_of_gt positive)]

theorem roundUnits_mul_mul (num den : Nat) {scale : Nat} (positive : 0 < scale) :
    roundUnits (num * scale) (den * scale) = roundUnits num den := by
  unfold roundUnits
  rw [Nat.mul_div_mul_right num den positive]
  dsimp only
  rw [Nat.mul_right_comm den scale, roundQuotient_mul_mul num _ positive]

theorem roundUnits_eq_of_cross {num den num' den' : Nat} (positive : 0 < den) (positive' : 0 < den')
    (cross : num * den' = num' * den) : roundUnits num den = roundUnits num' den' := by
  rw [← roundUnits_mul_mul num den positive', cross, Nat.mul_comm den den',
    roundUnits_mul_mul num' den' positive]

theorem roundUnits_eq_zero {num den : Nat} (small : 2 * num < den) : roundUnits num den = 0 := by
  have below : num / den = 0 := Nat.div_eq_of_lt (by omega)
  have step : spacing 0 = 1 := rfl
  unfold roundUnits roundQuotient
  simp only [below, step, Nat.mul_one, Nat.mod_eq_of_lt (by omega : num < den)]
  rw [if_neg (by omega)]

end SampledMetrics.Binary64
