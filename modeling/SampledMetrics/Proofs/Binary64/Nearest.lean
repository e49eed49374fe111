import Mathlib.Tactic.Linarith
import Mathlib.Tactic.Ring
import SampledMetrics.Proofs.Binary64.Arithmetic
/-!
Rounding is to nearest.  Main statements: no point of the grid is nearer to a quotient than the one to which
it is rounded; when another is as near, the significand of the chosen one is even; and rounding moves a
whole number of units by at most its 2^53rd part, while two points of the grid are at least so far apart.
-/

set_option autoImplicit false
set_option relaxedAutoImplicit false

namespace SampledMetrics.Binary64

section Quotient

variable {num den : Nat}

private theorem two_mul_roundQuotient_le (positive : 0 < den) :
    2 * (roundQuotient num den * den) ≤ 2 * num + den := by
  have split := Nat.div_add_mod' num den
  have proper := Nat.mod_lt num positive
  have next : (num / den + 1) * den = num / den * den + den := Nat.succ_mul _ _
  unfold roundQuotient
  dsimp only
  split <;> omega

private theorem two_mul_le_roundQuotient (positive : 0 < den) :
    2 * num ≤ 2 * (roundQuotient num den * den) + den := by
  have split := Nat.div_add_mod' num den
  have proper := Nat.mod_lt num positive
  have next : (num / den + 1) * den = num / den * den + den := Nat.succ_mul _ _
  unfold roundQuotient
  dsimp only
  split <;> omega

private theorem even_roundQuotient (positive : 0 < den)
    (tie : 2 * (roundQuotient num den * den) = 2 * num + den ∨
      2 * num = 2 * (roundQuotient num den * den) + den) : roundQuotient num den % 2 = 0 := by
  have split := Nat.div_add_mod' num den
  have proper := Nat.mod_lt num positive
  have next : (num / den + 1) * den = num / den * den + den := Nat.succ_mul _ _
  unfold roundQuotient at tie ⊢
  dsimp only at tie ⊢
  split at tie <;> rename_i rule
  · rw [if_pos rule]
    omega
  · rw [if_neg rule]
    omega

private theorem roundUnits_mul_den (num den : Nat) :
    roundUnits num den * den =
      roundQuotient num (den * spacing (num / den)) * (den * spacing (num / den)) := by
  unfold roundUnits
  dsimp only
  rw [Nat.mul_assoc, Nat.mul_comm den]

theorem two_mul_roundUnits_le (num : Nat) (positive : 0 < den) :
    2 * (roundUnits num den * den) ≤ 2 * num + den * spacing (num / den) := by
  rw [roundUnits_mul_den]
  exact two_mul_roundQuotient_le (Nat.mul_pos positive (spacing_pos _))

theorem two_mul_le_roundUnits (num : Nat) (positive : 0 < den) :
    2 * num ≤ 2 * (roundUnits num den * den) + den * spacing (num / den) := by
  rw [roundUnits_mul_den]
  exact two_mul_le_roundQuotient (Nat.mul_pos positive (spacing_pos _))

theorem spacing_dvd_rounded (num den : Nat) : spacing (num / den) ∣ roundUnits num den :=
  Nat.dvd_mul_left _ _

theorem two_mul_spacing_dvd_roundUnits (num : Nat) (positive : 0 < den)
    (tie : 2 * (roundUnits num den * den) = 2 * num + den * spacing (num / den) ∨
      2 * num = 2 * (roundUnits num den * den) + den * spacing (num / den)) :
    2 * spacing (num / den) ∣ roundUnits num den := by
  rw [roundUnits_mul_den] at tie
  have even := even_roundQuotient (Nat.mul_pos positive (spacing_pos _)) tie
  exact Nat.mul_dvd_mul (Nat.dvd_of_mod_eq_zero even) (Nat.dvd_refl _)

end Quotient

theorem add_le_of_dvd_of_lt {step low high : Nat} (low_multiple : step ∣ low) (high_multiple : step ∣ high)
    (lt : low < high) : low + step ≤ high := by
  have gap := Nat.le_of_dvd (Nat.sub_pos_of_lt lt) (Nat.dvd_sub high_multiple low_multiple)
  omega

/-- A point of the grid to which none is preferred: each other one is on the far side of the middle, and on
the middle only if the significand of this one is even. -/
structure IsNearest (point num den : Nat) : Prop where
  grid : spacing point ∣ point
  below : ∀ other, spacing other ∣ other → other < point → (point + other) * den ≤ 2 * num
  above : ∀ other, spacing other ∣ other → point < other → 2 * num ≤ (point + other) * den
  even : ∀ other, spacing other ∣ other → other ≠ point → (point + other) * den = 2 * num →
    2 * spacing point ∣ point

section Nearest

variable {num den other : Nat}

private theorem step_below (positive : 0 < den) (grid : spacing other ∣ other)
    (lt : other < roundUnits num den) :
    other + spacing (num / den) ≤ roundUnits num den ∨
      ∃ middle, other < middle ∧ middle * den ≤ num ∧
        (middle = roundUnits num den ∨ middle + spacing (num / den) ≤ roundUnits num den) := by
  have step := spacing_dvd_rounded num den
  by_cases multiple : spacing (num / den) ∣ other
  · exact Or.inl (add_le_of_dvd_of_lt multiple step lt)
  · have smaller : other ≤ num / den := by
      refine Nat.le_of_not_lt fun larger => multiple ?_
      exact Nat.dvd_trans (spacing_dvd_spacing (Nat.le_of_lt larger)) grid
    have finer : spacing other ≠ spacing (num / den) := fun same => multiple (same ▸ grid)
    have large : den ≤ num := by
      refine Nat.le_of_not_lt fun small => finer ?_
      have none := Nat.div_eq_of_lt small
      rw [none] at smaller ⊢
      rw [Nat.le_zero.mp smaller]
    have quotient : num / den ≠ 0 := Nat.ne_of_gt (Nat.div_pos large positive)
    have power := pow_le_roundUnits positive large
    refine Or.inr ⟨Nat.pow 2 (num / den).log2, lt_pow_log2 smaller finer, ?_, ?_⟩
    · rw [Nat.pow_eq]
      exact (Nat.le_div_iff_mul_le positive).mp (Nat.log2_self_le quotient)
    · rcases Nat.lt_or_eq_of_le power with below | same
      · exact Or.inr (add_le_of_dvd_of_lt (spacing_dvd_pow (by omega)) step below)
      · exact Or.inl same

private theorem step_above (positive : 0 < den) (grid : spacing other ∣ other)
    (lt : roundUnits num den < other) : roundUnits num den + spacing (num / den) ≤ other := by
  have multiple : spacing (num / den) ∣ other := by
    rcases Nat.lt_or_ge other (num / den) with smaller | larger
    · have below := (Nat.le_div_iff_mul_le positive).mp (Nat.le_of_lt smaller)
      have passed := le_roundUnits positive grid below
      omega
    · exact Nat.dvd_trans (spacing_dvd_spacing larger) grid
  exact add_le_of_dvd_of_lt (spacing_dvd_rounded num den) multiple lt

private theorem even_of_even_step (steps : 2 * spacing (num / den) ∣ roundUnits num den) :
    2 * spacing (roundUnits num den) ∣ roundUnits num den := by
  have bound := roundQuotient_spacing_le num den
  obtain ⟨exponent, step⟩ : ∃ exponent, spacing (num / den) = Nat.pow 2 exponent := ⟨_, rfl⟩
  have rounded : roundUnits num den =
      roundQuotient num (den * spacing (num / den)) * Nat.pow 2 exponent := by
    rw [← step]
    rfl
  rcases Nat.lt_or_eq_of_le bound with narrow | full
  · refine Nat.dvd_trans (Nat.mul_dvd_mul_left 2 ?_) steps
    rw [step]
    refine spacing_dvd_pow ?_
    rcases Nat.eq_zero_or_pos (roundUnits num den) with none | some
    · rw [none]
      exact Nat.zero_le _
    · have bits : (roundUnits num den).log2 < 53 + exponent := by
        rw [Nat.log2_lt (Nat.ne_of_gt some), rounded, Nat.pow_add]
        exact Nat.mul_lt_mul_of_pos_right narrow (Nat.two_pow_pos _)
      omega
  · rw [rounded, full]
    have power : Nat.pow 2 53 * Nat.pow 2 exponent = 2 ^ (53 + exponent) := (Nat.pow_add ..).symm
    rw [power]
    unfold spacing
    rw [Nat.log2_two_pow, Nat.pow_eq, ← Nat.pow_succ']
    exact Nat.pow_dvd_pow 2 (by omega)

theorem isNearest_roundUnits (num : Nat) {den : Nat} (positive : 0 < den) :
    IsNearest (roundUnits num den) num den where
  grid := spacing_dvd_roundUnits num den
  below := by
    intro other grid lt
    have half := two_mul_roundUnits_le num positive
    rcases step_below positive grid lt with step | ⟨middle, after, reached, same | step⟩
    · nlinarith
    · rw [← same, Nat.add_mul]
      have product := Nat.mul_le_mul_right den (Nat.le_of_lt after)
      omega
    · nlinarith
  above := by
    intro other grid lt
    have half := two_mul_le_roundUnits num positive
    have step := step_above positive grid lt
    nlinarith
  even := by
    intro other grid different tie
    refine even_of_even_step (two_mul_spacing_dvd_roundUnits num positive ?_)
    rcases Nat.lt_or_gt_of_ne different with lt | gt
    · left
      have half := two_mul_roundUnits_le num positive
      rcases step_below positive grid lt with step | ⟨middle, after, reached, same | step⟩
      · nlinarith
      · exfalso
        nlinarith
      · exfalso
        nlinarith
    · right
      have half := two_mul_le_roundUnits num positive
      have step := step_above positive grid gt
      nlinarith

end Nearest

section Relative

variable {units low high : Nat}

private theorem spacing_mul_le (moved : ¬ spacing units ∣ units) : spacing units * Nat.pow 2 52 ≤ units := by
  have large : Nat.pow 2 52 ≤ units := by
    refine Nat.le_of_not_lt fun small => moved ?_
    have narrow : units ≤ Nat.pow 2 53 := by
      have double : Nat.pow 2 52 ≤ Nat.pow 2 53 := by decide
      omega
    have grid := spacing_dvd_of_le 0 narrow
    simpa using grid
  have nonzero : units ≠ 0 := Nat.ne_of_gt (Nat.lt_of_lt_of_le (by decide) large)
  have bits : 52 ≤ units.log2 := (Nat.le_log2 nonzero).mpr large
  calc spacing units * Nat.pow 2 52 = 2 ^ (units.log2 - 52 + 52) := (Nat.pow_add 2 _ 52).symm
    _ = 2 ^ units.log2 := by rw [Nat.sub_add_cancel bits]
    _ ≤ units := Nat.log2_self_le nonzero

theorem roundUnits_le_relative (units : Nat) :
    Nat.pow 2 53 * roundUnits units 1 ≤ (Nat.pow 2 53 + 1) * units := by
  by_cases grid : spacing units ∣ units
  · rw [roundUnits_one grid]
    exact Nat.mul_le_mul_right _ (Nat.le_succ _)
  · have half := two_mul_roundUnits_le units Nat.one_pos
    have step := spacing_mul_le grid
    have power : Nat.pow 2 53 = 2 * Nat.pow 2 52 := by decide
    rw [Nat.div_one, Nat.mul_one, Nat.one_mul] at half
    rw [power]
    nlinarith

theorem le_roundUnits_relative (units : Nat) :
    (Nat.pow 2 53 - 1) * units ≤ Nat.pow 2 53 * roundUnits units 1 := by
  by_cases grid : spacing units ∣ units
  · rw [roundUnits_one grid]
    exact Nat.mul_le_mul_right _ (Nat.sub_le _ _)
  · have half := two_mul_le_roundUnits units Nat.one_pos
    have step := spacing_mul_le grid
    have power : Nat.pow 2 53 = 2 * Nat.pow 2 52 := by decide
    rw [Nat.div_one, Nat.mul_one, Nat.one_mul] at half
    rw [Nat.sub_mul, Nat.one_mul, power]
    have scaled : 2 * Nat.pow 2 52 * units ≤ 2 * Nat.pow 2 52 * roundUnits units 1 + units := by nlinarith
    omega

theorem add_spacing_le (low_grid : spacing low ∣ low) (high_grid : spacing high ∣ high) (lt : low < high) :
    low + spacing low ≤ high :=
  add_le_of_dvd_of_lt low_grid (Nat.dvd_trans (spacing_dvd_spacing (Nat.le_of_lt lt)) high_grid) lt

theorem gap_of_lt (low_grid : spacing low ∣ low) (high_grid : spacing high ∣ high) (lt : low < high) :
    Nat.pow 2 53 * low ≤ (Nat.pow 2 53 - 1) * high := by
  have narrow := lt_spacing_mul low
  have bits := log2_le_log2 (Nat.le_of_lt lt)
  rw [Nat.sub_mul, Nat.one_mul]
  rcases Nat.lt_or_eq_of_le bits with fewer | same
  · have next : low + spacing low ≤ 2 ^ (low.log2 + 1) := by
      have below : low < 2 ^ (low.log2 + 1) := Nat.lt_log2_self
      exact add_le_of_dvd_of_lt low_grid (spacing_dvd_pow (by omega)) below
    have full : 2 ^ (low.log2 + 1) ≤ spacing low * Nat.pow 2 53 := by
      unfold spacing
      rw [Nat.pow_eq, Nat.pow_eq, ← Nat.pow_add]
      exact Nat.pow_le_pow_right (by decide) (by omega)
    have reached : 2 ^ (low.log2 + 1) ≤ high :=
      Nat.le_trans (Nat.pow_le_pow_right (by decide) fewer) (Nat.log2_self_le (by omega))
    have scaled := Nat.mul_le_mul_left (Nat.pow 2 53) next
    have scaled' := Nat.mul_le_mul_left (Nat.pow 2 53 - 1) reached
    rw [Nat.sub_mul, Nat.sub_mul, Nat.one_mul, Nat.one_mul] at scaled'
    rw [Nat.mul_add, Nat.mul_comm _ (spacing low)] at scaled
    omega
  · have step : spacing low = spacing high := by
      unfold spacing
      rw [same]
    have gap := add_spacing_le low_grid high_grid lt
    have wide := lt_spacing_mul high
    have scaled := Nat.mul_le_mul_left (Nat.pow 2 53) gap
    rw [step, Nat.mul_add, Nat.mul_comm _ (spacing high)] at scaled
    omega

end Relative

section Signed

variable {num point : Int} {den : Nat}

theorem roundSigned_neg (num : Int) (den : Nat) : roundSigned (-num) den = -roundSigned num den := by
  unfold roundSigned
  rw [Int.natAbs_neg]
  rcases Int.lt_trichotomy num 0 with below | rfl | above
  · rw [if_neg (by omega), if_pos below, Int.neg_neg]
  · rw [Int.neg_zero, if_neg (by omega), Int.natAbs_zero, roundUnits_zero]
    rfl
  · rw [if_pos (by omega), if_neg (by omega)]

theorem roundSigned_mul_mul (num : Int) (den : Nat) {scale : Nat} (positive : 0 < scale) :
    roundSigned (num * scale) (den * scale) = roundSigned num den := by
  have size : (num * scale).natAbs = num.natAbs * scale := by rw [Int.natAbs_mul, Int.natAbs_natCast]
  have sign : num * scale < 0 ↔ num < 0 := by
    have product := Int.mul_lt_mul_right (b := num) (c := 0) (Int.natCast_pos.mpr positive)
    rwa [Int.zero_mul] at product
  unfold roundSigned
  rw [size, roundUnits_mul_mul num.natAbs den positive]
  by_cases below : num < 0
  · rw [if_pos below, if_pos (sign.mpr below)]
  · rw [if_neg below, if_neg fun lt => below (sign.mp lt)]

theorem natAbs_roundSigned (num : Int) (den : Nat) :
    (roundSigned num den).natAbs = roundUnits num.natAbs den := by
  unfold roundSigned
  split
  · rw [Int.natAbs_neg, Int.natAbs_natCast]
  · rw [Int.natAbs_natCast]

theorem roundSigned_mul (positive : 0 < den) (grid : spacing point.natAbs ∣ point.natAbs) :
    roundSigned (point * den) den = point := by
  have rounded := roundUnits_mul positive grid
  have size : (point * den).natAbs = point.natAbs * den := by
    rw [Int.natAbs_mul, Int.natAbs_natCast]
  unfold roundSigned
  rw [size, rounded]
  split
  · rename_i below
    have sign : point < 0 := Int.neg_of_mul_neg_left below (Int.natCast_pos.mpr positive)
    omega
  · rename_i above
    have sign : 0 ≤ point := by
      refine Int.le_of_not_gt fun negative => above ?_
      exact Int.mul_neg_of_neg_of_pos negative (Int.natCast_pos.mpr positive)
    omega

/-- A quotient that does not pass a point of the grid does not pass it when it is rounded. -/
theorem roundSigned_le (positive : 0 < den) (grid : spacing point.natAbs ∣ point.natAbs)
    (le : num ≤ point * den) : roundSigned num den ≤ point := by
  have mono := roundSigned_mono positive le
  rwa [roundSigned_mul positive grid] at mono

theorem natAbs_roundSigned_sub_le (num : Int) (grid : spacing point.natAbs ∣ point.natAbs) :
    (roundSigned num 1 - num).natAbs ≤ (point - num).natAbs := by
  have nearest := isNearest_roundUnits num.natAbs Nat.one_pos
  have zero := nearest.below 0 (Nat.dvd_zero _)
  have below := nearest.below point.natAbs grid
  have above := nearest.above point.natAbs grid
  unfold roundSigned
  split <;> omega

end Signed

end SampledMetrics.Binary64
