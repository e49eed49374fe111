import SampledMetrics.Proofs.Binary64.Arithmetic
/-!
Interpolation in units.  A fraction of a distance, both rounded, is added to the lower end and rounded
once more.  In general that can pass the upper end, when the distance was rounded up and the fraction
is next to one.  A fraction left over by a position from one on stays a whole step of the grid at one
below one, which is enough: main statements, the point lies between the ends and grows with the
position, also from one pair of neighbours to the next.
-/

set_option autoImplicit false
set_option relaxedAutoImplicit false

namespace SampledMetrics.Binary64

/-- The distance from one to the next number on the grid. -/
def stepAtOne : Nat :=
  Nat.pow 2 1022

theorem unitsPerOne_eq : unitsPerOne = leadingBit * stepAtOne := by
  unfold unitsPerOne leadingBit stepAtOne
  have exponents : 1074 = 52 + 1022 := by decide
  rw [exponents]
  generalize 1022 = shift
  exact Nat.pow_add 2 52 shift

def partOf (fraction distance : Nat) : Nat :=
  roundUnits (fraction * roundUnits distance 1) unitsPerOne

/-- The point at a fraction of the way between two places. -/
def between (low high : Int) (fraction : Nat) : Int :=
  roundSigned (low + partOf fraction (high - low).toNat) 1

theorem partOf_le_rounded {fraction : Nat} (proper : fraction ≤ unitsPerOne) (distance : Nat) :
    partOf fraction distance ≤ roundUnits distance 1 := by
  refine roundUnits_le unitsPerOne_pos (spacing_dvd_roundUnits _ _) ?_
  rw [Nat.mul_comm]
  exact Nat.mul_le_mul_left _ proper

private theorem spacing_dvd_of_lt {units : Nat} (small : units < leadingBit) : spacing units ∣ units := by
  have double : leadingBit ≤ Nat.pow 2 53 := by decide
  have grid := @spacing_dvd_of_le units 0 (by omega)
  simpa using grid

private theorem leadingBit_le_div_spacing {units : Nat} (large : leadingBit ≤ units) :
    leadingBit ≤ units / spacing units := by
  have bits : 52 ≤ units.log2 := (Nat.le_log2 (Nat.ne_of_gt (Nat.lt_of_lt_of_le (by decide) large))).mpr large
  refine (Nat.le_div_iff_mul_le (spacing_pos units)).mpr ?_
  calc leadingBit * spacing units
      = 2 ^ (52 + (units.log2 - 52)) := (Nat.pow_add 2 52 (units.log2 - 52)).symm
    _ = 2 ^ units.log2 := by rw [Nat.add_sub_cancel' bits]
    _ ≤ units := Nat.log2_self_le (Nat.ne_of_gt (Nat.lt_of_lt_of_le (by decide) large))

private theorem rounded_up {distance : Nat} (up : distance < roundUnits distance 1) :
    leadingBit ≤ distance / spacing distance ∧
      roundUnits distance 1 = (distance / spacing distance + 1) * spacing distance := by
  have below := Nat.div_mul_le_self distance (spacing distance)
  have rounded : roundUnits distance 1 = roundQuotient distance (spacing distance) * spacing distance := by
    unfold roundUnits
    simp only [Nat.div_one, Nat.one_mul]
  have step : roundQuotient distance (spacing distance) = distance / spacing distance + 1 := by
    refine Nat.le_antisymm (roundQuotient_le _ _) (Nat.lt_of_not_ge fun same => ?_)
    have scaled := Nat.mul_le_mul_right (spacing distance) same
    omega
  refine ⟨leadingBit_le_div_spacing (Nat.le_of_not_lt fun small => ?_), by rw [rounded, step]⟩
  rw [roundUnits_one (spacing_dvd_of_lt small)] at up
  exact Nat.lt_irrefl _ up

private theorem partOf_le {fraction : Nat} (short : fraction + stepAtOne ≤ unitsPerOne) (distance : Nat) :
    partOf fraction distance ≤ distance := by
  rcases Nat.lt_or_ge distance (roundUnits distance 1) with up | down
  · obtain ⟨full, rounded⟩ := rounded_up up
    have below := Nat.div_mul_le_self distance (spacing distance)
    have narrow : distance / spacing distance < Nat.pow 2 53 :=
      (Nat.div_lt_iff_lt_mul (spacing_pos distance)).mpr (by
        rw [Nat.mul_comm]
        exact lt_spacing_mul distance)
    have grid := spacing_dvd_of_le (distance.log2 - 52) (Nat.le_of_lt narrow)
    have product : fraction * (distance / spacing distance + 1)
        ≤ distance / spacing distance * unitsPerOne := by
      have one : unitsPerOne ≤ (distance / spacing distance + 1) * stepAtOne := by
        rw [unitsPerOne_eq]
        exact Nat.mul_le_mul_right _ (by omega)
      have scaled := Nat.mul_le_mul_right (distance / spacing distance + 1) short
      rw [Nat.add_mul, Nat.mul_comm stepAtOne, Nat.mul_succ unitsPerOne] at scaled
      rw [Nat.mul_comm _ unitsPerOne]
      omega
    refine Nat.le_trans (roundUnits_le unitsPerOne_pos grid ?_) below
    calc fraction * roundUnits distance 1
        = fraction * (distance / spacing distance + 1) * spacing distance := by
          rw [rounded, Nat.mul_assoc]
      _ ≤ distance / spacing distance * unitsPerOne * spacing distance :=
          Nat.mul_le_mul_right _ product
      _ = distance / spacing distance * spacing distance * unitsPerOne := Nat.mul_right_comm _ _ _
  · exact Nat.le_trans (partOf_le_rounded (by omega) distance) down

private theorem partOf_mono {fraction fraction' : Nat} (le : fraction ≤ fraction') (distance : Nat) :
    partOf fraction distance ≤ partOf fraction' distance :=
  roundUnits_mono unitsPerOne_pos (Nat.mul_le_mul_right _ le)

/-- A position on the grid, in units, at which integers are still exact. -/
structure IsPosition (position : Nat) : Prop where
  grid : spacing position ∣ position
  small : position < Nat.pow 2 53 * unitsPerOne

theorem IsPosition.spacing_dvd_unitsPerOne {position : Nat} (p : IsPosition position) :
    spacing position ∣ unitsPerOne := by
  have small := p.small
  unfold unitsPerOne at small ⊢
  generalize 1074 = shift at small ⊢
  refine spacing_dvd_pow ?_
  rcases Nat.eq_zero_or_pos position with rfl | positive
  · simp
  · have bits : position.log2 < 53 + shift := (Nat.log2_lt (by omega)).mpr (by
      rw [Nat.pow_add]
      exact small)
    omega

private theorem stepAtOne_dvd_spacing {units : Nat} (one : unitsPerOne ≤ units) :
    stepAtOne ∣ spacing units := by
  rw [unitsPerOne_eq] at one
  unfold leadingBit stepAtOne at one
  unfold stepAtOne
  generalize 1022 = shift at one ⊢
  refine pow_dvd_spacing ?_
  calc Nat.pow 2 (shift + 52) = Nat.pow 2 shift * Nat.pow 2 52 := Nat.pow_add 2 shift 52
    _ = Nat.pow 2 52 * Nat.pow 2 shift := Nat.mul_comm _ _
    _ ≤ units := one

/-- The fraction is on the grid. -/
theorem IsPosition.spacing_dvd_fraction {position : Nat} (p : IsPosition position) :
    spacing (position % unitsPerOne) ∣ position % unitsPerOne :=
  Nat.dvd_trans (spacing_dvd_spacing (Nat.mod_le _ _))
    ((Nat.dvd_mod_iff p.spacing_dvd_unitsPerOne).mpr p.grid)

theorem IsPosition.fraction_short {position : Nat} (p : IsPosition position)
    (one : unitsPerOne ≤ position) : position % unitsPerOne + stepAtOne ≤ unitsPerOne := by
  have step := stepAtOne_dvd_spacing one
  have fraction : stepAtOne ∣ position % unitsPerOne :=
    Nat.dvd_trans step ((Nat.dvd_mod_iff p.spacing_dvd_unitsPerOne).mpr p.grid)
  have rest : stepAtOne ∣ unitsPerOne - position % unitsPerOne :=
    Nat.dvd_sub (Nat.dvd_trans step p.spacing_dvd_unitsPerOne) fraction
  have proper := Nat.mod_lt position unitsPerOne_pos
  have positive := Nat.le_of_dvd (by omega) rest
  omega

section Between

variable {low high : Int} {fraction : Nat}

private theorem le_between (onGrid : OnGrid low) : low ≤ between low high fraction := by
  have mono := roundSigned_mono Nat.one_pos (Int.le_add_of_nonneg_right
    (Int.natCast_nonneg (partOf fraction (high - low).toNat)) : low ≤ _)
  rwa [roundSigned_one onGrid] at mono

theorem add_partOf_le (ordered : low ≤ high) (short : fraction + stepAtOne ≤ unitsPerOne) :
    low + partOf fraction (high - low).toNat ≤ high := by
  have part := partOf_le short (high - low).toNat
  omega

private theorem between_le (ordered : low ≤ high) (onGrid : OnGrid high)
    (short : fraction + stepAtOne ≤ unitsPerOne) : between low high fraction ≤ high := by
  have mono := roundSigned_mono Nat.one_pos (add_partOf_le ordered short)
  rwa [roundSigned_one onGrid] at mono

private theorem between_mono {fraction' : Nat} (le : fraction ≤ fraction') :
    between low high fraction ≤ between low high fraction' := by
  refine roundSigned_mono Nat.one_pos ?_
  have part := partOf_mono le (high - low).toNat
  omega

end Between

/-- Places in ascending order, all of them on the grid. -/
structure Ladder (rung : Nat → Int) (count : Nat) : Prop where
  positive : 0 < count
  ascending : ∀ i j, i ≤ j → j < count → rung i ≤ rung j
  onGrid : ∀ i, i < count → OnGrid (rung i)

/-- The place at a position: the first rung before one, the last one from the last on, and otherwise
a point between two rungs. -/
def pointAt (rung : Nat → Int) (count position : Nat) : Int :=
  if position / unitsPerOne < 1 then rung 0
  else if count ≤ position / unitsPerOne then rung (count - 1)
  else between (rung (position / unitsPerOne - 1)) (rung (position / unitsPerOne))
    (position % unitsPerOne)

section PointAt

variable {rung : Nat → Int} {count position : Nat}

theorem unitsPerOne_le_of_index (index : ¬ position / unitsPerOne < 1) : unitsPerOne ≤ position := by
  refine Nat.le_of_not_lt fun small => index ?_
  rw [Nat.div_eq_of_lt small]
  exact Nat.one_pos

private theorem Ladder.le_pointAt (ladder : Ladder rung count) :
    rung (min (position / unitsPerOne) count - 1) ≤ pointAt rung count position := by
  have positive := ladder.positive
  unfold pointAt
  split
  · exact ladder.ascending _ _ (by omega) (by omega)
  · split
    · exact ladder.ascending _ _ (by omega) (by omega)
    · rw [Nat.min_eq_left (by omega)]
      exact le_between (ladder.onGrid _ (by omega))

private theorem Ladder.pointAt_le (ladder : Ladder rung count) (p : IsPosition position) :
    pointAt rung count position ≤ rung (min (position / unitsPerOne) (count - 1)) := by
  have positive := ladder.positive
  have bound : min (position / unitsPerOne) (count - 1) ≤ count - 1 := Nat.min_le_right _ _
  unfold pointAt
  split
  · exact ladder.ascending _ _ (Nat.zero_le _) (by omega)
  · rename_i index
    split
    · exact ladder.ascending _ _ (by omega) (by omega)
    · rw [Nat.min_eq_left (by omega)]
      exact between_le (ladder.ascending _ _ (by omega) (by omega)) (ladder.onGrid _ (by omega))
        (p.fraction_short (unitsPerOne_le_of_index index))

theorem Ladder.first_le_pointAt (ladder : Ladder rung count) (position : Nat) :
    rung 0 ≤ pointAt rung count position := by
  have positive := ladder.positive
  have bound : min (position / unitsPerOne) count - 1 < count := by omega
  exact Int.le_trans (ladder.ascending _ _ (Nat.zero_le _) bound) ladder.le_pointAt

theorem Ladder.pointAt_le_last (ladder : Ladder rung count) (p : IsPosition position) :
    pointAt rung count position ≤ rung (count - 1) := by
  have positive := ladder.positive
  have bound : min (position / unitsPerOne) (count - 1) ≤ count - 1 := Nat.min_le_right _ _
  exact Int.le_trans (ladder.pointAt_le p) (ladder.ascending _ _ bound (by omega))

theorem Ladder.pointAt_mono (ladder : Ladder rung count) {position' : Nat} (p : IsPosition position)
    (le : position ≤ position') : pointAt rung count position ≤ pointAt rung count position' := by
  have positive := ladder.positive
  rcases Nat.lt_or_eq_of_le (Nat.div_le_div_right (c := unitsPerOne) le) with later | same
  · have meet : rung (min (position / unitsPerOne) (count - 1))
        ≤ rung (min (position' / unitsPerOne) count - 1) :=
      ladder.ascending _ _ (by omega) (by omega)
    exact Int.le_trans (ladder.pointAt_le p) (Int.le_trans meet ladder.le_pointAt)
  · have split := Nat.div_add_mod position unitsPerOne
    have split' := Nat.div_add_mod position' unitsPerOne
    rw [same] at split
    have fractions : position % unitsPerOne ≤ position' % unitsPerOne := by omega
    unfold pointAt
    rw [same]
    split
    · exact Int.le_refl _
    · split
      · exact Int.le_refl _
      · exact between_mono fractions

end PointAt

end SampledMetrics.Binary64
