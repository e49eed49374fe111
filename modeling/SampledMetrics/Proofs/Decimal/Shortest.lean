import SampledMetrics.Decimal
import SampledMetrics.Proofs.Binary64.Range
/-!
The shortest decimal of a magnitude reads back.  A decimal may be written with more or fewer zeros at
its end without another value, and the cut far outside the range is never met by a decimal that rounds to
a finite magnitude.  Main statement: converted to binary64, the shortest decimal of a magnitude is
that magnitude.
-/

set_option autoImplicit false
set_option relaxedAutoImplicit false

namespace SampledMetrics.Decimal

open Binary64 (unitsPerOne roundUnits ceiling Representable)

private theorem denominator_pos (d : Decimal) : 0 < d.denominator := by
  unfold denominator
  exact Nat.pow_pos (by decide)

/-- Two decimals that stand for the same number. -/
def SameValue (d e : Decimal) : Prop :=
  d.numerator * e.denominator = e.numerator * d.denominator

namespace SameValue

theorem refl (d : Decimal) : SameValue d d := rfl

theorem symm {d e : Decimal} (same : SameValue d e) : SameValue e d := Eq.symm same

theorem trans {d e f : Decimal} (first : SameValue d e) (second : SameValue e f) : SameValue d f := by
  refine Nat.eq_of_mul_eq_mul_right e.denominator_pos ?_
  calc d.numerator * f.denominator * e.denominator
      = d.numerator * e.denominator * f.denominator := Nat.mul_right_comm ..
    _ = e.numerator * d.denominator * f.denominator := by rw [first]
    _ = e.numerator * f.denominator * d.denominator := Nat.mul_right_comm ..
    _ = f.numerator * e.denominator * d.denominator := by rw [second]
    _ = f.numerator * d.denominator * e.denominator := Nat.mul_right_comm ..

theorem shift (significand : Nat) (exponent : Int) :
    SameValue ⟨significand, exponent + 1⟩ ⟨significand * 10, exponent⟩ := by
  unfold SameValue numerator denominator
  rcases Int.lt_or_le exponent 0 with below | above
  · obtain ⟨places, rfl⟩ : ∃ places : Nat, exponent = -(places + 1 : Nat) :=
      ⟨(-exponent).toNat - 1, by omega⟩
    have whole : (-((places + 1 : Nat) : Int) + 1).toNat = 0 := by omega
    have whole' : (-((places + 1 : Nat) : Int)).toNat = 0 := by omega
    have fraction : (-(-((places + 1 : Nat) : Int) + 1)).toNat = places := by omega
    have fraction' : (-(-((places + 1 : Nat) : Int))).toNat = places + 1 := by omega
    simp only [whole, whole', fraction, fraction']
    rw [Nat.pow_eq, Nat.pow_eq, Nat.pow_eq, Nat.pow_zero, Nat.pow_succ, Nat.mul_one, Nat.mul_one]
    ac_rfl
  · obtain ⟨places, rfl⟩ := Int.eq_ofNat_of_zero_le above
    have whole : ((places : Int) + 1).toNat = places + 1 := by omega
    have fraction : (-((places : Int) + 1)).toNat = 0 := by omega
    have fraction' : (-(places : Int)).toNat = 0 := by omega
    simp only [whole, Int.toNat_natCast, fraction, fraction']
    rw [Nat.pow_eq, Nat.pow_eq, Nat.pow_eq, Nat.pow_succ, Nat.pow_zero]
    ac_rfl

theorem readsBack {d e : Decimal} (same : SameValue d e) (units : Nat) :
    d.readsBack units = e.readsBack units := by
  have cross : d.numerator * unitsPerOne * e.denominator = e.numerator * unitsPerOne * d.denominator := by
    rw [Nat.mul_right_comm, same, Nat.mul_right_comm]
  unfold Decimal.readsBack
  rw [Binary64.roundUnits_eq_of_cross d.denominator_pos e.denominator_pos cross]

end SameValue

private theorem sameValue_trim (fuel : Nat) (d : Decimal) : SameValue (trim fuel d) d := by
  induction fuel generalizing d with
  | zero => exact .refl d
  | succ fuel ih =>
    unfold trim
    split
    · rename_i trailing
      have whole : d.significand / 10 * 10 = d.significand :=
        Nat.div_mul_cancel (Nat.dvd_of_mod_eq_zero trailing.2)
      have shifted := SameValue.shift (d.significand / 10) d.exponent
      rw [whole] at shifted
      exact (ih _).trans shifted
    · exact .refl d

section ReadsBack

variable {units : Nat}

private theorem readsBack_exact (grid : Binary64.spacing units ∣ units) : (exact units).readsBack units := by
  have whole : Nat.pow 10 (-1074 : Int).toNat = 1 := rfl
  have fraction : (- -1074 : Int).toNat = 1074 := rfl
  have product : units * Nat.pow 5 1074 * unitsPerOne = units * Nat.pow 10 1074 := by
    unfold unitsPerOne
    generalize 1074 = places
    rw [Nat.mul_assoc, Nat.pow_eq, Nat.pow_eq, ← Nat.mul_pow]
    rfl
  unfold readsBack numerator denominator exact
  simp only [whole, fraction]
  rw [Nat.mul_one, product]
  generalize 1074 = places
  exact decide_eq_true (Binary64.roundUnits_mul (Nat.pow_pos (by decide)) grid)

/-- Whatever grid holds it, and whatever zeros it has lost, the shortest decimal reads back. -/
theorem readsBack_shortest (grid : Binary64.spacing units ∣ units) :
    (shortest units).readsBack units := by
  unfold shortest
  dsimp only
  rw [(sameValue_trim _ _).readsBack]
  cases found : (List.range 17).findSome? fun k =>
      onGrid units (magnitudePosition units - (k + 1 : Nat)) with
  | none => exact readsBack_exact grid
  | some d =>
    obtain ⟨k, -, hit⟩ := List.exists_of_findSome?_eq_some found
    exact readsBack_of_onGrid hit

variable {d : Decimal}

private theorem roundUnits_of_readsBack (back : d.readsBack units) :
    roundUnits (d.numerator * unitsPerOne) d.denominator = units :=
  of_decide_eq_true back

end ReadsBack

section PointPosition

variable {d : Decimal} {places : Nat}

private theorem lt_pow_length_digits (d : Decimal) : d.significand < Nat.pow 10 d.digits.length :=
  (Nat.length_toDigits_le_iff (by decide) Nat.length_toDigits_pos).mp (Nat.le_refl _)

private theorem pow_le_of_lt_length_digits (positive : 0 < d.significand) (few : places < d.digits.length) :
    Nat.pow 10 places ≤ d.significand := by
  rcases Nat.eq_zero_or_pos places with rfl | some
  · exact positive
  · refine Nat.le_of_not_lt fun small => ?_
    have short := (Nat.length_toDigits_le_iff (b := 10) (by decide) some).mpr small
    exact absurd few (Nat.not_lt.mpr short)

private theorem pow_mul_le_numerator (positive : 0 < d.significand) (far : places < d.pointPosition) :
    Nat.pow 10 places * d.denominator ≤ d.numerator := by
  unfold pointPosition at far
  have split : places + (-d.exponent).toNat < d.digits.length + d.exponent.toNat := by omega
  unfold numerator denominator
  simp only [Nat.pow_eq]
  rw [← Nat.pow_add]
  rcases Nat.lt_or_ge (places + (-d.exponent).toNat) d.exponent.toNat with whole | inside
  · exact Nat.le_trans (Nat.pow_le_pow_right (by decide) (Nat.le_of_lt whole))
      (Nat.le_mul_of_pos_left _ positive)
  · obtain ⟨rest, rest_eq⟩ := Nat.exists_eq_add_of_le inside
    have digits := pow_le_of_lt_length_digits positive (by omega : rest < d.digits.length)
    rw [rest_eq, Nat.pow_add, Nat.mul_comm]
    exact Nat.mul_le_mul_right _ digits

private theorem numerator_mul_lt_pow (near : d.pointPosition < -places) :
    d.numerator * Nat.pow 10 places < d.denominator := by
  unfold pointPosition at near
  have whole : d.exponent.toNat = 0 := by omega
  have long : d.digits.length + places ≤ (-d.exponent).toNat := by omega
  unfold numerator denominator
  rw [whole]
  simp only [Nat.pow_eq]
  rw [Nat.pow_zero, Nat.mul_one]
  calc d.significand * 10 ^ places
      < 10 ^ d.digits.length * 10 ^ places :=
        Nat.mul_lt_mul_of_pos_right (lt_pow_length_digits d) (Nat.pow_pos (by decide))
    _ = 10 ^ (d.digits.length + places) := (Nat.pow_add ..).symm
    _ ≤ 10 ^ (-d.exponent).toNat := Nat.pow_le_pow_right (by decide) long

private theorem pointPosition_le_of_finite (wide : Binary64.integerLimit ≤ Nat.pow 10 places)
    (nonzero : d.significand ≠ 0)
    (finite : roundUnits (d.numerator * unitsPerOne) d.denominator < ceiling) :
    d.pointPosition ≤ places := by
  refine Int.not_lt.mp fun far => ?_
  have large := pow_mul_le_numerator (Nat.pos_of_ne_zero nonzero) far
  rw [Binary64.roundUnits_lt_ceiling_iff d.denominator_pos, Binary64.limit_eq, Nat.mul_right_comm,
    Nat.mul_lt_mul_right Binary64.unitsPerOne_pos] at finite
  exact absurd finite (Nat.not_lt.mpr (Nat.le_trans (Nat.mul_le_mul_right _ wide) large))

private theorem roundUnits_of_near (wide : 2 * unitsPerOne ≤ Nat.pow 10 places)
    (near : d.pointPosition < -places) :
    roundUnits (d.numerator * unitsPerOne) d.denominator = 0 := by
  apply Binary64.roundUnits_eq_zero
  calc 2 * (d.numerator * unitsPerOne)
      = d.numerator * (2 * unitsPerOne) := Nat.mul_left_comm ..
    _ ≤ d.numerator * Nat.pow 10 places := Nat.mul_le_mul_left _ wide
    _ < d.denominator := numerator_mul_lt_pow near

end PointPosition

theorem toBinary64_of_readsBack (negative : Bool) {magnitude : Magnitude} {d : Decimal}
    (back : d.readsBack magnitude.units) : d.toBinary64 negative = .finite negative magnitude := by
  obtain ⟨units, representable⟩ := magnitude
  have rounded : roundUnits (d.numerator * unitsPerOne) d.denominator = units := roundUnits_of_readsBack back
  have finite := representable.1
  unfold toBinary64
  split
  · rename_i zero
    unfold numerator at rounded
    rw [zero, Nat.zero_mul, Nat.zero_mul, Binary64.roundUnits_zero] at rounded
    subst rounded
    rfl
  · rename_i nonzero
    split
    · rename_i far
      have wide : Binary64.integerLimit ≤ Nat.pow 10 400 := by decide +kernel
      have few := pointPosition_le_of_finite wide nonzero (rounded ▸ finite)
      exact absurd far (Int.not_lt.mpr few)
    · split
      · rename_i near
        have wide : 2 * unitsPerOne ≤ Nat.pow 10 400 := by decide +kernel
        rw [roundUnits_of_near wide near] at rounded
        subst rounded
        rfl
      · unfold Binary64.ofRatio Binary64.ofUnits
        simp only [rounded]
        rw [dif_pos finite]

theorem toBinary64_shortest (negative : Bool) (magnitude : Magnitude) :
    (shortest magnitude.units).toBinary64 negative = .finite negative magnitude :=
  toBinary64_of_readsBack negative (readsBack_shortest magnitude.representable.2)

end SampledMetrics.Decimal
