import SampledMetrics.Binary64.Arithmetic
import SampledMetrics.Proofs.Binary64.Rounding
/-!
What the operations of binary64 do to exact values.  A finite number stands at a whole place, and on
whole places every operation is the operation on integers followed by one rounding, as long as the
rounded result stays below the ceiling; of the signs of zero nothing is said.
-/

set_option autoImplicit false
set_option relaxedAutoImplicit false

namespace SampledMetrics.Binary64

def roundSigned (num : Int) (den : Nat) : Int :=
  if num < 0 then -(roundUnits num.natAbs den : Int) else roundUnits num.natAbs den

/-- An exact value that is on the grid. -/
def OnGrid (units : Int) : Prop :=
  Representable units.natAbs

theorem ceiling_pos : 0 < ceiling :=
  Nat.lt_of_lt_of_le (by decide) (pow_le_ceiling (Nat.zero_le _))

theorem unitsPerOne_pos : 0 < unitsPerOne := by
  unfold unitsPerOne
  generalize 1074 = exponent
  exact Nat.two_pow_pos exponent

theorem natAbs_mul_unitsPerOne (value : Int) :
    (value * unitsPerOne).natAbs = value.natAbs * unitsPerOne := by
  rw [Int.natAbs_mul, Int.natAbs_natCast]

theorem roundUnits_zero (den : Nat) : roundUnits 0 den = 0 := by
  have small := roundQuotient_le 0 (den * spacing (0 / den))
  have whole : roundQuotient 0 (den * spacing (0 / den)) = 0 := by
    unfold roundQuotient
    simp
  unfold roundUnits
  dsimp only
  rw [whole, Nat.zero_mul]

@[simp]
theorem roundSigned_natCast (num den : Nat) : roundSigned num den = roundUnits num den := by
  unfold roundSigned
  rw [if_neg (by omega), Int.natAbs_natCast]

theorem roundSigned_zero (den : Nat) : roundSigned 0 den = 0 := by
  have rounded := roundSigned_natCast 0 den
  rwa [roundUnits_zero] at rounded

theorem roundSigned_mono {num num' : Int} {den : Nat} (positive : 0 < den) (le : num ≤ num') :
    roundSigned num den ≤ roundSigned num' den := by
  unfold roundSigned
  split <;> split
  · have mono : roundUnits num'.natAbs den ≤ roundUnits num.natAbs den :=
      roundUnits_mono positive (by omega)
    omega
  · omega
  · omega
  · have mono : roundUnits num.natAbs den ≤ roundUnits num'.natAbs den :=
      roundUnits_mono positive (by omega)
    omega

theorem roundSigned_one {point : Int} (grid : OnGrid point) : roundSigned point 1 = point := by
  unfold roundSigned
  rw [roundUnits_one grid.2]
  split <;> omega

theorem roundUnits_natAbs_lt {low value high : Int} (low_grid : OnGrid low) (high_grid : OnGrid high)
    (le : low ≤ value) (le' : value ≤ high) : roundUnits value.natAbs 1 < ceiling := by
  rcases Int.le_total 0 value with above | below
  · have rounded : roundUnits value.natAbs 1 ≤ high.natAbs :=
      roundUnits_le Nat.one_pos high_grid.2 (by omega)
    exact Nat.lt_of_le_of_lt rounded high_grid.1
  · have rounded : roundUnits value.natAbs 1 ≤ low.natAbs :=
      roundUnits_le Nat.one_pos low_grid.2 (by omega)
    exact Nat.lt_of_le_of_lt rounded low_grid.1

theorem natAbs_signedUnits (negative : Bool) (magnitude : Magnitude) :
    (signedUnits negative magnitude).natAbs = magnitude.units := by
  cases negative <;> simp [signedUnits]

theorem place?_eq_whole_iff {x : Binary64} {units : Int} :
    x.place? = some (.whole units) ↔ ∃ negative magnitude,
      x = .finite negative magnitude ∧ signedUnits negative magnitude = units := by
  constructor
  · intro place
    cases x with
    | nan => simp [place?] at place
    | infinity negative => cases negative <;> simp [place?] at place
    | finite negative magnitude =>
      simp only [place?, Option.some.injEq, Place.whole.injEq] at place
      exact ⟨negative, magnitude, rfl, place⟩
  · rintro ⟨negative, magnitude, rfl, rfl⟩
    rfl

theorem eq_of_place? {x y : Binary64} {units : Int} (hx : x.place? = some (.whole units))
    (hy : y.place? = some (.whole units)) (nonzero : units ≠ 0) : x = y := by
  obtain ⟨a, m, rfl, signed⟩ := place?_eq_whole_iff.mp hx
  obtain ⟨b, n, rfl, signed'⟩ := place?_eq_whole_iff.mp hy
  have same_units : m.units = n.units := by
    rw [← natAbs_signedUnits a m, signed, ← signed', natAbs_signedUnits]
  obtain ⟨units, grid⟩ := m
  obtain ⟨units', grid'⟩ := n
  obtain rfl : units = units' := same_units
  have same_sign : a = b := by
    cases a <;> cases b <;> simp [signedUnits] at signed signed' ⊢ <;> omega
  rw [same_sign]

theorem onGrid_of_place? {x : Binary64} {units : Int} (place : x.place? = some (.whole units)) :
    OnGrid units := by
  obtain ⟨negative, magnitude, -, rfl⟩ := place?_eq_whole_iff.mp place
  unfold OnGrid
  rw [natAbs_signedUnits]
  exact magnitude.representable

theorem representable_of_place? {x : Binary64} {units : Nat} (place : x.place? = some (.whole units)) :
    Representable units := by
  have grid := onGrid_of_place? place
  unfold OnGrid at grid
  rwa [Int.natAbs_natCast] at grid

theorem isFinite_iff {x : Binary64} : x.isFinite ↔ ∃ units, x.place? = some (.whole units) := by
  cases x with
  | nan => simp [place?, isFinite]
  | infinity negative => cases negative <;> simp [place?, isFinite]
  | finite negative magnitude => simp [place?, isFinite]

/-- A rounded quotient stands where rounding puts it, whatever the sign of zero. -/
theorem place?_ofUnits {negative : Bool} {num : Int} {den : Nat}
    (sign : num = 0 ∨ negative = decide (num < 0)) (finite : roundUnits num.natAbs den < ceiling) :
    (ofUnits negative num.natAbs den).place? = some (.whole (roundSigned num den)) := by
  unfold ofUnits
  rw [dif_pos finite]
  refine place?_eq_whole_iff.mpr ⟨negative, _, rfl, ?_⟩
  unfold signedUnits roundSigned
  rcases sign with rfl | rfl
  · simp [roundUnits_zero]
  · by_cases below : num < 0 <;> simp [below]

theorem isFinite_ofUnits (negative : Bool) (num den : Nat) :
    (ofUnits negative num den).isFinite = decide (roundUnits num den < ceiling) := by
  unfold ofUnits
  split <;> simp_all [isFinite]

variable {x y : Binary64} {u v : Int}

theorem truncate?_of_place? {whole : Nat} (hx : x.place? = some (.whole whole)) :
    x.truncate? = some ((whole / unitsPerOne : Nat) : Int) := by
  obtain ⟨negative, magnitude, rfl, signed⟩ := place?_eq_whole_iff.mp hx
  simp only [truncate?, signed]
  rw [Int.ofNat_tdiv]

theorem floor?_of_place? {whole : Nat} (hx : x.place? = some (.whole whole)) :
    x.floor? = some ((whole / unitsPerOne : Nat) : Int) := by
  obtain ⟨negative, magnitude, rfl, signed⟩ := place?_eq_whole_iff.mp hx
  simp only [floor?, signed]
  rw [Int.ofNat_fdiv]

theorem place?_neg (hx : x.place? = some (.whole u)) : x.neg.place? = some (.whole (-u)) := by
  obtain ⟨negative, magnitude, rfl, rfl⟩ := place?_eq_whole_iff.mp hx
  refine place?_eq_whole_iff.mpr ⟨!negative, magnitude, rfl, ?_⟩
  cases negative <;> simp [signedUnits]

theorem lt_of_place? (hx : x.place? = some (.whole u)) (hy : y.place? = some (.whole v)) :
    x.lt y = decide (u < v) := by
  simp only [lt, hx, hy, Place.before]

theorem neg_lt_neg (x y : Binary64) : x.neg.lt y.neg = y.lt x := by
  cases x with
  | nan =>
    cases y with
    | infinity b => cases b <;> rfl
    | _ => rfl
  | infinity a =>
    cases y with
    | nan => cases a <;> rfl
    | infinity b => cases a <;> cases b <;> rfl
    | finite b n => cases a <;> rfl
  | finite a m =>
    cases y with
    | nan => rfl
    | infinity b => cases b <;> rfl
    | finite b n =>
      have left : (finite a m).place? = some (.whole (signedUnits a m)) := rfl
      have right : (finite b n).place? = some (.whole (signedUnits b n)) := rfl
      rw [lt_of_place? (place?_neg left) (place?_neg right), lt_of_place? right left]
      exact decide_eq_decide.mpr Int.neg_lt_neg_iff

theorem neg_neg (x : Binary64) : x.neg.neg = x := by
  cases x <;> simp only [neg, Bool.not_not]

theorem add_comm (x y : Binary64) : x.add y = y.add x := by
  cases x with
  | nan => cases y <;> rfl
  | infinity a =>
    cases y with
    | nan => rfl
    | infinity b => cases a <;> cases b <;> rfl
    | finite b n => rfl
  | finite a m =>
    cases y with
    | nan => rfl
    | infinity b => rfl
    | finite b n =>
      simp only [add]
      rw [Int.add_comm, Bool.and_comm]

theorem place?_add (hx : x.place? = some (.whole u)) (hy : y.place? = some (.whole v))
    (finite : roundUnits (u + v).natAbs 1 < ceiling) :
    (x.add y).place? = some (.whole (roundSigned (u + v) 1)) := by
  obtain ⟨a, m, rfl, rfl⟩ := place?_eq_whole_iff.mp hx
  obtain ⟨b, n, rfl, rfl⟩ := place?_eq_whole_iff.mp hy
  simp only [add]
  split
  · rename_i cancelled
    rw [cancelled]
    cases a <;> cases b <;> simp [zero, place?, signedUnits, roundSigned, roundUnits_zero]
  · exact place?_ofUnits (Or.inr rfl) finite

theorem place?_sub (hx : x.place? = some (.whole u)) (hy : y.place? = some (.whole v))
    (finite : roundUnits (u - v).natAbs 1 < ceiling) :
    (x.sub y).place? = some (.whole (roundSigned (u - v) 1)) := by
  rw [Int.sub_eq_add_neg] at finite ⊢
  exact place?_add hx (place?_neg hy) finite

theorem isFinite_add (hx : x.place? = some (.whole u)) (hy : y.place? = some (.whole v)) :
    (x.add y).isFinite = decide (roundUnits (u + v).natAbs 1 < ceiling) := by
  obtain ⟨a, m, rfl, rfl⟩ := place?_eq_whole_iff.mp hx
  obtain ⟨b, n, rfl, rfl⟩ := place?_eq_whole_iff.mp hy
  simp only [add]
  split
  · rename_i cancelled
    rw [cancelled, Int.natAbs_zero, roundUnits_zero]
    exact (decide_eq_true ceiling_pos).symm
  · exact isFinite_ofUnits _ _ _

theorem isFinite_sub (hx : x.place? = some (.whole u)) (hy : y.place? = some (.whole v)) :
    (x.sub y).isFinite = decide (roundUnits (u - v).natAbs 1 < ceiling) := by
  rw [Int.sub_eq_add_neg]
  exact isFinite_add hx (place?_neg hy)

private theorem sign_of_eq_ite {negative : Bool} {magnitude : Nat} {num : Int}
    (signed : num = if negative then -(magnitude : Int) else magnitude) :
    num = 0 ∨ negative = decide (num < 0) := by
  cases negative with
  | false =>
    rw [if_neg Bool.false_ne_true] at signed
    right
    exact (decide_eq_false (by omega)).symm
  | true =>
    rw [if_pos rfl] at signed
    by_cases zero : magnitude = 0
    · left
      omega
    · right
      exact (decide_eq_true (by omega)).symm

private theorem signedUnits_mul_natCast (a : Bool) (m : Magnitude) (n : Nat) :
    signedUnits a m * n = if a != false then -((m.units * n : Nat) : Int) else (m.units * n : Nat) := by
  rw [Int.natCast_mul, Bool.bne_false]
  cases a with
  | false => rfl
  | true => exact Int.neg_mul ..

private theorem signedUnits_mul (a b : Bool) (m n : Magnitude) :
    signedUnits a m * signedUnits b n =
      if a != b then -((m.units * n.units : Nat) : Int) else (m.units * n.units : Nat) := by
  cases b with
  | false => exact signedUnits_mul_natCast a m n.units
  | true =>
    have reflected : signedUnits true n = -(n.units : Int) := rfl
    rw [reflected, Int.mul_neg, signedUnits_mul_natCast]
    cases a with
    | false => rfl
    | true => exact Int.neg_neg _

theorem place?_mul (hx : x.place? = some (.whole u)) (hy : y.place? = some (.whole v))
    (finite : roundUnits (u * v).natAbs unitsPerOne < ceiling) :
    (x.mul y).place? = some (.whole (roundSigned (u * v) unitsPerOne)) := by
  obtain ⟨a, m, rfl, rfl⟩ := place?_eq_whole_iff.mp hx
  obtain ⟨b, n, rfl, rfl⟩ := place?_eq_whole_iff.mp hy
  have product : m.units * n.units = (signedUnits a m * signedUnits b n).natAbs := by
    rw [Int.natAbs_mul, natAbs_signedUnits, natAbs_signedUnits]
  simp only [mul]
  rw [product]
  exact place?_ofUnits (sign_of_eq_ite (signedUnits_mul a b m n)) finite

theorem place?_div (hx : x.place? = some (.whole u)) {d : Nat} (hy : y.place? = some (.whole d))
    (divisor : 0 < d) (finite : roundUnits (u * unitsPerOne).natAbs d < ceiling) :
    (x.div y).place? = some (.whole (roundSigned (u * unitsPerOne) d)) := by
  obtain ⟨a, m, rfl, rfl⟩ := place?_eq_whole_iff.mp hx
  obtain ⟨b, n, rfl, hn⟩ := place?_eq_whole_iff.mp hy
  have positive : b = false ∧ n.units = d := by
    cases b <;> simp [signedUnits] at hn <;> simp <;> omega
  obtain ⟨rfl, rfl⟩ := positive
  have scaled : m.units * unitsPerOne = (signedUnits a m * unitsPerOne).natAbs := by
    rw [natAbs_mul_unitsPerOne, natAbs_signedUnits]
  simp only [div]
  rw [if_neg (by omega), scaled]
  exact place?_ofUnits (sign_of_eq_ite (signedUnits_mul_natCast a m unitsPerOne)) finite

theorem spacing_dvd_mul_unitsPerOne {significand : Nat} (bound : significand ≤ Nat.pow 2 53) :
    spacing (significand * unitsPerOne) ∣ significand * unitsPerOne := by
  unfold unitsPerOne
  generalize 1074 = shift
  exact spacing_dvd_of_le shift bound

theorem spacing_dvd_unitsPerOne : spacing unitsPerOne ∣ unitsPerOne := by
  have grid := spacing_dvd_mul_unitsPerOne (by decide : 1 ≤ Nat.pow 2 53)
  rwa [Nat.one_mul] at grid

theorem mul_unitsPerOne_lt_ceiling {significand : Nat} (bound : significand ≤ Nat.pow 2 53) :
    significand * unitsPerOne < ceiling := by
  have small : 54 + 1074 ≤ 2098 := by decide
  unfold unitsPerOne
  generalize 1074 = shift at small ⊢
  calc significand * Nat.pow 2 shift
      ≤ Nat.pow 2 53 * Nat.pow 2 shift := Nat.mul_le_mul_right _ bound
    _ < Nat.pow 2 54 * Nat.pow 2 shift :=
        Nat.mul_lt_mul_of_pos_right (by decide) (Nat.two_pow_pos shift)
    _ = Nat.pow 2 (54 + shift) := (Nat.pow_add 2 54 shift).symm
    _ ≤ ceiling := pow_le_ceiling small

theorem onGrid_of_natAbs_le {value : Int} (exact : value.natAbs ≤ Nat.pow 2 53) :
    OnGrid (value * unitsPerOne) := by
  unfold OnGrid
  rw [natAbs_mul_unitsPerOne]
  exact ⟨mul_unitsPerOne_lt_ceiling exact, spacing_dvd_mul_unitsPerOne exact⟩

theorem isFinite_ofRatio (value : Int) (den : Nat) :
    (ofRatio (value < 0) value.natAbs den).isFinite
      = decide (roundUnits (value * unitsPerOne).natAbs den < ceiling) := by
  unfold ofRatio
  rw [isFinite_ofUnits, natAbs_mul_unitsPerOne]

theorem place?_ofRatio {value : Int} {den : Nat}
    (finite : (ofRatio (value < 0) value.natAbs den).isFinite) :
    (ofRatio (value < 0) value.natAbs den).place?
      = some (.whole (roundSigned (value * unitsPerOne) den)) := by
  have sign : decide (value < 0) = decide (value * unitsPerOne < 0) := by
    refine decide_eq_decide.mpr ⟨fun below => ?_, fun below => ?_⟩
    · exact Int.mul_neg_of_neg_of_pos below (Int.natCast_pos.mpr unitsPerOne_pos)
    · refine Int.lt_of_not_ge fun above => ?_
      have product := Int.mul_nonneg above (Int.natCast_nonneg unitsPerOne)
      omega
  rw [isFinite_ofRatio, decide_eq_true_iff] at finite
  unfold ofRatio
  rw [← natAbs_mul_unitsPerOne, place?_ofUnits (Or.inr sign) finite]

theorem isFinite_ofInt (value : Int) :
    (ofInt value).isFinite = decide (roundUnits (value * unitsPerOne).natAbs 1 < ceiling) :=
  isFinite_ofRatio value 1

theorem place?_ofInt {value : Int} (finite : (ofInt value).isFinite) :
    (ofInt value).place? = some (.whole (roundSigned (value * unitsPerOne) 1)) :=
  place?_ofRatio finite

theorem place?_ofInt_exact {value : Int} (exact : value.natAbs ≤ Nat.pow 2 53) :
    (ofInt value).place? = some (.whole (value * unitsPerOne)) := by
  have grid := onGrid_of_natAbs_le exact
  have finite : (ofInt value).isFinite := by
    rw [isFinite_ofInt, roundUnits_one grid.2]
    exact decide_eq_true grid.1
  rw [place?_ofInt finite, roundSigned_one grid]

theorem place?_one : (ofInt 1).place? = some (.whole unitsPerOne) := by
  have place := place?_ofInt_exact (by decide : (1 : Int).natAbs ≤ Nat.pow 2 53)
  rwa [Int.one_mul] at place

end SampledMetrics.Binary64
