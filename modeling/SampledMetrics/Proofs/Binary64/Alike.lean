import SampledMetrics.Proofs.Binary64.Arithmetic
/-!
Numbers at the same place.  Only the two zeros are different numbers at one place, and no operation that
the statistics use tells them apart but by the sign of another zero.
-/

set_option autoImplicit false
set_option relaxedAutoImplicit false

namespace SampledMetrics.Binary64

/-- At the same place on the line, or both not-a-number. -/
def Alike (x y : Binary64) : Prop :=
  x.place? = y.place?

theorem Alike.refl (x : Binary64) : x.Alike x :=
  Eq.refl x.place?

theorem place?_zero (negative : Bool) : (zero negative).place? = some (.whole 0) := by
  cases negative <;> rfl

private theorem exists_zero_of_place? {x : Binary64} (place : x.place? = some (.whole 0)) : ∃ a, x = zero a := by
  obtain ⟨a, ⟨units, grid⟩, rfl, signed⟩ := place?_eq_whole_iff.mp place
  obtain rfl : units = 0 := by
    have magnitude := natAbs_signedUnits a ⟨units, grid⟩
    rw [signed] at magnitude
    exact magnitude.symm
  exact ⟨a, rfl⟩

variable {x y x' y' : Binary64}

theorem Alike.cases (alike : x.Alike y) : x = y ∨ ∃ a b, x = zero a ∧ y = zero b := by
  unfold Alike at alike
  cases x with
  | nan =>
    cases y with
    | nan => exact .inl rfl
    | infinity b => cases b <;> contradiction
    | finite b n => contradiction
  | infinity a =>
    cases y with
    | nan => cases a <;> contradiction
    | infinity b => cases a <;> cases b <;> first | exact .inl rfl | contradiction
    | finite b n => cases a <;> simp [place?] at alike
  | finite a m =>
    have place : (finite a m).place? = some (.whole (signedUnits a m)) := rfl
    by_cases none : signedUnits a m = 0
    · rw [none] at place
      obtain ⟨a, same⟩ := exists_zero_of_place? place
      obtain ⟨b, rfl⟩ := exists_zero_of_place? (alike.symm.trans place)
      exact .inr ⟨a, b, same, rfl⟩
    · exact .inl (eq_of_place? place (alike.symm.trans place) none)

theorem Alike.isNonzero (alike : x.Alike y) : x.isNonzero = y.isNonzero := by
  rcases alike.cases with rfl | ⟨a, b, rfl, rfl⟩ <;> rfl

theorem Alike.isFinite (alike : x.Alike y) : x.isFinite = y.isFinite := by
  rcases alike.cases with rfl | ⟨a, b, rfl, rfl⟩ <;> rfl

theorem Alike.smaller (left : x.Alike x') (right : y.Alike y') : x.smaller y = x'.smaller y' := by
  have second (z : Binary64) : z.smaller y = z.smaller y' := by
    rcases right.cases with rfl | ⟨a, b, rfl, rfl⟩
    · rfl
    · cases z <;> rfl
  rcases left.cases with rfl | ⟨a, b, rfl, rfl⟩
  · exact second x
  · rw [second]
    cases y' <;> rfl

theorem Alike.neg (alike : x.Alike y) : x.neg.Alike y.neg := by
  rcases alike.cases with rfl | ⟨a, b, rfl, rfl⟩
  · rfl
  · exact (place?_zero _).trans (place?_zero _).symm

private theorem zero_add_alike (negative : Bool) (y : Binary64) : ((zero negative).add y).Alike y := by
  cases y with
  | nan => rfl
  | infinity b => rfl
  | finite b n =>
    have grid := onGrid_of_place? (x := .finite b n) rfl
    have place := place?_add (x := zero negative) (y := .finite b n) (place?_zero negative) rfl
    rw [Int.zero_add, roundUnits_one grid.2, roundSigned_one grid] at place
    exact place grid.1

private theorem Alike.add_left (alike : x.Alike x') (y : Binary64) : (x.add y).Alike (x'.add y) := by
  rcases alike.cases with rfl | ⟨a, b, rfl, rfl⟩
  · rfl
  · exact (zero_add_alike a y).trans (zero_add_alike b y).symm

theorem Alike.add (left : x.Alike x') (right : y.Alike y') : (x.add y).Alike (x'.add y') := by
  have second := right.add_left x'
  rw [add_comm y, add_comm y'] at second
  exact (left.add_left y).trans second

theorem Alike.sub (left : x.Alike x') (right : y.Alike y') : (x.sub y).Alike (x'.sub y') :=
  left.add right.neg

/-- A factor may be replaced by one at its place. -/
theorem Alike.mul_right (factor : Binary64) (alike : x.Alike y) : (factor.mul x).Alike (factor.mul y) := by
  rcases alike.cases with rfl | ⟨a, b, rfl, rfl⟩
  · rfl
  cases factor with
  | nan => rfl
  | infinity c => rfl
  | finite c m =>
    have none (negative : Bool) : ((finite c m).mul (zero negative)).place? = some (.whole 0) := by
      have place := place?_mul (x := .finite c m) rfl (place?_zero negative)
      rw [Int.mul_zero, Int.natAbs_zero, roundUnits_zero, roundSigned_zero] at place
      exact place ceiling_pos
    exact (none a).trans (none b).symm

end SampledMetrics.Binary64
