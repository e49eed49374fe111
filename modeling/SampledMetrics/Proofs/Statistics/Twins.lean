import SampledMetrics.Proofs.Binary64.Alike
import SampledMetrics.Proofs.Correspondence
import SampledMetrics.Proofs.Statistics.Deviation
import SampledMetrics.Proofs.Statistics.Sum
/-!
Sums and deviations of numbers that have the same values in another form: an integer for a binary64
number, or a zero of the other sign.  Main statements: both are the same, down to the failure.
-/

set_option autoImplicit false
set_option relaxedAutoImplicit false

namespace SampledMetrics

namespace Number

/-- Numbers of one value that both fit binary64. -/
structure Twin (x y : Number) : Prop where
  left : x.fits
  right : y.fits
  units_eq : x.units = y.units

variable {x y : Number}

theorem Twin.place?_eq (twin : x.Twin y) : x.place? = y.place? := by
  rw [place?_of_fits twin.left, place?_of_fits twin.right, twin.units_eq]

/-- Twins become numbers at one place. -/
theorem Twin.exists_alike (twin : x.Twin y) :
    ∃ a b, x.toBinary64? = some a ∧ y.toBinary64? = some b ∧ a.Alike b ∧ a.isFinite := by
  obtain ⟨a, converted, place⟩ := toBinary64?_of_fits twin.left
  obtain ⟨b, converted', place'⟩ := toBinary64?_of_fits twin.right
  rw [← twin.units_eq] at place'
  exact ⟨a, b, converted, converted', place.trans place'.symm, Binary64.isFinite_iff.mpr ⟨_, place⟩⟩

private theorem isFinite_of_fits (fits : x.fits) : x.isFinite := by
  cases x with
  | int value => rfl
  | float value => exact fits

end Number

namespace Statistics

open Binary64 (Alike)

private theorem twoSum_alike {x y x' y' : Binary64} (left : x.Alike x') (right : y.Alike y') :
    (twoSum x y).1.Alike (twoSum x' y').1 ∧ (twoSum x y).2.Alike (twoSum x' y').2 := by
  unfold twoSum
  rw [left.smaller right]
  cases x'.smaller y' with
  | true =>
    have high := right.add left
    exact ⟨high, left.sub (high.sub right)⟩
  | false =>
    have high := left.add right
    exact ⟨high, right.sub (high.sub left)⟩

private theorem absorb_alike {x x' : Binary64} {parts parts' : List Binary64} (same : x.Alike x')
    (others : List.Forall₂ Alike parts parts') :
    List.Forall₂ Alike (absorb x parts).1 (absorb x' parts').1 ∧
      (absorb x parts).2.Alike (absorb x' parts').2 := by
  induction others generalizing x x' with
  | nil => exact ⟨.nil, same⟩
  | @cons part part' rest rest' first _ ih =>
    obtain ⟨high, low⟩ := twoSum_alike same first
    obtain ⟨left, top⟩ := ih high
    unfold absorb
    dsimp only
    rw [low.isNonzero]
    refine ⟨?_, top⟩
    split
    · exact .cons low left
    · exact left

/-- Totals with the same exact sum, and parts at the same places. -/
structure Total.Alike (total total' : Total) : Prop where
  parts : List.Forall₂ Binary64.Alike total.parts total'.parts
  units : total.units = total'.units
  special : total.special = total'.special
  infinities : total.infinities = total'.infinities

private theorem exactUnits_eq {x y : Binary64} (alike : x.Alike y) : exactUnits x = exactUnits y := by
  rcases alike.cases with rfl | ⟨a, b, rfl, rfl⟩
  · rfl
  · cases a <;> cases b <;> rfl

theorem Total.Alike.add {total total' : Total} {x y : Binary64} (alike : total.Alike total')
    (same : x.Alike y) (finite : x.isFinite) : Both Total.Alike (total.add x) (total'.add y) := by
  obtain ⟨parts, top⟩ := absorb_alike same alike.parts
  unfold Total.add
  dsimp only
  rw [← top.isNonzero, ← top.isFinite, ← same.isFinite, finite]
  have units : total.units + exactUnits x = total'.units + exactUnits y := by
    rw [alike.units, exactUnits_eq same]
  split
  · exact .ok ⟨parts, units, alike.special, alike.infinities⟩
  · split
    · exact .ok ⟨List.rel_append parts (.cons top .nil), units, alike.special, alike.infinities⟩
    · exact .error _

theorem Total.Alike.result {total total' : Total} (alike : total.Alike total') :
    total.result = total'.result := by
  unfold Total.result
  rw [alike.units, alike.special, alike.infinities]

private theorem totalFrom_twins {total total' : Total} {xs ys : List Number} (alike : total.Alike total')
    (twins : List.Forall₂ Number.Twin xs ys) :
    Both Total.Alike (totalFrom total xs) (totalFrom total' ys) := by
  induction twins generalizing total total' with
  | nil => exact .ok alike
  | @cons x y xs ys first _ ih =>
    obtain ⟨a, b, converted, converted', same, finite⟩ := first.exists_alike
    rw [totalFrom_cons, totalFrom_cons, converted, converted']
    exact (alike.add same finite).bind fun next next' => ih

private theorem sum_twins {xs ys : List Number} (twins : List.Forall₂ Number.Twin xs ys) :
    sum (xs.map .number) = sum (ys.map .number) := by
  have start : Total.empty.Alike Total.empty := ⟨.nil, rfl, rfl, rfl⟩
  refine Both.eq ((totalFrom_twins start twins).bind fun total total' alike => ?_)
  rw [alike.result]
  exact .refl _

theorem mean_twins {xs ys : List Number} (twins : List.Forall₂ Number.Twin xs ys) :
    mean (xs.map .number) = mean (ys.map .number) := by
  unfold mean
  rw [sum_twins twins, List.length_map, List.length_map, twins.length_eq]

private theorem map_units_twins {xs ys : List Number} (twins : List.Forall₂ Number.Twin xs ys) :
    xs.map Number.units = ys.map Number.units := by
  induction twins with
  | nil => rfl
  | cons first _ ih => rw [List.map_cons, List.map_cons, first.units_eq, ih]

theorem deviation_eq {xs : List Number} (finite : ∀ x ∈ xs, x.isFinite) :
    deviation (xs.map .number) =
      if (rootDeviation (xs.map Number.units)).isFinite then .ok (rootDeviation (xs.map Number.units))
      else .error .quotientTooLarge := by
  simp only [deviation, mapM_sampleUnits, mapM_units?_of_finite finite, bind, Except.bind]

theorem deviation_twins {xs ys : List Number} (twins : List.Forall₂ Number.Twin xs ys) :
    deviation (xs.map .number) = deviation (ys.map .number) := by
  have finite : ∀ x ∈ xs, x.isFinite := by
    intro x present
    obtain ⟨y, -, twin⟩ := exists_right_of_mem twins present
    exact Number.isFinite_of_fits twin.left
  have finite' : ∀ y ∈ ys, y.isFinite := by
    intro y present
    obtain ⟨x, -, twin⟩ := exists_left_of_mem twins present
    exact Number.isFinite_of_fits twin.right
  rw [deviation_eq finite, deviation_eq finite', map_units_twins twins]

end Statistics

end SampledMetrics
