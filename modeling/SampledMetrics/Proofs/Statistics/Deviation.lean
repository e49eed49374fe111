import SampledMetrics.Proofs.Binary64.Root
import SampledMetrics.Proofs.Number
import SampledMetrics.Statistics
/-!
When the standard deviation of numbers is given: exactly when all of them are finite and their variance is
below the square of the limit of binary64.
-/

set_option autoImplicit false
set_option relaxedAutoImplicit false

namespace SampledMetrics

namespace Number

def isFinite : Number → Bool
  | .int _ => true
  | .float value => value.isFinite

private theorem units?_eq (x : Number) : Statistics.units? x = if x.isFinite then some x.units else none := by
  cases x with
  | int value => rw [units_int, isFinite, if_pos rfl, Statistics.units?]
  | float value =>
    cases value with
    | finite negative magnitude => rfl
    | _ => rfl

end Number

namespace Statistics

variable {numbers : List Number}

/-- The variance of numbers is below the square of the limit; both sides are scaled by the square of how
many they are. -/
def VarianceInRange (numbers : List Number) : Prop :=
  (scaledVariance (numbers.map Number.units)).toNat
    < Binary64.limit * Binary64.limit * (numbers.length * numbers.length)

theorem mapM_sampleUnits (numbers : List Number) :
    (numbers.map Value.number).mapM sampleUnits = .ok (numbers.map units?) := by
  induction numbers with
  | nil => rfl
  | cons x rest ih =>
    rw [List.map_cons, List.mapM_cons, ih]
    rfl

theorem mapM_units?_of_finite (finite : ∀ x ∈ numbers, x.isFinite) :
    (numbers.map units?).mapM id = some (numbers.map Number.units) := by
  induction numbers with
  | nil => rfl
  | cons x rest ih =>
    have first : units? x = some x.units := by
      rw [Number.units?_eq, if_pos (finite x List.mem_cons_self)]
    rw [List.map_cons, List.mapM_cons, first, ih fun y hy => finite y (List.mem_cons_of_mem x hy)]
    rfl

private theorem mapM_units?_of_infinite {x : Number} (present : x ∈ numbers) (infinite : ¬ x.isFinite) :
    (numbers.map units?).mapM id = none := by
  induction numbers with
  | nil => contradiction
  | cons y rest ih =>
    rw [List.map_cons, List.mapM_cons]
    rcases List.mem_cons.mp present with rfl | later
    · rw [Number.units?_eq, if_neg infinite]
      rfl
    · rw [ih later]
      cases units? y <;> rfl

theorem deviation_isOk (nonempty : numbers ≠ []) :
    (deviation (numbers.map .number)).isOk ↔
      (∀ x ∈ numbers, x.isFinite) ∧ VarianceInRange numbers := by
  have positive := List.length_pos_iff.mpr nonempty
  have square := Nat.mul_pos positive positive
  by_cases finite : ∀ x ∈ numbers, x.isFinite
  · have range : (rootDeviation (numbers.map Number.units)).isFinite ↔ VarianceInRange numbers := by
      unfold rootDeviation VarianceInRange
      rw [List.length_map]
      exact Binary64.isFinite_sqrtUnits_iff square
    simp only [deviation, mapM_sampleUnits, mapM_units?_of_finite finite, bind, Except.bind]
    rw [← range]
    split <;> simp_all [Except.isOk, Except.toBool]
  · have infinite := finite
    simp only [Classical.not_forall, exists_prop] at infinite
    obtain ⟨x, present, infinite⟩ := infinite
    simp only [deviation, mapM_sampleUnits, mapM_units?_of_infinite present infinite, bind, Except.bind]
    simp [Except.isOk, Except.toBool, finite]

end Statistics

end SampledMetrics
