import SampledMetrics.Defaults
import SampledMetrics.Proofs.Failing
/-!
What the check of defaults accepts.  Main statement: defaults are accepted exactly when
the size is a positive integer, the seed an integer if there is one, and every percentile a number which
has a place among the binary64 numbers.
-/

set_option autoImplicit false
set_option relaxedAutoImplicit false

namespace SampledMetrics

namespace Defaults

variable {value : Value}

theorem checkSize_eq_ok_iff : checkSize value = .ok () ↔ ∃ size : Int, 1 ≤ size ∧ value = .int size := by
  constructor
  · intro accepted
    unfold checkSize at accepted
    split at accepted
    · rename_i size
      split at accepted
      · contradiction
      · rename_i large
        exact ⟨size, Int.not_lt.mp large, rfl⟩
    · contradiction
  · rintro ⟨size, large, rfl⟩
    exact if_neg (Int.not_lt.mpr large)

private theorem checkSeed_eq_ok_iff :
    checkSeed value = .ok () ↔ value = .null ∨ ∃ seed : Int, value = .int seed := by
  constructor
  · intro accepted
    unfold checkSeed at accepted
    split at accepted
    · exact Or.inl rfl
    · exact Or.inr ⟨_, rfl⟩
    · contradiction
  · rintro (rfl | ⟨seed, rfl⟩)
    · rfl
    · rfl

theorem checkPercentile_eq_ok_iff :
    checkPercentile value = .ok () ↔
      ∃ number real, value.number? = some number ∧ number.toBinary64? = some real ∧ real.isNaN = false := by
  unfold checkPercentile
  cases value.number? with
  | none => simp [Failure.showing]
  | some number =>
    dsimp only
    cases converted : number.toBinary64? with
    | none => simp [converted]
    | some real => cases nan : real.isNaN <;> simp [converted, nan]

/-- The three checks, one after the other. -/
theorem validate_eq_ok_iff {d : Defaults} :
    d.validate = .ok () ↔
      (∃ size : Int, 1 ≤ size ∧ d.reservoirSize = .int size) ∧
      (d.reservoirSeed = .null ∨ ∃ seed : Int, d.reservoirSeed = .int seed) ∧
      ∃ items, d.percentiles.items? = some items ∧ ∀ item ∈ items, checkPercentile item = .ok () := by
  rw [← checkSize_eq_ok_iff, ← checkSeed_eq_ok_iff]
  unfold validate
  cases d.percentiles.items? with
  | none => simp [Failure.bind_eq_ok_iff]
  | some items =>
    simp only [Failure.bind_eq_ok_iff, Failure.forM_eq_ok_iff, Option.some.injEq, exists_eq_left']
    exact ⟨fun ⟨(), sized, (), seeded, checked⟩ => ⟨sized, seeded, checked⟩,
      fun ⟨sized, seeded, checked⟩ => ⟨(), sized, (), seeded, checked⟩⟩

end Defaults

end SampledMetrics
