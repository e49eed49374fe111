import SampledMetrics.Proofs.Binary64.Nearest
import SampledMetrics.Proofs.Binary64.Range
/-!
The square root.  Bisection ends at the integer square root, rounded down; with the three further bits
and the mark of exactness that is enough to decide the range.  The root of a quotient depends on the
quotient alone, however it is written, and is rounded correctly: no point of the grid is nearer to it,
and of two equally near ones the even one is chosen.
-/

set_option autoImplicit false
set_option relaxedAutoImplicit false

namespace SampledMetrics.Binary64

private theorem rootBetween_spec {n fuel low high : Nat} (lower : low * low ≤ n) (upper : n < high * high)
    (near : high ≤ low + Nat.pow 2 fuel) :
    rootBetween n fuel low high * rootBetween n fuel low high ≤ n
      ∧ n < (rootBetween n fuel low high + 1) * (rootBetween n fuel low high + 1) := by
  induction fuel generalizing low high with
  | zero =>
    refine ⟨lower, Nat.lt_of_lt_of_le upper ?_⟩
    exact Nat.mul_le_mul near near
  | succ fuel ih =>
    have double : Nat.pow 2 (fuel + 1) = 2 * Nat.pow 2 fuel := Nat.pow_succ'
    unfold rootBetween
    split
    · rename_i close
      exact ⟨lower, Nat.lt_of_lt_of_le upper (Nat.mul_le_mul close close)⟩
    · dsimp only
      split
      · rename_i below
        exact ih below upper (by omega)
      · rename_i above
        exact ih lower (Nat.lt_of_not_ge above) (by omega)

private theorem floorRoot_spec (n : Nat) :
    floorRoot n * floorRoot n ≤ n ∧ n < (floorRoot n + 1) * (floorRoot n + 1) := by
  refine rootBetween_spec (Nat.zero_le _) ?_ ?_
  · calc n < 2 ^ (n.log2 + 1) := Nat.lt_log2_self
      _ ≤ 2 ^ (n.log2 / 2 + 1 + (n.log2 / 2 + 1)) := Nat.pow_le_pow_right (by decide) (by omega)
      _ = Nat.pow 2 (n.log2 / 2 + 1) * Nat.pow 2 (n.log2 / 2 + 1) := Nat.pow_add ..
  · rw [Nat.zero_add]
    exact Nat.pow_le_pow_right (by decide) (by omega)

private theorem floorRoot_lt_iff {n bound : Nat} : floorRoot n < bound ↔ n < bound * bound := by
  obtain ⟨below, above⟩ := floorRoot_spec n
  constructor
  · intro lt
    exact Nat.lt_of_lt_of_le above (Nat.mul_le_mul lt lt)
  · intro lt
    refine Nat.lt_of_not_ge fun ge => ?_
    have square := Nat.mul_le_mul ge ge
    omega

theorem isFinite_sqrtUnits_iff {num den : Nat} (positive : 0 < den) :
    (sqrtUnits num den).isFinite ↔ num < limit * limit * den := by
  -- the root is taken of sixteen times the quotient, so the limit is scaled by four
  have root : floorRoot (num * 16 / den) < limit * 4 ↔ num < limit * limit * den := by
    rw [floorRoot_lt_iff, Nat.div_lt_iff_lt_mul positive]
    rw [Nat.mul_mul_mul_comm, Nat.mul_right_comm]
    exact Nat.mul_lt_mul_right (by decide)
  rw [← root]
  unfold sqrtUnits
  dsimp only
  rw [isFinite_ofUnits, decide_eq_true_iff, roundUnits_lt_ceiling_iff (by decide)]
  split <;> omega

/-- The root of a quotient in units with three further bits, of which the last marks what is cut off. -/
def markedRoot (num den : Nat) : Nat :=
  2 * floorRoot (num * 16 / den) +
    if floorRoot (num * 16 / den) * floorRoot (num * 16 / den) * den = num * 16 then 0 else 1

private theorem sqrtUnits_eq (num den : Nat) : sqrtUnits num den = ofUnits false (markedRoot num den) 8 := by
  unfold sqrtUnits markedRoot
  rfl

theorem place?_sqrtUnits {num den : Nat} (finite : (sqrtUnits num den).isFinite) :
    (sqrtUnits num den).place? = some (.whole (roundUnits (markedRoot num den) 8 : Nat)) := by
  rw [sqrtUnits_eq] at finite ⊢
  rw [isFinite_ofUnits, decide_eq_true_iff] at finite
  have sign : false = decide ((markedRoot num den : Int) < 0) := (decide_eq_false (by omega)).symm
  have place := @place?_ofUnits false (markedRoot num den) 8 (Or.inr sign)
  rw [Int.natAbs_natCast, roundSigned_natCast] at place
  exact place finite

/-- Equal quotients have the same root. -/
theorem sqrtUnits_eq_of_cross {num den num' den' : Nat} (positive : 0 < den) (positive' : 0 < den')
    (cross : num * den' = num' * den) : sqrtUnits num den = sqrtUnits num' den' := by
  have scaled : num * 16 * den' = num' * 16 * den := by
    rw [Nat.mul_right_comm, cross, Nat.mul_right_comm]
  have quotients : num * 16 / den = num' * 16 / den' := by
    rw [← Nat.mul_div_mul_right _ _ positive', scaled, Nat.mul_comm den den',
      Nat.mul_div_mul_right _ _ positive]
  have exact (square : Nat) : square * den = num * 16 ↔ square * den' = num' * 16 := by
    rw [← Nat.mul_left_inj (Nat.ne_of_gt positive'), scaled, Nat.mul_right_comm,
      Nat.mul_left_inj (Nat.ne_of_gt positive)]
  rw [sqrtUnits_eq, sqrtUnits_eq]
  unfold markedRoot
  simp only [quotients, exact]

/-- A point of the grid to which none is preferred as the root of a quotient: the middle to each other
one has its square on the far side, and the quotient itself as its square only if this one is even. -/
structure IsNearestRoot (point num den : Nat) : Prop where
  below : ∀ other, spacing other ∣ other → other < point → (point + other) ^ 2 * den ≤ 4 * num
  above : ∀ other, spacing other ∣ other → point < other → 4 * num ≤ (point + other) ^ 2 * den
  even : ∀ other, spacing other ∣ other → other ≠ point → (point + other) ^ 2 * den = 4 * num →
    2 * spacing point ∣ point

section Marked

variable {num den middle : Nat}

private theorem le_markedRoot_iff (positive : 0 < den) :
    4 * middle ≤ markedRoot num den ↔ middle ^ 2 * den ≤ 4 * num := by
  have side : 2 * middle ≤ floorRoot (num * 16 / den) ↔ middle ^ 2 * den ≤ 4 * num := by
    have square : 2 * middle * (2 * middle) * den = middle ^ 2 * den * 4 := by ring
    rw [← Nat.not_lt, floorRoot_lt_iff, Nat.not_lt, Nat.le_div_iff_mul_le positive, square]
    omega
  rw [← side]
  unfold markedRoot
  split <;> omega

private theorem markedRoot_le_iff (positive : 0 < den) :
    markedRoot num den ≤ 4 * middle ↔ 4 * num ≤ middle ^ 2 * den := by
  have square : 2 * middle * (2 * middle) * den = middle ^ 2 * den * 4 := by ring
  unfold markedRoot
  split
  · rename_i exact
    have root : floorRoot (num * 16 / den) ≤ 2 * middle ↔ 4 * num ≤ middle ^ 2 * den := by
      rw [← Nat.mul_self_le_mul_self_iff, ← Nat.mul_le_mul_right_iff positive, exact, square]
      omega
    rw [← root]
    omega
  · rename_i inexact
    have different : num * 16 ≠ 2 * middle * (2 * middle) * den := by
      intro same
      have root : floorRoot (num * 16 / den) = 2 * middle := by
        obtain ⟨lower, upper⟩ := floorRoot_spec (num * 16 / den)
        rw [same, Nat.mul_div_cancel _ positive] at lower upper ⊢
        have below := Nat.mul_self_le_mul_self_iff.mp lower
        have above := Nat.mul_self_lt_mul_self_iff.mp upper
        omega
      exact inexact (by rw [root, same])
    have root : floorRoot (num * 16 / den) < 2 * middle ↔ 4 * num ≤ middle ^ 2 * den := by
      rw [floorRoot_lt_iff, Nat.div_lt_iff_lt_mul positive]
      omega
    rw [← root]
    omega

theorem isNearestRoot_roundUnits (positive : 0 < den) :
    IsNearestRoot (roundUnits (markedRoot num den) 8) num den := by
  have nearest := isNearest_roundUnits (markedRoot num den) (by decide : 0 < 8)
  refine ⟨?_, ?_, ?_⟩
  · intro other grid lt
    have half := nearest.below other grid lt
    exact (le_markedRoot_iff positive).mp (by omega)
  · intro other grid lt
    have half := nearest.above other grid lt
    exact (markedRoot_le_iff positive).mp (by omega)
  · intro other grid different tie
    have lower := (le_markedRoot_iff positive).mpr (Nat.le_of_eq tie)
    have upper := (markedRoot_le_iff positive).mpr (Nat.le_of_eq tie.symm)
    exact nearest.even other grid different (by omega)

end Marked

end SampledMetrics.Binary64
