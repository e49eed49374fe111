import SampledMetrics.Proofs.Binary64.Nearest
/-!
What rounding takes away from a sum.  A sum of points of the grid is rounded to a multiple of every power of
two that divides it, and to an even one when it is half way.  Main statements: when the greater of two numbers
is taken from their rounded sum, and that from the lesser, nothing is rounded, so that the parts of a sum
together are the exact sum.
-/

set_option autoImplicit false
set_option relaxedAutoImplicit false

namespace SampledMetrics.Binary64

section Whole

variable {n : Int} {exponent : Nat}

theorem exists_spacing_eq (units : Nat) : ∃ exponent, spacing units = 2 ^ exponent :=
  ⟨units.log2 - 52, Nat.pow_eq⟩

private theorem spacing_dvd_or (units exponent : Nat) :
    spacing units ∣ 2 ^ exponent ∨ 2 ^ (exponent + 1) ∣ spacing units := by
  obtain ⟨step, same⟩ := exists_spacing_eq units
  rw [same]
  rcases Nat.lt_or_ge exponent step with more | fewer
  · exact Or.inr (Nat.pow_dvd_pow 2 more)
  · exact Or.inl (Nat.pow_dvd_pow 2 fewer)

private theorem spacing_dvd_of_pow_dvd {units : Nat} (multiple : 2 ^ exponent ∣ units)
    (narrow : units ≤ 2 ^ 53 * 2 ^ exponent) : spacing units ∣ units := by
  obtain ⟨significand, rfl⟩ := multiple
  rw [Nat.mul_comm] at narrow ⊢
  exact spacing_dvd_of_le exponent (Nat.le_of_mul_le_mul_right narrow (Nat.two_pow_pos _))

theorem spacing_dvd_mul_pow {units : Nat} (grid : spacing units ∣ units) (shift : Nat) :
    spacing (units * 2 ^ shift) ∣ units * 2 ^ shift := by
  obtain ⟨exponent, step⟩ := exists_spacing_eq units
  have narrow := Nat.le_of_lt (lt_spacing_mul units)
  rw [step, Nat.pow_eq] at narrow
  have multiple : 2 ^ (exponent + shift) ∣ units * 2 ^ shift := by
    rw [Nat.pow_add]
    exact Nat.mul_dvd_mul (step ▸ grid) (Nat.dvd_refl _)
  refine spacing_dvd_of_pow_dvd multiple ?_
  rw [Nat.pow_add, ← Nat.mul_assoc, Nat.mul_comm (2 ^ 53)]
  exact Nat.mul_le_mul_right _ narrow

private theorem spacing_le_of_lt {units : Nat} (lt : units < 2 ^ (exponent + 53)) : spacing units ≤ 2 ^ exponent := by
  refine Nat.le_of_dvd (Nat.two_pow_pos _) (spacing_dvd_pow ?_)
  rcases Nat.eq_zero_or_pos units with rfl | positive
  · exact Nat.zero_le _
  · have bits := (Nat.log2_lt (Nat.ne_of_gt positive)).mpr lt
    omega

theorem spacing_dvd_roundSigned (n : Int) : (spacing n.natAbs : Int) ∣ roundSigned n 1 := by
  have multiple := spacing_dvd_rounded n.natAbs 1
  rwa [Nat.div_one, ← natAbs_roundSigned, ← Int.natCast_dvd] at multiple

theorem two_mul_natAbs_roundSigned_sub_le (n : Int) :
    2 * (roundSigned n 1 - n).natAbs ≤ spacing n.natAbs := by
  have above := two_mul_roundUnits_le n.natAbs Nat.one_pos
  have below := two_mul_le_roundUnits n.natAbs Nat.one_pos
  rw [Nat.div_one] at above below
  unfold roundSigned
  split <;> omega

theorem two_mul_spacing_dvd_roundSigned (tie : 2 * (roundSigned n 1 - n).natAbs = spacing n.natAbs) :
    ((2 * spacing n.natAbs : Nat) : Int) ∣ roundSigned n 1 := by
  have even := two_mul_spacing_dvd_roundUnits n.natAbs Nat.one_pos (by
    rw [Nat.div_one]
    unfold roundSigned at tie
    split at tie <;> omega)
  rwa [Nat.div_one, ← natAbs_roundSigned, ← Int.natCast_dvd] at even

private theorem roundSigned_of_spacing_dvd (grid : spacing n.natAbs ∣ n.natAbs) : roundSigned n 1 = n := by
  have rounded := roundSigned_mul Nat.one_pos grid
  rwa [Int.natCast_one, Int.mul_one] at rounded

theorem pow_dvd_roundSigned (multiple : ((2 ^ exponent : Nat) : Int) ∣ n) :
    ((2 ^ exponent : Nat) : Int) ∣ roundSigned n 1 := by
  rcases spacing_dvd_or n.natAbs exponent with finer | coarser
  · rw [roundSigned_of_spacing_dvd (Nat.dvd_trans finer (Int.natCast_dvd.mp multiple))]
    exact multiple
  · have step := Nat.dvd_trans (Nat.pow_dvd_pow 2 (Nat.le_succ exponent)) coarser
    exact Int.dvd_trans (Int.natCast_dvd_natCast.mpr step) (spacing_dvd_roundSigned n)

end Whole

section Sum

variable {a b : Int}

private theorem natAbs_rounded_sub_lt (ha : OnGrid a) (le : b.natAbs ≤ a.natAbs)
    (finite : roundUnits (a + b).natAbs 1 < ceiling) : (roundSigned (a + b) 1 - a).natAbs < ceiling := by
  have size := natAbs_roundSigned (a + b) 1
  have zero := roundSigned_zero 1
  have itself : roundSigned a 1 = a := roundSigned_one ha
  have small := ha.1
  rcases Int.le_total 0 a with positive | negative <;> rcases Int.le_total 0 b with more | less
  · have mono := roundSigned_mono Nat.one_pos (by omega : a ≤ a + b)
    omega
  · have mono := roundSigned_mono Nat.one_pos (by omega : a + b ≤ a)
    have mono' := roundSigned_mono Nat.one_pos (by omega : 0 ≤ a + b)
    omega
  · have mono := roundSigned_mono Nat.one_pos (by omega : a ≤ a + b)
    have mono' := roundSigned_mono Nat.one_pos (by omega : a + b ≤ 0)
    omega
  · have mono := roundSigned_mono Nat.one_pos (by omega : a + b ≤ a)
    omega

theorem natAbs_rounded_sub_sum_le (ha : OnGrid a) (b : Int) :
    (roundSigned (a + b) 1 - (a + b)).natAbs ≤ b.natAbs := by
  have nearest := natAbs_roundSigned_sub_le (a + b) ha.2
  omega

/-- When both operands have the same step the sum has at most the next one, so that rounding moves it by no
more than the lesser operand is below the next power of two. -/
private theorem natAbs_rounded_sub_le {exponent : Nat} (step : spacing b.natAbs = 2 ^ exponent)
    (multiple : 2 ^ exponent ∣ b.natAbs) (finer : spacing a.natAbs ∣ 2 ^ exponent) (le : b.natAbs ≤ a.natAbs) :
    (roundSigned (a + b) 1 - a).natAbs ≤ 2 ^ 53 * 2 ^ exponent := by
  have narrow := lt_spacing_mul b.natAbs
  have narrow_a := lt_spacing_mul a.natAbs
  have step_a := Nat.mul_le_mul_right (Nat.pow 2 53) (Nat.le_of_dvd (Nat.two_pow_pos exponent) finer)
  rw [step, Nat.pow_eq] at narrow
  have bound : (a + b).natAbs < 2 ^ (exponent + 1 + 53) := by
    have power : 2 ^ (exponent + 1 + 53) = 2 * (2 ^ exponent * Nat.pow 2 53) := by
      rw [Nat.pow_add, Nat.pow_succ, Nat.pow_eq]
      omega
    rw [Nat.pow_eq] at step_a narrow_a power
    omega
  have small : spacing (a + b).natAbs ≤ 2 ^ (exponent + 1) := spacing_le_of_lt bound
  have half := two_mul_natAbs_roundSigned_sub_le (a + b)
  have last : b.natAbs + 2 ^ exponent ≤ 2 ^ exponent * 2 ^ 53 :=
    add_le_of_dvd_of_lt multiple (Nat.dvd_mul_right _ _) narrow
  rw [Nat.pow_succ] at small
  omega

private theorem spacing_dvd_rounded_sub (ha : OnGrid a) (hb : OnGrid b) (le : b.natAbs ≤ a.natAbs) :
    spacing (roundSigned (a + b) 1 - a).natAbs ∣ (roundSigned (a + b) 1 - a).natAbs := by
  obtain ⟨exponent, step⟩ := exists_spacing_eq b.natAbs
  have multiple_b : 2 ^ exponent ∣ b.natAbs := step ▸ hb.2
  have multiple_a : 2 ^ exponent ∣ a.natAbs := step ▸ Nat.dvd_trans (spacing_dvd_spacing le) ha.2
  have multiple : ((2 ^ exponent : Nat) : Int) ∣ a + b :=
    Int.dvd_add (Int.natCast_dvd.mpr multiple_a) (Int.natCast_dvd.mpr multiple_b)
  rcases spacing_dvd_or (a + b).natAbs exponent with finer | coarser
  · have exact := roundSigned_of_spacing_dvd (Nat.dvd_trans finer (Int.natCast_dvd.mp multiple))
    rw [exact, Int.add_comm, Int.add_sub_cancel]
    exact hb.2
  rcases spacing_dvd_or a.natAbs exponent with finer | coarser_a
  · have rounded := pow_dvd_roundSigned multiple
    exact spacing_dvd_of_pow_dvd
      (Int.natCast_dvd.mp (Int.dvd_sub rounded (Int.natCast_dvd.mpr multiple_a)))
      (natAbs_rounded_sub_le step multiple_b finer le)
  · have near := natAbs_rounded_sub_sum_le ha b
    have narrow := lt_spacing_mul b.natAbs
    have high := Int.dvd_trans (Int.natCast_dvd_natCast.mpr coarser) (spacing_dvd_roundSigned (a + b))
    have large := Int.natCast_dvd.mpr (Nat.dvd_trans coarser_a ha.2)
    refine spacing_dvd_of_pow_dvd (Int.natCast_dvd.mp (Int.dvd_sub high large)) ?_
    rw [step, Nat.pow_eq] at narrow
    rw [Nat.pow_succ]
    omega

private theorem onGrid_rounded_sub (ha : OnGrid a) (hb : OnGrid b) (le : b.natAbs ≤ a.natAbs)
    (finite : roundUnits (a + b).natAbs 1 < ceiling) : OnGrid (roundSigned (a + b) 1 - a) :=
  ⟨natAbs_rounded_sub_lt ha le finite, spacing_dvd_rounded_sub ha hb le⟩

private theorem onGrid_sum_sub_rounded (ha : OnGrid a) (hb : OnGrid b) (le : b.natAbs ≤ a.natAbs) :
    OnGrid (a + b - roundSigned (a + b) 1) := by
  have near := natAbs_rounded_sub_sum_le ha b
  have small : (a + b - roundSigned (a + b) 1).natAbs ≤ b.natAbs := by omega
  obtain ⟨exponent, step⟩ := exists_spacing_eq b.natAbs
  have multiple_a := Nat.dvd_trans (spacing_dvd_spacing le) ha.2
  have multiple : ((2 ^ exponent : Nat) : Int) ∣ a + b := by
    rw [← step]
    exact Int.dvd_add (Int.natCast_dvd.mpr multiple_a) (Int.natCast_dvd.mpr hb.2)
  have rest := Int.natCast_dvd.mp (Int.dvd_sub multiple (pow_dvd_roundSigned multiple))
  rw [← step] at rest
  exact ⟨Nat.lt_of_le_of_lt small hb.1, Nat.dvd_trans (spacing_dvd_spacing small) rest⟩

end Sum

section Parts

variable {x y large small : Binary64} {u v a b : Int}

private theorem place?_sub_of_onGrid (hx : x.place? = some (.whole u)) (hy : y.place? = some (.whole v))
    (grid : OnGrid (u - v)) : (x.sub y).place? = some (.whole (u - v)) := by
  have difference := place?_sub hx hy (by
    rw [roundUnits_one grid.2]
    exact grid.1)
  rwa [roundSigned_one grid] at difference

theorem place?_lesser_sub (ha : large.place? = some (.whole a)) (hb : small.place? = some (.whole b))
    (le : b.natAbs ≤ a.natAbs) (finite : roundUnits (a + b).natAbs 1 < ceiling) :
    (small.sub ((large.add small).sub large)).place?
      = some (.whole (a + b - roundSigned (a + b) 1)) := by
  have grid := onGrid_of_place? ha
  have grid' := onGrid_of_place? hb
  have high := place?_sub_of_onGrid (place?_add ha hb finite) ha (onGrid_rounded_sub grid grid' le finite)
  have rest : b - (roundSigned (a + b) 1 - a) = a + b - roundSigned (a + b) 1 := by omega
  have low := onGrid_sum_sub_rounded grid grid' le
  rw [← rest] at low ⊢
  exact place?_sub_of_onGrid hb high low

theorem smaller_iff (hx : x.place? = some (.whole u)) (hy : y.place? = some (.whole v)) :
    x.smaller y ↔ u.natAbs < v.natAbs := by
  obtain ⟨a, m, rfl, rfl⟩ := place?_eq_whole_iff.mp hx
  obtain ⟨b, n, rfl, rfl⟩ := place?_eq_whole_iff.mp hy
  rw [natAbs_signedUnits, natAbs_signedUnits]
  exact decide_eq_true_iff

end Parts

end SampledMetrics.Binary64
