import SampledMetrics.Proofs.Binary64.ErrorFree
import SampledMetrics.Proofs.Statistics.Deviation
import SampledMetrics.Proofs.Statistics.Sum
/-!
The expansion behind a sum.  Its parts together are the exact sum, and each is less than half of every power
of two that divides a later one, so that all but the last are less than half of its last place.  Main
statement: the sum of finite numbers, once given, is finite and their exact sum rounded once.
-/

set_option autoImplicit false
set_option relaxedAutoImplicit false

namespace SampledMetrics.Statistics

open Binary64 (ceiling greatest limit spacing roundUnits roundSigned OnGrid)

private theorem place?_twoSum {x y : Binary64} {u v : Int} (hx : x.place? = some (.whole u))
    (hy : y.place? = some (.whole v)) (finite : (x.add y).isFinite) :
    (twoSum x y).1.place? = some (.whole (roundSigned (u + v) 1)) ∧
      (twoSum x y).2.place? = some (.whole (u + v - roundSigned (u + v) 1)) := by
  rw [Binary64.isFinite_add hx hy, decide_eq_true_iff] at finite
  refine ⟨twoSum_fst x y ▸ Binary64.place?_add hx hy finite, ?_⟩
  have order := Binary64.smaller_iff hx hy
  unfold twoSum
  by_cases smaller : x.smaller y
  · simp only [smaller, if_true]
    rw [Int.add_comm u v] at finite ⊢
    exact Binary64.place?_lesser_sub hy hx (Nat.le_of_lt (order.mp smaller)) finite
  · simp only [smaller, if_false, Bool.false_eq_true]
    exact Binary64.place?_lesser_sub hx hy (Nat.le_of_not_lt (order.not.mp smaller)) finite

private theorem isNonzero_iff {x : Binary64} {u : Int} (place : x.place? = some (.whole u)) :
    x.isNonzero ↔ u ≠ 0 := by
  obtain ⟨negative, magnitude, rfl, rfl⟩ := Binary64.place?_eq_whole_iff.mp place
  rw [← Int.natAbs_ne_zero, Binary64.natAbs_signedUnits]
  exact decide_eq_true_iff

private theorem eq_zero_of_not_isNonzero {x : Binary64} {u : Int} (place : x.place? = some (.whole u))
    (none : x.isNonzero = false) : u = 0 := by
  have zero := (isNonzero_iff place).not.mp (by rw [none]; exact Bool.false_ne_true)
  omega

/-- Parts that stand on top of each other: from a power of two that divides them, each one is less than half
of the power of two from which the later ones begin. -/
inductive Stacked : Nat → List Binary64 → Prop
  | nil {level : Nat} : Stacked level []
  | cons {level next : Nat} {part : Binary64} {rest : List Binary64} {u : Int}
      (place : part.place? = some (.whole u)) (nonzero : u ≠ 0) (multiple : ((2 ^ level : Nat) : Int) ∣ u)
      (less : 2 * u.natAbs < 2 ^ next) (later : Stacked next rest) : Stacked level (part :: rest)

def partsSum (parts : List Binary64) : Int :=
  total (parts.map exactUnits)

section Levels

variable {level next : Nat} {parts : List Binary64} {u v r : Int}

private theorem pow_le_natAbs (nonzero : u ≠ 0) (multiple : ((2 ^ level : Nat) : Int) ∣ u) : 2 ^ level ≤ u.natAbs :=
  Nat.le_of_dvd (Int.natAbs_pos.mpr nonzero) (Int.natCast_dvd.mp multiple)

private theorem level_lt (nonzero : u ≠ 0) (multiple : ((2 ^ level : Nat) : Int) ∣ u)
    (less : 2 * u.natAbs < 2 ^ next) : level + 1 < next := by
  have large := pow_le_natAbs nonzero multiple
  refine (Nat.pow_lt_pow_iff_right (by decide : 1 < 2)).mp ?_
  rw [Nat.pow_succ]
  omega

theorem Stacked.mono (stacked : Stacked next parts) (le : level ≤ next) : Stacked level parts := by
  cases stacked with
  | nil => exact .nil
  | cons place nonzero multiple less later =>
    have coarser := Int.natCast_dvd_natCast.mpr (Nat.pow_dvd_pow 2 le)
    exact .cons place nonzero (Int.dvd_trans coarser multiple) less later

/-- What rounding takes away from a sum is less than half of a power of two that divides the rounded one,
also when it is half a step, since then the rounded sum is even. -/
private theorem exists_level (grid : OnGrid u) (less : 2 * v.natAbs < 2 ^ next) :
    ∃ middle ≤ next, ((2 ^ middle : Nat) : Int) ∣ roundSigned (u + v) 1 ∧
      2 * (u + v - roundSigned (u + v) 1).natAbs < 2 ^ middle := by
  have near := Binary64.natAbs_rounded_sub_sum_le grid v
  have half := Binary64.two_mul_natAbs_roundSigned_sub_le (u + v)
  have flipped : (u + v - roundSigned (u + v) 1).natAbs = (roundSigned (u + v) 1 - (u + v)).natAbs := by
    omega
  rw [flipped]
  obtain ⟨step, same⟩ := Binary64.exists_spacing_eq (u + v).natAbs
  obtain ⟨own, multiple, small⟩ : ∃ own, ((2 ^ own : Nat) : Int) ∣ roundSigned (u + v) 1 ∧
      2 * (roundSigned (u + v) 1 - (u + v)).natAbs < 2 ^ own := by
    rcases Nat.lt_or_eq_of_le half with below | tie
    · exact ⟨step, same ▸ Binary64.spacing_dvd_roundSigned (u + v), same ▸ below⟩
    · have even := Binary64.two_mul_spacing_dvd_roundSigned tie
      have double : 2 * spacing (u + v).natAbs = 2 ^ (step + 1) := by
        rw [same, Nat.pow_succ, Nat.mul_comm]
      rw [double] at even
      refine ⟨step + 1, even, ?_⟩
      rw [tie, same]
      exact Nat.pow_lt_pow_right (by decide) (Nat.lt_succ_self step)
  rcases Nat.le_total own next with le | ge
  · exact ⟨own, le, multiple, small⟩
  · have coarser := Int.natCast_dvd_natCast.mpr (Nat.pow_dvd_pow 2 ge)
    exact ⟨next, Nat.le_refl _, Int.dvd_trans coarser multiple, by omega⟩

end Levels

section Extend

variable {x part : Binary64} {parts rest : List Binary64} {level : Nat} {u : Int}

private theorem partsSum_cons (part : Binary64) (rest : List Binary64) :
    partsSum (part :: rest) = exactUnits part + partsSum rest := rfl

private theorem extend_nil (finite : x.isFinite) : extend [] x = if x.isNonzero then [x] else [] := by
  unfold extend absorb
  cases nonzero : x.isNonzero <;> simp [nonzero, finite]

private theorem extend_cons (finite : (absorb (x.add part) rest).2.isFinite) :
    extend (part :: rest) x =
      if (twoSum x part).2.isNonzero then (twoSum x part).2 :: extend rest (x.add part)
      else extend rest (x.add part) := by
  rw [← twoSum_fst] at finite ⊢
  unfold extend
  rw [absorb]
  dsimp only
  cases (absorb (twoSum x part).1 rest).2.isNonzero <;> cases (twoSum x part).2.isNonzero <;>
    simp [finite]

theorem Stacked.extend (stacked : Stacked level parts) (place : x.place? = some (.whole u))
    (multiple : ((2 ^ level : Nat) : Int) ∣ u) (adds : addsUp x parts) :
    Stacked level (extend parts x) ∧ partsSum (extend parts x) = u + partsSum parts := by
  induction parts generalizing x u level with
  | nil =>
    rw [extend_nil (Binary64.isFinite_iff.mpr ⟨u, place⟩)]
    cases nonzero : x.isNonzero with
    | false =>
      rw [eq_zero_of_not_isNonzero place nonzero]
      exact ⟨.nil, rfl⟩
    | true =>
      have less : 2 * u.natAbs < 2 ^ (2 * u.natAbs) := Nat.lt_two_pow_self
      refine ⟨.cons place ((isNonzero_iff place).mp nonzero) multiple less .nil, ?_⟩
      rw [if_pos rfl, partsSum_cons, exactUnits_eq_of_place? place]
  | cons part rest ih =>
    cases stacked with
    | @cons _ next _ _ v part_place nonzero part_multiple less later =>
      obtain ⟨finite, adds⟩ := Bool.and_eq_true_iff.mp adds
      obtain ⟨high, low⟩ := place?_twoSum place part_place finite
      rw [twoSum_fst] at high
      have top : (absorb (x.add part) rest).2.isFinite := (isFinite_absorb _ rest).mpr ⟨finite, adds⟩
      rw [extend_cons top, partsSum_cons, exactUnits_eq_of_place? part_place]
      have whole := Int.dvd_add multiple part_multiple
      cases lost : (twoSum x part).2.isNonzero with
      | false =>
        have exact := eq_zero_of_not_isNonzero low lost
        have deeper := later.mono (Nat.le_of_succ_le (Nat.le_of_lt (level_lt nonzero part_multiple less)))
        obtain ⟨stacked, sum⟩ := ih deeper high (Binary64.pow_dvd_roundSigned whole) adds
        refine ⟨stacked, ?_⟩
        rw [if_neg Bool.false_ne_true, sum]
        omega
      | true =>
        obtain ⟨middle, le, high_multiple, small⟩ :=
          exists_level (Binary64.onGrid_of_place? place) (v := v) less
        obtain ⟨stacked, sum⟩ := ih (later.mono le) high high_multiple adds
        have low_multiple := Int.dvd_sub whole (Binary64.pow_dvd_roundSigned whole)
        refine ⟨.cons low ((isNonzero_iff low).mp lost) low_multiple small stacked, ?_⟩
        rw [if_pos rfl, partsSum_cons, exactUnits_eq_of_place? low, sum]
        omega

end Extend

section Bound

variable {parts : List Binary64} {level next : Nat} {u r : Int}

private theorem two_mul_natAbs_add_lt (nonzero : u ≠ 0) (multiple : ((2 ^ level : Nat) : Int) ∣ u)
    (less : 2 * u.natAbs < 2 ^ next) (small : 2 * r.natAbs < 2 ^ level) :
    2 * (r + u).natAbs < 2 ^ next := by
  have deep := level_lt nonzero multiple less
  have multiple' : 2 ^ level ∣ 2 * u.natAbs := Nat.dvd_mul_left_of_dvd (Int.natCast_dvd.mp multiple) 2
  have gap := Binary64.add_le_of_dvd_of_lt multiple' (Nat.pow_dvd_pow 2 (by omega)) less
  omega

private theorem natAbs_le_greatest (grid : OnGrid u) : u.natAbs ≤ greatest := by
  refine Nat.le_of_not_lt fun beyond => ?_
  have step := Binary64.add_spacing_le Binary64.spacing_dvd_greatest grid.2 beyond
  rw [Binary64.spacing_greatest, Binary64.greatest_add_step] at step
  exact Nat.not_lt_of_le step grid.1

private theorem pow_dvd_ceiling (lt : 2 ^ level < ceiling) : 2 ^ level ∣ ceiling := by
  unfold ceiling at lt ⊢
  generalize Binary64.ceilingExponent = top at lt ⊢
  exact Nat.pow_dvd_pow 2 (Nat.le_of_lt ((Nat.pow_lt_pow_iff_right (by decide)).mp lt))

private theorem natAbs_add_lt_limit (grid : OnGrid u) (nonzero : u ≠ 0) (multiple : ((2 ^ level : Nat) : Int) ∣ u)
    (small : 2 * r.natAbs < 2 ^ level) : (r + u).natAbs < limit := by
  have half := Binary64.greatest_add_half
  have full := Binary64.greatest_add_step
  generalize 2044 = shift at half full
  rw [Nat.pow_eq] at half full
  rcases Nat.le_total (shift + 1) level with above | below
  · have steps := Nat.pow_le_pow_right (by decide : 0 < 2) above
    have range := Nat.lt_of_le_of_lt (pow_le_natAbs nonzero multiple) grid.1
    have gap := Binary64.add_le_of_dvd_of_lt (Int.natCast_dvd.mp multiple) (pow_dvd_ceiling range) grid.1
    rw [Nat.pow_succ] at steps
    omega
  · have steps := Nat.pow_le_pow_right (by decide : 0 < 2) below
    have most := natAbs_le_greatest grid
    rw [Nat.pow_succ] at steps
    omega

private theorem Stacked.natAbs_lt_limit (stacked : Stacked level parts) (some : parts ≠ [])
    (small : 2 * r.natAbs < 2 ^ level) : (r + partsSum parts).natAbs < limit := by
  induction stacked generalizing r with
  | nil => exact absurd rfl some
  | @cons level next part rest u place nonzero multiple less later ih =>
    rw [partsSum_cons, exactUnits_eq_of_place? place, ← Int.add_assoc]
    cases rest with
    | nil =>
      rw [partsSum, List.map_nil, total, Int.add_zero]
      exact natAbs_add_lt_limit (Binary64.onGrid_of_place? place) nonzero multiple small
    | cons other rest =>
      exact ih (List.cons_ne_nil _ _) (two_mul_natAbs_add_lt nonzero multiple less small)

end Bound

/-- A total of finite numbers: stacked parts that are the exact sum, and nothing kept apart. -/
structure Total.Sound (t : Total) : Prop where
  stacked : Stacked 0 t.parts
  exact : partsSum t.parts = t.units
  ordinary : t.special.isNonzero = false

theorem Total.Sound.empty : Total.empty.Sound where
  stacked := .nil
  exact := rfl
  ordinary := rfl

section Run

variable {t next : Total} {x : Binary64} {reals : List Binary64}

theorem Total.Sound.add (sound : t.Sound) (finite : x.isFinite) (added : t.add x = .ok next) :
    next.Sound ∧ next.units = t.units + exactUnits x := by
  by_cases adds : addsUp x t.parts
  · rw [Total.add_of_addsUp finite adds] at added
    obtain rfl := Except.ok.inj added
    obtain ⟨units, place⟩ := Binary64.isFinite_iff.mp finite
    obtain ⟨stacked, sum⟩ := sound.stacked.extend place (Int.one_dvd units) adds
    refine ⟨⟨stacked, ?_, sound.ordinary⟩, rfl⟩
    rw [sum, sound.exact, exactUnits_eq_of_place? place, Int.add_comm]
  · rw [Total.add_of_not_addsUp finite adds] at added
    contradiction

theorem Total.Sound.run (sound : t.Sound) (finite : ∀ x ∈ reals, x.isFinite)
    (ran : totalFrom t (reals.map .float) = .ok next) :
    next.Sound ∧ next.units = t.units + partsSum reals := by
  induction reals generalizing t with
  | nil =>
    obtain rfl := Except.ok.inj ran
    exact ⟨sound, (Int.add_zero _).symm⟩
  | cons x rest ih =>
    obtain ⟨here, later⟩ := List.forall_mem_cons.mp finite
    rw [List.map_cons] at ran
    cases added : t.add x with
    | error failure =>
      rw [totalFrom_cons_error (Number.toBinary64?_float x) added] at ran
      contradiction
    | ok middle =>
      rw [totalFrom_cons_ok (Number.toBinary64?_float x) added] at ran
      obtain ⟨middle_sound, units⟩ := sound.add here added
      obtain ⟨next_sound, sum⟩ := ih middle_sound later ran
      refine ⟨next_sound, ?_⟩
      rw [sum, units, partsSum_cons, Int.add_assoc]

private theorem Total.Sound.natAbs_units_lt (sound : t.Sound) : t.units.natAbs < limit := by
  rw [← sound.exact]
  by_cases none : t.parts = []
  · rw [none]
    exact Binary64.limit_pos
  · have bound := sound.stacked.natAbs_lt_limit (r := 0) none (by decide)
    rwa [Int.zero_add] at bound

theorem Total.Sound.result (sound : t.Sound) :
    ∃ sum, t.result = .ok sum ∧ sum.place? = some (.whole (roundSigned t.units 1)) := by
  unfold Total.result
  rw [sound.ordinary, if_neg Bool.false_ne_true]
  refine ⟨_, rfl, Binary64.place?_ofUnits (Or.inr rfl) ?_⟩
  rw [Binary64.roundUnits_lt_ceiling_iff Nat.one_pos, Nat.mul_one]
  exact sound.natAbs_units_lt

end Run

theorem place?_sum {reals : List Binary64} {result : Binary64} (finite : ∀ x ∈ reals, x.isFinite)
    (given : sum ((reals.map Number.float).map .number) = .ok result) :
    result.place? = some (.whole (roundSigned (partsSum reals) 1)) := by
  obtain ⟨last, ran, given⟩ := Failure.bind_eq_ok_iff.mp given
  obtain ⟨sound, units⟩ := Total.Sound.empty.run finite ran
  obtain ⟨rounded, answer, place⟩ := sound.result
  obtain rfl := Except.ok.inj (given.symm.trans answer)
  have exact : last.units = partsSum reals := units.trans (Int.zero_add _)
  rwa [exact] at place

end SampledMetrics.Statistics
