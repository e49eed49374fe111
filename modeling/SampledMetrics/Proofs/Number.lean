import SampledMetrics.Number
import SampledMetrics.Proofs.Binary64.Range
/-!
Numbers of both kinds by their exact values.  A number that fits binary64 is converted without being
moved, and the difference of two such numbers is rounded once, whether the integers among them were
subtracted exactly and rounded on use or converted first.
-/

set_option autoImplicit false
set_option relaxedAutoImplicit false

namespace SampledMetrics.Number

open Binary64 (unitsPerOne roundSigned OnGrid)

/-- The exact value in units; zero for what is not finite. -/
def units (x : Number) : Int :=
  match x.place? with
  | some (.whole value) => value
  | _ => 0

/-- Whether conversion to binary64 leaves the number where it is: an integer of at most 53 bits, or a
finite binary64 number. -/
def fits : Number → Bool
  | .int value => value.natAbs ≤ Nat.pow 2 53
  | .float value => value.isFinite

theorem toBinary64?_int (value : Int) :
    (Number.int value).toBinary64? =
      if (Binary64.ofInt value).isFinite then some (Binary64.ofInt value) else none := by
  simp only [toBinary64?]

@[simp]
theorem toBinary64?_float (value : Binary64) : (Number.float value).toBinary64? = some value := by
  simp only [toBinary64?]

private theorem units_of_place? {x : Number} {value : Int} (place : x.place? = some (.whole value)) :
    x.units = value := by
  unfold units
  rw [place]

@[simp]
theorem units_int (value : Int) : (Number.int value).units = value * unitsPerOne := by
  simp only [units, place?]

theorem fits_natCast (value : Nat) :
    (Number.int value).fits = decide (value ≤ Nat.pow 2 53) := by
  simp only [fits, Int.natAbs_natCast]

theorem same_iff {x y : Number} :
    x.same y ↔ ∃ place, x.place? = some place ∧ y.place? = some place := by
  unfold same
  cases x.place? <;> cases y.place? <;> simp [eq_comm]

theorem same_comm (x y : Number) : x.same y = y.same x := by
  rw [Bool.eq_iff_iff, same_iff, same_iff]
  exact exists_congr fun place => and_comm

theorem same_trans {x y z : Number} (xy : x.same y) (yz : y.same z) : x.same z := by
  obtain ⟨place, hx, hy⟩ := same_iff.mp xy
  obtain ⟨place', hy', hz⟩ := same_iff.mp yz
  obtain rfl := Option.some.inj (hy.symm.trans hy')
  exact same_iff.mpr ⟨place, hx, hz⟩

theorem place?_of_fits {x : Number} (fits : x.fits) : x.place? = some (.whole x.units) := by
  cases x with
  | int value => simp only [place?, units_int]
  | float value =>
    obtain ⟨units, place⟩ := Binary64.isFinite_iff.mp fits
    rw [units_of_place? (x := .float value) place]
    exact place

theorem same_self {x : Number} (fits : x.fits) : x.same x :=
  same_iff.mpr ⟨_, place?_of_fits fits, place?_of_fits fits⟩

theorem isNaN_of_fits {x : Number} (fits : x.fits) : x.isNaN = false := by
  cases x with
  | int value => rfl
  | float value => cases value <;> simp_all [Number.fits, isNaN, Binary64.isNaN, Binary64.isFinite]

theorem toBinary64?_of_fits {x : Number} (fits : x.fits) :
    ∃ real, x.toBinary64? = some real ∧ real.place? = some (.whole x.units) := by
  cases x with
  | int value =>
    have place := Binary64.place?_ofInt_exact (of_decide_eq_true fits)
    refine ⟨Binary64.ofInt value, ?_, place⟩
    rw [toBinary64?_int, if_pos (Binary64.isFinite_iff.mpr ⟨_, place⟩)]
  | float value => exact ⟨value, rfl, place?_of_fits fits⟩

theorem onGrid_of_fits {x : Number} (fits : x.fits) : OnGrid x.units := by
  obtain ⟨real, -, place⟩ := toBinary64?_of_fits fits
  exact Binary64.onGrid_of_place? place

section Combine

variable {exact : Int → Int → Int} {rounded : Binary64 → Binary64 → Binary64}

/-- Beside a binary64 number the other operand is converted. -/
theorem combine_float_left (x : Binary64) (y : Number) :
    combine exact rounded (.float x) y = y.toBinary64?.map fun real => .float (rounded x real) := by
  cases y with
  | int value =>
    cases converted : (Number.int value).toBinary64? <;>
      simp only [combine, converted, toBinary64?_float, Option.bind_eq_bind, Option.bind_some,
        Option.bind_none, Option.map_some, Option.map_none]
  | float value =>
    simp only [combine, toBinary64?_float, Option.bind_eq_bind, Option.bind_some, Option.map_some]

theorem combine_float_right (x : Number) (y : Binary64) :
    combine exact rounded x (.float y) = x.toBinary64?.map fun real => .float (rounded real y) := by
  cases x with
  | int value =>
    cases converted : (Number.int value).toBinary64? <;>
      simp only [combine, converted, toBinary64?_float, Option.bind_eq_bind, Option.bind_some,
        Option.bind_none, Option.map_some, Option.map_none]
  | float value =>
    simp only [combine, toBinary64?_float, Option.bind_eq_bind, Option.bind_some, Option.map_some]

end Combine

theorem int_sub_int (value value' : Int) :
    (Number.int value).sub (.int value') = some (.int (value - value')) := by
  simp only [sub, combine]

private theorem isFinite_ofInt_of_any {value : Int}
    (finite : (Number.int value).toBinary64?.any Binary64.isFinite) :
    (Binary64.ofInt value).isFinite := by
  rw [toBinary64?_int] at finite
  cases rounded : (Binary64.ofInt value).isFinite with
  | true => rfl
  | false => simp [rounded] at finite

theorem float_sub {x real : Binary64} {y : Number} (converted : y.toBinary64? = some real) :
    (Number.float x).sub y = some (.float (x.sub real)) := by
  rw [sub, combine_float_left, converted, Option.map_some]

theorem float_mul {x real : Binary64} {y : Number} (converted : y.toBinary64? = some real) :
    (Number.float x).mul y = some (.float (x.mul real)) := by
  rw [mul, combine_float_left, converted, Option.map_some]

theorem sub_float {x : Number} {real y : Binary64} (converted : x.toBinary64? = some real) :
    x.sub (.float y) = some (.float (real.sub y)) := by
  rw [sub, combine_float_right, converted, Option.map_some]

theorem add_float {x : Number} {real y : Binary64} (converted : x.toBinary64? = some real) :
    x.add (.float y) = some (.float (real.add y)) := by
  rw [add, combine_float_right, converted, Option.map_some]

/-- Whether the number is below the limit of binary64, as far as it is an integer. -/
def inRange : Number → Bool
  | .int value => value.natAbs < Binary64.integerLimit
  | .float _ => true

theorem inRange_int (value : Int) :
    (Number.int value).inRange ↔ value.natAbs < Binary64.integerLimit := by
  simp only [inRange, decide_eq_true_eq]

theorem isSome_toBinary64? (x : Number) : x.toBinary64?.isSome = x.inRange := by
  cases x with
  | float value => simp only [toBinary64?_float, inRange, Option.isSome_some]
  | int value =>
    have range := (Binary64.isFinite_ofInt_iff value).trans (inRange_int value).symm
    rw [toBinary64?_int]
    split
    · rename_i finite
      rw [Option.isSome_some, range.mp finite]
    · rename_i infinite
      rw [Option.isSome_none]
      exact (Bool.eq_false_iff.mpr fun below => infinite (range.mpr below)).symm

theorem inRange_of_fits {x : Number} (fits : x.fits) : x.inRange := by
  obtain ⟨real, converted, -⟩ := toBinary64?_of_fits fits
  rw [← isSome_toBinary64?, converted]
  rfl

theorem toBinary64?_natCast {count : Nat} (range : (Number.int count).inRange) :
    ∃ real, (Number.int count).toBinary64? = some real
      ∧ real.place? = some (.whole (Binary64.roundUnits (count * unitsPerOne) 1 : Nat)) := by
  have finite : (Binary64.ofInt count).isFinite :=
    (Binary64.isFinite_ofInt_iff count).mpr ((inRange_int count).mp range)
  refine ⟨Binary64.ofInt count, ?_, ?_⟩
  · rw [toBinary64?_int, if_pos finite]
  · rw [Binary64.place?_ofInt finite, ← Int.natCast_mul, Binary64.roundSigned_natCast]

theorem toBinary64?_sub {x y : Number} (hx : x.fits) (hy : y.fits)
    (finite : ((x.sub y).bind toBinary64?).any Binary64.isFinite) :
    ∃ distance real, x.sub y = some distance ∧ distance.toBinary64? = some real
      ∧ real.place? = some (.whole (roundSigned (x.units - y.units) 1)) := by
  obtain ⟨a, converted, place⟩ := toBinary64?_of_fits hx
  obtain ⟨b, converted', place'⟩ := toBinary64?_of_fits hy
  have mixed : x.sub y = some (.float (a.sub b)) → ∃ distance real, x.sub y = some distance ∧
      distance.toBinary64? = some real ∧
      real.place? = some (.whole (roundSigned (x.units - y.units) 1)) := by
    intro difference
    rw [difference, Option.bind_some, toBinary64?_float, Option.any_some,
      Binary64.isFinite_sub place place', decide_eq_true_iff] at finite
    exact ⟨_, _, difference, toBinary64?_float _, Binary64.place?_sub place place' finite⟩
  cases x with
  | float value =>
    obtain rfl : value = a := Option.some.inj converted
    exact mixed (float_sub converted')
  | int value =>
    cases y with
    | float value' =>
      obtain rfl : value' = b := Option.some.inj converted'
      exact mixed (sub_float converted)
    | int value' =>
      rw [int_sub_int, Option.bind_some] at finite
      have small := isFinite_ofInt_of_any finite
      refine ⟨.int (value - value'), Binary64.ofInt (value - value'), int_sub_int _ _, ?_, ?_⟩
      · rw [toBinary64?_int, if_pos small]
      · rw [units_int, units_int, ← Int.sub_mul]
        exact Binary64.place?_ofInt small

end SampledMetrics.Number
