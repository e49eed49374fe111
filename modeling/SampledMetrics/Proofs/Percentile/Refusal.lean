import SampledMetrics.Proofs.Binary64.Nearest
import SampledMetrics.Proofs.Failing
import SampledMetrics.Proofs.Snapshot.Percentile
/-!
Percentiles that a snapshot refuses.  The range is checked after the division by one hundred, so that the
rounded quotient decides.  Main statement: of the numbers outside 0 to 100 all are refused but two sorts, the
negative ones whose hundredth is rounded to zero, which stand for zero, and the integers whose hundredth is
beyond the range of binary64, which fail in the division.
-/

set_option autoImplicit false
set_option relaxedAutoImplicit false

namespace SampledMetrics

open Binary64 (unitsPerOne ceiling spacing roundUnits roundSigned)

namespace Binary64

variable {units : Int}

private theorem hundredth_negative_iff : roundSigned units 100 < 0 ↔ units < -50 := by
  have fifty : roundSigned (-50) 100 = 0 := by decide
  have more : roundSigned (-51) 100 = -1 := by decide
  constructor
  · intro negative
    refine Int.lt_of_not_ge fun few => ?_
    have rounded := roundSigned_mono (by decide : 0 < 100) few
    omega
  · intro below
    have rounded := roundSigned_mono (by decide : 0 < 100) (by omega : units ≤ -51)
    omega

private theorem after_hundred : spacing (100 * unitsPerOne) ≤ unitsPerOne ∧
    unitsPerOne < roundUnits (100 * unitsPerOne + spacing (100 * unitsPerOne)) 100 := by
  decide +kernel

private theorem one_lt_hundredth_iff (apart : ((100 * unitsPerOne : Nat) : Int) < units →
      ((100 * unitsPerOne + spacing (100 * unitsPerOne) : Nat) : Int) ≤ units) :
    (unitsPerOne : Int) < roundSigned units 100 ↔ ((100 * unitsPerOne : Nat) : Int) < units := by
  constructor
  · intro beyond
    refine Int.lt_of_not_ge fun le => ?_
    have rounded := roundSigned_mono (by decide : 0 < 100) le
    rw [roundSigned_natCast, Nat.mul_comm, roundUnits_mul (by decide) spacing_dvd_unitsPerOne] at rounded
    omega
  · intro above
    have next := after_hundred.2
    have rounded := roundSigned_mono (by decide : 0 < 100) (apart above)
    rw [roundSigned_natCast] at rounded
    omega

end Binary64

namespace Number

/-- A negative number whose hundredth is rounded to zero: at most fifty of the least positive one. -/
def Vanishes (p : Number) : Prop :=
  ∃ units : Int, p.place? = some (.whole units) ∧ -50 ≤ units ∧ units < 0

/-- An integer whose hundredth is beyond the range. -/
def TooLarge (p : Number) : Prop :=
  ∃ value : Int, p = .int value ∧ 100 * Binary64.integerLimit ≤ value.natAbs

variable {p : Number} {units : Int}

private theorem onGrid_hundred : spacing (100 * unitsPerOne) ∣ 100 * unitsPerOne :=
  Binary64.spacing_dvd_mul_unitsPerOne (by decide)

private theorem apart_of_place? (place : p.place? = some (.whole units))
    (above : ((100 * unitsPerOne : Nat) : Int) < units) :
    ((100 * unitsPerOne + spacing (100 * unitsPerOne) : Nat) : Int) ≤ units := by
  cases p with
  | float x =>
    have grid := (Binary64.onGrid_of_place? place).2
    have step := Binary64.add_spacing_le onGrid_hundred grid (by omega)
    omega
  | int value =>
    obtain rfl := Place.whole.inj (Option.some.inj place)
    have more : 100 < value := by
      rw [Int.natCast_mul] at above
      exact Int.lt_of_mul_lt_mul_right above (Int.natCast_nonneg _)
    have product := Int.mul_le_mul_of_nonneg_right (by omega : 101 ≤ value) (Int.natCast_nonneg unitsPerOne)
    have narrow := Binary64.after_hundred.1
    omega

private theorem isValid_iff (place : p.place? = some (.whole units)) :
    Percentile.isValid p ↔ 0 ≤ units ∧ units ≤ ((100 * unitsPerOne : Nat) : Int) := by
  unfold Percentile.isValid
  rw [Bool.and_eq_true, le_iff_of_place? (x := .int 0) rfl place, le_iff_of_place? (y := .int 100) place rfl,
    Int.zero_mul, Int.natCast_mul]
  rfl

private theorem vanishes_iff (place : p.place? = some (.whole units)) : p.Vanishes ↔ -50 ≤ units ∧ units < 0 := by
  constructor
  · rintro ⟨here, placed, bounds⟩
    obtain rfl := Place.whole.inj (Option.some.inj (placed.symm.trans place))
    exact bounds
  · intro bounds
    exact ⟨units, place, bounds⟩

private theorem invalid_of_not_isFinite {x : Binary64} (infinite : x.isFinite = false) :
    Percentile.isValid (.float x) = false ∧ ¬ (Number.float x).Vanishes := by
  constructor
  · refine Bool.eq_false_iff.mpr fun valid => ?_
    obtain ⟨percentile, place, -⟩ := Snapshot.exists_place?_of_isValid valid
    rw [Binary64.isFinite_iff.mpr ⟨_, place⟩] at infinite
    contradiction
  · rintro ⟨units, place, -⟩
    rw [Binary64.isFinite_iff.mpr ⟨_, place⟩] at infinite
    contradiction

theorem place?_zero : (Number.int 0).place? = some (.whole 0) :=
  congrArg (fun here => some (Place.whole here)) (Int.zero_mul _)

private theorem not_tooLarge_of_place (place : p.place? = some (.whole units)) (few : units.natAbs ≤ 50) :
    ¬ p.TooLarge := by
  rintro ⟨value, rfl, large⟩
  obtain rfl := Place.whole.inj (Option.some.inj place)
  have many : 50 < Binary64.integerLimit := Nat.lt_trans (by decide) Binary64.pow_lt_integerLimit
  have product := Nat.le_mul_of_pos_right value.natAbs Binary64.unitsPerOne_pos
  rw [Binary64.natAbs_mul_unitsPerOne] at few
  omega

private theorem hundredth?_tooLarge (large : p.TooLarge) : p.hundredth? = none := by
  obtain ⟨value, rfl, large⟩ := large
  have infinite : (Binary64.ofRatio (value < 0) value.natAbs 100).isFinite = false := by
    rw [Binary64.isFinite_ofRatio]
    refine decide_eq_false fun finite => ?_
    have below := (Binary64.roundUnits_lt_ceiling_iff (by decide)).mp finite
    rw [Binary64.natAbs_mul_unitsPerOne, Binary64.limit_eq, Nat.mul_right_comm] at below
    have small := Nat.lt_of_mul_lt_mul_right below
    omega
  simp only [hundredth?, infinite, Bool.false_eq_true, if_false]

private theorem hundredth?_place (place : p.place? = some (.whole units)) (small : ¬ p.TooLarge) :
    ∃ q, p.hundredth? = some q ∧ q.place? = some (.whole (roundSigned units 100)) := by
  cases p with
  | float x =>
    have quotient := Snapshot.place?_hundredth place
    rw [Binary64.roundSigned_mul_mul _ _ Binary64.unitsPerOne_pos] at quotient
    exact ⟨x.div (Binary64.ofInt 100), rfl, quotient⟩
  | int value =>
    obtain rfl := Place.whole.inj (Option.some.inj place)
    have below : value.natAbs < 100 * Binary64.integerLimit :=
      Nat.lt_of_not_ge fun large => small ⟨value, rfl, large⟩
    have finite : (Binary64.ofRatio (value < 0) value.natAbs 100).isFinite := by
      rw [Binary64.isFinite_ofRatio, decide_eq_true_iff, Binary64.roundUnits_lt_ceiling_iff (by decide),
        Binary64.natAbs_mul_unitsPerOne, Binary64.limit_eq, Nat.mul_right_comm]
      refine Nat.mul_lt_mul_of_pos_right ?_ Binary64.unitsPerOne_pos
      omega
    refine ⟨Binary64.ofRatio (value < 0) value.natAbs 100, ?_, Binary64.place?_ofRatio finite⟩
    simp only [hundredth?, finite, if_true]

end Number

namespace Snapshot

def IsRefused {α : Type} (answer : Except Failure α) : Prop :=
  ∃ failure, answer = .error failure ∧ failure.kind = .own .badInput

private theorem not_isRefused_of_failsOnly {α : Type} {answer : Except Failure α}
    (only : FailsOnly (·.kind ≠ .own .badInput) answer) : ¬ IsRefused answer := by
  rintro ⟨failure, failed, kind⟩
  exact only failure failed kind

private theorem failsOnly_orTooLarge {α : Type} (result : Option α) :
    FailsOnly (·.kind ≠ .own .badInput) (Number.orTooLarge result) := by
  cases result with
  | some number => exact .ok number
  | none => exact .error (by decide)

private theorem failsOnly_toBinary64 (value : Value) : FailsOnly (·.kind ≠ .own .badInput) value.toBinary64 := by
  unfold Value.toBinary64
  split
  · split
    · exact .ok _
    · exact .error (fun same => by cases same)
  · split
    · exact .error (fun same => by cases same)
    · split
      · exact .ok _
      · exact .error (by decide)

private theorem failsOnly_interpolate (lower upper : Value) (fraction : Number) :
    FailsOnly (·.kind ≠ .own .badInput) (interpolate lower upper fraction) := by
  unfold interpolate
  split
  · refine .bind (failsOnly_orTooLarge _) fun distance => ?_
    refine .bind (failsOnly_orTooLarge _) fun part => ?_
    exact failsOnly_orTooLarge _
  · exact .error (fun same => by cases same)

private theorem failsOnly_atPosition (s : Snapshot) (position : Number) :
    FailsOnly (·.kind ≠ .own .badInput) (s.atPosition position) := by
  unfold atPosition
  dsimp only
  split
  · exact .bind (failsOnly_toBinary64 _) fun real => .ok _
  · split
    · exact .bind (failsOnly_toBinary64 _) fun real => .ok _
    · exact .bind (failsOnly_orTooLarge _) fun fraction => failsOnly_interpolate _ _ fraction

private theorem isRefused_quantile_iff (s : Snapshot) (q : Binary64) :
    IsRefused (s.quantile (.float q)) ↔ isOutside q := by
  rw [quantile_eq_ite]
  cases outside : isOutside q with
  | true => exact iff_of_true ⟨.quantileOutside (.float q), rfl, rfl⟩ rfl
  | false =>
    rw [if_neg Bool.false_ne_true]
    refine iff_of_false (not_isRefused_of_failsOnly ?_) Bool.false_ne_true
    refine .ite (.ok _) ?_
    exact .bind (failsOnly_orTooLarge _) fun position => failsOnly_atPosition s position

private theorem isOutside_of_not_isFinite {q : Binary64} (infinite : q.isFinite = false) : isOutside q := by
  cases q with
  | nan => rfl
  | infinity negative =>
    cases negative with
    | true => rfl
    | false =>
      have top : (Binary64.infinity false).place? = some .top := rfl
      simp only [isOutside, Binary64.lt, Binary64.place?_one, top, Place.before, Bool.or_true]
  | finite negative magnitude => cases infinite

private theorem quantile_zero (s : Snapshot) {q : Binary64} (place : q.place? = some (.whole 0)) :
    s.quantile (.float q) =
      if s.values.isEmpty then .ok (.float (Binary64.zero false))
      else (Number.orTooLarge (Number.int ((s.size + 1 : Nat) : Int)).toBinary64?).bind fun _ =>
        s.min.toBinary64.map .float := by
  rw [quantile_eq s (Int.natCast_zero ▸ place) (Nat.zero_le _), Number.mul, Number.combine_float_left]
  cases converted : (Number.int ((s.size + 1 : Nat) : Int)).toBinary64? with
  | none => rfl
  | some count =>
    have range : (Number.int ((s.size + 1 : Nat) : Int)).inRange := by
      rw [← Number.isSome_toBinary64?, converted, Option.isSome_some]
    obtain ⟨real, converted', count_place⟩ := Number.toBinary64?_natCast range
    obtain rfl := Option.some.inj (converted.symm.trans converted')
    have product := Binary64.place?_mul place count_place (by
      rw [Int.zero_mul, Int.natAbs_zero, Binary64.roundUnits_zero]
      exact Binary64.ceiling_pos)
    rw [Int.zero_mul, Binary64.roundSigned_zero] at product
    have first := atPosition_before (s := s) (@truncate?_getD _ 0 product) (by
      rw [Nat.zero_div]
      exact Nat.one_pos)
    rw [← first]
    rfl

section Percentile

variable (s : Snapshot) {p : Number} {units : Int}

private theorem isRefused_of_not_isFinite {x : Binary64} (infinite : x.isFinite = false) :
    IsRefused (s.percentile (.float x)) := by
  refine (isRefused_quantile_iff s _).mpr (isOutside_of_not_isFinite ?_)
  have hundred := Binary64.place?_ofInt_exact (by decide : (100 : Int).natAbs ≤ Nat.pow 2 53)
  obtain ⟨negative, magnitude, finite, -⟩ := Binary64.place?_eq_whole_iff.mp hundred
  rw [finite]
  cases x with
  | nan => rfl
  | infinity sign => rfl
  | finite sign size => cases infinite

private theorem isRefused_of_place (place : p.place? = some (.whole units)) (small : ¬ p.TooLarge) :
    IsRefused (s.percentile p) ↔ Percentile.isValid p = false ∧ ¬ p.Vanishes := by
  obtain ⟨q, hundredth, q_place⟩ := Number.hundredth?_place place small
  have refused : IsRefused (s.percentile p) ↔
      units < -50 ∨ ((100 * unitsPerOne : Nat) : Int) < units := by
    unfold percentile
    rw [hundredth, isRefused_quantile_iff, isOutside_iff q_place, Binary64.hundredth_negative_iff,
      Binary64.one_lt_hundredth_iff (Number.apart_of_place? place)]
  rw [refused, Bool.eq_false_iff, Ne, Number.isValid_iff place, Number.vanishes_iff place]
  omega

private theorem valueAtPercentile_tooLarge (large : p.TooLarge) :
    s.valueAtPercentile (.number p) = .error .quotientTooLarge := by
  change s.percentile p = _
  unfold percentile
  rw [Number.hundredth?_tooLarge large]

private theorem percentile_vanishes (vanishes : p.Vanishes) : s.percentile p = s.percentile (.int 0) := by
  obtain ⟨units, place, few, negative⟩ := vanishes
  have rounded : roundSigned units 100 = 0 := by
    have above := Binary64.hundredth_negative_iff.not.mpr (by omega : ¬ units < -50)
    have below := Binary64.roundSigned_mono (by decide : 0 < 100) (Int.le_of_lt negative)
    rw [Binary64.roundSigned_zero] at below
    omega
  obtain ⟨q, hundredth, q_place⟩ :=
    Number.hundredth?_place place (Number.not_tooLarge_of_place place (by omega))
  obtain ⟨zero, hundredth', zero_place⟩ :=
    Number.hundredth?_place Number.place?_zero (Number.not_tooLarge_of_place Number.place?_zero (by decide))
  rw [rounded] at q_place
  rw [Binary64.roundSigned_zero] at zero_place
  unfold percentile
  rw [hundredth, hundredth']
  change s.quantile _ = s.quantile _
  rw [quantile_zero s q_place, quantile_zero s zero_place]

end Percentile

/-- A percentile is refused exactly when it is outside 0 to 100, does not vanish and is not too large. -/
theorem valueAtPercentile_isRefused_iff (s : Snapshot) (p : Number) :
    (IsRefused (s.valueAtPercentile (.number p)) ↔
      Percentile.isValid p = false ∧ ¬ p.Vanishes ∧ ¬ p.TooLarge)
    ∧ (p.Vanishes → s.valueAtPercentile (.number p) = s.valueAtPercentile (.int 0))
    ∧ (p.TooLarge → s.valueAtPercentile (.number p) = .error .quotientTooLarge) := by
  refine ⟨?_, percentile_vanishes s, valueAtPercentile_tooLarge s⟩
  by_cases large : p.TooLarge
  · refine iff_of_false ?_ fun invalid => invalid.2.2 large
    rw [valueAtPercentile_tooLarge s large]
    exact not_isRefused_of_failsOnly (.error (by decide))
  rw [and_iff_left large]
  change IsRefused (s.percentile p) ↔ _
  cases p with
  | int value => exact isRefused_of_place s rfl large
  | float x =>
    cases finite : x.isFinite with
    | true =>
      obtain ⟨units, place⟩ := Binary64.isFinite_iff.mp finite
      exact isRefused_of_place s place large
    | false =>
      exact iff_of_true (isRefused_of_not_isFinite s finite) (Number.invalid_of_not_isFinite finite)

/-- The greatest negative number. -/
def greatestNegative : Binary64 :=
  Binary64.ofUnits true 1 1

/-- A power of ten whose hundredth is too large. -/
def farPercentile : Int :=
  10 ^ 311

private theorem vanishes_and_tooLarge :
    (Number.float greatestNegative).Vanishes ∧ (Number.int farPercentile).TooLarge :=
  ⟨⟨-1, by decide +kernel, by decide, by decide⟩, ⟨farPercentile, rfl, by decide +kernel⟩⟩

/-- Of one sample a number that vanishes gives the sample, and a percentile of 101 nothing. -/
theorem valueAtPercentile_isRefused_iff_single :
    (Number.float greatestNegative).Vanishes ∧ (Number.int farPercentile).TooLarge ∧
    (⟨[.int 7]⟩ : Snapshot).valueAtPercentile (.float greatestNegative)
      = (⟨[.int 7]⟩ : Snapshot).valueAtPercentile (.int 0) ∧
    (⟨[.int 7]⟩ : Snapshot).valueAtPercentile (.number (.int farPercentile)) = .error .quotientTooLarge ∧
    IsRefused ((⟨[.int 7]⟩ : Snapshot).valueAtPercentile (.int 101)) := by
  obtain ⟨-, vanished, -⟩ := valueAtPercentile_isRefused_iff ⟨[.int 7]⟩ (.float greatestNegative)
  obtain ⟨-, -, failed⟩ := valueAtPercentile_isRefused_iff ⟨[.int 7]⟩ (.int farPercentile)
  obtain ⟨refused, -, -⟩ := valueAtPercentile_isRefused_iff ⟨[.int 7]⟩ (.int 101)
  have small : ¬ (Number.int 101).TooLarge := by
    rintro ⟨value, same, large⟩
    obtain rfl := Number.int.inj same
    have wide : 1 < Binary64.integerLimit := Nat.lt_trans (by decide) Binary64.pow_lt_integerLimit
    omega
  have far : ¬ (Number.int 101).Vanishes := by
    rw [Number.vanishes_iff (p := .int 101) rfl]
    decide +kernel
  obtain ⟨vanishes, large⟩ := vanishes_and_tooLarge
  exact ⟨vanishes, large, vanished vanishes, failed large, refused.mpr ⟨by decide +kernel, far, small⟩⟩

/-- Of one and two the greatest negative number gives the lesser, and the far integer another failure. -/
theorem valueAtPercentile_invalid_answered :
    ∃ s, Snapshot.ofValues [.float (Binary64.ofInt 1), .float (Binary64.ofInt 2)] = .ok s ∧
      Percentile.isValid (.float greatestNegative) = false ∧
      (s.valueAtPercentile (.float greatestNegative)).toOption = some (.float (Binary64.ofInt 1)) ∧
      Percentile.isValid (.int farPercentile) = false ∧
      ¬ IsRefused (s.valueAtPercentile (.number (.int farPercentile))) := by
  have measured : ∀ x ∈ [Number.float (Binary64.ofInt 1), .float (Binary64.ofInt 2)], x.isNaN = false := by
    decide +kernel
  have ordered : [Number.float (Binary64.ofInt 1), .float (Binary64.ofInt 2)].Pairwise fun x y => x.le y := by
    decide +kernel
  have made := ofValues_numbers measured
  rw [Number.sorted_of_pairwise ordered] at made
  refine ⟨_, made, by decide +kernel, by decide +kernel, by decide +kernel, ?_⟩
  have failed : valueAtPercentile ⟨[.float (Binary64.ofInt 1), .float (Binary64.ofInt 2)]⟩
      (.number (.int farPercentile)) = .error .quotientTooLarge :=
    valueAtPercentile_tooLarge _ vanishes_and_tooLarge.2
  exact failed ▸ not_isRefused_of_failsOnly (.error (by decide))

end Snapshot

end SampledMetrics
