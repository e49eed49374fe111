import SampledMetrics.Proofs.Snapshot.Definedness
/-!
When the percentile of binary64 samples is a number, and when it is finite.  On an end of the samples it
is one of them.  Between two of them it is the lower one and a part of their distance, and it is the
distance that goes wrong: of equal infinities it is not-a-number, and of finite samples it can be
infinite, of which no part at all is again not-a-number.  Main statement: these are the only ways.
-/

set_option autoImplicit false
set_option relaxedAutoImplicit false

namespace SampledMetrics

open Binary64 (unitsPerOne stepAtOne)

namespace Binary64

variable {x y : Binary64}

private theorem isNaN_ofUnits (negative : Bool) (num den : Nat) : (ofUnits negative num den).isNaN = false := by
  unfold ofUnits
  split <;> rfl

private theorem isFinite_add_right (infinite : y.isFinite = false) : (x.add y).isFinite = false := by
  cases y with
  | nan => cases x <;> rfl
  | finite b n => cases infinite
  | infinity b =>
    cases x with
    | nan => rfl
    | infinity a => cases a <;> cases b <;> rfl
    | finite a m => rfl

private theorem isFinite_mul_right (infinite : y.isFinite = false) : (x.mul y).isFinite = false := by
  cases y with
  | nan => cases x <;> rfl
  | finite b n => cases infinite
  | infinity b =>
    cases x with
    | nan => rfl
    | infinity a => rfl
    | finite a m =>
      by_cases none : m.units = 0 <;> simp [mul, none, isFinite]

private theorem isNaN_add_of_isFinite (finite : x.isFinite) : (x.add y).isNaN = y.isNaN := by
  cases x with
  | nan => cases finite
  | infinity a => cases finite
  | finite a m =>
    cases y with
    | nan => rfl
    | infinity b => rfl
    | finite b n =>
      simp only [add]
      split
      · rfl
      · exact isNaN_ofUnits _ _ _

private theorem isNaN_mul_of_place? {units : Int} (place : x.place? = some (.whole units)) (number : y.isNaN = false) :
    (x.mul y).isNaN ↔ y.isFinite = false ∧ units = 0 := by
  obtain ⟨a, m, rfl, rfl⟩ := place?_eq_whole_iff.mp place
  have none : signedUnits a m = 0 ↔ m.units = 0 := by
    rw [← natAbs_signedUnits a m, Int.natAbs_eq_zero]
  rw [none]
  cases y with
  | nan => cases number
  | infinity b =>
    simp only [mul]
    split <;> simp_all [isNaN, isFinite]
  | finite b n => simp [mul, isNaN_ofUnits, isFinite]

private theorem isNaN_infinity_step {a : Bool} {units : Nat} (place : x.place? = some (.whole (units : Int)))
    (number : y.isNaN = false) :
    ((infinity a).add (x.mul (y.sub (infinity a)))).isNaN := by
  obtain ⟨negative, m, rfl, signed⟩ := place?_eq_whole_iff.mp place
  have distance : y.sub (infinity a) = infinity (!a) ∨ y.sub (infinity a) = nan := by
    cases y with
    | nan => cases number
    | infinity b => cases a <;> cases b <;> simp [sub, neg, add]
    | finite b n => exact Or.inl rfl
  rcases distance with away | nowhere
  · rw [away]
    by_cases none : m.units = 0
    · simp [mul, none, add, isNaN]
    · obtain rfl : negative = false := by
        cases negative with
        | false => rfl
        | true =>
          simp only [signedUnits, if_true] at signed
          omega
      cases a <;> simp [mul, none, add, isNaN]
  · rw [nowhere]
    rfl

end Binary64

namespace Snapshot

section Fraction

variable {x : Binary64} {position : Nat}

private theorem fraction_of_large (grid : Binary64.spacing position ∣ position)
    (large : Nat.pow 2 53 * unitsPerOne ≤ position) : position % unitsPerOne = 0 := by
  have ones : unitsPerOne ∣ Binary64.spacing position := by
    unfold unitsPerOne at large ⊢
    generalize 1074 = shift at large ⊢
    refine Binary64.pow_dvd_spacing (Nat.le_trans ?_ large)
    rw [Nat.mul_comm]
    calc Nat.pow 2 (shift + 52) ≤ Nat.pow 2 (shift + 53) := Nat.pow_le_pow_right (by decide) (by omega)
      _ = Nat.pow 2 shift * Nat.pow 2 53 := Nat.pow_add 2 shift 53
  exact Nat.mod_eq_zero_of_dvd (Nat.dvd_trans ones grid)

private theorem exists_fractionPart (one : unitsPerOne ≤ position) (place : x.place? = some (.whole position)) :
    position % unitsPerOne + stepAtOne ≤ unitsPerOne ∧
      ∃ fraction, fractionPart (.float x) = some (.float fraction) ∧
        fraction.place? = some (.whole ((position % unitsPerOne : Nat) : Int)) := by
  have grid := (Binary64.representable_of_place? place).2
  by_cases small : position < Nat.pow 2 53 * unitsPerOne
  · have p : Binary64.IsPosition position := ⟨grid, small⟩
    exact ⟨p.fraction_short one, fractionPart_eq p place⟩
  · have none := fraction_of_large grid (Nat.le_of_not_lt small)
    have whole : position / unitsPerOne * unitsPerOne = position :=
      Nat.div_mul_cancel (Nat.dvd_of_mod_eq_zero none)
    obtain ⟨real, converted, real_place⟩ := Number.toBinary64?_natCast (inRange_floor place)
    rw [whole, Binary64.roundUnits_one grid] at real_place
    have rest := Binary64.place?_sub place real_place (by
      rw [Int.sub_self, Int.natAbs_zero, Binary64.roundUnits_zero]
      exact Binary64.ceiling_pos)
    have nothing : Binary64.roundSigned ((position : Int) - position) 1 = 0 := by
      rw [Int.sub_self]
      exact Binary64.roundSigned_one ⟨Binary64.ceiling_pos, Nat.dvd_zero _⟩
    rw [nothing] at rest
    rw [none]
    have step : 0 + stepAtOne ≤ unitsPerOne := by
      rw [Nat.zero_add, Binary64.unitsPerOne_eq]
      exact Nat.le_mul_of_pos_left _ (by decide)
    exact ⟨step, x.sub real, fractionPart_of_floor? (floor?_float place) (Number.float_sub converted), rest⟩

end Fraction

section Point

variable {low high fraction : Binary64} {part : Nat}

private theorem interpolate_float (low high fraction : Binary64) :
    interpolate (.float low) (.float high) (.float fraction) =
      .ok (.float (low.add (fraction.mul (high.sub low)))) := rfl

/-- The point is not-a-number when the lower sample is infinite, and when no part of an infinite distance
is asked for. -/
private theorem isNaN_point (place : fraction.place? = some (.whole part)) (lower : low.isNaN = false)
    (upper : high.isNaN = false) :
    (low.add (fraction.mul (high.sub low))).isNaN ↔
      low.isFinite = false ∨ (high.sub low).isFinite = false ∧ part = 0 := by
  cases low with
  | nan => cases lower
  | infinity a => exact iff_of_true (Binary64.isNaN_infinity_step place upper) (Or.inl rfl)
  | finite a m =>
    have distance : (high.sub (.finite a m)).isNaN = false := by
      rw [Binary64.sub, Binary64.add_comm]
      exact (Binary64.isNaN_add_of_isFinite rfl).trans upper
    have finite : Binary64.isFinite (.finite a m) = true := rfl
    rw [Binary64.isNaN_add_of_isFinite finite, Binary64.isNaN_mul_of_place? place distance, finite,
      Int.natCast_eq_zero]
    simp

private theorem isFinite_point (lower : low.isFinite) (upper : high.isFinite)
    (ordered : (Number.float low).le (.float high)) (short : part + stepAtOne ≤ unitsPerOne)
    (place : fraction.place? = some (.whole part)) :
    (low.add (fraction.mul (high.sub low))).isFinite = (high.sub low).isFinite := by
  cases distance : (high.sub low).isFinite with
  | false => exact Binary64.isFinite_add_right (Binary64.isFinite_mul_right distance)
  | true =>
    have low_fits : (Number.float low).fits := lower
    have high_fits : (Number.float high).fits := upper
    have units := (Number.le_iff_of_place? (Number.place?_of_fits low_fits)
      (Number.place?_of_fits high_fits)).mp ordered
    have gap : (((Number.float high).sub (.float low)).bind Number.toBinary64?).any Binary64.isFinite := by
      rw [Number.float_sub (Number.toBinary64?_float low)]
      exact distance
    obtain ⟨point, same, point_place⟩ := interpolate_eq low_fits high_fits units gap short place
    obtain rfl : low.add (fraction.mul (high.sub low)) = point :=
      Number.float.inj (Except.ok.inj ((interpolate_float low high fraction).symm.trans same))
    exact Binary64.isFinite_iff.mpr ⟨_, point_place⟩

end Point

/-- Samples in ascending order, equal ones as they came. -/
def ascending (samples : List Binary64) : List Binary64 :=
  samples.mergeSort fun x y => (Number.float x).le (.float y)

theorem ascending_perm (samples : List Binary64) : (ascending samples).Perm samples :=
  List.mergeSort_perm ..

private theorem map_ascending (samples : List Binary64) :
    (ascending samples).map Number.float = Number.sorted (samples.map .float) :=
  List.map_mergeSort fun _ _ _ _ => rfl

section Ascending

variable {samples : List Binary64}

theorem map_number_float (samples : List Binary64) :
    (samples.map Number.float).map Value.number = samples.map Value.float := by
  rw [List.map_map]
  rfl

private theorem measured_map (measured : ∀ x ∈ samples, x.isNaN = false) :
    ∀ x ∈ samples.map Number.float, x.isNaN = false := by
  intro x held
  obtain ⟨real, sampled, rfl⟩ := List.mem_map.mp held
  exact measured real sampled

theorem ascending_pairwise (measured : ∀ x ∈ samples, x.isNaN = false) :
    (ascending samples).Pairwise fun x y => (Number.float x).le (.float y) := by
  have ordered := Number.sorted_pairwise (measured_map measured)
  rw [← map_ascending] at ordered
  exact List.pairwise_map.mp ordered

theorem ofValues_ascending (measured : ∀ x ∈ samples, x.isNaN = false) :
    Snapshot.ofValues (samples.map .float) = .ok ⟨(ascending samples).map .float⟩ := by
  rw [← map_number_float, ofValues_numbers (measured_map measured), ← map_ascending, map_number_float]

end Ascending

/-- A position falls between two neighbouring samples, a part of the way after the first, in units. -/
def FallsBetween (ordered : List Binary64) (position : Nat) (low high : Binary64) (part : Nat) : Prop :=
  ∃ index, position / unitsPerOne = index + 1 ∧ ordered[index]? = some low ∧
    ordered[index + 1]? = some high ∧ position % unitsPerOne = part

section FallsBetween

variable {ordered : List Binary64} {x low high : Binary64} {position part : Nat}

private theorem FallsBetween.exists_iff (falls : FallsBetween ordered position low high part)
    (property : Binary64 → Binary64 → Nat → Prop) :
    (∃ low high part, FallsBetween ordered position low high part ∧ property low high part) ↔
      property low high part := by
  obtain ⟨index, here, lower, upper, rfl⟩ := falls
  constructor
  · rintro ⟨low', high', part', ⟨index', here', lower', upper', rfl⟩, holds⟩
    obtain rfl : index = index' := Nat.succ.inj (here.symm.trans here')
    obtain rfl := Option.some.inj (lower.symm.trans lower')
    obtain rfl := Option.some.inj (upper.symm.trans upper')
    exact holds
  · intro holds
    exact ⟨low, high, _, ⟨index, here, lower, upper, rfl⟩, holds⟩

private theorem FallsBetween.low_mem (falls : FallsBetween ordered position low high part) : low ∈ ordered := by
  obtain ⟨index, _, lower, _, _⟩ := falls
  exact List.mem_of_getElem? lower

private theorem FallsBetween.high_mem (falls : FallsBetween ordered position low high part) : high ∈ ordered := by
  obtain ⟨index, _, _, upper, _⟩ := falls
  exact List.mem_of_getElem? upper

theorem FallsBetween.le (falls : FallsBetween ordered position low high part)
    (ascends : ordered.Pairwise fun x y => (Number.float x).le (.float y)) :
    (Number.float low).le (.float high) := by
  obtain ⟨index, _, lower, upper, _⟩ := falls
  obtain ⟨inside, rfl⟩ := List.getElem?_eq_some_iff.mp lower
  obtain ⟨inside', rfl⟩ := List.getElem?_eq_some_iff.mp upper
  exact List.pairwise_iff_getElem.mp ascends index (index + 1) inside inside' (Nat.lt_succ_self index)

private theorem exists_atPosition (nonempty : ordered ≠ []) (place : x.place? = some (.whole position)) :
    ∃ y, atPosition ⟨ordered.map .float⟩ (.float x) = .ok (.float y) ∧
      ((∀ low high part, ¬ FallsBetween ordered position low high part) ∧ y ∈ ordered ∨
        ∃ (low high : Binary64) (part : Nat) (fraction : Binary64),
          FallsBetween ordered position low high part ∧ part + stepAtOne ≤ unitsPerOne ∧
          fraction.place? = some (.whole part) ∧ y = low.add (fraction.mul (high.sub low))) := by
  have whole := truncate?_getD place
  have numbers : ordered.map Number.float ≠ [] := by simpa using nonempty
  by_cases before : position / unitsPerOne < 1
  · refine ⟨ordered.head nonempty, ?_, Or.inl ⟨?_, List.head_mem nonempty⟩⟩
    · rw [atPosition_before whole before, ← map_number_float, min_numbers numbers, List.head_map]
      rfl
    · rintro low high part ⟨index, here, -⟩
      omega
  by_cases beyond : ordered.length ≤ position / unitsPerOne
  · refine ⟨ordered.getLast nonempty, ?_, Or.inl ⟨?_, List.getLast_mem nonempty⟩⟩
    · rw [atPosition_beyond whole before (by simpa [size] using beyond), ← map_number_float,
        max_numbers numbers, List.getLast_map]
      rfl
    · rintro low high part ⟨index, here, -, upper, -⟩
      obtain ⟨inside, -⟩ := List.getElem?_eq_some_iff.mp upper
      omega
  · obtain ⟨index, here⟩ := Nat.exists_eq_add_one.mpr (by omega : 0 < position / unitsPerOne)
    have one := Binary64.unitsPerOne_le_of_index before
    obtain ⟨short, fraction, part, fraction_place⟩ := exists_fractionPart one place
    rw [here] at whole before beyond
    have inside : index + 1 < ordered.length := Nat.lt_of_not_le beyond
    have lower := List.getElem?_eq_getElem (Nat.lt_of_succ_lt inside)
    have upper := List.getElem?_eq_getElem inside
    refine ⟨_, ?_, Or.inr ⟨_, _, _, fraction, ⟨index, here, lower, upper, rfl⟩, short, fraction_place, rfl⟩⟩
    rw [atPosition_inside whole before (by simpa using inside) part]
    simp only [List.getElem_map, Nat.add_sub_cancel]
    exact interpolate_float _ _ _

end FallsBetween

/-- The position of a percentile among so many samples, in units. -/
def percentilePosition (p : Binary64) (count : Nat) : Nat :=
  positionUnits (quantileUnits (Statistics.exactUnits p).toNat) count

private theorem valueAtPercentile_eq_atPosition {ordered : List Binary64} (nonempty : ordered ≠ []) {p : Binary64}
    (valid : Percentile.isValid (.float p)) (few : (Number.int ((ordered.length + 1 : Nat) : Int)).inRange) :
    ∃ x, valueAtPercentile ⟨ordered.map .float⟩ (.float p) = atPosition ⟨ordered.map .float⟩ (.float x) ∧
      x.place? = some (.whole (percentilePosition p ordered.length)) := by
  obtain ⟨percentile, place, le⟩ := exists_place?_of_isValid valid
  obtain ⟨q, on_quantile, q_place⟩ := percentile_eq_quantile (s := ⟨ordered.map .float⟩) place
  have size_eq : size ⟨ordered.map .float⟩ = ordered.length := List.length_map ..
  obtain ⟨x, on_position, x_place⟩ := quantile_eq_atPosition (s := ⟨ordered.map .float⟩) q_place
    (quantileUnits_le le) (by simpa using nonempty) (by rw [size_eq]; exact few)
  rw [size_eq] at x_place
  unfold percentilePosition
  rw [Statistics.exactUnits_eq_of_place? place, Int.toNat_natCast]
  exact ⟨x, on_quantile.trans on_position, x_place⟩

private theorem valueAtPercentile_of_many {ordered : List Binary64} (nonempty : ordered ≠ []) {p : Binary64}
    (valid : Percentile.isValid (.float p))
    (many : (Number.int ((ordered.length + 1 : Nat) : Int)).inRange = false) :
    valueAtPercentile ⟨ordered.map .float⟩ (.float p) = .error .integerTooLarge := by
  obtain ⟨percentile, place, le⟩ := exists_place?_of_isValid valid
  obtain ⟨q, on_quantile, q_place⟩ := percentile_eq_quantile (s := ⟨ordered.map .float⟩) place
  have size_eq : size ⟨ordered.map .float⟩ = ordered.length := List.length_map ..
  have full : (ordered.map Value.float).isEmpty = false := by simpa using nonempty
  have product : (Number.float q).mul (.int ((ordered.length + 1 : Nat) : Int)) = none := by
    rw [Number.mul, Number.combine_float_left, Option.map_eq_none_iff, ← Option.not_isSome_iff_eq_none,
      Number.isSome_toBinary64?, many]
    exact Bool.false_ne_true
  rw [on_quantile, quantile_eq _ q_place (quantileUnits_le le), full, size_eq, product]
  rfl

/-- A percentile of samples other than not-a-number is not-a-number only where it falls between two of
them and the lower one is infinite, or their distance is and the percentile falls on the lower one; of
finite samples it is infinite or not-a-number only where the distance of the two is.  There is a
percentile, unless the samples are too many to be counted. -/
theorem valueAtPercentile_isNaN_iff {samples : List Binary64} (nonempty : samples ≠ [])
    (measured : ∀ x ∈ samples, x.isNaN = false) {p : Binary64} (valid : Percentile.isValid (.float p)) :
    ∃ ordered : List Binary64, ordered.Perm samples ∧
      (ordered.Pairwise fun x y => (Number.float x).le (.float y)) ∧
      Snapshot.ofValues (samples.map .float) = .ok ⟨ordered.map .float⟩ ∧
      ((Number.int ((samples.length + 1 : Nat) : Int)).inRange →
        ∃ x, valueAtPercentile ⟨ordered.map .float⟩ (.float p) = .ok (.float x) ∧
          (x.isNaN ↔ ∃ low high part,
            FallsBetween ordered (percentilePosition p samples.length) low high part ∧
              (low.isFinite = false ∨ (high.sub low).isFinite = false ∧ part = 0)) ∧
          ((∀ y ∈ samples, y.isFinite) → (x.isFinite = false ↔ ∃ low high part,
            FallsBetween ordered (percentilePosition p samples.length) low high part ∧
              (high.sub low).isFinite = false))) ∧
      ((Number.int ((samples.length + 1 : Nat) : Int)).inRange = false →
        valueAtPercentile ⟨ordered.map .float⟩ (.float p) = .error .integerTooLarge) := by
  have perm := ascending_perm samples
  have ascends := ascending_pairwise measured
  have full : ascending samples ≠ [] := by
    intro empty
    rw [empty] at perm
    exact nonempty perm.nil_eq.symm
  refine ⟨ascending samples, perm, ascends, ofValues_ascending measured, ?_, ?_⟩
  · intro few
    rw [← perm.length_eq] at few ⊢
    obtain ⟨x, on_position, place⟩ := valueAtPercentile_eq_atPosition full valid few
    obtain ⟨y, value, stands⟩ := exists_atPosition full place
    refine ⟨y, on_position.trans value, ?_⟩
    rcases stands with ⟨nowhere, held⟩ | ⟨low, high, part, fraction, falls, short, fraction_place, rfl⟩
    · have sampled := perm.mem_iff.mp held
      constructor
      · rw [measured y sampled]
        exact iff_of_false Bool.false_ne_true fun ⟨_, _, _, falls, _⟩ => nowhere _ _ _ falls
      · intro finite
        rw [finite y sampled]
        exact iff_of_false (by decide) fun ⟨_, _, _, falls, _⟩ => nowhere _ _ _ falls
    · have lower := perm.mem_iff.mp falls.low_mem
      have upper := perm.mem_iff.mp falls.high_mem
      constructor
      · rw [isNaN_point fraction_place (measured low lower) (measured high upper)]
        exact (falls.exists_iff fun low high part =>
          low.isFinite = false ∨ (high.sub low).isFinite = false ∧ part = 0).symm
      · intro finite
        rw [isFinite_point (finite low lower) (finite high upper) (falls.le ascends) short fraction_place]
        exact (falls.exists_iff fun low high _ => (high.sub low).isFinite = false).symm
  · intro many
    rw [← perm.length_eq] at many
    exact valueAtPercentile_of_many full valid many

theorem valueAtPercentile_isNaN_iff_infinities :
    (∀ x ∈ [Binary64.infinity false, .infinity false], x.isNaN = false) ∧
      Percentile.isValid (.float (Binary64.ofInt 50)) ∧
      ∃ x, valueAtPercentile ⟨[.float (.infinity false), .float (.infinity false)]⟩
        (.float (Binary64.ofInt 50)) = .ok (.float x) ∧ x.isNaN := by
  have measured : ∀ x ∈ [Binary64.infinity false, .infinity false], x.isNaN = false := by decide
  have valid : Percentile.isValid (.float (Binary64.ofInt 50)) := by decide +kernel
  obtain ⟨ordered, perm, -, -, given, -⟩ := valueAtPercentile_isNaN_iff (by decide) measured valid
  obtain rfl : ordered = [.infinity false, .infinity false] := (List.perm_replicate (n := 2)).mp perm
  obtain ⟨x, value, lost, -⟩ := given (by decide +kernel)
  have here : percentilePosition (Binary64.ofInt 50) [Binary64.infinity false, .infinity false].length /
      unitsPerOne = 0 + 1 := by decide +kernel
  exact ⟨measured, valid, x, value, lost.mpr ⟨_, _, _, ⟨0, here, rfl, rfl, rfl⟩, Or.inl rfl⟩⟩

def farthest (negative : Bool) : Binary64 :=
  .finite negative ⟨Binary64.greatest, Binary64.greatest_lt_ceiling, Binary64.spacing_dvd_greatest⟩

/-- Half way between two equal infinities stands not-a-number, and half way between the two farthest
finite numbers an infinity. -/
theorem valueAtPercentile_not_finite :
    Percentile.isValid (.float (Binary64.ofInt 50)) ∧
    (∃ s, Snapshot.ofValues [.float (.infinity false), .float (.infinity false)] = .ok s ∧
      (s.valueAtPercentile (.float (Binary64.ofInt 50))).toOption = some (.float .nan)) ∧
    ∃ s, Snapshot.ofValues [.float (farthest true), .float (farthest false)] = .ok s ∧
      (s.valueAtPercentile (.float (Binary64.ofInt 50))).toOption = some (.float (.infinity false)) := by
  have equal : ascending [.infinity false, .infinity false] = [.infinity false, .infinity false] :=
    List.mergeSort_of_pairwise (by decide)
  have apart : ascending [farthest true, farthest false] = [farthest true, farthest false] :=
    List.mergeSort_of_pairwise (by decide +kernel)
  have equals := ofValues_ascending (by decide : ∀ x ∈ [Binary64.infinity false, .infinity false], x.isNaN = false)
  have extremes := ofValues_ascending (by decide : ∀ x ∈ [farthest true, farthest false], x.isNaN = false)
  rw [equal] at equals
  rw [apart] at extremes
  exact ⟨by decide +kernel, ⟨_, equals, by decide +kernel⟩, ⟨_, extremes, by decide +kernel⟩⟩

end Snapshot

end SampledMetrics
