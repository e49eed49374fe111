import SampledMetrics.Extractor
import SampledMetrics.Proofs.Snapshot.Percentile
import SampledMetrics.Proofs.Statistics.Deviation
import SampledMetrics.Proofs.Statistics.Sum
/-!
When a statistic of a snapshot of numbers is given.  The least and the greatest sample always are; for the
others main statements give the exact condition, each in terms of the samples alone.
-/

set_option autoImplicit false
set_option relaxedAutoImplicit false

namespace SampledMetrics

open Binary64 (unitsPerOne)

namespace Number

/-- Whether a point between two numbers can be computed.  The difference of two integers is exact, and
only it and the lower one are converted; otherwise both are. -/
def spans : Number → Number → Bool
  | .int low, .int high => (Number.int (high - low)).inRange && (Number.int low).inRange
  | low, high => low.inRange && high.inRange

@[simp]
theorem inRange_float (value : Binary64) : (Number.float value).inRange = true := by
  simp only [inRange]

private theorem spans_int_int (low high : Int) :
    (Number.int low).spans (.int high)
      = ((Number.int (high - low)).inRange && (Number.int low).inRange) := by
  simp only [spans]

private theorem spans_float_left (low : Binary64) (high : Number) :
    (Number.float low).spans high = high.inRange := by
  cases high <;> simp only [spans, inRange_float, Bool.true_and]

private theorem spans_float_right (low : Number) (high : Binary64) :
    low.spans (.float high) = low.inRange := by
  cases low <;> simp only [spans, inRange_float, Bool.and_true]

end Number

namespace Snapshot

private theorem isOk_orTooLarge {α : Type} (result : Option α) :
    (Number.orTooLarge result).isOk = result.isSome := by
  cases result <;> rfl

section Interpolate

variable {low high distance : Number} (fraction : Binary64)

private theorem isOk_interpolate_some (difference : high.sub low = some distance) :
    (interpolate (.number low) (.number high) (.float fraction)).isOk
      = (distance.inRange && low.inRange) := by
  have parts : interpolate (.number low) (.number high) (.float fraction) =
      (Number.orTooLarge ((Number.float fraction).mul distance)).bind fun part =>
        Number.orTooLarge (low.add part) := by
    simp only [interpolate, Value.asNumber?, Value.number?, difference, Number.orTooLarge, bind,
      Except.bind]
  rw [parts, Number.mul, Number.combine_float_left, ← Number.isSome_toBinary64? distance]
  cases distance.toBinary64? with
  | none => rfl
  | some real =>
    change (Number.orTooLarge (low.add _)).isOk = _
    rw [isOk_orTooLarge, Number.add, Number.combine_float_right, Option.isSome_map,
      Number.isSome_toBinary64?, Option.isSome_some, Bool.true_and]

private theorem isOk_interpolate_none (difference : high.sub low = none) :
    (interpolate (.number low) (.number high) (.float fraction)).isOk = false := by
  simp only [interpolate, Value.asNumber?, Value.number?, difference, Number.orTooLarge, bind,
    Except.bind]
  rfl

private theorem isOk_interpolate_mixed {other : Number} {difference : Binary64 → Binary64}
    (mixed : high.sub low = other.toBinary64?.map fun real => .float (difference real)) :
    (interpolate (.number low) (.number high) (.float fraction)).isOk
      = (other.inRange && low.inRange) := by
  rw [← Number.isSome_toBinary64? other]
  cases converted : other.toBinary64? with
  | none =>
    rw [converted, Option.map_none] at mixed
    rw [isOk_interpolate_none fraction mixed, Option.isSome_none, Bool.false_and]
  | some real =>
    rw [converted, Option.map_some] at mixed
    rw [isOk_interpolate_some fraction mixed, Number.inRange_float, Option.isSome_some]

end Interpolate

private theorem isOk_interpolate (low high : Number) (fraction : Binary64) :
    (interpolate (.number low) (.number high) (.float fraction)).isOk = low.spans high := by
  cases low with
  | float x =>
    have mixed := isOk_interpolate_mixed fraction (Number.combine_float_right high x)
    rw [Number.spans_float_left, mixed, Number.inRange_float, Bool.and_true]
  | int a =>
    cases high with
    | int b => rw [isOk_interpolate_some fraction (Number.int_sub_int b a), Number.spans_int_int]
    | float y =>
      have mixed := isOk_interpolate_mixed fraction (Number.combine_float_left y (.int a))
      rw [Number.spans_float_right, mixed, Bool.and_self]

section Position

variable {x : Binary64} {position : Nat} {numbers : List Number}

/-- The whole part of a position has a nearest binary64 number. -/
theorem inRange_floor (place : x.place? = some (.whole position)) :
    (Number.int ((position / unitsPerOne : Nat) : Int)).inRange := by
  have grid := Binary64.representable_of_place? place
  have below : position < Binary64.limit := by
    have range : Binary64.roundUnits position 1 < Binary64.ceiling ↔ position < Binary64.limit * 1 :=
      Binary64.roundUnits_lt_ceiling_iff Nat.one_pos
    rw [Binary64.roundUnits_one grid.2, Nat.mul_one] at range
    exact range.mp grid.1
  rw [Number.inRange_int, Int.natAbs_natCast, Nat.div_lt_iff_lt_mul Binary64.unitsPerOne_pos,
    ← Binary64.limit_eq]
  exact below

private theorem isSome_fractionPart (place : x.place? = some (.whole position)) :
    ∃ fraction, fractionPart (.float x) = some (.float fraction) := by
  obtain ⟨real, converted, -⟩ := Number.toBinary64?_natCast (inRange_floor place)
  exact ⟨_, fractionPart_of_floor? (floor?_float place) (Number.float_sub converted)⟩

private theorem isOk_toBinary64 (y : Number) :
    ((Value.number y).toBinary64.map Number.float).isOk = y.inRange := by
  rw [← Number.isSome_toBinary64?]
  simp only [Value.toBinary64, Value.asNumber?, Value.number?]
  cases y.toBinary64? <;> rfl

/-- Whether the value at an index can be computed: outside the samples it is the first or the last one,
and otherwise a point between two neighbours. -/
def definedAt (numbers : List Number) (index : Nat) : Bool :=
  if index < 1 then (numbers.getD 0 (.int 0)).inRange
  else if numbers.length ≤ index then (numbers.getD (numbers.length - 1) (.int 0)).inRange
  else (numbers.getD (index - 1) (.int 0)).spans (numbers.getD index (.int 0))

private theorem isOk_atPosition (nonempty : numbers ≠ []) (place : x.place? = some (.whole position)) :
    (atPosition ⟨numbers.map .number⟩ (.float x)).isOk = definedAt numbers (position / unitsPerOne) := by
  have positive := List.length_pos_iff.mpr nonempty
  have whole := truncate?_getD place
  unfold definedAt
  split
  · rename_i before
    rw [atPosition_before whole before, min_numbers nonempty, isOk_toBinary64,
      List.getD_eq_getElem?_getD, List.getElem?_eq_getElem positive, List.head_eq_getElem,
      Option.getD_some]
  · rename_i later
    split
    · rename_i beyond
      rw [atPosition_beyond whole later (by simpa [size] using beyond), max_numbers nonempty,
        isOk_toBinary64, List.getD_eq_getElem?_getD, List.getElem?_eq_getElem (by omega),
        List.getLast_eq_getElem, Option.getD_some]
    · rename_i inside
      obtain ⟨fraction, part⟩ := isSome_fractionPart place
      rw [atPosition_inside whole later (by simpa using inside) part]
      simp only [List.getElem_map]
      rw [isOk_interpolate, List.getD_eq_getElem?_getD, List.getD_eq_getElem?_getD,
        List.getElem?_eq_getElem (by omega), List.getElem?_eq_getElem (by omega), Option.getD_some,
        Option.getD_some]

end Position

/-- The index of a percentile, in units, among so many samples. -/
def rankIndex (percentile count : Nat) : Nat :=
  positionUnits (quantileUnits percentile) count / unitsPerOne

/-- Whether the value at a percentile can be computed: one more than the number of samples is in range, and
so are the samples at the index. -/
def PercentileDefined (numbers : List Number) (p : Binary64) : Prop :=
  numbers = [] ∨ ((Number.int ((numbers.length + 1 : Nat) : Int)).inRange ∧
    definedAt numbers (rankIndex (Statistics.exactUnits p).toNat numbers.length))

private theorem isOk_valueAtPercentile {numbers : List Number} {p : Binary64}
    (valid : Percentile.isValid (.float p)) :
    (valueAtPercentile ⟨numbers.map .number⟩ (.float p)).isOk ↔ PercentileDefined numbers p := by
  obtain ⟨percentile, place, le⟩ := exists_place?_of_isValid valid
  obtain ⟨q, on_quantile, q_place⟩ := percentile_eq_quantile (s := ⟨numbers.map .number⟩) place
  have q_le := quantileUnits_le le
  have size_eq : size ⟨numbers.map .number⟩ = numbers.length := List.length_map ..
  have on_position := quantile_eq ⟨numbers.map .number⟩ q_place q_le
  rw [on_quantile]
  unfold PercentileDefined
  rw [Statistics.exactUnits_eq_of_place? place, Int.toNat_natCast]
  by_cases empty : numbers = []
  · rw [empty] at on_position ⊢
    rw [on_position]
    exact iff_of_true rfl (Or.inl rfl)
  · rw [or_iff_right empty]
    have values : (numbers.map Value.number) ≠ [] := by simpa using empty
    by_cases few : (Number.int ((numbers.length + 1 : Nat) : Int)).inRange
    · obtain ⟨x, on_position, x_place⟩ := quantile_eq_atPosition (s := ⟨numbers.map .number⟩) q_place
        q_le values (by rw [size_eq]; exact few)
      rw [size_eq] at x_place
      rw [on_position, isOk_atPosition empty x_place, and_iff_right few]
      rfl
    · have product : (Number.float q).mul (.int ((numbers.length + 1 : Nat) : Int)) = none := by
        rw [Number.mul, Number.combine_float_left, Option.map_eq_none_iff, ← Option.not_isSome_iff_eq_none,
          Number.isSome_toBinary64?]
        exact few
      have full : (numbers.map Value.number).isEmpty = false := by simpa using empty
      rw [size_eq, product, full] at on_position
      rw [on_position]
      exact iff_of_false Bool.false_ne_true fun defined => few defined.1

end Snapshot

namespace Extractor

/-- Extractors as a table has them: a percentile is a binary64 number between 0 and 100. -/
def IsChecked : Extractor → Prop
  | .percentile p => ∃ real, p = .float real ∧ Percentile.isValid (.float real)
  | _ => True

/-- When the statistic of numbers is given. -/
def DefinedOn (numbers : List Number) : Extractor → Prop
  | .min => True
  | .max => True
  | .mean => Statistics.Summable numbers
  | .stddev => numbers.length ≤ 1 ∨
      ((∀ x ∈ numbers, x.isFinite) ∧ Statistics.VarianceInRange numbers)
  | .percentile p => ∃ real, p = .float real ∧ Snapshot.PercentileDefined numbers real

theorem isOk_map {ε α β : Type} (f : α → β) (result : Except ε α) :
    (result.map f).isOk = result.isOk := by
  cases result <;> rfl

theorem isOk_apply {e : Extractor} (checked : e.IsChecked) {numbers : List Number}
    (measured : ∀ x ∈ numbers, x.isNaN = false) :
    (e.apply ⟨numbers.map .number⟩).isOk ↔ e.DefinedOn numbers := by
  cases e with
  | min => simp [apply, query, Snapshot.ask, DefinedOn, Except.isOk, Except.toBool]
  | max => simp [apply, query, Snapshot.ask, DefinedOn, Except.isOk, Except.toBool]
  | mean =>
    change ((Snapshot.mean ⟨numbers.map .number⟩).map Value.float).isOk ↔ Statistics.Summable numbers
    rw [isOk_map, ← Statistics.isOk_mean measured]
    unfold Snapshot.mean
    cases numbers with
    | nil =>
      have summed : (Statistics.mean []).isOk :=
        (Statistics.isOk_mean measured).mpr ⟨by simp, by simp, rfl⟩
      exact iff_of_true rfl summed
    | cons x rest => exact Iff.rfl
  | stddev =>
    change ((Snapshot.stddev ⟨numbers.map .number⟩).map Value.float).isOk ↔ _ ∨ _
    rw [isOk_map]
    unfold Snapshot.stddev
    split
    · rename_i few
      have few : numbers.length ≤ 1 := by simpa [Snapshot.size] using few
      simp [few, Except.isOk, Except.toBool]
    · rename_i many
      have many : ¬ numbers.length ≤ 1 := by simpa [Snapshot.size] using many
      have nonempty : numbers ≠ [] := by
        rintro rfl
        exact many (Nat.zero_le _)
      rw [Statistics.deviation_isOk nonempty]
      simp [many]
  | percentile p =>
    obtain ⟨real, rfl, valid⟩ := checked
    change ((Snapshot.valueAtPercentile ⟨numbers.map .number⟩ (.float real)).map Value.number).isOk ↔ _
    rw [isOk_map, Snapshot.isOk_valueAtPercentile valid]
    constructor
    · intro defined
      exact ⟨real, rfl, defined⟩
    · rintro ⟨other, same, defined⟩
      obtain rfl := Number.float.inj (Value.number.inj same)
      exact defined

end Extractor

end SampledMetrics
