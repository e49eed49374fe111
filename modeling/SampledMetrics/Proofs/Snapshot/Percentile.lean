import Mathlib.Data.List.Chain
import SampledMetrics.Extractor
import SampledMetrics.Proofs.Binary64.Interpolation
import SampledMetrics.Proofs.Number
import SampledMetrics.Proofs.Snapshot.Sorted
/-!
Percentiles of a snapshot.  Every step of the rank rule is followed in exact units: the quantile, the
position, its fraction, and the point between two samples.  Main statement: on samples that fit binary64
and have finite distances, the value at a percentile is always given, lies between the least and the
greatest sample, and grows with the percentile, exactly.
-/

set_option autoImplicit false
set_option relaxedAutoImplicit false

namespace SampledMetrics

open Binary64 (unitsPerOne ceiling roundUnits IsPosition Ladder between pointAt stepAtOne)

theorem Value.toBinary64_number {x : Number} {real : Binary64} (converted : x.toBinary64? = some real) :
    (Value.number x).toBinary64 = .ok real := by
  simp only [Value.toBinary64, Value.asNumber?, Value.number?, converted]

namespace Snapshot

section Position

variable {x : Binary64} {position : Nat}

theorem truncate?_getD (place : x.place? = some (.whole position)) :
    (Number.float x).truncate?.getD 0 = ((position / unitsPerOne : Nat) : Int) := by
  simp only [Number.truncate?, Binary64.truncate?_of_place? place, Option.getD_some]

theorem floor?_float (place : x.place? = some (.whole position)) :
    (Number.float x).floor? = some ((position / unitsPerOne : Nat) : Int) := by
  simp only [Number.floor?, Binary64.floor?_of_place? place]

theorem fractionPart_of_floor? {number : Number} {whole : Int} {rest : Option Number}
    (floor : number.floor? = some whole) (difference : number.sub (.int whole) = rest) :
    fractionPart number = rest := by
  unfold fractionPart
  rw [floor, Option.bind_some, difference]

theorem fractionPart_eq (p : IsPosition position)
    (position_place : x.place? = some (.whole position)) :
    ∃ fraction, fractionPart (.float x) = some (.float fraction)
      ∧ fraction.place? = some (.whole ((position % unitsPerOne : Nat) : Int)) := by
  have index : position / unitsPerOne < Nat.pow 2 53 :=
    (Nat.div_lt_iff_lt_mul Binary64.unitsPerOne_pos).mpr p.small
  have fits : (Number.int ((position / unitsPerOne : Nat) : Int)).fits := by
    rw [Number.fits_natCast]
    exact decide_eq_true (Nat.le_of_lt index)
  obtain ⟨whole, converted, whole_place⟩ := Number.toBinary64?_of_fits fits
  rw [Number.units_int] at whole_place
  have rest : (position : Int) - ((position / unitsPerOne : Nat) : Int) * unitsPerOne
      = ((position % unitsPerOne : Nat) : Int) := by
    have split := Nat.div_add_mod' position unitsPerOne
    rw [← Int.natCast_mul]
    omega
  have grid := Binary64.roundUnits_one p.spacing_dvd_fraction
  have proper := Nat.mod_lt position Binary64.unitsPerOne_pos
  have one := Binary64.mul_unitsPerOne_lt_ceiling (by decide : 1 ≤ Nat.pow 2 53)
  have place := Binary64.place?_sub position_place whole_place (by
    rw [rest, Int.natAbs_natCast, grid]
    omega)
  rw [rest, Binary64.roundSigned_natCast, grid] at place
  exact ⟨x.sub whole,
    fractionPart_of_floor? (floor?_float position_place) (Number.float_sub converted), place⟩

theorem interpolate_eq {low high : Number} (low_fits : low.fits) (high_fits : high.fits)
    (ordered : low.units ≤ high.units)
    (gap : ((high.sub low).bind Number.toBinary64?).any Binary64.isFinite) {fraction : Nat}
    (short : fraction + stepAtOne ≤ unitsPerOne) (place : x.place? = some (.whole fraction)) :
    ∃ point, interpolate (.number low) (.number high) (.float x) = .ok (.float point)
      ∧ point.place? = some (.whole (between low.units high.units fraction)) := by
  obtain ⟨distance, real, difference, converted, distance_place⟩ :=
    Number.toBinary64?_sub high_fits low_fits gap
  obtain ⟨start, start_converted, start_place⟩ := Number.toBinary64?_of_fits low_fits
  have width : high.units - low.units = ((high.units - low.units).toNat : Int) := by omega
  rw [width, Binary64.roundSigned_natCast] at distance_place
  have part_le := Binary64.partOf_le_rounded (by omega : fraction ≤ unitsPerOne)
    (high.units - low.units).toNat
  have part_place := Binary64.place?_mul place distance_place (by
    rw [← Int.natCast_mul, Int.natAbs_natCast]
    exact Nat.lt_of_le_of_lt part_le (Binary64.representable_of_place? distance_place).1)
  rw [← Int.natCast_mul, Binary64.roundSigned_natCast] at part_place
  have point_place := Binary64.place?_add start_place part_place
    (Binary64.roundUnits_natAbs_lt (Number.onGrid_of_fits low_fits) (Number.onGrid_of_fits high_fits)
      (by omega) (Binary64.add_partOf_le ordered short))
  refine ⟨_, ?_, point_place⟩
  have part := @Number.float_mul x real distance converted
  have point := @Number.add_float low start (x.mul real) start_converted
  simp only [interpolate, Value.asNumber?, Value.number?, Number.orTooLarge, difference, part, point,
    bind, Except.bind]

end Position

section Index

variable {s : Snapshot} {position : Number} {index : Nat}

theorem atPosition_before (whole : position.truncate?.getD 0 = index) (before : index < 1) :
    s.atPosition position = s.min.toBinary64.map .float := by
  unfold atPosition
  simp only [whole]
  rw [dif_pos (by omega)]
  rfl

theorem atPosition_beyond (whole : position.truncate?.getD 0 = index) (later : ¬ index < 1)
    (beyond : s.size ≤ index) : s.atPosition position = s.max.toBinary64.map .float := by
  unfold atPosition
  simp only [whole]
  rw [dif_neg (by omega), dif_pos (by omega)]
  rfl

theorem atPosition_inside (whole : position.truncate?.getD 0 = index) (later : ¬ index < 1)
    (inside : index < s.values.length) {fraction : Number}
    (part : fractionPart position = some fraction) :
    s.atPosition position = interpolate s.values[index - 1] s.values[index] fraction := by
  unfold atPosition
  simp only [whole, Int.toNat_natCast]
  rw [dif_neg (by omega), dif_neg (by unfold size; omega), part]
  rfl

end Index

theorem min_numbers {numbers : List Number} (nonempty : numbers ≠ []) :
    Snapshot.min ⟨numbers.map .number⟩ = .number (numbers.head nonempty) := by
  unfold Snapshot.min
  rw [List.head?_map, List.head?_eq_some_head nonempty]
  rfl

theorem max_numbers {numbers : List Number} (nonempty : numbers ≠ []) :
    Snapshot.max ⟨numbers.map .number⟩ = .number (numbers.getLast nonempty) := by
  unfold Snapshot.max
  rw [List.getLast?_map, List.getLast?_eq_some_getLast nonempty]
  rfl

/-- Samples in ascending order that fit binary64, each at a finite distance from the next. -/
structure Steps (numbers : List Number) : Prop where
  nonempty : numbers ≠ []
  fits : ∀ x ∈ numbers, x.fits
  ordered : numbers.Pairwise fun x y => x.le y
  gaps : numbers.IsChain fun x y => ((y.sub x).bind Number.toBinary64?).any Binary64.isFinite

/-- The exact value of the sample with an index. -/
def rung (numbers : List Number) (index : Nat) : Int :=
  (numbers.getD index (.int 0)).units

section Steps

variable {numbers : List Number}

theorem rung_eq {index : Nat} (inside : index < numbers.length) :
    rung numbers index = numbers[index].units := by
  unfold rung
  rw [List.getD_eq_getElem?_getD, List.getElem?_eq_getElem inside, Option.getD_some]

theorem Steps.ladder (steps : Steps numbers) : Ladder (rung numbers) numbers.length where
  positive := List.length_pos_iff.mpr steps.nonempty
  ascending := by
    intro i j le inside
    rcases Nat.lt_or_eq_of_le le with below | rfl
    · rw [rung_eq (Nat.lt_trans below inside), rung_eq inside]
      have ordered := List.pairwise_iff_getElem.mp steps.ordered i j (by omega) inside below
      exact (Number.le_iff_of_place? (Number.place?_of_fits (steps.fits _ (List.getElem_mem _)))
        (Number.place?_of_fits (steps.fits _ (List.getElem_mem _)))).mp ordered
    · exact Int.le_refl _
  onGrid := by
    intro i inside
    rw [rung_eq inside]
    exact Number.onGrid_of_fits (steps.fits _ (List.getElem_mem _))

private theorem Steps.rung_zero (steps : Steps numbers) :
    rung numbers 0 = (numbers.head steps.nonempty).units := by
  rw [rung_eq steps.ladder.positive, List.head_eq_getElem]

theorem Steps.rung_last (steps : Steps numbers) :
    rung numbers (numbers.length - 1) = (numbers.getLast steps.nonempty).units := by
  have positive := steps.ladder.positive
  rw [rung_eq (by omega), List.getLast_eq_getElem]

theorem Steps.atPosition_eq (steps : Steps numbers) {x : Binary64} {position : Nat}
    (p : IsPosition position) (place : x.place? = some (.whole position)) :
    ∃ point, atPosition ⟨numbers.map .number⟩ (.float x) = .ok (.float point)
      ∧ point.place? = some (.whole (pointAt (rung numbers) numbers.length position)) := by
  have whole := truncate?_getD place
  unfold pointAt
  split
  · rename_i before
    obtain ⟨real, converted, real_place⟩ :=
      Number.toBinary64?_of_fits (steps.fits _ (List.head_mem steps.nonempty))
    refine ⟨real, ?_, by rw [steps.rung_zero, real_place]⟩
    rw [atPosition_before whole before, min_numbers steps.nonempty, Value.toBinary64_number converted]
    rfl
  · rename_i later
    split
    · rename_i beyond
      obtain ⟨real, converted, real_place⟩ :=
        Number.toBinary64?_of_fits (steps.fits _ (List.getLast_mem steps.nonempty))
      refine ⟨real, ?_, by rw [steps.rung_last, real_place]⟩
      rw [atPosition_beyond whole later (by simpa [size] using beyond), max_numbers steps.nonempty,
        Value.toBinary64_number converted]
      rfl
    · rename_i inside
      obtain ⟨index, index_eq⟩ := Nat.exists_eq_add_one.mpr (by omega : 0 < position / unitsPerOne)
      have short := p.fraction_short (Binary64.unitsPerOne_le_of_index later)
      obtain ⟨fraction, part, fraction_place⟩ := fractionPart_eq p place
      rw [index_eq] at whole later inside ⊢
      have here : index + 1 < numbers.length := by omega
      have ordered := steps.ladder.ascending index (index + 1) (Nat.le_succ _) here
      have gap := List.isChain_iff_getElem.mp steps.gaps index here
      rw [rung_eq (Nat.lt_of_succ_lt here), rung_eq here] at ordered
      rw [Nat.add_sub_cancel, rung_eq (Nat.lt_of_succ_lt here), rung_eq here]
      rw [atPosition_inside whole later (by simpa using here) part]
      simp only [List.getElem_map, Nat.add_sub_cancel]
      exact interpolate_eq (steps.fits _ (List.getElem_mem _)) (steps.fits _ (List.getElem_mem _))
        ordered gap short fraction_place

end Steps

def quantileUnits (percentile : Nat) : Nat :=
  roundUnits (percentile * unitsPerOne) (100 * unitsPerOne)

/-- The position of a quantile among so many samples, in units. -/
def positionUnits (quantile count : Nat) : Nat :=
  roundUnits (quantile * roundUnits ((count + 1) * unitsPerOne) 1) unitsPerOne

private theorem hundred_pos : 0 < 100 * unitsPerOne :=
  Nat.mul_pos (by decide) Binary64.unitsPerOne_pos

theorem quantileUnits_le {percentile : Nat} (le : percentile ≤ 100 * unitsPerOne) :
    quantileUnits percentile ≤ unitsPerOne := by
  refine Binary64.roundUnits_le hundred_pos Binary64.spacing_dvd_unitsPerOne ?_
  rw [Nat.mul_comm unitsPerOne]
  exact Nat.mul_le_mul_right _ le

private theorem quantileUnits_mono {percentile percentile' : Nat} (le : percentile ≤ percentile') :
    quantileUnits percentile ≤ quantileUnits percentile' :=
  Binary64.roundUnits_mono hundred_pos (Nat.mul_le_mul_right _ le)

private theorem positionUnits_le_rounded {quantile : Nat} (le : quantile ≤ unitsPerOne) (count : Nat) :
    positionUnits quantile count ≤ roundUnits ((count + 1) * unitsPerOne) 1 := by
  refine Binary64.roundUnits_le Binary64.unitsPerOne_pos (Binary64.spacing_dvd_roundUnits _ _) ?_
  rw [Nat.mul_comm]
  exact Nat.mul_le_mul_left _ le

private theorem positionUnits_le {quantile count : Nat} (le : quantile ≤ unitsPerOne)
    (few : count + 1 ≤ Nat.pow 2 53) :
    positionUnits quantile count ≤ (count + 1) * unitsPerOne := by
  have rounded := positionUnits_le_rounded le count
  rwa [Binary64.roundUnits_one (Binary64.spacing_dvd_mul_unitsPerOne few)] at rounded

private theorem positionUnits_mono {quantile quantile' : Nat} (le : quantile ≤ quantile') (count : Nat) :
    positionUnits quantile count ≤ positionUnits quantile' count :=
  Binary64.roundUnits_mono Binary64.unitsPerOne_pos (Nat.mul_le_mul_right _ le)

private theorem isPosition_positionUnits {quantile count : Nat} (le : quantile ≤ unitsPerOne)
    (few : count + 1 < Nat.pow 2 53) : IsPosition (positionUnits quantile count) where
  grid := Binary64.spacing_dvd_roundUnits _ _
  small := Nat.lt_of_le_of_lt (positionUnits_le le (Nat.le_of_lt few))
    (Nat.mul_lt_mul_of_pos_right few Binary64.unitsPerOne_pos)

theorem exists_place?_of_between {p : Binary64} {top : Nat}
    (inside : (Number.int 0).le (.float p) && (Number.float p).le (.int top)) :
    ∃ units : Nat, p.place? = some (.whole units) ∧ units ≤ top * unitsPerOne := by
  cases place : p.place? with
  | none =>
    simp only [Number.le, Number.place?, place, Bool.and_self] at inside
    contradiction
  | some here =>
    simp only [Number.le, Number.place?, place, Bool.and_eq_true] at inside
    cases here with
    | bottom => simp [Place.before] at inside
    | top => simp [Place.before] at inside
    | whole units =>
      simp only [Place.before, Bool.not_eq_true', decide_eq_false_iff_not, Int.not_lt,
        Int.zero_mul] at inside
      obtain ⟨above, below⟩ := inside
      rw [← Int.natCast_mul] at below
      refine ⟨units.toNat, ?_, ?_⟩
      · rw [Int.toNat_of_nonneg above]
      · omega

theorem exists_place?_of_isValid {p : Binary64} (valid : Percentile.isValid (.float p)) :
    ∃ percentile : Nat, p.place? = some (.whole percentile) ∧ percentile ≤ 100 * unitsPerOne :=
  exists_place?_of_between valid

def isOutside (q : Binary64) : Bool :=
  q.isNaN || q.lt (Binary64.zero false) || (Binary64.ofInt 1).lt q

theorem quantile_eq_ite (s : Snapshot) (q : Binary64) :
    s.quantile (.float q) =
      if isOutside q then .error (.quantileOutside (.float q))
      else if s.values.isEmpty then .ok (.float (Binary64.zero false))
      else (Number.orTooLarge ((Number.float q).mul (.int ((s.size + 1 : Nat) : Int)))).bind
        s.atPosition := by
  rw [Int.natCast_succ]
  rfl

section Range

variable {q : Binary64} {quantile : Nat}

theorem isOutside_iff {units : Int} (place : q.place? = some (.whole units)) :
    isOutside q ↔ units < 0 ∨ (unitsPerOne : Int) < units := by
  have zero : (Binary64.zero false).place? = some (.whole 0) := rfl
  have number : q.isNaN = false := by
    obtain ⟨negative, magnitude, rfl, -⟩ := Binary64.place?_eq_whole_iff.mp place
    rfl
  unfold isOutside
  rw [number, Binary64.lt_of_place? place zero, Binary64.lt_of_place? Binary64.place?_one place, Bool.false_or,
    Bool.or_eq_true, decide_eq_true_iff, decide_eq_true_iff]

theorem quantile_eq (s : Snapshot) (place : q.place? = some (.whole quantile))
    (le : quantile ≤ unitsPerOne) :
    s.quantile (.float q) =
      if s.values.isEmpty then .ok (.float (Binary64.zero false))
      else (Number.orTooLarge ((Number.float q).mul (.int ((s.size + 1 : Nat) : Int)))).bind
        s.atPosition := by
  rw [quantile_eq_ite, if_neg ((isOutside_iff place).not.mpr (by omega))]

end Range

theorem quantile_eq_product {s : Snapshot} {q count : Binary64} {quantile : Nat}
    (place : q.place? = some (.whole quantile)) (le : quantile ≤ unitsPerOne) (nonempty : s.values ≠ [])
    (converted : (Number.int ((s.size + 1 : Nat) : Int)).toBinary64? = some count)
    (count_place : count.place? = some (.whole (roundUnits ((s.size + 1) * unitsPerOne) 1 : Nat))) :
    s.quantile (.float q) = s.atPosition (.float (q.mul count))
      ∧ (q.mul count).place? = some (.whole (positionUnits quantile s.size)) := by
  have position_lt : positionUnits quantile s.size < ceiling :=
    Nat.lt_of_le_of_lt (positionUnits_le_rounded le s.size)
      (Binary64.representable_of_place? count_place).1
  unfold positionUnits at position_lt ⊢
  have position_place := Binary64.place?_mul place count_place (by
    rw [← Int.natCast_mul, Int.natAbs_natCast]
    exact position_lt)
  rw [← Int.natCast_mul, Binary64.roundSigned_natCast] at position_place
  have full : s.values.isEmpty = false := by simpa using nonempty
  refine ⟨?_, position_place⟩
  rw [quantile_eq s place le, full, Number.float_mul converted]
  rfl

theorem quantile_eq_atPosition {s : Snapshot} {q : Binary64} {quantile : Nat}
    (place : q.place? = some (.whole quantile)) (le : quantile ≤ unitsPerOne)
    (nonempty : s.values ≠ []) (few : (Number.int ((s.size + 1 : Nat) : Int)).inRange) :
    ∃ x, s.quantile (.float q) = s.atPosition (.float x)
      ∧ x.place? = some (.whole (positionUnits quantile s.size)) := by
  obtain ⟨count, converted, count_place⟩ := Number.toBinary64?_natCast few
  exact ⟨q.mul count, quantile_eq_product place le nonempty converted count_place⟩

theorem place?_hundredth {p : Binary64} {units : Int} (place : p.place? = some (.whole units)) :
    (p.div (Binary64.ofInt 100)).place?
      = some (.whole (Binary64.roundSigned (units * unitsPerOne) (100 * unitsPerOne))) := by
  have hundred := Binary64.place?_ofInt_exact (by decide : (100 : Int).natAbs ≤ Nat.pow 2 53)
  have divisor : (100 : Int) * unitsPerOne = ((100 * unitsPerOne : Nat) : Int) := by
    rw [Int.natCast_mul]
    rfl
  rw [divisor] at hundred
  have grid := Binary64.onGrid_of_place? place
  refine Binary64.place?_div place hundred hundred_pos (Nat.lt_of_le_of_lt ?_ grid.1)
  rw [Binary64.natAbs_mul_unitsPerOne, Binary64.roundUnits_mul_mul _ _ Binary64.unitsPerOne_pos]
  exact Binary64.roundUnits_le (by decide) grid.2 (Nat.le_mul_of_pos_right _ (by decide))

theorem percentile_eq_quantile {s : Snapshot} {p : Binary64} {percentile : Nat}
    (place : p.place? = some (.whole percentile)) :
    ∃ q, s.valueAtPercentile (.float p) = s.quantile (.float q)
      ∧ q.place? = some (.whole (quantileUnits percentile)) := by
  have q_place := place?_hundredth place
  rw [← Int.natCast_mul, Binary64.roundSigned_natCast] at q_place
  exact ⟨p.div (Binary64.ofInt 100), rfl, q_place⟩

private theorem Steps.valueAtPercentile_eq {numbers : List Number} (steps : Steps numbers)
    (few : numbers.length + 1 < Nat.pow 2 53) {p : Binary64} {percentile : Nat}
    (place : p.place? = some (.whole percentile)) (le : percentile ≤ 100 * unitsPerOne) :
    ∃ point, valueAtPercentile ⟨numbers.map .number⟩ (.float p) = .ok (.float point)
      ∧ point.place? = some (.whole (pointAt (rung numbers) numbers.length
        (positionUnits (quantileUnits percentile) numbers.length))) := by
  have size_eq : size ⟨numbers.map .number⟩ = numbers.length := List.length_map ..
  obtain ⟨q, on_quantile, q_place⟩ := percentile_eq_quantile (s := ⟨numbers.map .number⟩) place
  have q_le := quantileUnits_le le
  have few_fits : (Number.int ((numbers.length + 1 : Nat) : Int)).fits := by
    rw [Number.fits_natCast]
    exact decide_eq_true (Nat.le_of_lt few)
  obtain ⟨x, on_position, x_place⟩ := quantile_eq_atPosition (s := ⟨numbers.map .number⟩) q_place q_le
    (by simpa using steps.nonempty) (by rw [size_eq]; exact Number.inRange_of_fits few_fits)
  rw [size_eq] at x_place
  rw [on_quantile, on_position]
  exact steps.atPosition_eq (isPosition_positionUnits q_le few) x_place

private theorem steps_sorted {samples : List Number} (nonempty : samples ≠ []) (fits : ∀ x ∈ samples, x.fits)
    (gaps : (Number.sorted samples).IsChain fun x y =>
      ((y.sub x).bind Number.toBinary64?).any Binary64.isFinite) : Steps (Number.sorted samples) where
  nonempty := by
    intro empty
    have perm := Number.sorted_perm samples
    rw [empty] at perm
    exact nonempty perm.nil_eq.symm
  fits := fun x hx => fits x ((Number.sorted_perm samples).mem_iff.mp hx)
  ordered := Number.sorted_pairwise fun x hx => Number.isNaN_of_fits (fits x hx)
  gaps := gaps

/-- The value at a percentile lies between the least and the greatest sample and grows with the
percentile. -/
theorem valueAtPercentile_bounded_mono {samples : List Number} (nonempty : samples ≠ [])
    (fits : ∀ x ∈ samples, x.fits) (few : samples.length < Nat.pow 2 53 - 1)
    (gaps : (Number.sorted samples).IsChain fun x y =>
      ((y.sub x).bind Number.toBinary64?).any Binary64.isFinite)
    {p q : Binary64} (hp : Percentile.isValid (.float p)) (hq : Percentile.isValid (.float q))
    (le : (Number.float p).le (.float q)) :
    ∃ s x y, Snapshot.ofValues (samples.map .number) = .ok s
      ∧ s.valueAtPercentile (.float p) = .ok x ∧ s.valueAtPercentile (.float q) = .ok y
      ∧ s.min.notAfter (.number x) ∧ x.le y ∧ (Value.number y).notAfter s.max := by
  have steps := steps_sorted nonempty fits gaps
  have few' : (Number.sorted samples).length + 1 < Nat.pow 2 53 := by
    rw [(Number.sorted_perm samples).length_eq]
    omega
  obtain ⟨percentile, p_place, p_le⟩ := exists_place?_of_isValid hp
  obtain ⟨percentile', q_place, q_le⟩ := exists_place?_of_isValid hq
  obtain ⟨x, x_eq, x_place⟩ := steps.valueAtPercentile_eq few' p_place p_le
  obtain ⟨y, y_eq, y_place⟩ := steps.valueAtPercentile_eq few' q_place q_le
  have percentiles : percentile ≤ percentile' :=
    Int.ofNat_le.mp ((Number.le_iff_of_place? (x := .float p) (y := .float q) p_place q_place).mp le)
  have p_position := isPosition_positionUnits (quantileUnits_le p_le) few'
  have q_position := isPosition_positionUnits (quantileUnits_le q_le) few'
  have least := steps.ladder.first_le_pointAt
    (positionUnits (quantileUnits percentile) (Number.sorted samples).length)
  have greatest := steps.ladder.pointAt_le_last q_position
  have grows := steps.ladder.pointAt_mono p_position
    (positionUnits_mono (quantileUnits_mono percentiles) (Number.sorted samples).length)
  rw [steps.rung_zero] at least
  rw [steps.rung_last] at greatest
  have head_place := Number.place?_of_fits (steps.fits _ (List.head_mem steps.nonempty))
  have last_place := Number.place?_of_fits (steps.fits _ (List.getLast_mem steps.nonempty))
  refine ⟨_, .float x, .float y,
    ofValues_numbers (fun x hx => Number.isNaN_of_fits (fits x hx)), x_eq, y_eq, ?_, ?_, ?_⟩
  · rw [min_numbers steps.nonempty]
    exact (Number.le_iff_of_place? (y := .float x) head_place x_place).mpr least
  · exact (Number.le_iff_of_place? (x := .float x) (y := .float y) x_place y_place).mpr grows
  · rw [max_numbers steps.nonempty]
    exact (Number.le_iff_of_place? (x := .float y) y_place last_place).mpr greatest

/-- An integer on either side of one half. -/
def mixedSamples : List Number :=
  [.int (-2), .float (Binary64.ofRatio false 1 2), .int 7]

theorem valueAtPercentile_thirty_sixty :
    ∃ s x y, Snapshot.ofValues (mixedSamples.map .number) = .ok s
      ∧ s.valueAtPercentile (.float (Binary64.ofInt 30)) = .ok x
      ∧ s.valueAtPercentile (.float (Binary64.ofInt 60)) = .ok y
      ∧ s.min.notAfter (.number x) ∧ x.le y ∧ (Value.number y).notAfter s.max := by
  have ordered : mixedSamples.Pairwise fun x y => x.le y := by decide +kernel
  have gaps : (Number.sorted mixedSamples).IsChain fun x y =>
      ((y.sub x).bind Number.toBinary64?).any Binary64.isFinite := by
    rw [Number.sorted_of_pairwise ordered]
    decide +kernel
  exact valueAtPercentile_bounded_mono (by decide) (by decide +kernel) (by decide) gaps
    (by decide +kernel) (by decide +kernel) (by decide +kernel)

end Snapshot

end SampledMetrics
