import SampledMetrics.Proofs.Snapshot.Percentile
/-!
Quantiles of consecutive integers.  The sample at a whole rank is the rank itself, so that the value between
two samples is the position itself: the fraction, its part of the distance and the sum are all exact.  Main
statement: of the integers from one to a count, a quantile is its position, the rounded product with one
more than the count, moved into the range of the samples.
-/

set_option autoImplicit false
set_option relaxedAutoImplicit false

namespace SampledMetrics

open Binary64 (unitsPerOne roundUnits roundSigned OnGrid IsPosition between partOf pointAt)

namespace Binary64

/-- A number moved to the end of a range that it passes. -/
def clamp (low high x : Binary64) : Binary64 :=
  if x.lt low then low else if high.lt x then high else x

private theorem place?_clamp {low high x : Binary64} {a b u : Int} (low_place : low.place? = some (.whole a))
    (high_place : high.place? = some (.whole b)) (place : x.place? = some (.whole u)) :
    (clamp low high x).place? = some (.whole (if u < a then a else if b < u then b else u)) := by
  unfold clamp
  rw [lt_of_place? place low_place, lt_of_place? high_place place]
  by_cases before : u < a
  · simp only [before, decide_true, if_true, low_place]
  · by_cases beyond : b < u
    · simp only [before, beyond, decide_true, decide_false, if_true, if_false, high_place,
        Bool.false_eq_true]
    · simp only [before, beyond, decide_false, if_false, place, Bool.false_eq_true]

private theorem between_neighbours {position : Nat} (p : IsPosition position) {index : Nat}
    (here : position / unitsPerOne = index) :
    between ((index * unitsPerOne : Nat) : Int) (((index + 1) * unitsPerOne : Nat) : Int)
      (position % unitsPerOne) = position := by
  have gap : ((((index + 1) * unitsPerOne : Nat) : Int) - ((index * unitsPerOne : Nat) : Int)).toNat
      = unitsPerOne := by
    rw [Nat.succ_mul]
    omega
  have part : partOf (position % unitsPerOne) unitsPerOne = position % unitsPerOne := by
    unfold partOf
    rw [roundUnits_one spacing_dvd_unitsPerOne, roundUnits_mul unitsPerOne_pos p.spacing_dvd_fraction]
  have sum : ((index * unitsPerOne : Nat) : Int) + (position % unitsPerOne : Nat) = (position : Int) := by
    have split := Nat.div_add_mod' position unitsPerOne
    rw [here] at split
    omega
  unfold between
  rw [gap, part, sum, roundSigned_natCast, roundUnits_one p.grid]

end Binary64

namespace Snapshot

def consecutive (count : Nat) : List Int :=
  (List.range count).map fun (index : Nat) => (index : Int) + 1

section Consecutive

variable {count : Nat}

private theorem length_consecutive (count : Nat) : (consecutive count).length = count := by
  unfold consecutive
  rw [List.length_map, List.length_range]

private theorem getElem_consecutive {index : Nat} (inside : index < (consecutive count).length) :
    (consecutive count)[index] = (index : Int) + 1 := by
  simp only [consecutive, List.getElem_map, List.getElem_range]

private theorem mem_consecutive {x : Int} (present : x ∈ consecutive count) : 1 ≤ x ∧ x ≤ count := by
  unfold consecutive at present
  obtain ⟨index, inside, rfl⟩ := List.mem_map.mp present
  have below := List.mem_range.mp inside
  omega

private theorem int_le_int {x y : Int} : (Number.int x).le (.int y) ↔ x ≤ y := by
  rw [Number.le_iff_of_place? (x := .int x) (y := .int y) rfl rfl]
  exact Int.mul_le_mul_right (Int.natCast_pos.mpr Binary64.unitsPerOne_pos)

private theorem consecutive_pairwise (count : Nat) :
    ((consecutive count).map Number.int).Pairwise fun x y => x.le y := by
  rw [List.pairwise_map]
  unfold consecutive
  rw [List.pairwise_map]
  refine List.pairwise_lt_range.imp fun {a b} lt => int_le_int.mpr ?_
  omega

private theorem sorted_of_perm {values : List Int} (perm : values.Perm (consecutive count)) :
    Number.sorted (values.map .int) = (consecutive count).map .int := by
  have numbers := (Number.sorted_perm (values.map .int)).trans (perm.map Number.int)
  have ordered := Number.sorted_pairwise (@Number.isNaN_of_mem_integers values)
  refine numbers.eq_of_pairwise ?_ ordered (consecutive_pairwise count)
  intro x y hx hy le le'
  obtain ⟨a, -, rfl⟩ := List.mem_map.mp (numbers.mem_iff.mp hx)
  obtain ⟨b, -, rfl⟩ := List.mem_map.mp hy
  exact congrArg Number.int (Int.le_antisymm (int_le_int.mp le) (int_le_int.mp le'))

private theorem steps_consecutive (one : 1 ≤ count) (few : count + 1 ≤ Nat.pow 2 53) :
    Steps ((consecutive count).map .int) where
  nonempty := by
    intro none
    have length := congrArg List.length none
    rw [List.length_map, length_consecutive] at length
    exact absurd length (by simp; omega)
  fits := by
    intro x present
    obtain ⟨whole, inside, rfl⟩ := List.mem_map.mp present
    have bounds := mem_consecutive inside
    exact decide_eq_true (by omega)
  ordered := consecutive_pairwise count
  gaps := by
    refine List.isChain_iff_getElem.mpr fun index inside => ?_
    rw [List.getElem_map, List.getElem_map, getElem_consecutive, getElem_consecutive, Number.int_sub_int]
    have step : ((index + 1 : Nat) : Int) + 1 - ((index : Int) + 1) = 1 := by omega
    have finite : (Binary64.ofInt 1).isFinite :=
      Binary64.isFinite_iff.mpr ⟨_, Binary64.place?_one⟩
    rw [step, Option.bind_some, Number.toBinary64?_int, if_pos finite, Option.any_some, finite]

private theorem rung_consecutive {index : Nat} (inside : index < count) :
    rung ((consecutive count).map .int) index = ((index + 1) * unitsPerOne : Nat) := by
  have length := length_consecutive count
  rw [rung_eq (by rw [List.length_map]; omega), List.getElem_map, getElem_consecutive, Number.units_int]
  push_cast
  rfl

private theorem pointAt_consecutive {position : Nat} (one : 1 ≤ count) (p : IsPosition position) :
    pointAt (rung ((consecutive count).map .int)) count position =
      if (position : Int) < (unitsPerOne : Nat) then ((unitsPerOne : Nat) : Int)
      else if ((count * unitsPerOne : Nat) : Int) < position then ((count * unitsPerOne : Nat) : Int)
      else (position : Int) := by
  have positive := Binary64.unitsPerOne_pos
  have before : position / unitsPerOne < 1 ↔ position < unitsPerOne := by
    rw [Nat.div_lt_iff_lt_mul positive, Nat.one_mul]
  have beyond : count ≤ position / unitsPerOne ↔ count * unitsPerOne ≤ position :=
    Nat.le_div_iff_mul_le positive
  unfold pointAt
  by_cases early : position < unitsPerOne
  · rw [if_pos (before.mpr early), if_pos (Int.ofNat_lt.mpr early), rung_consecutive one, Nat.zero_add,
      Nat.one_mul]
  rw [if_neg (fun index => early (before.mp index)), if_neg (fun lt => early (Int.ofNat_lt.mp lt))]
  by_cases late : count * unitsPerOne ≤ position
  · have last : count - 1 + 1 = count := by omega
    rw [if_pos (beyond.mpr late), rung_consecutive (by omega), last]
    split <;> omega
  · obtain ⟨index, here⟩ := Nat.exists_eq_add_one.mpr
      (by rw [Nat.div_pos_iff]; omega : 0 < position / unitsPerOne)
    have inside : index + 1 < count := by
      rw [← beyond] at late
      omega
    rw [if_neg (fun le => late (beyond.mp le)), if_neg (by omega), here, Nat.add_sub_cancel,
      rung_consecutive (by omega), rung_consecutive inside]
    exact Binary64.between_neighbours p here

end Consecutive

private theorem exists_atPosition_consecutive {count position : Nat} (one : 1 ≤ count)
    (few : count + 1 ≤ Nat.pow 2 53) {x : Binary64} (place : x.place? = some (.whole position)) :
    ∃ y, atPosition ⟨((consecutive count).map Number.int).map .number⟩ (.float x) = .ok (.float y) ∧
      y.place? = some (.whole (if (position : Int) < (unitsPerOne : Nat) then ((unitsPerOne : Nat) : Int)
        else if ((count * unitsPerOne : Nat) : Int) < position then ((count * unitsPerOne : Nat) : Int)
        else (position : Int))) := by
  have steps := steps_consecutive one few
  have length : ((consecutive count).map Number.int).length = count := by
    rw [List.length_map, length_consecutive]
  by_cases late : count * unitsPerOne ≤ position
  · have index := (Nat.le_div_iff_mul_le Binary64.unitsPerOne_pos).mpr late
    have last := steps.rung_last
    rw [length, rung_consecutive (by omega), Nat.sub_add_cancel one] at last
    obtain ⟨real, converted, real_place⟩ :=
      Number.toBinary64?_of_fits (steps.fits _ (List.getLast_mem steps.nonempty))
    have first : unitsPerOne ≤ position := Nat.le_trans (Nat.le_mul_of_pos_left _ one) late
    refine ⟨real, ?_, ?_⟩
    · rw [atPosition_beyond (truncate?_getD place) (by omega) (by simpa [size, length_consecutive] using index),
        max_numbers steps.nonempty, Value.toBinary64_number converted]
      rfl
    · rw [real_place, ← last, if_neg (by omega)]
      split
      · rfl
      · have same : ((count * unitsPerOne : Nat) : Int) = position := by omega
        rw [same]
  · have small : position < Nat.pow 2 53 * unitsPerOne :=
      Nat.lt_of_lt_of_le (Nat.lt_of_not_le late) (Nat.mul_le_mul_right _ (by omega))
    have p : IsPosition position := ⟨(Binary64.representable_of_place? place).2, small⟩
    obtain ⟨y, value, y_place⟩ := steps.atPosition_eq p place
    rw [length, pointAt_consecutive one p] at y_place
    exact ⟨y, value, y_place⟩

/-- Of the integers from one to a count, in any order, the value at a quantile is the rounded product of the
quantile and one more than the count, moved into their range; nothing else is rounded. -/
theorem getValue_consecutive {count : Nat} (one : 1 ≤ count) (few : count + 1 ≤ Nat.pow 2 53)
    {values : List Int} (perm : values.Perm (consecutive count)) {q : Binary64}
    (inside : (Number.int 0).le (.float q) && (Number.float q).le (.int 1)) :
    ∃ s, Snapshot.ofValues (values.map .int) = .ok s ∧
      s.getValue (.float q) = .ok (.float (Binary64.clamp (Binary64.ofInt 1) (Binary64.ofInt count)
        (q.mul (Binary64.ofInt ((count + 1 : Nat) : Int))))) := by
  have made := ofValues_integers values
  rw [sorted_of_perm perm] at made
  refine ⟨_, made, ?_⟩
  have size_eq : size ⟨((consecutive count).map Number.int).map .number⟩ = count := by
    unfold size
    rw [List.length_map, List.length_map, length_consecutive]
  have nonempty : ((consecutive count).map Number.int).map Value.number ≠ [] := by
    simpa using (steps_consecutive one few).nonempty
  obtain ⟨quantile, q_place, q_le⟩ := @exists_place?_of_between q 1 inside
  rw [Nat.one_mul] at q_le
  have exact : ((count + 1 : Nat) : Int).natAbs ≤ Nat.pow 2 53 := few
  have count_place := Binary64.place?_ofInt_exact exact
  have converted : (Number.int ((count + 1 : Nat) : Int)).toBinary64? =
      some (Binary64.ofInt ((count + 1 : Nat) : Int)) := by
    rw [Number.toBinary64?_int, if_pos (Binary64.isFinite_iff.mpr ⟨_, count_place⟩)]
  have grid := Binary64.roundUnits_one (Binary64.spacing_dvd_mul_unitsPerOne few)
  obtain ⟨on_position, place⟩ := quantile_eq_product
    (s := ⟨((consecutive count).map Number.int).map .number⟩) q_place q_le nonempty
    (by rw [size_eq]; exact converted) (by rw [size_eq, grid, count_place]; rfl)
  obtain ⟨y, value, y_place⟩ := exists_atPosition_consecutive one few place
  have answer : getValue ⟨((consecutive count).map Number.int).map .number⟩ (.float q) = .ok (.float y) :=
    on_position.trans value
  have last_place := Binary64.place?_ofInt_exact
    (by omega : (count : Int).natAbs ≤ Nat.pow 2 53)
  rw [← Int.natCast_mul] at last_place
  have clamp_place := Binary64.place?_clamp Binary64.place?_one last_place place
  have positive := Binary64.unitsPerOne_pos
  have farther : unitsPerOne ≤ count * unitsPerOne := Nat.le_mul_of_pos_left _ one
  rw [answer, Binary64.eq_of_place? y_place clamp_place (by split <;> [skip; split] <;> omega)]

/-- At half of four the three integers give their middle one. -/
theorem getValue_consecutive_three :
    (1 ≤ 3 ∧ 3 + 1 ≤ Nat.pow 2 53 ∧ ([3, 1, 2] : List Int).Perm (consecutive 3)
      ∧ ((Number.int 0).le (.float (Binary64.ofRatio false 1 2))
        && (Number.float (Binary64.ofRatio false 1 2)).le (.int 1)) = true) ∧
    ∃ s, Snapshot.ofValues (([3, 1, 2] : List Int).map .int) = .ok s ∧
      s.getValue (.float (Binary64.ofRatio false 1 2)) = .ok (.float (Binary64.clamp (Binary64.ofInt 1)
        (Binary64.ofInt 3) ((Binary64.ofRatio false 1 2).mul (Binary64.ofInt ((3 + 1 : Nat) : Int))))) := by
  have few : 3 + 1 ≤ Nat.pow 2 53 := by decide
  have perm : ([3, 1, 2] : List Int).Perm (consecutive 3) := by decide
  have inside : ((Number.int 0).le (.float (Binary64.ofRatio false 1 2))
      && (Number.float (Binary64.ofRatio false 1 2)).le (.int 1)) = true := by decide +kernel
  exact ⟨⟨by decide, few, perm, inside⟩, getValue_consecutive (by decide) few perm inside⟩

end Snapshot

end SampledMetrics
