import Mathlib.Data.List.Pairwise
import SampledMetrics.Snapshot
/-!
The samples of a snapshot in ascending order.  Numbers other than not-a-number are totally ordered by
their exact places, so a snapshot of them is always made; main statement: it holds the same numbers,
each not after the next.
-/

set_option autoImplicit false
set_option relaxedAutoImplicit false

namespace SampledMetrics

private theorem Place.not_before_trans {p q r : Place} (first : q.before p = false)
    (second : r.before q = false) : r.before p = false := by
  cases p <;> cases q <;> cases r <;> simp_all [before]
  omega

namespace Number

private theorem le_iff {x y : Number} :
    x.le y ↔ ∃ p q, x.place? = some p ∧ y.place? = some q ∧ q.before p = false := by
  unfold le
  cases x.place? <;> cases y.place? <;> simp

theorem le_iff_of_place? {x y : Number} {u v : Int} (hx : x.place? = some (.whole u))
    (hy : y.place? = some (.whole v)) : x.le y ↔ u ≤ v := by
  simp [le, hx, hy, Place.before]

theorem le_trans {x y z : Number} (first : x.le y) (second : y.le z) : x.le z := by
  obtain ⟨p, q, hp, hq, before⟩ := le_iff.mp first
  obtain ⟨q', r, hq', hr, before'⟩ := le_iff.mp second
  obtain rfl : q = q' := Option.some.inj (hq.symm.trans hq')
  exact le_iff.mpr ⟨p, r, hp, hr, Place.not_before_trans before before'⟩

theorem le_refl {x : Number} (number : x.isNaN = false) : x.le x := by
  obtain ⟨p, hp⟩ := Option.isSome_iff_exists.mp (place?_isSome_of_not_isNaN number)
  exact le_iff.mpr ⟨p, p, hp, hp, Place.before_irrefl p⟩

/-- The order of numbers, made total by putting not-a-number first. -/
private def leFromNaN (x y : Number) : Bool :=
  x.isNaN || (!y.isNaN && x.le y)

private theorem leFromNaN_trans (x y z : Number) (first : leFromNaN x y) (second : leFromNaN y z) :
    leFromNaN x z := by
  simp only [leFromNaN, Bool.or_eq_true, Bool.and_eq_true, Bool.not_eq_true'] at *
  rcases first with nan | ⟨number, le⟩
  · exact Or.inl nan
  · rcases second with nan | ⟨number', le'⟩
    · rw [number] at nan
      contradiction
    · exact Or.inr ⟨number', le_trans le le'⟩

private theorem leFromNaN_total (x y : Number) : leFromNaN x y || leFromNaN y x := by
  cases hx : x.isNaN with
  | true => simp [leFromNaN, hx]
  | false =>
    cases hy : y.isNaN with
    | true => simp [leFromNaN, hy]
    | false =>
      have total := le_total (place?_isSome_of_not_isNaN hx) (place?_isSome_of_not_isNaN hy)
      simpa [leFromNaN, hx, hy] using total

/-- Numbers in ascending order, equal ones in the order in which they came. -/
def sorted (numbers : List Number) : List Number :=
  numbers.mergeSort le

theorem sorted_perm (numbers : List Number) : (sorted numbers).Perm numbers :=
  List.mergeSort_perm numbers le

theorem sorted_of_pairwise {numbers : List Number} (ordered : numbers.Pairwise fun x y => x.le y) :
    sorted numbers = numbers :=
  List.mergeSort_of_pairwise ordered

private theorem sorted_eq_mergeSort {numbers : List Number} (measured : ∀ x ∈ numbers, x.isNaN = false) :
    sorted numbers = numbers.mergeSort leFromNaN := by
  have mapped := List.map_mergeSort (r := le) (s := leFromNaN) (f := id) (l := numbers) (by
    intro x hx y hy
    simp [leFromNaN, measured x hx, measured y hy])
  simpa [sorted] using mapped

theorem sorted_pairwise {numbers : List Number} (measured : ∀ x ∈ numbers, x.isNaN = false) :
    (sorted numbers).Pairwise fun x y => x.le y := by
  rw [sorted_eq_mergeSort measured]
  have ordered := List.pairwise_mergeSort leFromNaN_trans leFromNaN_total numbers
  refine ordered.imp_of_mem ?_
  intro x y hx hy le
  have number := measured x (List.mem_mergeSort.mp hx)
  simpa [leFromNaN, number, measured y (List.mem_mergeSort.mp hy)] using le

private theorem le_of_same {x y z : Number} (left : x.same y) (right : x.same z) : y.le z := by
  unfold same at left right
  cases hx : x.place? <;> cases hy : y.place? <;> cases hz : z.place? <;> simp_all [le, Place.before_irrefl]

/-- Equal numbers stay in the order in which they came. -/
theorem filter_sorted {numbers : List Number} (measured : ∀ x ∈ numbers, x.isNaN = false) (x : Number) :
    (sorted numbers).filter x.same = numbers.filter x.same := by
  have ordered : (numbers.filter x.same).Pairwise fun y z => leFromNaN y z := by
    refine List.pairwise_of_forall_mem_list ?_
    intro y hy z hz
    obtain ⟨-, left⟩ := List.mem_filter.mp hy
    obtain ⟨sampled, right⟩ := List.mem_filter.mp hz
    simp [leFromNaN, measured z sampled, le_of_same left right]
  have found : (numbers.filter x.same).Sublist (sorted numbers) := by
    rw [sorted_eq_mergeSort measured]
    exact List.sublist_mergeSort leFromNaN_trans leFromNaN_total ordered List.filter_sublist
  have filtered := found.filter x.same
  rw [List.filter_filter] at filtered
  simp only [Bool.and_self] at filtered
  have count := ((sorted_perm numbers).filter x.same).length_eq
  exact (filtered.eq_of_length count.symm).symm

end Number

theorem Snapshot.ofValues_numbers {numbers : List Number}
    (measured : ∀ x ∈ numbers, x.isNaN = false) :
    Snapshot.ofValues (numbers.map .number) = .ok ⟨(Number.sorted numbers).map .number⟩ := by
  have placed : (numbers.map Value.number).all fun v => v.place?.isSome := by
    simp only [List.all_map, List.all_eq_true]
    intro x hx
    exact Number.place?_isSome_of_not_isNaN (measured x hx)
  have mapped := List.map_mergeSort (r := Number.le) (s := Value.notAfter) (f := Value.number)
    (l := numbers) (fun _ _ _ _ => rfl)
  unfold Snapshot.ofValues Value.sort
  rw [if_pos placed, ← mapped]
  rfl

theorem Number.isNaN_of_mem_integers {values : List Int} : ∀ x ∈ values.map Number.int, x.isNaN = false := by
  intro x present
  obtain ⟨whole, -, rfl⟩ := List.mem_map.mp present
  rfl

theorem Snapshot.ofValues_integers (values : List Int) :
    Snapshot.ofValues (values.map .int) = .ok ⟨(Number.sorted (values.map .int)).map .number⟩ := by
  have numbers : values.map Value.int = (values.map Number.int).map .number := by
    rw [List.map_map]
    rfl
  rw [numbers, ofValues_numbers Number.isNaN_of_mem_integers]

end SampledMetrics
