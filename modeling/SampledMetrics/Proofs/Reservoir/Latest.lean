import Mathlib.Data.List.Rotate
import SampledMetrics.Proofs.Reservoir.BuiltIn
/-!
What a sliding window holds after any calls.  Arrivals are numbered from zero, and each goes to the slot
of its number modulo the capacity: while there is room this is the slot after the last, and later the
slot of the oldest arrival held.  Main statement: after `N` observations taken a window of capacity `C`
has counted `N` and holds the last `min N C`, each in its slot, so a snapshot shows these in order.
-/

set_option autoImplicit false
set_option relaxedAutoImplicit false

namespace SampledMetrics

namespace SlidingWindow

variable {α : Type} {r : SlidingWindow α} {arrivals : List α}

/-- A window after its arrivals: the last ones, as many as there are slots, are all held, each in the
slot of its number. -/
structure After (r : SlidingWindow α) (arrivals : List α) : Prop where
  count_eq : r.count = arrivals.length
  size_eq : r.samples.size = min arrivals.length r.capacity
  slot_eq : ∀ k < arrivals.length, arrivals.length ≤ k + r.capacity →
    r.samples[k % r.capacity]? = arrivals[k]?

private theorem after_empty (capacity : Nat) : (empty capacity : SlidingWindow α).After [] where
  count_eq := rfl
  size_eq := (Nat.zero_min capacity).symm
  slot_eq := fun k none => absurd none (Nat.not_lt_zero k)

private theorem slot_ne {k next capacity : Nat} (earlier : k < next) (near : next < k + capacity) :
    next % capacity ≠ k % capacity := by
  intro same
  have whole : capacity ∣ next - k := Nat.dvd_of_mod_eq_zero (Nat.sub_mod_eq_zero_of_mod_eq same)
  have far := Nat.le_of_dvd (Nat.sub_pos_of_lt earlier) whole
  omega

theorem After.update (held : r.After arrivals) (value : α) :
    (r.update value).After (arrivals ++ [value]) := by
  have size := held.size_eq
  have count := held.count_eq
  unfold SlidingWindow.update
  split
  · rename_i room
    have few : arrivals.length < r.capacity := by omega
    refine ⟨by simp [count], by simp; omega, fun k inside _ => ?_⟩
    rw [List.length_append, List.length_singleton] at inside
    have slot : k % r.capacity = k := Nat.mod_eq_of_lt (by omega)
    rcases Nat.lt_succ_iff_lt_or_eq.mp inside with earlier | rfl
    · have kept := held.slot_eq k earlier (by omega)
      rw [slot] at kept ⊢
      rw [Array.getElem?_push, if_neg (by omega), kept, List.getElem?_append_left earlier]
    · rw [slot, Array.getElem?_push, if_pos (by omega), List.getElem?_concat_length]
  · rename_i full
    have many : r.capacity ≤ arrivals.length := by omega
    refine ⟨by simp [count], by simp; omega, fun k inside due => ?_⟩
    rw [List.length_append, List.length_singleton] at inside due
    dsimp only at due ⊢
    rw [count]
    rcases Nat.lt_succ_iff_lt_or_eq.mp inside with earlier | rfl
    · rw [Array.getElem?_setIfInBounds_ne (slot_ne earlier (by omega)),
        held.slot_eq k earlier (by omega), List.getElem?_append_left earlier]
    · have slot : arrivals.length % r.capacity < r.samples.size := by
        rw [size, Nat.min_eq_right many]
        exact Nat.mod_lt _ (by omega)
      rw [Array.getElem?_setIfInBounds_self_of_lt slot, List.getElem?_concat_length]

theorem After.foldl (held : r.After arrivals) (values : List α) :
    (values.foldl SlidingWindow.update r).After (arrivals ++ values) := by
  induction values generalizing r arrivals with
  | nil => simpa using held
  | cons value rest ih =>
    rw [List.append_cons]
    exact ih (held.update value)

private theorem After.rotate_eq (held : r.After arrivals) :
    r.samples.toList.rotate (arrivals.length - r.capacity) =
      arrivals.drop (arrivals.length - r.capacity) := by
  have size : r.samples.toList.length = min arrivals.length r.capacity := by
    simpa using held.size_eq
  refine List.ext_getElem? fun i => ?_
  by_cases inside : i < min arrivals.length r.capacity
  · rw [List.getElem?_rotate (by omega), List.getElem?_drop, Array.getElem?_toList, size,
      ← held.slot_eq (arrivals.length - r.capacity + i) (by omega) (by omega)]
    rcases Nat.le_total arrivals.length r.capacity with few | many
    · rw [Nat.sub_eq_zero_of_le few, Nat.add_zero, Nat.zero_add, Nat.mod_eq_of_lt inside,
        Nat.mod_eq_of_lt (by omega)]
    · rw [Nat.min_eq_right many, Nat.add_comm]
  · rw [List.getElem?_eq_none (by rw [List.length_rotate]; omega),
      List.getElem?_eq_none (by rw [List.length_drop]; omega)]

theorem After.perm (held : r.After arrivals) :
    r.samples.toList.Perm (arrivals.drop (arrivals.length - r.capacity)) :=
  held.rotate_eq ▸ (List.rotate_perm r.samples.toList _).symm

private theorem capacity_foldl (values : List α) (r : SlidingWindow α) :
    (values.foldl SlidingWindow.update r).capacity = r.capacity := by
  induction values generalizing r with
  | nil => rfl
  | cons value rest ih => exact ih (r.update value)

end SlidingWindow

namespace Reservoir

private theorem offer_sliding (window : SlidingWindow Number) (calls : List Value) :
    (sliding window).offer calls =
      ((calls.filterMap observation?).map .number,
        sliding ((calls.filterMap observation?).foldl SlidingWindow.update window)) := by
  induction calls generalizing window with
  | nil => rfl
  | cons value rest ih =>
    cases accepted : observationOf value with
    | error failure =>
      have refused : observation? value = none := by simp [observation?, accepted, Except.toOption]
      simp only [offer, update, accepted, List.filterMap_cons, refused]
      exact ih window
    | ok x =>
      have found : observation? value = some x := by simp [observation?, accepted, Except.toOption]
      obtain ⟨rfl, _⟩ := observationOf_eq_ok_iff.mp accepted
      simp only [offer, update, accepted, List.filterMap_cons, found, ih (window.update x),
        List.map_cons, List.foldl_cons]

/-- A window of capacity `C` takes the calls that are accepted and refuses the others.  After `N` of them
the count is `N` and the size the lesser of `N` and `C`; of the last `N` arrivals, as many as there are
slots, each is in the slot of its number modulo `C`, and a snapshot holds exactly these in order. -/
theorem offer_sliding_latest {capacity : Nat} (positive : 1 ≤ capacity) (calls : List Value) :
    ∃ (start : Reservoir) (taken : List Number) (window : SlidingWindow Number)
      (ordered : List Number),
      makeSliding (.int capacity) = .ok start ∧
      taken = calls.filterMap observation? ∧
      start.offer calls = (taken.map .number, sliding window) ∧
      (sliding window).count? = some (.int taken.length) ∧
      (sliding window).size = min taken.length capacity ∧
      (∀ k, taken.length - min taken.length capacity ≤ k → k < taken.length →
        window.samples[k % capacity]? = taken[k]?) ∧
      (sliding window).snapshot = .ok ⟨ordered.map .number⟩ ∧
      ordered.Pairwise (fun x y => x.le y) ∧
      ordered.Perm (taken.drop (taken.length - min taken.length capacity)) := by
  have accepted : checkCapacity (.int capacity) = .ok capacity := by
    have large : ¬ (capacity : Int) < 1 := by omega
    simp [checkCapacity, Value.int, large]
  have after := (SlidingWindow.after_empty capacity).foldl (calls.filterMap observation?)
  have room := SlidingWindow.capacity_foldl (calls.filterMap observation?) (.empty capacity)
  rw [List.nil_append] at after
  have numbers : ∀ x ∈ calls.filterMap observation?, x.isNaN = false := by
    intro x present
    obtain ⟨value, _, found⟩ := List.mem_filterMap.mp present
    exact (observation?_eq_some_iff.mp found).2
  have run := offer_sliding (.empty capacity) calls
  generalize (calls.filterMap observation?).foldl SlidingWindow.update (.empty capacity) = window
    at after room run
  obtain rfl : window.capacity = capacity := room
  generalize calls.filterMap observation? = taken at after numbers run
  have last : taken.length - min taken.length window.capacity = taken.length - window.capacity := by
    omega
  have held : ∀ x ∈ window.samples.toList, x.isNaN = false := fun x present =>
    numbers x (List.mem_of_mem_drop (after.perm.subset present))
  refine ⟨.sliding (.empty window.capacity), taken, window, Number.sorted window.samples.toList, ?_, rfl,
    run, ?_, after.size_eq, ?_, ?_, Number.sorted_pairwise held, ?_⟩
  · rw [makeSliding, accepted]
    rfl
  · rw [count?, after.count_eq]
  · intro k due inside
    exact after.slot_eq k inside (by omega)
  · exact (measured_sliding fun x present => held x (Array.mem_toList_iff.mpr present)).snapshot_eq
  · rw [last]
    exact (Number.sorted_perm _).trans after.perm

/-- Four calls on a window of two slots, one of which is refused: the third number that is taken has come
in the place of the first. -/
theorem offer_sliding_latest_wrapped :
    1 ≤ 2 ∧ ∃ (start : Reservoir) (window : SlidingWindow Number) (ordered : List Number),
      makeSliding (.int 2) = .ok start ∧
      start.offer [.int 5, .int 3, .text "7", .int 9] = ([.int 5, .int 3, .int 9], sliding window) ∧
      (sliding window).count? = some (.int 3) ∧
      (sliding window).size = 2 ∧
      window.samples[0]? = some (.int 9) ∧ window.samples[1]? = some (.int 3) ∧
      (sliding window).snapshot = .ok ⟨ordered.map .number⟩ ∧
      ordered.Pairwise (fun x y => x.le y) ∧
      ordered.Perm [.int 3, .int 9] := by
  have positive : 1 ≤ 2 := by decide
  obtain ⟨start, taken, window, ordered, made, rfl, run, count, size, slots, shown, order, last⟩ :=
    offer_sliding_latest positive [.int 5, .int 3, .text "7", .int 9]
  exact ⟨positive, start, window, ordered, made, run, count, size, slots 2 (by decide) (by decide),
    slots 1 (by decide) (by decide), shown, order, last⟩

end Reservoir

end SampledMetrics
