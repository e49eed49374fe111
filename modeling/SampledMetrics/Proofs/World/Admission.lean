import Mathlib.Algebra.Order.Field.Basic
import Mathlib.Data.Rat.Cast.Order
import Mathlib.Order.WithBot
import SampledMetrics.Proofs.Binary64.Arithmetic
import SampledMetrics.Proofs.Snapshot.Sorted
import SampledMetrics.Proofs.World.Change
/-!
Reservoirs that hold only what is admitted as an observation.  Numbers are compared by their exact values,
and an order of values is total, whatever the kinds of the numbers.  Two kinds of reservoir check every
value themselves; one that keeps whatever it is given holds such values as long as it is given them by
histograms, which check first.  Every operation of a world keeps its reservoirs so, but for observations
that are handed to a store of that kind directly.
-/

set_option autoImplicit false
set_option relaxedAutoImplicit false

namespace SampledMetrics

open Binary64 (unitsPerOne)

/-- The exact value at a place, with the ends of the line. -/
def Place.value : Place → WithBot (WithTop ℚ)
  | .bottom => ⊥
  | .whole units => (((units / unitsPerOne : ℚ) : WithTop ℚ) : WithBot (WithTop ℚ))
  | .top => ((⊤ : WithTop ℚ) : WithBot (WithTop ℚ))

private theorem Place.value_le_iff {p q : Place} : p.value ≤ q.value ↔ q.before p = false := by
  have positive : (0 : ℚ) < unitsPerOne := Nat.cast_pos.mpr Binary64.unitsPerOne_pos
  cases p with
  | bottom =>
    refine iff_of_true bot_le ?_
    cases q <;> rfl
  | whole u =>
    cases q with
    | bottom => exact iff_of_false (WithBot.not_coe_le_bot _) nofun
    | whole v =>
      rw [value, value, WithBot.coe_le_coe, WithTop.coe_le_coe, div_le_div_iff_of_pos_right positive,
        Int.cast_le]
      exact (decide_eq_false_iff_not.trans Int.not_lt).symm
    | top => exact iff_of_true (WithBot.coe_le_coe.mpr le_top) rfl
  | top =>
    cases q with
    | bottom => exact iff_of_false (WithBot.not_coe_le_bot _) nofun
    | whole v =>
      refine iff_of_false (fun below => ?_) nofun
      exact WithTop.not_top_le_coe _ (WithBot.coe_le_coe.mp below)
    | top => exact iff_of_true le_rfl rfl

namespace Number

/-- The exact value of a number; not-a-number has none of its own. -/
def value (x : Number) : WithBot (WithTop ℚ) :=
  (x.place?.map Place.value).getD ⊥

variable {x y : Number}

theorem le_iff_value (hx : x.isNaN = false) (hy : y.isNaN = false) : x.le y ↔ x.value ≤ y.value := by
  obtain ⟨p, px⟩ := Option.isSome_iff_exists.mp (place?_isSome_of_not_isNaN hx)
  obtain ⟨q, qy⟩ := Option.isSome_iff_exists.mp (place?_isSome_of_not_isNaN hy)
  simp only [le, value, px, qy, Option.map_some, Option.getD_some]
  rw [Place.value_le_iff, Bool.not_eq_true']

/-- Of two numbers that can be ordered, one precedes the other exactly when the other is not below it or
equal. -/
theorem precedes_number (hx : x.isNaN = false) (hy : y.isNaN = false) :
    (Value.number x).precedes (.number y) = .ok (!y.le x) := by
  obtain ⟨p, px⟩ := Option.isSome_iff_exists.mp (place?_isSome_of_not_isNaN hx)
  obtain ⟨q, qy⟩ := Option.isSome_iff_exists.mp (place?_isSome_of_not_isNaN hy)
  have compared : x.lt y = !y.le x := by simp [lt, le, px, qy]
  rw [← compared]
  rfl

end Number

namespace Reservoir

/-- Everything held would be admitted as an observation. -/
def Admitted (r : Reservoir) : Prop :=
  ∀ v ∈ r.samples, (observation? v).isSome

/-- The observations among the samples, in the order of the slots. -/
def observations (r : Reservoir) : List Number :=
  r.samples.filterMap observation?

theorem observations_measured (r : Reservoir) : ∀ x ∈ r.observations, x.isNaN = false := by
  intro x held
  obtain ⟨v, _, accepted⟩ := List.mem_filterMap.mp held
  exact (observation?_eq_some_iff.mp accepted).2

variable {r : Reservoir}

theorem Admitted.samples_eq (admitted : r.Admitted) : r.samples = r.observations.map .number := by
  unfold observations
  unfold Admitted at admitted
  generalize r.samples = held at admitted ⊢
  induction held with
  | nil => rfl
  | cons v rest ih =>
    obtain ⟨first, others⟩ := List.forall_mem_cons.mp admitted
    obtain ⟨x, accepted⟩ := Option.isSome_iff_exists.mp first
    rw [List.filterMap_cons_some accepted, List.map_cons, ← ih others, (observation?_eq_some_iff.mp accepted).1]

theorem Admitted.snapshot_eq (admitted : r.Admitted) :
    r.snapshot = .ok ⟨(Number.sorted r.observations).map .number⟩ := by
  unfold snapshot
  rw [admitted.samples_eq]
  exact Snapshot.ofValues_numbers r.observations_measured

theorem Measured.admitted (held : r.Measured) : r.Admitted := by
  intro v present
  rw [held.samples_eq] at present
  obtain ⟨x, among, rfl⟩ := List.mem_map.mp present
  have accepted : observation? (.number x) = some x :=
    observation?_eq_some_iff.mpr ⟨rfl, held.measured x among⟩
  rw [accepted]
  rfl

/-- A store of a caller's own, which keeps whatever it is given. -/
def isKeeping : Reservoir → Bool
  | .keeping _ => true
  | _ => false

theorem Admitted.measured (admitted : r.Admitted) (checks : r.isKeeping = false) : r.Measured := by
  have number {x : Number} (held : Value.number x ∈ r.samples) : x.isNaN = false := by
    obtain ⟨y, accepted⟩ := Option.isSome_iff_exists.mp (admitted _ held)
    obtain ⟨same, measured⟩ := observation?_eq_some_iff.mp accepted
    rwa [Value.number.inj same]
  cases r with
  | keeping store => cases checks
  | uniform sample =>
    refine measured_uniform fun x present => number ?_
    exact List.mem_map_of_mem (Array.mem_toList_iff.mpr present)
  | sliding window =>
    refine measured_sliding fun x present => number ?_
    exact List.mem_map_of_mem (Array.mem_toList_iff.mpr present)

theorem isKeeping_update (r : Reservoir) (value : Value) : (r.update value).2.isKeeping = r.isKeeping := by
  cases r with
  | keeping store => rfl
  | uniform sample =>
    unfold update
    dsimp only
    split <;> rfl
  | sliding window =>
    unfold update
    dsimp only
    split <;> rfl

theorem Admitted.update (admitted : r.Admitted) {value : Value}
    (fed : r.isKeeping = false ∨ (observation? value).isSome) : (r.update value).2.Admitted := by
  cases checks : r.isKeeping with
  | false => exact ((admitted.measured checks).update value).admitted
  | true =>
    have accepted := fed.resolve_left (by rw [checks]; decide)
    cases r with
    | uniform sample => cases checks
    | sliding window => cases checks
    | keeping store =>
      intro v present
      have pushed : v ∈ store.samples.toList ++ [value] := by
        simpa [Reservoir.update, samples] using present
      rcases List.mem_append.mp pushed with old | new
      · exact admitted v old
      · rwa [List.mem_singleton.mp new]

theorem admitted_of_makeUniform {size seed : Value} {words : Nat → UInt64}
    (made : makeUniform size seed words = .ok r) : r.Admitted :=
  (BuiltIn.uniform made).measured.admitted

end Reservoir

/-- A reservoir holds admitted values only; of other objects nothing is said. -/
def Object.Admitted : Object → Prop
  | .reservoir r => r.Admitted
  | _ => True

/-- Whether an object is a store that keeps whatever it is given. -/
def Object.isKeeping : Object → Bool
  | .reservoir r => r.isKeeping
  | _ => false

namespace World

/-- Every reservoir holds admitted values only. -/
def Admits (w : World) : Prop :=
  ∀ id, (w.object id).Admitted

variable {w w' : World}

theorem admits_empty (words : ObjectId → Nat → UInt64) : (empty words).Admits := by
  intro id
  simp [empty, object, default, Object.Admitted]

theorem Admits.congr (admits : w.Admits) (same : w'.objects = w.objects) : w'.Admits := by
  intro id
  rw [object_congr same]
  exact admits id

theorem Admits.add (admits : w.Admits) {object : Object} (admitted : object.Admitted) :
    (w.add object).2.Admits := by
  intro id
  rw [object_add]
  split
  · exact admitted
  · exact admits id

theorem Admits.put (admits : w.Admits) (id : ObjectId) {object : Object} (admitted : object.Admitted) :
    (w.put id object).Admits := by
  intro other
  rw [object_put]
  split
  · exact admitted
  · exact admits other

theorem Admits.updateSamples (admits : w.Admits) {id : ObjectId} {value : Value}
    (fed : (w.object id).isKeeping = false ∨ (observation? value).isSome) :
    (w.updateSamples id value).2.Admits := by
  have before := admits id
  rw [updateSamples_eq]
  refine admits.put id ?_
  cases stands : w.object id with
  | reservoir r =>
    rw [stands] at before fed
    exact Reservoir.Admitted.update before fed
  | _ => trivial

theorem Admits.updateHistogram (admits : w.Admits) (h : Histogram) (value : Value) :
    (w.updateHistogram h value).2.Admits := by
  unfold World.updateHistogram World.updateGround
  split
  · split
    · rename_i x accepted
      split
      · exact admits
      · have admitted : observation? (.number x) = some x :=
          observation?_eq_some_iff.mpr ⟨rfl, (observationOf_eq_ok_iff.mp accepted).2⟩
        exact admits.updateSamples (Or.inr (Option.isSome_of_eq_some admitted))
    · exact admits
  · exact admits

theorem Admits.update (admits : w.Admits) {id : ObjectId} (spared : (w.object id).isKeeping = false)
    (value : Value) : (w.update id value).2.Admits := by
  unfold World.update
  split
  · exact admits.updateHistogram _ value
  · exact admits.updateSamples (Or.inl spared)

theorem isKeeping_update (w : World) (id : ObjectId) (value : Value) :
    ((w.update id value).2.object id).isKeeping = (w.object id).isKeeping := by
  cases stands : w.object id with
  | reservoir r =>
    have changed : (w.update id value).2 = w.put id (.reservoir (r.update value).2) := by
      simp only [World.update, stands, updateSamples_eq]
      rfl
    rw [changed, object_put]
    split
    · exact r.isKeeping_update value
    · rw [stands]
  | _ =>
    rcases w.observes_update id value with same | ⟨g, old, new, -, stood, changed⟩
    · rw [same, stands]
    · have elsewhere : ¬ (id = g ∧ g < w.objects.size) := by
        rintro ⟨rfl, -⟩
        rw [stands] at stood
        cases stood
      rw [changed, object_put, if_neg elsewhere, stands]

section Building

variable {d : Defaults}

theorem Admits.settle {recipe : Recipe} {v : World} {u : Unstored} {events : List Event} (admits : w.Admits)
    (made : v.make recipe d = (.ok u, events)) : (w.settle u).2.Admits := by
  obtain ⟨-, ⟨id, -, ground⟩ | ⟨-, r, words, ground, fresh⟩⟩ := make_cases made
  · simp only [World.settle, ground]
    exact admits
  · simp only [World.settle, ground]
    have held : Object.Admitted (.reservoir r) := Reservoir.admitted_of_makeUniform fresh
    exact admits.add held

/-- A histogram may be built on anything, for what is made with it holds nothing yet. -/
theorem Admits.built {explicit? : Option ObjectId} (admits : w.Admits) (built : Built d explicit? w w') :
    w'.Admits := by
  cases built with
  | kept left => exact admits.congr left
  | discarded v recipe u events made left => exact (admits.settle made).congr left
  | stored v recipe u events made given left =>
    have settled := admits.settle made
    have finished : (Object.histogram (w.settle u).1).Admitted := trivial
    exact (settled.add finished).congr left

end Building

theorem ground?_of_reservoir {h : Histogram} {r : Reservoir} (stands : w.object h.reservoir = .reservoir r) :
    w.ground? h = some h.reservoir := by
  unfold ground? chainRoom groundIn
  rw [stands]

end World

end SampledMetrics
