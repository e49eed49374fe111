import SampledMetrics.Proofs.Snapshot.Sorted
import SampledMetrics.Reservoir
/-!
The two kinds of reservoirs that check what they are given.  Whatever calls are made on one, it holds
numbers other than not-a-number, so a snapshot of it is always made.
-/

set_option autoImplicit false
set_option relaxedAutoImplicit false

namespace SampledMetrics

/-- The observation that a value is, if it is accepted as one. -/
def observation? (value : Value) : Option Number :=
  (observationOf value).toOption

theorem observationOf_eq_ok_iff {value : Value} {x : Number} :
    observationOf value = .ok x ↔ value = .number x ∧ x.isNaN = false := by
  unfold observationOf
  cases value with
  | number y =>
    cases nan : y.isNaN with
    | true =>
      constructor
      · intro accepted
        simp [Value.number?, nan] at accepted
      · rintro ⟨same, number⟩
        cases same
        rw [nan] at number
        contradiction
    | false =>
      simp only [Value.number?, nan, Value.number.injEq]
      constructor
      · intro same
        cases same
        exact ⟨rfl, nan⟩
      · rintro ⟨rfl, _⟩
        rfl
  | _ => simp [Value.number?, Number.isNaN, Binary64.isNaN]

theorem observation?_eq_some_iff {value : Value} {x : Number} :
    observation? value = some x ↔ value = .number x ∧ x.isNaN = false := by
  rw [← observationOf_eq_ok_iff, observation?]
  cases observationOf value <;> simp [Except.toOption]

private theorem UniformSample.mem_update {σ α : Type} {draw : σ → Nat → Option (Nat × σ)}
    {r : UniformSample σ α} {value x : α} (present : x ∈ (r.update draw value).2.samples) :
    x ∈ r.samples ∨ x = value := by
  unfold update at present
  split at present
  · exact Array.mem_push.mp present
  · split at present
    · exact Array.mem_or_eq_of_mem_setIfInBounds present
    · exact Or.inl present

private theorem SlidingWindow.mem_update {α : Type} {r : SlidingWindow α} {value x : α}
    (present : x ∈ (r.update value).samples) : x ∈ r.samples ∨ x = value := by
  unfold update at present
  dsimp only at present
  split at present
  · exact Array.mem_push.mp present
  · exact Array.mem_or_eq_of_mem_setIfInBounds present

namespace Reservoir

/-- Calls one after the other: the values that were taken, and the reservoir after them. -/
def offer (r : Reservoir) : List Value → List Value × Reservoir
  | [] => ([], r)
  | value :: rest =>
      match r.update value with
      | (.ok (), after) => (value :: (offer after rest).1, (offer after rest).2)
      | (.error _, after) => offer after rest

theorem offer_cons_snd (r : Reservoir) (value : Value) (rest : List Value) :
    (r.offer (value :: rest)).2 = ((r.update value).2.offer rest).2 := by
  rw [offer]
  rcases r.update value with ⟨_ | _, after⟩ <;> rfl

/-- A reservoir of one of the two kinds, after any calls. -/
inductive BuiltIn : Reservoir → Prop
  | uniform {size seed : Value} {words : Nat → UInt64} {r : Reservoir}
      (made : makeUniform size seed words = .ok r) : BuiltIn r
  | sliding {size : Value} {r : Reservoir} (made : makeSliding size = .ok r) : BuiltIn r
  | update {r : Reservoir} (value : Value) (before : BuiltIn r) : BuiltIn (r.update value).2

/-- The numbers held; those of a store that keeps everything are not looked at. -/
def numbers : Reservoir → List Number
  | .uniform r => r.samples.toList
  | .sliding r => r.samples.toList
  | .keeping _ => []

/-- A reservoir of one of the two kinds that holds numbers which can be ordered. -/
structure Measured (r : Reservoir) : Prop where
  samples_eq : r.samples = r.numbers.map .number
  measured : ∀ x ∈ r.numbers, x.isNaN = false
  checks : ∀ store, r ≠ .keeping store

theorem measured_uniform {sample : UniformSample WordStream Number}
    (measured : ∀ x ∈ sample.samples, x.isNaN = false) : Measured (.uniform sample) where
  samples_eq := rfl
  measured := fun x present => measured x (Array.mem_toList_iff.mp present)
  checks := by
    intro store same
    contradiction

theorem measured_sliding {window : SlidingWindow Number}
    (measured : ∀ x ∈ window.samples, x.isNaN = false) : Measured (.sliding window) where
  samples_eq := rfl
  measured := fun x present => measured x (Array.mem_toList_iff.mp present)
  checks := by
    intro store same
    contradiction

/-- One call, taken or refused, leaves numbers that can be ordered. -/
theorem Measured.update {r : Reservoir} (held : r.Measured) (value : Value) :
    (r.update value).2.Measured := by
  cases r with
  | keeping store => exact absurd rfl (held.checks store)
  | uniform sample =>
    have before : ∀ x ∈ sample.samples, x.isNaN = false := fun x present =>
      held.measured x (Array.mem_toList_iff.mpr present)
    unfold Reservoir.update
    dsimp only
    split
    · rename_i x accepted
      refine measured_uniform fun y present => ?_
      rcases UniformSample.mem_update present with old | rfl
      · exact before y old
      · exact (observationOf_eq_ok_iff.mp accepted).2
    · exact measured_uniform before
  | sliding window =>
    have before : ∀ x ∈ window.samples, x.isNaN = false := fun x present =>
      held.measured x (Array.mem_toList_iff.mpr present)
    unfold Reservoir.update
    dsimp only
    split
    · rename_i x accepted
      refine measured_sliding fun y present => ?_
      rcases SlidingWindow.mem_update present with old | rfl
      · exact before y old
      · exact (observationOf_eq_ok_iff.mp accepted).2
    · exact measured_sliding before

theorem Measured.update_refused {r : Reservoir} (held : r.Measured) {value : Value} {failure : Failure}
    (refused : observationOf value = .error failure) : (r.update value).2 = r := by
  cases r with
  | keeping store => exact absurd rfl (held.checks store)
  | uniform sample => simp [Reservoir.update, refused]
  | sliding window => simp [Reservoir.update, refused]

theorem BuiltIn.measured {r : Reservoir} (built : r.BuiltIn) : r.Measured := by
  induction built with
  | uniform made =>
    obtain ⟨capacity, -, made⟩ := Failure.bind_eq_ok_iff.mp made
    obtain ⟨stream, -, made⟩ := Failure.bind_eq_ok_iff.mp made
    obtain rfl := Except.ok.inj made
    exact measured_uniform fun x present => absurd present (Array.not_mem_empty x)
  | sliding made =>
    obtain ⟨capacity, -, made⟩ := Failure.bind_eq_ok_iff.mp made
    obtain rfl := Except.ok.inj made
    exact measured_sliding fun x present => absurd present (Array.not_mem_empty x)
  | update value _ ih => exact ih.update value

theorem BuiltIn.offer {r : Reservoir} (built : r.BuiltIn) (calls : List Value) :
    (r.offer calls).2.BuiltIn := by
  induction calls generalizing r with
  | nil => exact built
  | cons value rest ih =>
    rw [offer_cons_snd]
    exact ih (built.update value)

theorem Measured.snapshot_eq {r : Reservoir} (held : r.Measured) :
    r.snapshot = .ok ⟨(Number.sorted r.numbers).map .number⟩ := by
  unfold snapshot
  rw [held.samples_eq]
  exact Snapshot.ofValues_numbers held.measured

end Reservoir

end SampledMetrics
