import SampledMetrics.Proofs.World.Closed
import SampledMetrics.Proofs.Reservoir.BuiltIn
/-!
Updates look at few objects and change at most one.  An update that is refused changes nothing, and in two
worlds with the same objects below a bound an update there does the same.
-/

set_option autoImplicit false
set_option relaxedAutoImplicit false

namespace SampledMetrics

theorem UniformSample.update_refused {σ α : Type} {draw : σ → Nat → Option (Nat × σ)}
    {r r' : UniformSample σ α} {value : α} {failure : Failure}
    (refused : r.update draw value = (.error failure, r')) : r' = r := by
  unfold update at refused
  split at refused
  · simp at refused
  · split at refused
    · simp at refused
    · exact (Prod.mk.inj refused).2.symm

/-- A reservoir that refuses is left as it was: neither a count nor a draw nor a slot changes. -/
theorem Reservoir.update_refused {r r' : Reservoir} {value : Value} {failure : Failure}
    (refused : r.update value = (.error failure, r')) : r' = r := by
  cases r with
  | uniform sample =>
    unfold update at refused
    dsimp only at refused
    split at refused
    · rename_i x accepted
      rcases drawn : sample.update WordStream.below x with ⟨result, sample'⟩
      rw [drawn] at refused
      obtain ⟨rfl, rfl⟩ := Prod.mk.inj refused
      rw [UniformSample.update_refused drawn]
    · exact (Prod.mk.inj refused).2.symm
  | sliding window =>
    unfold update at refused
    dsimp only at refused
    split at refused
    · simp at refused
    · exact (Prod.mk.inj refused).2.symm
  | keeping store => simp [update] at refused

theorem Object.update_refused {object object' : Object} {value : Value} {failure : Failure}
    (refused : object.update value = (.error failure, object')) : object' = object := by
  cases object with
  | reservoir r =>
    unfold update at refused
    dsimp only at refused
    rcases updated : r.update value with ⟨result, r'⟩
    rw [updated] at refused
    obtain ⟨rfl, rfl⟩ := Prod.mk.inj refused
    rw [Reservoir.update_refused updated]
  | _ => exact (Prod.mk.inj refused).2.symm

namespace World

variable {w w' : World}

private theorem updateSamples_refused {id : ObjectId} {value : Value} {failure : Failure}
    (refused : (w.updateSamples id value).1 = .error failure) : (w.updateSamples id value).2 = w := by
  rw [updateSamples_eq] at refused ⊢
  have same : ((w.object id).update value).2 = w.object id :=
    Object.update_refused (Prod.ext refused rfl)
  simp only [same, put_object]

theorem update_refused {id : ObjectId} {value : Value} {failure : Failure}
    (refused : (w.update id value).1 = .error failure) : (w.update id value).2 = w := by
  unfold update at refused ⊢
  split
  · rename_i h stands
    simp only [stands] at refused
    unfold updateHistogram updateGround at refused ⊢
    split
    · rename_i observer
      simp only [observer, if_true] at refused
      split
      · rename_i x accepted
        simp only [accepted] at refused
        split
        · rfl
        · rename_i ground reached
          simp only [reached] at refused
          exact updateSamples_refused refused
      · rfl
    · rfl
  · rename_i other
    split at refused
    · rename_i h stands
      exact absurd stands (other h)
    · exact updateSamples_refused refused

/-- Whether no object takes every value for an observation. -/
def Checks (w : World) : Prop :=
  ∀ id store, w.object id ≠ .reservoir (.keeping store)

private theorem observationOf_of_observation? {value : Value} (unaccepted : observation? value = none) :
    ∃ failure, observationOf value = .error failure := by
  unfold observation? at unaccepted
  cases checked : observationOf value with
  | error failure => exact ⟨failure, rfl⟩
  | ok x => simp [checked, Except.toOption] at unaccepted

theorem Checks.update_unaccepted (checks : w.Checks) (id : ObjectId) {value : Value}
    (unaccepted : observation? value = none) : ∃ failure, (w.update id value).1 = .error failure := by
  obtain ⟨failure, refused⟩ := observationOf_of_observation? unaccepted
  unfold update
  split
  · unfold updateHistogram
    split
    · rw [refused]
      exact ⟨failure, rfl⟩
    · exact ⟨_, rfl⟩
  · rw [updateSamples_eq]
    cases stands : w.object id with
    | reservoir r =>
      cases r with
      | uniform sample => exact ⟨failure, by simp [Object.update, Reservoir.update, refused]⟩
      | sliding window => exact ⟨failure, by simp [Object.update, Reservoir.update, refused]⟩
      | keeping store => exact absurd stands (checks id store)
    | _ => exact ⟨_, rfl⟩

theorem Checks.put (checks : w.Checks) {id : ObjectId} {object : Object}
    (other : ∀ store, object ≠ .reservoir (.keeping store)) : (w.put id object).Checks := by
  intro place store
  rw [object_put]
  split
  · exact other store
  · exact checks place store

theorem Checks.add (checks : w.Checks) {object : Object}
    (other : ∀ store, object ≠ .reservoir (.keeping store)) : (w.add object).2.Checks := by
  intro id store
  rw [object_add]
  split
  · exact other store
  · exact checks id store

theorem Checks.updateSamples (checks : w.Checks) (id : ObjectId) (value : Value) :
    (w.updateSamples id value).2.Checks := by
  rw [updateSamples_eq]
  refine checks.put fun store => ?_
  cases stands : w.object id with
  | reservoir r =>
    cases r with
    | uniform sample =>
      simp only [Object.update, Reservoir.update]
      split <;> simp
    | sliding window =>
      simp only [Object.update, Reservoir.update]
      split <;> simp
    | keeping store' => exact absurd stands (checks id store')
  | _ => simp [Object.update]

theorem Checks.update (checks : w.Checks) (id : ObjectId) (value : Value) : (w.update id value).2.Checks := by
  unfold World.update
  split
  · unfold updateHistogram updateGround
    split
    · split
      · split
        · exact checks
        · exact checks.updateSamples _ _
      · exact checks
    · exact checks
  · exact checks.updateSamples id value

/-- Two worlds with the same objects below a bound, which refer to such objects only. -/
structure AgreesBelow (bound : Nat) (w w' : World) : Prop where
  left : bound ≤ w.objects.size
  right : bound ≤ w'.objects.size
  same : ∀ id < bound, w'.object id = w.object id
  points : ∀ id < bound, (w.object id).PointsBelow bound

variable {bound : Nat}

theorem Closed.agreesBelow (closed : w.Closed) : w.AgreesBelow w.objects.size w where
  left := Nat.le_refl _
  right := Nat.le_refl _
  same := fun _ _ => rfl
  points := fun id _ => closed.objects id

theorem AgreesBelow.groundIn (agree : AgreesBelow bound w w') (steps : Nat) {id : ObjectId}
    (below : id < bound) :
    groundIn steps w' id = groundIn steps w id ∧ ∀ ground, groundIn steps w id = some ground → ground < bound := by
  induction steps generalizing id with
  | zero => exact ⟨rfl, fun ground reached => by contradiction⟩
  | succ steps ih =>
    have points := agree.points id below
    unfold World.groundIn
    rw [agree.same id below]
    cases stands : w.object id with
    | histogram h =>
      rw [stands] at points
      exact ih points
    | _ => exact ⟨rfl, fun ground reached => by obtain rfl := Option.some.inj reached; exact below⟩

theorem AgreesBelow.put (agree : AgreesBelow bound w w') {id : ObjectId} (below : id < bound)
    {object : Object} (points : object.PointsBelow bound) :
    AgreesBelow bound (w.put id object) (w'.put id object) where
  left := by
    rw [size_put]
    exact agree.left
  right := by
    rw [size_put]
    exact agree.right
  same := by
    intro other other_below
    rw [object_put, object_put]
    have present : id < w.objects.size := Nat.lt_of_lt_of_le below agree.left
    have present' : id < w'.objects.size := Nat.lt_of_lt_of_le below agree.right
    simp only [present, present', and_true, agree.same other other_below]
  points := by
    intro other other_below
    rw [object_put]
    split
    · exact points
    · exact agree.points other other_below

theorem AgreesBelow.updateSamples (agree : AgreesBelow bound w w') {id : ObjectId} (below : id < bound)
    (value : Value) :
    (w'.updateSamples id value).1 = (w.updateSamples id value).1 ∧
      AgreesBelow bound (w.updateSamples id value).2 (w'.updateSamples id value).2 := by
  rw [updateSamples_eq, updateSamples_eq, agree.same id below]
  exact ⟨rfl, agree.put below ((agree.points id below).update value)⟩

theorem AgreesBelow.update (agree : AgreesBelow bound w w') {id : ObjectId} (below : id < bound)
    (value : Value) :
    (w'.update id value).1 = (w.update id value).1 ∧
      AgreesBelow bound (w.update id value).2 (w'.update id value).2 := by
  have points := agree.points id below
  unfold World.update
  rw [agree.same id below]
  split
  · rename_i h stands
    rw [stands] at points
    unfold updateHistogram updateGround ground?
    rw [agree.same h.reservoir points]
    obtain ⟨reached, ground_below⟩ := agree.groundIn chainRoom points
    rw [reached]
    split
    · split
      · split
        · exact ⟨rfl, agree⟩
        · rename_i ground reached
          exact agree.updateSamples (ground_below ground reached) _
      · exact ⟨rfl, agree⟩
    · exact ⟨rfl, agree⟩
  · exact agree.updateSamples below value

theorem AgreesBelow.add (agree : AgreesBelow bound w w') (object : Object) :
    AgreesBelow bound (w.add object).2 w' where
  left := by
    rw [size_add]
    exact Nat.le_succ_of_le agree.left
  right := agree.right
  same := by
    intro id below
    rw [object_add_of_lt (Nat.lt_of_lt_of_le below agree.left)]
    exact agree.same id below
  points := by
    intro id below
    rw [object_add_of_lt (Nat.lt_of_lt_of_le below agree.left)]
    exact agree.points id below

end World

end SampledMetrics
