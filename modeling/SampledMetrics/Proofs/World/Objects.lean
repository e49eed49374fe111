import SampledMetrics.World
/-!
What the elementary changes of a world change, and what they leave as it is.
-/

set_option autoImplicit false
set_option relaxedAutoImplicit false

namespace SampledMetrics.World

@[simp] theorem object_tell (w : World) (events : List Event) (id : ObjectId) :
    (w.tell events).object id = w.object id := rfl

@[simp] theorem objects_tell (w : World) (events : List Event) : (w.tell events).objects = w.objects := rfl

@[simp] theorem registry_tell (w : World) (events : List Event) : (w.tell events).registry = w.registry := rfl

@[simp] theorem tell_tell (w : World) (first second : List Event) :
    (w.tell first).tell second = w.tell (first ++ second) := by
  simp [tell]

theorem object_add (w : World) (object : Object) (id : ObjectId) :
    (w.add object).2.object id = if id = w.objects.size then object else w.object id := by
  split
  · rename_i new
    rw [new]
    exact object_add_self w object
  · rename_i old
    simp [World.object, add, Array.getElem?_push, old]

@[simp] theorem fst_add (w : World) (object : Object) : (w.add object).1 = w.objects.size := rfl

@[simp] theorem size_add (w : World) (object : Object) :
    (w.add object).2.objects.size = w.objects.size + 1 := by
  simp [add]

@[simp] theorem registry_add (w : World) (object : Object) : (w.add object).2.registry = w.registry := rfl

theorem add_tell (w : World) (events : List Event) (object : Object) :
    (w.tell events).add object = ((w.add object).1, (w.add object).2.tell events) := rfl

theorem object_put (w : World) (id : ObjectId) (object : Object) (other : ObjectId) :
    (w.put id object).object other =
      if other = id ∧ id < w.objects.size then object else w.object other := by
  split
  · rename_i here
    obtain ⟨rfl, present⟩ := here
    exact object_put_self present object
  · rename_i elsewhere
    by_cases same : other = id
    · have absent : w.objects.size ≤ id := Nat.le_of_not_lt fun present => elsewhere ⟨same, present⟩
      simp [World.object, put, same, absent]
    · exact object_put_of_ne (Ne.symm same) object

@[simp] theorem size_put (w : World) (id : ObjectId) (object : Object) :
    (w.put id object).objects.size = w.objects.size := by
  simp [put]

theorem put_object (w : World) (id : ObjectId) : w.put id (w.object id) = w := by
  have restored := put_take w id
  simpa [take, put] using restored

theorem put_put (w : World) (id : ObjectId) (first second : Object) :
    (w.put id first).put id second = w.put id second := by
  simp [put]

/-- Handing an observation to an object is putting the object back as it is then. -/
theorem updateSamples_eq (w : World) (id : ObjectId) (value : Value) :
    w.updateSamples id value =
      (((w.object id).update value).1, w.put id ((w.object id).update value).2) := by
  simp [updateSamples, take, put]

theorem lt_size_of_object_ne {w : World} {id : ObjectId} (other : w.object id ≠ default) :
    id < w.objects.size := by
  refine Nat.lt_of_not_ge fun absent => other ?_
  simp [World.object, absent]

theorem present_of_object {w : World} {id : ObjectId} {object : Object} (stands : w.object id = object)
    (other : ∀ name, object ≠ .gauge name) : id < w.objects.size := by
  refine lt_size_of_object_ne fun missing => other .null ?_
  rw [← stands, missing]
  rfl

end SampledMetrics.World
