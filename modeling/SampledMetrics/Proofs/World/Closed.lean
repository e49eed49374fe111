import SampledMetrics.Proofs.World.Growth
/-!
Closed worlds: whatever an object or the registry refers to has a place.  Every operation of the world
keeps it closed, when it is given places that exist.
-/

set_option autoImplicit false
set_option relaxedAutoImplicit false

namespace SampledMetrics

namespace Object

/-- Whether an object refers to places below a bound only. -/
def PointsBelow (bound : Nat) : Object → Prop
  | .histogram h => h.reservoir < bound
  | .draft b => ∀ id, b.reservoir = some id → id < bound
  | _ => True

theorem PointsBelow.mono {bound bound' : Nat} (le : bound ≤ bound') {object : Object}
    (points : object.PointsBelow bound) : object.PointsBelow bound' := by
  cases object with
  | histogram h => exact Nat.lt_of_lt_of_le points le
  | draft b => exact fun id chosen => Nat.lt_of_lt_of_le (points id chosen) le
  | _ => trivial

theorem PointsBelow.update {bound : Nat} {object : Object} (points : object.PointsBelow bound)
    (value : Value) : (object.update value).2.PointsBelow bound := by
  cases object with
  | reservoir r => trivial
  | snapshot s => trivial
  | gauge name => trivial
  | histogram h => exact points
  | draft b => exact points

end Object

namespace Registry

variable {r : Registry} {group : Value} {metric : ObjectId}

private theorem mem_all_iff {id : ObjectId} : id ∈ r.all ↔ ∃ entry ∈ r.groups, ∃ binding ∈ entry.2, binding.2 = id := by
  simp [all]

private theorem mem_all_of_find? {name : Value} (found : r.find? group name = some metric) : metric ∈ r.all := by
  obtain ⟨binding, first, rfl⟩ := Option.map_eq_some_iff.mp found
  obtain ⟨entry, member, within⟩ := exists_group_of_mem_metrics (List.mem_of_find?_eq_some first)
  exact mem_all_iff.mpr ⟨entry, member, binding, within, rfl⟩

private theorem mem_all_bind {name : Option Value} {id : ObjectId} (member : id ∈ (r.bind group name metric).all) :
    id ∈ r.all ∨ id = metric := by
  obtain ⟨entry, present, binding, within, rfl⟩ := mem_all_iff.mp member
  rcases mem_changeGroup present with old | ⟨old, changed, source⟩
  · exact .inl (mem_all_iff.mpr ⟨entry, old, binding, within, rfl⟩)
  · rw [changed] at within
    rcases List.mem_append.mp within with before | new
    · rcases source with rfl | ⟨key, present⟩
      · contradiction
      · exact .inl (mem_all_iff.mpr ⟨(key, old), present, binding, before, rfl⟩)
    · obtain rfl := List.mem_singleton.mp new
      exact .inr rfl

private theorem mem_all_withGroup {id : ObjectId} (member : id ∈ (r.withGroup group).all) : id ∈ r.all := by
  obtain ⟨entry, present, binding, within, rfl⟩ := mem_all_iff.mp member
  rcases mem_changeGroup present with old | ⟨old, changed, source⟩
  · exact mem_all_iff.mpr ⟨entry, old, binding, within, rfl⟩
  · rw [changed] at within
    rcases source with rfl | ⟨key, present⟩
    · contradiction
    · exact mem_all_iff.mpr ⟨(key, old), present, binding, within, rfl⟩

end Registry

namespace World

/-- Objects and the registry refer to places that exist. -/
structure Closed (w : World) : Prop where
  objects : ∀ id, (w.object id).PointsBelow w.objects.size
  bound : ∀ id ∈ w.registry.all, id < w.objects.size

variable {w : World}

theorem closed_empty (words : ObjectId → Nat → UInt64) : (empty words).Closed where
  objects := by
    intro id
    simp [empty, World.object, default, Object.PointsBelow]
  bound := by
    intro id member
    contradiction

theorem Closed.tell (closed : w.Closed) (events : List Event) : (w.tell events).Closed :=
  ⟨closed.objects, closed.bound⟩

theorem Closed.add (closed : w.Closed) {object : Object}
    (points : object.PointsBelow (w.objects.size + 1)) : (w.add object).2.Closed where
  objects := by
    intro id
    rw [object_add, size_add]
    split
    · exact points
    · exact (closed.objects id).mono (Nat.le_succ _)
  bound := by
    intro id member
    rw [size_add]
    exact Nat.lt_succ_of_lt (closed.bound id member)

theorem Closed.put (closed : w.Closed) {id : ObjectId} {object : Object}
    (points : object.PointsBelow w.objects.size) : (w.put id object).Closed where
  objects := by
    intro other
    rw [object_put, size_put]
    split
    · exact points
    · exact closed.objects other
  bound := by
    intro other member
    rw [size_put]
    exact closed.bound other member

theorem Closed.updateSamples (closed : w.Closed) (id : ObjectId) (value : Value) :
    (w.updateSamples id value).2.Closed := by
  rw [updateSamples_eq]
  exact closed.put ((closed.objects id).update value)

theorem Closed.update (closed : w.Closed) (id : ObjectId) (value : Value) : (w.update id value).2.Closed := by
  unfold World.update
  split
  · unfold updateHistogram updateGround
    split
    · split
      · split
        · exact closed
        · exact closed.updateSamples _ _
      · exact closed
    · exact closed
  · exact closed.updateSamples id value

section Recipe

variable {recipe : Recipe} {defaults : Defaults}

/-- What is settled stands on a place that exists. -/
theorem Closed.settle {v : World} {u : Unstored} {events : List Event}
    (closed : w.Closed) (made : v.make recipe defaults = (.ok u, events))
    (present : ∀ id, recipe.reservoir = some id → id < w.objects.size) :
    (w.settle u).2.Closed ∧ (w.settle u).1.reservoir < (w.settle u).2.objects.size := by
  obtain ⟨-, ⟨id, given, ground⟩ | ⟨-, r, words, ground, -⟩⟩ := make_cases made
  · simp only [World.settle, ground]
    exact ⟨closed, present id given⟩
  · simp only [World.settle, ground]
    refine ⟨closed.add trivial, ?_⟩
    simp

theorem Closed.build (closed : w.Closed) (defaults : Defaults)
    (present : ∀ id, recipe.reservoir = some id → id < w.objects.size) :
    (w.build recipe defaults).2.Closed ∧ ∀ h, (w.build recipe defaults).1 = .ok h →
      h.reservoir < (w.build recipe defaults).2.objects.size := by
  rw [build_eq_make]
  rcases made : w.make recipe defaults with ⟨_ | u, events⟩
  · exact ⟨closed.tell events, fun h built => by contradiction⟩
  · obtain ⟨settled, stands⟩ := closed.settle made present
    refine ⟨settled.tell events, fun h built => ?_⟩
    obtain rfl := Except.ok.inj built
    exact stands

theorem Closed.bind (closed : w.Closed) (group : Value) (name : Option Value) {metric : ObjectId}
    (present : metric < w.objects.size) :
    Closed { w with registry := w.registry.bind group name metric } where
  objects := closed.objects
  bound := by
    intro id member
    rcases Registry.mem_all_bind member with old | rfl
    · exact closed.bound id old
    · exact present

theorem Closed.register (closed : w.Closed) (group : Value) {id : ObjectId}
    (present : id < w.objects.size) : (w.register group id).2.Closed := by
  have grouped : Closed { w with registry := w.registry.withGroup group } :=
    ⟨closed.objects, fun other member => closed.bound other (Registry.mem_all_withGroup member)⟩
  unfold World.register
  split
  · exact closed
  · dsimp only
    split
    · exact grouped
    · exact closed.bind group none present
    · split
      · exact grouped
      · exact grouped
      · exact (closed.bind group _ present).tell _

private theorem wantHistogram_eq_ok {group name : Value} {id metric : ObjectId}
    (wanted : w.wantHistogram group name id = .ok metric) : metric = id := by
  unfold wantHistogram at wanted
  split at wanted
  · exact (Except.ok.inj wanted).symm
  · contradiction

theorem Closed.store {v : World} {u : Unstored} {events : List Event} {group name : Value}
    (closed : w.Closed) (made : v.make recipe defaults = (.ok u, events))
    (present : ∀ id, recipe.reservoir = some id → id < w.objects.size) :
    (w.store group name u).2.Closed ∧ ∀ metric, (w.store group name u).1 = .ok metric →
      metric < (w.store group name u).2.objects.size := by
  obtain ⟨settled, stands⟩ := closed.settle made present
  simp only [World.store]
  split
  · rename_i id bound
    refine ⟨settled, fun metric given => ?_⟩
    rw [wantHistogram_eq_ok given]
    exact settled.bound id (Registry.mem_all_of_find? bound)
  · have added : ((w.settle u).2.add (.histogram (w.settle u).1)).2.Closed :=
      settled.add (Nat.lt_succ_of_lt stands)
    refine ⟨(added.bind group _ ?_).tell _, fun metric given => ?_⟩
    · simp
    · obtain rfl := Except.ok.inj given
      simp

theorem Closed.buildAndBind (closed : w.Closed) (group : Value) (defaults : Defaults)
    (present : ∀ id, recipe.reservoir = some id → id < w.objects.size) :
    (w.buildAndBind group recipe defaults).2.Closed ∧
      ∀ metric, (w.buildAndBind group recipe defaults).1 = .ok metric →
        metric < (w.buildAndBind group recipe defaults).2.objects.size := by
  rw [buildAndBind_eq_store]
  rcases made : w.make recipe defaults with ⟨_ | u, events⟩
  · exact ⟨closed.tell events, fun metric given => by contradiction⟩
  · exact (closed.tell events).store made present

theorem Closed.findHistogram {group name : Value} {metric : ObjectId} (closed : w.Closed)
    (found : w.findHistogram group name = .ok (some metric)) : metric < w.objects.size := by
  obtain ⟨-, -, found⟩ := Failure.bind_eq_ok_iff.mp found
  obtain ⟨-, -, found⟩ := Failure.bind_eq_ok_iff.mp found
  split at found
  · simp [pure, Except.pure] at found
  · rename_i id bound
    obtain ⟨same, wanted, found⟩ := Failure.bind_eq_ok_iff.mp found
    obtain rfl := Option.some.inj (Except.ok.inj found)
    rw [wantHistogram_eq_ok wanted]
    exact closed.bound id (Registry.mem_all_of_find? bound)

theorem Closed.findOrBuild (closed : w.Closed) (group : Value) (defaults : Defaults)
    (present : ∀ id, recipe.reservoir = some id → id < w.objects.size) :
    (w.findOrBuild group recipe defaults id).2.Closed ∧
      ∀ metric, (w.findOrBuild group recipe defaults id).1 = .ok metric →
        metric < (w.findOrBuild group recipe defaults id).2.objects.size := by
  rcases findOrBuild_cases w group recipe defaults with
    ⟨failure, same⟩ | ⟨other, found, same⟩ | ⟨plain, asList, same⟩
  · rw [same]
    exact ⟨closed, fun metric given => by contradiction⟩
  · rw [same]
    refine ⟨closed, fun metric given => ?_⟩
    obtain rfl := Except.ok.inj given
    exact closed.findHistogram found
  · rw [same]
    refine closed.buildAndBind group defaults fun id given => present id ?_
    rw [← (listed_spec asList).2.1, given]

end Recipe

end World

end SampledMetrics
