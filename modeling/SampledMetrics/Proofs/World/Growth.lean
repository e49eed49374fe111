import SampledMetrics.Proofs.Registry.Interleaving
/-!
How a world grows.  Whatever is done, no place is lost and a metric stays the object that it is.  Main
statement: under texts, registering and storing leave the registry or append one binding whose name was
not bound before.
-/

set_option autoImplicit false
set_option relaxedAutoImplicit false

namespace SampledMetrics

def Object.isMetric : Object → Bool
  | .histogram _ => true
  | .gauge _ => true
  | _ => false

theorem Object.isMetric_of_ownName {object : Object} {name : Value}
    (named : object.ownName = .ok (some name)) : object.isMetric := by
  cases object <;> first | rfl | simp [ownName, lacking] at named

namespace World

/-- A later world: no place is lost, and a metric stays the object that it is. -/
structure Grows (w w' : World) : Prop where
  size_le : w.objects.size ≤ w'.objects.size
  metric : ∀ id < w.objects.size, (w.object id).isMetric → w'.object id = w.object id

/-- A later world with the same registry. -/
structure Quiet (w w' : World) : Prop extends Grows w w' where
  registry : w'.registry = w.registry

theorem Grows.refl (w : World) : w.Grows w :=
  ⟨Nat.le_refl _, fun _ _ _ => rfl⟩

theorem Grows.trans {w w' w'' : World} (first : w.Grows w') (second : w'.Grows w'') : w.Grows w'' where
  size_le := Nat.le_trans first.size_le second.size_le
  metric := by
    intro id present metric
    have same := first.metric id present metric
    rw [← same] at metric ⊢
    exact second.metric id (Nat.lt_of_lt_of_le present first.size_le) metric

theorem Quiet.refl (w : World) : w.Quiet w :=
  ⟨Grows.refl w, rfl⟩

theorem Quiet.trans {w w' w'' : World} (first : w.Quiet w') (second : w'.Quiet w'') : w.Quiet w'' :=
  ⟨first.toGrows.trans second.toGrows, second.registry.trans first.registry⟩

private theorem quiet_tell (w : World) (events : List Event) : w.Quiet (w.tell events) :=
  ⟨⟨Nat.le_refl _, fun _ _ _ => rfl⟩, rfl⟩

private theorem quiet_add (w : World) (object : Object) : w.Quiet (w.add object).2 where
  size_le := by simp
  metric := fun _ present _ => object_add_of_lt present object
  registry := rfl

private theorem quiet_put {w : World} {id : ObjectId} {object : Object}
    (same : (w.object id).isMetric → object = w.object id) : w.Quiet (w.put id object) where
  size_le := by simp
  metric := by
    intro other present metric
    rw [object_put]
    split
    · rename_i here
      rw [here.1] at metric ⊢
      exact same metric
    · rfl
  registry := rfl

private theorem quiet_updateSamples (w : World) (id : ObjectId) (value : Value) :
    w.Quiet (w.updateSamples id value).2 := by
  rw [updateSamples_eq]
  refine quiet_put fun metric => ?_
  cases stands : w.object id with
  | histogram h => rfl
  | gauge name => rfl
  | _ => rw [stands] at metric; contradiction

private theorem quiet_updateHistogram (w : World) (h : Histogram) (value : Value) :
    w.Quiet (w.updateHistogram h value).2 := by
  unfold updateHistogram
  split
  · split
    · unfold updateGround
      split
      · exact Quiet.refl w
      · exact quiet_updateSamples w _ _
    · exact Quiet.refl w
  · exact Quiet.refl w

theorem quiet_update (w : World) (id : ObjectId) (value : Value) : w.Quiet (w.update id value).2 := by
  unfold update
  split
  · exact quiet_updateHistogram w _ value
  · exact quiet_updateSamples w id value

theorem quiet_settle (w : World) (u : Unstored) : w.Quiet (w.settle u).2 := by
  unfold settle
  split
  · exact Quiet.refl w
  · exact quiet_add w _

theorem quiet_build (w : World) (recipe : Recipe) (defaults : Defaults) :
    w.Quiet (w.build recipe defaults).2 := by
  rw [build_eq_make]
  rcases w.make recipe defaults with ⟨_ | u, events⟩
  · exact quiet_tell w events
  · exact (quiet_settle w u).trans (quiet_tell _ events)

/-- What holds from one world to the next, whatever is done without the registry: adding an object, a choice for
a draft, an observation, or building. -/
structure Kept (R : World → World → Prop) : Prop where
  refl (w : World) : R w w
  trans {w w' w'' : World} (first : R w w') (second : R w' w'') : R w w''
  add (w : World) (object : Object) : R w (w.add object).2
  choose {w : World} {id : ObjectId} {old : HistogramDraft} (stands : w.object id = .draft old)
    (new : HistogramDraft) : R w (w.put id (.draft new))
  update (w : World) (id : ObjectId) (value : Value) : R w (w.update id value).2
  build (w : World) (recipe : Recipe) (defaults : Defaults) : R w (w.build recipe defaults).2

theorem kept_quiet : Kept Quiet where
  refl := Quiet.refl
  trans := Quiet.trans
  add := quiet_add
  choose := by
    intro w id old stands new
    refine quiet_put fun metric => ?_
    rw [stands] at metric
    contradiction
  update := quiet_update
  build := quiet_build

/-- The registry stays, or gets a further binding at the end of a group: a name that was not bound there,
for the metric with this name. -/
def Binds (w w' : World) : Prop :=
  w'.registry = w.registry ∨ ∃ (g n : String) (id : ObjectId),
    w.registry.find? (.text g) (.text n) = none ∧
      w'.registry = w.registry.bind (.text g) (some (.text n)) id ∧
      (w'.object id).ownName = .ok (some (.text n))

private theorem grows_registry (w : World) (registry : Registry) : w.Grows { w with registry } :=
  ⟨Nat.le_refl _, fun _ _ _ => rfl⟩

theorem grows_register (w : World) (group : Value) (id : ObjectId) : w.Grows (w.register group id).2 := by
  unfold register
  split
  · exact Grows.refl w
  · dsimp only
    split
    · exact grows_registry w _
    · exact grows_registry w _
    · split
      · exact grows_registry w _
      · exact grows_registry w _
      · exact (grows_registry w _).trans (quiet_tell _ _).toGrows

theorem binds_register {w : World} {g n : String} {id : ObjectId}
    (named : (w.object id).ownName = .ok (some (.text n))) : w.Binds (w.register (.text g) id).2 := by
  simp only [register, checkKey_text, named]
  cases bound : w.registry.find? (.text g) (.text n) with
  | some other =>
    exact .inl (Registry.withGroup_of_mem (Registry.mem_groupNames_of_find? bound))
  | none => exact .inr ⟨g, n, id, bound, rfl, named⟩

private theorem grows_store (w : World) (group name : Value) (u : Unstored) : w.Grows (w.store group name u).2 := by
  have settled := (quiet_settle w u).toGrows
  simp only [store]
  split
  · exact settled
  · exact ((settled.trans (quiet_add _ _).toGrows).trans (grows_registry _ _)).trans
      (quiet_tell _ _).toGrows

section Made

variable {v w : World} {recipe : Recipe} {defaults : Defaults} {u : Unstored} {events : List Event}

private theorem binds_store {g n : String} (made : v.make recipe defaults = (.ok u, events))
    (named : u.plan.name = n) : w.Binds (w.store (.text g) (.text n) u).2 := by
  cases bound : w.registry.find? (.text g) (.text n) with
  | some id =>
    have registry := (quiet_settle w u).registry
    refine .inl ?_
    simp only [store, registry, bound]
  | none =>
    obtain ⟨id, h, -, rfl, -, registry, stands, -⟩ := store_of_unbound made bound
    refine .inr ⟨g, n, id, bound, registry, ?_⟩
    rw [stands, Object.ownName, named]

end Made

private theorem bound_of_store {w : World} {u : Unstored} {g n : String} {id : ObjectId}
    (given : (w.store (.text g) (.text n) u).1 = .ok id) :
    (w.store (.text g) (.text n) u).2.registry.find? (.text g) (.text n) = some id ∧
      ∃ h, (w.store (.text g) (.text n) u).2.object id = .histogram h := by
  cases bound : (w.settle u).2.registry.find? (.text g) (.text n) with
  | some other =>
    simp only [store, bound] at given ⊢
    unfold wantHistogram at given
    split at given
    · rename_i h stands
      obtain rfl := Except.ok.inj given
      exact ⟨rfl, h, stands⟩
    · contradiction
  | none =>
    simp only [store, bound] at given ⊢
    obtain rfl := Except.ok.inj given
    exact ⟨Registry.find?_bind_self bound _, _, object_add_self _ _⟩

section Recipe

variable {w : World} {recipe : Recipe} {defaults : Defaults}

theorem grows_buildAndBind (w : World) (group : Value) (recipe : Recipe) (defaults : Defaults) :
    w.Grows (w.buildAndBind group recipe defaults).2 := by
  rw [buildAndBind_eq_store]
  rcases w.make recipe defaults with ⟨_ | u, events⟩
  · exact (quiet_tell w events).toGrows
  · exact (quiet_tell w events).toGrows.trans (grows_store _ group recipe.name u)

theorem binds_buildAndBind {g n : String} (named : recipe.name = .text n) :
    w.Binds (w.buildAndBind (.text g) recipe defaults).2 := by
  rw [buildAndBind_eq_store, named]
  rcases made : w.make recipe defaults with ⟨_ | u, events⟩
  · exact .inl rfl
  · have same := named.symm.trans (Recipe.name_of_plan (make_cases made).1)
    exact binds_store (w := w.tell events) made (Value.text.inj same).symm

theorem bound_of_buildAndBind {g n : String} {id : ObjectId} (named : recipe.name = .text n)
    (given : (w.buildAndBind (.text g) recipe defaults).1 = .ok id) :
    (w.buildAndBind (.text g) recipe defaults).2.registry.find? (.text g) (.text n) = some id ∧
      ∃ h, (w.buildAndBind (.text g) recipe defaults).2.object id = .histogram h := by
  rw [buildAndBind_eq_store, named] at given ⊢
  rcases made : w.make recipe defaults with ⟨_ | u, events⟩
  · simp [made] at given
  · rw [made] at given
    exact bound_of_store given

theorem bound_of_findHistogram {group name : Value} {id : ObjectId}
    (found : w.findHistogram group name = .ok (some id)) :
    w.registry.find? group name = some id ∧ ∃ h, w.object id = .histogram h := by
  obtain ⟨-, -, found⟩ := Failure.bind_eq_ok_iff.mp found
  obtain ⟨-, -, found⟩ := Failure.bind_eq_ok_iff.mp found
  split at found
  · simp [pure, Except.pure] at found
  · rename_i other bound
    obtain ⟨same, wanted, found⟩ := Failure.bind_eq_ok_iff.mp found
    obtain rfl := Option.some.inj (Except.ok.inj found)
    unfold wantHistogram at wanted
    split at wanted
    · rename_i h stands
      obtain rfl := Except.ok.inj wanted
      exact ⟨bound, h, stands⟩
    · contradiction

/-- Finding or building leaves the world as it is, or comes to building and binding. -/
theorem findOrBuild_cases (w : World) (group : Value) (recipe : Recipe) (defaults : Defaults) :
    (∃ failure, w.findOrBuild group recipe defaults id = (.error failure, w)) ∨
      (∃ metric, w.findHistogram group recipe.name = .ok (some metric) ∧
        w.findOrBuild group recipe defaults id = (.ok metric, w)) ∨
      ∃ plain, listed recipe = .ok plain ∧
        w.findOrBuild group recipe defaults id = w.buildAndBind group plain defaults := by
  unfold findOrBuild listBuildAndBind
  rcases w.findHistogram group recipe.name with failure | _ | metric
  · exact .inl ⟨failure, rfl⟩
  · cases asList : listed recipe with
    | error failure => exact .inl ⟨failure, rfl⟩
    | ok plain => exact .inr (.inr ⟨plain, rfl, rfl⟩)
  · exact .inr (.inl ⟨metric, rfl, rfl⟩)

theorem grows_findOrBuild (w : World) (group : Value) (recipe : Recipe) (defaults : Defaults) :
    w.Grows (w.findOrBuild group recipe defaults id).2 := by
  rcases findOrBuild_cases w group recipe defaults with
    ⟨failure, same⟩ | ⟨other, -, same⟩ | ⟨plain, -, same⟩
  · rw [same]
    exact Grows.refl w
  · rw [same]
    exact Grows.refl w
  · rw [same]
    exact grows_buildAndBind w _ plain defaults

theorem findOrBuild_spec {g n : String} (w : World) (defaults : Defaults)
    (named : recipe.name = .text n) :
    w.Binds (w.findOrBuild (.text g) recipe defaults id).2 ∧
      ∀ metric, (w.findOrBuild (.text g) recipe defaults id).1 = .ok metric →
        (w.findOrBuild (.text g) recipe defaults id).2.registry.find? (.text g) (.text n) = some metric ∧
          ∃ h, (w.findOrBuild (.text g) recipe defaults id).2.object metric = .histogram h := by
  rcases findOrBuild_cases w (.text g) recipe defaults with
    ⟨failure, same⟩ | ⟨other, found, same⟩ | ⟨plain, asList, same⟩
  · rw [same]
    exact ⟨.inl rfl, fun metric given => by contradiction⟩
  · rw [same]
    refine ⟨.inl rfl, fun metric given => ?_⟩
    obtain rfl := Except.ok.inj given
    exact bound_of_findHistogram (named ▸ found)
  · have named' : plain.name = .text n := (listed_spec asList).1.trans named
    rw [same]
    exact ⟨binds_buildAndBind named', fun metric given => bound_of_buildAndBind named' given⟩

end Recipe

/-- No group is empty, and every metric is bound under its own name. -/
def Tidy (w : World) : Prop :=
  ∀ entry ∈ w.registry.groups, entry.2 ≠ [] ∧ ∀ binding ∈ entry.2, ∃ n,
    binding.1 = some (.text n) ∧ (w.object binding.2).ownName = .ok (some (.text n))

/-- A later world in which no binding is lost or comes before others. -/
structure Extends (w w' : World) : Prop extends Grows w w' where
  longer : ∀ g : String, w.registry.metrics (.text g) <+: w'.registry.metrics (.text g)

variable {w w' w'' : World}

theorem Extends.trans (first : w.Extends w') (second : w'.Extends w'') : w.Extends w'' :=
  ⟨first.toGrows.trans second.toGrows, fun g => (first.longer g).trans (second.longer g)⟩

theorem Binds.longer (binds : w.Binds w') (g : String) :
    w.registry.metrics (.text g) <+: w'.registry.metrics (.text g) := by
  rcases binds with same | ⟨g', n, id, -, bound, -⟩
  · exact same ▸ List.prefix_refl _
  · rw [bound]
    exact Registry.metrics_bind_prefix _ _ _ _ _

private theorem Grows.object_eq (grows : w.Grows w') {id : ObjectId} {n : String}
    (named : (w.object id).ownName = .ok (some (.text n))) : w'.object id = w.object id := by
  have present : id < w.objects.size := by
    refine lt_size_of_object_ne fun missing => ?_
    rw [missing] at named
    simp [default, Object.ownName] at named
  exact grows.metric id present (Object.isMetric_of_ownName named)

theorem Tidy.step (tidy : w.Tidy) (grows : w.Grows w') (binds : w.Binds w') : w'.Tidy := by
  have kept : ∀ entry ∈ w.registry.groups, ∀ binding ∈ entry.2, ∃ n, binding.1 = some (.text n) ∧
      (w'.object binding.2).ownName = .ok (some (.text n)) := by
    intro entry member binding present
    obtain ⟨n, key, named⟩ := (tidy entry member).2 binding present
    exact ⟨n, key, by rw [grows.object_eq named, named]⟩
  rcases binds with same | ⟨g, n, id, -, bound, named⟩
  · intro entry member
    rw [same] at member
    exact ⟨(tidy entry member).1, kept entry member⟩
  · intro entry member
    rw [bound] at member
    rcases Registry.mem_changeGroup member with old | ⟨old, changed, source⟩
    · exact ⟨(tidy entry old).1, kept entry old⟩
    · rw [changed]
      refine ⟨by simp, fun binding present => ?_⟩
      rcases List.mem_append.mp present with before | new
      · rcases source with rfl | ⟨key, member⟩
        · contradiction
        · exact kept (key, old) member binding before
      · obtain rfl := List.mem_singleton.mp new
        exact ⟨n, rfl, named⟩

theorem Extends.bound (extended : w.Extends w') (tidy : w.Tidy) {g : String} {name : Value} {id : ObjectId}
    (bound : w.registry.find? (.text g) name = some id) :
    w'.registry.find? (.text g) name = some id ∧ w'.object id = w.object id := by
  refine ⟨Registry.find?_of_prefix (extended.longer g) bound, ?_⟩
  obtain ⟨binding, found, rfl⟩ := Option.map_eq_some_iff.mp bound
  obtain ⟨entry, member, within⟩ := Registry.exists_group_of_mem_metrics (List.mem_of_find?_eq_some found)
  obtain ⟨n, -, named⟩ := (tidy entry member).2 binding within
  exact extended.toGrows.object_eq named

end World

end SampledMetrics
