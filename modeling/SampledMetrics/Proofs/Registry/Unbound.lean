import SampledMetrics.Proofs.World.Growth
/-!
Building under a name that is not bound.  Whether a histogram can be made, and with which plan, depends on its
recipe and on the defaults, and not on the world.  Main statement: under a name that is not bound, the
registry refuses a recipe as building alone does, or binds a histogram like the one that building alone gives.
-/

set_option autoImplicit false
set_option relaxedAutoImplicit false

namespace SampledMetrics

namespace World

variable {recipe : Recipe} {d : Defaults}

private theorem make_alike (recipe : Recipe) (d : Defaults) :
    (∃ failure, ∀ w : World, (w.make recipe d).1 = .error failure) ∨
      ∃ plan, (∃ id, recipe.reservoir = some id ∧ ∀ w : World, (w.make recipe d).1 = .ok ⟨plan, .given id⟩) ∨
        recipe.reservoir = none ∧ ∃ capacity, checkCapacity d.reservoirSize = .ok capacity ∧
          ∀ w : World, ∃ stream,
            WordStream.ofSeed d.reservoirSeed (w.systemWords w.objects.size) = .ok stream ∧
            (w.make recipe d).1 = .ok ⟨plan, .fresh (.uniform (.empty capacity stream))⟩ := by
  simp only [result_make]
  cases (recipe.plan d).result with
  | error failure => exact Or.inl ⟨failure, fun w => rfl⟩
  | ok plan =>
    cases recipe.reservoir with
    | some id => exact Or.inr ⟨plan, Or.inl ⟨id, rfl, fun w => rfl⟩⟩
    | none =>
      rcases Reservoir.makeUniform_cases d.reservoirSize d.reservoirSeed with
        ⟨failure, refused⟩ | ⟨capacity, sized, made⟩
      · refine Or.inl ⟨failure, fun w => ?_⟩
        simp only [refused, Except.bind, Except.map]
      · refine Or.inr ⟨plan, Or.inr ⟨rfl, capacity, sized, fun w => ?_⟩⟩
        obtain ⟨stream, seeded, equal⟩ := made (w.systemWords w.objects.size)
        refine ⟨stream, seeded, ?_⟩
        simp only [equal, Except.bind, Except.map]

/-- A histogram of some world `w'` stands on a reservoir that is new since `w`: an empty uniform one of the
size and the seed of the defaults. -/
def StandsNew (d : Defaults) (w w' : World) (h : Histogram) : Prop :=
  h.reservoir = w.objects.size ∧ ∃ capacity stream,
    checkCapacity d.reservoirSize = .ok capacity ∧
    WordStream.ofSeed d.reservoirSeed (w.systemWords w.objects.size) = .ok stream ∧
    w'.object h.reservoir = .reservoir (.uniform (.empty capacity stream))

/-- Two histograms that are built from a recipe, one in the place of another world: they have the same name and
the same table, and both stand on the object that the recipe gives, or each on a new reservoir. -/
structure BuiltAlike (recipe : Recipe) (d : Defaults) (w w' v v' : World) (h h' : Histogram) : Prop where
  name_eq : h'.name = h.name
  extractors_eq : h'.extractors = h.extractors
  grounded : (recipe.reservoir = some h.reservoir ∧ h'.reservoir = h.reservoir) ∨
    recipe.reservoir = none ∧ StandsNew d w w' h ∧ StandsNew d v v' h'

/-- Finding or building ends as building alone does: in the same failure, or in histograms that are alike. -/
def AgreesWithBuild (recipe : Recipe) (d : Defaults) (w v : World) (group : String) : Prop :=
  (∃ failure, (w.build recipe d).1 = .error failure ∧
      (v.findOrBuild (.text group) recipe d id).1 = .error failure) ∨
    ∃ h metric h', (w.build recipe d).1 = .ok h ∧ (v.findOrBuild (.text group) recipe d id).1 = .ok metric ∧
      (v.findOrBuild (.text group) recipe d id).2.object metric = .histogram h' ∧
      BuiltAlike recipe d w (w.build recipe d).2 v (v.findOrBuild (.text group) recipe d id).2 h h'

section Made

variable {w : World} {u : Unstored} {group : Value}

private theorem fst_build (w : World) (recipe : Recipe) (d : Defaults) :
    (w.build recipe d).1 = (w.make recipe d).1.map fun u => (w.settle u).1 := by
  rw [build_eq_make]
  rcases w.make recipe d with ⟨_ | u, events⟩
  · rfl
  · rfl

private theorem object_build (made : (w.make recipe d).1 = .ok u) (id : ObjectId) :
    (w.build recipe d).2.object id = (w.settle u).2.object id := by
  have prepared : w.make recipe d = (.ok u, (w.make recipe d).2) := Prod.ext made rfl
  rw [build_eq_make, prepared]
  rfl

private theorem store_tell_settled (events : List Event) (unbound : w.registry.find? group recipe.name = none) :
    ((w.tell events).store group recipe.name u).1 = .ok (w.settle u).2.objects.size ∧
      ((w.tell events).store group recipe.name u).2.object (w.settle u).2.objects.size =
        .histogram (w.settle u).1 ∧
      ∀ id < (w.settle u).2.objects.size,
        ((w.tell events).store group recipe.name u).2.object id = (w.settle u).2.object id := by
  have unbound' : ((w.tell events).settle u).2.registry.find? group recipe.name = none := by
    rw [(quiet_settle (w.tell events) u).registry]
    exact unbound
  have stored := store_settled unbound'
  rw [settle_tell] at stored
  exact stored

private theorem fst_buildAndBind (unbound : w.registry.find? group recipe.name = none) :
    (w.buildAndBind group recipe d).1 = (w.make recipe d).1.map fun u => (w.settle u).2.objects.size := by
  rw [buildAndBind_eq_store]
  rcases w.make recipe d with ⟨_ | u, events⟩
  · rfl
  · exact (store_tell_settled events unbound).1

private theorem object_buildAndBind (made : (w.make recipe d).1 = .ok u)
    (unbound : w.registry.find? group recipe.name = none) :
    (w.buildAndBind group recipe d).2.object (w.settle u).2.objects.size = .histogram (w.settle u).1 ∧
      ∀ id < (w.settle u).2.objects.size,
        (w.buildAndBind group recipe d).2.object id = (w.settle u).2.object id := by
  have prepared : w.make recipe d = (.ok u, (w.make recipe d).2) := Prod.ext made rfl
  rw [buildAndBind_eq_store, prepared]
  exact (store_tell_settled _ unbound).2

end Made

/-- Under a name that is not bound the registry agrees with building alone, in whatever world. -/
theorem agreesWithBuild_of_unbound (w : World) {v : World} {group : String} (asList : listed recipe = .ok recipe)
    (usable : recipe.name.isKey) (unbound : v.registry.find? (.text group) recipe.name = none) :
    AgreesWithBuild recipe d w v group := by
  unfold AgreesWithBuild
  rw [findOrBuild_of_unbound d asList usable unbound, fst_build, fst_buildAndBind unbound]
  rcases make_alike recipe d with ⟨failure, refused⟩ | ⟨plan, ⟨id, given, made⟩ | ⟨none, capacity, sized, made⟩⟩
  · rw [refused w, refused v]
    exact Or.inl ⟨failure, rfl, rfl⟩
  · rw [made w, made v]
    obtain ⟨stands, -⟩ := object_buildAndBind (made v) unbound
    exact Or.inr ⟨_, _, _, rfl, rfl, stands, rfl, rfl, Or.inl ⟨given, rfl⟩⟩
  · obtain ⟨stream, seeded, made_here⟩ := made w
    obtain ⟨stream', seeded', made_there⟩ := made v
    obtain ⟨stands, objects⟩ := object_buildAndBind made_there unbound
    rw [made_here, made_there]
    refine Or.inr ⟨_, _, _, rfl, rfl, stands, rfl, rfl, Or.inr ⟨none, ?_, ?_⟩⟩
    · refine ⟨rfl, capacity, stream, sized, seeded, ?_⟩
      rw [object_build made_here]
      exact object_add_self w _
    · refine ⟨rfl, capacity, stream', sized, seeded', ?_⟩
      have placed : v.objects.size < (v.add (.reservoir (.uniform (.empty capacity stream')))).2.objects.size := by
        simp
      exact (objects v.objects.size placed).trans (object_add_self v _)

end World

end SampledMetrics
