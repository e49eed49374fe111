import SampledMetrics.Proofs.Histogram.Building
/-!
A histogram is looked up first and stored later, and in between others change the world: while its
percentiles are listed, and again between building and storing.  Main statement: the outcome is the one
of the whole operation after all of that.
-/

set_option autoImplicit false
set_option relaxedAutoImplicit false

namespace SampledMetrics

namespace World

/-- Bind a histogram that was built, unless its name is bound; then the metric bound is given, if it is a
histogram. -/
def store (w : World) (group name : Value) (u : Unstored) : Except Failure ObjectId × World :=
  let (histogram, w) := w.settle u
  match w.registry.find? group name with
  | some id => (w.wantHistogram group name id, w)
  | none =>
      let (id, w) := w.add (.histogram histogram)
      let w := { w with registry := w.registry.bind group (some name) id }
      (.ok id, w.tell [.registered name group])

/-- A later world in which further events were told at the time of an earlier one. -/
def since (w : World) (events : List Event) (later : World) : World :=
  { later with
    events := (w.tell events).events ++ later.events.extract w.events.size later.events.size }

/-- The histogram under a name in a group, built and stored if there is none.  Others change the world
by `listing` after the lookup, while the percentiles are listed, and by `storing` after the building. -/
def findOrBuildAmid (w : World) (group : Value) (recipe : Recipe) (defaults : Defaults)
    (listing storing : World → World) : Except Failure ObjectId × World :=
  match w.findHistogram group recipe.name with
  | .error failure => (.error failure, w)
  | .ok (some id) => (.ok id, w)
  | .ok none =>
      let w := listing w
      match listed recipe with
      | .error failure => (.error failure, w)
      | .ok recipe =>
          match w.make recipe defaults with
          | (.error failure, events) => (.error failure, w.tell events)
          | (.ok u, events) => (w.since events (storing w)).store group recipe.name u

variable {w : World} {recipe : Recipe} {defaults : Defaults}

private theorem since_self (w : World) (events : List Event) : w.since events w = w.tell events := by
  simp [since, tell]

theorem listed_spec {plain : Recipe} (asList : listed recipe = .ok plain) :
    plain.name = recipe.name ∧ plain.reservoir = recipe.reservoir ∧ listed plain = .ok plain := by
  unfold listed at asList
  split at asList
  · rename_i null
    obtain rfl := Except.ok.inj asList
    exact ⟨rfl, rfl, listed_of_null null⟩
  · obtain ⟨items, -, finished⟩ := Failure.bind_eq_ok_iff.mp asList
    obtain rfl := Except.ok.inj finished
    exact ⟨rfl, rfl, listed_of_list rfl⟩

theorem buildAndBind_eq_store (w : World) (group : Value) (recipe : Recipe) (defaults : Defaults) :
    w.buildAndBind group recipe defaults =
      match w.make recipe defaults with
      | (.error failure, events) => (.error failure, w.tell events)
      | (.ok u, events) => (w.tell events).store group recipe.name u := by
  unfold buildAndBind
  rw [build_eq_make]
  rcases w.make recipe defaults with ⟨_ | u, events⟩
  · rfl
  · cases found : (w.settle u).2.registry.find? group recipe.name with
    | none => simp only [store, settle_tell, registry_tell, found]
    | some id => simp only [store, settle_tell, registry_tell, found]

theorem findOrBuildAmid_id (w : World) (group : Value) (recipe : Recipe) (defaults : Defaults)
    (listing : World → World) :
    w.findOrBuildAmid group recipe defaults listing id = w.findOrBuild group recipe defaults listing := by
  unfold findOrBuildAmid findOrBuild listBuildAndBind
  rcases w.findHistogram group recipe.name with _ | _ | _
  · rfl
  · cases asList : listed recipe with
    | error failure => rfl
    | ok plain =>
      simp only [buildAndBind_eq_store, id_eq, since_self, (listed_spec asList).1]
  · rfl

section Made

variable {v : World} {u : Unstored} {events : List Event}

private theorem store_of_bound (made : v.make recipe defaults = (.ok u, events)) {w : World}
    {group name : Value} {id : ObjectId} (bound : w.registry.find? group name = some id)
    (present : id < w.objects.size) :
    (w.store group name u).1 = w.wantHistogram group name id ∧
      (w.store group name u).2.registry = w.registry ∧
      ∀ other < w.objects.size, (w.store group name u).2.object other = w.object other := by
  obtain ⟨-, registry, -, objects, -⟩ := settle_of_make made w
  have bound' : (w.settle u).2.registry.find? group name = some id := by rw [registry, bound]
  simp only [store, bound']
  refine ⟨?_, registry, objects⟩
  simp only [wantHistogram, objects id present]

theorem store_settled {w : World} {u : Unstored} {group name : Value}
    (unbound : (w.settle u).2.registry.find? group name = none) :
    (w.store group name u).1 = .ok (w.settle u).2.objects.size ∧
      (w.store group name u).2.object (w.settle u).2.objects.size = .histogram (w.settle u).1 ∧
      ∀ id < (w.settle u).2.objects.size, (w.store group name u).2.object id = (w.settle u).2.object id := by
  simp only [store, unbound]
  exact ⟨rfl, object_add_self _ _, fun id present => object_add_of_lt present _⟩

theorem store_of_unbound (made : v.make recipe defaults = (.ok u, events)) {w : World}
    {group name : Value} (unbound : w.registry.find? group name = none) :
    ∃ id h, id = w.objects.size + (if recipe.reservoir = none then 1 else 0) ∧
      h = ⟨u.plan.name, recipe.reservoir.getD w.objects.size, u.plan.extractors⟩ ∧
      (w.store group name u).1 = .ok id ∧
      (w.store group name u).2.registry = w.registry.bind group (some name) id ∧
      (w.store group name u).2.object id = .histogram h ∧
      (∀ other < w.objects.size, (w.store group name u).2.object other = w.object other) ∧
      (recipe.reservoir = none → ∃ r words,
        (w.store group name u).2.object w.objects.size = .reservoir r ∧
        Reservoir.makeUniform defaults.reservoirSize defaults.reservoirSeed words = .ok r) := by
  obtain ⟨settled, registry, size, objects, fresh⟩ := settle_of_make made w
  have unbound' : (w.settle u).2.registry.find? group name = none := by rw [registry, unbound]
  obtain ⟨given, stands, object_store⟩ := store_settled unbound'
  refine ⟨(w.settle u).2.objects.size, (w.settle u).1, size, settled, given, ?_, stands, ?_, ?_⟩
  · simp only [store, unbound', registry_tell, registry_add, fst_add]
    rw [registry]
  · intro other present
    rw [object_store other (by omega), objects other present]
  · intro none
    obtain ⟨r, words, stands, equal⟩ := fresh none
    refine ⟨r, words, ?_, equal⟩
    rw [object_store _ (by rw [size, if_pos none]; omega), stands]

end Made

section Named

variable {group name : String}

private theorem findOrBuild_of_bound {id : ObjectId} (named : recipe.name = .text name)
    (bound : w.registry.find? (.text group) (.text name) = some id) (interlude : World → World) :
    w.findOrBuild (.text group) recipe defaults interlude =
      (w.wantHistogram (.text group) (.text name) id, w) := by
  unfold findOrBuild
  rw [named]
  cases found : w.wantHistogram (.text group) (.text name) id <;>
    simp [findHistogram, bound, found, bind, Except.bind, pure, Except.pure]

private theorem findOrBuildAmid_of_make {plain : Recipe} {u : Unstored} {events : List Event}
    {listing : World → World} (named : recipe.name = .text name)
    (unbound : w.registry.find? (.text group) (.text name) = none) (asList : listed recipe = .ok plain)
    (made : (listing w).make plain defaults = (.ok u, events)) (storing : World → World) :
    w.findOrBuildAmid (.text group) recipe defaults listing storing =
      ((listing w).since events (storing (listing w))).store (.text group) (.text name) u := by
  have named' : plain.name = .text name := (listed_spec asList).1.trans named
  unfold findOrBuildAmid
  rw [named, findHistogram_of_unbound rfl unbound]
  simp only [asList, made, named']

end Named

/-- Whatever happens between lookup and store, among it other operations of the same kind, the outcome
is the one of the whole operation after all of that.  The metric that was bound in the meantime is
given, or refused if it is no histogram; otherwise a histogram is bound, and found from then on, that
equals the one that the whole operation binds, on the reservoir that was given or on one made for the
same defaults. -/
theorem findOrBuildAmid_linear (w : World) {group name : String} {recipe plain : Recipe}
    {defaults : Defaults} {built : Histogram} (listing storing : World → World)
    (named : recipe.name = .text name)
    (unbound : w.registry.find? (.text group) (.text name) = none)
    (asList : listed recipe = .ok plain)
    (builds : ((listing w).build plain defaults).1 = .ok built)
    (present : ∀ id, (storing (listing w)).registry.find? (.text group) (.text name) = some id →
      id < (storing (listing w)).objects.size) :
    let after := storing (listing w)
    let amid := w.findOrBuildAmid (.text group) recipe defaults listing storing
    let alone := after.findOrBuild (.text group) plain defaults id
    amid.1 = alone.1 ∧ amid.2.registry = alone.2.registry ∧
      (∀ other < after.objects.size,
        amid.2.object other = after.object other ∧ alone.2.object other = after.object other) ∧
      match after.registry.find? (.text group) (.text name) with
      | some id =>
          amid.2.registry = after.registry ∧
            match after.object id with
            | .histogram _ => amid.1 = .ok id
            | other => amid.1 = .error (.otherMetricKind (.text name) (.text group) other.kindName)
      | none => ∃ id h, amid.1 = .ok id ∧ after.objects.size ≤ id ∧
          amid.2.registry = after.registry.bind (.text group) (some (.text name)) id ∧
          amid.2.registry.find? (.text group) (.text name) = some id ∧
          amid.2.object id = .histogram h ∧ alone.2.object id = .histogram h ∧
          h.name = built.name ∧ h.extractors = built.extractors ∧
          (recipe.reservoir = some h.reservoir ∨
            recipe.reservoir = none ∧ ∃ r r' words words',
              amid.2.object h.reservoir = .reservoir r ∧ alone.2.object h.reservoir = .reservoir r' ∧
              Reservoir.makeUniform defaults.reservoirSize defaults.reservoirSeed words = .ok r ∧
              Reservoir.makeUniform defaults.reservoirSize defaults.reservoirSeed words' = .ok r') := by
  intro after amid alone
  obtain ⟨name_eq, reservoir_eq, asList'⟩ := listed_spec asList
  rw [named] at name_eq
  obtain ⟨u, events, made⟩ := make_of_build builds
  have amid_eq : amid = ((listing w).since events after).store (.text group) (.text name) u :=
    findOrBuildAmid_of_make named unbound asList made storing
  cases bound : after.registry.find? (.text group) (.text name) with
  | some id =>
    have alone_eq : alone = (after.wantHistogram (.text group) (.text name) id, after) :=
      findOrBuild_of_bound name_eq bound _
    obtain ⟨result, registry, objects⟩ := store_of_bound made
      (w := (listing w).since events after) bound (present id bound)
    rw [← amid_eq] at result registry objects
    rw [alone_eq]
    refine ⟨result, registry, fun other present => ⟨objects other present, rfl⟩, registry, ?_⟩
    have result' : amid.1 = after.wantHistogram (.text group) (.text name) id := result
    unfold wantHistogram at result'
    cases stands : after.object id <;> simpa [stands] using result'
  | none =>
    obtain ⟨u', events', made', plan_eq⟩ := exists_make made after
    have alone_eq : alone = (after.tell events').store (.text group) (.text name) u' := by
      have usable : plain.name.isKey := by rw [name_eq]; rfl
      have unbound' : after.registry.find? (.text group) plain.name = none := by rw [name_eq, bound]
      have built := findOrBuild_of_unbound defaults asList' usable unbound'
      rw [buildAndBind_eq_store, made', name_eq] at built
      exact built
    have built_eq : built = ⟨u.plan.name, plain.reservoir.getD (listing w).objects.size, u.plan.extractors⟩ := by
      rw [build_eq_make, made] at builds
      rw [← (settle_of_make made _).1]
      exact (Except.ok.inj builds).symm
    obtain ⟨id, h, id_eq, h_eq, result, registry, bound_to, objects, fresh⟩ :=
      store_of_unbound made (w := (listing w).since events after) bound
    obtain ⟨id', h', id_eq', h_eq', result', registry', bound_to', objects', fresh'⟩ :=
      store_of_unbound made' (w := after.tell events') bound
    obtain rfl : id = id' := id_eq.trans id_eq'.symm
    obtain rfl : h = h' := by
      rw [h_eq, h_eq', plan_eq]
      rfl
    rw [← amid_eq] at result registry bound_to objects fresh
    rw [← alone_eq] at result' registry' bound_to' objects' fresh'
    have size_le : after.objects.size ≤ id := id_eq ▸ Nat.le_add_right _ _
    have bind : amid.2.registry = after.registry.bind (.text group) (some (.text name)) id := registry
    have found : amid.2.registry.find? (.text group) (.text name) = some id := by
      rw [bind]
      exact Registry.find?_bind_self bound id
    refine ⟨result.trans result'.symm, registry.trans registry'.symm,
      fun other present => ⟨objects other present, objects' other present⟩,
      id, h, result, size_le, bind, found, bound_to, bound_to', by rw [h_eq, built_eq],
      by rw [h_eq, built_eq], ?_⟩
    cases given : recipe.reservoir with
    | some place =>
      rw [reservoir_eq, given] at h_eq
      exact .inl (by rw [h_eq]; rfl)
    | none =>
      rw [reservoir_eq, given] at h_eq
      have stands : h.reservoir = after.objects.size := by rw [h_eq]; rfl
      obtain ⟨r, words, holds, equal⟩ := fresh (reservoir_eq.trans given)
      obtain ⟨r', words', holds', equal'⟩ := fresh' (reservoir_eq.trans given)
      rw [stands]
      exact .inr ⟨rfl, r, r', words, words', holds, holds', equal, equal'⟩

/-- A world with a single gauge, in which nothing is bound. -/
def gaugeWorld : World :=
  ⟨#[.gauge (.text "x")], .empty, #[], fun _ _ => 0⟩

/-- The gauge is registered after the lookup of a histogram, and then another operation of the same kind runs,
during which the gauge is registered again.  If the other one binds the same name, its histogram is
given; if it binds another name, the histogram that was built is bound and found. -/
theorem findOrBuildAmid_linear_nested :
    let listing := fun w : World => (w.register (.text "g") 0).2
    let other := fun (name : String) (w : World) => (w.findOrBuildAmid (.text "g") { name := .text name } {}
      (fun w => (w.register (.text "k") 0).2) id).2
    let lost := gaugeWorld.findOrBuildAmid (.text "g") { name := .text "h" } {} listing (other "h")
    let won := gaugeWorld.findOrBuildAmid (.text "g") { name := .text "h" } {} listing (other "i")
    (lost.1 = .ok 2 ∧ lost.2.registry = (other "h" (listing gaugeWorld)).registry) ∧
      ∃ id h, won.1 = .ok id ∧ won.2.registry.find? (.text "g") (.text "h") = some id ∧
        won.2.object id = .histogram h ∧ h.name = "h" := by
  intro listing other lost won
  have asList : listed { name := .text "h" } = .ok { name := .text "h" } := rfl
  have builds : ((listing gaugeWorld).build { name := .text "h" } {}).1 = .ok ⟨"h", 1, Table.defaults⟩ := rfl
  have faster : (other "h" (listing gaugeWorld)).registry.find? (.text "g") (.text "h") = some 2 := rfl
  have slower : (other "i" (listing gaugeWorld)).registry.find? (.text "g") (.text "h") = none := rfl
  obtain ⟨-, -, -, theirs⟩ := findOrBuildAmid_linear gaugeWorld listing (other "h") rfl rfl asList builds
    fun id bound => by
      obtain rfl : 2 = id := Option.some.inj (faster.symm.trans bound)
      decide
  obtain ⟨-, -, -, own⟩ := findOrBuildAmid_linear gaugeWorld listing (other "i") rfl rfl asList builds
    fun id bound => absurd (slower.symm.trans bound) (Option.some_ne_none id).symm
  obtain ⟨id, h, given, -, -, found, stands, -, named, -⟩ := own
  exact ⟨⟨theirs.2, theirs.1⟩, id, h, given, found, stands, named⟩

end World

end SampledMetrics
