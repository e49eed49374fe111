import SampledMetrics.Proofs.World.Objects
/-!
Building in two parts: what is built, which needs no place among the objects, and the place that a new
reservoir gets.
-/

set_option autoImplicit false
set_option relaxedAutoImplicit false

namespace SampledMetrics

theorem WordStream.ofSeed_cases (seed : Value) (words : Nat → UInt64) :
    (seed.isShowable ∧ ∃ stream, WordStream.ofSeed seed words = .ok stream) ∨
      seed.isShowable = false ∧ WordStream.ofSeed seed words = .error .digitLimit := by
  unfold WordStream.ofSeed
  split
  · exact .inl ⟨rfl, _, rfl⟩
  · split
    · rename_i showable
      exact .inl ⟨showable, _, rfl⟩
    · rename_i long
      exact .inr ⟨Bool.eq_false_iff.mpr long, rfl⟩

namespace Reservoir

variable {size seed : Value}

theorem makeUniform_of_checkCapacity {capacity : Nat} (sized : checkCapacity size = .ok capacity)
    (showable : seed.isShowable) (words : Nat → UInt64) :
    ∃ stream, WordStream.ofSeed seed words = .ok stream ∧
      makeUniform size seed words = .ok (.uniform (.empty capacity stream)) := by
  rcases WordStream.ofSeed_cases seed words with ⟨-, stream, seeded⟩ | ⟨long, -⟩
  · refine ⟨stream, seeded, ?_⟩
    rw [makeUniform, sized, seeded]
    rfl
  · rw [showable] at long
    contradiction

/-- Whether a reservoir can be made depends on its size and its seed only; the system's words show in its
stream. -/
theorem makeUniform_cases (size seed : Value) :
    (∃ failure, ∀ words, makeUniform size seed words = .error failure) ∨
      ∃ capacity, checkCapacity size = .ok capacity ∧ ∀ words, ∃ stream,
        WordStream.ofSeed seed words = .ok stream ∧
        makeUniform size seed words = .ok (.uniform (.empty capacity stream)) := by
  cases sized : checkCapacity size with
  | error failure =>
    refine Or.inl ⟨failure, fun words => ?_⟩
    rw [makeUniform, sized]
    rfl
  | ok capacity =>
    cases text : seed.isShowable with
    | true => exact Or.inr ⟨capacity, rfl, makeUniform_of_checkCapacity sized text⟩
    | false =>
      refine Or.inl ⟨.digitLimit, fun words => ?_⟩
      rcases WordStream.ofSeed_cases seed words with ⟨short, -⟩ | ⟨-, unseeded⟩
      · rw [text] at short
        contradiction
      · rw [makeUniform, sized, unseeded]
        rfl

end Reservoir

/-- What a histogram that is not stored yet stands on: an object that was given, or a reservoir that was
made for it and that nobody else can reach. -/
inductive Ground
  | given (id : ObjectId)
  | fresh (reservoir : Reservoir)

/-- A histogram that is built but not stored.  A reservoir made for it takes a place among the objects
only when the histogram is stored. -/
structure Unstored where
  plan : HistogramPlan
  ground : Ground

namespace World

/-- The event that a histogram of a plan was built on an object. -/
def builtEvent (plan : HistogramPlan) (ground : Object) : Event :=
  .built plan.name (Text.sorted plan.extractors.names)
    (if ground.isShowable then some ground.describe else none)

/-- Build without storing: what is built, and the events of the building. -/
def make (w : World) (recipe : Recipe) (defaults : Defaults) :
    Except Failure Unstored × List Event :=
  let plan := recipe.plan defaults
  match plan.result, recipe.reservoir with
  | .error failure, _ => (.error failure, plan.events)
  | .ok p, some id => (.ok ⟨p, .given id⟩, plan.events ++ [builtEvent p (w.object id)])
  | .ok p, none =>
      match Reservoir.makeUniform defaults.reservoirSize defaults.reservoirSeed
          (w.systemWords w.objects.size) with
      | .error failure => (.error failure, plan.events)
      | .ok r => (.ok ⟨p, .fresh r⟩, plan.events ++ [builtEvent p (.reservoir r)])

/-- The histogram on its reservoir, which has a place now. -/
def settle (w : World) (u : Unstored) : Histogram × World :=
  match u.ground with
  | .given id => (⟨u.plan.name, id, u.plan.extractors⟩, w)
  | .fresh r =>
      let (id, w) := w.add (.reservoir r)
      (⟨u.plan.name, id, u.plan.extractors⟩, w)

variable {w v : World} {recipe : Recipe} {defaults : Defaults} {u : Unstored} {events : List Event}

theorem build_eq_make (w : World) (recipe : Recipe) (defaults : Defaults) :
    w.build recipe defaults =
      match w.make recipe defaults with
      | (.error failure, events) => (.error failure, w.tell events)
      | (.ok u, events) => (.ok (w.settle u).1, (w.settle u).2.tell events) := by
  cases planned : (recipe.plan defaults).result with
  | error failure => simp only [build, make, planned]
  | ok plan =>
    cases given : recipe.reservoir with
    | some id => simp only [build, make, settle, planned, given, finishBuild, builtEvent, tell_tell]; rfl
    | none =>
      have words : (w.tell (recipe.plan defaults).events).systemWords
          (w.tell (recipe.plan defaults).events).objects.size = w.systemWords w.objects.size := rfl
      cases made : Reservoir.makeUniform defaults.reservoirSize defaults.reservoirSeed
          (w.systemWords w.objects.size) with
      | error failure => simp only [build, make, planned, given, words, made]
      | ok r =>
        simp only [build, make, settle, planned, given, words, made, finishBuild, builtEvent, add_tell,
          object_tell, object_add_self, tell_tell]

theorem result_make (w : World) (recipe : Recipe) (defaults : Defaults) :
    (w.make recipe defaults).1 =
      (recipe.plan defaults).result.bind fun plan =>
        match recipe.reservoir with
        | some id => .ok ⟨plan, .given id⟩
        | none =>
            (Reservoir.makeUniform defaults.reservoirSize defaults.reservoirSeed
              (w.systemWords w.objects.size)).map fun r => ⟨plan, .fresh r⟩ := by
  cases planned : (recipe.plan defaults).result with
  | error failure =>
    simp only [make, planned]
    rfl
  | ok plan =>
    cases given : recipe.reservoir with
    | some id =>
      simp only [make, planned, given]
      rfl
    | none =>
      cases made : Reservoir.makeUniform defaults.reservoirSize defaults.reservoirSeed
          (w.systemWords w.objects.size) <;>
        simp only [make, planned, given, made, Except.bind, Except.map]

theorem settle_tell (w : World) (events : List Event) (u : Unstored) :
    (w.tell events).settle u = ((w.settle u).1, (w.settle u).2.tell events) := by
  unfold settle
  split <;> rfl

theorem make_of_build {h : Histogram} (built : (w.build recipe defaults).1 = .ok h) :
    ∃ u events, w.make recipe defaults = (.ok u, events) := by
  rw [build_eq_make] at built
  rcases made : w.make recipe defaults with ⟨_ | u, events⟩
  · simp [made] at built
  · exact ⟨u, events, rfl⟩

private theorem exists_makeUniform {size seed : Value} {words : Nat → UInt64} {r : Reservoir}
    (made : Reservoir.makeUniform size seed words = .ok r) (words' : Nat → UInt64) :
    ∃ r', Reservoir.makeUniform size seed words' = .ok r' := by
  rcases Reservoir.makeUniform_cases size seed with ⟨failure, refused⟩ | ⟨capacity, -, all⟩
  · rw [refused words] at made
    contradiction
  · obtain ⟨stream, -, made'⟩ := all words'
    exact ⟨_, made'⟩

theorem make_cases (made : v.make recipe defaults = (.ok u, events)) :
    (recipe.plan defaults).result = .ok u.plan ∧
      ((∃ id, recipe.reservoir = some id ∧ u.ground = .given id) ∨
        recipe.reservoir = none ∧ ∃ r words, u.ground = .fresh r ∧
          Reservoir.makeUniform defaults.reservoirSize defaults.reservoirSeed words = .ok r) := by
  unfold make at made
  dsimp only at made
  split at made
  · simp at made
  · rename_i plan id planned given
    obtain rfl := Except.ok.inj (Prod.mk.inj made).1
    exact ⟨planned, .inl ⟨id, given, rfl⟩⟩
  · rename_i plan planned none
    split at made
    · simp at made
    · rename_i r fresh
      obtain rfl := Except.ok.inj (Prod.mk.inj made).1
      exact ⟨planned, .inr ⟨none, r, _, rfl, fresh⟩⟩

theorem exists_make (made : v.make recipe defaults = (.ok u, events)) (w : World) :
    ∃ u' events', w.make recipe defaults = (.ok u', events') ∧ u'.plan = u.plan := by
  obtain ⟨planned, ⟨id, given, -⟩ | ⟨none, r, words, -, fresh⟩⟩ := make_cases made
  · exact ⟨⟨u.plan, .given id⟩, _, by simp only [make, planned, given]; rfl, rfl⟩
  · obtain ⟨r', fresh'⟩ := exists_makeUniform fresh (w.systemWords w.objects.size)
    exact ⟨⟨u.plan, .fresh r'⟩, _, by simp only [make, planned, none, fresh']; rfl, rfl⟩

theorem settle_of_make (made : v.make recipe defaults = (.ok u, events)) (w : World) :
    (w.settle u).1 = ⟨u.plan.name, recipe.reservoir.getD w.objects.size, u.plan.extractors⟩ ∧
      (w.settle u).2.registry = w.registry ∧
      (w.settle u).2.objects.size = w.objects.size + (if recipe.reservoir = none then 1 else 0) ∧
      (∀ id < w.objects.size, (w.settle u).2.object id = w.object id) ∧
      (recipe.reservoir = none → ∃ r words, (w.settle u).2.object w.objects.size = .reservoir r ∧
        Reservoir.makeUniform defaults.reservoirSize defaults.reservoirSeed words = .ok r) := by
  obtain ⟨-, ⟨id, given, ground⟩ | ⟨none, r, words, ground, fresh⟩⟩ := make_cases made
  · simp [settle, ground, given]
  · refine ⟨by simp [settle, ground, none], by simp [settle, ground], by simp [settle, ground, none], ?_, ?_⟩
    · intro id present
      simp [settle, ground, object_add_of_lt present]
    · exact fun _ => ⟨r, words, by simp [settle, ground, object_add], fresh⟩

end World

end SampledMetrics
