import SampledMetrics.Proofs.Session.Bindings
import SampledMetrics.Proofs.Session.Refusal
import SampledMetrics.Proofs.World.News
/-!
What a session tells.  Main statement: the events leave nothing out and tell nothing twice.  Every building
accounts for the values that it was given, and the registrations in a run are the bindings that were made in
its course, one by one and in order; a turn that binds nothing tells of none.
-/

set_option autoImplicit false
set_option relaxedAutoImplicit false

namespace SampledMetrics

/-- The group and the name that a metric is bound under, as values. -/
def Binding.values (b : Binding) : Value × Value :=
  (.text b.group, .text b.name)

namespace Turn

/-- The session in which a turn does what it has to do itself, after the steps in its course. -/
def moment (t : Turn) : Session :=
  t.before.interlude t.step

/-- The group and the name under which a turn would bind a metric. -/
def key? (t : Turn) : Option (Value × Value) :=
  match t.step with
  | .register group on =>
      match t.before.place on with
      | .ok id => (t.before.world.object id).ownName.toOption.join.map fun name => (group, name)
      | .error _ => none
  | .findOrBuild _ group request | .findOrBuildDuring _ group request _ => some (group, request.name)
  | _ => none

/-- What a turn binds: nothing if it is refused, or if the name is bound by the time that it could bind it,
before the turn or in its course. -/
def due? (t : Turn) : Option (Value × Value) :=
  t.key?.bind fun key => t.moment.world.due? key.1 key.2 (!t.answer.isRefusal)

end Turn

namespace Session

variable {s : Session}

private theorem due?_of_answer {step : Step} {group name : Value} (key : Turn.key? ⟨s, step⟩ = some (group, name))
    {answer : Answer} (answered : (run s step).1 = answer) :
    Turn.due? ⟨s, step⟩ = (s.interlude step).world.due? group name (!answer.isRefusal) := by
  rw [Turn.due?, key, ← answered]
  rfl

theorem announces_register {g on : String}
    (named : ∀ id, s.place on = .ok id → ∃ n, (s.world.object id).ownName = .ok (some (.text n))) :
    s.world.Announces (run s (.register (.text g) on)).2.world (Turn.due? ⟨s, .register (.text g) on⟩) := by
  cases placed : s.place on with
  | error failure =>
    have nothing : Turn.due? ⟨s, .register (.text g) on⟩ = none := by simp [Turn.due?, Turn.key?, placed]
    rw [nothing, run_register_of_error placed]
    exact World.announces_of_eq rfl rfl
  | ok id =>
    obtain ⟨n, named⟩ := named id placed
    have key : Turn.key? ⟨s, .register (.text g) on⟩ = some (.text g, .text n) := by
      simp [Turn.key?, placed, named, Except.toOption]
    have announces := World.announces_register (g := g) named
    have ran := run_register_of_ok placed (.text g)
    rw [due?_of_answer key (congrArg Prod.fst ran), ran]
    rcases done : s.world.register (.text g) id with ⟨failure | _, w⟩ <;>
    · rw [done] at announces
      exact announces

theorem announces_findOrBuild (s : Session) (as : Option String) (group : Value) (request : HistogramRequest) :
    s.world.Announces (run s (.findOrBuild as group request)).2.world
      (Turn.due? ⟨s, .findOrBuild as group request⟩) := by
  have key : Turn.key? ⟨s, .findOrBuild as group request⟩ = some (group, request.name) := rfl
  cases asked : s.recipeOf request with
  | error failure =>
    have ran := run_findOrBuild_of_error asked as group
    rw [due?_of_answer key (congrArg Prod.fst ran), ran]
    exact World.announces_of_eq rfl rfl
  | ok recipe =>
    have announces := World.announces_findOrBuild s.world group recipe s.defaults
    rw [name_of_recipeOf asked] at announces
    have ran := run_findOrBuild_of_ok asked as group
    rcases done : s.world.findOrBuild group recipe s.defaults id with ⟨failure | metric, w⟩
    · rw [done] at announces ran
      rw [due?_of_answer key (congrArg Prod.fst ran), ran]
      exact announces
    · rw [done] at announces ran
      rw [due?_of_answer key (congrArg Prod.fst ran), ran, world_nameIf]
      exact announces

private theorem announces_iterated (s : Session) (group : Value) (recipe : Recipe) :
    s.world.Announces (s.iterated group recipe).2
      (s.world.due? group recipe.name (s.iterated group recipe).1.isOk) := by
  unfold iterated
  split
  · exact World.announces_of_eq rfl rfl
  · rename_i items _
    exact World.announces_buildAndBind s.world group { recipe with percentiles := .list items } s.defaults

private theorem announces_findOrBuildDuring (s : Session) (as : Option String) (group : Value)
    (request : HistogramRequest) (during : List Step) :
    (s.interlude (.findOrBuildDuring as group request during)).world.Announces
      (run s (.findOrBuildDuring as group request during)).2.world
      (Turn.due? ⟨s, .findOrBuildDuring as group request during⟩) := by
  have key : Turn.key? ⟨s, .findOrBuildDuring as group request during⟩ = some (group, request.name) := rfl
  have between := interlude_findOrBuildDuring s as group request during
  rcases run_findOrBuildDuring_cases s as group request during with
    ⟨idle, failure, ran | ran⟩ | ⟨recipe, asked, ⟨idle, metric, looked, ran⟩ | ⟨listing, unbound⟩⟩
  · rw [idle, if_neg Bool.false_ne_true] at between
    rw [due?_of_answer key (congrArg Prod.fst ran), ran, between]
    exact World.announces_of_eq rfl rfl
  · rw [idle, if_neg Bool.false_ne_true] at between
    rw [due?_of_answer key (congrArg Prod.fst ran), ran, between]
    exact World.announces_of_eq rfl rfl
  · rw [idle, if_neg Bool.false_ne_true] at between
    have bound := (World.bound_of_findHistogram looked).1
    rw [name_of_recipeOf asked] at bound
    rw [due?_of_answer key (congrArg Prod.fst ran), ran, between, world_nameIf, World.due?_of_bound bound]
    exact World.announces_of_eq rfl rfl
  -- The name was free before the steps in between; whether it still is shows only after them.
  · rw [if_pos listing] at between
    have announces := announces_iterated (runAll s during).2 group recipe
    rw [name_of_recipeOf asked] at announces
    have ran := run_findOrBuildDuring_of_unbound as during asked unbound
    rcases done : (runAll s during).2.iterated group recipe with ⟨failure | metric, w⟩
    · rw [done] at announces ran
      rw [due?_of_answer key (congrArg Prod.fst ran), ran, between]
      exact announces
    · rw [done] at announces ran
      rw [due?_of_answer key (congrArg Prod.fst ran), ran, between, world_nameIf]
      exact announces

private theorem announces_turn {t : Turn} (plain : t.isPlain) : t.moment.world.Announces t.after.world t.due? := by
  obtain ⟨s, step⟩ := t
  cases step with
  | register group on =>
    obtain ⟨⟨g, rfl⟩, named⟩ := texts_of_register plain
    exact announces_register named
  | findOrBuild as group request => exact announces_findOrBuild s as group request
  | findOrBuildDuring as group request during => exact announces_findOrBuildDuring s as group request during
  | _ => exact (related_run World.kept_announces rfl).world

private theorem texts_of_key {t : Turn} (plain : t.isPlain) {key : Value × Value} (aimed : t.key? = some key) :
    ∃ g n, key = (.text g, .text n) := by
  obtain ⟨s, step⟩ := t
  cases step with
  | register group on =>
    obtain ⟨⟨g, rfl⟩, named⟩ := texts_of_register plain
    cases placed : s.place on with
    | error failure => simp [Turn.key?, placed] at aimed
    | ok id =>
      obtain ⟨n, named⟩ := named id placed
      obtain rfl : (.text g, .text n) = key := by
        simpa [Turn.key?, placed, named, Except.toOption] using aimed
      exact ⟨g, n, rfl⟩
  | findOrBuild as group request =>
    obtain ⟨g, n, rfl, named⟩ := Value.exists_of_isText_and plain
    obtain rfl := Option.some.inj aimed
    exact ⟨g, n, Prod.ext rfl named⟩
  | findOrBuildDuring as group request during =>
    obtain ⟨g, n, rfl, named⟩ := Value.exists_of_isText_and plain
    obtain rfl := Option.some.inj aimed
    exact ⟨g, n, Prod.ext rfl named⟩
  | _ => simp [Turn.key?] at aimed

/-- From one session to the next at most one metric is bound, under texts, and the events tell of that. -/
def Announces (m m' : Session) : Prop :=
  ∃ due, m.world.Announces m'.world due ∧ ∀ key, due = some key → ∃ g n, key = (.text g, .text n)

private theorem announces_of_plain (t : Turn) (plain : t.isPlain) : Announces t.moment t.after := by
  refine ⟨t.due?, announces_turn plain, fun key due => ?_⟩
  obtain ⟨key', aimed, due⟩ := Option.bind_eq_some_iff.mp due
  obtain rfl : key' = key := by
    unfold World.due? at due
    split at due
    · exact Option.some.inj due
    · contradiction
  exact texts_of_key plain aimed

theorem Follows.registrations {s s' : Session} {later : List Session} (follows : Follows Announces s later s')
    {bs : List Binding} (chronicle : Registry.Chronicle bs s.world.registry) :
    SampledMetrics.registrations s'.world.events.toList = SampledMetrics.registrations s.world.events.toList ++
      (s.world.registry.additions (later.map fun m => m.world.registry)).map Binding.values := by
  induction later generalizing s bs with
  | nil =>
    obtain rfl : s = s' := follows
    simp [Registry.additions]
  | cons next later ih =>
    obtain ⟨⟨due, announces, texts⟩, follows⟩ := follows
    obtain ⟨⟨news, told, own⟩, bound⟩ := announces
    rw [List.map_cons, Registry.additions, List.map_append]
    cases due with
    | none =>
      have same : next.world.registry = s.world.registry := bound
      rw [ih follows (same ▸ chronicle), told, registrations_append, own, same, chronicle.added_self]
      simp
    | some key =>
      obtain ⟨g, n, rfl⟩ := texts key rfl
      obtain ⟨unbound, id, bound⟩ := bound
      have later_chronicle := chronicle.bind unbound id
      rw [← bound] at later_chronicle
      rw [ih follows later_chronicle, told, registrations_append, own, bound, chronicle.added_bind unbound]
      simp [Binding.values]

/-- What is told in a run.  The records of registrations are those of the bindings, one by one; the bindings are
those of the registry, no two of them under one name in one group; and each turn binds and tells of what it is
due to bind, and of nothing else. -/
structure RunNews (s : Session) (steps : List Step) : Prop where
  registered : ((runAll s steps).2.world.events.toList.filterMap Event.record?).filter
      (fun r => r.logger = registryLogger) =
    (s.bindings steps).map fun b => Record.registration b.values
  bound : Registry.Chronicle (s.bindings steps) (runAll s steps).2.world.registry
  turn : ∀ t ∈ s.turns steps, t.moment.world.Announces t.after.world t.due?

private theorem runNews (words : ObjectId → Nat → UInt64) (defaults : Defaults) (steps : List Step)
    (plain : ∀ t ∈ (start words defaults).turns steps, t.isPlain) : (start words defaults).RunNews steps where
  registered := by
    have follows := follows_turns announces_of_plain _ steps plain
    have told := follows.registrations Registry.Chronicle.empty
    rw [List.map_map] at told
    rw [records_of_registryLogger, told]
    exact List.map_map
  bound := chronicle_runAll words defaults steps plain
  turn t present := announces_turn (plain t present)

/-- The events account for everything.  While a histogram with a usable name is built from a list without an
integer beyond binary64, the values that are left out are told of in the order of the list, then the defaults
among them, and in the end the histogram, exactly if it is built; so every value has an entry, or is told of, or
repeats one before it.  In every run under texts, with the turns in the course of others, the registrations are
the bindings that are made, and a turn that is refused or finds its name bound adds to neither. -/
theorem news_account :
    (∀ (w : World) (recipe : Recipe) (d : Defaults) (name : String) (items : List Value),
      recipe.name = .text name → Text.isBlankText name = false →
      (recipe.effectivePercentiles d).items? = some items → (∀ raw ∈ items, raw.isConvertible) →
        w.BuildNews recipe d items) ∧
    ∀ (words : ObjectId → Nat → UInt64) (defaults : Defaults) (steps : List Step),
      (∀ t ∈ (start words defaults).turns steps, t.isPlain) → (start words defaults).RunNews steps :=
  ⟨fun w _ _ _ _ named filled listed near => World.buildNews named filled listed near w, runNews⟩

/-- A text, a default in both forms, another percentile twice, and numbers that lie outside. -/
def toldValues : List Value :=
  [.text "x", .int 50, .float (.ofInt 50), .int 10, .float (.ofInt 10), .int (-1), .float .nan]

def toldRecipe : Recipe where
  name := .text "h"
  percentiles := .list toldValues

/-- A gauge is registered twice; a histogram is asked for, and bound by another call while its percentiles are
listed; then it is asked for again. -/
def racingSteps : List Step :=
  [.gauge "x" (.text "x"), .register (.text "g") "x", .register (.text "g") "x",
    .findOrBuildDuring none (.text "g") ⟨.text "h", none, .list toldValues, .bool false⟩
      [.findOrBuild none (.text "g") ⟨.text "h", none, .null, .bool false⟩],
    .findOrBuild none (.text "g") ⟨.text "h", none, .null, .bool false⟩]

theorem news_account_racing :
    let s := start (fun _ _ => 0) {}
    s.world.BuildNews toldRecipe {} toldValues ∧
      (Table.news false toldValues).map Event.message? =
        [some "Ignoring non-numeric percentile: 'x'", some "Ignoring percentile outside [0, 100]: -1",
          some "Ignoring percentile outside [0, 100]: nan",
          some "Percentile P50 duplicates a default metric; keeping the default"] ∧
      s.RunNews racingSteps ∧
      (s.bindings racingSteps).map Binding.key = [("g", "x"), ("g", "h")] ∧
      (s.turns racingSteps).map (fun t => t.due?.isSome) = [false, true, false, true, false, false] := by
  intro s
  obtain ⟨builds, runs⟩ := news_account
  refine ⟨builds s.world toldRecipe {} "h" toldValues rfl (by decide) rfl (by decide +kernel), by decide +kernel,
    runs (fun _ _ => 0) {} racingSteps (by decide +kernel), by decide +kernel, by decide +kernel⟩

end Session

end SampledMetrics
