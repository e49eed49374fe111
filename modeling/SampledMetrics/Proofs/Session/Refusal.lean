import SampledMetrics.Proofs.Session.Events
import SampledMetrics.Proofs.Session.Isolation
/-!
Calls on the registry that are refused leave no trace.  Every check of a registration, and everything that
can fail when a histogram is built, comes before the binding; what is left are events.  Main statement:
the registry is as it was, and so is whatever is answered from then on.
-/

set_option autoImplicit false
set_option relaxedAutoImplicit false

namespace SampledMetrics

namespace World

variable {w : World} {failure : Failure}

private theorem register_refused {group name : Value} {id : ObjectId}
    (named : (w.object id).ownName = .ok (some name)) (usable : name.isKey)
    (refused : (w.register group id).1 = .error failure) : (w.register group id).2 = w := by
  have usable' := checkKey_of_isKey usable
  cases key : checkKey group with
  | error failure => simp only [register, key]
  | ok _ =>
    cases found : w.registry.find? group name with
    | some metric => simp only [register, key, named, usable', found, Registry.withGroup_of_find? found]
    | none =>
      have accepted : (w.register group id).1 = .ok () := by
        simp only [register, key, named, usable', found]
      rw [accepted] at refused
      cases refused

private theorem unbound_of_findHistogram {group name : Value} (looked : w.findHistogram group name = .ok none) :
    w.registry.find? group name = none := by
  unfold findHistogram at looked
  obtain ⟨-, -, looked⟩ := Failure.bind_eq_ok_iff.mp looked
  obtain ⟨-, -, looked⟩ := Failure.bind_eq_ok_iff.mp looked
  cases found : w.registry.find? group name with
  | none => rfl
  | some id =>
    rw [found] at looked
    obtain ⟨metric, -, given⟩ := Failure.bind_eq_ok_iff.mp looked
    cases given

private theorem buildAndBind_refused {group : Value} {recipe : Recipe} {defaults : Defaults}
    (unbound : w.registry.find? group recipe.name = none)
    (refused : (w.buildAndBind group recipe defaults).1 = .error failure) :
    ∃ events, (w.buildAndBind group recipe defaults).2 = w.tell events := by
  rw [buildAndBind_eq_store] at refused ⊢
  rcases made : w.make recipe defaults with ⟨_ | u, events⟩
  · exact ⟨events, rfl⟩
  · rw [made] at refused
    obtain ⟨id, _, _, _, given, _⟩ := store_of_unbound made (w := w.tell events) unbound
    rw [given] at refused
    cases refused

private theorem findOrBuild_refused {group : Value} {recipe : Recipe} {defaults : Defaults}
    (refused : (w.findOrBuild group recipe defaults id).1 = .error failure) :
    ∃ events, (w.findOrBuild group recipe defaults id).2 = w.tell events := by
  have nothing : w = w.tell [] := by simp [tell]
  unfold findOrBuild at refused ⊢
  rcases looked : w.findHistogram group recipe.name with other | _ | metric
  · exact ⟨[], nothing⟩
  · rw [looked] at refused
    unfold listBuildAndBind at refused ⊢
    cases asList : listed recipe with
    | error other => exact ⟨[], nothing⟩
    | ok plain =>
      rw [asList] at refused
      have unbound := unbound_of_findHistogram looked
      rw [← (listed_spec asList).1] at unbound
      exact buildAndBind_refused unbound refused
  · rw [looked] at refused
    cases refused

end World

/-- The answer of a step that is refused, at once or after steps of its own. -/
def Answer.isRefusal : Answer → Bool
  | .refused _ | .refusedDuring _ _ => true
  | _ => false

namespace Session

variable {s : Session}

/-- Whether a step is a registration of an object under a name that may be a key, or asks for a histogram
whose percentiles run no step on the registry. -/
def callsRegistry (s : Session) : Step → Bool
  | .register _ on =>
      match s.place on with
      | .ok id => (s.world.object id).ownName.toOption.any fun name => name.any Value.isKey
      | .error _ => true
  | .findOrBuild _ _ _ => true
  | .findOrBuildDuring _ _ _ during => during.all fun step => !step.isBinding
  | _ => false

private theorem quiet_runAll {steps : List Step} (binds : steps.all fun step => !step.isBinding) :
    s.Quiet (runAll s steps).2 := by
  induction steps generalizing s with
  | nil => exact Quiet.refl s
  | cons step rest ih =>
    obtain ⟨now, later⟩ : step.isBinding = false ∧ rest.all fun step => !step.isBinding := by
      simpa using binds
    have first := quiet_run (s := s) now
    have others := ih (s := (run s step).2) later
    rw [runAll_cons]
    exact ⟨first.world.trans others.world, others.defaults.trans first.defaults⟩

private theorem registry_interlude {step : Step} (calls : s.callsRegistry step) :
    (s.interlude step).world.registry = s.world.registry := by
  cases step with
  | findOrBuildDuring as group request during =>
    unfold interlude
    dsimp only
    split
    · exact (quiet_runAll calls).world.registry
    · rfl
  | _ => rfl

private theorem iterated_refused {group : Value} {recipe : Recipe} {failure : Failure}
    (unbound : s.world.registry.find? group recipe.name = none)
    (refused : (s.iterated group recipe).1 = .error failure) :
    ∃ events, (s.iterated group recipe).2 = s.world.tell events := by
  unfold iterated at refused ⊢
  cases itemized : Table.itemsOf recipe.percentiles with
  | error other => exact ⟨[], by simp [World.tell]⟩
  | ok items =>
    rw [itemized] at refused
    have listed : s.world.registry.find? group { recipe with percentiles := .list items }.name = none := unbound
    exact World.buildAndBind_refused listed refused

/-- A session with events that were not told in another one, and the same otherwise. -/
def Tells (s t : Session) : Prop :=
  ∃ events, t = { s with world := s.world.tell events }

theorem Tells.refl (s : Session) : s.Tells s :=
  ⟨[], by simp [World.tell]⟩

private theorem tells_register {group : Value} {on : String} (calls : s.callsRegistry (.register group on))
    (refused : (run s (.register group on)).1.isRefusal) : s.Tells (run s (.register group on)).2 := by
  unfold callsRegistry at calls
  cases placed : s.place on with
  | error failure =>
    rw [run_register_of_error placed]
    exact .refl s
  | ok id =>
    obtain ⟨name, named, usable⟩ : ∃ name, (s.world.object id).ownName = .ok (some name) ∧ name.isKey := by
      simp only [placed] at calls
      rcases own : (s.world.object id).ownName with failure | _ | name <;> rw [own] at calls
      · cases calls
      · cases calls
      · exact ⟨name, rfl, calls⟩
    rw [run_register_of_ok placed] at refused ⊢
    rcases done : s.world.register group id with ⟨failure | _, w⟩
    · have kept := World.register_refused named usable (congrArg Prod.fst done)
      rw [done] at kept
      obtain rfl : w = s.world := kept
      exact .refl s
    · rw [done] at refused
      cases refused

private theorem tells_findOrBuild {as : Option String} {group : Value} {request : HistogramRequest}
    (refused : (run s (.findOrBuild as group request)).1.isRefusal) :
    s.Tells (run s (.findOrBuild as group request)).2 := by
  cases asked : s.recipeOf request with
  | error failure =>
    rw [run_findOrBuild_of_error asked]
    exact .refl s
  | ok recipe =>
    rw [run_findOrBuild_of_ok asked] at refused ⊢
    rcases done : s.world.findOrBuild group recipe s.defaults id with ⟨failure | metric, w⟩
    · obtain ⟨events, left⟩ := World.findOrBuild_refused (congrArg Prod.fst done)
      rw [done] at left
      exact ⟨events, congrArg (fun world => { s with world }) left⟩
    · rw [done] at refused
      cases refused

private theorem tells_findOrBuildDuring {as : Option String} {group : Value} {request : HistogramRequest}
    {during : List Step} (calls : s.callsRegistry (.findOrBuildDuring as group request during))
    (refused : (run s (.findOrBuildDuring as group request during)).1.isRefusal) :
    (s.interlude (.findOrBuildDuring as group request during)).Tells
      (run s (.findOrBuildDuring as group request during)).2 := by
  rcases run_findOrBuildDuring_cases s as group request during with
    ⟨idle, failure, ran | ran⟩ | ⟨recipe, asked, ⟨-, metric, -, ran⟩ | ⟨listing, unbound⟩⟩
  · rw [ran, interlude, idle]
    exact .refl s
  · rw [ran, interlude, idle]
    exact .refl s
  · rw [ran] at refused
    cases refused
  · have unbound' := World.unbound_of_findHistogram unbound
    rw [← (quiet_runAll (s := s) calls).world.registry] at unbound'
    rw [run_findOrBuildDuring_of_unbound as during asked unbound] at refused ⊢
    rw [interlude, if_pos listing]
    rcases done : (runAll s during).2.iterated group recipe with ⟨failure | metric, w⟩
    · obtain ⟨events, left⟩ := iterated_refused unbound' (congrArg Prod.fst done)
      rw [done] at left
      exact ⟨events, congrArg (fun world => { (runAll s during).2 with world }) left⟩
    · rw [done] at refused
      cases refused

private theorem tells_run {step : Step} (calls : s.callsRegistry step) (refused : (run s step).1.isRefusal) :
    (s.interlude step).Tells (run s step).2 := by
  cases step with
  | register group on => exact tells_register calls refused
  | findOrBuild as group request => exact tells_findOrBuild refused
  | findOrBuildDuring as group request during => exact tells_findOrBuildDuring calls refused
  | _ => cases calls

/-- A call on the registry that is refused, and whose percentiles run no step on the registry, leaves the
registry as it was: all that is left of it are the steps of its percentiles and events, so that every
answer from then on is the one without the call.  A reservoir that these steps do not observe keeps what it
holds, also the one that is passed in the call. -/
theorem registry_refusal {step : Step} (calls : s.callsRegistry step) (refused : (run s step).1.isRefusal) :
    (run s step).2.world.registry = s.world.registry ∧
      (∃ events, (run s step).2 =
        { s.interlude step with world := (s.interlude step).world.tell events }) ∧
      (∀ later, (runAll (run s step).2 later).1 = (runAll (s.interlude step) later).1) ∧
      ((∀ as group request during, step ≠ .findOrBuildDuring as group request during) →
        s.interlude step = s) ∧
      ∀ g r, s.world.object g = .reservoir r →
        (∀ t ∈ s.nested step, t.before.observed? t.step ≠ some g) →
        (run s step).2.world.object g = .reservoir r := by
  obtain ⟨events, left⟩ := tells_run calls refused
  have alike : (s.interlude step).Alike (run s step).2 := by
    rw [left]
    exact (Alike.refl _).withWorld (World.alike_tell _ events)
  refine ⟨?_, ⟨events, left⟩, ?_, ?_, ?_⟩
  · rw [alike.world.registry]
    exact registry_interlude calls
  · intro later
    exact (alike.runAll later).1
  · intro plain
    cases step with
    | findOrBuildDuring as group request during => exact absurd rfl (plain as group request during)
    | _ => rfl
  · intro g r stands unobserved
    rw [alike.world.object]
    exact kept_interlude (P := fun w => w.object g = .reservoir r) stands step fun t among =>
      (change_run t.before t.step).reservoir_eq (unobserved t among)

/-- A gauge that is registered, and a window that holds a number. -/
def gaugeSession : Session :=
  (runAll (start (fun _ _ => 0) {}) [.gauge "busy" (.text "busy"), .register (.text "jobs") "busy",
    .reservoir "window" (.sliding (.int 3)), .update "window" (.int 8)]).2

/-- A histogram on the window with a percentile that is left out and no other metric. -/
def idleStep : Step :=
  .findOrBuild none (.text "jobs") ⟨.text "idle", some "window", .list [.int 200], .bool true⟩

/-- The histogram is refused, and so is the gauge when it is registered again. -/
theorem registry_refusal_gauge :
    (gaugeSession.callsRegistry idleStep ∧ (run gaugeSession idleStep).1.isRefusal ∧
        (run gaugeSession idleStep).2.world.registry = gaugeSession.world.registry ∧
        (run gaugeSession idleStep).2.world.object 1 = gaugeSession.world.object 1) ∧
      (run gaugeSession (.register (.text "jobs") "busy")).1.isRefusal ∧
      (run gaugeSession (.register (.text "jobs") "busy")).2.world.registry = gaugeSession.world.registry := by
  obtain ⟨r, window⟩ := exists_reservoir (by decide +kernel : (gaugeSession.world.object 1).isObserver)
    (by decide +kernel)
  have calls : gaugeSession.callsRegistry idleStep := by decide +kernel
  have refused : (run gaugeSession idleStep).1.isRefusal := by decide +kernel
  have again : (run gaugeSession (.register (.text "jobs") "busy")).1.isRefusal := by decide +kernel
  obtain ⟨registry, -, -, -, keeps⟩ := registry_refusal calls refused
  refine ⟨⟨calls, refused, registry, ?_⟩, again, (registry_refusal (by decide +kernel) again).1⟩
  rw [window]
  refine keeps 1 r window fun t within => ?_
  cases within

end Session

end SampledMetrics
