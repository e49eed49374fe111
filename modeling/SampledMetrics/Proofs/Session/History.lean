import Mathlib.Data.List.Chain
import SampledMetrics.Proofs.Session.Names
import SampledMetrics.Proofs.Session.Quiet
/-!
The registry in the course of a session, with the steps that are run while others list percentiles.
Main statement: with texts for groups and names, a metric once bound stays bound, under its own name, to
the same object; groups only grow at the end; and the histogram that is asked for is the one bound.
-/

set_option autoImplicit false
set_option relaxedAutoImplicit false

namespace SampledMetrics

namespace Session

/-- A later session: the registry stays, or gets one further binding. -/
structure Advances (s s' : Session) : Prop where
  grows : s.world.Grows s'.world
  binds : s.world.Binds s'.world
  defaults : s'.defaults = s.defaults

private theorem Quiet.advances {s s' : Session} (quiet : s.Quiet s') : s.Advances s' :=
  ⟨quiet.world.toGrows, .inl quiet.world.registry, quiet.defaults⟩

theorem Advances.refl (s : Session) : s.Advances s :=
  (Quiet.refl s).advances

/-- Whether a request comes to listing its percentiles: it can be read, and its name is not bound. -/
def lists (s : Session) (group : Value) (request : HistogramRequest) : Bool :=
  match s.recipeOf request with
  | .error _ => false
  | .ok recipe =>
      match s.world.findHistogram group recipe.name with
      | .ok none => true
      | _ => false

/-- The session when the percentiles of a step are listed. -/
def interlude (s : Session) : Step → Session
  | .findOrBuildDuring _ group request during =>
      if s.lists group request then (runAll s during).2 else s
  | _ => s

end Session

/-- One step of a run, and the session in which it was taken. -/
structure Turn where
  before : Session
  step : Step

namespace Turn

def answer (t : Turn) : Answer :=
  (t.before.run t.step).1

def after (t : Turn) : Session :=
  (t.before.run t.step).2

end Turn

/-- A histogram in an answer: the label that it gets, the group and the name that it was asked for under,
and its description. -/
structure Finding where
  as : Option String
  group : Value
  name : Value
  description : String

def Turn.finding? (t : Turn) : Option Finding :=
  match t.step, t.answer with
  | .findOrBuild as group request, .histogram description _ =>
      some ⟨as, group, request.name, description⟩
  | .findOrBuildDuring as group request _, .histogramDuring description _ _ =>
      some ⟨as, group, request.name, description⟩
  | _, _ => none

namespace Session

mutual

/-- The turns that are taken while the percentiles of a step are listed. -/
def nested (s : Session) : Step → List Turn
  | .findOrBuildDuring _ group request during => if s.lists group request then turns s during else []
  | _ => []

/-- The turns of a run, each at its end: those that were taken in the course of another one come
before it. -/
def turns (s : Session) : List Step → List Turn
  | [] => []
  | step :: rest => nested s step ++ ⟨s, step⟩ :: turns (run s step).2 rest

end

end Session

def Value.isText : Value → Bool
  | .text _ => true
  | _ => false

private theorem Value.exists_of_isText {v : Value} (text : v.isText) : ∃ n, v = .text n := by
  cases v <;> first | exact ⟨_, rfl⟩ | contradiction

theorem Value.exists_of_isText_and {v v' : Value} (texts : v.isText && v'.isText) :
    ∃ g n, v = .text g ∧ v' = .text n := by
  obtain ⟨text, text'⟩ := Bool.and_eq_true_iff.mp texts
  obtain ⟨g, same⟩ := exists_of_isText text
  obtain ⟨n, same'⟩ := exists_of_isText text'
  exact ⟨g, n, same, same'⟩

def Object.hasTextName (object : Object) : Bool :=
  match object.ownName with
  | .ok (some name) => name.isText
  | _ => false

/-- Whether a turn has texts for groups and for names of metrics, as far as it is about the registry. -/
def Turn.isPlain (t : Turn) : Bool :=
  match t.step with
  | .register group on =>
      group.isText && match t.before.place on with
        | .ok id => (t.before.world.object id).hasTextName
        | .error _ => true
  | .findOrBuild _ group request => group.isText && request.name.isText
  | .findOrBuildDuring _ group request _ => group.isText && request.name.isText
  | _ => true

private theorem Object.exists_of_hasTextName {object : Object} (named : object.hasTextName) :
    ∃ n, object.ownName = .ok (some (.text n)) := by
  unfold hasTextName at named
  split at named
  · rename_i name same
    obtain ⟨n, rfl⟩ := Value.exists_of_isText named
    exact ⟨n, same⟩
  · contradiction

namespace Session

variable {s : Session}

theorem name_of_recipeOf {request : HistogramRequest} {recipe : Recipe}
    (asked : s.recipeOf request = .ok recipe) : recipe.name = request.name := by
  obtain ⟨reservoir, -, asked⟩ := Failure.bind_eq_ok_iff.mp asked
  obtain rfl := Except.ok.inj asked
  rfl

section Calls

variable {group : Value} {on : String} {request : HistogramRequest} {failure : Failure}

theorem run_register_of_error (placed : s.place on = .error failure) (group : Value) :
    run s (.register group on) = (.refused failure, s) := by
  simp [run, placed, changing, bind, Except.bind]

theorem run_register_of_ok {id : ObjectId} (placed : s.place on = .ok id) (group : Value) :
    run s (.register group on) =
      match s.world.register group id with
      | (.error failure, w) => (.refused failure, { s with world := w })
      | (.ok (), w) => (.accepted, { s with world := w }) := by
  rcases done : s.world.register group id with ⟨_ | _, w⟩ <;>
    simp [run, placed, done, changing, bind, Except.bind, pure, Except.pure]

theorem run_findOrBuild_of_error (asked : s.recipeOf request = .error failure) (as : Option String)
    (group : Value) : run s (.findOrBuild as group request) = (.refused failure, s) := by
  simp [run, asked, changing, bind, Except.bind]

theorem run_findOrBuild_of_ok {recipe : Recipe} (asked : s.recipeOf request = .ok recipe) (as : Option String)
    (group : Value) :
    run s (.findOrBuild as group request) =
      match s.world.findOrBuild group recipe s.defaults id with
      | (.error failure, w) => (.refused failure, { s with world := w })
      | (.ok metric, w) =>
          (.histogram (w.object metric).describe ({ s with world := w }.namesOf metric),
            { s with world := w }.nameIf as metric) := by
  rcases done : s.world.findOrBuild group recipe s.defaults id with ⟨_ | metric, w⟩ <;>
    simp [run, asked, done, changing, bind, Except.bind, pure, Except.pure, describeMetric]

end Calls

/-- The percentiles of a recipe iterated, and then a histogram built and bound. -/
def iterated (s : Session) (group : Value) (recipe : Recipe) : Except Failure ObjectId × World :=
  match Table.itemsOf recipe.percentiles with
  | .error failure => (.error failure, s.world)
  | .ok items => s.world.buildAndBind group { recipe with percentiles := .list items } s.defaults

theorem grows_iterated (s : Session) (group : Value) (recipe : Recipe) :
    s.world.Grows (s.iterated group recipe).2 := by
  unfold iterated
  split
  · exact World.Grows.refl _
  · exact World.grows_buildAndBind _ _ _ _

private theorem iterated_spec {g n : String} {recipe : Recipe} (s : Session) (named : recipe.name = .text n) :
    s.world.Binds (s.iterated (.text g) recipe).2 ∧
      ∀ metric, (s.iterated (.text g) recipe).1 = .ok metric →
        (s.iterated (.text g) recipe).2.registry.find? (.text g) (.text n) = some metric ∧
          ∃ h, (s.iterated (.text g) recipe).2.object metric = .histogram h := by
  unfold iterated
  cases Table.itemsOf recipe.percentiles with
  | error failure => exact ⟨.inl rfl, fun metric given => by contradiction⟩
  | ok items =>
    have named' : ({ recipe with percentiles := .list items } : Recipe).name = .text n := named
    exact ⟨World.binds_buildAndBind named', fun metric given => World.bound_of_buildAndBind named' given⟩

theorem run_findOrBuildDuring_of_unbound (as : Option String) {group : Value}
    {request : HistogramRequest} {recipe : Recipe} (during : List Step)
    (asked : s.recipeOf request = .ok recipe)
    (unbound : s.world.findHistogram group recipe.name = .ok none) :
    run s (.findOrBuildDuring as group request during) =
      match (runAll s during).2.iterated group recipe with
      | (.error failure, w) =>
          (.refusedDuring failure (runAll s during).1, { (runAll s during).2 with world := w })
      | (.ok metric, w) =>
          (.histogramDuring (w.object metric).describe
              ({ (runAll s during).2 with world := w }.namesOf metric) (runAll s during).1,
            { (runAll s during).2 with world := w }.nameIf as metric) := by
  rw [run]
  simp only [asked, unbound, iterated]
  cases Table.itemsOf recipe.percentiles with
  | error failure => rfl
  | ok items => rfl

/-- A step with steps of its own is refused at once, or its name is bound already, or the others are run
and a histogram is built and bound. -/
theorem run_findOrBuildDuring_cases (s : Session) (as : Option String) (group : Value)
    (request : HistogramRequest) (during : List Step) :
    (s.lists group request = false ∧ ∃ failure,
        run s (.findOrBuildDuring as group request during) = (.refused failure, s) ∨
          run s (.findOrBuildDuring as group request during) = (.refusedDuring failure [], s)) ∨
      ∃ recipe, s.recipeOf request = .ok recipe ∧
        ((s.lists group request = false ∧ ∃ metric,
            s.world.findHistogram group recipe.name = .ok (some metric) ∧
            run s (.findOrBuildDuring as group request during) =
              (.histogramDuring (s.world.object metric).describe (s.namesOf metric) [],
                s.nameIf as metric)) ∨
          s.lists group request ∧ s.world.findHistogram group recipe.name = .ok none) := by
  cases asked : s.recipeOf request with
  | error failure =>
    exact .inl ⟨by simp [lists, asked], failure, .inl (by simp [run, asked])⟩
  | ok recipe =>
    rcases looked : s.world.findHistogram group recipe.name with failure | _ | metric
    · exact .inl ⟨by simp [lists, asked, looked], failure, .inr (by simp [run, asked, looked])⟩
    · exact .inr ⟨recipe, rfl, .inr ⟨by simp [lists, asked, looked], looked⟩⟩
    · refine .inr ⟨recipe, rfl, .inl ⟨by simp [lists, asked, looked], metric, looked, ?_⟩⟩
      simp [run, asked, looked, describeMetric]

/-- A later session: no place is lost, metrics stay what they are, and so do the defaults. -/
structure Grows (s s' : Session) : Prop where
  world : s.world.Grows s'.world
  defaults : s'.defaults = s.defaults

theorem Quiet.grows {s s' : Session} (quiet : s.Quiet s') : s.Grows s' :=
  ⟨quiet.world.toGrows, quiet.defaults⟩

theorem Grows.refl (s : Session) : s.Grows s :=
  ⟨World.Grows.refl _, rfl⟩

theorem Grows.trans {s s' s'' : Session} (first : s.Grows s') (second : s'.Grows s'') : s.Grows s'' :=
  ⟨first.world.trans second.world, second.defaults.trans first.defaults⟩

theorem Grows.withWorld {s s' : Session} {w : World} (grows : s.Grows s') (later : s'.world.Grows w) :
    s.Grows { s' with world := w } :=
  ⟨grows.world.trans later, grows.defaults⟩

theorem Grows.nameIf {s s' : Session} (grows : s.Grows s') (as : Option String) (id : ObjectId) :
    s.Grows (s'.nameIf as id) :=
  ⟨by rw [world_nameIf]; exact grows.world, by rw [defaults_nameIf]; exact grows.defaults⟩

mutual

theorem grows_run (s : Session) (step : Step) : s.Grows (run s step).2 := by
  cases step with
  | register group on =>
    unfold run
    refine changing_of (Grows.refl s) fun result registered => ?_
    obtain ⟨id, -, registered⟩ := Failure.bind_eq_ok_iff.mp registered
    have grows := World.grows_register s.world group id
    rcases done : s.world.register group id with ⟨_ | _, w⟩ <;>
    · rw [done] at grows registered
      obtain rfl := Except.ok.inj registered
      exact (Grows.refl s).withWorld grows
  | findOrBuild as group request =>
    unfold run
    refine changing_of (Grows.refl s) fun result found => ?_
    obtain ⟨recipe, -, found⟩ := Failure.bind_eq_ok_iff.mp found
    have grows := World.grows_findOrBuild s.world group recipe s.defaults
    rcases done : s.world.findOrBuild group recipe s.defaults id with ⟨_ | metric, w⟩
    · rw [done] at grows found
      obtain rfl := Except.ok.inj found
      exact (Grows.refl s).withWorld grows
    · rw [done] at grows found
      obtain rfl := Except.ok.inj found
      exact ((Grows.refl s).withWorld grows).nameIf as metric
  | findOrBuildDuring as group request during =>
    have between := grows_runAll s during
    rcases run_findOrBuildDuring_cases s as group request during with
      ⟨-, failure, ran | ran⟩ | ⟨recipe, asked, ⟨-, metric, -, ran⟩ | ⟨-, unbound⟩⟩
    · rw [ran]
      exact Grows.refl s
    · rw [ran]
      exact Grows.refl s
    · rw [ran]
      exact (Grows.refl s).nameIf as metric
    · have grows := grows_iterated (runAll s during).2 group recipe
      rw [run_findOrBuildDuring_of_unbound as during asked unbound]
      rcases done : (runAll s during).2.iterated group recipe with ⟨_ | metric, w⟩
      · rw [done] at grows
        exact between.withWorld grows
      · rw [done] at grows
        exact (between.withWorld grows).nameIf as metric
  | _ => exact (quiet_run rfl).grows

theorem grows_runAll (s : Session) (steps : List Step) : s.Grows (runAll s steps).2 := by
  cases steps with
  | nil => exact Grows.refl s
  | cons step rest =>
    rw [runAll]
    exact (grows_run s step).trans (grows_runAll (run s step).2 rest)

end

theorem run_findOrBuildDuring_amid (s : Session) (as : Option String) (group : Value)
    {request : HistogramRequest} {recipe : Recipe} (during : List Step)
    (asked : s.recipeOf request = .ok recipe) (given : recipe.percentiles ≠ .null) :
    let amid := s.world.findOrBuildAmid group recipe s.defaults
      (fun w => (runAll { s with world := w } during).2.world) id
    (run s (.findOrBuildDuring as group request during)).2.world = amid.2 ∧
      match amid.1 with
      | .error failure => ∃ answers,
          (run s (.findOrBuildDuring as group request during)).1 = .refusedDuring failure answers
      | .ok metric => ∃ sameAs answers,
          (run s (.findOrBuildDuring as group request during)).1 =
            .histogramDuring (amid.2.object metric).describe sameAs answers := by
  intro amid
  have amid_eq : amid = s.world.findOrBuild group recipe s.defaults
      (fun w => (runAll { s with world := w } during).2.world) :=
    World.findOrBuildAmid_id _ _ _ _ _
  rw [amid_eq]
  unfold World.findOrBuild
  rcases looked : s.world.findHistogram group recipe.name with failure | _ | metric
  · have ran : run s (.findOrBuildDuring as group request during) = (.refusedDuring failure [], s) := by
      simp [run, asked, looked]
    rw [ran]
    exact ⟨rfl, [], rfl⟩
  · have same : (runAll s during).2.world.listBuildAndBind group recipe s.defaults =
        (runAll s during).2.iterated group recipe := by
      unfold World.listBuildAndBind World.listed iterated
      rw [(grows_runAll s during).defaults]
      cases itemized : Table.itemsOf recipe.percentiles with
      | error failure => simp [itemized, bind, Except.bind]
      | ok items => simp [itemized, bind, Except.bind, pure, Except.pure]
    rw [run_findOrBuildDuring_of_unbound as during asked looked]
    simp only [same]
    rcases (runAll s during).2.iterated group recipe with ⟨failure | metric, w⟩
    · exact ⟨rfl, _, rfl⟩
    · exact ⟨world_nameIf _ _ _, _, _, rfl⟩
  · have ran : run s (.findOrBuildDuring as group request during) =
        (.histogramDuring (s.world.object metric).describe (s.namesOf metric) [], s.nameIf as metric) := by
      simp [run, asked, looked, describeMetric]
    rw [ran]
    exact ⟨world_nameIf _ _ _, _, _, rfl⟩

/-- What a turn of finding or building comes to, after the percentiles are listed: a refusal, or the
histogram that is bound. -/
def Found (t : Turn) (as : Option String) (g n : String) : Prop :=
  ∃ w, (t.before.interlude t.step).world.Grows w ∧ (t.before.interlude t.step).world.Binds w ∧
    (t.finding? = none ∧ t.after = { t.before.interlude t.step with world := w } ∨
      ∃ metric h, w.registry.find? (.text g) (.text n) = some metric ∧
        w.object metric = .histogram h ∧
        t.finding? = some ⟨as, .text g, .text n, h.describe⟩ ∧
        t.after = { t.before.interlude t.step with world := w }.nameIf as metric)

section Found

variable {t : Turn} {as : Option String} {g n : String} {m : Session} {w : World}

private theorem found_of_refused (between : t.before.interlude t.step = m) (grows : m.world.Grows w)
    (binds : m.world.Binds w) (refused : t.finding? = none) (after : t.after = { m with world := w }) :
    Found t as g n := by
  subst between
  exact ⟨w, grows, binds, .inl ⟨refused, after⟩⟩

private theorem found_of_bound {metric : ObjectId} {h : Histogram} (between : t.before.interlude t.step = m)
    (grows : m.world.Grows w) (binds : m.world.Binds w)
    (bound : w.registry.find? (.text g) (.text n) = some metric) (stands : w.object metric = .histogram h)
    (given : t.finding? = some ⟨as, .text g, .text n, h.describe⟩)
    (after : t.after = { m with world := w }.nameIf as metric) : Found t as g n := by
  subst between
  exact ⟨w, grows, binds, .inr ⟨metric, h, bound, stands, given, after⟩⟩

private theorem found_findOrBuild (s : Session) (as : Option String) (g : String) {n : String}
    {request : HistogramRequest} (named : request.name = .text n) :
    Found ⟨s, .findOrBuild as (.text g) request⟩ as g n := by
  cases asked : s.recipeOf request with
  | error failure =>
    have ran := run_findOrBuild_of_error asked as (.text g)
    refine found_of_refused (m := s) rfl (World.Grows.refl _) (.inl rfl) ?_ ?_
    · simp [Turn.finding?, Turn.answer, ran]
    · simp [Turn.after, ran]
  | ok recipe =>
    have grows := World.grows_findOrBuild s.world (.text g) recipe s.defaults
    obtain ⟨binds, bound⟩ := World.findOrBuild_spec (g := g) s.world s.defaults
      ((name_of_recipeOf asked).trans named)
    have ran := run_findOrBuild_of_ok asked as (.text g)
    rcases done : s.world.findOrBuild (.text g) recipe s.defaults id with ⟨failure | metric, w⟩
    · rw [done] at grows binds ran
      refine found_of_refused (m := s) rfl grows binds ?_ ?_
      · simp [Turn.finding?, Turn.answer, ran]
      · simp [Turn.after, ran]
    · rw [done] at grows binds bound ran
      obtain ⟨found, h, stands⟩ := bound metric rfl
      refine found_of_bound (m := s) rfl grows binds found stands ?_ ?_
      · simp [Turn.finding?, Turn.answer, ran, named, stands, Object.describe]
      · simp [Turn.after, ran]

theorem interlude_findOrBuildDuring (s : Session) (as : Option String) (group : Value)
    (request : HistogramRequest) (during : List Step) :
    s.interlude (.findOrBuildDuring as group request during) =
      if s.lists group request then (runAll s during).2 else s := rfl

private theorem found_findOrBuildDuring (s : Session) (as : Option String) (g : String) {n : String}
    {request : HistogramRequest} (during : List Step) (named : request.name = .text n) :
    Found ⟨s, .findOrBuildDuring as (.text g) request during⟩ as g n := by
  have between := interlude_findOrBuildDuring s as (.text g) request during
  rcases run_findOrBuildDuring_cases s as (.text g) request during with
    ⟨stays, failure, refused⟩ | ⟨recipe, asked, ⟨stays, metric, looked, ran⟩ | ⟨listed, unbound⟩⟩
  · rw [stays] at between
    refine found_of_refused between (World.Grows.refl _) (.inl rfl) ?_ ?_
    · rcases refused with ran | ran <;> simp [Turn.finding?, Turn.answer, ran]
    · rcases refused with ran | ran <;> simp [Turn.after, ran]
  · rw [stays] at between
    have named' : recipe.name = .text n := (name_of_recipeOf asked).trans named
    obtain ⟨bound, h, stands⟩ := World.bound_of_findHistogram looked
    rw [named'] at bound
    refine found_of_bound between (World.Grows.refl _) (.inl rfl) bound stands ?_ ?_
    · simp [Turn.finding?, Turn.answer, ran, named, stands, Object.describe]
    · simp [Turn.after, ran]
  · rw [listed] at between
    have named' : recipe.name = .text n := (name_of_recipeOf asked).trans named
    have grows := grows_iterated (runAll s during).2 (.text g) recipe
    obtain ⟨binds, bound⟩ := iterated_spec (g := g) (runAll s during).2 named'
    have ran := run_findOrBuildDuring_of_unbound as during asked unbound
    rcases done : (runAll s during).2.iterated (.text g) recipe with ⟨failure | metric, w⟩
    · rw [done] at grows binds ran
      refine found_of_refused between grows binds ?_ ?_
      · simp [Turn.finding?, Turn.answer, ran]
      · simp [Turn.after, ran]
    · rw [done] at grows binds bound ran
      obtain ⟨found, h, stands⟩ := bound metric rfl
      refine found_of_bound between grows binds found stands ?_ ?_
      · simp [Turn.finding?, Turn.answer, ran, named, stands, Object.describe]
      · simp [Turn.after, ran]

end Found

private theorem Found.advances {t : Turn} {as : Option String} {g n : String} (found : Found t as g n) :
    (t.before.interlude t.step).Advances t.after := by
  obtain ⟨w, grows, binds, ⟨-, after⟩ | ⟨metric, h, -, -, -, after⟩⟩ := found
  · rw [after]
    exact ⟨grows, binds, rfl⟩
  · rw [after]
    exact ⟨by rwa [world_nameIf], by rwa [world_nameIf], by rw [defaults_nameIf]⟩

private theorem advances_register {g : String} {on : String}
    (named : ∀ id, s.place on = .ok id → ∃ n, (s.world.object id).ownName = .ok (some (.text n))) :
    s.Advances (run s (.register (.text g) on)).2 := by
  unfold run
  refine changing_of (Advances.refl s) fun result registered => ?_
  obtain ⟨id, placed, registered⟩ := Failure.bind_eq_ok_iff.mp registered
  obtain ⟨n, named⟩ := named id placed
  have grows := World.grows_register s.world (.text g) id
  have binds := World.binds_register (g := g) named
  rcases done : s.world.register (.text g) id with ⟨_ | _, w⟩ <;>
  · rw [done] at grows binds registered
    obtain rfl := Except.ok.inj registered
    exact ⟨grows, binds, rfl⟩

theorem texts_of_register {group : Value} {on : String} (plain : Turn.isPlain ⟨s, .register group on⟩) :
    (∃ g, group = .text g) ∧
      ∀ id, s.place on = .ok id → ∃ n, (s.world.object id).ownName = .ok (some (.text n)) := by
  obtain ⟨text, named⟩ := Bool.and_eq_true_iff.mp plain
  refine ⟨Value.exists_of_isText text, fun id placed => Object.exists_of_hasTextName ?_⟩
  simpa only [placed] using named

private theorem advances_run (step : Step) (plain : Turn.isPlain ⟨s, step⟩) :
    (s.interlude step).Advances (run s step).2 := by
  cases step with
  | register group on =>
    obtain ⟨⟨g, rfl⟩, named⟩ := texts_of_register plain
    exact advances_register named
  | findOrBuild as group request =>
    obtain ⟨g, n, rfl, named⟩ := Value.exists_of_isText_and plain
    exact (found_findOrBuild s as g named).advances
  | findOrBuildDuring as group request during =>
    obtain ⟨g, n, rfl, named⟩ := Value.exists_of_isText_and plain
    exact (found_findOrBuildDuring s as g during named).advances
  | _ => exact (quiet_run rfl).advances

/-- Sessions that come one after the other, from the first to the last, each related to the one before. -/
def Follows (R : Session → Session → Prop) : Session → List Session → Session → Prop
  | s, [], s' => s = s'
  | s, next :: later, s' => R s next ∧ Follows R next later s'

theorem Follows.append {R : Session → Session → Prop} {s s' s'' : Session} {first second : List Session}
    (follows : Follows R s first s') (follows' : Follows R s' second s'') :
    Follows R s (first ++ second) s'' := by
  induction first generalizing s with
  | nil =>
    obtain rfl : s = s' := follows
    exact follows'
  | cons next later ih => exact ⟨follows.1, ih follows.2⟩

mutual

theorem follows_nested {R : Session → Session → Prop}
    (every : ∀ t : Turn, t.isPlain → R (t.before.interlude t.step) t.after) (s : Session) (step : Step)
    (plain : ∀ t ∈ s.nested step, t.isPlain) :
    Follows R s ((s.nested step).map Turn.after) (s.interlude step) := by
  cases step with
  | findOrBuildDuring as group request during =>
    simp only [nested, interlude] at plain ⊢
    cases listed : s.lists group request with
    | false => exact rfl
    | true =>
      simp only [listed, if_true] at plain ⊢
      exact follows_turns every s during plain
  | _ => exact rfl

theorem follows_turns {R : Session → Session → Prop}
    (every : ∀ t : Turn, t.isPlain → R (t.before.interlude t.step) t.after) (s : Session) (steps : List Step)
    (plain : ∀ t ∈ s.turns steps, t.isPlain) :
    Follows R s ((s.turns steps).map Turn.after) (runAll s steps).2 := by
  cases steps with
  | nil => exact rfl
  | cons step rest =>
    rw [turns] at plain ⊢
    obtain ⟨plain_nested, plain_rest⟩ := List.forall_mem_append.mp plain
    obtain ⟨plain_step, plain_rest⟩ := List.forall_mem_cons.mp plain_rest
    rw [List.map_append, List.map_cons]
    refine (follows_nested every s step plain_nested).append ⟨every ⟨s, step⟩ plain_step, ?_⟩
    rw [runAll]
    exact follows_turns every (run s step).2 rest plain_rest

end

/-- Sessions that come one after the other, from the first to the last. -/
def Leads : Session → List Session → Session → Prop
  | s, [], s' => s = s'
  | s, next :: later, s' => s.Advances next ∧ Leads next later s'

theorem Follows.leads {s s' : Session} {later : List Session} (follows : Follows Advances s later s') :
    Leads s later s' := by
  induction later generalizing s with
  | nil => exact follows
  | cons next later ih => exact ⟨follows.1, ih follows.2⟩

theorem leads_turns (s : Session) (steps : List Step) (plain : ∀ t ∈ s.turns steps, t.isPlain) :
    Leads s ((s.turns steps).map Turn.after) (runAll s steps).2 :=
  (follows_turns (fun t plain => advances_run t.step plain) s steps plain).leads

private theorem Leads.isChain {s s' : Session} {later : List Session} (leads : Leads s later s') :
    (s :: later).IsChain Advances ∧ (s :: later).getLast? = some s' := by
  induction later generalizing s with
  | nil =>
    obtain rfl : s = s' := leads
    exact ⟨List.isChain_singleton s, rfl⟩
  | cons next later ih =>
    obtain ⟨chain, last⟩ := ih leads.2
    exact ⟨List.isChain_cons_cons.mpr ⟨leads.1, chain⟩, by rw [List.getLast?_cons_cons, last]⟩

theorem Leads.tidy {s s' : Session} {later : List Session} (leads : Leads s later s')
    (tidy : s.world.Tidy) : ∀ m ∈ later, m.world.Tidy ∧ s.world.Extends m.world := by
  induction later generalizing s with
  | nil => simp
  | cons next later ih =>
    obtain ⟨⟨grows, binds, -⟩, leads⟩ := leads
    have extended : s.world.Extends next.world := ⟨grows, binds.longer⟩
    refine List.forall_mem_cons.mpr ⟨⟨tidy.step grows binds, extended⟩, fun m member => ?_⟩
    obtain ⟨tidy', extended'⟩ := ih leads (tidy.step grows binds) m member
    exact ⟨tidy', extended.trans extended'⟩

private theorem Leads.pairwise {s s' : Session} {later : List Session} (leads : Leads s later s')
    (tidy : s.world.Tidy) :
    (s :: later).Pairwise fun m m' => m.world.Tidy ∧ m.world.Extends m'.world := by
  induction later generalizing s with
  | nil => simp
  | cons next later ih =>
    have next_tidy := (leads.tidy tidy next List.mem_cons_self).1
    refine List.pairwise_cons.mpr ⟨fun m member => ⟨tidy, (leads.tidy tidy m member).2⟩, ih leads.2 next_tidy⟩

/-- A histogram in an answer is the one bound under the group and the name that it was asked for, and its
label names it. -/
private theorem bound_of_finding {t : Turn} (plain : t.isPlain) {f : Finding} (found : t.finding? = some f) :
    ∃ metric h, t.after.world.registry.find? f.group f.name = some metric ∧
      t.after.world.object metric = .histogram h ∧ h.describe = f.description ∧
      ∀ label, f.as = some label → t.after.names.lookup label = some metric := by
  have bound : ∀ as g n, Found t as g n → ∃ metric h,
      t.after.world.registry.find? f.group f.name = some metric ∧
        t.after.world.object metric = .histogram h ∧ h.describe = f.description ∧
        ∀ label, f.as = some label → t.after.names.lookup label = some metric := by
    rintro as g n ⟨w, -, -, ⟨refused, -⟩ | ⟨metric, h, bound, stands, given, after⟩⟩
    · rw [found] at refused
      contradiction
    · obtain rfl := Option.some.inj (found.symm.trans given)
      rw [after, world_nameIf]
      refine ⟨metric, h, bound, stands, rfl, ?_⟩
      rintro label rfl
      exact lookup_putEntry label metric _
  obtain ⟨s, step⟩ := t
  cases step with
  | findOrBuild as group request =>
    obtain ⟨g, n, rfl, named⟩ := Value.exists_of_isText_and plain
    exact bound as g n (found_findOrBuild s as g named)
  | findOrBuildDuring as group request during =>
    obtain ⟨g, n, rfl, named⟩ := Value.exists_of_isText_and plain
    exact bound as g n (found_findOrBuildDuring s as g during named)
  | _ => simp [Turn.finding?] at found

/-- The registry in the course of a session that starts without any object.  At every moment no group is
empty and every metric is bound under its own name; from one moment to the next the registry stays, or
a name that was not bound comes to the end of a group; hence at every later moment a group lists what it
listed before, first and in the same order, and what is bound is still bound to the same object. -/
theorem registry_history (words : ObjectId → Nat → UInt64) (defaults : Defaults) (steps : List Step)
    (plain : ∀ t ∈ (start words defaults).turns steps, t.isPlain) :
    let history := (start words defaults).turns steps
    let moments := start words defaults :: history.map Turn.after
    moments.getLast? = some (runAll (start words defaults) steps).2 ∧
      (∀ m ∈ moments, m.world.Tidy) ∧
      (moments.IsChain fun m m' => m.world.Binds m'.world) ∧
      (moments.Pairwise fun m m' => ∀ g : String,
        m.world.registry.metrics (.text g) <+: m'.world.registry.metrics (.text g) ∧
          ∀ name metric, m.world.registry.find? (.text g) name = some metric →
            m'.world.registry.find? (.text g) name = some metric ∧
              m'.world.object metric = m.world.object metric) ∧
      ∀ t ∈ history, ∀ f, t.finding? = some f →
        ∃ metric h, t.after.world.registry.find? f.group f.name = some metric ∧
          t.after.world.object metric = .histogram h ∧ h.describe = f.description ∧
          ∀ label, f.as = some label → t.after.names.lookup label = some metric := by
  intro history moments
  have leads := leads_turns (start words defaults) steps plain
  have empty : (start words defaults).world.Tidy := by
    intro entry member
    contradiction
  refine ⟨leads.isChain.2, ?_, leads.isChain.1.imp fun m m' advances => advances.binds, ?_, ?_⟩
  · refine List.forall_mem_cons.mpr ⟨empty, fun m member => (leads.tidy empty m member).1⟩
  · refine (leads.pairwise empty).imp ?_
    rintro m m' ⟨tidy, extended⟩ g
    exact ⟨extended.longer g, fun name metric bound => extended.bound tidy bound⟩
  · exact fun t member f found => bound_of_finding (plain t member) found

/-- A gauge is registered while a histogram is asked for, and so is another histogram of the same name. -/
def nestedSteps : List Step :=
  [.gauge "x" (.text "x"), .register (.text "g") "x",
    .findOrBuildDuring (some "h") (.text "g") ⟨.text "h", none, .list [], .bool false⟩
      [.findOrBuild (some "i") (.text "g") ⟨.text "h", none, .null, .bool false⟩,
        .register (.text "k") "x"],
    .update "h" (.int 1), .visitAll true]

theorem registry_history_nested :
    let history := (start (fun _ _ => 0) {}).turns nestedSteps
    let moments := start (fun _ _ => 0) {} :: history.map Turn.after
    (∀ t ∈ history, t.isPlain) ∧ (∀ m ∈ moments, m.world.Tidy) ∧
      (moments.IsChain fun m m' => m.world.Binds m'.world) ∧
      ∃ inner outer metric h, history[2]? = some inner ∧ history[4]? = some outer ∧
        inner.after.world.registry.find? (.text "g") (.text "h") = some metric ∧
        inner.after.names.lookup "i" = some metric ∧
        outer.after.world.registry.find? (.text "g") (.text "h") = some metric ∧
        outer.after.names.lookup "h" = some metric ∧
        outer.after.world.object metric = .histogram h := by
  intro history moments
  have plain : ∀ t ∈ history, t.isPlain := by decide +kernel
  obtain ⟨-, tidy, chain, kept, finds⟩ := registry_history (fun _ _ => 0) {} nestedSteps plain
  obtain ⟨inner, second, f, found, as, group, name⟩ : ∃ t, history[2]? = some t ∧
      ∃ f, t.finding? = some f ∧ f.as = some "i" ∧ f.group = .text "g" ∧ f.name = .text "h" :=
    ⟨_, rfl, _, rfl, rfl, rfl, rfl⟩
  obtain ⟨outer, fourth, f', found', as', group', name'⟩ : ∃ t, history[4]? = some t ∧
      ∃ f, t.finding? = some f ∧ f.as = some "h" ∧ f.group = .text "g" ∧ f.name = .text "h" :=
    ⟨_, rfl, _, rfl, rfl, rfl, rfl⟩
  obtain ⟨metric, -, bound, -, -, labelled⟩ := finds inner (List.mem_of_getElem? second) f found
  obtain ⟨metric', h, bound', stands, -, labelled'⟩ := finds outer (List.mem_of_getElem? fourth) f' found'
  rw [group, name] at bound
  rw [group', name'] at bound'
  have later : inner.after.world.registry.find? (.text "g") (.text "h") = some metric →
      outer.after.world.registry.find? (.text "g") (.text "h") = some metric := by
    have pair := List.pairwise_iff_getElem.mp kept 3 5 (by decide +kernel) (by decide +kernel) (by decide)
    have third : moments[3]? = some inner.after := by simp [moments, second]
    have fifth : moments[5]? = some outer.after := by simp [moments, fourth]
    obtain ⟨_, here⟩ := List.getElem?_eq_some_iff.mp third
    obtain ⟨_, there⟩ := List.getElem?_eq_some_iff.mp fifth
    rw [here, there] at pair
    exact fun first => ((pair "g").2 _ _ first).1
  obtain rfl : metric = metric' := Option.some.inj ((later bound).symm.trans bound')
  exact ⟨plain, tidy, chain, inner, outer, metric, h, second, fourth, bound, labelled "i" as, bound',
    labelled' "h" as', stands⟩

end Session

end SampledMetrics
