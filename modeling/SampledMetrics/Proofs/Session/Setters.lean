import SampledMetrics.Proofs.Registry.Unbound
import SampledMetrics.Proofs.Session.Names
/-!
Three ways to a histogram: a draft whose setters are called one by one, a request that says everything at once,
and the registry.  Main statement: after any calls of setters, building the draft is building the request with
the last value for each field; setters of different fields can be swapped; and under a name that is not bound
the registry agrees with both.
-/

set_option autoImplicit false
set_option relaxedAutoImplicit false

namespace SampledMetrics

/-- The fields of a draft. -/
inductive Field
  | name
  | reservoir
  | percentiles
  | skipDefaults
  deriving DecidableEq

/-- A call of a setter: a text or nothing for the name, a list or nothing for the percentiles.  A reservoir is
given by its name. -/
inductive Setter
  | name (text : Option String)
  | reservoir (label : Option String)
  | percentiles (items : Option (List Value))
  | skipDefaults (skip : Value)

namespace Setter

def field : Setter → Field
  | .name _ => .name
  | .reservoir _ => .reservoir
  | .percentiles _ => .percentiles
  | .skipDefaults _ => .skipDefaults

def name? : Setter → Option (Option String)
  | .name text => some text
  | _ => none

def reservoir? : Setter → Option (Option String)
  | .reservoir label => some label
  | _ => none

def percentiles? : Setter → Option (Option (List Value))
  | .percentiles items => some items
  | _ => none

def skipDefaults? : Setter → Option Value
  | .skipDefaults skip => some skip
  | _ => none

def nameValue (text : Option String) : Value :=
  (text.map Value.text).getD .null

def percentilesValue (items : Option (List Value)) : Value :=
  (items.map Value.list).getD .null

def step (on : String) : Setter → Step
  | .name text => .setName on (nameValue text)
  | .reservoir label => .setReservoir on label
  | .percentiles items => .setPercentiles on (percentilesValue items)
  | .skipDefaults skip => .setSkipDefaults on skip

def last {α : Type} (pick : Setter → Option α) (setters : List Setter) : Option α :=
  setters.reverse.findSome? pick

/-- The request with the last value for each field, and nothing where a field is never set. -/
def request (setters : List Setter) : HistogramRequest where
  name := nameValue ((last name? setters).getD none)
  reservoir := (last reservoir? setters).getD none
  percentiles := percentilesValue ((last percentiles? setters).getD none)
  skipDefaults := (last skipDefaults? setters).getD (.bool false)

/-- The object that a label stands for, if there is one. -/
def objectOf? (s : Session) (label : Option String) : Option ObjectId :=
  (s.placeIf label).toOption.join

def apply (s : Session) (b : HistogramDraft) : Setter → HistogramDraft
  | .name text => b.setName (nameValue text)
  | .reservoir label => b.setReservoir (objectOf? s label)
  | .percentiles items => { b with percentiles := items }
  | .skipDefaults skip => b.setSkipDefaults skip

/-- The reservoir that a call gives has a name in the session. -/
def IsResolved (s : Session) (setter : Setter) : Prop :=
  ∀ label, setter = .reservoir (some label) → ∃ id, s.place label = .ok id

section Last

variable {σ α β : Type}

private theorem last_cons (pick : Setter → Option α) (first : Setter) (rest : List Setter) :
    last pick (first :: rest) = (last pick rest).or (pick first) := by
  unfold last
  rw [List.reverse_cons, List.findSome?_append, List.findSome?_singleton]

private theorem foldl_eq_last {next : σ → Setter → σ} (part : σ → α) {pick : Setter → Option α}
    (overwrites : ∀ state setter, part (next state setter) = (pick setter).getD (part state))
    (setters : List Setter) (state : σ) :
    part (setters.foldl next state) = (last pick setters).getD (part state) := by
  induction setters generalizing state with
  | nil => rfl
  | cons first rest ih =>
    rw [List.foldl_cons, ih, overwrites, last_cons]
    cases last pick rest <;> rfl

end Last

section Draft

variable {s : Session} {setters : List Setter}

private theorem last_map {α β : Type} (pick : Setter → Option α) (f : α → β) (setters : List Setter) :
    last (fun setter => (pick setter).map f) setters = (last pick setters).map f := by
  unfold last
  rw [List.map_findSome?]
  rfl

private theorem exists_of_last {α : Type} {pick : Setter → Option α} {value : α} (set : last pick setters = some value) :
    ∃ setter ∈ setters, pick setter = some value := by
  obtain ⟨setter, among, picked⟩ := List.exists_of_findSome?_eq_some set
  exact ⟨setter, List.mem_reverse.mp among, picked⟩

private theorem placeIf_of_bound {label : Option String}
    (bound : ∀ text, label = some text → ∃ id, s.place text = .ok id) :
    s.placeIf label = .ok (objectOf? s label) := by
  cases label with
  | none => rfl
  | some text =>
    obtain ⟨id, placed⟩ := bound text rfl
    have found : s.placeIf (some text) = .ok (some id) := by
      rw [Session.placeIf, placed]
      rfl
    rw [objectOf?, found]
    rfl

private theorem placeIf_last (resolved : ∀ setter ∈ setters, setter.IsResolved s) :
    s.placeIf ((last reservoir? setters).getD none) =
      .ok (objectOf? s ((last reservoir? setters).getD none)) := by
  refine placeIf_of_bound fun text given => ?_
  have set : last reservoir? setters = some (some text) := by
    cases found : last reservoir? setters with
    | none =>
      rw [found] at given
      contradiction
    | some label =>
      rw [found] at given
      exact congrArg some given
  obtain ⟨setter, among, picked⟩ := exists_of_last set
  have called : setter = .reservoir (some text) := by
    cases setter with
    | reservoir label => exact congrArg Setter.reservoir (Option.some.inj picked)
    | _ => contradiction
  exact resolved setter among text called

private theorem foldl_apply (s : Session) (setters : List Setter) :
    setters.foldl (apply s) {} =
      ⟨nameValue ((last name? setters).getD none), objectOf? s ((last reservoir? setters).getD none),
        (last percentiles? setters).getD none, (last skipDefaults? setters).getD (.bool false)⟩ := by
  have named (b : HistogramDraft) (setter : Setter) :
      (apply s b setter).name = ((name? setter).map nameValue).getD b.name := by cases setter <;> rfl
  have placed (b : HistogramDraft) (setter : Setter) :
      (apply s b setter).reservoir = ((reservoir? setter).map (objectOf? s)).getD b.reservoir := by
    cases setter <;> rfl
  have listed (b : HistogramDraft) (setter : Setter) :
      (apply s b setter).percentiles = (percentiles? setter).getD b.percentiles := by cases setter <;> rfl
  have skipped (b : HistogramDraft) (setter : Setter) :
      (apply s b setter).skipDefaults = (skipDefaults? setter).getD b.skipDefaults := by cases setter <;> rfl
  have name_last := foldl_eq_last HistogramDraft.name named setters {}
  have reservoir_last := foldl_eq_last HistogramDraft.reservoir placed setters {}
  have percentiles_last := foldl_eq_last HistogramDraft.percentiles listed setters {}
  have skip_last := foldl_eq_last HistogramDraft.skipDefaults skipped setters {}
  rw [last_map] at name_last reservoir_last
  calc setters.foldl (apply s) {}
      = ⟨(setters.foldl (apply s) {}).name, (setters.foldl (apply s) {}).reservoir,
          (setters.foldl (apply s) {}).percentiles, (setters.foldl (apply s) {}).skipDefaults⟩ := rfl
    _ = _ := by
        rw [name_last, reservoir_last, percentiles_last, skip_last, ← Option.getD_map nameValue,
          ← Option.getD_map (objectOf? s)]
        rfl

private theorem recipeOf_request (resolved : ∀ setter ∈ setters, setter.IsResolved s) :
    s.recipeOf (request setters) = .ok (setters.foldl (apply s) {}).recipe := by
  rw [foldl_apply, Session.recipeOf, request, placeIf_last resolved]
  rfl

end Draft

private theorem apply_comm {first second : Setter} (different : first.field ≠ second.field) (s : Session)
    (b : HistogramDraft) : apply s (apply s b first) second = apply s (apply s b second) first := by
  cases first <;> cases second <;> first | rfl | exact absurd rfl different

end Setter

namespace Session

open Setter (apply objectOf? request)

variable {s : Session} {on : String} {id : ObjectId} {b b' : HistogramDraft}

private theorem choose_of_draft {α : Type} {part : String} {choice : Except Failure α} {value : α}
    {change : HistogramDraft → α → Except Failure HistogramDraft} (placed : s.place on = .ok id)
    (stands : s.world.object id = .draft b) (given : choice = .ok value) (changed : change b value = .ok b') :
    s.choose part on choice change = (.accepted, { s with world := s.world.put id (.draft b') }) := by
  simp [choose, changing, placed, stands, given, changed, bind, Except.bind, pure, Except.pure]

private theorem run_setter {setter : Setter} (placed : s.place on = .ok id) (stands : s.world.object id = .draft b)
    (resolved : setter.IsResolved s) :
    run s (setter.step on) = (.accepted, { s with world := s.world.put id (.draft (apply s b setter)) }) := by
  cases setter with
  | name text =>
    rw [Setter.step, run]
    exact choose_of_draft placed stands rfl rfl
  | reservoir label =>
    have bound : s.placeIf label = .ok (objectOf? s label) :=
      Setter.placeIf_of_bound fun text same => resolved text (congrArg Setter.reservoir same)
    rw [Setter.step, run]
    exact choose_of_draft placed stands bound rfl
  | percentiles items =>
    have listed : b.setPercentiles (Setter.percentilesValue items) = .ok { b with percentiles := items } := by
      cases items <;> rfl
    rw [Setter.step, run]
    exact choose_of_draft placed stands rfl listed
  | skipDefaults skip =>
    rw [Setter.step, run]
    exact choose_of_draft placed stands rfl rfl

private theorem runAll_setters {setters : List Setter} (placed : s.place on = .ok id)
    (stands : s.world.object id = .draft b) (resolved : ∀ setter ∈ setters, setter.IsResolved s) :
    runAll s (setters.map (Setter.step on)) =
      (List.replicate setters.length .accepted,
        { s with world := s.world.put id (.draft (setters.foldl (apply s) b)) }) := by
  induction setters generalizing s b with
  | nil =>
    have same := s.world.put_object id
    rw [stands] at same
    simp only [List.map_nil, runAll, List.foldl_nil, List.length_nil, List.replicate_zero, same]
  | cons first rest ih =>
    obtain ⟨first_resolved, rest_resolved⟩ := List.forall_mem_cons.mp resolved
    have present := World.present_of_object stands (by simp)
    rw [List.map_cons, runAll, run_setter placed stands first_resolved]
    dsimp only
    have later := ih (s := { s with world := s.world.put id (.draft (apply s b first)) }) placed
      (World.object_put_self present _) rest_resolved
    rw [later]
    dsimp only
    rw [World.put_put]
    rfl

private theorem listed_request {recipe : Recipe} {setters : List Setter}
    (asked : s.recipeOf (request setters) = .ok recipe) :
    World.listed recipe = .ok recipe ∧ recipe.name.isKey := by
  obtain ⟨reservoir, -, asked⟩ := Failure.bind_eq_ok_iff.mp asked
  obtain rfl := Except.ok.inj asked
  constructor
  · cases given : (Setter.last Setter.percentiles? setters).getD none with
    | none => exact World.listed_of_null (by rw [request, given]; rfl)
    | some items => exact World.listed_of_list (by rw [request, given]; rfl)
  · cases given : (Setter.last Setter.name? setters).getD none with
    | none => simp [request, given, Setter.nameValue, Value.isKey]
    | some text => simp [request, given, Setter.nameValue, Value.isKey]

private theorem run_build_eq {request : HistogramRequest} (placed : s.place on = .ok id)
    (stands : s.world.object id = .draft b) (asked : s.recipeOf request = .ok b.recipe) (as : String) :
    run s (.build on as) = run s (.buildRecipe as request) := by
  have drafted : s.draftWith "build" on = .ok b := by
    simp [draftWith, object, placed, stands, bind, Except.bind, pure, Except.pure]
  rw [run, run, drafted, asked]
  rfl

/-- The ways to a histogram agree.  Setters that are called on a blank draft are all accepted, and then building
the draft is in every respect building the request that has the last value for each field, and nothing where a
field was not set; two calls for different fields that follow each other can be swapped.  And for the recipe of
this request, with the same defaults and in whatever worlds, finding or building under a text for a group, in
which the name is not bound, ends as building does: in the same failure, or in a histogram with the same name
and the same table, on the same object that was given or each on a new reservoir of the defaults. -/
theorem setters_agree {setters : List Setter} (placed : s.place on = .ok id)
    (blank : s.world.object id = .draft {}) (resolved : ∀ setter ∈ setters, setter.IsResolved s) :
    ∃ chosen recipe,
      runAll s (setters.map (Setter.step on)) = (List.replicate setters.length .accepted, chosen) ∧
      (∀ as, run chosen (.build on as) = run chosen (.buildRecipe as (request setters))) ∧
      (∀ before first second after, setters = before ++ first :: second :: after →
        first.field ≠ second.field →
        runAll s ((before ++ second :: first :: after).map (Setter.step on)) =
          runAll s (setters.map (Setter.step on))) ∧
      chosen.recipeOf (request setters) = .ok recipe ∧
      ∀ (d : Defaults) (w v : World) (group : String), v.registry.find? (.text group) recipe.name = none →
        World.AgreesWithBuild recipe d w v group := by
  have present := World.present_of_object blank (by simp)
  have called := runAll_setters placed blank resolved
  have asked := Setter.recipeOf_request resolved
  obtain ⟨asList, usable⟩ := listed_request asked
  refine ⟨_, _, called, fun as => ?_, fun before first second after split different => ?_, asked,
    fun d w v group unbound => World.agreesWithBuild_of_unbound w asList usable unbound⟩
  · exact run_build_eq (s := { s with world := s.world.put id (.draft (setters.foldl (apply s) {})) })
      placed (World.object_put_self present _) asked as
  · subst split
    have swap : (before ++ second :: first :: after).Perm (before ++ first :: second :: after) :=
      (List.Perm.swap first second after).append_left before
    have swapped : ∀ setter ∈ before ++ second :: first :: after, setter.IsResolved s :=
      fun setter among => resolved setter (swap.mem_iff.mp among)
    rw [called, runAll_setters placed blank swapped]
    simp only [List.foldl_append, List.foldl_cons, Setter.apply_comm different, List.length_append,
      List.length_cons]

def draftSession : Session :=
  ((start (fun _ _ => 0) {}).addNamed "window" (.reservoir (.sliding (.empty 3)))).addNamed "draft" (.draft {})

/-- Each field is set twice, and the reservoir is taken back. -/
def mixedSetters : List Setter :=
  [.name (some "a"), .percentiles none, .reservoir (some "window"), .skipDefaults (.bool true), .name (some "b"),
    .reservoir none, .percentiles (some [.int 101, .int 10]), .skipDefaults (.int 0)]

def lastValues : Recipe :=
  ⟨.text "b", none, .list [.int 101, .int 10], .int 0⟩

theorem setters_agree_mixed :
    draftSession.place "draft" = .ok 1 ∧ draftSession.world.object 1 = .draft {} ∧
      (∀ setter ∈ mixedSetters, setter.IsResolved draftSession) ∧
      ∃ chosen,
        (runAll draftSession (mixedSetters.map (Setter.step "draft"))).2 = chosen ∧
        (∀ as, run chosen (.build "draft" as) =
          run chosen (.buildRecipe as ⟨.text "b", none, .list [.int 101, .int 10], .int 0⟩)) ∧
        ∃ h metric h',
          (draftSession.world.build lastValues {}).1 = .ok h ∧
          h.name = "b" ∧ h.metricNames = Table.defaults.map Prod.fst ++ ["P10"] ∧
          (draftSession.world.findOrBuild (.text "group") lastValues {} fun w => w).1 = .ok metric ∧
          (draftSession.world.findOrBuild (.text "group") lastValues {} fun w => w).2.object metric =
            .histogram h' ∧
          h'.name = h.name ∧ h'.extractors = h.extractors := by
  have placed : draftSession.place "draft" = .ok 1 := rfl
  have blank : draftSession.world.object 1 = .draft {} := rfl
  have resolved : ∀ setter ∈ mixedSetters, setter.IsResolved draftSession := by
    rintro setter among label rfl
    obtain rfl : label = "window" := by simpa [mixedSetters] using among
    exact ⟨0, rfl⟩
  obtain ⟨chosen, recipe, called, builds, -, asked, agrees⟩ := setters_agree placed blank resolved
  obtain rfl : lastValues = recipe := Except.ok.inj asked
  have shown : (draftSession.world.build lastValues {}).1.toOption.map
      (fun h => (h.name, h.metricNames)) = some ("b", Table.defaults.map Prod.fst ++ ["P10"]) := by
    decide +kernel
  refine ⟨placed, blank, resolved, chosen, by rw [called], builds, ?_⟩
  rcases agrees {} draftSession.world draftSession.world "group" rfl with
    ⟨failure, failed, -⟩ | ⟨h, metric, h', built, bound, stands, alike⟩
  · rw [failed] at shown
    contradiction
  · rw [built] at shown
    simp only [Except.toOption, Option.map_some, Option.some.injEq, Prod.mk.injEq] at shown
    obtain ⟨named, names⟩ := shown
    exact ⟨h, metric, h', built, named, names, bound, stands, alike.name_eq, alike.extractors_eq⟩

end Session

end SampledMetrics
