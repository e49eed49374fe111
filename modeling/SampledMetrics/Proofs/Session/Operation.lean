import SampledMetrics.Proofs.Session.Closed
import SampledMetrics.Proofs.World.Change
/-!
What a step does to the objects of a session.  All that is said of every step comes from here: a step makes
one object, changes a draft, hands on observations, or builds a histogram.
-/

set_option autoImplicit false
set_option relaxedAutoImplicit false

namespace SampledMetrics

open World (Built)

/-- What a step hands observations to, by its name. -/
def Step.fed? : Step → Option String
  | .update on _ | .updateMany on _ | .updateRange on _ _ _ => some on
  | _ => none

namespace Session

/-- The reservoir that a step gives to the histogram that it builds, if it gives one. -/
def explicit? (s : Session) : Step → Option ObjectId
  | .build on _ => (s.draftWith "build" on).toOption.bind HistogramDraft.reservoir
  | .buildRecipe _ request | .findOrBuild _ _ request | .findOrBuildDuring _ _ request _ =>
      (s.recipeOf request).toOption.bind Recipe.reservoir
  | _ => none

/-- The object that a step hands observations to, if it hands on any. -/
def fed? (s : Session) (step : Step) : Option ObjectId :=
  step.fed?.bind fun on => (s.place on).toOption

/-- What a step leaves behind, as one operation on the objects of a session.  A histogram is built on
`explicit?` if it gives an object, and observations go to `fed?`. -/
inductive Operation (s : Session) (explicit? fed? : Option ObjectId) (w : World) : Prop
  | kept (left : w.objects = s.world.objects)
  | made (request : ReservoirRequest) (r : Reservoir) (made : s.makeReservoir request = .ok r)
      (left : w.objects = (s.world.add (.reservoir r)).2.objects)
  | added (object : Object) (other : ∀ h, object ≠ .histogram h) (empty : ∀ r, object ≠ .reservoir r)
      (left : w.objects = (s.world.add object).2.objects)
  | chosen (id : ObjectId) (old new : HistogramDraft) (stood : s.world.object id = .draft old)
      (left : w.objects = (s.world.put id (.draft new)).objects)
  | fed (id : ObjectId) (values : List (Except Failure Value)) (target : fed? = some id)
      (left : w.objects = (updateEach s.world id values).2.objects)
  | built (built : Built s.defaults explicit? s.world w)

section Step

variable {s : Session} {given target : Option ObjectId}

private theorem operation_changing {change : Except Failure (Answer × Session)}
    (changed : ∀ result, change = .ok result → Operation s given target result.2.world) :
    Operation s given target (s.changing change).2.world :=
  changing_of (P := fun s' => Operation s given target s'.world) (.kept rfl) changed

private theorem operation_observe (s : Session) (on : String) (values : Except Failure (List (Except Failure Value))) :
    Operation s given (s.place on).toOption (s.observe on values).2.world := by
  rcases observe_cases s on values with ⟨answer, same⟩ | ⟨id, listed, answer, placed, -, -, same⟩
  · rw [same]
    exact .kept rfl
  · rw [same, placed]
    exact .fed id listed rfl rfl

private theorem operation_choose {α : Type} (s : Session) (part on : String) (choice : Except Failure α)
    (change : HistogramDraft → α → Except Failure HistogramDraft) :
    Operation s given target (s.choose part on choice change).2.world := by
  refine operation_changing fun result chosen => ?_
  obtain ⟨id, -, chosen⟩ := Failure.bind_eq_ok_iff.mp chosen
  obtain ⟨value, -, chosen⟩ := Failure.bind_eq_ok_iff.mp chosen
  split at chosen
  · rename_i b stands
    obtain ⟨b', -, chosen⟩ := Failure.bind_eq_ok_iff.mp chosen
    obtain rfl := Except.ok.inj chosen
    exact .chosen id b b' stands rfl
  · split at chosen
    · simp [Object.lacking] at chosen
    · contradiction

private theorem built_buildNamed (s : Session) (as : String) (recipe : Recipe) :
    Built s.defaults recipe.reservoir s.world (s.buildNamed as recipe).2.world := by
  unfold buildNamed
  rcases World.build_cases s.world recipe s.defaults with
    ⟨kept, failure, refused⟩ | ⟨u, events, made, built, left⟩
  · rcases done : s.world.build recipe s.defaults with ⟨_ | h, w⟩
    · rw [done] at kept
      exact .kept kept
    · rw [done] at refused
      contradiction
  · rcases done : s.world.build recipe s.defaults with ⟨_ | h, w⟩
    · rw [done] at built
      contradiction
    · rw [done] at built left
      obtain rfl := Except.ok.inj built
      have objects : w.objects = (s.world.settle u).2.objects := left
      refine .stored s.world recipe u events made rfl ?_
      simp [addNamed, name, World.add, objects]

private theorem built_iterated (s : Session) (group : Value) (recipe : Recipe) :
    Built s.defaults recipe.reservoir s.world (s.iterated group recipe).2 := by
  unfold iterated
  split
  · exact .kept rfl
  · rename_i items _
    exact World.built_buildAndBind s.world group { recipe with percentiles := .list items } s.defaults

end Step

/-- Every step is one operation, on what is there once the steps in its course have been taken. -/
theorem operation_run (s : Session) (step : Step) :
    Operation (s.interlude step) (s.explicit? step) (s.fed? step) (run s step).2.world := by
  cases step with
  | reservoir as request =>
    refine operation_changing fun result answered => ?_
    obtain ⟨r, made, answered⟩ := Failure.bind_eq_ok_iff.mp answered
    obtain rfl := Except.ok.inj answered
    exact .made request r made rfl
  | draft as => exact .added (.draft {}) (fun h => by simp) (fun r => by simp) rfl
  | setName on name => exact operation_choose s _ on _ _
  | setPercentiles on percentiles => exact operation_choose s _ on _ _
  | setReservoir on reservoir => exact operation_choose s _ on _ _
  | setSkipDefaults on skipDefaults => exact operation_choose s _ on _ _
  | build on as =>
    refine operation_changing fun result built => ?_
    obtain ⟨b, found, built⟩ := Failure.bind_eq_ok_iff.mp built
    obtain rfl := Except.ok.inj built
    rw [explicit?, found]
    exact .built (built_buildNamed s as b.recipe)
  | buildRecipe as request =>
    refine operation_changing fun result built => ?_
    obtain ⟨recipe, asked, built⟩ := Failure.bind_eq_ok_iff.mp built
    obtain rfl := Except.ok.inj built
    rw [explicit?, asked]
    exact .built (built_buildNamed s as recipe)
  | update on value => exact operation_observe s on _
  | updateMany on values => exact operation_observe s on _
  | updateRange on start step count => exact operation_observe s on _
  | take on as =>
    refine operation_changing fun result taken => ?_
    obtain ⟨object, -, taken⟩ := Failure.bind_eq_ok_iff.mp taken
    obtain ⟨snapshot, -, taken⟩ := Failure.bind_eq_ok_iff.mp taken
    obtain rfl := Except.ok.inj taken
    exact .added (.snapshot snapshot) (fun h => by simp) (fun r => by simp) rfl
  | gauge as name => exact .added (.gauge name) (fun h => by simp) (fun r => by simp) rfl
  | findOrBuild as group request =>
    refine operation_changing fun result found => ?_
    obtain ⟨recipe, asked, found⟩ := Failure.bind_eq_ok_iff.mp found
    have built := World.built_findOrBuild s.world group recipe s.defaults
    rw [explicit?, asked]
    rcases done : s.world.findOrBuild group recipe s.defaults id with ⟨_ | metric, w⟩
    · rw [done] at built found
      obtain rfl := Except.ok.inj found
      exact .built built
    · rw [done] at built found
      obtain rfl := Except.ok.inj found
      rw [world_nameIf]
      exact .built built
  | findOrBuildDuring as group request during =>
    rcases run_findOrBuildDuring_cases s as group request during with
      ⟨idle, failure, ran | ran⟩ | ⟨recipe, asked, ⟨idle, metric, -, ran⟩ | ⟨listing, unbound⟩⟩
    · rw [ran, interlude, idle]
      exact .kept rfl
    · rw [ran, interlude, idle]
      exact .kept rfl
    · rw [ran, interlude, idle, world_nameIf]
      exact .kept rfl
    · rw [run_findOrBuildDuring_of_unbound as during asked unbound, interlude, if_pos listing, explicit?, asked]
      have built := built_iterated (runAll s during).2 group recipe
      rcases done : (runAll s during).2.iterated group recipe with ⟨_ | metric, w⟩
      · rw [done] at built
        exact .built built
      · rw [done] at built
        dsimp only
        rw [world_nameIf]
        exact .built built
  | register group on =>
    refine operation_changing fun result registered => ?_
    obtain ⟨id, -, registered⟩ := Failure.bind_eq_ok_iff.mp registered
    have kept := World.objects_register s.world group id
    rcases done : s.world.register group id with ⟨_ | _, w⟩ <;>
    · rw [done] at kept registered
      obtain rfl := Except.ok.inj registered
      exact .kept kept
  | _ =>
    rw [run_of_isQuestion rfl]
    exact .kept rfl

end Session

end SampledMetrics
