import SampledMetrics.Proofs.Session.History
import SampledMetrics.Proofs.World.Closed
/-!
Every name that a session knows, and whatever its objects refer to, has a place.
-/

set_option autoImplicit false
set_option relaxedAutoImplicit false

namespace SampledMetrics.Session

/-- The world is closed, and names stand for places that exist. -/
structure Closed (s : Session) : Prop where
  world : s.world.Closed
  names : ∀ entry ∈ s.names, entry.2 < s.world.objects.size

variable {s : Session}

theorem closed_start (words : ObjectId → Nat → UInt64) (defaults : Defaults) :
    (start words defaults).Closed :=
  ⟨World.closed_empty words, fun entry member => by contradiction⟩

private theorem place_lt {on : String} {id : ObjectId} (closed : s.Closed) (placed : s.place on = .ok id) :
    id < s.world.objects.size := by
  unfold place at placed
  split at placed
  · rename_i other found
    obtain rfl := Except.ok.inj placed
    obtain ⟨entry, member, rfl⟩ := mem_of_lookup found
    exact closed.names entry member
  · contradiction

private theorem placeIf_lt {on : Option String} {id? : Option ObjectId} (closed : s.Closed)
    (placed : s.placeIf on = .ok id?) : ∀ id, id? = some id → id < s.world.objects.size := by
  cases on with
  | none =>
    obtain rfl := Except.ok.inj placed
    intro id chosen
    contradiction
  | some on =>
    obtain ⟨id, placed', chosen⟩ := Failure.bind_eq_ok_iff.mp placed
    obtain rfl := Except.ok.inj chosen
    intro other same
    obtain rfl := Option.some.inj same
    exact place_lt closed placed'

private theorem recipeOf_lt {request : HistogramRequest} {recipe : Recipe} (closed : s.Closed)
    (asked : s.recipeOf request = .ok recipe) :
    ∀ id, recipe.reservoir = some id → id < s.world.objects.size := by
  obtain ⟨reservoir, placed, asked⟩ := Failure.bind_eq_ok_iff.mp asked
  obtain rfl := Except.ok.inj asked
  exact placeIf_lt closed placed

private theorem draftWith_lt {part on : String} {b : HistogramDraft} (closed : s.Closed)
    (found : s.draftWith part on = .ok b) :
    ∀ id, b.reservoir = some id → id < s.world.objects.size := by
  obtain ⟨object, placed, found⟩ := Failure.bind_eq_ok_iff.mp found
  obtain ⟨id, -, stands⟩ := Failure.bind_eq_ok_iff.mp placed
  obtain rfl := Except.ok.inj stands
  split at found
  · rename_i b' drafted
    obtain rfl := Except.ok.inj found
    have points := closed.world.objects id
    rw [drafted] at points
    exact points
  · simp [Object.lacking] at found

/-- A later world keeps the names, when no place is lost. -/
theorem Closed.withWorld {w : World} (closed : s.Closed) (closed' : w.Closed)
    (size_le : s.world.objects.size ≤ w.objects.size) : Closed { s with world := w } :=
  ⟨closed', fun entry member => Nat.lt_of_lt_of_le (closed.names entry member) size_le⟩

theorem Closed.name (closed : s.Closed) (as : String) {id : ObjectId}
    (present : id < s.world.objects.size) : (s.name as id).Closed where
  world := closed.world
  names := by
    intro entry member
    rcases mem_putEntry member with old | rfl
    · exact closed.names entry old
    · exact present

theorem Closed.nameIf (closed : s.Closed) (as : Option String) {id : ObjectId}
    (present : id < s.world.objects.size) : (s.nameIf as id).Closed := by
  cases as with
  | none => exact closed
  | some as => exact closed.name as present

theorem Closed.addNamed (closed : s.Closed) (as : String) {object : Object}
    (points : object.PointsBelow (s.world.objects.size + 1)) : (s.addNamed as object).Closed := by
  refine (closed.withWorld (closed.world.add points) ?_).name as ?_ <;> simp

theorem Closed.choose {α : Type} (closed : s.Closed) (part on : String) {choice : Except Failure α}
    {change : HistogramDraft → α → Except Failure HistogramDraft}
    (kept : ∀ value b b', choice = .ok value → change b value = .ok b' →
      (Object.draft b).PointsBelow s.world.objects.size →
      (Object.draft b').PointsBelow s.world.objects.size) :
    (s.choose part on choice change).2.Closed := by
  refine changing_of closed fun result chosen => ?_
  obtain ⟨id, -, chosen⟩ := Failure.bind_eq_ok_iff.mp chosen
  obtain ⟨value, given, chosen⟩ := Failure.bind_eq_ok_iff.mp chosen
  split at chosen
  · rename_i b stands
    obtain ⟨b', changed, chosen⟩ := Failure.bind_eq_ok_iff.mp chosen
    obtain rfl := Except.ok.inj chosen
    have points := closed.world.objects id
    rw [stands] at points
    exact closed.withWorld (closed.world.put (kept value b b' given changed points)) (by simp)
  · split at chosen
    · simp [Object.lacking] at chosen
    · contradiction

theorem Closed.buildNamed {recipe : Recipe} (closed : s.Closed) (as : String)
    (present : ∀ id, recipe.reservoir = some id → id < s.world.objects.size) :
    (s.buildNamed as recipe).2.Closed := by
  obtain ⟨built, stands⟩ := closed.world.build s.defaults present
  have size_le := (World.quiet_build s.world recipe s.defaults).size_le
  unfold Session.buildNamed
  split
  · rename_i failure w same
    rw [same] at built size_le
    exact closed.withWorld built size_le
  · rename_i h w same
    rw [same] at built size_le stands
    exact (closed.withWorld built size_le).addNamed as (Nat.lt_succ_of_lt (stands h rfl))

private theorem closed_updateEach {w : World} (closed : w.Closed) (id : ObjectId)
    (values : List (Except Failure Value)) : (updateEach w id values).2.Closed := by
  induction values generalizing w with
  | nil => exact closed
  | cons value rest ih =>
    cases value with
    | error failure => exact closed
    | ok value =>
      have updated := closed.update id value
      rw [updateEach]
      split
      · rename_i w' same
        rw [same] at updated
        exact ih updated
      · rename_i failure w' same
        rw [same] at updated
        exact updated

theorem Closed.observe (closed : s.Closed) (on : String)
    (values : Except Failure (List (Except Failure Value))) : (s.observe on values).2.Closed := by
  rcases observe_cases s on values with ⟨answer, same⟩ | ⟨id, listed, answer, -, -, -, same⟩
  · rw [same]
    exact closed
  · rw [same]
    exact closed.withWorld (closed_updateEach closed.world id listed)
      (quiet_updateEach s.world id listed).size_le

theorem Closed.register (closed : s.Closed) (group : Value) (on : String) :
    (run s (.register group on)).2.Closed := by
  unfold run
  refine changing_of closed fun result registered => ?_
  obtain ⟨id, placed, registered⟩ := Failure.bind_eq_ok_iff.mp registered
  have grows := World.grows_register s.world group id
  have closed' := closed.world.register group (place_lt closed placed)
  rcases done : s.world.register group id with ⟨_ | _, w⟩ <;>
  · rw [done] at grows closed' registered
    obtain rfl := Except.ok.inj registered
    exact closed.withWorld closed' grows.size_le

theorem Closed.findOrBuild (closed : s.Closed) (as : Option String) (group : Value)
    (request : HistogramRequest) : (run s (.findOrBuild as group request)).2.Closed := by
  unfold run
  refine changing_of closed fun result done => ?_
  obtain ⟨recipe, asked, done⟩ := Failure.bind_eq_ok_iff.mp done
  have size_le := (World.grows_findOrBuild s.world group recipe s.defaults).size_le
  obtain ⟨closed', present⟩ := closed.world.findOrBuild group s.defaults
    (recipeOf_lt closed asked)
  split at done
  · rename_i failure w same
    obtain rfl := Except.ok.inj done
    rw [same] at closed' size_le
    exact closed.withWorld closed' size_le
  · rename_i metric w same
    obtain rfl := Except.ok.inj done
    rw [same] at closed' size_le present
    exact (closed.withWorld closed' size_le).nameIf as (present metric rfl)

theorem Closed.iterated {recipe : Recipe} (closed : s.Closed) (group : Value)
    (present : ∀ id, recipe.reservoir = some id → id < s.world.objects.size) :
    (s.iterated group recipe).2.Closed ∧ ∀ metric, (s.iterated group recipe).1 = .ok metric →
      metric < (s.iterated group recipe).2.objects.size := by
  unfold Session.iterated
  split
  · exact ⟨closed.world, fun metric given => by contradiction⟩
  · exact closed.world.buildAndBind group s.defaults present

private theorem closed_quiet {step : Step} (closed : s.Closed) (binds : step.isBinding = false) :
    (run s step).2.Closed := by
  cases step with
  | reservoir as request =>
    unfold run
    refine changing_of closed fun result made => ?_
    obtain ⟨r, -, made⟩ := Failure.bind_eq_ok_iff.mp made
    obtain rfl := Except.ok.inj made
    exact closed.addNamed as trivial
  | draft as => exact closed.addNamed as fun id chosen => by contradiction
  | setName on name =>
    refine closed.choose _ on fun value b b' _ changed points => ?_
    obtain rfl := Except.ok.inj changed
    exact points
  | setPercentiles on percentiles =>
    refine closed.choose _ on fun value b b' _ changed points => ?_
    unfold HistogramDraft.setPercentiles at changed
    split at changed
    · obtain rfl := Except.ok.inj changed
      exact points
    · obtain ⟨items, -, changed⟩ := Failure.bind_eq_ok_iff.mp changed
      obtain rfl := Except.ok.inj changed
      exact points
  | setReservoir on reservoir =>
    refine closed.choose _ on fun value b b' given changed points => ?_
    obtain rfl := Except.ok.inj changed
    exact placeIf_lt closed given
  | setSkipDefaults on skipDefaults =>
    refine closed.choose _ on fun value b b' _ changed points => ?_
    obtain rfl := Except.ok.inj changed
    exact points
  | build on as =>
    unfold run
    refine changing_of closed fun result built => ?_
    obtain ⟨b, found, built⟩ := Failure.bind_eq_ok_iff.mp built
    obtain rfl := Except.ok.inj built
    exact closed.buildNamed as (draftWith_lt closed found)
  | buildRecipe as request =>
    unfold run
    refine changing_of closed fun result built => ?_
    obtain ⟨recipe, asked, built⟩ := Failure.bind_eq_ok_iff.mp built
    obtain rfl := Except.ok.inj built
    exact closed.buildNamed as (recipeOf_lt closed asked)
  | update on value => exact closed.observe on _
  | updateMany on values => exact closed.observe on _
  | updateRange on start step count => exact closed.observe on _
  | take on as =>
    unfold run
    refine changing_of closed fun result taken => ?_
    obtain ⟨object, -, taken⟩ := Failure.bind_eq_ok_iff.mp taken
    obtain ⟨snapshot, -, taken⟩ := Failure.bind_eq_ok_iff.mp taken
    obtain rfl := Except.ok.inj taken
    exact closed.addNamed as trivial
  | gauge as name => exact closed.addNamed as trivial
  | register group on => contradiction
  | findOrBuild as group request => contradiction
  | findOrBuildDuring as group request during => contradiction
  | _ =>
    rw [run_of_isQuestion rfl]
    exact closed

mutual

theorem closed_run {s : Session} (closed : s.Closed) (step : Step) : (run s step).2.Closed := by
  cases step with
  | register group on => exact closed.register group on
  | findOrBuild as group request => exact closed.findOrBuild as group request
  | findOrBuildDuring as group request during =>
    have between := closed_runAll closed during
    rcases run_findOrBuildDuring_cases s as group request during with
      ⟨-, failure, ran | ran⟩ | ⟨recipe, asked, ⟨-, metric, looked, ran⟩ | ⟨-, unbound⟩⟩
    · rw [ran]
      exact closed
    · rw [ran]
      exact closed
    · rw [ran]
      exact closed.nameIf as (closed.world.findHistogram looked)
    · have size_le := (grows_runAll s during).world.size_le
      have size_le' := (grows_iterated (runAll s during).2 group recipe).size_le
      obtain ⟨closed', present⟩ := between.iterated group fun id given =>
        Nat.lt_of_lt_of_le (recipeOf_lt closed asked id given) size_le
      rw [run_findOrBuildDuring_of_unbound as during asked unbound]
      rcases done : (runAll s during).2.iterated group recipe with ⟨_ | metric, w⟩
      · rw [done] at closed' size_le'
        exact between.withWorld closed' size_le'
      · rw [done] at closed' size_le' present
        exact (between.withWorld closed' size_le').nameIf as (present metric rfl)
  | _ => exact closed_quiet closed rfl

theorem closed_runAll {s : Session} (closed : s.Closed) (steps : List Step) :
    (runAll s steps).2.Closed := by
  cases steps with
  | nil => exact closed
  | cons step rest =>
    rw [runAll]
    exact closed_runAll (closed_run closed step) rest

end

end SampledMetrics.Session
