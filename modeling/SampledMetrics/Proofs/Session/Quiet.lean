import SampledMetrics.Proofs.World.Growth
import SampledMetrics.Session
/-!
What a step of a session can do to the world.  Most steps leave the registry as it is; the others are
operations of the world on it.  Whatever is kept by the few things that the first kind does to a world is kept
by each of its steps.
-/

set_option autoImplicit false
set_option relaxedAutoImplicit false

namespace SampledMetrics

def Step.isQuestion : Step → Bool
  | .unreadable _ | .recipe _ | .metrics _ | .measure _ _ | .info _ | .extractors _ | .defaultNames
  | .state _ | .ask _ _ | .visitAll _ | .visit _ _ | .groups | .group _ => true
  | _ => false

def Step.isBinding : Step → Bool
  | .register _ _ | .findOrBuild _ _ _ | .findOrBuildDuring _ _ _ _ => true
  | _ => false

namespace Session

variable {s : Session}

/-- A later session with the same registry and the same defaults. -/
structure Quiet (s s' : Session) : Prop where
  world : s.world.Quiet s'.world
  defaults : s'.defaults = s.defaults

theorem Quiet.refl (s : Session) : s.Quiet s :=
  ⟨World.Quiet.refl _, rfl⟩

/-- Sessions with the same defaults, whose worlds are related. -/
structure Related (R : World → World → Prop) (s s' : Session) : Prop where
  world : R s.world s'.world
  defaults : s'.defaults = s.defaults

@[simp] theorem snd_reading (s : Session) (answer : Except Failure Answer) :
    (s.reading answer).2 = s := by
  unfold reading
  split <;> rfl

theorem run_of_isQuestion {step : Step} (asks : step.isQuestion) : (run s step).2 = s := by
  cases step <;> first | contradiction | simp only [run, snd_reading]

theorem changing_of {change : Except Failure (Answer × Session)} {P : Session → Prop} (stays : P s)
    (changed : ∀ result, change = .ok result → P result.2) : P (s.changing change).2 := by
  unfold changing
  split
  · exact changed _ rfl
  · exact stays

theorem observe_cases (s : Session) (on : String)
    (values : Except Failure (List (Except Failure Value))) :
    (∃ answer, s.observe on values = (answer, s)) ∨
      ∃ id listed answer, s.place on = .ok id ∧ values = .ok listed ∧
        (s.world.object id).isObserver ∧
        s.observe on values = (answer, { s with world := (updateEach s.world id listed).2 }) := by
  unfold observe
  cases placed : s.place on with
  | error failure => exact .inl ⟨_, rfl⟩
  | ok id =>
    cases values with
    | error failure => exact .inl ⟨_, rfl⟩
    | ok listed =>
      cases empty : listed.isEmpty with
      | true => exact .inl ⟨.done, by simp [changing, bind, Except.bind, empty, pure, Except.pure]⟩
      | false =>
        cases observer : (s.world.object id).isObserver with
        | false =>
          refine .inl ⟨.refused (.lacks (s.world.object id).kindName "update"), ?_⟩
          simp [changing, bind, Except.bind, empty, observer, Object.lacking]
        | true =>
          rcases updated : updateEach s.world id listed with ⟨_ | _, w⟩
          · exact .inr ⟨id, listed, _, rfl, rfl, observer, by
              simp [changing, bind, Except.bind, empty, observer, updated, pure, Except.pure]; rfl⟩
          · exact .inr ⟨id, listed, _, rfl, rfl, observer, by
              simp [changing, bind, Except.bind, empty, observer, updated, pure, Except.pure]; rfl⟩

section Kept

variable {R : World → World → Prop}

private theorem related_refl (kept : World.Kept R) (s : Session) : Related R s s :=
  ⟨kept.refl _, rfl⟩

theorem Related.addNamed {s' : Session} (related : Related R s s') (kept : World.Kept R) (as : String)
    (object : Object) : Related R s (s'.addNamed as object) :=
  ⟨kept.trans related.world (kept.add _ object), related.defaults⟩

private theorem related_choose (kept : World.Kept R) {α : Type} (s : Session) (part on : String)
    (choice : Except Failure α) (change : HistogramDraft → α → Except Failure HistogramDraft) :
    Related R s (s.choose part on choice change).2 := by
  refine changing_of (related_refl kept s) fun result chosen => ?_
  obtain ⟨id, -, chosen⟩ := Failure.bind_eq_ok_iff.mp chosen
  obtain ⟨value, -, chosen⟩ := Failure.bind_eq_ok_iff.mp chosen
  split at chosen
  · rename_i b stands
    obtain ⟨b', -, chosen⟩ := Failure.bind_eq_ok_iff.mp chosen
    obtain rfl := Except.ok.inj chosen
    exact ⟨kept.choose stands b', rfl⟩
  · split at chosen
    · simp [Object.lacking] at chosen
    · contradiction

private theorem related_buildNamed (kept : World.Kept R) (s : Session) (as : String) (recipe : Recipe) :
    Related R s (s.buildNamed as recipe).2 := by
  have built := kept.build s.world recipe s.defaults
  unfold buildNamed
  split
  · rename_i failure w same
    rw [same] at built
    exact ⟨built, rfl⟩
  · rename_i h w same
    rw [same] at built
    have after : Related R s { s with world := w } := ⟨built, rfl⟩
    exact after.addNamed kept as (.histogram h)

private theorem related_updateEach (kept : World.Kept R) (w : World) (id : ObjectId)
    (values : List (Except Failure Value)) : R w (updateEach w id values).2 := by
  induction values generalizing w with
  | nil => exact kept.refl w
  | cons value rest ih =>
    cases value with
    | error failure => exact kept.refl w
    | ok value =>
      have updated := kept.update w id value
      rw [updateEach]
      split
      · rename_i w' same
        rw [same] at updated
        exact kept.trans updated (ih w')
      · rename_i failure w' same
        rw [same] at updated
        exact updated

private theorem related_observe (kept : World.Kept R) (s : Session) (on : String)
    (values : Except Failure (List (Except Failure Value))) : Related R s (s.observe on values).2 := by
  rcases observe_cases s on values with ⟨answer, same⟩ | ⟨id, listed, answer, -, -, -, same⟩
  · rw [same]
    exact related_refl kept s
  · rw [same]
    exact ⟨related_updateEach kept s.world id listed, rfl⟩

/-- Steps that bind nothing keep what is kept without the registry. -/
theorem related_run (kept : World.Kept R) {step : Step} (binds : step.isBinding = false) :
    Related R s (run s step).2 := by
  have same := related_refl kept s
  cases step with
  | reservoir as request =>
    unfold run
    refine changing_of same fun result made => ?_
    obtain ⟨r, -, made⟩ := Failure.bind_eq_ok_iff.mp made
    obtain rfl := Except.ok.inj made
    exact same.addNamed kept as _
  | draft as => exact same.addNamed kept as _
  | setName on name => exact related_choose kept s _ on _ _
  | setPercentiles on percentiles => exact related_choose kept s _ on _ _
  | setReservoir on reservoir => exact related_choose kept s _ on _ _
  | setSkipDefaults on skipDefaults => exact related_choose kept s _ on _ _
  | build on as =>
    unfold run
    refine changing_of same fun result built => ?_
    obtain ⟨b, -, built⟩ := Failure.bind_eq_ok_iff.mp built
    obtain rfl := Except.ok.inj built
    exact related_buildNamed kept s as b.recipe
  | buildRecipe as request =>
    unfold run
    refine changing_of same fun result built => ?_
    obtain ⟨recipe, -, built⟩ := Failure.bind_eq_ok_iff.mp built
    obtain rfl := Except.ok.inj built
    exact related_buildNamed kept s as recipe
  | update on value => exact related_observe kept s on _
  | updateMany on values => exact related_observe kept s on _
  | updateRange on start step count => exact related_observe kept s on _
  | take on as =>
    unfold run
    refine changing_of same fun result taken => ?_
    obtain ⟨object, -, taken⟩ := Failure.bind_eq_ok_iff.mp taken
    obtain ⟨snapshot, -, taken⟩ := Failure.bind_eq_ok_iff.mp taken
    obtain rfl := Except.ok.inj taken
    exact same.addNamed kept as _
  | gauge as name => exact same.addNamed kept as _
  | register group on => contradiction
  | findOrBuild as group request => contradiction
  | findOrBuildDuring as group request during => contradiction
  | _ =>
    rw [run_of_isQuestion rfl]
    exact same

end Kept

theorem quiet_updateEach (w : World) (id : ObjectId) (values : List (Except Failure Value)) :
    w.Quiet (updateEach w id values).2 :=
  related_updateEach World.kept_quiet w id values

theorem quiet_run {step : Step} (binds : step.isBinding = false) : s.Quiet (run s step).2 :=
  have related := related_run World.kept_quiet binds
  ⟨related.world, related.defaults⟩

end Session

end SampledMetrics
