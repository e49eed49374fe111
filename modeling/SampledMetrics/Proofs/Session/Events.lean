import SampledMetrics.Proofs.Session.Erasure
import SampledMetrics.Proofs.World.Events
/-!
A session does not depend on the events told so far.  Main statement: sessions that differ in them alone
answer all further steps alike.
-/

set_option autoImplicit false
set_option relaxedAutoImplicit false

namespace SampledMetrics.Session

/-- The same names, the same defaults and worlds that are alike; the events may differ. -/
structure Alike (s t : Session) : Prop where
  world : s.world.Alike t.world
  names : t.names = s.names
  defaults : t.defaults = s.defaults

/-- One answer, and sessions that are alike. -/
def AlikeAfter {α : Type} (x y : α × Session) : Prop :=
  y.1 = x.1 ∧ x.2.Alike y.2

variable {s t : Session}

theorem Alike.refl (s : Session) : s.Alike s :=
  ⟨World.Alike.refl _, rfl, rfl⟩

theorem Alike.withWorld (alike : s.Alike t) {w v : World} (worlds : w.Alike v) :
    Alike { s with world := w } { t with world := v } :=
  ⟨worlds, alike.names, alike.defaults⟩

theorem Alike.name (alike : s.Alike t) (label : String) (id : ObjectId) :
    (s.name label id).Alike (t.name label id) :=
  ⟨alike.world, congrArg (Value.putEntry label id) alike.names, alike.defaults⟩

theorem Alike.nameIf (alike : s.Alike t) (label : Option String) (id : ObjectId) :
    (s.nameIf label id).Alike (t.nameIf label id) := by
  cases label with
  | none => exact alike
  | some label => exact alike.name label id

theorem Alike.addNamed (alike : s.Alike t) (as : String) (object : Object) :
    (s.addNamed as object).Alike (t.addNamed as object) := by
  obtain ⟨place, w, v, left, right, worlds⟩ := (alike.world.add object).cases
  unfold Session.addNamed
  rw [left, right]
  exact (alike.withWorld worlds).name as place

theorem Alike.place (alike : s.Alike t) (name : String) : t.place name = s.place name := by
  unfold Session.place
  rw [alike.names]

theorem Alike.placeIf (alike : s.Alike t) (name : Option String) : t.placeIf name = s.placeIf name := by
  unfold Session.placeIf
  rw [funext alike.place]

theorem Alike.object (alike : s.Alike t) (name : String) : t.object name = s.object name := by
  unfold Session.object
  rw [alike.place, funext alike.world.object]

theorem Alike.draftWith (alike : s.Alike t) (part name : String) :
    t.draftWith part name = s.draftWith part name := by
  unfold Session.draftWith
  rw [alike.object]

theorem Alike.histogramWith (alike : s.Alike t) (part name : String) :
    t.histogramWith part name = s.histogramWith part name := by
  unfold Session.histogramWith
  rw [alike.object]

theorem Alike.recipeOf (alike : s.Alike t) (request : HistogramRequest) :
    t.recipeOf request = s.recipeOf request := by
  unfold Session.recipeOf
  rw [alike.placeIf]

theorem Alike.namesOf (alike : s.Alike t) (id : ObjectId) : t.namesOf id = s.namesOf id := by
  unfold Session.namesOf
  rw [alike.names]

theorem Alike.describeMetric (alike : s.Alike t) (id : ObjectId) :
    t.describeMetric id = s.describeMetric id := by
  unfold Session.describeMetric
  rw [alike.world.object, alike.namesOf]

theorem Alike.infoNamed (alike : s.Alike t) (on : String) : t.infoNamed on = s.infoNamed on := by
  unfold Session.infoNamed
  rw [alike.object]

theorem Alike.infoOf (alike : s.Alike t) (h : Histogram) : t.infoOf h = s.infoOf h := by
  unfold Session.infoOf
  rw [alike.world.countOf, alike.world.object, alike.namesOf]

theorem Alike.stateNamed (alike : s.Alike t) (on : String) : t.stateNamed on = s.stateNamed on := by
  unfold Session.stateNamed
  rw [alike.object, funext alike.world.countOf]

theorem Alike.visitEach (alike : s.Alike t) (collecting : Bool) (ids : List ObjectId) :
    t.visitEach collecting ids = s.visitEach collecting ids := by
  unfold Session.visitEach
  rw [alike.world.collect]

theorem Alike.describeBindings (alike : s.Alike t) (group : Value) :
    t.describeBindings group = s.describeBindings group := by
  unfold Session.describeBindings
  rw [alike.world.registry, funext alike.world.object, funext alike.namesOf]

theorem Alike.makeReservoir (alike : s.Alike t) (request : ReservoirRequest) :
    t.makeReservoir request = s.makeReservoir request := by
  unfold Session.makeReservoir
  rw [alike.world.words, alike.world.size]

theorem Alike.partKind? (alike : s.Alike t) (object : Object) (part : String) :
    t.partKind? object part = s.partKind? object part := by
  unfold Session.partKind?
  rw [funext alike.world.object]

theorem Alike.reading (alike : s.Alike t) {x y : Except Failure Answer} (same : y = x) :
    AlikeAfter (s.reading x) (t.reading y) := by
  subst same
  cases y with
  | ok answer => exact ⟨rfl, alike⟩
  | error failure => exact ⟨rfl, alike⟩

theorem Alike.changing (alike : s.Alike t) {x y : Except Failure (Answer × Session)}
    (both : Both AlikeAfter x y) : AlikeAfter (s.changing x) (t.changing y) := by
  cases both with
  | ok after => exact after
  | error failure => exact ⟨rfl, alike⟩

theorem Alike.choose (alike : s.Alike t) {α : Type} (part on : String) {choice choice' : Except Failure α}
    (same : choice' = choice) (change : HistogramDraft → α → Except Failure HistogramDraft) :
    AlikeAfter (s.choose part on choice change) (t.choose part on choice' change) := by
  subst same
  unfold Session.choose
  rw [alike.place]
  refine alike.changing ((Both.refl _).bind ?_)
  rintro id _ rfl
  refine (Both.refl _).bind ?_
  rintro value _ rfl
  rw [alike.world.object]
  split
  · refine (Both.refl _).bind ?_
    rintro b _ rfl
    exact .ok ⟨rfl, alike.withWorld (alike.world.put id _)⟩
  · rw [alike.partKind?]
    split
    · exact .error _
    · exact .error _

theorem Alike.buildNamed (alike : s.Alike t) (as : String) (recipe : Recipe) :
    AlikeAfter (s.buildNamed as recipe) (t.buildNamed as recipe) := by
  obtain ⟨result, w, v, left, right, worlds⟩ := (alike.world.build recipe s.defaults).cases
  rw [← alike.defaults] at right
  unfold Session.buildNamed
  rw [left, right]
  cases result with
  | error failure => exact ⟨rfl, alike.withWorld worlds⟩
  | ok h => exact ⟨rfl, (alike.withWorld worlds).addNamed as _⟩

private theorem alike_updateEach {w v : World} (alike : w.Alike v) (id : ObjectId)
    (values : List (Except Failure Value)) :
    World.AlikeAfter (updateEach w id values) (updateEach v id values) := by
  induction values generalizing w v with
  | nil => exact ⟨rfl, alike⟩
  | cons value rest ih =>
    cases value with
    | error failure => exact ⟨rfl, alike⟩
    | ok value =>
      obtain ⟨result, w', v', left, right, worlds⟩ := (alike.update id value).cases
      rw [updateEach, updateEach, left, right]
      cases result with
      | error failure => exact ⟨rfl, worlds⟩
      | ok _ => exact ih worlds

theorem Alike.observe (alike : s.Alike t) (on : String)
    (values : Except Failure (List (Except Failure Value))) :
    AlikeAfter (s.observe on values) (t.observe on values) := by
  unfold Session.observe
  rw [alike.place]
  refine alike.changing ((Both.refl _).bind ?_)
  rintro id _ rfl
  refine (Both.refl _).bind ?_
  rintro listed _ rfl
  split
  · exact .ok ⟨rfl, alike⟩
  · obtain ⟨result, w, v, left, right, worlds⟩ := (alike_updateEach alike.world id listed).cases
    rw [alike.world.object, left, right]
    dsimp only
    split
    · exact .error _
    · cases result with
      | error failure => exact .ok ⟨rfl, alike.withWorld worlds⟩
      | ok _ => exact .ok ⟨rfl, alike.withWorld worlds⟩

private theorem Alike.run_findOrBuild (alike : s.Alike t) (as : Option String) (group : Value)
    (request : HistogramRequest) :
    AlikeAfter (run s (.findOrBuild as group request)) (run t (.findOrBuild as group request)) := by
  unfold run
  rw [alike.recipeOf]
  refine alike.changing ((Both.refl _).bind ?_)
  rintro recipe _ rfl
  obtain ⟨result, w, v, left, right, worlds⟩ := (alike.world.findOrBuild group recipe s.defaults).cases
  rw [← alike.defaults] at right
  rw [left, right]
  have later := alike.withWorld worlds
  cases result with
  | error failure => exact .ok ⟨rfl, later⟩
  | ok metric =>
    dsimp only
    rw [later.describeMetric]
    exact .ok ⟨rfl, later.nameIf as metric⟩

private theorem Alike.run_register (alike : s.Alike t) (group : Value) (on : String) :
    AlikeAfter (run s (.register group on)) (run t (.register group on)) := by
  unfold run
  rw [alike.place]
  refine alike.changing ((Both.refl _).bind ?_)
  rintro id _ rfl
  obtain ⟨result, w, v, left, right, worlds⟩ := (alike.world.register group id).cases
  rw [left, right]
  have later := alike.withWorld worlds
  cases result with
  | error failure => exact .ok ⟨rfl, later⟩
  | ok _ => exact .ok ⟨rfl, later⟩

private theorem Alike.run_findOrBuildDuring (alike : s.Alike t) (as : Option String) (group : Value)
    (request : HistogramRequest) {during : List Step}
    (between : AlikeAfter (runAll s during) (runAll t during)) :
    AlikeAfter (run s (.findOrBuildDuring as group request during))
      (run t (.findOrBuildDuring as group request during)) := by
  obtain ⟨answers, inner⟩ := between
  unfold run
  rw [alike.recipeOf]
  split
  · exact ⟨rfl, alike⟩
  · rw [alike.world.findHistogram]
    split
    · exact ⟨rfl, alike⟩
    · rw [alike.describeMetric]
      exact ⟨rfl, alike.nameIf as _⟩
    · dsimp only
      rw [answers]
      split
      · exact ⟨rfl, inner⟩
      · rename_i recipe _ _ _ _ items _
        obtain ⟨result, w, v, left, right, worlds⟩ := (inner.world.buildAndBind group
          { recipe with percentiles := .list items } (runAll s during).2.defaults).cases
        rw [← inner.defaults] at right
        rw [left, right]
        have later := inner.withWorld worlds
        cases result with
        | error failure => exact ⟨rfl, later⟩
        | ok metric =>
          dsimp only
          rw [later.describeMetric]
          exact ⟨rfl, later.nameIf as metric⟩

mutual

/-- A step is answered alike in sessions that differ in the events only, and leaves such sessions. -/
theorem Alike.run {s t : Session} (alike : s.Alike t) (step : Step) : AlikeAfter (s.run step) (t.run step) := by
  cases step with
  | findOrBuildDuring as group request during =>
    exact alike.run_findOrBuildDuring as group request (alike.runAll during)
  | unreadable failure =>
    unfold Session.run
    exact ⟨rfl, alike⟩
  | reservoir as request =>
    unfold Session.run
    rw [alike.makeReservoir]
    refine alike.changing ((Both.refl _).bind ?_)
    rintro r _ rfl
    exact .ok ⟨rfl, alike.addNamed as _⟩
  | draft as =>
    unfold Session.run
    exact ⟨rfl, alike.addNamed as _⟩
  | setName on name =>
    unfold Session.run
    exact alike.choose "name" on rfl _
  | setPercentiles on percentiles =>
    unfold Session.run
    exact alike.choose "percentiles" on rfl _
  | setReservoir on reservoir =>
    unfold Session.run
    exact alike.choose "reservoir" on (alike.placeIf reservoir) _
  | setSkipDefaults on skipDefaults =>
    unfold Session.run
    exact alike.choose "skip_default_metrics" on rfl _
  | recipe on =>
    unfold Session.run
    rw [alike.draftWith, funext alike.world.object]
    exact alike.reading rfl
  | build on as =>
    unfold Session.run
    rw [alike.draftWith]
    refine alike.changing ((Both.refl _).bind ?_)
    rintro b _ rfl
    exact .ok (alike.buildNamed as b.recipe)
  | buildRecipe as request =>
    unfold Session.run
    rw [alike.recipeOf]
    refine alike.changing ((Both.refl _).bind ?_)
    rintro recipe _ rfl
    exact .ok (alike.buildNamed as recipe)
  | update on value =>
    unfold Session.run
    exact alike.observe on _
  | updateMany on values =>
    unfold Session.run
    exact alike.observe on _
  | updateRange on start step count =>
    unfold Session.run
    exact alike.observe on _
  | metrics on =>
    unfold Session.run
    rw [alike.histogramWith, funext alike.world.reportOf]
    exact alike.reading rfl
  | measure on measure =>
    unfold Session.run
    rw [alike.histogramWith, funext alike.world.snapshotOf]
    exact alike.reading rfl
  | info on =>
    unfold Session.run
    rw [alike.infoNamed, funext alike.infoOf]
    exact alike.reading rfl
  | extractors on =>
    unfold Session.run
    rw [alike.histogramWith]
    exact alike.reading rfl
  | defaultNames =>
    unfold Session.run
    exact ⟨rfl, alike⟩
  | state on =>
    unfold Session.run
    exact alike.reading (alike.stateNamed on)
  | take on as =>
    unfold Session.run
    rw [alike.object, funext alike.world.snapshotOf]
    refine alike.changing ((Both.refl _).bind ?_)
    rintro object _ rfl
    refine (Both.refl _).bind ?_
    rintro snapshot _ rfl
    exact .ok ⟨rfl, alike.addNamed as _⟩
  | ask on call =>
    unfold Session.run
    rw [alike.object]
    exact alike.reading rfl
  | visitAll collecting =>
    unfold Session.run
    rw [alike.world.registry]
    exact alike.reading (alike.visitEach collecting _)
  | visit on collecting =>
    unfold Session.run
    rw [alike.place, funext (alike.visitEach collecting)]
    exact alike.reading rfl
  | gauge as name =>
    unfold Session.run
    exact ⟨rfl, alike.addNamed as _⟩
  | findOrBuild as group request => exact alike.run_findOrBuild as group request
  | register group on => exact alike.run_register group on
  | groups =>
    unfold Session.run
    rw [alike.world.registry]
    exact alike.reading rfl
  | group group =>
    unfold Session.run
    rw [alike.describeBindings]
    exact alike.reading rfl

theorem Alike.runAll {s t : Session} (alike : s.Alike t) (steps : List Step) :
    AlikeAfter (s.runAll steps) (t.runAll steps) := by
  cases steps with
  | nil =>
    rw [Session.runAll, Session.runAll]
    exact ⟨rfl, alike⟩
  | cons step rest =>
    obtain ⟨first, after⟩ := alike.run step
    obtain ⟨others, last⟩ := after.runAll rest
    rw [Session.runAll, Session.runAll]
    exact ⟨congrArg₂ List.cons first others, last⟩

end

end SampledMetrics.Session
