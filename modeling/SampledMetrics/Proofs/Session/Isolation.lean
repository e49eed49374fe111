import SampledMetrics.Proofs.Session.Operation
/-!
Histograms of a session are isolated unless they share a reservoir.  Each step is one operation on the
objects; it observes at most one reservoir, and builds at most one histogram.  Main statement: in every
session that can be reached, a histogram that is built without a reservoir gets one to itself; steps leave
every reservoir that they do not observe as it is, and the reports of all histograms on it; and histograms
on one reservoir report the same under common names.
-/

set_option autoImplicit false
set_option relaxedAutoImplicit false

namespace SampledMetrics.Session

open World (Change Owns Answering)

variable {s : Session}

/-- What the observations of a step come to, if it makes any: the object that it names, or what a histogram
of that name stands on. -/
def observed? (s : Session) : Step → Option ObjectId
  | .update on _ | .updateMany on _ | .updateRange on _ _ _ => (s.place on).toOption.bind s.world.groundOf?
  | _ => none

private theorem observes_updateEach (w : World) (id : ObjectId) (values : List (Except Failure Value)) :
    World.Observes id w (updateEach w id values).2 := by
  induction values generalizing w with
  | nil => exact .refl id w
  | cons value rest ih =>
    cases value with
    | error failure => exact .refl id w
    | ok value =>
      have updated := w.observes_update id value
      rw [updateEach]
      split
      · rename_i w' same
        rw [same] at updated
        exact updated.trans (ih w')
      · rename_i failure w' same
        rw [same] at updated
        exact updated

theorem Operation.change {explicit? fed? : Option ObjectId} {w : World}
    (operation : Operation s explicit? fed? w) :
    Change s.defaults explicit? (fed?.bind s.world.groundOf?) s.world w := by
  cases operation with
  | kept left => exact .kept left
  | made request r _ left => exact .added (.reservoir r) (fun h => by simp) left
  | added object other _ left => exact .added object other left
  | chosen id old new stood left => exact .chosen id old new stood left
  | fed id values target left =>
    subst target
    rcases observes_updateEach s.world id values with kept | ⟨g, old, new, reached, stood, changed⟩
    · exact .kept (left.trans (congrArg World.objects kept))
    · exact .observed g old new reached stood (left.trans (congrArg World.objects changed))
  | built built => exact built.change

private theorem observed?_eq (s : Session) (step : Step) :
    s.observed? step = (s.fed? step).bind (s.interlude step).world.groundOf? := by
  cases step <;> rfl

private theorem defaults_interlude (s : Session) (step : Step) : (s.interlude step).defaults = s.defaults := by
  cases step with
  | findOrBuildDuring as group request during =>
    unfold interlude
    dsimp only
    split
    · exact (grows_runAll s during).defaults
    · rfl
  | _ => rfl

theorem change_run (s : Session) (step : Step) :
    Change s.defaults (s.explicit? step) (s.observed? step) (s.interlude step).world (run s step).2.world := by
  rw [observed?_eq, ← defaults_interlude s step]
  exact (operation_run s step).change

/-- Sessions that steps lead to, when names can also be given to objects that are there; so the reservoir of a
histogram can be handed over even if it was made for the histogram. -/
inductive Reachable (words : ObjectId → Nat → UInt64) (defaults : Defaults) : Session → Prop
  | start : Reachable words defaults (start words defaults)
  | step {s : Session} (step : Step) (reached : Reachable words defaults s) :
      Reachable words defaults (run s step).2
  | name {s : Session} (label : String) {id : ObjectId} (present : id < s.world.objects.size)
      (reached : Reachable words defaults s) : Reachable words defaults (s.name label id)

section Run

mutual

theorem kept_interlude {s : Session} {P : World → Prop} (here : P s.world) (step : Step)
    (keeps : ∀ t ∈ s.nested step, P (t.before.interlude t.step).world → P t.after.world) :
    P (s.interlude step).world := by
  cases step with
  | findOrBuildDuring as group request during =>
    unfold nested at keeps
    unfold interlude
    dsimp only at keeps ⊢
    split
    · rename_i listing
      rw [if_pos listing] at keeps
      exact kept_runAll here during keeps
    · exact here
  | _ => exact here

theorem kept_runAll {s : Session} {P : World → Prop} (here : P s.world) (steps : List Step)
    (keeps : ∀ t ∈ s.turns steps, P (t.before.interlude t.step).world → P t.after.world) :
    P (runAll s steps).2.world := by
  cases steps with
  | nil => exact here
  | cons step rest =>
    unfold turns at keeps
    obtain ⟨inner, now, later⟩ : _ ∧ _ ∧ _ := by
      simpa only [List.forall_mem_append, List.forall_mem_cons] using keeps
    rw [runAll]
    exact kept_runAll (now (kept_interlude here step inner)) rest later

end

private theorem closed_interlude (closed : s.Closed) (step : Step) : (s.interlude step).Closed := by
  unfold interlude
  split
  · split
    · exact closed_runAll closed _
    · exact closed
  · exact closed

private theorem answering_run (answering : s.world.Answering) (step : Step) : (run s step).2.world.Answering :=
  (change_run s step).answering
    (kept_interlude answering step fun t _ => (change_run t.before t.step).answering)

private theorem reservoir_runAll {g : ObjectId} {r : Reservoir} (stands : s.world.object g = .reservoir r)
    (steps : List Step) (unobserved : ∀ t ∈ s.turns steps, t.before.observed? t.step ≠ some g) :
    (runAll s steps).2.world.object g = .reservoir r :=
  kept_runAll (P := fun w => w.object g = .reservoir r) stands steps fun t among =>
    (change_run t.before t.step).reservoir_eq (unobserved t among)

private theorem histogram_of_runAll {id : ObjectId} {h : Histogram} (steps : List Step)
    (unshared : ∀ t ∈ s.turns steps, t.before.explicit? t.step ≠ some h.reservoir)
    (present : h.reservoir < s.world.objects.size) (stands : (runAll s steps).2.world.object id = .histogram h) :
    s.world.object id = .histogram h := by
  have old : s.world.objects.size ≤ (runAll s steps).2.world.objects.size ∧
      ((runAll s steps).2.world.object id = .histogram h → s.world.object id = .histogram h) := by
    refine kept_runAll (P := fun w => s.world.objects.size ≤ w.objects.size ∧
      (w.object id = .histogram h → s.world.object id = .histogram h)) ⟨Nat.le_refl _, fun same => same⟩ steps
      fun t among => ?_
    rintro ⟨size_le, before⟩
    have change := change_run t.before t.step
    refine ⟨Nat.le_trans size_le change.size_le, fun there => ?_⟩
    rcases Nat.lt_or_ge id (t.before.interlude t.step).world.objects.size with older | newer
    · exact before (change.old_histogram older there)
    · obtain ⟨-, given | ⟨-, place, -⟩⟩ := change.new_histogram newer there
      · exact absurd given (unshared t among)
      · rw [place] at present
        exact absurd size_le (Nat.not_le_of_lt present)
  exact old.2 stands

end Run

section Reachable

variable {words : ObjectId → Nat → UInt64} {defaults : Defaults}

theorem Reachable.closed (reached : Reachable words defaults s) : s.Closed := by
  induction reached with
  | start => exact closed_start words defaults
  | step step _ ih => exact closed_run ih step
  | name label present _ ih => exact ih.name label present

theorem Reachable.answering (reached : Reachable words defaults s) : s.world.Answering := by
  induction reached with
  | start =>
    intro id h stands
    contradiction
  | step step _ ih => exact answering_run ih step
  | name label present _ ih => exact ih

theorem Reachable.runAll (reached : Reachable words defaults s) (steps : List Step) :
    Reachable words defaults (s.runAll steps).2 := by
  induction steps generalizing s with
  | nil => exact reached
  | cons step rest ih =>
    rw [Session.runAll]
    exact ih (reached.step step)

end Reachable

/-- Histograms are isolated unless they share a reservoir, in every session that can be reached.  One that is
built stands on the reservoir that was given, or has a new one to itself; and in any run, no histogram comes
to stand on a reservoir that is there unless a step gives it.  A run leaves every reservoir that none of its
turns observes as it is, and with it the reports of all histograms that stand on it.  Two histograms that
stand on the same one see the same snapshot, their extractors of one name agree on every snapshot, and their
reports have the same values under common names. -/
theorem histograms_isolated {words : ObjectId → Nat → UInt64} {defaults : Defaults}
    (reached : Reachable words defaults s) :
    (∀ step id h, (s.interlude step).world.objects.size ≤ id → (run s step).2.world.object id = .histogram h →
      s.explicit? step = some h.reservoir ∨
        s.explicit? step = none ∧ Owns s.defaults (s.interlude step).world (run s step).2.world id h) ∧
    (∀ steps id h, (∀ t ∈ s.turns steps, t.before.explicit? t.step ≠ some h.reservoir) →
      h.reservoir < s.world.objects.size → (runAll s steps).2.world.object id = .histogram h →
      s.world.object id = .histogram h) ∧
    (∀ steps g r, s.world.object g = .reservoir r →
      (∀ t ∈ s.turns steps, t.before.observed? t.step ≠ some g) →
      (runAll s steps).2.world.object g = .reservoir r ∧
        ∀ id h, s.world.object id = .histogram h → s.world.ground? h = some g →
          (runAll s steps).2.world.object id = .histogram h ∧
            (runAll s steps).2.world.reportOf h = s.world.reportOf h) ∧
    ∀ id h id' h', s.world.object id = .histogram h → s.world.object id' = .histogram h' →
      s.world.ground? h = s.world.ground? h' →
      s.world.snapshotOf (.histogram h) = s.world.snapshotOf (.histogram h') ∧
      (∀ entry ∈ h.extractors, ∀ entry' ∈ h'.extractors, entry.1 = entry'.1 →
        ∀ snapshot, entry.2.apply snapshot = entry'.2.apply snapshot) ∧
      ∀ report report', s.world.reportOf h = .ok report → s.world.reportOf h' = .ok report' →
        ∀ name ∈ h.metricNames, name ∈ h'.metricNames →
          ∃ value, report.lookup name = some value ∧ report'.lookup name = some value := by
  have closed := reached.closed
  refine ⟨fun step id h new stands => ?_, fun steps id h unshared present stands => ?_,
    fun steps g r stands unobserved => ?_, fun id h id' h' stands stands' same => ?_⟩
  · exact (change_run s step).owns (closed_interlude closed step).world new stands
  · exact histogram_of_runAll steps unshared present stands
  · have kept := reservoir_runAll stands steps unobserved
    have grows := (grows_runAll s steps).world
    refine ⟨kept, fun id h there ground => ⟨?_, ?_⟩⟩
    · have present : id < s.world.objects.size := World.present_of_object there (by simp)
      rw [grows.metric id present (by rw [there]; rfl), there]
    · have points := closed.world.objects id
      rw [there] at points
      exact grows.reportOf_eq closed.world (kept.trans stands.symm) points ground
  · refine ⟨World.snapshotOf_of_ground same, ?_, ?_⟩
    · intro entry present entry' present' named snapshot
      exact reached.answering.apply_eq stands stands' present present' named snapshot
    · intro report report' given given' name named named'
      exact reached.answering.lookup_eq stands stands' same given given' named named'

/-- A request for a histogram with the default metrics. -/
def plainRequest (name : String) (reservoir : Option String) : HistogramRequest :=
  ⟨.text name, reservoir, .null, .bool false⟩

/-- Two histograms with reservoirs of their own, and two on a window that they share. -/
def sharingSession : Session :=
  (runAll (start (fun _ _ => 0) {})
    [.reservoir "window" (.sliding (.int 3)), .buildRecipe "a" (plainRequest "a" none),
      .buildRecipe "b" (plainRequest "b" none), .buildRecipe "c" (plainRequest "c" (some "window")),
      .buildRecipe "d" (plainRequest "d" (some "window"))]).2

def reservoirOf? : Object → Option ObjectId
  | .histogram h => some h.reservoir
  | _ => none

private theorem exists_histogram {object : Object} {place : ObjectId} (stands : reservoirOf? object = some place) :
    ∃ h, object = .histogram h ∧ h.reservoir = place := by
  cases object with
  | histogram h => exact ⟨h, rfl, Option.some.inj stands⟩
  | _ => contradiction

theorem exists_reservoir {object : Object} (observer : object.isObserver) (single : reservoirOf? object = none) :
    ∃ r, object = .reservoir r := by
  cases object with
  | reservoir r => exact ⟨r, rfl⟩
  | _ => contradiction

private theorem interlude_buildRecipe (s : Session) (as : String) (request : HistogramRequest) :
    s.interlude (.buildRecipe as request) = s := rfl

theorem histograms_isolated_sharing :
    Reachable (fun _ _ => 0) {} sharingSession ∧
      (∃ h, (run sharingSession (.buildRecipe "e" (plainRequest "e" none))).2.world.object 8 = .histogram h ∧
        Owns sharingSession.defaults sharingSession.world
          (run sharingSession (.buildRecipe "e" (plainRequest "e" none))).2.world 8 h) ∧
      (∀ value, (runAll sharingSession [.update "a" value]).2.world.object 3 = sharingSession.world.object 3) ∧
      ∃ h h', sharingSession.world.object 5 = .histogram h ∧ sharingSession.world.object 6 = .histogram h' ∧
        sharingSession.world.snapshotOf (.histogram h) = sharingSession.world.snapshotOf (.histogram h') := by
  have reached : Reachable (fun _ _ => 0) {} sharingSession := Reachable.start.runAll _
  obtain ⟨builds, -, keeps, shares⟩ := histograms_isolated reached
  obtain ⟨e, built, -⟩ := exists_histogram (by decide +kernel :
    reservoirOf? ((run sharingSession (.buildRecipe "e" (plainRequest "e" none))).2.world.object 8) = some 7)
  obtain ⟨r, own⟩ := exists_reservoir (by decide +kernel : (sharingSession.world.object 3).isObserver)
    (by decide +kernel)
  obtain ⟨c, stands, place⟩ := exists_histogram
    (by decide +kernel : reservoirOf? (sharingSession.world.object 5) = some 0)
  obtain ⟨d, stands', place'⟩ := exists_histogram
    (by decide +kernel : reservoirOf? (sharingSession.world.object 6) = some 0)
  refine ⟨reached, ⟨e, built, ?_⟩, fun value => ?_, c, d, stands, stands', ?_⟩
  · have ungiven : sharingSession.explicit? (.buildRecipe "e" (plainRequest "e" none)) = none := by decide +kernel
    have new : sharingSession.world.objects.size ≤ 8 := by decide +kernel
    have owns := builds (.buildRecipe "e" (plainRequest "e" none)) 8 e
    rw [interlude_buildRecipe, ungiven] at owns
    refine ((owns new built).resolve_left ?_).2
    intro given
    cases given
  · have target : sharingSession.observed? (.update "a" value) = some 1 := by
      have found : (sharingSession.place "a").toOption.bind sharingSession.world.groundOf? = some 1 := by
        decide +kernel
      exact found
    rw [own]
    refine (keeps [.update "a" value] 3 r own fun t among => ?_).1
    obtain rfl : t = ⟨sharingSession, .update "a" value⟩ := by simpa [turns, nested] using among
    rw [target]
    decide
  · have same : sharingSession.world.ground? c = sharingSession.world.ground? d := by
      rw [World.ground?, World.ground?, place, place']
    exact (shares 5 c 6 d stands stands' same).1

end SampledMetrics.Session
