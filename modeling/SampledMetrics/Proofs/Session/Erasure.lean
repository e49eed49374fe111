import SampledMetrics.Proofs.Session.Closed
import SampledMetrics.Proofs.World.Agreement
/-!
Observations beside questions and refusals.  Main statement: when every question, every snapshot taken and
every update that was refused is left out of a run, the objects come out as they did, with their samples,
counts and streams, and the updates that remain are answered as they were.
-/

set_option autoImplicit false
set_option relaxedAutoImplicit false

namespace SampledMetrics

/-- Updates, snapshots under some labels, and questions; no update is for one of these labels. -/
def Step.isTrial (labels : List String) : Step → Bool
  | .update on _ => !labels.contains on
  | .take _ as => labels.contains as
  | step => step.isQuestion

def accepted : Step × Answer → Bool
  | (.update _ _, .done) => true
  | _ => false

private theorem Step.isTrial_cases {labels : List String} {step : Step} (trial : step.isTrial labels) :
    (∃ on value, step = .update on value ∧ on ∉ labels) ∨
      (∃ on as, step = .take on as ∧ as ∈ labels) ∨ step.isQuestion := by
  cases step with
  | update on value => exact .inl ⟨on, value, rfl, by simpa [isTrial] using trial⟩
  | take on as => exact .inr (.inl ⟨on, as, rfl, by simpa [isTrial] using trial⟩)
  | _ => exact .inr (.inr trial)

private theorem not_accepted_of_isQuestion {step : Step} (asks : step.isQuestion) (answer : Answer) :
    accepted (step, answer) = false := by
  cases step <;> first | rfl | contradiction

namespace Session

variable {s b : Session} {bound : Nat} {labels : List String}

private theorem run_update_of_ok {on : String} {id : ObjectId} {value : Value} (placed : s.place on = .ok id)
    (observer : (s.world.object id).isObserver) (given : (s.world.update id value).1 = .ok ()) :
    run s (.update on value) = (.done, { s with world := (s.world.update id value).2 }) := by
  rcases updated : s.world.update id value with ⟨result, w⟩
  rw [updated] at given
  obtain rfl : result = .ok () := given
  simp [run, observe, placed, changing, bind, Except.bind, observer, updateEach, updated, pure, Except.pure]

private theorem run_update_cases (s : Session) (on : String) (value : Value) :
    (∃ failure, run s (.update on value) = (.refused failure, s)) ∨
      ∃ id, s.place on = .ok id ∧ (s.world.object id).isObserver ∧
        (s.world.update id value).1 = .ok () ∧
        run s (.update on value) = (.done, { s with world := (s.world.update id value).2 }) := by
  cases placed : s.place on with
  | error failure =>
    exact .inl ⟨failure, by simp [run, observe, placed, changing, bind, Except.bind]⟩
  | ok id =>
    cases observer : (s.world.object id).isObserver with
    | false =>
      refine .inl ⟨.lacks (s.world.object id).kindName "update", ?_⟩
      simp [run, observe, placed, changing, bind, Except.bind, observer, Object.lacking]
    | true =>
      cases given : (s.world.update id value).1 with
      | ok => exact .inr ⟨id, rfl, observer, given, run_update_of_ok placed observer given⟩
      | error failure =>
        have updated : s.world.update id value = (.error failure, s.world) :=
          Prod.ext given (World.update_refused given)
        refine .inl ⟨failure, ?_⟩
        simp [run, observe, placed, changing, bind, Except.bind, observer, updateEach, updated, pure,
          Except.pure]

/-- Two sessions that agree below a bound, and in which names other than some labels stand for the same
places there. -/
structure AgreesBelow (bound : Nat) (labels : List String) (s b : Session) : Prop where
  world : World.AgreesBelow bound s.world b.world
  registry : b.world.registry = s.world.registry
  names : ∀ on ∉ labels, b.names.lookup on = s.names.lookup on ∧
    ∀ id, s.names.lookup on = some id → id < bound

theorem Closed.agreesBelow (closed : s.Closed) (labels : List String) :
    AgreesBelow s.world.objects.size labels s s where
  world := closed.world.agreesBelow
  registry := rfl
  names := by
    intro on _
    refine ⟨rfl, fun id found => ?_⟩
    obtain ⟨entry, member, rfl⟩ := mem_of_lookup found
    exact closed.names entry member

theorem AgreesBelow.take (agree : AgreesBelow bound labels s b) (on : String) {as : String}
    (label : as ∈ labels) : AgreesBelow bound labels (run s (.take on as)).2 b := by
  unfold run
  refine changing_of (P := fun s' => AgreesBelow bound labels s' b) agree fun result taken => ?_
  obtain ⟨object, -, taken⟩ := Failure.bind_eq_ok_iff.mp taken
  obtain ⟨snapshot, -, taken⟩ := Failure.bind_eq_ok_iff.mp taken
  obtain rfl := Except.ok.inj taken
  refine ⟨agree.world.add _, agree.registry, fun on other => ?_⟩
  have different : on ≠ as := fun same => other (same ▸ label)
  simp only [addNamed, Session.name]
  rw [lookup_putEntry_of_ne different]
  exact agree.names on other

theorem AgreesBelow.update (agree : AgreesBelow bound labels s b) {on : String} (other : on ∉ labels)
    {value : Value} {id : ObjectId} (placed : s.place on = .ok id)
    (observer : (s.world.object id).isObserver) (given : (s.world.update id value).1 = .ok ()) :
    ∃ b', run b (.update on value) = (.done, b') ∧
      AgreesBelow bound labels { s with world := (s.world.update id value).2 } b' := by
  obtain ⟨same, below⟩ := agree.names on other
  have found := place_eq_ok_iff.mp placed
  have below := below id found
  obtain ⟨given', agree'⟩ := agree.world.update below value
  have placed' : b.place on = .ok id := place_eq_ok_iff.mpr (same.trans found)
  have observer' : (b.world.object id).isObserver := by rwa [agree.world.same id below]
  refine ⟨_, run_update_of_ok placed' observer' (given'.trans given), agree', ?_, agree.names⟩
  rw [(World.quiet_update _ _ _).registry, (World.quiet_update _ _ _).registry]
  exact agree.registry

theorem runAll_cons (s : Session) (step : Step) (rest : List Step) :
    runAll s (step :: rest) =
      ((run s step).1 :: (runAll (run s step).2 rest).1, (runAll (run s step).2 rest).2) := by
  rw [runAll]

/-- The updates of a run that were accepted, with their answers. -/
def acceptedIn (s : Session) (steps : List Step) : List (Step × Answer) :=
  (steps.zip (runAll s steps).1).filter accepted

private theorem acceptedIn_cons_of_not {step : Step} (rest : List Step)
    (dropped : accepted (step, (run s step).1) = false) :
    s.acceptedIn (step :: rest) = (run s step).2.acceptedIn rest := by
  simp [acceptedIn, runAll_cons, dropped]

private theorem acceptedIn_cons_of_accepted {step : Step} (rest : List Step)
    (kept : accepted (step, (run s step).1)) :
    s.acceptedIn (step :: rest) = (step, (run s step).1) :: (run s step).2.acceptedIn rest := by
  simp [acceptedIn, runAll_cons, kept]

/-- Left to themselves, the updates that are accepted in one of two sessions that agree are answered in
the other as they were, and the sessions still agree. -/
private theorem AgreesBelow.runAll_accepted (agree : AgreesBelow bound labels s b) {steps : List Step}
    (trials : ∀ step ∈ steps, step.isTrial labels) :
    (runAll b ((s.acceptedIn steps).map Prod.fst)).1 = (s.acceptedIn steps).map Prod.snd ∧
      AgreesBelow bound labels (runAll s steps).2 (runAll b ((s.acceptedIn steps).map Prod.fst)).2 := by
  -- A step that is left out moves the first session alone, and has to keep the agreement by itself.
  induction steps generalizing s b with
  | nil => exact ⟨rfl, agree⟩
  | cons step rest ih =>
    obtain ⟨trial, trials'⟩ := List.forall_mem_cons.mp trials
    have unkept : accepted (step, (run s step).1) = false → AgreesBelow bound labels (run s step).2 b →
        (runAll b ((s.acceptedIn (step :: rest)).map Prod.fst)).1 =
            (s.acceptedIn (step :: rest)).map Prod.snd ∧
          AgreesBelow bound labels (runAll s (step :: rest)).2
            (runAll b ((s.acceptedIn (step :: rest)).map Prod.fst)).2 := by
      intro dropped agree
      rw [acceptedIn_cons_of_not rest dropped, runAll_cons]
      exact ih agree trials'
    rcases Step.isTrial_cases trial with ⟨on, value, rfl, other⟩ | ⟨on, as, rfl, label⟩ | asks
    · rcases run_update_cases s on value with ⟨failure, ran⟩ | ⟨id, placed, observer, given, ran⟩
      · refine unkept (by rw [ran]; rfl) ?_
        rw [ran]
        exact agree
      · obtain ⟨b', ran', agree'⟩ := agree.update other placed observer given
        rw [acceptedIn_cons_of_accepted rest (by rw [ran]; rfl), ran, List.map_cons, List.map_cons,
          runAll_cons, runAll_cons, ran, ran']
        obtain ⟨answers, agree''⟩ := ih agree' trials'
        exact ⟨by rw [answers], agree''⟩
    · exact unkept rfl (agree.take on label)
    · refine unkept (not_accepted_of_isQuestion asks _) ?_
      rw [run_of_isQuestion asks]
      exact agree

private theorem checks_run {step : Step} (checks : s.world.Checks) (trial : step.isTrial labels) :
    (run s step).2.world.Checks := by
  rcases Step.isTrial_cases trial with ⟨on, value, rfl, -⟩ | ⟨on, as, rfl, -⟩ | asks
  · rcases run_update_cases s on value with ⟨failure, ran⟩ | ⟨id, -, -, -, ran⟩
    · rw [ran]
      exact checks
    · rw [ran]
      exact checks.update id value
  · unfold run
    refine changing_of (P := fun s' => s'.world.Checks) checks fun result taken => ?_
    obtain ⟨object, -, taken⟩ := Failure.bind_eq_ok_iff.mp taken
    obtain ⟨snapshot, -, taken⟩ := Failure.bind_eq_ok_iff.mp taken
    obtain rfl := Except.ok.inj taken
    exact checks.add (by simp)
  · rw [run_of_isQuestion asks]
    exact checks

private theorem refused_of_unaccepted (checks : s.world.Checks) {steps : List Step}
    (trials : ∀ step ∈ steps, step.isTrial labels) {on : String} {value : Value} {answer : Answer}
    (member : (.update on value, answer) ∈ steps.zip (runAll s steps).1)
    (unaccepted : observation? value = none) : ∃ failure, answer = .refused failure := by
  induction steps generalizing s with
  | nil => simp at member
  | cons step rest ih =>
    obtain ⟨trial, trials⟩ := List.forall_mem_cons.mp trials
    rw [runAll_cons, List.zip_cons_cons] at member
    rcases List.mem_cons.mp member with here | later
    · obtain ⟨rfl, rfl⟩ := Prod.mk.inj here
      rcases run_update_cases s on value with ⟨failure, ran⟩ | ⟨id, -, -, given, -⟩
      · exact ⟨failure, by rw [ran]⟩
      · obtain ⟨failure, refused⟩ := checks.update_unaccepted id unaccepted
        rw [given] at refused
        contradiction
    · exact ih (checks_run checks trial) trials later

/-- Observations in any session, beside questions, snapshots and updates that are refused.  Without all of
these the accepted updates are answered as before, and every object that was there comes out as before.
The values that are no observations are among those refused, unless the session has a store that takes
every value. -/
theorem runAll_acceptedIn (words : ObjectId → Nat → UInt64) (defaults : Defaults)
    (setup steps : List Step) (labels : List String) (trials : ∀ step ∈ steps, step.isTrial labels) :
    let s := (runAll (start words defaults) setup).2
    let full := runAll s steps
    let bare := runAll s ((s.acceptedIn steps).map Prod.fst)
    bare.1 = (s.acceptedIn steps).map Prod.snd ∧
      (∀ id < s.world.objects.size, bare.2.world.object id = full.2.world.object id) ∧
      bare.2.world.registry = full.2.world.registry ∧
      (s.world.Checks → ∀ on value answer, (.update on value, answer) ∈ steps.zip full.1 →
        observation? value = none → ∃ failure, answer = .refused failure) := by
  intro s full bare
  have closed : s.Closed := closed_runAll (closed_start words defaults) setup
  obtain ⟨answers, agree⟩ := (closed.agreesBelow labels).runAll_accepted trials
  exact ⟨answers, agree.world.same, agree.registry,
    fun checks on value answer member => refused_of_unaccepted checks trials member⟩

def windowSetup : List Step :=
  [.reservoir "r" (.sliding (.int 2)), .buildRecipe "h" ⟨.text "h", some "r", .null, .bool false⟩]

def windowSession : Session :=
  (runAll (start (fun _ _ => 0) {}) windowSetup).2

/-- Three observations among a truth value, a text, a report and a snapshot that is asked for its size. -/
def mixedTrials : List Step :=
  [.update "h" (.int 1), .update "h" (.bool true), .metrics "h", .update "r" (.text "x"),
    .update "r" (.int 2), .take "r" "snapshot", .ask "snapshot" ⟨"size", []⟩, .update "h" (.int 3)]

/-- Three updates are accepted; without the rest they are answered as before and leave the same, and the truth
value and the text are among what is refused. -/
theorem runAll_acceptedIn_window :
    let full := runAll windowSession mixedTrials
    let bare := runAll windowSession ((windowSession.acceptedIn mixedTrials).map Prod.fst)
    (windowSession.acceptedIn mixedTrials).length = 3 ∧ windowSession.world.objects.size = 2 ∧
      bare.1 = (windowSession.acceptedIn mixedTrials).map Prod.snd ∧
      (∀ id < windowSession.world.objects.size, bare.2.world.object id = full.2.world.object id) ∧
      bare.2.world.registry = full.2.world.registry ∧
      ∀ on value answer, (.update on value, answer) ∈ mixedTrials.zip full.1 →
        observation? value = none → ∃ failure, answer = .refused failure := by
  have kept : (windowSession.acceptedIn mixedTrials).length = 3 := by decide +kernel
  have size : windowSession.world.objects.size = 2 := rfl
  have checks : windowSession.world.Checks := by
    rintro (_ | _ | id) store stands
    · cases stands
    · cases stands
    · cases stands
  have run := runAll_acceptedIn (fun _ _ => 0) {} windowSetup mixedTrials ["snapshot"] (by decide)
  rw [← windowSession] at run
  generalize windowSession = s at kept size checks run ⊢
  obtain ⟨answers, objects, registry, refused⟩ := run
  exact ⟨kept, size, answers, objects, registry, refused checks⟩

end Session

end SampledMetrics
