import SampledMetrics.Proofs.Session.Erasure
import SampledMetrics.Proofs.Session.Isolation
import SampledMetrics.Proofs.World.Admission
/-!
What the reservoirs of a session hold.  As long as stores that keep whatever they are given are fed by
histograms only, every sample is a number that can be ordered.  Main statement: a snapshot is then always
given, with the numbers held in ascending order by their exact values, and equal ones as they came.
-/

set_option autoImplicit false
set_option relaxedAutoImplicit false

namespace SampledMetrics

open World (Admits)

/-- Whether a turn hands no observation directly to a store that keeps whatever it is given. -/
def Turn.sparesStores (t : Turn) : Bool :=
  (t.before.fed? t.step).all fun id => !(t.before.world.object id).isKeeping

namespace Session

variable {s : Session}

private theorem admits_updateEach {w : World} (admits : w.Admits) {id : ObjectId}
    (spared : (w.object id).isKeeping = false) (values : List (Except Failure Value)) :
    (updateEach w id values).2.Admits := by
  induction values generalizing w with
  | nil => exact admits
  | cons value rest ih =>
    cases value with
    | error failure => exact admits
    | ok value =>
      have updated := admits.update spared value
      have kind := (w.isKeeping_update id value).trans spared
      rw [updateEach]
      split
      · rename_i w' same
        rw [same] at updated kind
        exact ih updated kind
      · rename_i failure w' same
        rw [same] at updated
        exact updated

private theorem admitted_of_makeReservoir {request : ReservoirRequest} {r : Reservoir}
    (made : s.makeReservoir request = .ok r) : r.Admitted := by
  cases request with
  | uniform size seed => exact Reservoir.admitted_of_makeUniform made
  | sliding size => exact (Reservoir.BuiltIn.sliding made).measured.admitted
  | keeping claimedCount =>
    obtain rfl := Except.ok.inj made
    intro v present
    cases present

theorem Operation.admits {explicit? fed? : Option ObjectId} {w : World} (operation : Operation s explicit? fed? w)
    (admits : s.world.Admits) (spared : ∀ id, fed? = some id → (s.world.object id).isKeeping = false) :
    w.Admits := by
  cases operation with
  | kept left => exact admits.congr left
  | made request r made left =>
    have held : Object.Admitted (.reservoir r) := admitted_of_makeReservoir made
    exact (admits.add held).congr left
  | added object other empty left =>
    refine (admits.add ?_).congr left
    cases object with
    | reservoir r => exact absurd rfl (empty r)
    | _ => trivial
  | chosen id old new stood left => exact (admits.put id (show Object.Admitted (.draft new) from trivial)).congr left
  | fed id values target left => exact (admits_updateEach admits (spared id target) values).congr left
  | built built => exact admits.built built

private theorem admits_run {step : Step} (spares : (Turn.mk s step).sparesStores)
    (admits : (s.interlude step).world.Admits) : (run s step).2.world.Admits := by
  refine (operation_run s step).admits admits fun id target => ?_
  have here : (s.world.object id).isKeeping = false := by
    unfold Turn.sparesStores at spares
    simpa [target] using spares
  cases step with
  | findOrBuildDuring as group request during => cases target
  | _ => exact here

/-- Sessions that steps lead to, none of which hands an observation directly to a store that keeps whatever it
is given; names can also be given to objects that are there. -/
inductive Fed (words : ObjectId → Nat → UInt64) (defaults : Defaults) : Session → Prop
  | start : Fed words defaults (start words defaults)
  | step {s : Session} (step : Step) (spares : ∀ t ∈ s.turns [step], t.sparesStores)
      (fed : Fed words defaults s) : Fed words defaults (run s step).2
  | name {s : Session} (label : String) {id : ObjectId} (present : id < s.world.objects.size)
      (fed : Fed words defaults s) : Fed words defaults (s.name label id)

section Fed

variable {words : ObjectId → Nat → UInt64} {defaults : Defaults}

theorem Fed.admits (fed : Fed words defaults s) : s.world.Admits := by
  induction fed with
  | start => exact World.admits_empty words
  | @step s step spares _ ih =>
    have kept := kept_runAll (P := Admits) ih [step] fun t among => admits_run (spares t among)
    rwa [runAll_cons] at kept
  | name label present _ ih => exact ih

theorem Fed.runAll (fed : Fed words defaults s) {steps : List Step}
    (spares : ∀ t ∈ s.turns steps, t.sparesStores) : Fed words defaults (s.runAll steps).2 := by
  induction steps generalizing s with
  | nil => exact fed
  | cons step rest ih =>
    have here : s.turns [step] = s.nested step ++ [⟨s, step⟩] := by simp only [turns]
    have split : s.turns (step :: rest) = s.turns [step] ++ (run s step).2.turns rest := by
      simp only [turns, List.append_assoc, List.singleton_append]
    rw [split] at spares
    obtain ⟨first, later⟩ := List.forall_mem_append.mp spares
    rw [runAll_cons]
    exact ih (fed.step step first) later

/-- In every session in which stores that keep whatever they are given are fed by histograms only, a reservoir
holds numbers other than not-a-number.  A snapshot of it is always given, also by the histograms that stand
on it, and it holds the same numbers, each not after the next, and equal ones in the order of the slots.
Numbers are compared by their exact values, whatever their kinds, so that any two can be compared and
the order is transitive. -/
theorem samples_ordered (fed : Fed words defaults s) :
    (∀ g r, s.world.object g = .reservoir r → ∃ numbers ordered : List Number,
      r.samples = numbers.map .number ∧ (∀ x ∈ numbers, x.isNaN = false) ∧
      r.snapshot = .ok ⟨ordered.map .number⟩ ∧
      (∀ h, s.world.ground? h = some g → s.world.snapshotOf (.histogram h) = .ok ⟨ordered.map .number⟩) ∧
      (∀ h : Histogram, h.reservoir = g → s.world.ground? h = some g) ∧
      ordered.Perm numbers ∧ (ordered.Pairwise fun x y => x.le y) ∧
      ∀ x ∈ numbers, ordered.filter x.same = numbers.filter x.same) ∧
    (∀ x y : Number, x.isNaN = false → y.isNaN = false → (x.le y ↔ x.value ≤ y.value) ∧
      (Value.number x).precedes (.number y) = .ok (!y.le x)) ∧
    (∀ x : Number, x.isNaN = false → x.le x) ∧
    (∀ x y : Number, x.isNaN = false → y.isNaN = false → x.le y ∨ y.le x) ∧
    ∀ x y z : Number, x.le y → y.le z → x.le z := by
  refine ⟨?_, ?_, ?_, ?_, ?_⟩
  · intro g r stands
    have admitted : r.Admitted := by
      have here := fed.admits g
      rwa [stands] at here
    have measured := r.observations_measured
    have given := admitted.snapshot_eq
    refine ⟨r.observations, Number.sorted r.observations, admitted.samples_eq, measured, given, ?_, ?_,
      Number.sorted_perm _, Number.sorted_pairwise measured, fun x _ => Number.filter_sorted measured x⟩
    · intro h ground
      have reached : s.world.snapshotOf (.histogram h) = r.snapshot := by
        unfold World.snapshotOf
        simp only [ground, stands, World.snapshotOfGround]
      exact reached.trans given
    · rintro h rfl
      exact World.ground?_of_reservoir stands
  · intro x y hx hy
    exact ⟨Number.le_iff_value hx hy, Number.precedes_number hx hy⟩
  · intro x hx
    exact Number.le_refl hx
  · intro x y hx hy
    have total := Number.le_total (Number.place?_isSome_of_not_isNaN hx) (Number.place?_isSome_of_not_isNaN hy)
    simpa using total
  · intro x y z first second
    exact Number.le_trans first second

end Fed

/-- A store that keeps whatever it is given, after observations through a histogram that stands on it. -/
def storeSession : Session :=
  (runAll (start (fun _ _ => 0) {})
    [.reservoir "store" (.keeping none), .buildRecipe "latency" (plainRequest "latency" (some "store")),
      .update "latency" (.number (.float (Binary64.ofInt 2))), .update "latency" (.number (.int 2)),
      .update "latency" (.text "slow"), .update "latency" (.number (.int 1))]).2

def held : Object → Nat
  | .reservoir r => r.samples.length
  | _ => 0

theorem samples_ordered_store :
    Fed (fun _ _ => 0) {} storeSession ∧
      ∃ (r : Reservoir) (ordered : List Number), storeSession.world.object 0 = .reservoir r ∧
        r.samples.length = 3 ∧ r.snapshot = .ok ⟨ordered.map .number⟩ ∧ ordered.length = 3 ∧
        ordered.Pairwise fun x y => x.le y := by
  have fed : Fed (fun _ _ => 0) {} storeSession := Fed.start.runAll (by decide +kernel)
  obtain ⟨r, stands⟩ := exists_reservoir (by decide +kernel : (storeSession.world.object 0).isObserver)
    (by decide +kernel)
  have three : held (storeSession.world.object 0) = 3 := by decide +kernel
  rw [stands] at three
  obtain ⟨numbers, ordered, samples, -, given, -, -, perm, ascending, -⟩ := (samples_ordered fed).1 0 r stands
  have many : numbers.length = 3 := by
    rw [← List.length_map, ← samples]
    exact three
  exact ⟨fed, r, ordered, stands, three, given, perm.length_eq.trans many, ascending⟩

end Session

end SampledMetrics
