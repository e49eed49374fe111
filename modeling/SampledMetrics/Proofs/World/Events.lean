import SampledMetrics.Proofs.Correspondence
import SampledMetrics.Proofs.Registry.Interleaving
/-!
Nothing depends on the events told so far.  Worlds that differ in them alone give the same answers, and an
operation leaves worlds behind that again differ in them alone.
-/

set_option autoImplicit false
set_option relaxedAutoImplicit false

namespace SampledMetrics.World

/-- The same objects, the same registry and the same words; the events may differ. -/
def Alike (w v : World) : Prop :=
  ∃ events, v = { w with events }

/-- One result, and worlds that are alike. -/
def AlikeAfter {α : Type} (x y : α × World) : Prop :=
  y.1 = x.1 ∧ x.2.Alike y.2

variable {w v : World}

theorem Alike.refl (w : World) : w.Alike w :=
  ⟨w.events, rfl⟩

theorem Alike.trans {u : World} (first : w.Alike v) (second : v.Alike u) : w.Alike u := by
  obtain ⟨events, rfl⟩ := first
  obtain ⟨events', rfl⟩ := second
  exact ⟨events', rfl⟩

theorem Alike.tell (alike : w.Alike v) (events events' : List Event) :
    (w.tell events).Alike (v.tell events') := by
  obtain ⟨others, rfl⟩ := alike
  exact ⟨_, rfl⟩

theorem alike_tell (w : World) (events : List Event) : w.Alike (w.tell events) :=
  ⟨_, rfl⟩

theorem AlikeAfter.cases {α : Type} {x y : α × World} (after : AlikeAfter x y) :
    ∃ result w v, x = (result, w) ∧ y = (result, v) ∧ w.Alike v := by
  obtain ⟨result, w⟩ := x
  obtain ⟨result', v⟩ := y
  obtain ⟨same, worlds⟩ := after
  obtain rfl : result' = result := same
  exact ⟨result', w, v, rfl, rfl, worlds⟩

theorem Alike.object (alike : w.Alike v) (id : ObjectId) : v.object id = w.object id := by
  obtain ⟨events, rfl⟩ := alike
  rfl

theorem Alike.registry (alike : w.Alike v) : v.registry = w.registry := by
  obtain ⟨events, rfl⟩ := alike
  rfl

theorem Alike.size (alike : w.Alike v) : v.objects.size = w.objects.size := by
  obtain ⟨events, rfl⟩ := alike
  rfl

theorem Alike.words (alike : w.Alike v) : v.systemWords = w.systemWords := by
  obtain ⟨events, rfl⟩ := alike
  rfl

theorem Alike.groundIn (alike : w.Alike v) (steps : Nat) (id : ObjectId) :
    v.groundIn steps id = w.groundIn steps id := by
  induction steps generalizing id with
  | zero => rfl
  | succ steps ih =>
    unfold World.groundIn
    rw [alike.object]
    split
    · exact ih _
    · rfl

theorem Alike.ground? (alike : w.Alike v) (h : Histogram) : v.ground? h = w.ground? h :=
  alike.groundIn chainRoom h.reservoir

theorem Alike.snapshotOf (alike : w.Alike v) (object : Object) : v.snapshotOf object = w.snapshotOf object := by
  unfold World.snapshotOf
  split
  · rw [alike.ground?]
    split
    · rfl
    · rw [alike.object]
  · rfl

theorem Alike.reportOf (alike : w.Alike v) (h : Histogram) : v.reportOf h = w.reportOf h := by
  unfold World.reportOf
  rw [alike.snapshotOf]

theorem Alike.countOf (alike : w.Alike v) (h : Histogram) : v.countOf h = w.countOf h := by
  unfold World.countOf
  rw [alike.ground?]
  split
  · rfl
  · rw [alike.object, alike.object]

theorem Alike.reportAt (alike : w.Alike v) (id : ObjectId) : v.reportAt id = w.reportAt id := by
  unfold World.reportAt
  rw [alike.object, funext alike.reportOf]

private theorem Alike.walk_gather (alike : w.Alike v) (collecting : Bool) (ids : List ObjectId)
    (reports : List (String × Report)) :
    (walk Prod.fst (gather collecting) ids (v, reports)).1 =
        (walk Prod.fst (gather collecting) ids (w, reports)).1 ∧
      (walk Prod.fst (gather collecting) ids (v, reports)).2.2 =
        (walk Prod.fst (gather collecting) ids (w, reports)).2.2 := by
  induction ids generalizing reports with
  | nil => exact ⟨rfl, rfl⟩
  | cons id rest ih =>
    simp only [walk, gather, alike.object, alike.reportAt]
    cases w.object id with
    | histogram h =>
      cases collecting with
      | false => exact ih reports
      | true =>
        cases w.reportAt id with
        | ok entry => exact ih (reports ++ [entry])
        | error failure => exact ⟨rfl, rfl⟩
    | gauge name => exact ih reports
    | _ => exact ⟨rfl, rfl⟩

theorem Alike.collect (alike : w.Alike v) (collecting : Bool) (ids : List ObjectId) :
    v.collect collecting ids = w.collect collecting ids := by
  obtain ⟨result, reports⟩ := alike.walk_gather collecting ids []
  unfold World.collect
  rcases left : walk Prod.fst (gather collecting) ids (v, []) with ⟨_ | _, _, _⟩ <;>
    rcases right : walk Prod.fst (gather collecting) ids (w, []) with ⟨_ | _, _, _⟩ <;>
    rw [left, right] at result reports <;> simp_all

theorem Alike.wantHistogram (alike : w.Alike v) (group name : Value) (id : ObjectId) :
    v.wantHistogram group name id = w.wantHistogram group name id := by
  unfold World.wantHistogram
  rw [alike.object]

theorem Alike.findHistogram (alike : w.Alike v) (group name : Value) :
    v.findHistogram group name = w.findHistogram group name := by
  unfold World.findHistogram
  rw [alike.registry, funext (alike.wantHistogram group name)]

theorem Alike.add (alike : w.Alike v) (object : Object) : AlikeAfter (w.add object) (v.add object) := by
  obtain ⟨events, rfl⟩ := alike
  exact ⟨rfl, events, rfl⟩

theorem Alike.put (alike : w.Alike v) (id : ObjectId) (object : Object) :
    (w.put id object).Alike (v.put id object) := by
  obtain ⟨events, rfl⟩ := alike
  exact ⟨events, rfl⟩

theorem Alike.updateSamples (alike : w.Alike v) (id : ObjectId) (value : Value) :
    AlikeAfter (w.updateSamples id value) (v.updateSamples id value) := by
  rw [updateSamples_eq, updateSamples_eq, alike.object]
  exact ⟨rfl, alike.put id _⟩

theorem Alike.update (alike : w.Alike v) (id : ObjectId) (value : Value) :
    AlikeAfter (w.update id value) (v.update id value) := by
  unfold World.update
  rw [alike.object]
  split
  · rename_i h _
    unfold World.updateHistogram
    rw [alike.object]
    split
    · split
      · rename_i observation _
        unfold World.updateGround
        rw [alike.ground?]
        split
        · exact ⟨rfl, alike⟩
        · exact alike.updateSamples _ _
      · exact ⟨rfl, alike⟩
    · exact ⟨rfl, alike⟩
  · exact alike.updateSamples id value

theorem Alike.make (alike : w.Alike v) (recipe : Recipe) (defaults : Defaults) :
    v.make recipe defaults = w.make recipe defaults := by
  obtain ⟨events, rfl⟩ := alike
  rfl

theorem Alike.settle (alike : w.Alike v) (u : Unstored) : AlikeAfter (w.settle u) (v.settle u) := by
  unfold World.settle
  cases u.ground with
  | given id => exact ⟨rfl, alike⟩
  | fresh r =>
    obtain ⟨place, after⟩ := alike.add (.reservoir r)
    exact ⟨by dsimp only; rw [place], after⟩

theorem Alike.build (alike : w.Alike v) (recipe : Recipe) (defaults : Defaults) :
    AlikeAfter (w.build recipe defaults) (v.build recipe defaults) := by
  rw [build_eq_make, build_eq_make, alike.make]
  rcases w.make recipe defaults with ⟨_ | u, events⟩
  · exact ⟨rfl, alike.tell events events⟩
  · obtain ⟨same, after⟩ := alike.settle u
    exact ⟨congrArg Except.ok same, after.tell events events⟩

theorem Alike.bind (alike : w.Alike v) (group : Value) (name : Option Value) (id : ObjectId) :
    World.Alike { w with registry := w.registry.bind group name id }
      { v with registry := v.registry.bind group name id } := by
  obtain ⟨events, rfl⟩ := alike
  exact ⟨events, rfl⟩

theorem Alike.store (alike : w.Alike v) (group name : Value) (u : Unstored) :
    AlikeAfter (w.store group name u) (v.store group name u) := by
  obtain ⟨same, after⟩ := alike.settle u
  unfold World.store
  dsimp only
  rw [same, after.registry]
  split
  · exact ⟨after.wantHistogram group name _, after⟩
  · obtain ⟨place, added⟩ := after.add (.histogram (w.settle u).1)
    rw [place]
    exact ⟨rfl, (added.bind group (some name) _).tell _ _⟩

theorem Alike.buildAndBind (alike : w.Alike v) (group : Value) (recipe : Recipe) (defaults : Defaults) :
    AlikeAfter (w.buildAndBind group recipe defaults) (v.buildAndBind group recipe defaults) := by
  rw [buildAndBind_eq_store, buildAndBind_eq_store, alike.make]
  rcases w.make recipe defaults with ⟨_ | u, events⟩
  · exact ⟨rfl, alike.tell events events⟩
  · exact (alike.tell events events).store group recipe.name u

theorem Alike.findOrBuild (alike : w.Alike v) (group : Value) (recipe : Recipe) (defaults : Defaults) :
    AlikeAfter (w.findOrBuild group recipe defaults id) (v.findOrBuild group recipe defaults id) := by
  unfold World.findOrBuild
  rw [alike.findHistogram]
  split
  · exact ⟨rfl, alike⟩
  · exact ⟨rfl, alike⟩
  · unfold World.listBuildAndBind
    split
    · exact ⟨rfl, alike⟩
    · exact alike.buildAndBind group _ defaults

theorem Alike.register (alike : w.Alike v) (group : Value) (id : ObjectId) :
    AlikeAfter (w.register group id) (v.register group id) := by
  obtain ⟨events, rfl⟩ := alike
  unfold World.register
  dsimp only
  rw [show World.object { w with events := events } id = w.object id from rfl]
  split
  · exact ⟨rfl, events, rfl⟩
  · split
    · exact ⟨rfl, events, rfl⟩
    · exact ⟨rfl, events, rfl⟩
    · split
      · exact ⟨rfl, events, rfl⟩
      · exact ⟨rfl, events, rfl⟩
      · exact ⟨rfl, _, rfl⟩

end SampledMetrics.World
