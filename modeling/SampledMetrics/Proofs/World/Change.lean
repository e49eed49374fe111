import SampledMetrics.Proofs.Histogram.Spelling
import SampledMetrics.Proofs.World.Agreement
/-!
What one operation does to the objects of a world.  It adds an object, or puts another one in the place of a
draft or of a reservoir, or builds a histogram and perhaps stores it.  Main statements: an operation leaves
every reservoir as it is but the one that it observes; and a histogram that it stores stands on the object
that was given, or on a reservoir that no other histogram has.
-/

set_option autoImplicit false
set_option relaxedAutoImplicit false

namespace SampledMetrics

namespace World

variable {w w' : World}

theorem object_congr (same : w'.objects = w.objects) (id : ObjectId) : w'.object id = w.object id := by
  unfold object
  rw [same]

private theorem object_of_le {id : ObjectId} (absent : w.objects.size ≤ id) : w.object id = default := by
  simp [object, absent]

/-- What observations for the object at a place come to: the object itself, or what a histogram stands on. -/
def groundOf? (w : World) (id : ObjectId) : Option ObjectId :=
  match w.object id with
  | .histogram h => w.ground? h
  | _ => some id

section Observation

variable {g : ObjectId} {old new : Reservoir}

private theorem groundIn_put (stood : w.object g = .reservoir old) (steps : Nat) (id : ObjectId) :
    groundIn steps (w.put g (.reservoir new)) id = groundIn steps w id := by
  induction steps generalizing id with
  | zero => rfl
  | succ steps ih =>
    unfold groundIn
    rw [object_put]
    by_cases here : id = g ∧ g < w.objects.size
    · rw [if_pos here, here.1, stood]
    · rw [if_neg here]
      cases w.object id with
      | histogram h => exact ih h.reservoir
      | _ => rfl

private theorem groundOf?_eq (w : World) (id : ObjectId) : w.groundOf? id = groundIn (chainRoom + 1) w id := by
  unfold groundOf? ground? groundIn
  rfl

private theorem groundOf?_put (stood : w.object g = .reservoir old) (id : ObjectId) :
    (w.put g (.reservoir new)).groundOf? id = w.groundOf? id := by
  rw [groundOf?_eq, groundOf?_eq, groundIn_put stood]

/-- Observations for the object at a place change nothing, or the reservoir that they come to and nothing
else. -/
def Observes (id : ObjectId) (w w' : World) : Prop :=
  w' = w ∨ ∃ g old new, w.groundOf? id = some g ∧ w.object g = .reservoir old ∧
    w' = w.put g (.reservoir new)

theorem Observes.refl (id : ObjectId) (w : World) : Observes id w w := Or.inl rfl

theorem Observes.trans {w'' : World} {id : ObjectId} (earlier : Observes id w w') (later : Observes id w' w'') :
    Observes id w w'' := by
  rcases earlier with rfl | ⟨g, old, middle, reached, stood, rfl⟩
  · exact later
  · refine Or.inr ⟨g, old, ?_⟩
    rcases later with same | ⟨g', _, new, reached', -, same⟩
    · exact ⟨middle, reached, stood, same⟩
    · rw [groundOf?_put stood, reached] at reached'
      obtain rfl := Option.some.inj reached'
      exact ⟨new, reached, stood, by rw [same, put_put]⟩

private theorem updateSamples_cases (w : World) (id : ObjectId) (value : Value) :
    (w.updateSamples id value).2 = w ∨
      ∃ old new, w.object id = .reservoir old ∧ (w.updateSamples id value).2 = w.put id (.reservoir new) := by
  rw [updateSamples_eq]
  cases stands : w.object id with
  | reservoir r => exact Or.inr ⟨r, (r.update value).2, rfl, rfl⟩
  | _ =>
    refine Or.inl ?_
    have same := put_object w id
    rw [stands] at same
    exact same

theorem observes_update (w : World) (id : ObjectId) (value : Value) : Observes id w (w.update id value).2 := by
  unfold update Observes groundOf?
  cases stands : w.object id with
  | histogram h =>
    dsimp only
    unfold updateHistogram updateGround
    split
    · split
      · split
        · exact Or.inl rfl
        · rename_i ground reached
          rcases w.updateSamples_cases ground _ with same | ⟨old, new, stood, changed⟩
          · exact Or.inl same
          · exact Or.inr ⟨ground, old, new, reached, stood, changed⟩
      · exact Or.inl rfl
    · exact Or.inl rfl
  | _ =>
    dsimp only
    rcases w.updateSamples_cases id value with same | ⟨old, new, stood, changed⟩
    · exact Or.inl same
    · exact Or.inr ⟨id, old, new, rfl, stood, changed⟩

end Observation

/-- What one operation does to the objects.  Histograms are built with the defaults `d`, on `explicit?` if it
gives an object, and observations come to `observed?`.  A histogram that is built and not stored may leave a
reservoir behind. -/
inductive Change (d : Defaults) (explicit? observed? : Option ObjectId) (w w' : World) : Prop
  | kept (left : w'.objects = w.objects)
  | added (object : Object) (plain : ∀ h, object ≠ .histogram h) (left : w'.objects = (w.add object).2.objects)
  | chosen (id : ObjectId) (old new : HistogramDraft) (stood : w.object id = .draft old)
      (left : w'.objects = (w.put id (.draft new)).objects)
  | observed (id : ObjectId) (old new : Reservoir) (target : observed? = some id)
      (stood : w.object id = .reservoir old) (left : w'.objects = (w.put id (.reservoir new)).objects)
  | discarded (v : World) (recipe : Recipe) (u : Unstored) (events : List Event)
      (made : v.make recipe d = (.ok u, events)) (left : w'.objects = (w.settle u).2.objects)
  | stored (v : World) (recipe : Recipe) (u : Unstored) (events : List Event)
      (made : v.make recipe d = (.ok u, events)) (given : recipe.reservoir = explicit?)
      (left : w'.objects = ((w.settle u).2.add (.histogram (w.settle u).1)).2.objects)

/-- The operations among these that build a histogram. -/
inductive Built (d : Defaults) (explicit? : Option ObjectId) (w w' : World) : Prop
  | kept (left : w'.objects = w.objects)
  | discarded (v : World) (recipe : Recipe) (u : Unstored) (events : List Event)
      (made : v.make recipe d = (.ok u, events)) (left : w'.objects = (w.settle u).2.objects)
  | stored (v : World) (recipe : Recipe) (u : Unstored) (events : List Event)
      (made : v.make recipe d = (.ok u, events)) (given : recipe.reservoir = explicit?)
      (left : w'.objects = ((w.settle u).2.add (.histogram (w.settle u).1)).2.objects)

section Change

variable {d : Defaults} {recipe : Recipe} {explicit? observed? : Option ObjectId} {g : ObjectId}
  {r : Reservoir}

theorem objects_register (w : World) (group : Value) (id : ObjectId) :
    (w.register group id).2.objects = w.objects := by
  unfold register
  split
  · rfl
  · dsimp only
    split
    · rfl
    · rfl
    · split
      · rfl
      · rfl
      · rfl

theorem build_cases (w : World) (recipe : Recipe) (d : Defaults) :
    ((w.build recipe d).2.objects = w.objects ∧ ∃ failure, (w.build recipe d).1 = .error failure) ∨
      ∃ u events, w.make recipe d = (.ok u, events) ∧ (w.build recipe d).1 = .ok (w.settle u).1 ∧
        (w.build recipe d).2.objects = (w.settle u).2.objects := by
  rw [build_eq_make]
  rcases w.make recipe d with ⟨failure | u, events⟩
  · exact Or.inl ⟨rfl, failure, rfl⟩
  · exact Or.inr ⟨u, events, rfl, rfl, rfl⟩

private theorem built_store {v : World} {u : Unstored} {events : List Event} (w : World) (told : List Event)
    (group : Value) (made : v.make recipe d = (.ok u, events)) :
    Built d recipe.reservoir w ((w.tell told).store group recipe.name u).2 := by
  unfold store
  rw [settle_tell]
  dsimp only
  split
  · exact .discarded v recipe u events made rfl
  · exact .stored v recipe u events made rfl rfl

theorem built_buildAndBind (w : World) (group : Value) (recipe : Recipe) (d : Defaults) :
    Built d recipe.reservoir w (w.buildAndBind group recipe d).2 := by
  rw [buildAndBind_eq_store]
  rcases made : w.make recipe d with ⟨failure | u, events⟩
  · exact .kept rfl
  · exact built_store w events group made

theorem built_findOrBuild (w : World) (group : Value) (recipe : Recipe) (d : Defaults) :
    Built d recipe.reservoir w (w.findOrBuild group recipe d id).2 := by
  rcases findOrBuild_cases w group recipe d with ⟨failure, same⟩ | ⟨metric, -, same⟩ | ⟨plain, asList, same⟩
  · rw [same]
    exact .kept rfl
  · rw [same]
    exact .kept rfl
  · rw [same, ← (listed_spec asList).2.1]
    exact built_buildAndBind w group plain d

theorem Built.change (built : Built d explicit? w w') : Change d explicit? observed? w w' := by
  cases built with
  | kept left => exact .kept left
  | discarded v recipe u events made left => exact .discarded v recipe u events made left
  | stored v recipe u events made given left => exact .stored v recipe u events made given left

theorem Change.size_le (change : Change d explicit? observed? w w') : w.objects.size ≤ w'.objects.size := by
  cases change with
  | kept left => rw [left]
  | added object _ left =>
    rw [left, size_add]
    exact Nat.le_succ _
  | chosen id old new _ left => rw [left, size_put]
  | observed id old new _ _ left => rw [left, size_put]
  | discarded v recipe u events _ left =>
    rw [left]
    exact (quiet_settle w u).size_le
  | stored v recipe u events _ _ left =>
    rw [left, size_add]
    exact Nat.le_succ_of_le (quiet_settle w u).size_le

theorem Change.reservoir_eq (change : Change d explicit? observed? w w') (unobserved : observed? ≠ some g)
    (stands : w.object g = .reservoir r) : w'.object g = .reservoir r := by
  have present := present_of_object stands (by simp)
  rw [← stands]
  cases change with
  | kept left => rw [object_congr left]
  | added object _ left => rw [object_congr left, object_add_of_lt present]
  | chosen id old new stood left =>
    rw [object_congr left, object_put_of_ne]
    rintro rfl
    rw [stood] at stands
    contradiction
  | observed id old new target stood left =>
    rw [object_congr left, object_put_of_ne]
    rintro rfl
    exact unobserved target
  | discarded v recipe u events made left =>
    obtain ⟨-, -, -, objects, -⟩ := settle_of_make made w
    rw [object_congr left, objects g present]
  | stored v recipe u events made given left =>
    obtain ⟨-, -, -, objects, -⟩ := settle_of_make made w
    have present' := Nat.lt_of_lt_of_le present (quiet_settle w u).size_le
    rw [object_congr left, object_add_of_lt present', objects g present]

private theorem histogram_of_settle {u : Unstored} {id : ObjectId} {h : Histogram}
    (stands : (w.settle u).2.object id = .histogram h) : w.object id = .histogram h := by
  unfold settle at stands
  split at stands
  · exact stands
  · rw [object_add] at stands
    split at stands
    · contradiction
    · exact stands

private theorem Change.histogram_cases (change : Change d explicit? observed? w w') :
    (∀ id h, w'.object id = .histogram h → w.object id = .histogram h) ∨
      ∃ (v : World) (recipe : Recipe) (u : Unstored) (events : List Event),
        v.make recipe d = (.ok u, events) ∧ recipe.reservoir = explicit? ∧
        w'.objects = ((w.settle u).2.add (.histogram (w.settle u).1)).2.objects := by
  cases change with
  | kept left =>
    refine Or.inl fun id h stands => ?_
    rwa [object_congr left] at stands
  | added object plain left =>
    refine Or.inl fun id h stands => ?_
    rw [object_congr left, object_add] at stands
    split at stands
    · exact absurd stands (plain h)
    · exact stands
  | chosen id old new stood left =>
    refine Or.inl fun place h stands => ?_
    rw [object_congr left, object_put] at stands
    split at stands
    · contradiction
    · exact stands
  | observed id old new target stood left =>
    refine Or.inl fun place h stands => ?_
    rw [object_congr left, object_put] at stands
    split at stands
    · contradiction
    · exact stands
  | discarded v recipe u events made left =>
    refine Or.inl fun place h stands => ?_
    rw [object_congr left] at stands
    exact histogram_of_settle stands
  | stored v recipe u events made given left => exact Or.inr ⟨v, recipe, u, events, made, given, left⟩

theorem Change.old_histogram (change : Change d explicit? observed? w w') {id : ObjectId} {h : Histogram}
    (old : id < w.objects.size) (stands : w'.object id = .histogram h) : w.object id = .histogram h := by
  rcases change.histogram_cases with before | ⟨v, recipe, u, events, made, -, left⟩
  · exact before id h stands
  · have placed := Nat.lt_of_lt_of_le old (quiet_settle w u).size_le
    rw [object_congr left, object_add_of_lt placed] at stands
    exact histogram_of_settle stands

/-- A histogram in a new place is in the last one, and stands on what was given, or on a new reservoir of the
defaults, in a place that is also new. -/
theorem Change.new_histogram (change : Change d explicit? observed? w w') {id : ObjectId} {h : Histogram}
    (new : w.objects.size ≤ id) (stands : w'.object id = .histogram h) :
    id + 1 = w'.objects.size ∧
      (explicit? = some h.reservoir ∨ explicit? = none ∧ h.reservoir = w.objects.size ∧
        ∃ r words, w'.object h.reservoir = .reservoir r ∧
          Reservoir.makeUniform d.reservoirSize d.reservoirSeed words = .ok r) := by
  have missing : w.object id ≠ .histogram h := by
    rw [object_of_le new]
    intro wrong
    contradiction
  rcases change.histogram_cases with old | ⟨v, recipe, u, events, made, rfl, left⟩
  · exact absurd (old id h stands) missing
  · obtain ⟨settled, -, size, -, reservoir⟩ := settle_of_make made w
    have last : w'.objects.size = (w.settle u).2.objects.size + 1 := by rw [left, size_add]
    rw [object_congr left, object_add] at stands
    split at stands
    · rename_i placed
      obtain rfl := Object.histogram.inj stands
      refine ⟨by rw [placed, last], ?_⟩
      rw [settled]
      cases given : recipe.reservoir with
      | some place => exact Or.inl rfl
      | none =>
        obtain ⟨r, words, stands, equal⟩ := reservoir given
        rw [given, if_pos rfl] at size
        have before : w.objects.size < (w.settle u).2.objects.size := by omega
        refine Or.inr ⟨rfl, rfl, r, words, ?_, equal⟩
        rw [object_congr left, Option.getD_none, object_add_of_lt before, stands]
    · exact absurd (histogram_of_settle stands) missing

/-- A histogram has a reservoir to itself: a new one of the defaults `d`, in a place that the world before did
not have, and no other histogram has it. -/
structure Owns (d : Defaults) (w w' : World) (id : ObjectId) (h : Histogram) : Prop where
  fresh : w.objects.size ≤ h.reservoir
  made : ∃ r words, w'.object h.reservoir = .reservoir r ∧
    Reservoir.makeUniform d.reservoirSize d.reservoirSeed words = .ok r
  alone : ∀ id' h', w'.object id' = .histogram h' → h'.reservoir = h.reservoir → id' = id

theorem Change.owns (change : Change d explicit? observed? w w') (closed : w.Closed) {id : ObjectId}
    {h : Histogram} (new : w.objects.size ≤ id) (stands : w'.object id = .histogram h) :
    explicit? = some h.reservoir ∨ explicit? = none ∧ Owns d w w' id h := by
  obtain ⟨last, given | ⟨none, place, made⟩⟩ := change.new_histogram new stands
  · exact Or.inl given
  · refine Or.inr ⟨none, Nat.le_of_eq place.symm, made, fun id' h' stands' same => ?_⟩
    rcases Nat.lt_or_ge id' w.objects.size with old | new'
    · have points := closed.objects id'
      rw [change.old_histogram old stands'] at points
      have below : h'.reservoir < w.objects.size := points
      rw [same, place] at below
      exact absurd below (Nat.lt_irrefl _)
    · obtain ⟨last', -⟩ := change.new_histogram new' stands'
      exact Nat.succ.inj (last'.trans last.symm)

/-- Every histogram has the table that some values ask for. -/
def Answering (w : World) : Prop :=
  ∀ id h, w.object id = .histogram h → ∃ skip items, Table.Answers skip items h.extractors

theorem Change.answering (change : Change d explicit? observed? w w') (answering : w.Answering) :
    w'.Answering := by
  intro id h stands
  rcases change.histogram_cases with old | ⟨v, recipe, u, events, made, -, left⟩
  · exact answering id h (old id h stands)
  · rw [object_congr left, object_add] at stands
    split at stands
    · obtain ⟨settled, -⟩ := settle_of_make made w
      obtain ⟨planned, -⟩ := make_cases made
      obtain ⟨items, answers⟩ := Table.exists_answers (extractors_of_plan planned)
      obtain rfl := Object.histogram.inj stands
      rw [settled]
      exact ⟨_, items, answers⟩
    · exact answering id h (histogram_of_settle stands)

end Change

section Ground

variable {g : ObjectId} {h h' : Histogram}

theorem Grows.groundIn (grows : w.Grows w') (closed : w.Closed) (kept : w'.object g = w.object g) {steps : Nat}
    {id : ObjectId} (present : id < w.objects.size) (reached : World.groundIn steps w id = some g) :
    World.groundIn steps w' id = some g := by
  induction steps generalizing id with
  | zero => contradiction
  | succ steps ih =>
    unfold World.groundIn at reached ⊢
    cases stands : w.object id with
    | histogram h =>
      have points := closed.objects id
      rw [stands] at reached points
      rw [grows.metric id present (by rw [stands]; rfl), stands]
      exact ih points reached
    | _ =>
      rw [stands] at reached
      obtain rfl := Option.some.inj reached
      rw [kept, stands]

theorem Grows.reportOf_eq (grows : w.Grows w') (closed : w.Closed) (kept : w'.object g = w.object g)
    (present : h.reservoir < w.objects.size) (ground : w.ground? h = some g) : w'.reportOf h = w.reportOf h := by
  have ground' : w'.ground? h = some g := grows.groundIn closed kept present ground
  unfold reportOf snapshotOf
  simp only [ground, ground', kept]

theorem snapshotOf_of_ground (same : w.ground? h = w.ground? h') :
    w.snapshotOf (.histogram h) = w.snapshotOf (.histogram h') := by
  unfold snapshotOf
  dsimp only
  rw [same]

theorem Answering.apply_eq (answering : w.Answering) {id id' : ObjectId} (stands : w.object id = .histogram h)
    (stands' : w.object id' = .histogram h') {entry entry' : String × Extractor} (present : entry ∈ h.extractors)
    (present' : entry' ∈ h'.extractors) (named : entry.1 = entry'.1) (snapshot : Snapshot) :
    entry.2.apply snapshot = entry'.2.apply snapshot := by
  obtain ⟨_, _, answers⟩ := answering id h stands
  obtain ⟨_, _, answers'⟩ := answering id' h' stands'
  exact answers.apply_eq answers' present present' named snapshot

theorem Answering.lookup_eq (answering : w.Answering) {id id' : ObjectId} (stands : w.object id = .histogram h)
    (stands' : w.object id' = .histogram h') (same : w.ground? h = w.ground? h') {report report' : Report}
    (given : w.reportOf h = .ok report) (given' : w.reportOf h' = .ok report') {name : String}
    (named : name ∈ h.metricNames) (named' : name ∈ h'.metricNames) :
    ∃ value, report.lookup name = some value ∧ report'.lookup name = some value := by
  obtain ⟨snapshot, seen, given⟩ := Failure.bind_eq_ok_iff.mp given
  obtain ⟨snapshot', seen', given'⟩ := Failure.bind_eq_ok_iff.mp given'
  rw [← snapshotOf_of_ground same, seen] at seen'
  obtain rfl := Except.ok.inj seen'
  obtain ⟨extractor, found, present⟩ := Histogram.exists_lookup named
  obtain ⟨extractor', found', present'⟩ := Histogram.exists_lookup named'
  have applied : (h.report snapshot).isOk := by rw [given]; rfl
  obtain ⟨value, defined⟩ := exists_of_isOk (Histogram.isOk_report.mp applied _ present)
  have equal := answering.apply_eq stands stands' present present' rfl snapshot
  rw [Histogram.lookup_report given, Histogram.lookup_report given', found, found', Option.bind_some,
    Option.bind_some, ← equal, defined]
  exact ⟨value, rfl, rfl⟩

end Ground

end World

end SampledMetrics
