import SampledMetrics.Proofs.World.Growth
/-!
Walks over metrics.  Main statement: since metrics stay what they are, whatever a hook does, a walk calls the
hook with the histograms among the objects, in their order and each time that they come up.
-/

set_option autoImplicit false
set_option relaxedAutoImplicit false

namespace SampledMetrics

def Object.isHistogram : Object → Bool
  | .histogram _ => true
  | _ => false

theorem Object.exists_of_isHistogram {object : Object} (stands : object.isHistogram) :
    ∃ h, object = .histogram h := by
  cases object <;> first | exact ⟨_, rfl⟩ | contradiction

namespace World

section Calls

variable {σ : Type}

/-- Call a hook with objects, one after the other, up to the first failure. -/
def callEach (hook : ObjectId → σ → Except Failure Unit × σ) : List ObjectId → σ → Except Failure Unit × σ
  | [], state => (.ok (), state)
  | id :: rest, state =>
      match hook id state with
      | (.ok (), state) => callEach hook rest state
      | (.error failure, state) => (.error failure, state)

/-- The calls that are made, each with the state in which it is made. -/
def calls (hook : ObjectId → σ → Except Failure Unit × σ) : List ObjectId → σ → List (ObjectId × σ)
  | [], _ => []
  | id :: rest, state =>
      (id, state) ::
        match hook id state with
        | (.ok (), state) => calls hook rest state
        | (.error _, _) => []

variable {hook : ObjectId → σ → Except Failure Unit × σ}

theorem map_fst_calls {ids : List ObjectId} {state : σ} (succeeds : (callEach hook ids state).1 = .ok ()) :
    (calls hook ids state).map Prod.fst = ids := by
  induction ids generalizing state with
  | nil => rfl
  | cons id rest ih =>
    rw [callEach] at succeeds
    rw [calls, List.map_cons]
    rcases done : hook id state with ⟨_ | _, state'⟩
    · simp [done] at succeeds
    · simp only [done] at succeeds
      exact congrArg (id :: ·) (ih succeeds)

variable {world : σ → World}

theorem grows_calls (later : ∀ id state, (world state).Grows (world (hook id state).2)) (ids : List ObjectId)
    (state : σ) : ∀ call ∈ calls hook ids state, (world state).Grows (world call.2) := by
  induction ids generalizing state with
  | nil => simp [calls]
  | cons id rest ih =>
    have grows := later id state
    refine List.forall_mem_cons.mpr ⟨Grows.refl _, ?_⟩
    rcases done : hook id state with ⟨_ | _, state'⟩
    · simp
    · rw [done] at grows
      exact fun call made => grows.trans (ih state' call made)

/-- A walk over metrics calls the hook with the histograms among them, and with nothing else. -/
theorem walk_eq_callEach (later : ∀ id state, (world state).Grows (world (hook id state).2)) {w : World}
    {ids : List ObjectId} (metrics : ∀ id ∈ ids, id < w.objects.size ∧ (w.object id).isMetric) {state : σ}
    (grows : w.Grows (world state)) :
    walk world hook ids state = callEach hook (ids.filter fun id => (w.object id).isHistogram) state := by
  induction ids generalizing state with
  | nil => rfl
  | cons id rest ih =>
    obtain ⟨⟨present, metric⟩, metrics⟩ := List.forall_mem_cons.mp metrics
    rw [walk, grows.metric id present metric]
    cases stands : w.object id with
    | histogram h =>
      have after := later id state
      rw [List.filter_cons_of_pos (by rw [stands]; rfl), callEach]
      rcases done : hook id state with ⟨_ | _, state'⟩
      · rfl
      · rw [done] at after
        exact ih metrics (grows.trans after)
    | gauge name =>
      rw [List.filter_cons_of_neg (by rw [stands]; exact Bool.false_ne_true)]
      exact ih metrics grows
    | _ =>
      rw [stands] at metric
      contradiction

end Calls

private theorem callEach_gather (w : World) (ids : List ObjectId) (reports : List (String × Report)) :
    (match callEach (gather true) ids (w, reports) with
      | (.ok (), _, gathered) => .ok gathered
      | (.error failure, _) => .error failure) =
      (ids.mapM w.reportAt).map (reports ++ ·) := by
  induction ids generalizing reports with
  | nil =>
    simp only [callEach, List.mapM_nil, pure, Except.pure, Except.map, List.append_nil]
  | cons id rest ih =>
    rw [List.mapM_cons]
    cases asked : w.reportAt id with
    | error failure =>
      have called : gather true id (w, reports) = (.error failure, w, reports) := by simp [gather, asked]
      simp only [callEach, called, bind, Except.bind, Except.map]
    | ok entry =>
      have called : gather true id (w, reports) = (.ok (), w, reports ++ [entry]) := by simp [gather, asked]
      simp only [callEach, called, ih, bind, Except.bind]
      cases rest.mapM w.reportAt <;> simp [Except.map, pure, Except.pure]

theorem collect_eq_mapM {w : World} {ids : List ObjectId}
    (metrics : ∀ id ∈ ids, id < w.objects.size ∧ (w.object id).isMetric) :
    w.collect true ids = (ids.filter fun id => (w.object id).isHistogram).mapM w.reportAt := by
  have stays : ∀ id (state : World × List (String × Report)), state.1.Grows (gather true id state).2.1 := by
    intro id state
    unfold gather
    split
    · split <;> exact Grows.refl _
    · exact Grows.refl _
  have gathered := callEach_gather w (ids.filter fun id => (w.object id).isHistogram) []
  rw [collect, walk_eq_callEach stays metrics (Grows.refl w)]
  refine gathered.trans ?_
  cases (ids.filter fun id => (w.object id).isHistogram).mapM w.reportAt <;> rfl

theorem Tidy.metrics {w : World} (tidy : w.Tidy) :
    ∀ id ∈ w.registry.all, id < w.objects.size ∧ (w.object id).isMetric := by
  intro id present
  obtain ⟨entry, member, within⟩ := List.mem_flatMap.mp present
  obtain ⟨binding, bound, rfl⟩ := List.mem_map.mp within
  obtain ⟨n, -, named⟩ := (tidy entry member).2 binding bound
  refine ⟨lt_size_of_object_ne fun missing => ?_, Object.isMetric_of_ownName named⟩
  rw [missing] at named
  simp [default, Object.ownName] at named

end World

end SampledMetrics
