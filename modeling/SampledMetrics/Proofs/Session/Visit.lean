import SampledMetrics.Proofs.Session.Bindings
import SampledMetrics.Proofs.World.Walk
import SampledMetrics.Session
/-!
Visits of the registry.  Main statement: a visitor's hook is called once for each binding of a histogram, in
the order in which groups and names were bound, whatever the hook itself does to the registry.
-/

set_option autoImplicit false
set_option relaxedAutoImplicit false

namespace SampledMetrics

namespace Visitor

variable {α μ : Type}

private theorem grows_hook (v : Visitor μ) (id : ObjectId) (state : μ × Session) :
    state.2.world.Grows (v.hook id state).2.2.world := by
  obtain ⟨steps, same⟩ := v.bySteps id state
  rw [same]
  exact (Session.grows_runAll state.2 steps).world

private theorem callEach_noting (note : ObjectId → Session → α) (v : Visitor μ) (ids : List ObjectId)
    (notes : List α) (own : μ) (s : Session) :
    World.callEach (v.noting note).hook ids ((notes, own), s) =
      let plain := World.callEach v.hook ids (own, s)
      let made := (World.calls v.hook ids (own, s)).map fun call => note call.1 call.2.2
      (plain.1, (notes ++ made, plain.2.1), plain.2.2) := by
  induction ids generalizing notes own s with
  | nil => simp [World.callEach, World.calls]
  | cons id rest ih =>
    rcases done : v.hook id (own, s) with ⟨_ | _, own', s'⟩
    · simp [World.callEach, World.calls, noting, done]
    · simp only [noting] at ih
      simp [World.callEach, World.calls, noting, done, ih]

end Visitor

namespace Session

variable {s s' : Session}

private theorem Leads.tidy_last {later : List Session} (leads : Leads s later s') (tidy : s.world.Tidy) :
    s'.world.Tidy := by
  induction later generalizing s with
  | nil =>
    obtain rfl : s = s' := leads
    exact tidy
  | cons next later ih =>
    obtain ⟨⟨grows, binds, -⟩, leads⟩ := leads
    exact ih leads (tidy.step grows binds)

private theorem tidy_start (words : ObjectId → Nat → UInt64) (defaults : Defaults) :
    (start words defaults).world.Tidy := by
  intro entry member
  contradiction

private theorem visitWith_eq_callEach {μ : Type} (tidy : s.world.Tidy) (v : Visitor μ) (own : μ) :
    s.visitWith v own =
      World.callEach v.hook (s.world.registry.all.filter fun id => (s.world.object id).isHistogram) (own, s) :=
  World.walk_eq_callEach v.grows_hook tidy.metrics (World.Grows.refl _)

/-- What a visitor is called with, if metrics are bound in some order: the histograms, group by group. -/
def shown (s : Session) (bs : List Binding) : List ObjectId :=
  ((Binding.arrange bs).filter fun b => (s.world.object b.metric).isHistogram).map Binding.metric

private theorem filter_all_eq_shown {bs : List Binding} (chronicle : Registry.Chronicle bs s.world.registry) :
    (s.world.registry.all.filter fun id => (s.world.object id).isHistogram) = s.shown bs := by
  rw [chronicle.all, List.filter_map]
  rfl

/-- Visits after any run with texts for groups and names.  The registry holds what was bound in the run, each
binding once, and finds it.  A visitor is called once for each binding of a histogram, in the order of the
bindings in each group and of the groups, whatever its hook does; unless that fails, a collector is given
what each histogram reports at the moment of its call. -/
theorem visit_bindings (words : ObjectId → Nat → UInt64) (defaults : Defaults) (steps : List Step)
    (plain : ∀ t ∈ (start words defaults).turns steps, t.isPlain) :
    let s := (runAll (start words defaults) steps).2
    let bs := (start words defaults).bindings steps
    Registry.Chronicle bs s.world.registry ∧ (Binding.arrange bs).Perm bs ∧
      (∀ g n id, s.world.registry.find? (.text g) (.text n) = some id ↔ ⟨g, n, id⟩ ∈ bs) ∧
      (∀ (μ : Type) (v : Visitor μ) (own : μ),
        s.visitWith v own = World.callEach v.hook (s.shown bs) (own, s)) ∧
      (∀ (μ : Type) (v : Visitor μ) (own : μ), (s.visitWith v own).1 = .ok () →
        let calls := World.calls v.hook (s.shown bs) (own, s)
        calls.map Prod.fst = s.shown bs ∧
          (∀ call ∈ calls, ∃ h, s.world.object call.1 = .histogram h ∧
            call.2.2.world.object call.1 = .histogram h) ∧
          ∃ own' s', s.visitWith v.collecting ([], own) =
            (.ok (), (calls.map fun call => call.2.2.world.reportAt call.1, own'), s')) ∧
      s.world.collect true s.world.registry.all = (s.shown bs).mapM s.world.reportAt := by
  intro s bs
  have chronicle := chronicle_runAll words defaults steps plain
  have tidy := (leads_turns _ steps plain).tidy_last (tidy_start words defaults)
  have visited : ∀ (μ : Type) (v : Visitor μ) (own : μ),
      s.visitWith v own = World.callEach v.hook (s.shown bs) (own, s) := by
    intro μ v own
    rw [visitWith_eq_callEach tidy, filter_all_eq_shown chronicle]
  refine ⟨chronicle, Binding.arrange_perm bs, chronicle.find?_eq_some_iff, visited, ?_, ?_⟩
  · intro μ v own succeeds calls
    rw [visited] at succeeds
    have called := World.map_fst_calls succeeds
    refine ⟨called, fun call made => ?_, ?_⟩
    · have among : call.1 ∈ s.world.registry.all.filter fun id => (s.world.object id).isHistogram := by
        rw [filter_all_eq_shown chronicle, ← called]
        exact List.mem_map_of_mem made
      obtain ⟨bound, stands⟩ := List.mem_filter.mp among
      obtain ⟨h, stands⟩ := Object.exists_of_isHistogram stands
      obtain ⟨present, metric⟩ := tidy.metrics call.1 bound
      have grows := World.grows_calls v.grows_hook (s.shown bs) (own, s) call made
      exact ⟨h, stands, (grows.metric call.1 present metric).trans stands⟩
    · rw [visited, Visitor.collecting, Visitor.callEach_noting]
      simp only [succeeds, List.nil_append]
      exact ⟨_, _, rfl⟩
  · rw [World.collect_eq_mapM tidy.metrics, filter_all_eq_shown chronicle]

/-- A histogram in two groups, between a gauge and another histogram. -/
def groupedSteps : List Step :=
  [.gauge "x" (.text "x"), .register (.text "b") "x",
    .findOrBuild (some "h") (.text "a") ⟨.text "h", none, .null, .bool false⟩,
    .findOrBuild (some "i") (.text "b") ⟨.text "i", none, .list [], .bool false⟩, .register (.text "b") "h",
    .update "h" (.int 1)]

/-- A visitor that counts its calls and registers a further histogram, in a new group as well. -/
def registering : Visitor Nat where
  hook _ state :=
    (.ok (), state.1 + 1, (runAll state.2
      [.findOrBuild (some "j") (.text "a") ⟨.text "j", none, .null, .bool false⟩, .register (.text "c") "j",
        .update "h" (.int 2)]).2)
  bySteps _ _ := ⟨_, rfl⟩

theorem visit_bindings_registering :
    let s := (runAll (start (fun _ _ => 0) {}) groupedSteps).2
    s.visitWith registering 0 = World.callEach registering.hook [4, 2, 2] (0, s) ∧
      (s.visitWith registering 0).2.1 = 3 ∧
      ∃ own' s', s.visitWith registering.collecting ([], 0) =
        (.ok (), ((World.calls registering.hook [4, 2, 2] (0, s)).map fun call =>
          call.2.2.world.reportAt call.1, own'), s') := by
  intro s
  have shown : s.shown ((start (fun _ _ => 0) {}).bindings groupedSteps) = [4, 2, 2] := by
    decide +kernel
  obtain ⟨-, -, -, visited, noted, -⟩ := visit_bindings (fun _ _ => 0) {} groupedSteps (by decide +kernel)
  have called := visited Nat registering 0
  rw [shown] at called
  have succeeds : (s.visitWith registering 0).1 = .ok () := by
    rw [called]
    rfl
  obtain ⟨-, -, collected⟩ := noted Nat registering 0 succeeds
  rw [shown] at collected
  refine ⟨called, ?_, collected⟩
  rw [called]
  rfl

end Session

end SampledMetrics
