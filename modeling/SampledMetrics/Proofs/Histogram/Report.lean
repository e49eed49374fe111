import SampledMetrics.Proofs.Extractor.Table
import SampledMetrics.Proofs.Reservoir.BuiltIn
import SampledMetrics.Proofs.World.Objects
/-!
When a histogram reports.  Observations for a histogram on a reservoir of one of the two kinds are calls
on that reservoir, and a report takes every statistic of one snapshot of it.  Main statement: a report
is given, with the names of the histogram's metrics, exactly when every statistic of its table is
defined on the numbers held.
-/

set_option autoImplicit false
set_option relaxedAutoImplicit false

namespace SampledMetrics

section Except

variable {ε α β γ : Type}

theorem exists_of_isOk {result : Except ε α} (given : result.isOk) : ∃ value, result = .ok value := by
  cases result with
  | error failure => simp [Except.isOk, Except.toBool] at given
  | ok value => exact ⟨value, rfl⟩

private theorem isOk_mapM (f : α → Except ε β) (items : List α) :
    (items.mapM f).isOk ↔ ∀ item ∈ items, (f item).isOk := by
  induction items with
  | nil => simp [pure, Except.pure, Except.isOk, Except.toBool]
  | cons item rest ih =>
    rw [List.mapM_cons, List.forall_mem_cons, ← ih]
    cases f item with
    | error failure => simp [bind, Except.bind, Except.isOk, Except.toBool]
    | ok first =>
      cases rest.mapM f <;> simp [bind, Except.bind, pure, Except.pure, Except.isOk, Except.toBool]

private theorem map_of_mapM_ok {f : α → Except Failure β} {g : β → γ} {k : α → γ}
    (keeps : ∀ item out, f item = .ok out → g out = k item) {items : List α} {outs : List β}
    (done : items.mapM f = .ok outs) : outs.map g = items.map k := by
  induction items generalizing outs with
  | nil =>
    obtain rfl := Except.ok.inj done
    rfl
  | cons item rest ih =>
    rw [List.mapM_cons] at done
    obtain ⟨out, first, done⟩ := Failure.bind_eq_ok_iff.mp done
    obtain ⟨others, later, done⟩ := Failure.bind_eq_ok_iff.mp done
    obtain rfl := Except.ok.inj done
    rw [List.map_cons, List.map_cons, keeps item out first, ih later]

end Except

namespace Histogram

variable {h : Histogram} {s : Snapshot}

private theorem named_eq (entry : String × Extractor) :
    (do return (entry.1, ← entry.2.apply s) : Except Failure (String × Value))
      = (entry.2.apply s).map fun value => (entry.1, value) := by
  cases entry.2.apply s <;> rfl

theorem isOk_report : (h.report s).isOk ↔ ∀ entry ∈ h.extractors, (entry.2.apply s).isOk := by
  unfold report
  rw [isOk_mapM]
  simp only [named_eq, Extractor.isOk_map]

theorem names_report {report : Report} (given : h.report s = .ok report) :
    report.map Prod.fst = h.metricNames := by
  refine map_of_mapM_ok ?_ given
  intro entry out named
  obtain ⟨value, -, paired⟩ := Failure.bind_eq_ok_iff.mp named
  obtain rfl := Except.ok.inj paired
  rfl

private theorem report_complete_iff :
    (∃ report, h.report s = .ok report ∧ report.map Prod.fst = h.metricNames)
      ↔ ∀ entry ∈ h.extractors, (entry.2.apply s).isOk := by
  rw [← isOk_report]
  cases given : h.report s with
  | error failure => simp [Except.isOk, Except.toBool]
  | ok report =>
    refine iff_of_true ⟨report, rfl, names_report given⟩ rfl

end Histogram

namespace World

variable {w : World} {h : Histogram} {r : Reservoir}

/-- Observations for a histogram, one after the other, taken or refused. -/
def observeAll (w : World) (h : Histogram) (observations : List Value) : World :=
  observations.foldl (fun w value => (w.updateHistogram h value).2) w

theorem ground?_eq (stands : w.object h.reservoir = .reservoir r) :
    w.ground? h = some h.reservoir := by
  unfold ground? chainRoom groundIn
  rw [stands]

private theorem object_updateHistogram (stands : w.object h.reservoir = .reservoir r) (held : r.Measured)
    (value : Value) :
    (w.updateHistogram h value).2.object h.reservoir = .reservoir (r.update value).2 := by
  have present := present_of_object stands (by simp)
  have observer : (w.object h.reservoir).isObserver := by rw [stands]; rfl
  unfold updateHistogram
  rw [if_pos observer]
  cases accepted : observationOf value with
  | error failure => rw [held.update_refused accepted, stands]
  | ok x =>
    obtain ⟨rfl, -⟩ := observationOf_eq_ok_iff.mp accepted
    simp only [updateGround, ground?_eq stands]
    unfold updateSamples take
    simp only [stands, Object.update]
    rw [object_put_self]
    simpa [put] using present

theorem object_observeAll (stands : w.object h.reservoir = .reservoir r) (held : r.Measured)
    (observations : List Value) :
    (w.observeAll h observations).object h.reservoir = .reservoir (r.offer observations).2 := by
  induction observations generalizing w r with
  | nil => exact stands
  | cons value rest ih =>
    rw [Reservoir.offer_cons_snd]
    exact ih (object_updateHistogram stands held value) (held.update value)

theorem reportOf_eq (stands : w.object h.reservoir = .reservoir r) (held : r.Measured) :
    w.reportOf h = h.report ⟨(Number.sorted r.numbers).map .number⟩ := by
  unfold reportOf snapshotOf
  simp only [ground?_eq stands, stands, snapshotOfGround, held.snapshot_eq]
  rfl

private theorem checked_of_plan {recipe : Recipe} {defaults : Defaults} {plan : HistogramPlan}
    (planned : (recipe.plan defaults).result = .ok plan) : plan.extractors.Checked := by
  obtain ⟨name, -, planned⟩ := Logged.result_bind_eq_ok_iff.mp planned
  obtain ⟨table, made, planned⟩ := Logged.result_bind_eq_ok_iff.mp planned
  split at planned
  · contradiction
  · obtain rfl := Except.ok.inj planned
    exact Table.checked_of_build made

/-- A histogram that is built has a checked table and stands on a reservoir of one of the two kinds: the
one that was asked for, or a new one. -/
private theorem build_spec {recipe : Recipe} {defaults : Defaults} {w' : World}
    (built : w.build recipe defaults = (.ok h, w'))
    (given : ∀ id, recipe.reservoir = some id → ∃ r, w.object id = .reservoir r ∧ r.BuiltIn) :
    h.extractors.Checked ∧ ∃ r, w'.object h.reservoir = .reservoir r ∧ r.BuiltIn := by
  unfold World.build at built
  dsimp only at built
  cases planned : (recipe.plan defaults).result with
  | error failure =>
    rw [planned] at built
    simp at built
  | ok plan =>
    have checked := checked_of_plan planned
    rw [planned] at built
    cases chosen : recipe.reservoir with
    | some id =>
      rw [chosen] at built
      simp only [finishBuild, Prod.mk.injEq, Except.ok.injEq] at built
      obtain ⟨rfl, rfl⟩ := built
      exact ⟨checked, given id chosen⟩
    | none =>
      rw [chosen] at built
      dsimp only at built
      split at built
      · simp at built
      · rename_i r made
        simp only [finishBuild, Prod.mk.injEq, Except.ok.injEq] at built
        obtain ⟨rfl, rfl⟩ := built
        refine ⟨checked, r, ?_, .uniform made⟩
        rw [object_tell, object_add_self]

/-- A histogram on a reservoir of one of the two kinds gives a complete report, after any observations,
exactly when every statistic of its table is defined on the numbers held. -/
theorem reportOf_complete_iff {recipe : Recipe} {defaults : Defaults} {w' : World}
    (built : w.build recipe defaults = (.ok h, w'))
    (given : ∀ id, recipe.reservoir = some id → ∃ r, w.object id = .reservoir r ∧ r.BuiltIn) :
    ∃ r, w'.object h.reservoir = .reservoir r ∧ r.BuiltIn ∧ ∀ observations : List Value,
      ((∃ report, (w'.observeAll h observations).reportOf h = .ok report
          ∧ report.map Prod.fst = h.metricNames)
        ↔ ∀ entry ∈ h.extractors,
            entry.2.DefinedOn (Number.sorted (r.offer observations).2.numbers)) := by
  obtain ⟨checked, r, stands, builtIn⟩ := build_spec built given
  refine ⟨r, stands, builtIn, fun observations => ?_⟩
  have held := (builtIn.offer observations).measured
  have after := object_observeAll stands builtIn.measured observations
  rw [reportOf_eq after held, Histogram.report_complete_iff]
  have measured : ∀ x ∈ Number.sorted (r.offer observations).2.numbers, x.isNaN = false := by
    intro x present
    exact held.measured x ((Number.sorted_perm _).mem_iff.mp present)
  refine forall₂_congr fun entry present => ?_
  exact Extractor.isOk_apply (checked entry present) measured

def windowWorld : World :=
  ((World.empty fun _ _ => 0).add (.reservoir (.sliding (.empty 3)))).2

theorem reportOf_complete_iff_window :
    ∃ h w', windowWorld.build { name := .text "h", reservoir := some 0 } {} = (.ok h, w') ∧
      ∃ r, w'.object h.reservoir = .reservoir r ∧ r.BuiltIn ∧ ∀ observations : List Value,
        ((∃ report, (w'.observeAll h observations).reportOf h = .ok report
            ∧ report.map Prod.fst = h.metricNames)
          ↔ ∀ entry ∈ h.extractors,
              entry.2.DefinedOn (Number.sorted (r.offer observations).2.numbers)) := by
  have built : windowWorld.build { name := .text "h", reservoir := some 0 } {}
      = (.ok ⟨"h", 0, Table.defaults⟩,
        (windowWorld.build { name := .text "h", reservoir := some 0 } {}).2) := rfl
  refine ⟨_, _, built, reportOf_complete_iff built ?_⟩
  intro id chosen
  obtain rfl := Option.some.inj chosen
  exact ⟨.sliding (.empty 3), rfl, @Reservoir.BuiltIn.sliding (.int 3) _ rfl⟩

/-- One infinite observation beside another, and a histogram with the default table gives no report. -/
theorem reportOf_infinity_refused :
    ∃ h w', (World.empty fun _ _ => 0).build { name := .text "h" } {} = (.ok h, w') ∧
      (∀ v ∈ [Value.int 1, .float (.infinity false)], (observation? v).isSome) ∧
      ¬ ((w'.observeAll h [.int 1, .float (.infinity false)]).reportOf h).isOk := by
  have built : (World.empty fun _ _ => 0).build { name := .text "h" } {}
      = (.ok ⟨"h", 0, Table.defaults⟩, ((World.empty fun _ _ => 0).build { name := .text "h" } {}).2) :=
    rfl
  refine ⟨_, _, built, by decide, ?_⟩
  obtain ⟨checked, r, stands, builtIn⟩ := build_spec built (by
    intro id chosen
    contradiction)
  have fresh : ∃ stream, r = .uniform (.empty builtInSize.toNat stream) :=
    ⟨_, (Object.reservoir.inj stands).symm⟩
  obtain ⟨stream, rfl⟩ := fresh
  have after := object_observeAll stands builtIn.measured [.int 1, .float (.infinity false)]
  have held := (builtIn.offer [.int 1, .float (.infinity false)]).measured
  have numbers : (Reservoir.offer (.uniform (.empty builtInSize.toNat stream))
      [.int 1, .float (.infinity false)]).2.numbers = [.int 1, .float (.infinity false)] := rfl
  have ordered : Number.sorted [.int 1, .float (.infinity false)] =
      [.int 1, .float (.infinity false)] := Number.sorted_of_pairwise (by decide +kernel)
  have deviates : ("StdDev", Extractor.stddev) ∈ Table.defaults := by simp [Table.defaults]
  have undefined : ¬ Extractor.stddev.DefinedOn [.int 1, .float (.infinity false)] := by
    simp [Extractor.DefinedOn, Number.isFinite, Binary64.isFinite]
  rw [reportOf_eq after held, numbers, ordered, Histogram.isOk_report]
  intro given
  have applied := given _ deviates
  exact undefined ((Extractor.isOk_apply (checked _ deviates) (by decide)).mp applied)

end World

end SampledMetrics
