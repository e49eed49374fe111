import SampledMetrics.Failure
/-!
Computations that can fail in certain ways only.  What is made in steps fails like one of its steps, so the
ways of failing of a whole program are put together from those of its parts.
-/

set_option autoImplicit false
set_option relaxedAutoImplicit false

namespace SampledMetrics

/-- Succeeds, or fails with a failure of a sort. -/
def FailsOnly {α : Type} (sort : Failure → Prop) (x : Except Failure α) : Prop :=
  ∀ failure, x = .error failure → sort failure

namespace FailsOnly

variable {α β : Type} {sort wider : Failure → Prop}

theorem ok (a : α) : FailsOnly sort (.ok a) := by
  intro failure wrong
  cases wrong

theorem error {failure : Failure} (sorted : sort failure) :
    FailsOnly sort (.error failure : Except Failure α) := by
  intro other same
  cases same
  exact sorted

theorem error_iff {failure : Failure} : FailsOnly sort (.error failure : Except Failure α) ↔ sort failure := by
  constructor
  · intro only
    exact only failure rfl
  · intro sorted
    exact .error sorted

theorem mono {x : Except Failure α} (only : FailsOnly sort x) (wide : ∀ failure, sort failure → wider failure) :
    FailsOnly wider x := by
  intro failure failed
  exact wide failure (only failure failed)

theorem bind_iff {first : Except Failure α} {next : α → Except Failure β} :
    FailsOnly sort (first >>= next) ↔
      FailsOnly sort first ∧ ∀ a, first = .ok a → FailsOnly sort (next a) := by
  cases first with
  | error failure =>
    constructor
    · intro only
      exact ⟨.error (only failure rfl), fun a wrong => by cases wrong⟩
    · rintro ⟨here, -⟩
      exact .error (here failure rfl)
  | ok a =>
    constructor
    · intro only
      exact ⟨.ok a, fun b same => by cases same; exact only⟩
    · rintro ⟨-, later⟩
      exact later a rfl

theorem bind {first : Except Failure α} {next : α → Except Failure β} (here : FailsOnly sort first)
    (later : ∀ a, FailsOnly sort (next a)) : FailsOnly sort (first >>= next) :=
  bind_iff.mpr ⟨here, fun a _ => later a⟩

theorem seq_iff {first : Except Failure Unit} {next : Except Failure α} :
    FailsOnly sort (first >>= fun _ => next) ↔
      FailsOnly sort first ∧ (first = .ok () → FailsOnly sort next) :=
  bind_iff.trans (and_congr_right fun _ => ⟨fun later => later (), fun later _ => later⟩)

theorem map_iff {x : Except Failure α} {f : α → β} : FailsOnly sort (x.map f) ↔ FailsOnly sort x := by
  cases x with
  | error failure => exact error_iff.trans error_iff.symm
  | ok a => exact iff_of_true (.ok _) (.ok _)

theorem map {x : Except Failure α} (f : α → β) (here : FailsOnly sort x) : FailsOnly sort (x.map f) :=
  map_iff.mpr here

theorem ite {p : Prop} [Decidable p] {x y : Except Failure α} (yes : FailsOnly sort x)
    (no : FailsOnly sort y) : FailsOnly sort (if p then x else y) := by
  split
  · exact yes
  · exact no

end FailsOnly

section Items

variable {α : Type} {check : α → Except Failure Unit} {items : List α}

private theorem Failure.forM_cons (check : α → Except Failure Unit) (item : α) (rest : List α) :
    (item :: rest).forM check = check item >>= fun _ => rest.forM check := rfl

theorem Failure.forM_eq_ok_iff : items.forM check = .ok () ↔ ∀ item ∈ items, check item = .ok () := by
  induction items with
  | nil => simp [List.forM, pure, Except.pure]
  | cons item rest ih =>
    rw [forM_cons, bind_eq_ok_iff, List.forall_mem_cons, ← ih]
    exact ⟨fun ⟨(), first, later⟩ => ⟨first, later⟩, fun ⟨first, later⟩ => ⟨(), first, later⟩⟩

/-- Only the first item that is not accepted counts. -/
theorem FailsOnly.forM_iff {sort : Failure → Prop} :
    FailsOnly sort (items.forM check) ↔
      ∀ before item after, items = before ++ item :: after → (∀ earlier ∈ before, check earlier = .ok ()) →
        FailsOnly sort (check item) := by
  induction items with
  | nil =>
    refine iff_of_true (.ok ()) fun before item after split => ?_
    exact absurd split (by simp)
  | cons first rest ih =>
    rw [Failure.forM_cons, seq_iff]
    constructor
    · rintro ⟨here, later⟩ before item after split accepted
      cases before with
      | nil =>
        obtain ⟨rfl, -⟩ := List.cons.inj split
        exact here
      | cons earlier before =>
        obtain ⟨rfl, rfl⟩ := List.cons.inj split
        obtain ⟨accepted_first, accepted⟩ := List.forall_mem_cons.mp accepted
        exact ih.mp (later accepted_first) before item after rfl accepted
    · intro only
      refine ⟨only [] first rest rfl (by simp), fun accepted_first => ih.mpr ?_⟩
      rintro before item after rfl accepted
      exact only (first :: before) item after rfl (List.forall_mem_cons.mpr ⟨accepted_first, accepted⟩)

end Items

end SampledMetrics
