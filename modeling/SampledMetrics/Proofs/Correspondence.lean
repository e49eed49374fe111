import Mathlib.Data.List.Forall2
import SampledMetrics.Failure
/-!
Lists that correspond item by item, and computations with corresponding outcomes: the same failure, or
results that are related.
-/

set_option autoImplicit false
set_option relaxedAutoImplicit false

namespace SampledMetrics

section Corresponding

variable {α β : Type} {R : α → β → Prop} {xs : List α} {ys : List β}

theorem exists_right_of_mem (matched : List.Forall₂ R xs ys) {x : α} (present : x ∈ xs) :
    ∃ y ∈ ys, R x y := by
  induction matched with
  | nil => contradiction
  | cons first _ ih =>
    rcases List.mem_cons.mp present with rfl | later
    · exact ⟨_, List.mem_cons_self, first⟩
    · obtain ⟨y, among, related⟩ := ih later
      exact ⟨y, List.mem_cons_of_mem _ among, related⟩

theorem exists_left_of_mem (matched : List.Forall₂ R xs ys) {y : β} (present : y ∈ ys) :
    ∃ x ∈ xs, R x y :=
  exists_right_of_mem (R := fun y x => R x y) matched.flip present

end Corresponding

/-- The same failure, or results that correspond. -/
inductive Both {α β : Type} (R : α → β → Prop) : Except Failure α → Except Failure β → Prop
  | ok {a : α} {b : β} (related : R a b) : Both R (.ok a) (.ok b)
  | error (failure : Failure) : Both R (.error failure) (.error failure)

section Both

variable {α β γ δ : Type} {R : α → β → Prop} {S : γ → δ → Prop} {x : Except Failure α}
  {y : Except Failure β}

theorem Both.bind {f : α → Except Failure γ} {g : β → Except Failure δ} (first : Both R x y)
    (next : ∀ a b, R a b → Both S (f a) (g b)) : Both S (x.bind f) (y.bind g) := by
  cases first with
  | ok related => exact next _ _ related
  | error failure => exact .error failure

theorem Both.map {f : α → γ} {g : β → δ} (first : Both R x y)
    (next : ∀ a b, R a b → S (f a) (g b)) : Both S (x.map f) (y.map g) := by
  cases first with
  | ok related => exact .ok (next _ _ related)
  | error failure => exact .error failure

theorem Both.refl (z : Except Failure α) : Both Eq z z := by
  cases z with
  | ok a => exact .ok rfl
  | error failure => exact .error failure

theorem Both.eq {z : Except Failure α} (both : Both Eq x z) : x = z := by
  cases both with
  | ok same => rw [same]
  | error failure => rfl

theorem Both.mapM {f : α → Except Failure γ} {g : α → Except Failure δ} {items : List α}
    (each : ∀ item ∈ items, Both S (f item) (g item)) :
    Both (List.Forall₂ S) (items.mapM f) (items.mapM g) := by
  induction items with
  | nil => exact .ok .nil
  | cons item rest ih =>
    obtain ⟨first, others⟩ := List.forall_mem_cons.mp each
    rw [List.mapM_cons, List.mapM_cons]
    refine first.bind fun out out' same => (ih others).bind fun outs outs' sames => ?_
    exact .ok (.cons same sames)

end Both

end SampledMetrics
