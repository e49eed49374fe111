import Mathlib.Data.Fintype.BigOperators
import Mathlib.Data.Fintype.Pi
import Mathlib.Data.List.OfFn
import Mathlib.Data.Nat.Choose.Basic
import Mathlib.Data.Nat.Factorial.BigOperators
import Mathlib.Order.Interval.Finset.Fin
import Mathlib.Tactic.Ring
import SampledMetrics.Proofs.Reservoir.Run
/-!
Every set of arrivals is kept by equally many sequences of draws.  A sequence past the capacity `C` has
one index below `k + 1` for each arrival `k` from `C` on; with `N` observations there are `N! / C!`
sequences.  Main statement: each set of `C` arrivals is what exactly `(N - C)!` of them leave in the
sample, so that each arrival survives in the share `C / N` of them.

The induction adds the last draw: an index that is no slot keeps the set, and one that is a slot
exchanges one survivor for the new arrival.
-/

set_option autoImplicit false
set_option relaxedAutoImplicit false

namespace SampledMetrics.UniformSample

open scoped Nat

/-- A draw for each of `beyond` observations past the capacity: that of arrival `k` is at most `k`. -/
abbrev Draws (capacity beyond : Nat) : Type :=
  (k : Fin beyond) → Fin (capacity + k + 1)

namespace Draws

variable {capacity beyond : Nat}

def toList (d : Draws capacity beyond) : List Nat :=
  List.ofFn fun k => (d k : Nat)

theorem length_toList (d : Draws capacity beyond) : d.toList.length = beyond := by
  simp [toList]

/-- The draws followed by a further one. -/
def followedBy (d : Draws capacity beyond) (index : Fin (capacity + beyond + 1)) :
    Draws capacity (beyond + 1) :=
  Fin.snocEquiv (fun k => Fin (capacity + k + 1)) (index, d)

private theorem toList_followedBy (d : Draws capacity beyond) (index : Fin (capacity + beyond + 1)) :
    (d.followedBy index).toList = d.toList ++ [(index : Nat)] := by
  rw [toList, List.ofFn_succ', List.concat_eq_append]
  simp [toList, followedBy, Fin.snocEquiv]

private theorem card_followedBy (property : Draws capacity (beyond + 1) → Prop) [DecidablePred property] :
    (Finset.univ.filter property).card =
      (Finset.univ.filter fun last : Fin (capacity + beyond + 1) × Draws capacity beyond =>
        property (last.2.followedBy last.1)).card := by
  refine (Finset.card_equiv (Fin.snocEquiv fun k => Fin (capacity + k + 1)) ?_).symm
  intro last
  simp only [Finset.mem_filter, Finset.mem_univ, true_and]
  rfl

private theorem factorial_mul_card (capacity beyond : Nat) :
    capacity ! * Fintype.card (Draws capacity beyond) = (capacity + beyond)! := by
  rw [Fintype.card_pi]
  simp only [Fintype.card_fin]
  rw [← Nat.factorial_mul_ascFactorial, Nat.ascFactorial_eq_prod_range,
    Fin.prod_univ_eq_prod_range (fun k => capacity + k + 1) beyond]
  simp only [Nat.add_right_comm]

def survivors (d : Draws capacity beyond) : Finset Nat :=
  (Finset.range capacity).image (origin capacity d.toList)

private theorem origin_lt_of_slot (d : Draws capacity beyond) {slot : Nat} (inside : slot < capacity) :
    origin capacity d.toList slot < capacity + beyond :=
  (lastWriter_origin d.toList).lt (by rw [length_toList]; omega) (by omega)

private theorem survivors_subset (d : Draws capacity beyond) :
    d.survivors ⊆ Finset.range (capacity + beyond) := by
  intro arrival survives
  obtain ⟨slot, inside, rfl⟩ := Finset.mem_image.mp survives
  exact Finset.mem_range.mpr (d.origin_lt_of_slot (Finset.mem_range.mp inside))

private theorem card_survivors (d : Draws capacity beyond) : d.survivors.card = capacity := by
  rw [survivors, Finset.card_image_of_injOn, Finset.card_range]
  intro slot inside other inside' same
  exact origin_injOn d.toList (Finset.mem_range.mp inside) (Finset.mem_range.mp inside') same

private theorem survivors_nil (d : Draws capacity 0) : d.survivors = Finset.range capacity := by
  have nothing : d.toList = [] := List.eq_nil_of_length_eq_zero d.length_toList
  simp [survivors, nothing, origin]

private theorem survivors_followedBy_of_le (d : Draws capacity beyond)
    {index : Fin (capacity + beyond + 1)} (discards : capacity ≤ index) :
    (d.followedBy index).survivors = d.survivors := by
  rw [survivors, toList_followedBy]
  refine Finset.image_congr ?_
  intro slot inside
  have slot_lt := Finset.mem_range.mp inside
  rw [origin_append, if_neg (by omega)]

private theorem survivors_followedBy_of_lt (d : Draws capacity beyond)
    {index : Fin (capacity + beyond + 1)} (hits : (index : Nat) < capacity) :
    (d.followedBy index).survivors =
      insert (capacity + beyond) (d.survivors.erase (origin capacity d.toList index)) := by
  ext arrival
  simp only [survivors, toList_followedBy, Finset.mem_image, Finset.mem_range, Finset.mem_insert,
    Finset.mem_erase, origin_append, length_toList]
  constructor
  · rintro ⟨slot, inside, rfl⟩
    by_cases hit : slot = index
    · exact Or.inl (if_pos hit)
    · rw [if_neg hit]
      refine Or.inr ⟨fun same => hit ?_, slot, inside, rfl⟩
      exact origin_injOn d.toList inside hits same
  · rintro (rfl | ⟨other, slot, inside, rfl⟩)
    · exact ⟨index, hits, if_pos rfl⟩
    · refine ⟨slot, inside, if_neg fun hit => other ?_⟩
      rw [hit]

private theorem card_discarding (capacity beyond : Nat) :
    (Finset.univ.filter fun index : Fin (capacity + beyond + 1) => capacity ≤ index).card =
      beyond + 1 := by
  have interval : (Finset.univ.filter fun index : Fin (capacity + beyond + 1) => capacity ≤ index) =
      Finset.Ici ⟨capacity, by omega⟩ := by
    ext index
    simp [Fin.le_def]
  rw [interval, Fin.card_Ici]
  simp only
  omega

private theorem card_followedBy_of_not_mem {S : Finset Nat} (absent : capacity + beyond ∉ S) :
    (Finset.univ.filter fun last : Fin (capacity + beyond + 1) × Draws capacity beyond =>
      (last.2.followedBy last.1).survivors = S).card =
      (beyond + 1) * (Finset.univ.filter fun d : Draws capacity beyond => d.survivors = S).card := by
  have choices : (Finset.univ.filter fun last : Fin (capacity + beyond + 1) × Draws capacity beyond =>
      (last.2.followedBy last.1).survivors = S) =
      (Finset.univ.filter fun index : Fin (capacity + beyond + 1) => capacity ≤ index) ×ˢ
        (Finset.univ.filter fun d : Draws capacity beyond => d.survivors = S) := by
    ext ⟨index, d⟩
    simp only [Finset.mem_filter, Finset.mem_univ, true_and, Finset.mem_product]
    by_cases discards : capacity ≤ index
    · simp [survivors_followedBy_of_le d discards, discards]
    · rw [survivors_followedBy_of_lt d (by omega)]
      simp only [discards, false_and, iff_false]
      rintro rfl
      exact absent (Finset.mem_insert_self _ _)
  rw [choices, Finset.card_product, card_discarding]

private theorem card_followedBy_of_lost {S : Finset Nat} {lost : Nat} (absent : lost ∉ S) :
    (Finset.univ.filter fun last : Fin (capacity + beyond + 1) × Draws capacity beyond =>
      (last.1 : Nat) < capacity ∧ last.2.survivors.erase (origin capacity last.2.toList last.1) = S ∧
        origin capacity last.2.toList last.1 = lost).card =
      (Finset.univ.filter fun d : Draws capacity beyond => d.survivors = insert lost S).card := by
  refine Finset.card_bij (fun last _ => last.2) ?_ ?_ ?_
  · rintro ⟨index, d⟩ chosen
    simp only [Finset.mem_filter, Finset.mem_univ, true_and] at chosen ⊢
    obtain ⟨hits, rest, rfl⟩ := chosen
    rw [← rest, Finset.insert_erase]
    exact Finset.mem_image_of_mem _ (Finset.mem_range.mpr hits)
  · rintro ⟨index, d⟩ chosen ⟨index', d'⟩ chosen' same
    simp only [Finset.mem_filter, Finset.mem_univ, true_and] at chosen chosen' same
    subst same
    have slots := origin_injOn d.toList chosen.1 chosen'.1 (chosen.2.2.trans chosen'.2.2.symm)
    rw [Fin.ext slots]
  · intro d whole
    simp only [Finset.mem_filter, Finset.mem_univ, true_and] at whole
    have held : lost ∈ d.survivors := whole ▸ Finset.mem_insert_self lost S
    obtain ⟨slot, inside, holds⟩ := Finset.mem_image.mp held
    have slot_lt := Finset.mem_range.mp inside
    refine ⟨(⟨slot, by omega⟩, d), ?_, rfl⟩
    simp only [Finset.mem_filter, Finset.mem_univ, true_and, holds, and_true]
    exact ⟨slot_lt, by rw [whole, Finset.erase_insert absent]⟩

private theorem card_followedBy_of_mem {S : Finset Nat} (present : capacity + beyond ∈ S) :
    (Finset.univ.filter fun last : Fin (capacity + beyond + 1) × Draws capacity beyond =>
      (last.2.followedBy last.1).survivors = S).card =
      ∑ lost ∈ Finset.range (capacity + beyond) \ S,
        (Finset.univ.filter fun d : Draws capacity beyond =>
          d.survivors = insert lost (S.erase (capacity + beyond))).card := by
  have choices : (Finset.univ.filter fun last : Fin (capacity + beyond + 1) × Draws capacity beyond =>
      (last.2.followedBy last.1).survivors = S) =
      Finset.univ.filter fun last : Fin (capacity + beyond + 1) × Draws capacity beyond =>
        (last.1 : Nat) < capacity ∧
          last.2.survivors.erase (origin capacity last.2.toList last.1) =
            S.erase (capacity + beyond) := by
    refine Finset.filter_congr ?_
    rintro ⟨index, d⟩ _
    have fresh : capacity + beyond ∉ d.survivors := fun old => by
      have below := Finset.mem_range.mp (d.survivors_subset old)
      omega
    by_cases hits : (index : Nat) < capacity
    · have fresh' := fun old => fresh (Finset.mem_of_mem_erase
        (a := origin capacity d.toList index) old)
      rw [survivors_followedBy_of_lt d hits, eq_comm,
        ← Finset.erase_eq_iff_eq_insert present fresh', eq_comm]
      simp only [hits, true_and]
    · have discards : capacity ≤ index := by omega
      rw [survivors_followedBy_of_le d discards]
      simp only [hits, false_and, iff_false]
      rintro rfl
      exact fresh present
  rw [choices, Finset.card_eq_sum_card_fiberwise
    (f := fun last : Fin (capacity + beyond + 1) × Draws capacity beyond =>
      origin capacity last.2.toList last.1) (t := Finset.range (capacity + beyond) \ S)]
  · refine Finset.sum_congr rfl ?_
    intro lost outside
    have absent : lost ∉ S.erase (capacity + beyond) := fun inside =>
      (Finset.mem_sdiff.mp outside).2 (Finset.mem_of_mem_erase inside)
    rw [← card_followedBy_of_lost absent, Finset.filter_filter]
    simp only [and_assoc]
  · rintro ⟨index, d⟩ chosen
    simp only [Finset.coe_filter, Finset.mem_univ, true_and, Set.mem_ofPred_eq] at chosen
    obtain ⟨hits, rest⟩ := chosen
    have below := d.origin_lt_of_slot hits
    refine Finset.mem_coe.mpr (Finset.mem_sdiff.mpr ⟨Finset.mem_range.mpr below, fun inside => ?_⟩)
    have kept : origin capacity d.toList index ∈ S.erase (capacity + beyond) :=
      Finset.mem_erase.mpr ⟨by omega, inside⟩
    rw [← rest] at kept
    exact (Finset.mem_erase.mp kept).1 rfl

private theorem card_survivors_eq (beyond : Nat) {S : Finset Nat}
    (arrivals : S ⊆ Finset.range (capacity + beyond)) (size : S.card = capacity) :
    (Finset.univ.filter fun d : Draws capacity beyond => d.survivors = S).card = beyond ! := by
  -- on the observations past the filling; for every set at once, since the last draw changes the set
  induction beyond generalizing S with
  | zero =>
    have whole : S = Finset.range capacity :=
      Finset.eq_of_subset_of_card_le arrivals (by simp [size])
    simp [survivors_nil, whole]
  | succ beyond ih =>
    rw [card_followedBy, Nat.factorial_succ]
    by_cases present : capacity + beyond ∈ S
    · have earlier : S.erase (capacity + beyond) ⊆ Finset.range (capacity + beyond) := by
        intro arrival survives
        obtain ⟨other, inside⟩ := Finset.mem_erase.mp survives
        have below := Finset.mem_range.mp (arrivals inside)
        exact Finset.mem_range.mpr (by omega)
      have some_slot : 0 < S.card := Finset.card_pos.mpr ⟨_, present⟩
      have one_less := Finset.card_erase_of_mem present
      have outside : Finset.range (capacity + beyond) \ S =
          Finset.range (capacity + beyond) \ S.erase (capacity + beyond) := by
        ext arrival
        simp only [Finset.mem_sdiff, Finset.mem_range, Finset.mem_erase]
        refine and_congr_right fun below => ?_
        have other : arrival ≠ capacity + beyond := by omega
        simp only [other, ne_eq, not_false_eq_true, true_and]
      rw [card_followedBy_of_mem present, Finset.sum_const_nat (m := beyond !)]
      · rw [outside, Finset.card_sdiff_of_subset earlier, Finset.card_range, one_less, size]
        congr 1
        omega
      · intro lost chosen
        obtain ⟨below, absent⟩ := Finset.mem_sdiff.mp chosen
        refine ih (Finset.insert_subset below earlier) ?_
        rw [Finset.card_insert_of_notMem fun inside => absent (Finset.mem_of_mem_erase inside),
          one_less]
        omega
    · rw [card_followedBy_of_not_mem present, ih ?_ size]
      intro arrival survives
      have below := Finset.mem_range.mp (arrivals survives)
      have other : arrival ≠ capacity + beyond := fun same => present (same ▸ survives)
      exact Finset.mem_range.mpr (by omega)

private theorem card_filter_mem_survivors (beyond : Nat) {arrival : Nat}
    (arrived : arrival < capacity + beyond) (slots : 1 ≤ capacity) :
    (Finset.univ.filter fun d : Draws capacity beyond => arrival ∈ d.survivors).card =
      (capacity + beyond - 1).choose (capacity - 1) * beyond ! := by
  have subset : {arrival} ⊆ Finset.range (capacity + beyond) :=
    Finset.singleton_subset_iff.mpr (Finset.mem_range.mpr arrived)
  have sets := Finset.card_filter_powersetCard_subset {arrival}
    (Finset.range (capacity + beyond)) capacity subset slots
  rw [Finset.card_range, Finset.card_singleton] at sets
  rw [← sets, Finset.card_eq_sum_card_fiberwise (f := survivors) (t := (Finset.powersetCard capacity
    (Finset.range (capacity + beyond))).filter fun S => {arrival} ⊆ S)]
  · refine Finset.sum_const_nat fun S chosen => ?_
    obtain ⟨inside, holds⟩ := Finset.mem_filter.mp chosen
    obtain ⟨arrivals, size⟩ := Finset.mem_powersetCard.mp inside
    rw [← card_survivors_eq beyond arrivals size, Finset.filter_filter]
    congr 1
    refine Finset.filter_congr fun d _ => ?_
    constructor
    · exact fun both => both.2
    · rintro rfl
      exact ⟨Finset.singleton_subset_iff.mp holds, rfl⟩
  · intro d survives
    refine Finset.mem_coe.mpr (Finset.mem_filter.mpr ⟨Finset.mem_powersetCard.mpr
      ⟨d.survivors_subset, d.card_survivors⟩, Finset.singleton_subset_iff.mpr ?_⟩)
    exact (Finset.mem_filter.mp (Finset.mem_coe.mp survives)).2

private theorem card_surviving (beyond : Nat) {arrival : Nat} (arrived : arrival < capacity + beyond) :
    (capacity + beyond) *
        (Finset.univ.filter fun d : Draws capacity beyond => arrival ∈ d.survivors).card =
      capacity * Fintype.card (Draws capacity beyond) := by
  cases capacity with
  | zero => simp [survivors]
  | succ slots =>
    rw [card_filter_mem_survivors beyond arrived (by omega)]
    have all := factorial_mul_card (slots + 1) beyond
    have choices := Nat.add_choose_mul_factorial_mul_factorial slots beyond
    rw [show slots + 1 + beyond - 1 = slots + beyond by omega, Nat.add_sub_cancel]
    refine Nat.eq_of_mul_eq_mul_left (Nat.factorial_pos slots) ?_
    calc slots ! * ((slots + 1 + beyond) * ((slots + beyond).choose slots * beyond !))
        = (slots + 1 + beyond) * ((slots + beyond).choose slots * slots ! * beyond !) := by ring
      _ = (slots + beyond + 1) * (slots + beyond)! := by
          rw [Nat.choose_symm_add, choices, Nat.add_right_comm]
      _ = (slots + 1 + beyond)! := by
          rw [← Nat.factorial_succ, Nat.add_right_comm]
      _ = slots ! * ((slots + 1) * Fintype.card (Draws (slots + 1) beyond)) := by
          rw [← all, Nat.factorial_succ]
          ring

private theorem coe_held (d : Draws capacity beyond) :
    (held capacity d.toList (capacity + beyond) : Multiset Nat) = d.survivors.val := by
  have slots : min (capacity + beyond) capacity = capacity := by omega
  rw [held, slots, survivors, Finset.image_val_of_injOn]
  · rfl
  · intro slot inside other inside' same
    exact origin_injOn d.toList (Finset.mem_range.mp inside) (Finset.mem_range.mp inside') same

end Draws

variable {σ : Type}

/-- The arrivals that a sample holds, slot by slot, after so many observations. -/
def arrivalsHeld (draw : σ → Nat → Option (Nat × σ)) (capacity count : Nat) (start : σ) : List Nat :=
  ((UniformSample.empty capacity start).offer draw (List.range count)).2.samples.toList

/-- Where the draws can be made, every observation is taken, and what the sample holds is decided by
the draws. -/
private theorem offer_map_range {α : Type} {draw : σ → Nat → Option (Nat × σ)} {capacity count : Nat}
    {start last : σ} {draws : List Nat}
    (drawn : drawAll draw (capacity + 1) start (count - capacity) = some (draws, last))
    (observation : Nat → α) :
    ((UniformSample.empty capacity start).offer draw ((List.range count).map observation)).1 =
        (List.range count).map observation ∧
      ((UniformSample.empty capacity start).offer draw
        ((List.range count).map observation)).2.samples.toList =
          (held capacity draws count).map observation := by
  have start_account := Account.ofEmpty (α := α) draw capacity start
  have enough : (drawAll draw (capacity + 1) start
      (([] ++ (List.range count).map observation).length - capacity)).isSome := by simp [drawn]
  have taken := start_account.offer_of_isSome enough
  obtain ⟨more, account⟩ := start_account.offer ((List.range count).map observation)
  rw [List.nil_append, taken] at account
  have same := account.drawn
  rw [List.length_map, List.length_range, drawn, Option.some.injEq, Prod.mk.injEq] at same
  obtain ⟨rfl, _⟩ := same
  refine ⟨taken, ?_⟩
  rw [account.samples_eq, List.length_map, List.length_range, ← List.filterMap_eq_map]
  refine List.filterMap_congr ?_
  intro arrival present
  have arrived := held_lt (length_of_drawAll drawn) present
  simp [arrived]

private theorem arrivalsHeld_eq {draw : σ → Nat → Option (Nat × σ)} {capacity count : Nat}
    {start last : σ} {draws : List Nat}
    (drawn : drawAll draw (capacity + 1) start (count - capacity) = some (draws, last)) :
    arrivalsHeld draw capacity count start = held capacity draws count := by
  have run := (offer_map_range drawn id).2
  simpa [arrivalsHeld] using run

/-- Let sources of draws supply every sequence of draws that observations past the capacity can cost.
There are `(C + n)! / C!` of them; whatever is observed, the sample holds the observations of the
arrivals held; each set of `C` arrivals is held after exactly `n!` sequences, and each arrival after
the share `C / (C + n)` of all. -/
theorem card_draws_holding (draw : σ → Nat → Option (Nat × σ)) (capacity beyond : Nat)
    (source : Draws capacity beyond → σ)
    (supplied : ∀ d, (drawAll draw (capacity + 1) (source d) beyond).map Prod.fst =
      some d.toList) :
    capacity ! * Fintype.card (Draws capacity beyond) = (capacity + beyond)! ∧
    (∀ (α : Type) (observation : Nat → α) (d : Draws capacity beyond),
      ((UniformSample.empty capacity (source d)).offer draw
          ((List.range (capacity + beyond)).map observation)).1 =
        (List.range (capacity + beyond)).map observation ∧
      ((UniformSample.empty capacity (source d)).offer draw
          ((List.range (capacity + beyond)).map observation)).2.samples.toList =
        (arrivalsHeld draw capacity (capacity + beyond) (source d)).map observation) ∧
    (∀ S ⊆ Finset.range (capacity + beyond), S.card = capacity →
      (Finset.univ.filter fun d => (arrivalsHeld draw capacity (capacity + beyond) (source d) :
        Multiset Nat) = S.val).card = beyond !) ∧
    ∀ arrival < capacity + beyond,
      (capacity + beyond) * (Finset.univ.filter fun d =>
          arrival ∈ arrivalsHeld draw capacity (capacity + beyond) (source d)).card =
        capacity * Fintype.card (Draws capacity beyond) := by
  have drawn (d : Draws capacity beyond) : ∃ last, drawAll draw (capacity + 1) (source d)
      (capacity + beyond - capacity) = some (d.toList, last) := by
    obtain ⟨⟨draws, last⟩, found, rfl⟩ := Option.map_eq_some_iff.mp (supplied d)
    exact ⟨last, by rwa [Nat.add_sub_cancel_left]⟩
  have holding (d : Draws capacity beyond) :
      (arrivalsHeld draw capacity (capacity + beyond) (source d) : Multiset Nat) =
        d.survivors.val := by
    obtain ⟨last, found⟩ := drawn d
    rw [arrivalsHeld_eq found, Draws.coe_held]
  refine ⟨Draws.factorial_mul_card capacity beyond, ?_, ?_, ?_⟩
  · intro α observation d
    obtain ⟨last, found⟩ := drawn d
    rw [arrivalsHeld_eq found]
    exact offer_map_range found observation
  · intro S arrivals size
    simp only [holding, Finset.val_inj]
    exact Draws.card_survivors_eq beyond arrivals size
  · intro arrival arrived
    simp only [← Multiset.mem_coe, holding, Finset.mem_val]
    exact Draws.card_surviving beyond arrived

/-- A stream whose words are the draws, one after the other. -/
def wordsOf {capacity beyond : Nat} (d : Draws capacity beyond) : WordStream :=
  ⟨.system fun position => UInt64.ofNat (d.toList.getD position 0), 0⟩

/-- With one slot and three observations the second one is left by two of the six sequences. -/
theorem card_draws_holding_second :
    (∀ d : Draws 1 2, (drawAll WordStream.below 2 (wordsOf d) 2).map Prod.fst = some d.toList) ∧
      (Finset.univ.filter fun d : Draws 1 2 =>
        (arrivalsHeld WordStream.below 1 3 (wordsOf d) : Multiset Nat) = {1}).card = 2 := by
  have supplied : ∀ d : Draws 1 2,
      (drawAll WordStream.below 2 (wordsOf d) 2).map Prod.fst = some d.toList := by
    decide +kernel
  exact ⟨supplied, (card_draws_holding WordStream.below 1 2 wordsOf supplied).2.2.1 {1}
    (by decide) rfl⟩

end SampledMetrics.UniformSample
