import SampledMetrics.Proofs.Snapshot.Finiteness
import SampledMetrics.Proofs.Statistics.Mean
/-!
The mean of a snapshot beside its least and its greatest sample.  Main statement: the mean of finite binary64
samples is finite, and passes an end of them by at most one number for the rounding of their sum and one for
that of their count, of which each is left out where it moves nothing.
-/

set_option autoImplicit false
set_option relaxedAutoImplicit false

namespace SampledMetrics

open Statistics (exactUnits excess WithinSteps meanUnits)

namespace Binary64

def isAbove (x bound : Binary64) : Bool :=
  bound.lt x

def isBelow (x bound : Binary64) : Bool :=
  x.lt bound

/-- Not past a bound, on one side of it, by more than so many numbers. -/
def PassesBy (isPast : Binary64 → Binary64 → Bool) : Nat → Binary64 → Binary64 → Prop
  | 0, bound, x => isPast x bound = false
  | steps + 1, bound, x => ∀ next, isPast next bound → PassesBy isPast steps next x

variable {x bound : Binary64} {u b : Int}

private theorem passesBy_isBelow_iff (steps : Nat) (bound x : Binary64) :
    PassesBy isBelow steps bound x ↔ PassesBy isAbove steps bound.neg x.neg := by
  induction steps generalizing bound with
  | zero => rw [PassesBy, PassesBy, isBelow, isAbove, neg_lt_neg]
  | succ steps ih =>
    unfold PassesBy
    constructor
    · intro below next past
      have mirrored : isBelow next.neg bound := by
        rwa [isAbove, ← neg_neg next, neg_lt_neg] at past
      have kept := (ih next.neg).mp (below next.neg mirrored)
      rwa [neg_neg] at kept
    · intro above next past
      refine (ih next).mpr (above next.neg ?_)
      rwa [isAbove, neg_lt_neg]

private theorem passesBy_top {next : Binary64} (place : next.place? = some .top) (steps : Nat) (x : Binary64) :
    PassesBy isAbove steps next x := by
  have none (y : Binary64) : isAbove y next = false := by
    unfold isAbove lt
    rw [place]
    cases y.place? with
    | none => rfl
    | some here => cases here <;> rfl
  cases steps with
  | zero => exact none x
  | succ steps =>
    intro other past
    rw [none] at past
    contradiction

private theorem passesBy_of_withinSteps {steps : Nat} (bound_place : bound.place? = some (.whole b))
    (place : x.place? = some (.whole u)) (within : WithinSteps steps b u) : PassesBy isAbove steps bound x := by
  induction steps generalizing bound b with
  | zero =>
    rw [PassesBy, isAbove, lt_of_place? bound_place place]
    exact decide_eq_false (Int.not_lt.mpr within)
  | succ steps ih =>
    intro next past
    unfold isAbove lt at past
    rw [bound_place] at past
    cases next_place : next.place? with
    | none =>
      rw [next_place] at past
      contradiction
    | some here =>
      rw [next_place] at past
      cases here with
      | bottom => contradiction
      | top => exact passesBy_top next_place steps x
      | whole n =>
        exact ih next_place (within n (onGrid_of_place? next_place) (of_decide_eq_true past))

end Binary64

namespace Snapshot

open Binary64 (PassesBy isAbove isBelow)

section Ordered

variable {ordered : List Binary64}

private theorem place?_exactUnits {x : Binary64} (finite : x.isFinite) : x.place? = some (.whole (exactUnits x)) := by
  obtain ⟨units, place⟩ := Binary64.isFinite_iff.mp finite
  rw [Statistics.exactUnits_eq_of_place? place, place]

private theorem exactUnits_mono (ascend : ordered.Pairwise fun x y => (Number.float x).le (.float y))
    (finite : ∀ x ∈ ordered, x.isFinite) {i j : Nat} (le : i ≤ j) (inside : j < ordered.length) :
    exactUnits ordered[i] ≤ exactUnits ordered[j] := by
  rcases Nat.lt_or_eq_of_le le with below | rfl
  · have before := List.pairwise_iff_getElem.mp ascend i j (by omega) inside below
    have left := place?_exactUnits (finite _ (List.getElem_mem (by omega : i < ordered.length)))
    have right := place?_exactUnits (finite _ (List.getElem_mem inside))
    exact (Number.le_iff_of_place? (x := .float _) (y := .float _) left right).mp before
  · exact Int.le_refl _

private theorem exactUnits_between (nonempty : ordered ≠ [])
    (ascend : ordered.Pairwise fun x y => (Number.float x).le (.float y))
    (finite : ∀ x ∈ ordered, x.isFinite) :
    ∀ x ∈ ordered, exactUnits (ordered.head nonempty) ≤ exactUnits x ∧
      exactUnits x ≤ exactUnits (ordered.getLast nonempty) := by
  intro x present
  obtain ⟨index, inside, rfl⟩ := List.mem_iff_getElem.mp present
  rw [List.head_eq_getElem, List.getLast_eq_getElem]
  exact ⟨exactUnits_mono ascend finite (Nat.zero_le _) inside,
    exactUnits_mono ascend finite (by omega) (by omega)⟩

private theorem mean_passesBy_ends (nonempty : ordered ≠ [])
    (ascend : ordered.Pairwise fun x y => (Number.float x).le (.float y))
    (finite : ∀ x ∈ ordered, x.isFinite) {m : Binary64}
    (place : m.place? = some (.whole (meanUnits (Statistics.partsSum ordered) ordered.length))) :
    PassesBy isBelow (excess ordered.length
        + excess (ordered.length * (exactUnits (ordered.head nonempty)).natAbs))
        (ordered.head nonempty) m ∧
      PassesBy isAbove (excess ordered.length
        + excess (ordered.length * (exactUnits (ordered.getLast nonempty)).natAbs))
        (ordered.getLast nonempty) m := by
  have positive := List.length_pos_iff.mpr nonempty
  have between := exactUnits_between nonempty ascend finite
  have first := place?_exactUnits (finite _ (List.head_mem nonempty))
  have last := place?_exactUnits (finite _ (List.getLast_mem nonempty))
  constructor
  · have least : -Statistics.partsSum ordered ≤ ordered.length * -exactUnits (ordered.head nonempty) := by
      rw [Int.mul_neg]
      exact Int.neg_le_neg (Statistics.le_partsSum fun x present => (between x present).1)
    have grid := Binary64.onGrid_of_place? (Binary64.place?_neg first)
    have mirrored := Statistics.withinSteps_mean positive grid least
    rw [Statistics.meanUnits_neg, Int.natAbs_neg] at mirrored
    exact (Binary64.passesBy_isBelow_iff _ _ _).mpr
      (Binary64.passesBy_of_withinSteps (Binary64.place?_neg first) (Binary64.place?_neg place) mirrored)
  · have most := Statistics.partsSum_le fun x present => (between x present).2
    have within := Statistics.withinSteps_mean positive (Binary64.onGrid_of_place? last) most
    exact Binary64.passesBy_of_withinSteps last place within

end Ordered

/-- The mean of finite samples is finite, and passes the least and the greatest sample by at most one number
for each of the two roundings that move something. -/
theorem mean_passesBy {samples : List Binary64} (nonempty : samples ≠ [])
    (finite : ∀ x ∈ samples, x.isFinite)
    (few : (Number.int (samples.length : Int)).inRange) {s : Snapshot}
    (made : Snapshot.ofValues (samples.map .float) = .ok s) {m : Binary64} (given : s.mean = .ok m) :
    ∃ low high, s.min = .float low ∧ s.max = .float high ∧ m.isFinite ∧
      PassesBy isBelow
        (excess samples.length + excess (samples.length * (exactUnits low).natAbs)) low m ∧
      PassesBy isAbove
        (excess samples.length + excess (samples.length * (exactUnits high).natAbs)) high m := by
  have measured : ∀ x ∈ samples, x.isNaN = false := fun x present =>
    Number.isNaN_of_fits (x := .float x) (finite x present)
  have perm := ascending_perm samples
  have ascend := ascending_pairwise measured
  obtain rfl := Except.ok.inj ((ofValues_ascending measured).symm.trans made)
  generalize ascending samples = ordered at perm ascend given ⊢
  have held : ∀ x ∈ ordered, x.isFinite := fun x present => finite x (perm.mem_iff.mp present)
  have some : ordered ≠ [] := fun none => nonempty (perm.symm.trans (none ▸ .refl _)).eq_nil
  rw [← perm.length_eq] at few ⊢
  rw [← map_number_float] at given ⊢
  have numbers : ordered.map Number.float ≠ [] := by simpa using some
  have full : ((ordered.map Number.float).map Value.number).isEmpty = false := by simpa using some
  unfold Snapshot.mean at given
  rw [full, if_neg Bool.false_ne_true] at given
  have place := Statistics.place?_mean some held few given
  refine ⟨ordered.head some, ordered.getLast some, ?_, ?_, Binary64.isFinite_iff.mpr ⟨_, place⟩,
    mean_passesBy_ends some ascend held place⟩
  · rw [min_numbers numbers, List.head_map]
    rfl
  · rw [max_numbers numbers, List.getLast_map]
    rfl

/-- One tenth, rounded up. -/
def tenth : Binary64 :=
  Binary64.ofRatio false 1 10

/-- A third of three tenths. -/
def pastTenth : Binary64 :=
  ((tenth.add tenth).add tenth).div (Binary64.ofInt 3)

private theorem tenths_computed :
    (∀ x ∈ [tenth, tenth, tenth], x.isFinite ∧ x.isNaN = false) ∧
    ([tenth, tenth, tenth].Pairwise fun x y => (Number.float x).le (.float y)) ∧
    (Snapshot.mean ⟨[tenth, tenth, tenth].map .float⟩).toOption = some pastTenth ∧ tenth.lt pastTenth := by
  decide +kernel

private theorem ofValues_tenths : Snapshot.ofValues ([tenth, tenth, tenth].map .float) =
    .ok ⟨[tenth, tenth, tenth].map .float⟩ := by
  obtain ⟨ordinary, ordered, -⟩ := tenths_computed
  have sorted : ascending [tenth, tenth, tenth] = [tenth, tenth, tenth] := List.mergeSort_of_pairwise ordered
  have made := ofValues_ascending fun x present => (ordinary x present).2
  rwa [sorted] at made

private theorem mean_tenths : Snapshot.mean ⟨[tenth, tenth, tenth].map .float⟩ = .ok pastTenth :=
  Failure.eq_ok_of_toOption tenths_computed.2.2.1

/-- Three tenths need more than 53 bits, so that their mean may be one number past them. -/
theorem mean_passesBy_tenths :
    (∀ x ∈ [tenth, tenth, tenth], x.isFinite) ∧
    ∃ low high, Snapshot.min ⟨[tenth, tenth, tenth].map .float⟩ = .float low ∧
      Snapshot.max ⟨[tenth, tenth, tenth].map .float⟩ = .float high ∧ pastTenth.isFinite ∧
      PassesBy isBelow (excess 3 + excess (3 * (exactUnits low).natAbs)) low pastTenth ∧
      PassesBy isAbove (excess 3 + excess (3 * (exactUnits high).natAbs)) high pastTenth := by
  have finite : ∀ x ∈ [tenth, tenth, tenth], x.isFinite := fun x present => (tenths_computed.1 x present).1
  have few : (Number.int (([tenth, tenth, tenth].length : Nat) : Int)).inRange :=
    (Number.inRange_int _).mpr (Nat.lt_trans (by decide) Binary64.pow_lt_integerLimit)
  exact ⟨finite, mean_passesBy (List.cons_ne_nil _ _) finite few ofValues_tenths mean_tenths⟩

/-- The mean of three tenths is above all of them. -/
theorem mean_tenths_above :
    ∃ s, Snapshot.ofValues ([tenth, tenth, tenth].map .float) = .ok s ∧ s.max = .float tenth ∧
      s.mean = .ok pastTenth ∧ tenth.lt pastTenth :=
  ⟨_, ofValues_tenths, rfl, mean_tenths, tenths_computed.2.2.2⟩

end Snapshot

end SampledMetrics
