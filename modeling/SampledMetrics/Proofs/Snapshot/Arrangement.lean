import SampledMetrics.Extractor
import SampledMetrics.Proofs.Snapshot.Percentile
import SampledMetrics.Proofs.Statistics.Twins
/-!
Snapshots of the same values in another arrangement.  Sorting leaves equal numbers in the order in which
they came, so two arrangements may differ wherever an integer and a binary64 number, or the two zeros,
stand side by side.  Main statement: every statistic comes out at the same place, or fails the same way.
-/

set_option autoImplicit false
set_option relaxedAutoImplicit false

namespace SampledMetrics

open Binary64 (Alike)

namespace Number

/-- Numerically equal, or both not-a-number. -/
def Agrees (x y : Number) : Prop :=
  x.same y ∨ x.isNaN ∧ y.isNaN

private theorem isNaN_of_place? {x : Number} (nowhere : x.place? = none) : x.isNaN := by
  cases number : x.isNaN with
  | true => rfl
  | false =>
    have somewhere := place?_isSome_of_not_isNaN number
    rw [nowhere] at somewhere
    contradiction

private theorem agrees_of_place? {x y : Number} (same : x.place? = y.place?) : x.Agrees y := by
  cases place : x.place? with
  | none => exact .inr ⟨isNaN_of_place? place, isNaN_of_place? (same.symm.trans place)⟩
  | some here => exact .inl (same_iff.mpr ⟨here, place, same.symm.trans place⟩)

theorem Twin.agrees {x y : Number} (twin : x.Twin y) : x.Agrees y :=
  agrees_of_place? twin.place?_eq

private theorem agrees_of_alike {a b : Binary64} (alike : a.Alike b) : (Number.float a).Agrees (.float b) :=
  agrees_of_place? alike

private theorem twins_of_units {xs ys : List Number} (fits : ∀ x ∈ xs, x.fits) (fits' : ∀ y ∈ ys, y.fits)
    (same : xs.map units = ys.map units) : List.Forall₂ Twin xs ys := by
  induction xs generalizing ys with
  | nil =>
    obtain rfl := List.map_eq_nil_iff.mp same.symm
    exact .nil
  | cons x xs ih =>
    cases ys with
    | nil => contradiction
    | cons y ys =>
      obtain ⟨first, others⟩ := List.cons.inj same
      obtain ⟨fits_x, fits_xs⟩ := List.forall_mem_cons.mp fits
      obtain ⟨fits_y, fits_ys⟩ := List.forall_mem_cons.mp fits'
      exact .cons ⟨fits_x, fits_y, first⟩ (ih fits_xs fits_ys others)

private theorem fits_sorted {xs : List Number} (fits : ∀ x ∈ xs, x.fits) : ∀ x ∈ sorted xs, x.fits :=
  fun x present => fits x ((sorted_perm xs).mem_iff.mp present)

private theorem units_ascending {xs : List Number} (fits : ∀ x ∈ xs, x.fits) :
    ((sorted xs).map units).Pairwise (· ≤ ·) := by
  rw [List.pairwise_map]
  have ordered := sorted_pairwise fun x present => isNaN_of_fits (fits x present)
  refine ordered.imp_of_mem fun hx hy le => ?_
  exact (le_iff_of_place? (place?_of_fits (fits_sorted fits _ hx))
    (place?_of_fits (fits_sorted fits _ hy))).mp le

/-- Two arrangements of the same numbers, once sorted, agree place by place. -/
theorem twins_sorted {xs ys : List Number} (fits : ∀ x ∈ xs, x.fits) (perm : xs.Perm ys) :
    List.Forall₂ Twin (sorted xs) (sorted ys) := by
  have fits' : ∀ y ∈ ys, y.fits := fun y present => fits y (perm.mem_iff.mpr present)
  have rearranged := ((sorted_perm xs).trans (perm.trans (sorted_perm ys).symm)).map units
  refine twins_of_units (fits_sorted fits) (fits_sorted fits') ?_
  exact rearranged.eq_of_pairwise (fun _ _ _ _ => Int.le_antisymm) (units_ascending fits)
    (units_ascending fits')

end Number

namespace Snapshot

variable {xs ys : List Number}

private theorem isFinite_ofInt_sub {value value' : Int} (fits : (Number.int value).fits)
    (fits' : (Number.int value').fits) : (Binary64.ofInt (value - value')).isFinite := by
  have few : value.natAbs ≤ Nat.pow 2 53 := of_decide_eq_true fits
  have few' : value'.natAbs ≤ Nat.pow 2 53 := of_decide_eq_true fits'
  have range : 2 * Nat.pow 2 53 < Binary64.integerLimit := Binary64.pow_lt_integerLimit
  exact (Binary64.isFinite_ofInt_iff _).mpr (by omega)

private theorem ofInt_sub_alike {value value' : Int} {a b : Binary64} (fits : (Number.int value).fits)
    (fits' : (Number.int value').fits) (converted : (Number.int value).toBinary64? = some a)
    (converted' : (Number.int value').toBinary64? = some b) :
    (Binary64.ofInt (value - value')).Alike (a.sub b) := by
  obtain ⟨real, known, place⟩ := Number.toBinary64?_of_fits fits
  obtain rfl := Option.some.inj (converted.symm.trans known)
  obtain ⟨real, known, place'⟩ := Number.toBinary64?_of_fits fits'
  obtain rfl := Option.some.inj (converted'.symm.trans known)
  have finite := isFinite_ofInt_sub fits fits'
  have rounded := finite
  rw [Binary64.isFinite_ofInt, decide_eq_true_iff] at rounded
  have exact : (Number.int value).units - (Number.int value').units =
      (value - value') * Binary64.unitsPerOne := by
    rw [Number.units_int, Number.units_int, Int.sub_mul]
  have difference := Binary64.place?_sub place place'
  rw [exact] at difference
  exact (Binary64.place?_ofInt finite).trans (difference rounded).symm

private theorem exists_sub_of_fits {x y : Number} {a b : Binary64} (fits : x.fits) (fits' : y.fits)
    (converted : x.toBinary64? = some a) (converted' : y.toBinary64? = some b) :
    ∃ distance real, x.sub y = some distance ∧ distance.toBinary64? = some real ∧
      real.Alike (a.sub b) := by
  cases x with
  | float value =>
    obtain rfl : value = a := Option.some.inj converted
    exact ⟨_, _, Number.float_sub converted', Number.toBinary64?_float _, .refl _⟩
  | int value =>
    cases y with
    | float value' =>
      obtain rfl : value' = b := Option.some.inj converted'
      exact ⟨_, _, Number.sub_float converted, Number.toBinary64?_float _, .refl _⟩
    | int value' =>
      refine ⟨_, Binary64.ofInt (value - value'), Number.int_sub_int _ _, ?_,
        ofInt_sub_alike fits fits' converted converted'⟩
      rw [Number.toBinary64?_int, if_pos (isFinite_ofInt_sub fits fits')]

private theorem interpolate_of_fits {low high : Number} {a b : Binary64} (fits : low.fits) (fits' : high.fits)
    (converted : low.toBinary64? = some a) (converted' : high.toBinary64? = some b) (fraction : Binary64) :
    ∃ point, interpolate (.number low) (.number high) (.float fraction) = .ok (.float point) ∧
      point.Alike (a.add (fraction.mul (b.sub a))) := by
  obtain ⟨distance, real, difference, rounded, alike⟩ :=
    exists_sub_of_fits fits' fits converted' converted
  refine ⟨a.add (fraction.mul real), ?_, ?_⟩
  · have part := Number.float_mul (x := fraction) rounded
    have point := Number.add_float (y := fraction.mul real) converted
    simp only [interpolate, Value.asNumber?, Value.number?, Number.orTooLarge, difference, part, point,
      bind, Except.bind]
  · exact (Alike.refl a).add (alike.mul_right fraction)

private theorem interpolate_twins {low low' high high' : Number} (below : low.Twin low') (above : high.Twin high')
    (fraction : Binary64) :
    Both Number.Agrees (interpolate (.number low) (.number high) (.float fraction))
      (interpolate (.number low') (.number high') (.float fraction)) := by
  obtain ⟨a, a', converted, converted', lows, -⟩ := below.exists_alike
  obtain ⟨b, b', converted₂, converted₂', highs, -⟩ := above.exists_alike
  obtain ⟨point, at_point, alike⟩ :=
    interpolate_of_fits below.left above.left converted converted₂ fraction
  obtain ⟨point', at_point', alike'⟩ :=
    interpolate_of_fits below.right above.right converted' converted₂' fraction
  have distance := (highs.sub lows).mul_right fraction
  rw [at_point, at_point']
  exact .ok (Number.agrees_of_alike (alike.trans ((lows.add distance).trans alike'.symm)))

/-- A value that is a number, beside one that is its twin. -/
def Twins (v v' : Value) : Prop :=
  ∃ x y, v = .number x ∧ v' = .number y ∧ x.Twin y

private theorem min_twins (twins : List.Forall₂ Number.Twin xs ys) :
    Twins (Snapshot.min ⟨xs.map .number⟩) (Snapshot.min ⟨ys.map .number⟩) := by
  cases twins with
  | nil => exact ⟨_, _, rfl, rfl, by decide, by decide, rfl⟩
  | cons first _ => exact ⟨_, _, rfl, rfl, first⟩

private theorem max_twins (twins : List.Forall₂ Number.Twin xs ys) :
    Twins (Snapshot.max ⟨xs.map .number⟩) (Snapshot.max ⟨ys.map .number⟩) := by
  unfold Snapshot.max
  rw [List.getLast?_eq_head?_reverse, List.getLast?_eq_head?_reverse, ← List.map_reverse,
    ← List.map_reverse]
  exact min_twins (List.forall₂_reverse_iff.mpr twins)

private theorem toBinary64_twins {v v' : Value} (twins : Twins v v') :
    Both Number.Agrees (v.toBinary64.map .float) (v'.toBinary64.map .float) := by
  obtain ⟨x, y, rfl, rfl, twin⟩ := twins
  obtain ⟨a, b, converted, converted', alike, -⟩ := twin.exists_alike
  rw [Value.toBinary64_number converted, Value.toBinary64_number converted']
  exact .ok (Number.agrees_of_alike alike)

private theorem fractionPart_float (position : Binary64) :
    fractionPart (.float position) = none ∨
      ∃ fraction, fractionPart (.float position) = some (.float fraction) := by
  unfold fractionPart
  cases (Number.float position).floor? with
  | none => exact .inl rfl
  | some whole =>
    rw [Option.bind_some, Number.sub, Number.combine_float_left]
    cases (Number.int whole).toBinary64? with
    | none => exact .inl rfl
    | some real => exact .inr ⟨_, rfl⟩

private theorem size_twins (twins : List.Forall₂ Number.Twin xs ys) :
    size ⟨xs.map .number⟩ = size ⟨ys.map .number⟩ := by
  unfold size
  rw [List.length_map, List.length_map, twins.length_eq]

private theorem isEmpty_twins (twins : List.Forall₂ Number.Twin xs ys) :
    (xs.map Value.number).isEmpty = (ys.map Value.number).isEmpty := by
  cases twins <;> rfl

private theorem atPosition_twins (twins : List.Forall₂ Number.Twin xs ys) (position : Binary64) :
    Both Number.Agrees (atPosition ⟨xs.map .number⟩ (.float position))
      (atPosition ⟨ys.map .number⟩ (.float position)) := by
  unfold atPosition
  dsimp only
  -- the rounded position and the number of samples decide the branch, and both sides share them
  by_cases before : (Number.float position).truncate?.getD 0 < 1
  · rw [dif_pos before, dif_pos before]
    exact toBinary64_twins (min_twins twins)
  rw [dif_neg before, dif_neg before]
  by_cases beyond : size ⟨xs.map .number⟩ ≤ (Number.float position).truncate?.getD 0
  · have beyond' := beyond
    rw [size_twins twins] at beyond'
    rw [dif_pos beyond, dif_pos beyond']
    exact toBinary64_twins (max_twins twins)
  · have inside := beyond
    rw [size_twins twins] at inside
    rw [dif_neg beyond, dif_neg inside]
    unfold size at beyond inside
    rw [List.length_map] at beyond inside
    rcases fractionPart_float position with missing | ⟨fraction, part⟩
    · rw [missing]
      exact .error _
    · rw [part]
      simp only [List.getElem_map]
      exact interpolate_twins (twins.get (by omega) (by omega)) (twins.get (by omega) (by omega)) fraction

private theorem quantile_twins (twins : List.Forall₂ Number.Twin xs ys) (q : Binary64) :
    Both Number.Agrees (quantile ⟨xs.map .number⟩ (.float q))
      (quantile ⟨ys.map .number⟩ (.float q)) := by
  unfold quantile
  rw [Number.toBinary64?_float, size_twins twins, isEmpty_twins twins]
  change Both _ (if _ then _ else _) (if _ then _ else _)
  split
  · exact .error _
  · split
    · exact .ok (Number.agrees_of_alike (.refl _))
    · rw [Number.mul, Number.combine_float_left]
      cases (Number.int (size ⟨ys.map .number⟩ + 1)).toBinary64? with
      | none => exact .error _
      | some count => exact atPosition_twins twins (q.mul count)

private theorem valueAtPercentile_twins (twins : List.Forall₂ Number.Twin xs ys) (p : Value) :
    Both Number.Agrees (valueAtPercentile ⟨xs.map .number⟩ p)
      (valueAtPercentile ⟨ys.map .number⟩ p) := by
  unfold valueAtPercentile
  cases p.asNumber? with
  | none => exact .error _
  | some number =>
    change Both _ (percentile _ number) (percentile _ number)
    unfold percentile
    cases number.hundredth? with
    | none => exact .error _
    | some q => exact quantile_twins twins q

theorem mean_twins (twins : List.Forall₂ Number.Twin xs ys) :
    Both Eq (Snapshot.mean ⟨xs.map .number⟩) (Snapshot.mean ⟨ys.map .number⟩) := by
  unfold Snapshot.mean
  rw [Statistics.mean_twins twins, isEmpty_twins twins]
  exact .refl _

private theorem stddev_twins (twins : List.Forall₂ Number.Twin xs ys) :
    Both Eq (Snapshot.stddev ⟨xs.map .number⟩) (Snapshot.stddev ⟨ys.map .number⟩) := by
  unfold Snapshot.stddev
  rw [Statistics.deviation_twins twins, size_twins twins]
  exact .refl _

end Snapshot

/-- Values that are numbers, equal ones or both not-a-number. -/
def Value.Agrees (v v' : Value) : Prop :=
  ∃ x y, v = .number x ∧ v' = .number y ∧ x.Agrees y

theorem Extractor.apply_twins {xs ys : List Number} (twins : List.Forall₂ Number.Twin xs ys) (e : Extractor) :
    Both Value.Agrees (e.apply ⟨xs.map .number⟩) (e.apply ⟨ys.map .number⟩) := by
  have numbers (x y : Number) (agrees : x.Agrees y) : Value.Agrees (.number x) (.number y) :=
    ⟨x, y, rfl, rfl, agrees⟩
  have reals (a b : Binary64) (same : a = b) : Value.Agrees (.float a) (.float b) := by
    rw [same]
    exact numbers _ _ (Number.agrees_of_alike (.refl b))
  unfold Extractor.apply
  cases e with
  | min =>
    obtain ⟨x, y, min, min', twin⟩ := Snapshot.min_twins twins
    exact .ok ⟨x, y, min, min', twin.agrees⟩
  | max =>
    obtain ⟨x, y, max, max', twin⟩ := Snapshot.max_twins twins
    exact .ok ⟨x, y, max, max', twin.agrees⟩
  | mean => exact (Snapshot.mean_twins twins).map reals
  | stddev => exact (Snapshot.stddev_twins twins).map reals
  | percentile p => exact (Snapshot.valueAtPercentile_twins twins p).map numbers

end SampledMetrics
