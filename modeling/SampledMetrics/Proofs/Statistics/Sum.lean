import SampledMetrics.Proofs.Number
import SampledMetrics.Statistics
/-!
When the sum of numbers is given.  A sample is added to the parts of the expansion one after the other,
smallest first, and each of these sums must stay finite; samples that are not finite start the expansion
afresh.  Main statement: the sum is given exactly when every integer has a nearest binary64 number,
the two infinities are not both among the samples, and all partial sums stay finite.
-/

set_option autoImplicit false
set_option relaxedAutoImplicit false

namespace SampledMetrics

namespace Binary64

private theorem isFinite_add_left {x y : Binary64} (finite : (x.add y).isFinite) : x.isFinite := by
  cases x with
  | nan => cases y <;> contradiction
  | infinity a =>
    cases y with
    | nan => contradiction
    | infinity b => cases a <;> cases b <;> contradiction
    | finite b n => contradiction
  | finite a m => rfl

end Binary64

namespace Statistics

/-- Whether a number can be added to the parts of an expansion, one after the other, without leaving the
finite range. -/
def addsUp (x : Binary64) : List Binary64 → Bool
  | [] => true
  | part :: rest => (x.add part).isFinite && addsUp (x.add part) rest

def extend (parts : List Binary64) (x : Binary64) : List Binary64 :=
  let (rest, top) := absorb x parts
  if !top.isNonzero then rest
  else if top.isFinite then rest ++ [top]
  else []

theorem exactUnits_eq_of_place? {x : Binary64} {units : Int} (place : x.place? = some (.whole units)) :
    exactUnits x = units := by
  obtain ⟨negative, magnitude, rfl, signed⟩ := Binary64.place?_eq_whole_iff.mp place
  exact signed

theorem twoSum_fst (x y : Binary64) : (twoSum x y).1 = x.add y := by
  unfold twoSum
  by_cases smaller : x.smaller y
  · simp only [smaller, if_true]
    exact Binary64.add_comm y x
  · simp only [smaller]
    rfl

private theorem absorb_snd (x part : Binary64) (rest : List Binary64) :
    (absorb x (part :: rest)).2 = (absorb (x.add part) rest).2 := by
  rw [← twoSum_fst]
  rfl

theorem isFinite_absorb (x : Binary64) (parts : List Binary64) :
    (absorb x parts).2.isFinite ↔ x.isFinite ∧ addsUp x parts := by
  induction parts generalizing x with
  | nil => simp [absorb, addsUp]
  | cons part rest ih =>
    rw [absorb_snd, ih, addsUp, Bool.and_eq_true]
    constructor
    · rintro ⟨finite, adds⟩
      exact ⟨Binary64.isFinite_add_left finite, finite, adds⟩
    · rintro ⟨-, finite, adds⟩
      exact ⟨finite, adds⟩

private theorem isNonzero_of_not_isFinite {x : Binary64} (infinite : ¬ x.isFinite) : x.isNonzero := by
  cases x with
  | finite negative magnitude => exact absurd rfl infinite
  | _ => rfl

variable {total : Total} {x : Binary64}

/-- A finite sample that adds up extends the expansion. -/
theorem Total.add_of_addsUp (finite : x.isFinite) (adds : addsUp x total.parts) :
    total.add x = .ok { total with
      parts := extend total.parts x, units := total.units + exactUnits x } := by
  have top := (isFinite_absorb x total.parts).mpr ⟨finite, adds⟩
  unfold Total.add extend
  cases nonzero : (absorb x total.parts).2.isNonzero <;> simp [nonzero, top]

theorem Total.add_of_not_addsUp (finite : x.isFinite) (overflows : ¬ addsUp x total.parts) :
    total.add x = .error .partialSumTooLarge := by
  have top : ¬ (absorb x total.parts).2.isFinite := fun top =>
    overflows ((isFinite_absorb x total.parts).mp top).2
  have nonzero := isNonzero_of_not_isFinite top
  unfold Total.add
  simp [nonzero, top, finite]

private theorem Total.add_infinity (total : Total) (negative : Bool) :
    total.add (.infinity negative) = .ok { total with
      parts := extend total.parts (.infinity negative)
      special := total.special.add (.infinity negative)
      infinities := total.infinities.add (.infinity negative) } := by
  have top : ¬ (absorb (.infinity negative) total.parts).2.isFinite := fun top =>
    absurd ((isFinite_absorb _ total.parts).mp top).1 (by simp [Binary64.isFinite])
  have nonzero := isNonzero_of_not_isFinite top
  have infinite : (Binary64.infinity negative).isFinite = false := rfl
  have number : (Binary64.infinity negative).isNaN = false := rfl
  unfold Total.add extend
  simp [nonzero, top, infinite, number]

/-- Whether samples, added to an expansion one after the other, stay in the finite range. -/
def staysFinite : List Binary64 → List Binary64 → Bool
  | _, [] => true
  | parts, x :: rest => (!x.isFinite || addsUp x parts) && staysFinite (extend parts x) rest

/-- The sum of the samples that are not finite, from a start. -/
def infinitePart (start : Binary64) (reals : List Binary64) : Binary64 :=
  reals.foldl (fun sum x => if x.isFinite then sum else sum.add x) start

private theorem infinitePart_cons (start x : Binary64) (reals : List Binary64) :
    infinitePart start (x :: reals) =
      infinitePart (if x.isFinite then start else start.add x) reals := rfl

private theorem infinitePart_nan (reals : List Binary64) : infinitePart .nan reals = .nan := by
  induction reals with
  | nil => rfl
  | cons x rest ih =>
    rw [infinitePart_cons]
    cases x <;> exact ih

private theorem isNaN_infinitePart_infinity (a : Bool) {reals : List Binary64}
    (measured : ∀ x ∈ reals, x.isNaN = false) :
    (infinitePart (.infinity a) reals).isNaN ↔ .infinity (!a) ∈ reals := by
  induction reals with
  | nil => simp [infinitePart, Binary64.isNaN]
  | cons x rest ih =>
    have later := ih fun y hy => measured y (List.mem_cons_of_mem x hy)
    rw [infinitePart_cons]
    cases x with
    | nan => exact absurd (measured .nan List.mem_cons_self) (by simp [Binary64.isNaN])
    | finite negative magnitude => simpa [Binary64.isFinite] using later
    | infinity b =>
      by_cases same : a = b
      · subst same
        simpa [Binary64.isFinite, Binary64.add] using later
      · have other : b = !a := by cases a <;> cases b <;> simp_all
        simp [Binary64.isFinite, Binary64.add, other, infinitePart_nan, Binary64.isNaN]

private theorem isNaN_infinitePart_finite {start : Binary64} (finite : start.isFinite)
    {reals : List Binary64} (measured : ∀ x ∈ reals, x.isNaN = false) :
    (infinitePart start reals).isNaN ↔ .infinity true ∈ reals ∧ .infinity false ∈ reals := by
  induction reals with
  | nil => cases start <;> simp_all [infinitePart, Binary64.isNaN, Binary64.isFinite]
  | cons x rest ih =>
    have measured_rest : ∀ y ∈ rest, y.isNaN = false :=
      fun y hy => measured y (List.mem_cons_of_mem x hy)
    have later := ih measured_rest
    rw [infinitePart_cons]
    cases x with
    | nan => exact absurd (measured .nan List.mem_cons_self) (by simp [Binary64.isNaN])
    | finite negative magnitude => simpa [Binary64.isFinite] using later
    | infinity b =>
      have added : start.add (.infinity b) = .infinity b := by
        cases start with
        | finite negative magnitude => rfl
        | _ => contradiction
      have infinite : (Binary64.infinity b).isFinite = false := rfl
      rw [infinite, if_neg Bool.false_ne_true, added, isNaN_infinitePart_infinity b measured_rest]
      cases b <;> simp

/-- The total of the samples taken in order, each converted when its turn comes. -/
def totalFrom (total : Total) (numbers : List Number) : Except Failure Total :=
  (numbers.map Value.number).foldlM (fun total value => do total.add (← value.toReal)) total

private theorem toReal_number (x : Number) :
    (Value.number x).toReal = Number.orTooLarge x.toBinary64? := by
  unfold Value.toReal
  simp only [Value.asNumber?, Value.number?]
  cases x.toBinary64? <;> rfl

theorem totalFrom_cons (total : Total) (x : Number) (rest : List Number) :
    totalFrom total (x :: rest) =
      (Number.orTooLarge x.toBinary64?).bind fun real =>
        (total.add real).bind fun total => totalFrom total rest := by
  unfold totalFrom
  rw [List.map_cons, List.foldlM_cons, toReal_number]
  cases x.toBinary64? with
  | none => rfl
  | some real => rfl

section Run

variable {x : Number} {rest : List Number}

private theorem totalFrom_cons_none (total : Total) (outside : x.toBinary64? = none) :
    totalFrom total (x :: rest) = .error .integerTooLarge := by
  rw [totalFrom_cons, outside]
  rfl

theorem totalFrom_cons_ok {total next : Total} {real : Binary64} (converted : x.toBinary64? = some real)
    (added : total.add real = .ok next) : totalFrom total (x :: rest) = totalFrom next rest := by
  rw [totalFrom_cons, converted]
  change (total.add real).bind _ = _
  rw [added]
  rfl

theorem totalFrom_cons_error {total : Total} {real : Binary64} {failure : Failure}
    (converted : x.toBinary64? = some real) (refused : total.add real = .error failure) :
    totalFrom total (x :: rest) = .error failure := by
  rw [totalFrom_cons, converted]
  change (total.add real).bind _ = _
  rw [refused]
  rfl

private theorem isNaN_of_toBinary64? {real : Binary64} (converted : x.toBinary64? = some real)
    (number : x.isNaN = false) : real.isNaN = false := by
  cases x with
  | int value =>
    rw [Number.toBinary64?_int] at converted
    split at converted
    · rename_i finite
      obtain rfl := Option.some.inj converted
      obtain ⟨units, place⟩ := Binary64.isFinite_iff.mp finite
      obtain ⟨negative, magnitude, same, -⟩ := Binary64.place?_eq_whole_iff.mp place
      rw [same]
      rfl
    · exact (Option.some_ne_none real converted.symm).elim
  | float value =>
    obtain rfl := Option.some.inj converted
    exact number

private theorem Total.add_cases (total : Total) {real : Binary64} (number : real.isNaN = false) :
    (real.isFinite ∧ addsUp real total.parts ∧ total.add real = .ok { total with
        parts := extend total.parts real, units := total.units + exactUnits real }) ∨
      (real.isFinite ∧ ¬ addsUp real total.parts ∧ total.add real = .error .partialSumTooLarge) ∨
      (¬ real.isFinite ∧ total.add real = .ok { total with
        parts := extend total.parts real
        special := total.special.add real
        infinities := total.infinities.add real }) := by
  cases real with
  | nan => contradiction
  | infinity negative =>
    exact Or.inr (Or.inr ⟨Bool.false_ne_true, Total.add_infinity total negative⟩)
  | finite negative magnitude =>
    by_cases adds : addsUp (.finite negative magnitude) total.parts
    · exact Or.inl ⟨rfl, adds, Total.add_of_addsUp rfl adds⟩
    · exact Or.inr (Or.inl ⟨rfl, adds, Total.add_of_not_addsUp rfl adds⟩)

end Run

variable {numbers : List Number}

private theorem isOk_totalFrom (total : Total) (measured : ∀ x ∈ numbers, x.isNaN = false) :
    (totalFrom total numbers).isOk ↔ (∀ x ∈ numbers, x.inRange) ∧
      staysFinite total.parts (numbers.filterMap Number.toBinary64?) := by
  induction numbers generalizing total with
  | nil => simp [totalFrom, staysFinite, pure, Except.pure, Except.isOk, Except.toBool]
  | cons x rest ih =>
    have range := Number.isSome_toBinary64? x
    have later := fun total => ih total fun y hy => measured y (List.mem_cons_of_mem x hy)
    rw [List.forall_mem_cons, ← range]
    cases converted : x.toBinary64? with
    | none =>
      rw [totalFrom_cons_none total converted]
      simp [Except.isOk, Except.toBool]
    | some real =>
      have number := isNaN_of_toBinary64? converted (measured x List.mem_cons_self)
      rw [List.filterMap_cons_some converted, staysFinite]
      rcases Total.add_cases total number with ⟨finite, adds, added⟩ | ⟨finite, adds, refused⟩ |
        ⟨infinite, added⟩
      · rw [totalFrom_cons_ok converted added, later]
        simp [finite, adds]
      · rw [totalFrom_cons_error converted refused]
        simp [finite, adds, Except.isOk, Except.toBool]
      · rw [totalFrom_cons_ok converted added, later]
        simp [infinite]

private theorem infinities_totalFrom {total last : Total} (measured : ∀ x ∈ numbers, x.isNaN = false)
    (ok : totalFrom total numbers = .ok last) :
    last.special = infinitePart total.special (numbers.filterMap Number.toBinary64?) ∧
      last.infinities = infinitePart total.infinities (numbers.filterMap Number.toBinary64?) := by
  induction numbers generalizing total with
  | nil =>
    obtain rfl : total = last := Except.ok.inj ok
    exact ⟨rfl, rfl⟩
  | cons x rest ih =>
    have measured_rest : ∀ y ∈ rest, y.isNaN = false :=
      fun y hy => measured y (List.mem_cons_of_mem x hy)
    cases converted : x.toBinary64? with
    | none =>
      rw [totalFrom_cons_none total converted] at ok
      contradiction
    | some real =>
      have number := isNaN_of_toBinary64? converted (measured x List.mem_cons_self)
      rw [List.filterMap_cons_some converted, infinitePart_cons, infinitePart_cons]
      rcases Total.add_cases total number with ⟨finite, -, added⟩ | ⟨-, -, refused⟩ |
        ⟨infinite, added⟩
      · rw [totalFrom_cons_ok converted added] at ok
        rw [if_pos finite, if_pos finite]
        have kept := ih measured_rest ok
        exact kept
      · rw [totalFrom_cons_error converted refused] at ok
        contradiction
      · rw [totalFrom_cons_ok converted added] at ok
        rw [if_neg infinite, if_neg infinite]
        have kept := ih measured_rest ok
        exact kept

private theorem isOk_result {total : Total} (same : total.special = total.infinities) :
    total.result.isOk ↔ ¬ total.infinities.isNaN := by
  unfold Total.result
  rw [same]
  cases total.infinities with
  | finite negative magnitude =>
    cases (Binary64.finite negative magnitude).isNonzero <;>
      simp [Binary64.isNaN, Except.isOk, Except.toBool]
  | _ => simp [Binary64.isNonzero, Binary64.isNaN, Except.isOk, Except.toBool]

private theorem infinity_mem_filterMap (negative : Bool) :
    .infinity negative ∈ numbers.filterMap Number.toBinary64? ↔
      .float (.infinity negative) ∈ numbers := by
  rw [List.mem_filterMap]
  constructor
  · rintro ⟨x, present, converted⟩
    cases x with
    | float value =>
      obtain rfl := Option.some.inj converted
      exact present
    | int value =>
      rw [Number.toBinary64?_int] at converted
      split at converted
      · rename_i finite
        rw [Option.some.inj converted] at finite
        contradiction
      · exact (Option.some_ne_none _ converted.symm).elim
  · intro present
    exact ⟨_, present, Number.toBinary64?_float _⟩

/-- The samples can be added up: integers in range, not both infinities, and partial sums that stay
finite. -/
def Summable (numbers : List Number) : Prop :=
  (∀ x ∈ numbers, x.inRange) ∧
    ¬ (.float (.infinity true) ∈ numbers ∧ .float (.infinity false) ∈ numbers) ∧
    staysFinite [] (numbers.filterMap Number.toBinary64?)

private theorem isOk_sum (measured : ∀ x ∈ numbers, x.isNaN = false) :
    (sum (numbers.map .number)).isOk ↔ Summable numbers := by
  have run := isOk_totalFrom Total.empty measured
  have reals : ∀ real ∈ numbers.filterMap Number.toBinary64?, real.isNaN = false := by
    intro real present
    obtain ⟨x, member, converted⟩ := List.mem_filterMap.mp present
    exact isNaN_of_toBinary64? converted (measured x member)
  change ((totalFrom Total.empty numbers).bind Total.result).isOk ↔ _
  unfold Summable
  cases ran : totalFrom Total.empty numbers with
  | error failure =>
    rw [ran] at run
    have refused : ¬ ((∀ x ∈ numbers, x.inRange) ∧
        staysFinite [] (numbers.filterMap Number.toBinary64?)) := fun fits =>
      Bool.false_ne_true (run.mpr fits)
    constructor
    · intro ok
      exact (Bool.false_ne_true ok).elim
    · rintro ⟨range, -, stays⟩
      exact (refused ⟨range, stays⟩).elim
  | ok last =>
    rw [ran] at run
    obtain ⟨range, stays⟩ := run.mp rfl
    obtain ⟨special, infinities⟩ := infinities_totalFrom measured ran
    have same : last.special = last.infinities := special.trans infinities.symm
    change last.result.isOk ↔ _
    rw [isOk_result same, infinities]
    change ¬ (infinitePart (Binary64.zero false) _).isNaN ↔ _
    rw [isNaN_infinitePart_finite rfl reals, infinity_mem_filterMap, infinity_mem_filterMap]
    exact ⟨fun apart => ⟨range, apart, stays⟩, fun fits => fits.2.1⟩

theorem isOk_mean (measured : ∀ x ∈ numbers, x.isNaN = false) :
    (mean (numbers.map .number)).isOk ↔ Summable numbers := by
  rw [← isOk_sum measured]
  unfold mean
  cases sum (numbers.map .number) <;> rfl

end Statistics

end SampledMetrics
