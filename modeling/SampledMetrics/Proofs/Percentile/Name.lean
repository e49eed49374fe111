import SampledMetrics.Proofs.Decimal.Reading
import SampledMetrics.Proofs.Snapshot.Percentile
/-!
Names of percentiles.  A name depends on nothing but the place of the percentile, and is the letter P and
a plain numeral with an underscore for its point.  Main statement: read as a numeral, the name is the
percentile, so two percentiles share a name exactly when they are the same number.
-/

set_option autoImplicit false
set_option relaxedAutoImplicit false

namespace SampledMetrics.Percentile

open Binary64 (unitsPerOne)

def pointOf (c : Char) : Char :=
  if c = '_' then '.' else c

/-- The number that a name stands for: the numeral after the letter, with a point for the underscore. -/
def ofName? (text : String) : Option Binary64 :=
  match text.toList with
  | 'P' :: numeral => Numeral.readBinary64? (String.ofList (numeral.map pointOf))
  | _ => none

/-- The letter P and digits, and an underscore before further digits if there are any. -/
def IsName (text : String) : Prop :=
  ∃ whole fraction : List Char, whole ≠ [] ∧ (∀ c ∈ whole, c.isDigit) ∧ (∀ c ∈ fraction, c.isDigit) ∧
    (text.toList = 'P' :: whole ∨ fraction ≠ [] ∧ text.toList = 'P' :: (whole ++ '_' :: fraction))

/-- The decimal that is written for a magnitude: a whole number if it is one, and else the shortest. -/
def decimalAt (units : Nat) : Decimal :=
  if units % unitsPerOne = 0 then ⟨units / unitsPerOne, 0⟩ else Decimal.shortest units

def nameAt (units : Nat) : String :=
  String.ofList ('P' :: (decimalAt units).fixedPoint.map namePoint)

private theorem namePoint_of_isDigit {c : Char} (digit : c.isDigit) : namePoint c = c := by
  refine if_neg ?_
  rintro rfl
  contradiction

private theorem map_namePoint_of_isDigit {cs : List Char} (digits : ∀ c ∈ cs, c.isDigit) :
    cs.map namePoint = cs :=
  (List.map_congr_left fun c present => namePoint_of_isDigit (digits c present)).trans (List.map_id cs)

private theorem fixedPoint_of_whole (whole : Nat) :
    (⟨whole, 0⟩ : Decimal).fixedPoint = Nat.toDigits 10 whole := by
  have position : (⟨whole, 0⟩ : Decimal).pointPosition = (Nat.toDigits 10 whole).length := Int.add_zero _
  have digits : (⟨whole, 0⟩ : Decimal).digits = Nat.toDigits 10 whole := rfl
  unfold Decimal.fixedPoint Decimal.padded
  rw [position, digits, if_neg (Int.lt_irrefl _), Int.sub_self]
  exact List.append_nil _

private theorem toString_natCast (whole : Nat) : toString (whole : Int) = toString whole := rfl

private theorem name_of_place? {p : Binary64} {units : Nat} (place : p.place? = some (.whole units)) :
    name p = .ok (nameAt units) := by
  have truncated := Binary64.truncate?_of_place? place
  obtain ⟨negative, magnitude, rfl, signed⟩ := Binary64.place?_eq_whole_iff.mp place
  have units_eq : magnitude.units = units := by
    rw [← Binary64.natAbs_signedUnits negative magnitude, signed, Int.natAbs_natCast]
  unfold name nameAt decimalAt
  rw [truncated]
  dsimp only [Binary64.fixedPoint?]
  rw [units_eq]
  split
  · have digits : (Nat.toDigits 10 (units / unitsPerOne)).map namePoint =
        Nat.toDigits 10 (units / unitsPerOne) :=
      map_namePoint_of_isDigit fun c => Nat.isDigit_of_mem_toDigits (by decide) (by decide)
    rw [fixedPoint_of_whole, digits, toString_natCast, Nat.toString_eq_ofList_toDigits]
    exact congrArg Except.ok (String.toList_inj.mp (by simp))
  · rename_i fractional
    have positive : negative = false := by
      cases negative with
      | false => rfl
      | true =>
        have zero : units = 0 := by
          simp only [Binary64.signedUnits, if_true] at signed
          omega
        rw [zero, Nat.zero_mod] at fractional
        contradiction
    have unsigned : Binary64.signText false = [] := rfl
    rw [positive, unsigned, List.nil_append]

private theorem readsBack_decimalAt {units : Nat} (grid : Binary64.spacing units ∣ units) :
    (decimalAt units).readsBack units := by
  unfold decimalAt
  split
  · rename_i integral
    have product : units / unitsPerOne * unitsPerOne = units :=
      Nat.div_mul_cancel (Nat.dvd_of_mod_eq_zero integral)
    have one : Nat.pow 10 (0 : Int).toNat = 1 := rfl
    have one' : Nat.pow 10 (-0 : Int).toNat = 1 := rfl
    unfold Decimal.readsBack Decimal.numerator Decimal.denominator
    rw [one, one', Nat.mul_one, product, Binary64.roundUnits_one grid]
    exact decide_eq_true rfl
  · exact Decimal.readsBack_shortest grid

private theorem pointOf_namePoint {c : Char} (other : c ≠ '_') : pointOf (namePoint c) = c := by
  unfold namePoint
  split
  · rename_i point
    rw [point]
    rfl
  · exact if_neg other

private theorem ofName?_ofList (numeral : List Char) :
    ofName? (String.ofList ('P' :: numeral)) =
      Numeral.readBinary64? (String.ofList (numeral.map pointOf)) := by
  unfold ofName?
  rw [String.toList_ofList]
  rfl

section Numeral

variable {whole fraction : List Char}

private theorem map_pointOf_namePoint (wholes : ∀ c ∈ whole, c.isDigit)
    (fractions : ∀ c ∈ fraction, c.isDigit) :
    ((Numeral.positional whole fraction).map namePoint).map pointOf =
      Numeral.positional whole fraction := by
  rw [List.map_map]
  refine (List.map_congr_left fun c present => ?_).trans (List.map_id _)
  exact pointOf_namePoint (Numeral.isWritten_of_mem_positional wholes fractions c present).isPlain.2.2

private theorem isName_of_positional (wholes : ∀ c ∈ whole, c.isDigit) (some_whole : whole ≠ [])
    (fractions : ∀ c ∈ fraction, c.isDigit) :
    IsName (String.ofList ('P' :: (Numeral.positional whole fraction).map namePoint)) := by
  refine ⟨whole, fraction, some_whole, wholes, fractions, ?_⟩
  rw [String.toList_ofList]
  unfold Numeral.positional
  split
  · exact .inl (by rw [map_namePoint_of_isDigit wholes])
  · rename_i pointed
    refine .inr ⟨by simpa using pointed, ?_⟩
    rw [List.map_append, List.map_cons, map_namePoint_of_isDigit wholes, map_namePoint_of_isDigit fractions]
    rfl

end Numeral

variable {units : Nat}

private theorem isName_nameAt (units : Nat) : IsName (nameAt units) := by
  obtain ⟨whole, fraction, numeral, written⟩ := (decimalAt units).exists_positional_fixedPoint
  unfold nameAt
  rw [written]
  exact isName_of_positional numeral.wholes numeral.some_whole numeral.fractions

private theorem ofName?_nameAt (magnitude : Magnitude) :
    ofName? (nameAt magnitude.units) = some (.finite false magnitude) := by
  obtain ⟨whole, fraction, numeral, written⟩ := (decimalAt magnitude.units).exists_positional_fixedPoint
  unfold nameAt
  rw [written, ofName?_ofList, map_pointOf_namePoint numeral.wholes numeral.fractions]
  exact numeral.readBinary64? (readsBack_decimalAt magnitude.representable.2)

private theorem nameAt_zero : nameAt 0 = "P0" := by
  unfold nameAt decimalAt
  rw [Nat.zero_mod, if_pos rfl, Nat.zero_div, fixedPoint_of_whole, Nat.toDigits_zero]
  rfl

section Two

variable {p q : Binary64}

theorem exists_magnitude_of_isValid (valid : isValid (.float p)) :
    ∃ magnitude : Magnitude, p.place? = some (.whole magnitude.units) ∧
      name p = .ok (nameAt magnitude.units) := by
  obtain ⟨units, place, -⟩ := Snapshot.exists_place?_of_isValid valid
  exact ⟨⟨units, Binary64.representable_of_place? place⟩, place, name_of_place? place⟩

theorem nameAt_injective {a b : Magnitude} (same : nameAt a.units = nameAt b.units) : a = b := by
  have read := ofName?_nameAt a
  rw [same, ofName?_nameAt b] at read
  injection read with read
  injection read with _ read
  exact read.symm

private theorem same_float_iff {x y : Binary64} {u v : Nat} (hx : x.place? = some (.whole u))
    (hy : y.place? = some (.whole v)) : (Number.float x).same (.float y) ↔ u = v := by
  simp only [Number.same, Number.place?, hx, hy, decide_eq_true_eq, Place.whole.injEq,
    Int.ofNat_inj]

private theorem check_float (p : Binary64) : check (.float p) = .ok (isValid (.float p)) := by
  cases p with
  | nan => rfl
  | infinity negative => cases negative <;> rfl
  | finite negative magnitude =>
    have measured : (!(Binary64.finite negative magnitude).isNaN) = true := rfl
    have real : (Value.float (.finite negative magnitude)).toReal = .ok (.finite negative magnitude) := rfl
    unfold check
    rw [real]
    simp only [bind, Except.bind, measured, Bool.true_and]
    rfl

/-- The name of a percentile is a numeral for it, and no other percentile has it; both zeros are P0. -/
theorem nameOf_faithful (hp : check (.float p) = .ok true) (hq : check (.float q) = .ok true) :
    ∃ text text', nameOf (.float p) = .ok text ∧ nameOf (.float q) = .ok text' ∧ IsName text ∧
      (∃ real, ofName? text = some real ∧ (Number.float real).same (.float p)) ∧
      (text = text' ↔ (Number.float p).same (.float q)) ∧
      ((Number.float p).same (.int 0) → text = "P0") := by
  rw [check_float] at hp hq
  obtain ⟨a, p_place, p_name⟩ := exists_magnitude_of_isValid (Except.ok.inj hp)
  obtain ⟨b, q_place, q_name⟩ := exists_magnitude_of_isValid (Except.ok.inj hq)
  refine ⟨nameAt a.units, nameAt b.units, p_name, q_name, isName_nameAt _,
    ⟨.finite false a, ofName?_nameAt a, (same_float_iff rfl p_place).mpr rfl⟩, ?_, ?_⟩
  · rw [same_float_iff p_place q_place]
    constructor
    · intro same
      rw [nameAt_injective same]
    · intro same
      rw [same]
  · intro zero
    have units_eq : a.units = 0 := by
      obtain ⟨place, at_p, at_zero⟩ := Number.same_iff.mp zero
      obtain rfl := Option.some.inj (p_place.symm.trans at_p)
      have equal : 0 * (unitsPerOne : Int) = a.units := Place.whole.inj (Option.some.inj at_zero)
      rw [Int.zero_mul] at equal
      exact Int.ofNat_eq_zero.mp equal.symm
    rw [units_eq]
    exact nameAt_zero

end Two

/-- The least percentile above zero, whose numeral has 324 zeros, and 99.9. -/
theorem nameOf_faithful_least :
    check (.float (.ofBits 1)) = .ok true ∧ check (.float (.ofBits 0x4058f9999999999a)) = .ok true ∧
      ∃ text text', nameOf (.float (.ofBits 1)) = .ok text ∧
        nameOf (.float (.ofBits 0x4058f9999999999a)) = .ok text' ∧ IsName text ∧
        (∃ real, ofName? text = some real ∧ (Number.float real).same (.float (.ofBits 1))) ∧
        (text = text' ↔ (Number.float (.ofBits 1)).same (.float (.ofBits 0x4058f9999999999a))) ∧
        ((Number.float (.ofBits 1)).same (.int 0) → text = "P0") := by
  have least : check (.float (.ofBits 1)) = .ok true := by
    rw [check_float]
    exact congrArg Except.ok (by decide +kernel)
  have usual : check (.float (.ofBits 0x4058f9999999999a)) = .ok true := by
    rw [check_float]
    exact congrArg Except.ok (by decide +kernel)
  exact ⟨least, usual, nameOf_faithful least usual⟩

example : (nameOf (.float (.ofBits 0x4058f9999999999a))).toOption = some "P99_9" := by decide +kernel

end SampledMetrics.Percentile
