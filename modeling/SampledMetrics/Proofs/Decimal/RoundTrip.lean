import SampledMetrics.Proofs.Decimal.Reading
import SampledMetrics.Value.Printer
/-!
Numbers are read back from their usual text.  A decimal is written positionally, with a zero after the
point if there is nothing else, or with one digit before the point and an exponent; each of these reads
as a decimal of the same value.  Main statements: every integer within the digit limit and every binary64
number but not-a-number is what its text reads as, to the last bit.
-/

set_option autoImplicit false
set_option relaxedAutoImplicit false

namespace SampledMetrics

namespace Decimal

open Numeral (Spells IsWritten positional readDecimal?)

variable {d : Decimal} {whole fraction : List Char}

private theorem spells_pointZero (numeral : d.IsPositionalOf whole []) : Spells (whole ++ ['.', '0']) d := by
  have fractions : ∀ c ∈ ['0'], c.isDigit := List.forall_mem_singleton.mpr rfl
  have same : SameValue ⟨Nat.ofDigitChars 10 whole 0, -1 + 1⟩ d := by simpa using numeral.sameValue
  have ten : Nat.ofDigitChars 10 (whole ++ ['0']) 0 = Nat.ofDigitChars 10 whole 0 * 10 := by
    rw [Nat.ofDigitChars_append, Nat.ofDigitChars_cons, Nat.ofDigitChars_nil, Nat.mul_comm]
    rfl
  have shifted := (SameValue.shift (Nat.ofDigitChars 10 whole 0) (-1)).symm.trans same
  rw [← ten] at shifted
  exact spells_positional numeral.wholes numeral.some_whole fractions shifted

private theorem exponentDigits (magnitude : Nat) :
    ∃ digits : List Char, (if (Nat.toDigits 10 magnitude).length < 2 then '0' :: Nat.toDigits 10 magnitude
        else Nat.toDigits 10 magnitude) = digits ∧
      digits ≠ [] ∧ (∀ c ∈ digits, c.isDigit) ∧ Nat.ofDigitChars 10 digits 0 = magnitude := by
  have value : Nat.ofDigitChars 10 (Nat.toDigits 10 magnitude) 0 = magnitude :=
    Nat.ofDigitChars_ten_toDigits
  have digit : ∀ c ∈ Nat.toDigits 10 magnitude, c.isDigit := fun c =>
    Numeral.isDigit_of_mem_toDigits
  refine ⟨_, rfl, ?_⟩
  split
  · refine ⟨List.cons_ne_nil _ _, ?_, value⟩
    intro c present
    rcases List.mem_cons.mp present with rfl | present
    · rfl
    · exact digit c present
  · exact ⟨List.length_pos_iff.mp Nat.length_toDigits_pos, digit, value⟩

private theorem readExponent?_exponentText (exponent : Int) :
    Numeral.readExponent? (exponentText exponent) = some exponent := by
  obtain ⟨digits, shape, some_digit, digit, value⟩ := exponentDigits exponent.natAbs
  have all : digits.all Char.isDigit := List.all_eq_true.mpr digit
  have filled : digits.isEmpty = false := by simpa using some_digit
  unfold exponentText
  dsimp only
  rw [shape]
  by_cases below : exponent < 0
  · have sign : Numeral.readSign ('-' :: digits) = (true, digits) := rfl
    have negated : -(exponent.natAbs : Int) = exponent := by omega
    simp only [Numeral.readExponent?, below, sign, if_true, filled, all, value]
    simpa using negated
  · have sign : Numeral.readSign ('+' :: digits) = (false, digits) := rfl
    have kept : (exponent.natAbs : Int) = exponent := by omega
    simp only [Numeral.readExponent?, below, sign, if_false, filled, all, value]
    simpa using kept

private theorem isWritten_of_mem_exponentText {exponent : Int} {c : Char} (present : c ∈ exponentText exponent) :
    IsWritten c := by
  obtain ⟨digits, shape, _, digit, _⟩ := exponentDigits exponent.natAbs
  unfold exponentText at present
  dsimp only at present
  rw [shape] at present
  rcases List.mem_cons.mp present with rfl | present
  · exact Or.inr (by decide)
  rcases List.mem_cons.mp present with rfl | present
  · split
    · exact Or.inr (by decide)
    · exact Or.inr (by decide)
  · exact Or.inl (digit c present)

private theorem exists_scientific (d : Decimal) :
    ∃ first rest, d.digits = first :: rest ∧
      d.scientific = positional [first] rest ++ exponentText (d.pointPosition - 1) := by
  obtain ⟨first, rest, digits⟩ := List.exists_cons_of_length_pos d.length_digits_pos
  refine ⟨first, rest, digits, ?_⟩
  unfold scientific
  rw [digits]
  cases rest with
  | nil => rfl
  | cons second rest => rfl

private theorem spells_scientific (d : Decimal) : Spells d.scientific d := by
  obtain ⟨first, rest, digits, shape⟩ := d.exists_scientific
  have digit : ∀ c ∈ first :: rest, c.isDigit := digits ▸ fun c => isDigit_of_mem_digits
  have wholes : ∀ c ∈ [first], c.isDigit := fun c present => digit c (by simp_all)
  have fractions : ∀ c ∈ rest, c.isDigit := fun c present => digit c (List.mem_cons_of_mem first present)
  rw [shape]
  constructor
  · intro c present
    rcases List.mem_append.mp present with numeral | exponent
    · exact Numeral.isWritten_of_mem_positional wholes fractions c numeral
    · exact isWritten_of_mem_exponentText exponent
  · obtain ⟨c, begins, more, first⟩ := Numeral.exists_cons_positional (List.cons_ne_nil first []) rest
    exact ⟨c, _, by rw [first, List.cons_append], wholes c begins⟩
  · have same : (⟨Nat.ofDigitChars 10 ([first] ++ rest) 0, d.pointPosition - 1 - rest.length⟩ : Decimal) = d := by
      have significand : Nat.ofDigitChars 10 (first :: rest) 0 = d.significand :=
        digits ▸ ofDigitChars_digits d
      have exponent : d.pointPosition - 1 - rest.length = d.exponent := by
        unfold pointPosition
        rw [digits, List.length_cons]
        omega
      rw [List.singleton_append, significand, exponent]
    refine ⟨_, ?_, SameValue.refl d⟩
    rw [Numeral.readDecimal?_append wholes (List.cons_ne_nil _ _) fractions (by simp [exponentText]),
      readExponent?_exponentText, Option.map_some, same]

private theorem spells_text (d : Decimal) : Spells d.text d := by
  unfold text
  split
  · split
    · rename_i inside
      obtain ⟨whole, fraction, numeral, shape⟩ := d.exists_positional_fixedPoint
      rw [fixedPoint, if_pos inside] at shape
      rw [shape]
      exact numeral.spells
    · rename_i beyond
      exact spells_pointZero (isPositionalOf_padded (Int.not_lt.mp beyond))
  · exact d.spells_scientific

end Decimal

namespace Binary64

open Numeral (IsWritten readBinary64?)

private theorem spells_zero : Numeral.Spells ['0', '.', '0'] ⟨0, 0⟩ := by
  have digits : ∀ c ∈ ['0'], c.isDigit := List.forall_mem_singleton.mpr rfl
  exact Decimal.spells_positional digits (by decide) digits rfl

private theorem exists_spells (negative : Bool) (magnitude : Magnitude) :
    ∃ (cs : List Char) (d : Decimal), (finite negative magnitude).text = String.ofList (signText negative ++ cs) ∧
      Numeral.Spells cs d ∧ d.readsBack magnitude.units := by
  by_cases none : magnitude.units = 0
  · refine ⟨_, _, if_pos none, spells_zero, ?_⟩
    have zero : (⟨0, 0⟩ : Decimal).numerator = 0 := rfl
    rw [none, Decimal.readsBack, zero, Nat.zero_mul, roundUnits_zero, decide_eq_true rfl]
  · exact ⟨_, _, if_neg none, Decimal.spells_text _, Decimal.readsBack_shortest magnitude.representable.2⟩

theorem readBinary64?_text {x : Binary64} (number : x.isNaN = false) : readBinary64? x.text = some x := by
  cases x with
  | nan => contradiction
  | infinity negative => cases negative <;> rfl
  | finite negative magnitude =>
    obtain ⟨cs, d, shape, spelled, back⟩ := exists_spells negative magnitude
    rw [shape]
    exact spelled.readBinary64? negative back

theorem text_written (x : Binary64) : x.text.toList ≠ [] ∧ ∀ c ∈ x.text.toList, IsWritten c := by
  cases x with
  | nan =>
    have marks : "nan".toList.all (· ∈ Numeral.marks) := by decide
    exact ⟨by decide, fun c present => Or.inr (of_decide_eq_true (List.all_eq_true.mp marks c present))⟩
  | infinity negative =>
    have marks : ['i', 'n', 'f'].all (· ∈ Numeral.marks) := by decide
    rw [text, String.toList_ofList]
    refine ⟨by simp, fun c present => ?_⟩
    rcases List.mem_append.mp present with sign | word
    · exact Numeral.isWritten_of_mem_signText sign
    · exact Or.inr (of_decide_eq_true (List.all_eq_true.mp marks c word))
  | finite negative magnitude =>
    obtain ⟨cs, d, shape, spelled, _⟩ := exists_spells negative magnitude
    obtain ⟨c, rest, begins, _⟩ := spelled.begins
    rw [shape, String.toList_ofList]
    refine ⟨by simp [begins], fun c present => ?_⟩
    rcases List.mem_append.mp present with sign | numeral
    · exact Numeral.isWritten_of_mem_signText sign
    · exact spelled.written c numeral

end Binary64

namespace Numeral

private theorem toString_int (value : Int) :
    toString value = String.ofList (Binary64.signText (value < 0) ++ Nat.toDigits 10 value.natAbs) := by
  rcases Int.lt_or_le value 0 with below | above
  · obtain ⟨n, rfl⟩ := Int.eq_negSucc_of_lt_zero below
    rw [decide_eq_true below]
    have joined : String.ofList (['-'] ++ Nat.toDigits 10 (n + 1)) =
        String.ofList ['-'] ++ String.ofList (Nat.toDigits 10 (n + 1)) := String.ofList_append
    exact joined.symm
  · obtain ⟨n, rfl⟩ := Int.eq_ofNat_of_zero_le above
    rw [decide_eq_false (Int.not_lt.mpr above)]
    rfl

/-- The text of an integer has a digit, and is written with what numbers are written with. -/
theorem toString_written (value : Int) :
    (∃ c ∈ (toString value).toList, c.isDigit) ∧ ∀ c ∈ (toString value).toList, IsWritten c := by
  have digit : ∀ c ∈ Nat.toDigits 10 value.natAbs, c.isDigit := fun c => isDigit_of_mem_toDigits
  obtain ⟨c, first⟩ := List.exists_mem_of_length_pos (l := Nat.toDigits 10 value.natAbs)
    Nat.length_toDigits_pos
  rw [toString_int, String.toList_ofList]
  refine ⟨⟨c, List.mem_append_right _ first, digit c first⟩, fun d present => ?_⟩
  rcases List.mem_append.mp present with sign | numeral
  · exact isWritten_of_mem_signText sign
  · exact Or.inl (digit d numeral)

private theorem length_toDigits_le {n limit : Nat} (positive : 0 < limit) (small : n < Nat.pow 10 limit) :
    (Nat.toDigits 10 n).length ≤ limit :=
  (Nat.length_toDigits_le_iff (by decide) positive).mpr small

theorem readInteger?_toString {value : Int} (short : value.natAbs < Nat.pow 10 digitLimit) :
    readInteger? (toString value) = some value := by
  have digit : ∀ c ∈ Nat.toDigits 10 value.natAbs, c.isDigit := fun c => isDigit_of_mem_toDigits
  have plain : ∀ c ∈ Binary64.signText (value < 0) ++ Nat.toDigits 10 value.natAbs, IsPlain c := by
    intro c present
    rcases List.mem_append.mp present with sign | numeral
    · exact (isWritten_of_mem_signText sign).isPlain
    · exact isPlain_of_isDigit (digit c numeral)
  have few : (Nat.toDigits 10 value.natAbs).length ≤ digitLimit :=
    length_toDigits_le (by decide) short
  have magnitude : Nat.ofDigitChars 10 (Nat.toDigits 10 value.natAbs) 0 = value.natAbs :=
    Nat.ofDigitChars_ten_toDigits
  obtain ⟨c, rest, digits⟩ := List.exists_cons_of_length_pos (l := Nat.toDigits 10 value.natAbs)
    Nat.length_toDigits_pos
  rw [toString_int, readInteger?, normalize_of_plain plain]
  rw [digits] at digit few magnitude ⊢
  rw [readSign_signText _ (digit c List.mem_cons_self)]
  dsimp only
  rw [joinGroups?_of_plain false fun d present => isPlain_of_isDigit (digit d present)]
  have all : (c :: rest).all Char.isDigit := List.all_eq_true.mpr digit
  dsimp only
  rw [all, if_neg (by simp; exact few), magnitude]
  by_cases below : value < 0
  · simp only [below, decide_true, if_true]
    congr 1
    omega
  · simp only [below, decide_false, Bool.false_eq_true, if_false]
    congr 1
    omega

end Numeral

end SampledMetrics
