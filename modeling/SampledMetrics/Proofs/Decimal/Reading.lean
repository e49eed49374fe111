import Mathlib.Data.List.TakeDrop
import SampledMetrics.Decimal
import SampledMetrics.Decimal.Reading
import SampledMetrics.Proofs.Decimal.Shortest
/-!
Reading decimal numerals that are written plainly: digits, and a point with further digits if there are
any.  They stand for their digits, taken as one whole number, over as many tens as there are digits after
the point.  Main statement: the fixed point text of a decimal is such a numeral, and reads as a decimal
of the same value.
-/

set_option autoImplicit false
set_option relaxedAutoImplicit false

namespace SampledMetrics

theorem Text.strip_eq_self {blank : Char → Bool} {cs : List Char} (solid : ∀ c ∈ cs, blank c = false) :
    strip blank cs = cs := by
  have keeps : ∀ ds : List Char, (∀ c ∈ ds, blank c = false) → ds.dropWhile blank = ds := by
    intro ds solid
    cases ds with
    | nil => rfl
    | cons c rest => rw [List.dropWhile_cons, if_neg (by simp [solid c List.mem_cons_self])]
  unfold strip
  rw [keeps cs solid, keeps cs.reverse (by simpa using solid), List.reverse_reverse]

namespace Numeral

/-- Digits, and a point before further digits if there are any. -/
def positional (whole fraction : List Char) : List Char :=
  if fraction.isEmpty then whole else whole ++ '.' :: fraction

/-- Characters that a numeral keeps as they are: of ASCII, no white space and no underscore. -/
def IsPlain (c : Char) : Prop :=
  c.toNat < 127 ∧ Text.isAsciiBlank c = false ∧ c ≠ '_'

theorem isPlain_of_isDigit {c : Char} (digit : c.isDigit) : IsPlain c := by
  have range : 48 ≤ c.toNat ∧ c.toNat ≤ 57 := by
    simpa [Char.isDigit, UInt32.le_iff_toNat_le] using digit
  refine ⟨by omega, ?_, ?_⟩
  · simp only [Text.isAsciiBlank, Bool.or_eq_false_iff, Bool.and_eq_false_iff, decide_eq_false_iff_not]
    omega
  · rintro rfl
    contradiction

def marks : List Char :=
  ['+', '-', '.', 'a', 'e', 'f', 'i', 'n']

/-- What numbers are written with: digits, signs, a point, and the letters of exponents and words. -/
def IsWritten (c : Char) : Prop :=
  c.isDigit ∨ c ∈ marks

namespace IsWritten

variable {c : Char}

theorem isPlain (written : IsWritten c) : IsPlain c := by
  have plain_marks : marks.all fun d => d.toNat < 127 && !Text.isAsciiBlank d && d ≠ '_' := by decide
  rcases written with digit | mark
  · exact isPlain_of_isDigit digit
  · simpa [IsPlain, and_assoc] using List.all_eq_true.mp plain_marks c mark

theorem not_blank (written : IsWritten c) : Text.isBlank c = false := by
  have solid_marks : marks.all fun d => !Text.isBlank d := by decide
  rcases written with digit | mark
  · have range : 48 ≤ c.toNat ∧ c.toNat ≤ 57 := by
      simpa [Char.isDigit, UInt32.le_iff_toNat_le] using digit
    simp only [Text.isBlank, Bool.or_eq_false_iff, Bool.and_eq_false_iff, decide_eq_false_iff_not]
    omega
  · simpa using List.all_eq_true.mp solid_marks c mark

theorem ne_comma (written : IsWritten c) : c ≠ ',' := by
  rintro rfl
  rcases written with digit | mark
  · contradiction
  · exact absurd mark (by decide)

end IsWritten

theorem isWritten_of_mem_signText {negative : Bool} {c : Char}
    (present : c ∈ Binary64.signText negative) : IsWritten c := by
  cases negative with
  | false => exact absurd present List.not_mem_nil
  | true =>
    obtain rfl := List.mem_singleton.mp present
    exact Or.inr (by decide)

theorem isWritten_of_mem_positional {whole fraction : List Char} (wholes : ∀ c ∈ whole, c.isDigit)
    (fractions : ∀ c ∈ fraction, c.isDigit) : ∀ c ∈ positional whole fraction, IsWritten c := by
  intro c present
  unfold positional at present
  split at present
  · exact Or.inl (wholes c present)
  · rcases List.mem_append.mp present with before | after
    · exact Or.inl (wholes c before)
    · rcases List.mem_cons.mp after with rfl | after
      · exact Or.inr (by decide)
      · exact Or.inl (fractions c after)

theorem isDigit_of_mem_toDigits {n : Nat} {c : Char} (present : c ∈ Nat.toDigits 10 n) : c.isDigit :=
  Nat.isDigit_of_mem_toDigits (by decide) (by decide) present

variable {cs : List Char}

theorem normalize_of_plain (plain : ∀ c ∈ cs, IsPlain c) : normalize (String.ofList cs) = cs := by
  have kept : cs.map asciiForm = cs.map id :=
    List.map_congr_left fun c present => if_pos (plain c present).1
  unfold normalize
  rw [String.toList_ofList, kept, List.map_id, Text.strip_eq_self fun c present => (plain c present).2.1]

theorem joinGroups?_of_plain (afterDigit : Bool) (plain : ∀ c ∈ cs, IsPlain c) :
    joinGroups? afterDigit cs = some cs := by
  induction cs generalizing afterDigit with
  | nil => rfl
  | cons c rest ih =>
    have solid : c ≠ '_' := (plain c List.mem_cons_self).2.2
    have later := ih c.isDigit fun d present => plain d (List.mem_cons_of_mem c present)
    unfold joinGroups?
    split
    · contradiction
    · rename_i same
      exact absurd (List.cons.inj same).1 solid
    · rename_i same
      obtain ⟨rfl, rfl⟩ := List.cons.inj same
      rw [if_neg solid, later, Option.map_some]

theorem isDigit_toLower {c : Char} (digit : c.isDigit) : c.toLower.isDigit := by
  unfold Char.toLower
  split
  · rename_i upper
    simp only [Char.isDigit, Bool.and_eq_true, decide_eq_true_eq] at digit
    have above := UInt32.le_iff_toNat_le.mp upper.1
    have below := UInt32.le_iff_toNat_le.mp digit.2
    simp at above below
    omega
  · exact digit

theorem readSign_signText (negative : Bool) {c : Char} {rest : List Char} (digit : c.isDigit) :
    readSign (Binary64.signText negative ++ c :: rest) = (negative, c :: rest) := by
  cases negative with
  | true => rfl
  | false =>
    change readSign (c :: rest) = _
    unfold readSign
    split
    · rename_i same
      obtain ⟨rfl, -⟩ := List.cons.inj same
      contradiction
    · rename_i same
      obtain ⟨rfl, -⟩ := List.cons.inj same
      contradiction
    · rfl

private theorem readBinary64?_of_plain (negative : Bool) {c : Char} {rest : List Char}
    (plain : ∀ d ∈ c :: rest, IsPlain d) (digit : c.isDigit) :
    readBinary64? (String.ofList (Binary64.signText negative ++ c :: rest)) =
      (readDecimal? (c :: rest)).map (Decimal.toBinary64 negative) := by
  have all_plain : ∀ d ∈ Binary64.signText negative ++ c :: rest, IsPlain d := by
    intro d present
    rcases List.mem_append.mp present with sign | numeral
    · exact (isWritten_of_mem_signText sign).isPlain
    · exact plain d numeral
  have no_word : ∀ word : List Char, (word.head?.map Char.isDigit).getD true = false →
      String.ofList ((c :: rest).map Char.toLower) ≠ String.ofList word := by
    intro word letters same
    have same := congrArg String.toList same
    rw [String.toList_ofList, String.toList_ofList] at same
    rw [← same] at letters
    simp [isDigit_toLower digit] at letters
  unfold readBinary64?
  rw [normalize_of_plain all_plain, joinGroups?_of_plain false all_plain]
  simp only [readSign_signText negative digit]
  rw [if_neg, if_neg]
  · exact no_word ['n', 'a', 'n'] rfl
  · rintro (same | same)
    · exact no_word ['i', 'n', 'f'] rfl same
    · exact no_word ['i', 'n', 'f', 'i', 'n', 'i', 't', 'y'] rfl same

section Positional

variable {whole fraction : List Char}

private theorem span_isDigit (digits : ∀ c ∈ whole, c.isDigit) {rest : List Char}
    (ended : rest.head?.all fun c => !c.isDigit) : (whole ++ rest).span Char.isDigit = (whole, rest) := by
  rw [List.span_eq_takeWhile_dropWhile, List.takeWhile_append_of_pos digits,
    List.dropWhile_append_of_pos digits]
  cases rest with
  | nil => simp
  | cons c rest =>
    have other : ¬ c.isDigit := by simpa using ended
    rw [List.takeWhile_cons_of_neg other, List.dropWhile_cons_of_neg other, List.append_nil]

theorem readDecimal?_append (wholes : ∀ c ∈ whole, c.isDigit) (some_whole : whole ≠ [])
    (fractions : ∀ c ∈ fraction, c.isDigit) {tail : List Char}
    (ended : tail.head?.all fun c => !c.isDigit && c ≠ '.') :
    readDecimal? (positional whole fraction ++ tail) = (readExponent? tail).map fun exponent =>
      ⟨Nat.ofDigitChars 10 (whole ++ fraction) 0, exponent - fraction.length⟩ := by
  have nonempty : whole.isEmpty = false := by simpa using some_whole
  have no_digit : tail.head?.all fun c => !c.isDigit := by
    cases tail with
    | nil => rfl
    | cons c rest => exact ((Bool.and_eq_true _ _).mp ended).1
  unfold positional
  split
  · rename_i none
    obtain rfl := List.isEmpty_iff.mp none
    have no_point : readFraction tail = ([], tail) := by
      unfold readFraction
      split
      · simp at ended
      · rfl
    unfold readDecimal?
    rw [span_isDigit wholes no_digit]
    dsimp only
    rw [no_point]
    simp [nonempty]
  · have spans : (whole ++ '.' :: (fraction ++ tail)).span Char.isDigit =
        (whole, '.' :: (fraction ++ tail)) := span_isDigit wholes rfl
    have after : readFraction ('.' :: (fraction ++ tail)) = (fraction, tail) :=
      span_isDigit fractions no_digit
    unfold readDecimal?
    rw [List.append_assoc, List.cons_append, spans]
    dsimp only
    rw [after]
    simp [nonempty]

private theorem readDecimal?_positional (wholes : ∀ c ∈ whole, c.isDigit) (some_whole : whole ≠ [])
    (fractions : ∀ c ∈ fraction, c.isDigit) :
    readDecimal? (positional whole fraction) =
      some ⟨Nat.ofDigitChars 10 (whole ++ fraction) 0, -(fraction.length : Int)⟩ := by
  have ended : ([] : List Char).head?.all fun c => !c.isDigit && c ≠ '.' := rfl
  simpa [readExponent?] using readDecimal?_append wholes some_whole fractions ended

theorem exists_cons_positional (some_whole : whole ≠ []) (fraction : List Char) :
    ∃ c ∈ whole, ∃ rest, positional whole fraction = c :: rest := by
  obtain ⟨c, rest, rfl⟩ := List.exists_cons_of_ne_nil some_whole
  unfold positional
  split
  · exact ⟨c, List.mem_cons_self, _, rfl⟩
  · exact ⟨c, List.mem_cons_self, _, rfl⟩

end Positional

/-- A text without a sign that is a numeral of a decimal: it begins with a digit, is written with what
numbers are written with, and reads as a decimal of the same value. -/
structure Spells (cs : List Char) (d : Decimal) : Prop where
  written : ∀ c ∈ cs, IsWritten c
  begins : ∃ c rest, cs = c :: rest ∧ c.isDigit
  reads : ∃ e, readDecimal? cs = some e ∧ Decimal.SameValue e d

/-- A numeral of a decimal that rounds to a finite magnitude reads, with a sign, as that magnitude. -/
theorem Spells.readBinary64? {cs : List Char} {d : Decimal} (spelled : Spells cs d) (negative : Bool)
    {magnitude : Magnitude} (back : d.readsBack magnitude.units) :
    Numeral.readBinary64? (String.ofList (Binary64.signText negative ++ cs)) =
      some (.finite negative magnitude) := by
  obtain ⟨e, read, same⟩ := spelled.reads
  obtain ⟨c, rest, rfl, digit⟩ := spelled.begins
  rw [readBinary64?_of_plain negative (fun d present => (spelled.written d present).isPlain) digit, read,
    Option.map_some, Decimal.toBinary64_of_readsBack negative (by rwa [same.readsBack])]

end Numeral

namespace Decimal

theorem isDigit_of_mem_digits {d : Decimal} {c : Char} (present : c ∈ d.digits) : c.isDigit :=
  Numeral.isDigit_of_mem_toDigits present

private theorem isDigit_of_mem_zeros {count : Nat} {c : Char} (present : c ∈ List.replicate count '0') :
    c.isDigit := by
  obtain rfl := List.eq_of_mem_replicate present
  rfl

theorem ofDigitChars_digits (d : Decimal) : Nat.ofDigitChars 10 d.digits 0 = d.significand :=
  Nat.ofDigitChars_ten_toDigits

/-- A numeral of digits that stands for the same number as a decimal. -/
structure IsPositionalOf (d : Decimal) (whole fraction : List Char) : Prop where
  wholes : ∀ c ∈ whole, c.isDigit
  some_whole : whole ≠ []
  fractions : ∀ c ∈ fraction, c.isDigit
  significand_eq : Nat.ofDigitChars 10 (whole ++ fraction) 0 = d.numerator
  places_eq : fraction.length = (-d.exponent).toNat

variable {d : Decimal}

theorem length_digits_pos (d : Decimal) : 0 < d.digits.length :=
  Nat.length_toDigits_pos

private theorem numerator_of_nonpos (fractional : d.exponent ≤ 0) : d.numerator = d.significand := by
  have whole : d.exponent.toNat = 0 := by omega
  unfold numerator
  rw [whole]
  exact Nat.mul_one _

private theorem isPositionalOf_leading (before : d.pointPosition ≤ 0) :
    d.IsPositionalOf ['0'] (List.replicate (-d.pointPosition).toNat '0' ++ d.digits) := by
  have some_digit := d.length_digits_pos
  unfold pointPosition at before ⊢
  constructor
  · simp [Char.isDigit]
  · simp
  · intro c present
    rcases List.mem_append.mp present with zero | digit
    · exact isDigit_of_mem_zeros zero
    · exact isDigit_of_mem_digits digit
  · have zero : Nat.ofDigitChars 10 ['0'] 0 = 0 := rfl
    rw [Nat.ofDigitChars_append, Nat.ofDigitChars_append, zero, Nat.ofDigitChars_replicate_zero,
      Nat.mul_zero, ofDigitChars_digits, numerator_of_nonpos (by omega)]
  · rw [List.length_append, List.length_replicate]
    omega

private theorem isPositionalOf_inside (after : 0 < d.pointPosition) (inside : d.pointPosition < d.digits.length) :
    d.IsPositionalOf (d.digits.take d.pointPosition.toNat) (d.digits.drop d.pointPosition.toNat) := by
  unfold pointPosition at after inside ⊢
  constructor
  · exact fun c present => isDigit_of_mem_digits (List.mem_of_mem_take present)
  · refine List.length_pos_iff.mp ?_
    rw [List.length_take]
    omega
  · exact fun c present => isDigit_of_mem_digits (List.mem_of_mem_drop present)
  · rw [List.take_append_drop, ofDigitChars_digits, numerator_of_nonpos (by omega)]
  · rw [List.length_drop]
    omega

theorem isPositionalOf_padded (beyond : d.digits.length ≤ d.pointPosition) :
    d.IsPositionalOf (padded d.digits d.pointPosition) [] := by
  have some_digit := d.length_digits_pos
  have zeros : (d.pointPosition - d.digits.length).toNat = d.exponent.toNat := by
    unfold pointPosition
    omega
  unfold padded
  rw [zeros]
  constructor
  · intro c present
    rcases List.mem_append.mp present with digit | zero
    · exact isDigit_of_mem_digits digit
    · exact isDigit_of_mem_zeros zero
  · simp [List.length_pos_iff.mp some_digit]
  · exact fun c present => absurd present List.not_mem_nil
  · rw [List.append_nil, Nat.ofDigitChars_append, ofDigitChars_digits, Nat.ofDigitChars_replicate_zero,
      Nat.mul_comm]
    rfl
  · unfold pointPosition at beyond
    rw [List.length_nil]
    omega

theorem exists_positional_fixedPoint (d : Decimal) :
    ∃ whole fraction, d.IsPositionalOf whole fraction ∧
      d.fixedPoint = Numeral.positional whole fraction := by
  have some_digit := d.length_digits_pos
  unfold fixedPoint
  split
  · rename_i inside
    unfold pointed
    split
    · rename_i before
      refine ⟨_, _, isPositionalOf_leading before, ?_⟩
      unfold Numeral.positional
      rw [if_neg (by simp [List.length_pos_iff.mp some_digit])]
      rfl
    · rename_i after
      refine ⟨_, _, isPositionalOf_inside (by omega) inside, ?_⟩
      unfold Numeral.positional
      rw [if_neg (by simp; omega)]
  · rename_i beyond
    exact ⟨_, [], isPositionalOf_padded (by omega), rfl⟩

variable {whole fraction : List Char}

theorem IsPositionalOf.sameValue (numeral : d.IsPositionalOf whole fraction) :
    SameValue ⟨Nat.ofDigitChars 10 (whole ++ fraction) 0, -(fraction.length : Int)⟩ d := by
  have places := numeral.places_eq
  have tens : (-(fraction.length : Int)).toNat = 0 := by omega
  have tenths : (- -(fraction.length : Int)).toNat = (-d.exponent).toNat := by omega
  unfold SameValue
  rw [numeral.significand_eq]
  unfold denominator
  rw [numerator, tens, tenths]
  exact congrArg (· * Nat.pow 10 (-d.exponent).toNat) (Nat.mul_one _)

theorem spells_positional (wholes : ∀ c ∈ whole, c.isDigit) (some_whole : whole ≠ [])
    (fractions : ∀ c ∈ fraction, c.isDigit)
    (same : SameValue ⟨Nat.ofDigitChars 10 (whole ++ fraction) 0, -(fraction.length : Int)⟩ d) :
    Numeral.Spells (Numeral.positional whole fraction) d where
  written := Numeral.isWritten_of_mem_positional wholes fractions
  begins := by
    obtain ⟨c, first, rest, shape⟩ := Numeral.exists_cons_positional some_whole fraction
    exact ⟨c, rest, shape, wholes c first⟩
  reads := ⟨_, Numeral.readDecimal?_positional wholes some_whole fractions, same⟩

theorem IsPositionalOf.spells (numeral : d.IsPositionalOf whole fraction) :
    Numeral.Spells (Numeral.positional whole fraction) d :=
  spells_positional numeral.wholes numeral.some_whole numeral.fractions numeral.sameValue

theorem IsPositionalOf.readBinary64? (numeral : d.IsPositionalOf whole fraction) {magnitude : Magnitude}
    (back : d.readsBack magnitude.units) :
    Numeral.readBinary64? (String.ofList (Numeral.positional whole fraction)) =
      some (.finite false magnitude) := by
  exact numeral.spells.readBinary64? false back

end Decimal

end SampledMetrics
