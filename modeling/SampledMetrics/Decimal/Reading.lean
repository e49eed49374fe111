import SampledMetrics.Decimal
/-!
Numerals as people write them: digits of any script, white space around, a sign, and single
underscores between digits.  Every script has its ten digits in a row, so a digit is known by the zero
it follows.  Integers have at most 4300 digits; binary64 numerals also have a fraction, an exponent, or
are the words for infinity and not-a-number.
-/

set_option autoImplicit false
set_option relaxedAutoImplicit false

namespace SampledMetrics

namespace Text

/-- White space: the characters with the Unicode property, and the four separators from U+001C. -/
def isBlank (c : Char) : Bool :=
  let code := c.toNat
  (9 ≤ code && code ≤ 13) || (0x1c ≤ code && code ≤ 0x20) || code = 0x85 || code = 0xa0
    || code = 0x1680 || (0x2000 ≤ code && code ≤ 0x200a) || code = 0x2028 || code = 0x2029
    || code = 0x202f || code = 0x205f || code = 0x3000

/-- The white space of ASCII that a numeral may stand in: tabulators, line ends and the space. -/
def isAsciiBlank (c : Char) : Bool :=
  let code := c.toNat
  (9 ≤ code && code ≤ 13) || code = 0x20

/-- `cs` without the characters at both ends that satisfy `blank`. -/
def strip (blank : Char → Bool) (cs : List Char) : List Char :=
  ((cs.dropWhile blank).reverse.dropWhile blank).reverse

def isBlankText (s : String) : Bool :=
  s.toList.all isBlank

private theorem dropWhile_eq_nil_of_all {blank : Char → Bool} {cs : List Char} (all : cs.all blank) :
    cs.dropWhile blank = [] := by
  induction cs with
  | nil => rfl
  | cons c cs ih => simp_all [List.dropWhile]

private theorem all_of_dropWhile_eq_nil {blank : Char → Bool} {cs : List Char}
    (empty : cs.dropWhile blank = []) : cs.all blank := by
  induction cs with
  | nil => rfl
  | cons c cs ih =>
    rw [List.dropWhile_cons] at empty
    split at empty <;> simp_all

/-- Stripping leaves nothing exactly of a text that is blank throughout. -/
theorem strip_eq_nil_iff (blank : Char → Bool) (cs : List Char) :
    strip blank cs = [] ↔ cs.all blank := by
  constructor
  · intro empty
    have inner : (cs.dropWhile blank).all blank := by
      simpa [strip] using all_of_dropWhile_eq_nil (List.reverse_eq_nil_iff.1 empty)
    cases found : cs.dropWhile blank with
    | nil => exact all_of_dropWhile_eq_nil found
    | cons c rest =>
      have head : blank c = false := by
        have := List.head?_dropWhile_not blank cs
        simpa [found] using this
      simp [found, head] at inner
  · intro all
    simp [strip, dropWhile_eq_nil_of_all all]

def zeroDigits : List Nat :=
  [
    0x30, 0x660, 0x6f0, 0x7c0, 0x966, 0x9e6, 0xa66, 0xae6, 0xb66, 0xbe6, 0xc66, 0xce6, 0xd66,
    0xde6, 0xe50, 0xed0, 0xf20, 0x1040, 0x1090, 0x17e0, 0x1810, 0x1946, 0x19d0, 0x1a80, 0x1a90,
    0x1b50, 0x1bb0, 0x1c40, 0x1c50, 0xa620, 0xa8d0, 0xa900, 0xa9d0, 0xa9f0, 0xaa50, 0xabf0,
    0xff10, 0x104a0, 0x10d30, 0x11066, 0x110f0, 0x11136, 0x111d0, 0x112f0, 0x11450, 0x114d0,
    0x11650, 0x116c0, 0x11730, 0x118e0, 0x11950, 0x11c50, 0x11d50, 0x11da0, 0x16a60, 0x16ac0,
    0x16b50, 0x1d7ce, 0x1d7d8, 0x1d7e2, 0x1d7ec, 0x1d7f6, 0x1e140, 0x1e2f0, 0x1e950, 0x1fbf0
  ]

def digitValue? (c : Char) : Option Nat :=
  (zeroDigits.find? fun first => first ≤ c.toNat && c.toNat < first + 10).map (c.toNat - ·)

end Text

namespace Numeral

/-- The most digits that an integer is converted from or to. -/
def digitLimit : Nat := 4300

/-- A character in its ASCII form: digits of every script and white space have one, and what has
none becomes a question mark. -/
def asciiForm (c : Char) : Char :=
  if c.toNat < 127 then c
  else if Text.isBlank c then ' '
  else match Text.digitValue? c with
    | some value => value.digitChar
    | none => '?'

/-- The ASCII form of a numeral without the white space around it. -/
def normalize (s : String) : List Char :=
  Text.strip Text.isAsciiBlank (s.toList.map asciiForm)

/-- A sign, if there is one: true for minus. -/
def readSign : List Char → Bool × List Char
  | '-' :: rest => (true, rest)
  | '+' :: rest => (false, rest)
  | rest => (false, rest)

/-- The text without its underscores, each of which must stand between two digits; `afterDigit`
tells whether a digit comes just before. -/
def joinGroups? (afterDigit : Bool) : List Char → Option (List Char)
  | [] => some []
  | '_' :: c :: rest =>
      if afterDigit && c.isDigit then (joinGroups? true rest).map (c :: ·) else none
  | c :: rest => if c = '_' then none else (joinGroups? c.isDigit rest).map (c :: ·)

def readInteger? (s : String) : Option Int :=
  let (negative, rest) := readSign (normalize s)
  match joinGroups? false rest with
  | none => none
  | some digits =>
      if digits.isEmpty || !digits.all Char.isDigit || digitLimit < digits.length then none
      else
        let magnitude : Int := Nat.ofDigitChars 10 digits 0
        some (if negative then -magnitude else magnitude)

/-- The exponent part of a numeral: nothing, or a mark, an optional sign and digits to the end. -/
def readExponent? : List Char → Option Int
  | [] => some 0
  | mark :: rest =>
      let (negative, digits) := readSign rest
      if (mark = 'e' || mark = 'E') && !digits.isEmpty && digits.all Char.isDigit then
        let magnitude : Int := Nat.ofDigitChars 10 digits 0
        some (if negative then -magnitude else magnitude)
      else none

/-- The fraction digits after a point, if there is one, and what follows them. -/
def readFraction : List Char → List Char × List Char
  | '.' :: rest => rest.span Char.isDigit
  | rest => ([], rest)

def readDecimal? (cs : List Char) : Option Decimal :=
  let (whole, rest) := cs.span Char.isDigit
  let (fraction, rest) := readFraction rest
  if whole.isEmpty && fraction.isEmpty then none
  else (readExponent? rest).map fun exponent =>
    ⟨Nat.ofDigitChars 10 (whole ++ fraction) 0, exponent - fraction.length⟩

def readBinary64? (s : String) : Option Binary64 :=
  match joinGroups? false (normalize s) with
  | none => none
  | some cs =>
      let (negative, unsigned) := readSign cs
      let word := String.ofList (unsigned.map Char.toLower)
      if word = "inf" ∨ word = "infinity" then some (.infinity negative)
      else if word = "nan" then some .nan
      else (readDecimal? unsigned).map (Decimal.toBinary64 negative)

end Numeral

end SampledMetrics
