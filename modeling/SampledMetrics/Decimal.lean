import SampledMetrics.Binary64.Basic
/-!
Decimal numbers: a significand and a power of ten, and the binary64 number nearest to one.  The shortest
decimal that reads back as a magnitude, and of the shortest ones the nearest, is found on the grids of one,
two, up to seventeen significant digits in turn; on each only the two neighbours of the exact value
matter, and should no grid hold one, the exact expansion stands.  The usual text is positional while the
point stands at most three zeros before the first digit and at most sixteen digits after it; beyond that
it is scientific.  The fixed point text never has an exponent.
-/

set_option autoImplicit false
set_option relaxedAutoImplicit false

namespace SampledMetrics

/-- The number `significand * 10 ^ exponent`. -/
structure Decimal where
  significand : Nat
  exponent : Int
  deriving DecidableEq, Repr

namespace Decimal

def numerator (d : Decimal) : Nat :=
  d.significand * Nat.pow 10 d.exponent.toNat

def denominator (d : Decimal) : Nat :=
  Nat.pow 10 (-d.exponent).toNat

def digits (d : Decimal) : List Char :=
  Nat.toDigits 10 d.significand

/-- How many digits of the fixed point form stand before the point; negative for zeros after it. -/
def pointPosition (d : Decimal) : Int :=
  d.digits.length + d.exponent

/-- The binary64 number nearest to `d`.  Powers of ten far outside the range decide the result
without being written out. -/
def toBinary64 (negative : Bool) (d : Decimal) : Binary64 :=
  if d.significand = 0 then Binary64.zero negative
  else if 400 < d.pointPosition then .infinity negative
  else if d.pointPosition < -400 then Binary64.zero negative
  else Binary64.ofRatio negative d.numerator d.denominator

end Decimal

namespace Decimal

open Binary64 (unitsPerOne roundQuotient roundUnits)

/-- How often a value below a tenth can be multiplied by ten before it is a tenth or more. -/
def leadingZeros : (fuel units : Nat) → Nat
  | 0, _ => 0
  | fuel + 1, units => if units * 10 < unitsPerOne then leadingZeros fuel (units * 10) + 1 else 0

/-- The place of the decimal point: `units` lies between ten to this power and a tenth of that. -/
def magnitudePosition (units : Nat) : Int :=
  let whole := units / unitsPerOne
  if whole = 0 then -(leadingZeros 400 units : Int) else (Nat.toDigits 10 whole).length

def readsBack (units : Nat) (d : Decimal) : Bool :=
  roundUnits (d.numerator * unitsPerOne) d.denominator = units

/-- The nearer, else the farther neighbour of `units` among the multiples of `10 ^ exponent`, if it
reads back. -/
def onGrid (units : Nat) (exponent : Int) : Option Decimal :=
  let num := units * Nat.pow 10 (-exponent).toNat
  let den := unitsPerOne * Nat.pow 10 exponent.toNat
  let below := num / den
  let nearer := roundQuotient num den
  let farther := if nearer = below then below + 1 else below
  [⟨nearer, exponent⟩, ⟨farther, exponent⟩].find? (readsBack units)

def exact (units : Nat) : Decimal :=
  ⟨units * Nat.pow 5 1074, -1074⟩

/-- The significand without its trailing zeros. -/
def trim : (fuel : Nat) → Decimal → Decimal
  | 0, d => d
  | fuel + 1, d =>
      if d.significand ≠ 0 ∧ d.significand % 10 = 0 then
        trim fuel ⟨d.significand / 10, d.exponent + 1⟩
      else d

def shortest (units : Nat) : Decimal :=
  let position := magnitudePosition units
  let found := (List.range 17).findSome? fun k => onGrid units (position - (k + 1 : Nat))
  let decimal := found.getD (exact units)
  trim decimal.digits.length decimal

theorem readsBack_of_onGrid {units : Nat} {exponent : Int} {d : Decimal}
    (found : onGrid units exponent = some d) : readsBack units d :=
  List.find?_some found

end Decimal

namespace Decimal

/-- Digits on both sides of a point, when the point stands inside them or before them. -/
def pointed (digits : List Char) (position : Int) : List Char :=
  if position ≤ 0 then
    '0' :: '.' :: (List.replicate (-position).toNat '0' ++ digits)
  else digits.take position.toNat ++ '.' :: digits.drop position.toNat

/-- Digits followed by the zeros that reach to the point. -/
def padded (digits : List Char) (position : Int) : List Char :=
  digits ++ List.replicate (position - digits.length).toNat '0'

/-- Without exponent, and without a point when nothing follows it. -/
def fixedPoint (d : Decimal) : List Char :=
  if d.pointPosition < d.digits.length then pointed d.digits d.pointPosition
  else padded d.digits d.pointPosition

def exponentText (exponent : Int) : List Char :=
  let digits := Nat.toDigits 10 exponent.natAbs
  let sign := if exponent < 0 then '-' else '+'
  'e' :: sign :: (if digits.length < 2 then '0' :: digits else digits)

def scientific (d : Decimal) : List Char :=
  let tail := exponentText (d.pointPosition - 1)
  match d.digits with
  | [] => tail
  | [first] => first :: tail
  | first :: rest => first :: '.' :: (rest ++ tail)

/-- The usual text of a decimal number. -/
def text (d : Decimal) : List Char :=
  if -4 < d.pointPosition ∧ d.pointPosition ≤ 16 then
    if d.pointPosition < d.digits.length then pointed d.digits d.pointPosition
    else padded d.digits d.pointPosition ++ ['.', '0']
  else d.scientific

end Decimal

namespace Binary64

def signText (negative : Bool) : List Char :=
  if negative then ['-'] else []

/-- The shortest text that reads back. -/
def text : Binary64 → String
  | .nan => "nan"
  | .infinity negative => String.ofList (signText negative ++ ['i', 'n', 'f'])
  | .finite negative magnitude =>
      if magnitude.units = 0 then String.ofList (signText negative ++ ['0', '.', '0'])
      else String.ofList (signText negative ++ (Decimal.shortest magnitude.units).text)

/-- The shortest digits that read back, as a fixed point number; nothing for what is not finite. -/
def fixedPoint? : Binary64 → Option (List Char)
  | .finite negative magnitude =>
      some (signText negative ++ (Decimal.shortest magnitude.units).fixedPoint)
  | _ => none

end Binary64

end SampledMetrics
