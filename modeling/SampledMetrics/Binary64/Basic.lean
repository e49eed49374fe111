import SampledMetrics.Binary64.Rounding
/-!
A 64-bit floating point number as its exact value: a sign and a whole number of units of 2^-1074
on the grid, an infinity, or not a number.  Numbers are compared by their place on the line, so the
two zeros are equal and not-a-number is comparable with nothing.
-/

set_option autoImplicit false
set_option relaxedAutoImplicit false

namespace SampledMetrics

/-- A finite magnitude: a whole number of units of 2^-1074 that lies on the grid. -/
structure Magnitude where
  units : Nat
  representable : Binary64.Representable units
  deriving DecidableEq

/-- A binary64 number, with one value for everything that is not a number. -/
inductive Binary64
  | nan
  | infinity (negative : Bool)
  | finite (negative : Bool) (magnitude : Magnitude)
  deriving DecidableEq

/-- A place on the number line, in units of 2^-1074, with an end on each side. -/
inductive Place
  | bottom
  | whole (units : Int)
  | top
  deriving DecidableEq, Repr

namespace Place

/-- One place strictly before another. -/
def before : Place → Place → Bool
  | .bottom, .bottom => false
  | .bottom, _ => true
  | .whole a, .whole b => a < b
  | .whole _, .top => true
  | _, _ => false

theorem before_irrefl (p : Place) : p.before p = false := by
  cases p <;> simp [before]

theorem before_trans {p q r : Place} (first : p.before q) (second : q.before r) :
    p.before r := by
  cases p <;> cases q <;> cases r <;> simp_all [before]
  omega

end Place

namespace Binary64

instance : Inhabited Binary64 := ⟨.nan⟩

private theorem representable_zero : Representable 0 :=
  ⟨Nat.lt_of_lt_of_le (by decide) (pow_le_ceiling (Nat.zero_le _)), Nat.dvd_zero _⟩

def zero (negative : Bool) : Binary64 :=
  .finite negative ⟨0, representable_zero⟩

/-- The sign and the quotient `num / den` units, rounded once; too large a magnitude becomes an
infinity. -/
def ofUnits (negative : Bool) (num den : Nat) : Binary64 :=
  if finite : roundUnits num den < ceiling then
    .finite negative ⟨roundUnits num den, representable_roundUnits finite⟩
  else .infinity negative

/-- How many units make one. -/
def unitsPerOne : Nat :=
  Nat.pow 2 1074

/-- The quotient `num / den` with a sign, rounded once. -/
def ofRatio (negative : Bool) (num den : Nat) : Binary64 :=
  ofUnits negative (num * unitsPerOne) den

/-- An integer rounded to the grid. -/
def ofInt (value : Int) : Binary64 :=
  ofRatio (value < 0) value.natAbs 1

def isNaN : Binary64 → Bool
  | .nan => true
  | _ => false

def isFinite : Binary64 → Bool
  | .finite _ _ => true
  | _ => false

def signedUnits (negative : Bool) (magnitude : Magnitude) : Int :=
  if negative then -(magnitude.units : Int) else magnitude.units

def place? : Binary64 → Option Place
  | .nan => none
  | .infinity true => some .bottom
  | .infinity false => some .top
  | .finite negative magnitude => some (.whole (signedUnits negative magnitude))

/-- The exact integer part, cut toward zero, of a finite number. -/
def truncate? : Binary64 → Option Int
  | .finite negative magnitude =>
      some (Int.tdiv (signedUnits negative magnitude) unitsPerOne)
  | _ => none

def floor? : Binary64 → Option Int
  | .finite negative magnitude =>
      some (Int.fdiv (signedUnits negative magnitude) unitsPerOne)
  | _ => none

def leadingBit : Nat :=
  Nat.pow 2 52

private theorem normal_le {fraction : Nat} (fraction_lt : fraction < leadingBit) :
    leadingBit + fraction ≤ Nat.pow 2 53 := by
  have doubled : Nat.pow 2 53 = leadingBit + leadingBit := by decide
  omega

private theorem normal_lt_ceiling {fraction field : Nat} (fraction_lt : fraction < leadingBit)
    (field_lt : field < 2047) : (leadingBit + fraction) * Nat.pow 2 (field - 1) < ceiling :=
  calc (leadingBit + fraction) * Nat.pow 2 (field - 1)
      < (leadingBit + leadingBit) * Nat.pow 2 (field - 1) :=
        Nat.mul_lt_mul_of_pos_right (by omega) (Nat.two_pow_pos _)
    _ = Nat.pow 2 53 * Nat.pow 2 (field - 1) := rfl
    _ = Nat.pow 2 (53 + (field - 1)) := (Nat.pow_add ..).symm
    _ ≤ ceiling := pow_le_ceiling (by omega)

private theorem representable_normal {fraction field : Nat} (fraction_lt : fraction < leadingBit)
    (field_lt : field < 2047) : Representable ((leadingBit + fraction) * Nat.pow 2 (field - 1)) :=
  ⟨normal_lt_ceiling fraction_lt field_lt, spacing_dvd_of_le _ (normal_le fraction_lt)⟩

private theorem representable_subnormal {fraction : Nat} (fraction_lt : fraction < leadingBit) :
    Representable fraction := by
  refine ⟨Nat.lt_of_lt_of_le fraction_lt (pow_le_ceiling (by decide)), ?_⟩
  have grid := spacing_dvd_of_le 0 (Nat.le_trans (Nat.le_add_left _ _) (normal_le fraction_lt))
  simpa using grid

/-- The number with the given sign, exponent field and fraction field. -/
def ofFields (negative : Bool) (field fraction : Nat) (fraction_lt : fraction < leadingBit) :
    Binary64 :=
  if normal : field < 2047 then
    if field = 0 then .finite negative ⟨fraction, representable_subnormal fraction_lt⟩
    else
      .finite negative ⟨(leadingBit + fraction) * Nat.pow 2 (field - 1),
        representable_normal fraction_lt normal⟩
  else if fraction = 0 then .infinity negative
  else .nan

def signWeight : Nat :=
  Nat.pow 2 63

/-- The number that a 64-bit word encodes. -/
def ofBits (word : UInt64) : Binary64 :=
  ofFields (signWeight ≤ word.toNat) (word.toNat / leadingBit % 2048) (word.toNat % leadingBit)
    (Nat.mod_lt _ (by decide))

/-- The exponent and fraction fields of a magnitude, as one number. -/
def magnitudeBits (units : Nat) : Nat :=
  if units < leadingBit then units
  else
    let shift := units.log2 - 52
    shift * leadingBit + units / Nat.pow 2 shift

/-- The sign's part of a word. -/
def signBits (negative : Bool) : Nat :=
  if negative then signWeight else 0

/-- The 64-bit word of a number; not-a-number has the quiet word without payload. -/
def toBits : Binary64 → UInt64
  | .nan => UInt64.ofNat 0x7ff8000000000000
  | .infinity negative => UInt64.ofNat (signBits negative + 0x7ff0000000000000)
  | .finite negative magnitude => UInt64.ofNat (signBits negative + magnitudeBits magnitude.units)

end Binary64

end SampledMetrics
