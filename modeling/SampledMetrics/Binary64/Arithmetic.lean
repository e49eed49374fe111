import SampledMetrics.Binary64.Basic
/-!
Arithmetic of binary64: each operation is the exact result rounded once.  Sums and products of
numbers on the grid are whole numbers of units, or such a number over a power of two, so the exact
result is never approximated before it is rounded.
-/

set_option autoImplicit false
set_option relaxedAutoImplicit false

namespace SampledMetrics.Binary64

def neg : Binary64 → Binary64
  | .nan => .nan
  | .infinity negative => .infinity (!negative)
  | .finite negative magnitude => .finite (!negative) magnitude

/-- The sum: zero only as the exact sum, and then negative only for two negative zeros. -/
def add : Binary64 → Binary64 → Binary64
  | .nan, _ => .nan
  | _, .nan => .nan
  | .infinity a, .infinity b => if a = b then .infinity a else .nan
  | .infinity a, .finite _ _ => .infinity a
  | .finite _ _, .infinity b => .infinity b
  | .finite a x, .finite b y =>
      let sum := signedUnits a x + signedUnits b y
      if sum = 0 then zero (a && b)
      else ofUnits (sum < 0) sum.natAbs 1

def sub (x y : Binary64) : Binary64 :=
  add x (neg y)

def mul : Binary64 → Binary64 → Binary64
  | .nan, _ => .nan
  | _, .nan => .nan
  | .infinity a, .infinity b => .infinity (a != b)
  | .infinity a, .finite b y => if y.units = 0 then .nan else .infinity (a != b)
  | .finite a x, .infinity b => if x.units = 0 then .nan else .infinity (a != b)
  | .finite a x, .finite b y => ofUnits (a != b) (x.units * y.units) unitsPerOne

def div : Binary64 → Binary64 → Binary64
  | .nan, _ => .nan
  | _, .nan => .nan
  | .infinity _, .infinity _ => .nan
  | .infinity a, .finite b _ => .infinity (a != b)
  | .finite a _, .infinity b => zero (a != b)
  | .finite a x, .finite b y =>
      if y.units = 0 then (if x.units = 0 then .nan else .infinity (a != b))
      else ofUnits (a != b) (x.units * unitsPerOne) y.units

/-- The remainder of a nonnegative finite number by a positive one: the exact remainder is on the
grid. -/
def remainder (x y : Binary64) : Binary64 :=
  match x, y with
  | .finite a x, .finite _ y => if y.units = 0 then .nan else ofUnits a (x.units % y.units) 1
  | .finite a x, .infinity _ => .finite a x
  | _, _ => .nan

def lt (x y : Binary64) : Bool :=
  match x.place?, y.place? with
  | some p, some q => p.before q
  | _, _ => false

/-- Strictly smaller in magnitude; never true of not-a-number. -/
def smaller : Binary64 → Binary64 → Bool
  | .finite _ x, .finite _ y => x.units < y.units
  | .finite _ _, .infinity _ => true
  | _, _ => false

/-- Neither zero, whatever its sign; true of not-a-number. -/
def isNonzero : Binary64 → Bool
  | .finite _ magnitude => magnitude.units ≠ 0
  | _ => true

/-- The whole number whose square does not exceed `n`, and whose successor's square does, found by
bisection between `low` and `high`. -/
def rootBetween (n : Nat) : (fuel low high : Nat) → Nat
  | 0, low, _ => low
  | fuel + 1, low, high =>
      if high ≤ low + 1 then low
      else
        let middle := (low + high) / 2
        if middle * middle ≤ n then rootBetween n fuel middle high
        else rootBetween n fuel low middle

def floorRoot (n : Nat) : Nat :=
  rootBetween n (n.log2 + 2) 0 (Nat.pow 2 (n.log2 / 2 + 1))

/-- The square root of `num / den` units, rounded once: the root is taken with three further bits,
of which the last records whether it is exact. -/
def sqrtUnits (num den : Nat) : Binary64 :=
  let scaled := num * 16
  let root := floorRoot (scaled / den)
  let exact := root * root * den = scaled
  ofUnits false (2 * root + if exact then 0 else 1) 8

end SampledMetrics.Binary64
