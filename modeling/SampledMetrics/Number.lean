import SampledMetrics.Binary64.Arithmetic
/-!
Numbers as they are observed: integers of any size and binary64 numbers, side by side.  They are
compared exactly.  Arithmetic on two integers is exact; as soon as one side is binary64, an integer
is first rounded to binary64, which fails when it is too large.
-/

set_option autoImplicit false
set_option relaxedAutoImplicit false

namespace SampledMetrics

inductive Number
  | int (value : Int)
  | float (value : Binary64)
  deriving DecidableEq

namespace Number

open Binary64 (unitsPerOne)

instance : Inhabited Number := ⟨.int 0⟩

/-- The exact place on the number line; nothing for not-a-number. -/
def place? : Number → Option Place
  | .int value => some (.whole (value * unitsPerOne))
  | .float value => value.place?

def isNaN : Number → Bool
  | .int _ => false
  | .float value => value.isNaN

/-- Strictly smaller, compared exactly; never true of not-a-number. -/
def lt (x y : Number) : Bool :=
  match x.place?, y.place? with
  | some p, some q => p.before q
  | _, _ => false

/-- Not greater, for numbers that have a place. -/
def le (x y : Number) : Bool :=
  match x.place?, y.place? with
  | some p, some q => !q.before p
  | _, _ => false

/-- Numerically equal, whatever the kind and the sign of zero. -/
def same (x y : Number) : Bool :=
  match x.place?, y.place? with
  | some p, some q => p = q
  | _, _ => false

/-- The nearest binary64 number; nothing for an integer beyond the range. -/
def toBinary64? : Number → Option Binary64
  | .int value =>
      let rounded := Binary64.ofInt value
      if rounded.isFinite then some rounded else none
  | .float value => some value

/-- An operation that is exact on integers and binary64 otherwise. -/
def combine (exact : Int → Int → Int) (rounded : Binary64 → Binary64 → Binary64) :
    Number → Number → Option Number
  | .int a, .int b => some (.int (exact a b))
  | x, y => do
      let a ← x.toBinary64?
      let b ← y.toBinary64?
      some (.float (rounded a b))

def add : Number → Number → Option Number :=
  combine (· + ·) Binary64.add

def sub : Number → Number → Option Number :=
  combine (· - ·) Binary64.sub

def mul : Number → Number → Option Number :=
  combine (· * ·) Binary64.mul

def floor? : Number → Option Int
  | .int value => some value
  | .float value => value.floor?

/-- The integer part, cut toward zero, of a finite number. -/
def truncate? : Number → Option Int
  | .int value => some value
  | .float value => value.truncate?

/-- A hundredth, rounded once; nothing when an integer's hundredth is beyond the range. -/
def hundredth? : Number → Option Binary64
  | .int value =>
      let rounded := Binary64.ofRatio (value < 0) value.natAbs 100
      if rounded.isFinite then some rounded else none
  | .float value => some (value.div (Binary64.ofInt 100))

/-- Different from zero; true of not-a-number. -/
def isNonzero : Number → Bool
  | .int value => value ≠ 0
  | .float value => value.isNonzero

theorem le_total {x y : Number} (hx : x.place?.isSome) (hy : y.place?.isSome) :
    x.le y || y.le x := by
  obtain ⟨p, hp⟩ := Option.isSome_iff_exists.1 hx
  obtain ⟨q, hq⟩ := Option.isSome_iff_exists.1 hy
  cases left : q.before p with
  | false => simp [le, hp, hq, left]
  | true =>
    cases right : p.before q with
    | false => simp [le, hp, hq, right]
    | true =>
      have loop := Place.before_trans left right
      rw [Place.before_irrefl] at loop
      contradiction

theorem place?_isSome_of_not_isNaN {x : Number} (number : x.isNaN = false) :
    x.place?.isSome := by
  cases x with
  | int value => rfl
  | float value =>
    cases value with
    | nan => simp [isNaN, Binary64.isNaN] at number
    | infinity negative => cases negative <;> rfl
    | finite negative magnitude => rfl

end Number

end SampledMetrics
