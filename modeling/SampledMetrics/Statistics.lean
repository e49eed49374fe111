import SampledMetrics.Failure
/-!
Means and deviations.  For a mean, samples are taken as binary64 numbers and their exact sum is rounded
once, then divided by their number.  The sum is kept beside an expansion, a list of parts of growing size
that together are the sum so far, in which each sample is absorbed in turn; should that leave the finite
range, the sum is refused.  Infinite samples and not-a-number decide the sum by themselves.  The variance
is an exact quotient of whole numbers, and only its root is rounded, once.  In the arithmetic on unchecked
values truth values count as numbers, and texts and lists can be repeated and joined.
-/

set_option autoImplicit false
set_option relaxedAutoImplicit false

namespace SampledMetrics

/-- The result of an operation on numbers that fails only for an integer beyond the range. -/
def Number.orTooLarge {α : Type} (result : Option α) : Except Failure α :=
  match result with
  | some number => .ok number
  | none => .error .integerTooLarge

namespace Value

/-- A value converted to binary64: numbers, truth values, and texts that are numerals. -/
def toBinary64 : Value → Except Failure Binary64
  | .text numeral =>
      match Numeral.readBinary64? numeral with
      | some real => .ok real
      | none => .error (.numeral numeral)
  | value =>
      match value.asNumber? with
      | none => .error (.notConvertible value.kindName)
      | some exact =>
          match exact.toBinary64? with
          | some real => .ok real
          | none => .error .integerTooLarge

/-- The sum of two numbers, or two texts or two lists one after the other. -/
def add : Value → Value → Except Failure Value
  | .text x, .text y => .ok (.text (x ++ y))
  | .list xs, .list ys => .ok (.list (xs ++ ys))
  | .text x, y => .error (.joinsOnly (Value.text x).kindName y.kindName)
  | .list xs, y => .error (.joinsOnly (Value.list xs).kindName y.kindName)
  | x, y =>
      match x.asNumber?, y.asNumber? with
      | some a, some b => do return .number (← Number.orTooLarge (a.add b))
      | _, _ => .error (.noOperation "+" x.kindName y.kindName)

/-- The multiple of a number, or a text or a list so many times. -/
def times (count : Nat) : Value → Except Failure Value
  | .text x => .ok (.text (String.join (List.replicate count x)))
  | .list xs => .ok (.list (List.replicate count xs).flatten)
  | x =>
      match x.asNumber? with
      | some a => do return .number (← Number.orTooLarge ((Number.int count).mul a))
      | none => .error (.noOperation "*" (Value.int count).kindName x.kindName)

/-- How often something is done: a negative number of times is never. -/
def toCount : Value → Except Failure Nat
  | .number (.int count) => .ok count.toNat
  | .bool value => .ok (if value then 1 else 0)
  | value => .error (.notCount value.kindName)

end Value

def Value.toReal (value : Value) : Except Failure Binary64 :=
  match value.asNumber? with
  | none => .error (.notReal value.kindName)
  | some exact =>
      match exact.toBinary64? with
      | none => .error .integerTooLarge
      | some real => .ok real

namespace Statistics

/-- The two parts of an exact sum: the rounded sum, and what rounding took away. -/
def twoSum (x y : Binary64) : Binary64 × Binary64 :=
  let (large, small) := if x.smaller y then (y, x) else (x, y)
  let high := large.add small
  (high, small.sub (high.sub large))

/-- Absorb a number into an expansion: the parts left behind, smallest first, and the top part. -/
def absorb (x : Binary64) : List Binary64 → List Binary64 × Binary64
  | [] => ([], x)
  | part :: rest =>
      let (high, low) := twoSum x part
      let (parts, top) := absorb high rest
      (if low.isNonzero then low :: parts else parts, top)

/-- A sum in progress: the expansion, the exact sum in units, and the sums of the samples that are
not finite and of the infinite ones. -/
structure Total where
  parts : List Binary64
  units : Int
  special : Binary64
  infinities : Binary64

def Total.empty : Total :=
  ⟨[], 0, Binary64.zero false, Binary64.zero false⟩

/-- The exact value of a finite number in units. -/
def exactUnits : Binary64 → Int
  | .finite negative magnitude => Binary64.signedUnits negative magnitude
  | _ => 0

/-- One more sample. -/
def Total.add (total : Total) (x : Binary64) : Except Failure Total :=
  let (parts, top) := absorb x total.parts
  if !top.isNonzero then .ok { total with parts, units := total.units + exactUnits x }
  else if top.isFinite then
    .ok { total with parts := parts ++ [top], units := total.units + exactUnits x }
  else if x.isFinite then .error .partialSumTooLarge
  else .ok {
    total with
    parts := []
    special := total.special.add x
    infinities := if x.isNaN then total.infinities else total.infinities.add x }

def Total.result (total : Total) : Except Failure Binary64 :=
  if total.special.isNonzero then
    if total.infinities.isNaN then .error .oppositeInfinities else .ok total.special
  else .ok (Binary64.ofUnits (total.units < 0) total.units.natAbs 1)

/-- The sum of values, each taken as a real number when its turn comes. -/
def sum (values : List Value) : Except Failure Binary64 := do
  let total ← values.foldlM (fun total value => do total.add (← value.toReal)) Total.empty
  total.result

def mean (values : List Value) : Except Failure Binary64 := do
  return (← sum values).div (Binary64.ofInt values.length)

end Statistics

namespace Statistics

/-- The exact value of a number in units, if it is finite. -/
def units? : Number → Option Int
  | .int value => some (value * Binary64.unitsPerOne)
  | .float (.finite negative magnitude) => some (Binary64.signedUnits negative magnitude)
  | .float _ => none

/-- The exact value of a sample: an error for what is no number, nothing for what is not finite. -/
def sampleUnits (value : Value) : Except Failure (Option Int) :=
  match value.asNumber? with
  | none => .error (.noExactRatio value.kindName)
  | some number => .ok (units? number)

def total : List Int → Int
  | [] => 0
  | u :: rest => u + total rest

/-- The square of the number of samples times their variance, in units. -/
def scaledVariance (units : List Int) : Int :=
  units.length * total (units.map fun u => u * u) - total units * total units

def rootDeviation (units : List Int) : Binary64 :=
  Binary64.sqrtUnits (scaledVariance units).toNat (units.length * units.length)

/-- The standard deviation of values, all of which must be finite. -/
def deviation (values : List Value) : Except Failure Binary64 := do
  let samples ← values.mapM sampleUnits
  match samples.mapM id with
  | none => .error .infiniteDeviation
  | some units =>
      let root := rootDeviation units
      if root.isFinite then .ok root else .error .quotientTooLarge

end Statistics

end SampledMetrics
