import SampledMetrics.Statistics
import SampledMetrics.Value.Order
/-!
A snapshot: the samples held at one moment, in ascending order, and what can be asked of them.  An
empty snapshot has zero for every statistic.  Of the questions by name the quantile and the percentile
take one argument, the length and the description do not mind any, and the others take none.
-/

set_option autoImplicit false
set_option relaxedAutoImplicit false

namespace SampledMetrics

/-- The samples held at one moment, in ascending order. -/
structure Snapshot where
  values : List Value

namespace Snapshot

def ofValues (values : List Value) : Except Failure Snapshot := do
  return ⟨← Value.sort values⟩

def size (s : Snapshot) : Nat :=
  s.values.length

def describe (s : Snapshot) : String :=
  "Snapshot(size=" ++ toString s.size ++ ")"

def min (s : Snapshot) : Value :=
  s.values.head?.getD (.int 0)

def max (s : Snapshot) : Value :=
  s.values.getLast?.getD (.int 0)

def mean (s : Snapshot) : Except Failure Binary64 :=
  if s.values.isEmpty then .ok (Binary64.zero false) else Statistics.mean s.values

def stddev (s : Snapshot) : Except Failure Binary64 :=
  if s.size ≤ 1 then .ok (Binary64.zero false) else Statistics.deviation s.values

/-- Between two neighbouring samples, at a fraction of their distance. -/
def interpolate (lower upper : Value) (fraction : Number) : Except Failure Number :=
  match lower.asNumber?, upper.asNumber? with
  | some low, some high => do
      let distance ← Number.orTooLarge (high.sub low)
      let part ← Number.orTooLarge (fraction.mul distance)
      Number.orTooLarge (low.add part)
  | _, _ => .error (.noOperation "-" upper.kindName lower.kindName)

/-- The part of a position after its last whole number. -/
def fractionPart (position : Number) : Option Number :=
  position.floor?.bind fun whole => position.sub (.int whole)

/-- The value at a position counted from one: the first sample before the first, the last one from
the last on, and in between a point between two samples. -/
def atPosition (s : Snapshot) (position : Number) : Except Failure Number :=
  let index := position.truncate?.getD 0
  if before : index < 1 then do return .float (← s.min.toBinary64)
  else if beyond : s.size ≤ index then do return .float (← s.max.toBinary64)
  else
    have inside : index.toNat < s.values.length := by
      unfold size at beyond
      omega
    do
      let fraction ← Number.orTooLarge (fractionPart position)
      interpolate s.values[index.toNat - 1] s.values[index.toNat] fraction

/-- The value at a quantile between zero and one: its position is the quantile of one more than the
number of samples. -/
def quantile (s : Snapshot) (q : Number) : Except Failure Number := do
  let real ← Number.orTooLarge q.toBinary64?
  if real.isNaN || real.lt (Binary64.zero false) || (Binary64.ofInt 1).lt real then
    .error (.quantileOutside q)
  else if s.values.isEmpty then return .float (Binary64.zero false)
  else s.atPosition (← Number.orTooLarge (q.mul (.int (s.size + 1))))

def getValue (s : Snapshot) (q : Value) : Except Failure Number :=
  match q.asNumber? with
  | none => .error (.notReal q.kindName)
  | some number => s.quantile number

def median (s : Snapshot) : Except Failure Number :=
  s.quantile (.float (Binary64.ofRatio false 1 2))

/-- The value at a percentile: the quantile is its hundredth. -/
def percentile (s : Snapshot) (p : Number) : Except Failure Number :=
  match p.hundredth? with
  | none => .error .quotientTooLarge
  | some q => s.quantile (.float q)

/-- The same for a percentile that has not been checked. -/
def valueAtPercentile (s : Snapshot) (p : Value) : Except Failure Number :=
  match p.asNumber? with
  | none => .error (.noOperation "/" p.kindName "int")
  | some number => s.percentile number

/-- What can be asked of a snapshot. -/
inductive Query
  | size
  | describe
  | values
  | min
  | max
  | mean
  | stddev
  | median
  | quantile (q : Value)
  | percentile (p : Value)

def ask (s : Snapshot) : Query → Except Failure Value
  | .size => .ok (.int s.size)
  | .describe => .ok (.text s.describe)
  | .values => .ok (.list s.values)
  | .min => .ok s.min
  | .max => .ok s.max
  | .mean => s.mean.map .float
  | .stddev => s.stddev.map .float
  | .median => s.median.map .number
  | .quantile q => (s.getValue q).map .number
  | .percentile p => (s.valueAtPercentile p).map .number

end Snapshot

namespace Snapshot

/-- A question by name, with its arguments. -/
structure Call where
  name : String
  arguments : List Value

namespace Call

def simple? : String → Option Query
  | "size" => some .size
  | "values" => some .values
  | "min" => some .min
  | "max" => some .max
  | "mean" => some .mean
  | "stddev" => some .stddev
  | "median" => some .median
  | _ => none

/-- The queries with an argument, and the name of the argument. -/
def withArgument? : String → Option (String × (Value → Query))
  | "get_value" => some ("quantile", .quantile)
  | "value_at_percentile" => some ("percentile", .percentile)
  | _ => none

/-- Refuse for a fault of the arguments; the snapshot itself counts as one of them. -/
def faulty (c : Call) (fault : ArgumentFault) : Except Failure Query :=
  .error (.arguments ("Snapshot." ++ c.name) fault)

def toQuery (c : Call) : Except Failure Query :=
  let given := c.arguments.length + 1
  if c.name = "len" then .ok .size
  else if c.name = "repr" then .ok .describe
  else
    match simple? c.name, withArgument? c.name, c.arguments with
    | some query, _, [] => .ok query
    | some _, _, _ => c.faulty (.tooMany 1 1 given)
    | none, some (_, query), [argument] => .ok (query argument)
    | none, some (parameter, _), [] => c.faulty (.missing [parameter])
    | none, some _, _ => c.faulty (.tooMany 2 2 given)
    | none, none, _ => .error (.lacks "Snapshot" c.name)

end Call

def answer (s : Snapshot) (c : Call) : Except Failure Value := do
  s.ask (← c.toQuery)

end Snapshot

end SampledMetrics
