import SampledMetrics.Failure
import SampledMetrics.Sorting
/-!
Values side by side: when two are the same, which comes first, and sorting.  Numbers and truth values
are compared exactly, texts by code points, lists item by item; other pairs have no order.  Not-a-number
is the same as itself, unless it is a lone one, but precedes nothing and follows nothing.  Values
that all have a place on the number line are sorted stably.  For the others the order of comparisons
matters, because one that has no answer ends the sort, and others may contradict each other.
-/

set_option autoImplicit false
set_option relaxedAutoImplicit false

namespace SampledMetrics

namespace Text

def sorted (texts : List String) : List String :=
  texts.mergeSort fun a b => !(b < a)

end Text

namespace Value

mutual

/-- The same as values: numbers and truth values numerically, dictionaries whatever their order. -/
def same : Value → Value → Bool
  | .null, .null => true
  | .number (.float .nan), .number (.float .nan) => true
  | .text a, .text b => a = b
  | .list xs, .list ys => sameItems xs ys
  | .dict xs, .dict ys => xs.length = ys.length && sameEntries xs ys
  | .date a, .date b => a = b
  | .time a, .time b => a = b
  | .moment a s x, .moment b t y => a = b && s = t && x = y
  | x, y =>
      match x.asNumber?, y.asNumber? with
      | some a, some b => a.same b
      | _, _ => false

def sameItems : List Value → List Value → Bool
  | [], [] => true
  | x :: xs, y :: ys => x.same y && sameItems xs ys
  | _, _ => false

/-- Whether the second dictionary has every entry of the first. -/
def sameEntries : List (String × Value) → List (String × Value) → Bool
  | [], _ => true
  | (key, x) :: xs, ys =>
      (match ys.lookup key with
        | some y => x.same y
        | none => false)
      && sameEntries xs ys

end

mutual

/-- Whether the first value precedes the second, for pairs that have an order. -/
def precedes : Value → Value → Except Failure Bool
  | .text a, .text b => .ok (a < b)
  | .list xs, .list ys => itemsPrecede xs ys
  | x, y =>
      match x.asNumber?, y.asNumber? with
      | some a, some b => .ok (a.lt b)
      | _, _ => .error (.notOrdered "<" x.kindName y.kindName)

/-- The same for lists: the first pair of different items decides, then the length. -/
def itemsPrecede : List Value → List Value → Except Failure Bool
  | _, [] => .ok false
  | [], _ :: _ => .ok true
  | x :: xs, y :: ys => if x.same y then itemsPrecede xs ys else precedes x y

end

def place? (v : Value) : Option Place :=
  v.asNumber?.bind Number.place?

/-- Not after, for values that have a place. -/
def notAfter (x y : Value) : Bool :=
  match x.place?, y.place? with
  | some p, some q => !q.before p
  | _, _ => false

/-- Values in ascending order, equal ones in the order in which they came. -/
def sort (values : List Value) : Except Failure (List Value) :=
  if values.all fun v => v.place?.isSome then .ok (values.mergeSort notAfter)
  else Sorting.sortBy precedes values

end Value

end SampledMetrics
