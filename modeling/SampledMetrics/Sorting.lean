/-!
Sorting by a comparison that may have no answer, or contradict itself: what is asked, and in which order,
is part of the result.  How many values at the beginning of a list stay where they are is found by
bisection, or by galloping over positions 0, 1, 3, 7 and so on.  Runs are stretches that are in order; one
that strictly falls is reversed, and a short one is made longer by inserting the values after it.  Two
neighbouring runs are merged from the front if the left one is not the longer one, and otherwise from the
back, one pair at a time or, once a run has won as often in a row as the patience says, whole stretches
at once.  Which runs are merged first is decided by the power of the boundary between them: the first
binary digit in which the middles of the two, as fractions of the whole, differ.
-/

set_option autoImplicit false
set_option relaxedAutoImplicit false

namespace SampledMetrics.Sorting

/-- The end from which a run is read. -/
inductive Side
  | front
  | back
  deriving DecidableEq, Repr

def Side.view {α : Type} (side : Side) (values : List α) : List α :=
  match side with
  | .front => values
  | .back => values.reverse

/-- The middle of a stretch of positions counted from a side.  Of two middle positions it is the one
farther from the front of the run. -/
def Side.middle : Side → (width : Nat) → Nat
  | .front, width => width / 2
  | .back, width => (width - 1) / 2

private theorem Side.middle_lt (side : Side) {width : Nat} (h : 0 < width) : side.middle width < width := by
  cases side <;> simp only [Side.middle] <;> omega

variable {α ε : Type}

/-- How many values stay, if all before position `low` do, and none from `low + width` on. -/
def bisect (side : Side) (stays : α → Except ε Bool) (values : List α) (low width : Nat) :
    Except ε Nat :=
  if _h : 0 < width then
    match values[low + side.middle width]? with
    | none => .ok low
    | some x => do
        if ← stays x then
          bisect side stays values (low + side.middle width + 1) (width - side.middle width - 1)
        else bisect side stays values low (side.middle width)
  else .ok low
termination_by width
decreasing_by
  all_goals
    have := side.middle_lt ‹0 < width›
    omega

/-- How many values stay, if the one at position `last` does, and `next` is looked at next. -/
def gallopFrom (side : Side) (stays : α → Except ε Bool) (values : List α) (last next : Nat) :
    Except ε Nat :=
  if _h : next < values.length then do
    if ← stays values[next] then gallopFrom side stays values next (2 * next + 1)
    else bisect side stays values (last + 1) (next - (last + 1))
  else bisect side stays values (last + 1) (values.length - (last + 1))
termination_by values.length - next

/-- How many values stay, with few questions if they are few. -/
def gallop (side : Side) (stays : α → Except ε Bool) : List α → Except ε Nat
  | [] => .ok 0
  | x :: rest => do
      if ← stays x then gallopFrom side stays (x :: rest) 0 1 else .ok 0

/-- Extend a run, held last value first, while each value precedes the one before exactly if the run
falls. -/
def extendRun (precedes : α → α → Except ε Bool) (falls : Bool) (last : α) (earlier : List α) :
    List α → Except ε (List α × List α)
  | [] => .ok (last :: earlier, [])
  | next :: rest => do
      if (← precedes next last) = falls then
        extendRun precedes falls next (last :: earlier) rest
      else .ok (last :: earlier, next :: rest)

/-- Put `x` into a run, after all that it does not precede. -/
def insert (precedes : α → α → Except ε Bool) (run : List α) (x : α) : Except ε (List α) := do
  let place ← bisect .front (fun y => (precedes x y).map (!·)) run 0 run.length
  return run.take place ++ x :: run.drop place

/-- The run at the beginning of a list, with at least `least` values if there are as many, and the
values after it. -/
def takeRun (precedes : α → α → Except ε Bool) (least : Nat) :
    List α → Except ε (List α × List α)
  | [] => .ok ([], [])
  | [x] => .ok ([x], [])
  | x :: y :: rest => do
      let falls ← precedes y x
      let (found, rest) ← extendRun precedes falls y [x] rest
      let run := if falls then found else found.reverse
      let more := least - run.length
      return (← (rest.take more).foldlM (insert precedes) run, rest.drop more)

/-- The least length of a run for so many values: the number itself below 64, and otherwise a number
from 32 to 64 such that the runs are as many as a power of two, or a little fewer.  `spare` is one if
something was lost in halving. -/
def leastRun (count spare : Nat) : Nat :=
  if count < 64 then count + spare
  else leastRun (count / 2) (if count % 2 = 1 then 1 else spare)
termination_by count

/-- How the next values are found: by comparing, after so many wins of one run in a row, or by
galloping. -/
inductive Pace
  | comparing (leftRow rightRow : Nat)
  | galloping
  deriving DecidableEq, Repr

/-- A merge on its way: the values taken, the latest first, what is left of the two runs, both as read
from the side, the patience, and the pace. -/
structure Merge (α : Type) where
  taken : List α
  left : List α
  right : List α
  patience : Nat
  pace : Pace

/-- Whether the value of the right run is taken, of the two that are next. -/
def Side.takesRight (side : Side) (precedes : α → α → Except ε Bool) (left right : α) :
    Except ε Bool :=
  match side with
  | .front => precedes right left
  | .back => (precedes right left).map (!·)

/-- A stretch of this many values is worth galloping for. -/
def longStretch : Nat := 7

namespace Merge

/-- The values that follow those taken, if it is known how.  The value of the whole that comes last is
the last one of the left run from the front, and of the right run from the back. -/
def rest? (side : Side) (m : Merge α) : Option (List α) :=
  match side, m.left, m.right with
  | .front, [], right => some right
  | .front, [x], right => some (right ++ [x])
  | .front, left, [] => some left
  | .back, left, [] => some left
  | .back, left, [y] => some (left ++ [y])
  | .back, [], right => some right
  | _, _, _ => none

def isOver (side : Side) (m : Merge α) : Bool :=
  (m.rest? side).isSome

def values (side : Side) (m : Merge α) : List α :=
  side.view (m.taken.reverse ++ (m.rest? side).getD (m.left ++ m.right))

/-- Take values of the left run, unless the merge is over. -/
def takeLeft (side : Side) (count : Nat) (m : Merge α) : Merge α :=
  if m.isOver side then m
  else { m with taken := (m.left.take count).reverse ++ m.taken, left := m.left.drop count }

/-- Take values of the right run, unless the merge is over. -/
def takeRight (side : Side) (count : Nat) (m : Merge α) : Merge α :=
  if m.isOver side then m
  else { m with taken := (m.right.take count).reverse ++ m.taken, right := m.right.drop count }

/-- How many values of the left run come before the next one of the right run. -/
def leftStretch (side : Side) (precedes : α → α → Except ε Bool) (m : Merge α) : Except ε Nat :=
  match m.isOver side, m.right with
  | false, y :: _ => gallop side (fun x => (side.takesRight precedes x y).map (!·)) m.left
  | _, _ => .ok 0

/-- How many values of the right run come before the next one of the left run. -/
def rightStretch (side : Side) (precedes : α → α → Except ε Bool) (m : Merge α) : Except ε Nat :=
  match m.isOver side, m.left with
  | false, x :: _ => gallop side (fun y => side.takesRight precedes x y) m.right
  | _, _ => .ok 0

def withPace (m : Merge α) (pace : Pace) : Merge α :=
  { m with pace }

def paceAfter (patience leftRow rightRow : Nat) : Pace :=
  if patience ≤ leftRow ∨ patience ≤ rightRow then .galloping else .comparing leftRow rightRow

def compareNext (side : Side) (precedes : α → α → Except ε Bool) (leftRow rightRow : Nat)
    (m : Merge α) : Except ε (Merge α) :=
  match m.left, m.right with
  | x :: _, y :: _ => do
      if ← side.takesRight precedes x y then
        return (m.takeRight side 1).withPace (paceAfter m.patience 0 (rightRow + 1))
      else return (m.takeLeft side 1).withPace (paceAfter m.patience (leftRow + 1) 0)
  | _, _ => .ok m

/-- The merge after stretches of these lengths, unless it is over: if one was long the patience
shrinks, and otherwise it grows and comparing begins again. -/
def adapt (side : Side) (leftCount rightCount : Nat) (m : Merge α) : Merge α :=
  if m.isOver side then m
  else if longStretch ≤ leftCount ∨ longStretch ≤ rightCount then
    { m with patience := max 1 (m.patience - 1) }
  else { m with patience := m.patience + 1, pace := .comparing 0 0 }

/-- Take a stretch of the left run and the value at which it ends, then the same with the runs
exchanged. -/
def gallopNext (side : Side) (precedes : α → α → Except ε Bool) (m : Merge α) :
    Except ε (Merge α) := do
  let leftCount ← m.leftStretch side precedes
  let m := (m.takeLeft side leftCount).takeRight side 1
  let rightCount ← m.rightStretch side precedes
  let m := (m.takeRight side rightCount).takeLeft side 1
  return m.adapt side leftCount rightCount

def step (side : Side) (precedes : α → α → Except ε Bool) (m : Merge α) : Except ε (Merge α) :=
  match m.pace with
  | .comparing leftRow rightRow => m.compareNext side precedes leftRow rightRow
  | .galloping => m.gallopNext side precedes

/-- Merge until it is over; a step for each value is enough. -/
def run (side : Side) (precedes : α → α → Except ε Bool) : (fuel : Nat) → Merge α → Except ε (Merge α)
  | 0, m => .ok m
  | fuel + 1, m =>
      if m.isOver side then .ok m else do run side precedes fuel (← m.step side precedes)

end Merge

/-- Merge two runs of which it is known that the first value of the right run comes before all of the
left run, and the last value of the left run after all of the right run. -/
def mergeOverlap (precedes : α → α → Except ε Bool) (patience : Nat) (left right : List α) :
    Except ε (List α × Nat) := do
  let side : Side := if left.length ≤ right.length then .front else .back
  let m : Merge α := ⟨[], side.view left, side.view right, patience, .comparing 0 0⟩
  let m := match side with
    | .front => m.takeRight side 1
    | .back => m.takeLeft side 1
  let m ← m.run side precedes (left.length + right.length)
  return (m.values side, m.patience)

/-- Merge two neighbouring runs; the patience is handed on. -/
def mergeRuns (precedes : α → α → Except ε Bool) (patience : Nat) (left right : List α) :
    Except ε (List α × Nat) :=
  match right with
  | [] => .ok (left, patience)
  | first :: _ => do
      let before ← gallop .front (fun x => (precedes first x).map (!·)) left
      match (left.drop before).getLast? with
      | none => return (left ++ right, patience)
      | some last =>
          let after ← gallop .back (fun y => (precedes y last).map (!·)) right.reverse
          let inside := right.length - after
          if inside = 0 then return (left ++ right, patience)
          else
            let (merged, patience) ←
              mergeOverlap precedes patience (left.drop before) (right.take inside)
            return (left.take before ++ merged ++ right.drop inside, patience)

/-- A run that waits to be merged: its position, its values, and the power of the boundary before
it. -/
structure Pending (α : Type) where
  start : Nat
  values : List α
  power : Nat

/-- The first digit, from `place` on, in which two fractions of `total` differ. -/
def differingDigit (total : Nat) : (fuel place first second : Nat) → Nat
  | 0, place, _, _ => place
  | fuel + 1, place, first, second =>
      if first / total = second / total then
        differingDigit total fuel (place + 1) (2 * first) (2 * second)
      else place

/-- The power of the boundary between a run and the next one, of the given length. -/
def boundaryPower (total : Nat) (run : Pending α) (nextLength : Nat) : Nat :=
  let middle := 2 * run.start + run.values.length
  differingDigit total total 1 middle (middle + run.values.length + nextLength)

/-- Merge the last run with those before it, as long as the boundary between them has a greater
power. -/
def collapse (precedes : α → α → Except ε Bool) (power patience : Nat) (last : Pending α) :
    List (Pending α) → Except ε (List (Pending α) × Nat)
  | [] => .ok ([last], patience)
  | before :: runs =>
      if power < last.power then do
        let (values, patience) ← mergeRuns precedes patience before.values last.values
        collapse precedes power patience { before with values } runs
      else .ok (last :: before :: runs, patience)

/-- Merge all runs, from the last one on; of three the shorter outer one is merged first. -/
def finish (precedes : α → α → Except ε Bool) (patience : Nat) (last : List α)
    (before : List (List α)) : Except ε (List α) :=
  match before with
  | [] => .ok last
  | [first] => do return (← mergeRuns precedes patience first last).1
  | middle :: first :: runs =>
      if first.length < last.length then do
        let (values, patience) ← mergeRuns precedes patience first middle
        finish precedes patience last (values :: runs)
      else do
        let (values, patience) ← mergeRuns precedes patience middle last
        finish precedes patience values (first :: runs)
termination_by before.length

/-- Sort the rest of `total` values, after the runs that wait.  Each run has a value at least, so that
there are no more runs than values. -/
def sortRest (precedes : α → α → Except ε Bool) (total : Nat) :
    (fuel : Nat) → List (Pending α) → (patience start : Nat) → List α → Except ε (List α)
  | fuel + 1, pending, patience, start, x :: rest => do
      let (values, rest) ← takeRun precedes (leastRun total 0) (x :: rest)
      let after := start + values.length
      match pending with
      | [] => sortRest precedes total fuel [⟨start, values, 0⟩] patience after rest
      | last :: before =>
          let power := boundaryPower total last values.length
          let (pending, patience) ← collapse precedes power patience last before
          sortRest precedes total fuel (⟨start, values, power⟩ :: pending) patience after rest
  | _, [], _, _, rest => .ok rest
  | _, last :: before, patience, _, _ =>
      finish precedes patience last.values (before.map Pending.values)

def sortBy (precedes : α → α → Except ε Bool) (values : List α) : Except ε (List α) :=
  sortRest precedes values.length values.length [] longStretch 0 values

end SampledMetrics.Sorting
