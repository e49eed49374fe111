import SampledMetrics.Snapshot
import SampledMetrics.WordStream
/-!
Reservoirs: bounded stores of observations that can be asked for a snapshot.  The uniform sample keeps every
observation while there is room; afterwards each one draws an index below the number of observations so
far, and overwrites the slot with this index, if there is one, so that every observation is in the sample
with equal chance.  The sliding window is a ring of slots for the latest observations.  These two check
what they are given; a caller may also supply a store that keeps everything.
-/

set_option autoImplicit false
set_option relaxedAutoImplicit false

namespace SampledMetrics

/-- A sample of bounded size, the number of observations offered, and what draws come from. -/
structure UniformSample (σ α : Type) where
  capacity : Nat
  samples : Array α
  count : Nat
  stream : σ

namespace UniformSample

variable {σ α : Type}

def empty (capacity : Nat) (stream : σ) : UniformSample σ α :=
  ⟨capacity, #[], 0, stream⟩

def hasRoom (r : UniformSample σ α) : Bool :=
  r.samples.size < r.capacity

def keep (r : UniformSample σ α) (value : α) : UniformSample σ α :=
  { r with samples := r.samples.push value, count := r.count + 1 }

/-- One more observation for the index drawn; an index beyond the slots discards it. -/
def replace (r : UniformSample σ α) (index : Nat) (value : α) : UniformSample σ α :=
  { r with samples := r.samples.setIfInBounds index value, count := r.count + 1 }

/-- One more observation.  `draw` answers a bound with an index below it and what is left of the
stream; without an answer the sample stays as it is. -/
@[inline] def update (draw : σ → Nat → Option (Nat × σ)) (r : UniformSample σ α) (value : α) :
    Except Failure Unit × UniformSample σ α :=
  if r.hasRoom then (.ok (), r.keep value)
  else
    match WordStream.found (draw r.stream (r.count + 1)) with
    | .ok (index, stream) => (.ok (), { r.replace index value with stream })
    | .error failure => (.error failure, r)

theorem update_of_hasRoom (draw : σ → Nat → Option (Nat × σ)) {r : UniformSample σ α}
    (room : r.hasRoom) (value : α) : r.update draw value = (.ok (), r.keep value) := by
  simp [update, room]

theorem size_samples_replace (r : UniformSample σ α) (index : Nat) (value : α) :
    (r.replace index value).samples.size = r.samples.size := by
  simp [replace]

end UniformSample

/-- A ring of slots, and the number of observations offered. -/
structure SlidingWindow (α : Type) where
  capacity : Nat
  samples : Array α
  count : Nat

namespace SlidingWindow

variable {α : Type}

def empty (capacity : Nat) : SlidingWindow α :=
  ⟨capacity, #[], 0⟩

/-- One more observation, in the place of the oldest one when the ring is full. -/
def update (r : SlidingWindow α) (value : α) : SlidingWindow α :=
  let samples :=
    if r.samples.size < r.capacity then r.samples.push value
    else r.samples.setIfInBounds (r.count % r.capacity) value
  { r with samples, count := r.count + 1 }

end SlidingWindow

/-- An observation that can be ordered among the others: a number, and not not-a-number. -/
def observationOf (value : Value) : Except Failure Number :=
  match value.number? with
  | some number => if number.isNaN then .error .observationNaN else .ok number
  | none => .error (.observationKind value.kindName)

def checkCapacity : Value → Except Failure Nat
  | .number (.int size) => if size < 1 then .error .capacityTooSmall else .ok size.toNat
  | size => Failure.showing size (.capacityKind size)

/-- A store of a caller's own, which keeps every value unchecked; it may claim a count. -/
structure FullRecord where
  samples : Array Value
  claimedCount : Option Value

/-- A store of observations. -/
inductive Reservoir
  | uniform (reservoir : UniformSample WordStream Number)
  | sliding (reservoir : SlidingWindow Number)
  | keeping (reservoir : FullRecord)

namespace Reservoir

/-- An empty uniform reservoir; `words` serve it when it has no seed. -/
def makeUniform (size seed : Value) (words : Nat → UInt64) : Except Failure Reservoir := do
  let capacity ← checkCapacity size
  return .uniform (.empty capacity (← WordStream.ofSeed seed words))

def makeSliding (size : Value) : Except Failure Reservoir := do
  return .sliding (.empty (← checkCapacity size))

def makeKeeping (claimedCount : Option Value) : Reservoir :=
  .keeping ⟨#[], claimedCount⟩

def samples : Reservoir → List Value
  | .uniform r => r.samples.toList.map .number
  | .sliding r => r.samples.toList.map .number
  | .keeping r => r.samples.toList

def size : Reservoir → Nat
  | .uniform r => r.samples.size
  | .sliding r => r.samples.size
  | .keeping r => r.samples.size

/-- The number of observations offered, where the reservoir tells one. -/
def count? : Reservoir → Option Value
  | .uniform r => some (.int r.count)
  | .sliding r => some (.int r.count)
  | .keeping r => r.claimedCount

def capacity? : Reservoir → Option Nat
  | .uniform r => some r.capacity
  | .sliding r => some r.capacity
  | .keeping _ => none

private def bounded (name : String) (capacity count : Nat) : String :=
  name ++ "(capacity=" ++ toString capacity ++ ", count=" ++ toString count ++ ")"

def kindName : Reservoir → String
  | .uniform _ => "UniformReservoir"
  | .sliding _ => "SlidingWindowReservoir"
  | .keeping r => if r.claimedCount.isSome then "CountedReservoir" else "PlainReservoir"

/-- The operation that tells the size, by its name in messages; the stores that keep everything have it in
common. -/
def sizeName : Reservoir → String
  | .keeping _ => "PlainReservoir.size"
  | r => r.kindName ++ ".size"

def describe (r : Reservoir) : String :=
  match r with
  | .uniform s => bounded r.kindName s.capacity s.count
  | .sliding s => bounded r.kindName s.capacity s.count
  | .keeping _ => r.kindName ++ "()"

/-- Whether the numbers in the description are within the digit limit. -/
def isShowable (r : Reservoir) : Bool :=
  (r.capacity?.map fun capacity => (Number.int capacity).isShowable).getD true

/-- One more observation; one that is refused leaves the reservoir as it is. -/
def update (r : Reservoir) (value : Value) : Except Failure Unit × Reservoir :=
  match r with
  | .uniform r =>
      match observationOf value with
      | .ok observation =>
          let (result, r) := r.update WordStream.below observation
          (result, .uniform r)
      | .error failure => (.error failure, .uniform r)
  | .sliding r =>
      match observationOf value with
      | .ok observation => (.ok (), .sliding (r.update observation))
      | .error failure => (.error failure, .sliding r)
  | .keeping r => (.ok (), .keeping { r with samples := r.samples.push value })

def snapshot (r : Reservoir) : Except Failure Snapshot :=
  Snapshot.ofValues r.samples

end Reservoir

end SampledMetrics
