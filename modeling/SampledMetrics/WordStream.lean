import SampledMetrics.Blake2b
import SampledMetrics.Failure
/-!
Slot indices drawn from a stream of 64-bit words.  With a seed the words are keyed BLAKE2b in counter
mode, so equal seeds give equal draws; without one they are whatever the system supplies.  A bound
divides a limit of words evenly: the first word below the limit is taken and its residue is the draw,
so every index is as likely as every other.
-/

set_option autoImplicit false
set_option relaxedAutoImplicit false

namespace SampledMetrics

/-- Where words come from: a hash state after its key, or the system's own words. -/
inductive WordSource
  | keyed (state : Blake2b.State)
  | system (words : Nat → UInt64)

namespace WordSource

def ofSeed (seed : String) : WordSource :=
  .keyed (Blake2b.keyed (Blake2b.hash seed.toUTF8.toList 32) 8)

/-- The word at a position, counted from zero; a keyed source hashes the count of words so far. -/
def word : WordSource → Nat → UInt64
  | .keyed state, position =>
      let counter := (Blake2b.littleEndianBytes 8 (position + 1)).reverse
      UInt64.ofNat (Blake2b.bigEndian ((state.absorb counter true).digest 8))
  | .system words, position => words position

def isKeyed : WordSource → Bool
  | .keyed _ => true
  | .system _ => false

end WordSource

/-- A source of words and how many of them have been used. -/
structure WordStream where
  source : WordSource
  position : Nat

namespace WordStream

def wordCount : Nat :=
  UInt64.size

/-- The greatest multiple of `stop` that words can fill evenly; words from it on are passed over. -/
def limit (stop : Nat) : Nat :=
  wordCount - wordCount % stop

/-- The stream of a seed; without a seed the system's words are used. -/
def ofSeed (seed : Value) (words : Nat → UInt64) : Except Failure WordStream :=
  match seed with
  | .null => .ok ⟨.system words, 0⟩
  | seed => if seed.isShowable then .ok ⟨.ofSeed seed.display, 0⟩ else .error .digitLimit

def nextWord (s : WordStream) : UInt64 × WordStream :=
  (s.source.word s.position, { s with position := s.position + 1 })

/-- The first word, from the next one on, that `accepts` admits, and the stream after it. -/
def firstWord (accepts : UInt64 → Bool) : (fuel : Nat) → WordStream → Option (UInt64 × WordStream)
  | 0, _ => none
  | fuel + 1, s =>
      let (word, after) := s.nextWord
      if accepts word then some (word, after) else firstWord accepts fuel after

/-- An index below `stop`.  Fewer than half of all words are passed over, so that the search is cut
off after as many words as there are is of no account. -/
def below (s : WordStream) (stop : Nat) : Option (Nat × WordStream) :=
  (firstWord (fun word => word.toNat < limit stop) wordCount s).map fun found =>
    (found.1.toNat % stop, found.2)

/-- The next word of a keyed stream, for a caller who asks for words. -/
def word (s : WordStream) : Except Failure (Nat × WordStream) :=
  if s.source.isKeyed then .ok (s.nextWord.1.toNat, s.nextWord.2) else .error .keylessWord

/-- A draw below a bound that is a binary64 number: the same rule in binary64 arithmetic. -/
def belowReal (s : WordStream) (stop : Binary64) : Option (Binary64 × WordStream) :=
  let all := Binary64.ofInt wordCount
  let limit := all.sub (all.remainder stop)
  (firstWord (fun word => (Number.int word.toNat).lt (.float limit)) wordCount s).map fun found =>
    ((Binary64.ofInt found.1.toNat).remainder stop, found.2)

def wholeBound : Number → Except Failure Int
  | .int stop => .ok stop
  | .float .nan => .error .nanToInteger
  | .float (.infinity _) => .error .infinityToInteger
  | .float stop =>
      match stop.truncate? with
      | some whole => if (Number.int whole).same (.float stop) then .ok whole else .error .boundNotWhole
      | none => .error .boundNotWhole

def found {α : Type} (draw : Option α) : Except Failure α :=
  match draw with
  | some result => .ok result
  | none => .error .drawsExhausted

def draw (s : WordStream) (stop : Value) : Except Failure (Number × WordStream) :=
  match stop.asNumber? with
  | none => .error (.notOrdered "<=" stop.kindName "int")
  | some bound =>
      if bound.le (.int 0) then .error .boundNotPositive
      else
        match s.source.isKeyed, bound with
        | true, .float real => do
            let (index, after) ← found (s.belowReal real)
            return (.float index, after)
        | _, bound => do
            let whole ← wholeBound bound
            let (index, after) ← found (s.below whole.toNat)
            return (.int index, after)

end WordStream

end SampledMetrics
