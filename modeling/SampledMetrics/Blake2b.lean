/-!
The BLAKE2b hash with a key.  Blocks of 128 bytes are absorbed into a chain of eight words; the last
block is absorbed with a mark, and the first bytes of the chain are the digest.
-/

set_option autoImplicit false
set_option relaxedAutoImplicit false

namespace SampledMetrics.Blake2b

def startWords : Array UInt64 := #[
  0x6a09e667f3bcc908, 0xbb67ae8584caa73b, 0x3c6ef372fe94f82b, 0xa54ff53a5f1d36f1,
  0x510e527fade682d1, 0x9b05688c2b3e6c1f, 0x1f83d9abfb41bd6b, 0x5be0cd19137e2179]

/-- The order in which the ten different rounds read the words of a block. -/
def schedules : List (List Nat) := [
  [0, 1, 2, 3, 4, 5, 6, 7, 8, 9, 10, 11, 12, 13, 14, 15],
  [14, 10, 4, 8, 9, 15, 13, 6, 1, 12, 0, 2, 11, 7, 5, 3],
  [11, 8, 12, 0, 5, 2, 15, 13, 10, 14, 3, 6, 7, 1, 9, 4],
  [7, 9, 3, 1, 13, 12, 11, 14, 2, 6, 5, 10, 4, 0, 15, 8],
  [9, 0, 5, 7, 2, 4, 10, 15, 14, 1, 11, 12, 6, 8, 3, 13],
  [2, 12, 6, 10, 0, 11, 8, 3, 4, 13, 7, 5, 15, 14, 1, 9],
  [12, 5, 1, 15, 14, 13, 4, 10, 0, 7, 6, 3, 9, 2, 8, 11],
  [13, 11, 7, 14, 12, 1, 3, 9, 5, 0, 15, 4, 8, 6, 2, 10],
  [6, 15, 14, 9, 11, 3, 0, 8, 12, 2, 13, 7, 1, 4, 10, 5],
  [10, 2, 8, 4, 7, 6, 1, 5, 15, 11, 9, 14, 3, 12, 13, 0]]

/-- The columns and diagonals that a round mixes, in order. -/
def mixes : List (Nat × Nat × Nat × Nat) := [
  (0, 4, 8, 12), (1, 5, 9, 13), (2, 6, 10, 14), (3, 7, 11, 15),
  (0, 5, 10, 15), (1, 6, 11, 12), (2, 7, 8, 13), (3, 4, 9, 14)]

def rotateRight (word count : UInt64) : UInt64 :=
  (word >>> count) ||| (word <<< (64 - count))

/-- Mix two words of the block into four words of the state. -/
def mix (v : Array UInt64) (place : Nat × Nat × Nat × Nat) (x y : UInt64) : Array UInt64 :=
  let (i, j, k, l) := place
  let a := v.getD i 0 + v.getD j 0 + x
  let d := rotateRight (v.getD l 0 ^^^ a) 32
  let c := v.getD k 0 + d
  let b := rotateRight (v.getD j 0 ^^^ c) 24
  let a := a + b + y
  let d := rotateRight (d ^^^ a) 16
  let c := c + d
  let b := rotateRight (b ^^^ c) 63
  (((v.setIfInBounds i a).setIfInBounds j b).setIfInBounds k c).setIfInBounds l d

/-- The mixes of one round: each takes the next two words of the schedule. -/
def mixAll (block : Array UInt64) :
    List (Nat × Nat × Nat × Nat) → List Nat → Array UInt64 → Array UInt64
  | place :: places, s :: t :: schedule, v =>
      mixAll block places schedule (mix v place (block.getD s 0) (block.getD t 0))
  | _, _, v => v

/-- A chain of words, and the number of bytes absorbed into it. -/
structure State where
  chain : Array UInt64
  absorbed : Nat

/-- The state before any byte, for a key and a digest of the given numbers of bytes. -/
def start (keySize digestSize : Nat) : State :=
  let parameters := UInt64.ofNat (0x01010000 + keySize * 256 + digestSize)
  ⟨startWords.setIfInBounds 0 (startWords.getD 0 0 ^^^ parameters), 0⟩

/-- The number that bytes spell, the first byte being the lowest. -/
def littleEndian : List UInt8 → Nat
  | [] => 0
  | byte :: rest => byte.toNat + 256 * littleEndian rest

/-- The number that bytes spell, the first byte being the highest. -/
def bigEndian (bytes : List UInt8) : Nat :=
  littleEndian bytes.reverse

/-- The lowest `count` bytes of a number, lowest first. -/
def littleEndianBytes : (count value : Nat) → List UInt8
  | 0, _ => []
  | count + 1, value => UInt8.ofNat value :: littleEndianBytes count (value / 256)

/-- The words of a block; missing bytes are zero. -/
def blockWords (bytes : List UInt8) : Array UInt64 :=
  (Array.range 16).map fun i => UInt64.ofNat (littleEndian ((bytes.drop (8 * i)).take 8))

def State.absorb (s : State) (bytes : List UInt8) (isLast : Bool) : State :=
  let absorbed := s.absorbed + bytes.length
  let low := UInt64.ofNat absorbed
  let high := UInt64.ofNat (absorbed / UInt64.size)
  let v := s.chain ++ startWords
  let v := v.setIfInBounds 12 (v.getD 12 0 ^^^ low)
  let v := v.setIfInBounds 13 (v.getD 13 0 ^^^ high)
  let v := if isLast then v.setIfInBounds 14 (v.getD 14 0 ^^^ 0xffffffffffffffff) else v
  let block := blockWords bytes
  let v := (schedules ++ schedules.take 2).foldl (fun v schedule => mixAll block mixes schedule v) v
  ⟨(Array.range 8).map fun i => s.chain.getD i 0 ^^^ v.getD i 0 ^^^ v.getD (i + 8) 0, absorbed⟩

/-- Absorb all remaining bytes, the last block with its mark. -/
def State.finish : (fuel : Nat) → State → List UInt8 → State
  | 0, s, bytes => s.absorb bytes true
  | fuel + 1, s, bytes =>
      if bytes.length ≤ 128 then s.absorb bytes true
      else finish fuel (s.absorb (bytes.take 128) false) (bytes.drop 128)

def State.digest (s : State) (size : Nat) : List UInt8 :=
  (s.chain.toList.flatMap fun word => littleEndianBytes 8 word.toNat).take size

/-- The state after a key, which is a block of its own. -/
def keyed (key : List UInt8) (digestSize : Nat) : State :=
  (start key.length digestSize).absorb (key ++ List.replicate (128 - key.length) 0) false

/-- The digest of bytes without a key. -/
def hash (bytes : List UInt8) (digestSize : Nat) : List UInt8 :=
  ((start 0 digestSize).finish bytes.length bytes).digest digestSize

end SampledMetrics.Blake2b
