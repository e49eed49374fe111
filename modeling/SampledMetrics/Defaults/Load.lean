import SampledMetrics.Defaults
import SampledMetrics.Defaults.Environment
import SampledMetrics.Failure
import SampledMetrics.Files
import SampledMetrics.Toml.Document
/-!
Defaults from a configuration file and the environment: the file's values, or the built-in ones
without a file, then the variables, and last the check of the result.  The file is UTF-8: a first byte
announces how many bytes follow and which values the second one may have, which leaves out long forms,
surrogates and what lies beyond the last code point; a stretch that is not UTF-8 is reported with its
reason, its place and its length.  A carriage return, alone or before a line feed, ends a line just as a
line feed does.
-/

set_option autoImplicit false
set_option relaxedAutoImplicit false

namespace SampledMetrics

namespace Text.Utf8

/-- A character of several bytes that has not ended: its first byte, how many bytes have come and
how many are missing, the range of the next byte, and the bits so far. -/
structure Partial where
  first : Nat
  seen : Nat
  missing : Nat
  least : Nat
  greatest : Nat
  bits : Nat
  deriving DecidableEq, Repr

def Partial.ofFirst? (byte : Nat) : Option Partial :=
  if byte < 0xc2 then none
  else if byte < 0xe0 then some ⟨byte, 1, 1, 0x80, 0xbf, byte - 0xc0⟩
  else if byte = 0xe0 then some ⟨byte, 1, 2, 0xa0, 0xbf, 0⟩
  else if byte = 0xed then some ⟨byte, 1, 2, 0x80, 0x9f, 0xd⟩
  else if byte < 0xf0 then some ⟨byte, 1, 2, 0x80, 0xbf, byte - 0xe0⟩
  else if byte = 0xf0 then some ⟨byte, 1, 3, 0x90, 0xbf, 0⟩
  else if byte < 0xf4 then some ⟨byte, 1, 3, 0x80, 0xbf, byte - 0xf0⟩
  else if byte = 0xf4 then some ⟨byte, 1, 3, 0x80, 0x8f, 4⟩
  else none

def Partial.join (p : Partial) (byte : Nat) : Nat :=
  p.bits * 64 + (byte - 0x80)

/-- The character after a further byte that is not its last. -/
def Partial.extend (p : Partial) (byte : Nat) : Partial :=
  ⟨p.first, p.seen + 1, p.missing - 1, 0x80, 0xbf, p.join byte⟩

/-- The refusal of a character before the byte at `position`. -/
def Partial.refusal (p : Partial) (reason : Undecodable) (position : Nat) : Failure :=
  .undecodable reason (position - p.seen) p.seen p.first

/-- The characters of bytes from `position` on, inside or between characters. -/
def decodeFrom (position : Nat) : Option Partial → List UInt8 → Except Failure (List Char)
  | none, [] => .ok []
  | some p, [] => .error (p.refusal .endOfData position)
  | none, byte :: rest =>
      if byte.toNat < 0x80 then do
        return Char.ofNat byte.toNat :: (← decodeFrom (position + 1) none rest)
      else match Partial.ofFirst? byte.toNat with
        | some p => decodeFrom (position + 1) (some p) rest
        | none => .error (.undecodable .startByte position 1 byte.toNat)
  | some p, byte :: rest =>
      if byte.toNat < p.least || p.greatest < byte.toNat then
        .error (p.refusal .continuation position)
      else if p.missing = 1 then do
        return Char.ofNat (p.join byte.toNat) :: (← decodeFrom (position + 1) none rest)
      else decodeFrom (position + 1) (some (p.extend byte.toNat)) rest

def decode (bytes : List UInt8) : Except Failure (List Char) :=
  decodeFrom 0 none bytes

end Text.Utf8

namespace Text

def unifyLineEnds : List Char → List Char
  | [] => []
  | '\r' :: '\n' :: rest => '\n' :: unifyLineEnds rest
  | c :: rest => (if c = '\r' then '\n' else c) :: unifyLineEnds rest

end Text

namespace Defaults

/-- The characters of the file at a path, with line feeds for line ends. -/
def readFile (files : Files) (text : String) : Except Failure (List Char) :=
  let path := Path.ofText text
  if text.toList.contains '\x00' then .error .nullInside
  else match files.find path with
    | .file bytes => (Text.Utf8.decode bytes).map Text.unifyLineEnds
    | .nothing => .error (.fileNotFound path.render)
    | .directory => .error (.pathIsDirectory path.render)
    | .beyondFile => .error (.pathBeyondFile path.render)
    | .longName => .error (.pathTooLong path.render)

/-- The defaults of a file, or the built-in ones for no path or an empty one. -/
def ofFile (files : Files) (path : Value) : Except Failure Defaults :=
  if path.isTrue then
    match path with
    | .text path => do ofDocument (← Toml.parse (← readFile files path))
    | path => .error (.notPath path.kindName)
  else .ok {}

/-- The defaults of a file with those of the environment over them, checked. -/
def load (files : Files) (path : Value) (e : Environment) : Except Failure Defaults := do
  let (result, d) := e.override (← ofFile files path)
  result
  d.validate
  return d

end Defaults

end SampledMetrics
