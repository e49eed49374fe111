import SampledMetrics.Toml.Scalar
import SampledMetrics.Toml.Tree
/-!
TOML documents: values, statements, and a document as a sequence of statements.  Every reader takes at
least one character for each of its steps, so a bound on the steps that grows with the length of the
text is never reached.  Values can be nested as long as there is room: an array takes two units of it
and an inline table three, and some must be left.
-/

set_option autoImplicit false
set_option relaxedAutoImplicit false

namespace SampledMetrics.Toml

open Text (apostrophe quotation)

def dropWord? (word cs : List Char) : Option (List Char) :=
  if word.isPrefixOf cs then some (cs.drop word.length) else none

/-- A truth value, or else a number, a day, a time or a moment. -/
def readPlain (cs : List Char) : Except Failure (Value × List Char) :=
  match dropWord? "true".toList cs, dropWord? "false".toList cs with
  | some rest, _ => .ok (.bool true, rest)
  | _, some rest => .ok (.bool false, rest)
  | none, none => readScalar cs

/-- The rest after a key and the mark that separates it from its value. -/
def readAssigned (cs : List Char) : Except Failure (List String × List Char) := do
  let (path, rest) ← readKey cs
  match rest with
  | '=' :: rest => return (path, rest.dropWhile isGap)
  | _ => refuse

/-- The room for values in a value of a setting. -/
def nestingRoom : Nat := 987

/-- What is left of the room in a value that takes some and needs so much. -/
def roomInside (room needed taken : Nat) : Except Failure Nat :=
  if room < needed then .error .nestedTooDeep else .ok (room - taken)

mutual

def readValue : (fuel room : Nat) → List Char → Except Failure (Value × List Char)
  | 0, _, _ => refuse
  | fuel + 1, room, cs =>
      match cs with
      | [] => refuse
      | c :: rest =>
          if c = quotation ∨ c = apostrophe then
            (readString c rest).map fun result => (.text result.1, result.2)
          else if c = '[' then do
            let inside ← roomInside room 4 2
            let (items, rest) ← readItems fuel inside (← skipLines false rest)
            return (.list items, rest)
          else if c = '\x7b' then do
            let inside ← roomInside room 6 3
            let rest := rest.dropWhile isGap
            if rest.head? = some '\x7d' then return (.dict [], rest.drop 1)
            let (entries, rest) ← readEntries fuel inside [] rest
            return (.dict (entryValues entries), rest)
          else readPlain cs

/-- The items of an array up to its end, before which a comma may stand. -/
def readItems : (fuel room : Nat) → List Char → Except Failure (List Value × List Char)
  | 0, _, _ => refuse
  | fuel + 1, room, cs =>
      if cs.head? = some ']' then .ok ([], cs.drop 1)
      else do
        let (item, rest) ← readValue fuel room cs
        match ← skipLines false rest with
        | ']' :: rest => return ([item], rest)
        | ',' :: rest => do
            let (items, rest) ← readItems fuel room (← skipLines false rest)
            return (item :: items, rest)
        | _ => refuse

/-- The entries of an inline table up to its end, added to those before; at least one must come. -/
def readEntries : (fuel room : Nat) → Entries → List Char → Except Failure (Entries × List Char)
  | 0, _, _, _ => refuse
  | fuel + 1, room, entries, cs => do
      let (path, rest) ← readAssigned cs
      let (value, rest) ← readValue fuel room rest
      let entries ← entries.assign 0 value path
      match rest.dropWhile isGap with
      | '\x7d' :: rest => return (entries, rest)
      | ',' :: rest => readEntries fuel room entries (rest.dropWhile isGap)
      | _ => refuse

end

/-- A bound for the steps of reading a value, two for each character. -/
def stepBound (cs : List Char) : Nat :=
  2 * cs.length + 2

/-- A document so far: its tables, the path of the last header, and the number of headers. -/
structure Document where
  root : Entries
  path : List String
  headings : Nat

namespace Document

def empty : Document :=
  ⟨[], [], 0⟩

/-- A header after its brackets, with the path and the brackets that close it. -/
def readHeader (d : Document) (change : List String → Entries → Except Failure Entries)
    (closing cs : List Char) : Except Failure (Document × List Char) := do
  let (path, rest) ← readKey (cs.dropWhile isGap)
  let root ← change path d.root
  match dropWord? closing rest with
  | some rest => return (⟨root, path, d.headings + 1⟩, rest)
  | none => refuse

def readSetting (d : Document) (cs : List Char) : Except Failure (Document × List Char) := do
  let (path, rest) ← readAssigned cs
  let (value, rest) ← readValue (stepBound rest) nestingRoom rest
  let root ← d.root.along (·.assign d.headings value path) d.path
  return ({ d with root }, rest)

def readStatement (d : Document) (cs : List Char) : Except Failure (Document × List Char) :=
  match cs with
  | '[' :: '[' :: rest => d.readHeader Entries.append [']', ']'] rest
  | '[' :: rest => d.readHeader Entries.declare [']'] rest
  | '#' :: _ => .ok (d, cs)
  | _ => d.readSetting cs

def readStatements : (fuel : Nat) → Document → List Char → Except Failure Document
  | 0, _, _ => refuse
  | fuel + 1, d, cs =>
      match cs.dropWhile isGap with
      | [] => .ok d
      | '\n' :: rest => readStatements fuel d rest
      | cs => do
          let (d, rest) ← d.readStatement cs
          match ← skipComment (rest.dropWhile isGap) with
          | [] => return d
          | '\n' :: rest => readStatements fuel d rest
          | _ => refuse

end Document

def parse (cs : List Char) : Except Failure (List (String × Value)) := do
  let d ← Document.readStatements (cs.length + 1) .empty cs
  return entryValues d.root

end SampledMetrics.Toml
