import SampledMetrics.Json.Value
/-!
Reading JSON.  A document is read as a whole: white space may stand around its parts, strings hold no
control characters, and characters beyond U+FFFF may be escaped as pairs of surrogates.
-/

set_option autoImplicit false
set_option relaxedAutoImplicit false

namespace SampledMetrics.Json

open Text (backslash quotation hexNumber? scalar?)

/-- What a JSON text says.  Numbers are kept as they are written, and objects have their members in order. -/
inductive Document
  | null
  | bool (value : Bool)
  | number (literal : String)
  | string (value : String)
  | array (items : List Document)
  | object (members : List (String × Document))

def isSpace (c : Char) : Bool :=
  c = ' ' || c = '\t' || c = '\n' || c = '\r'

/-- The character that a letter stands for after a backslash. -/
def unescape? (letter : Char) : Option Char :=
  if letter = 'b' then some '\x08'
  else if letter = 't' then some '\t'
  else if letter = 'n' then some '\n'
  else if letter = 'f' then some '\x0c'
  else if letter = 'r' then some '\r'
  else if letter = quotation || letter = backslash || letter = '/' then some letter
  else none

/-- The first halves of surrogate pairs. -/
def isHigh (code : Nat) : Bool :=
  0xd800 ≤ code && code < 0xdc00

/-- The second halves of surrogate pairs. -/
def isLow (code : Nat) : Bool :=
  0xdc00 ≤ code && code < 0xe000

/-- The character of an escape by code, which may be the second half of a pair. -/
def character? : (first : Option Nat) → (code : Nat) → Option Char
  | none, code => scalar? code
  | some first, code =>
      if isLow code then scalar? (0x10000 + (first - 0xd800) * 0x400 + (code - 0xdc00)) else none

def prepend (first : Option Char) (reading : Option (List Char × List Char)) :
    Option (List Char × List Char) := do
  let c ← first
  let (cs, rest) ← reading
  return (c :: cs, rest)

/-- A string after its opening mark, and what follows its closing one.  After the first half of a pair only
the second can come. -/
def readString : (first : Option Nat) → List Char → Option (List Char × List Char)
  | first, '\\' :: 'u' :: a :: b :: c :: d :: rest =>
      match hexNumber? [a, b, c, d] with
      | none => none
      | some code =>
          if first.isNone && isHigh code then readString (some code) rest
          else prepend (character? first code) (readString none rest)
  | some _, _ => none
  | none, [] => none
  | none, '\\' :: letter :: rest => prepend (unescape? letter) (readString none rest)
  | none, c :: rest =>
      if c = quotation then some ([], rest)
      else if 0x20 ≤ c.toNat && c ≠ backslash then prepend (some c) (readString none rest)
      else none

def readDigits (cs : List Char) : Option (List Char × List Char) :=
  match cs.span Char.isDigit with
  | ([], _) => none
  | (digits, rest) => some (digits, rest)

/-- The digits before the point, which begin with a zero only if it is alone. -/
def readWhole : List Char → Option (List Char × List Char)
  | '0' :: rest => some (['0'], rest)
  | cs => readDigits cs

/-- The point and the digits after it, if there is a point. -/
def readFraction : List Char → Option (List Char × List Char)
  | '.' :: rest => do
      let (digits, rest) ← readDigits rest
      return ('.' :: digits, rest)
  | cs => some ([], cs)

/-- The sign of an exponent, if there is one. -/
def readSign : List Char → List Char × List Char
  | '+' :: rest => (['+'], rest)
  | '-' :: rest => (['-'], rest)
  | cs => ([], cs)

def readExponent : List Char → Option (List Char × List Char)
  | [] => some ([], [])
  | mark :: rest =>
      if mark = 'e' || mark = 'E' then do
        let (sign, rest) := readSign rest
        let (digits, rest) ← readDigits rest
        return (mark :: (sign ++ digits), rest)
      else some ([], mark :: rest)

def readNumber (cs : List Char) : Option (List Char × List Char) := do
  let (sign, cs) := match cs with
    | '-' :: rest => (['-'], rest)
    | cs => ([], cs)
  let (whole, cs) ← readWhole cs
  let (fraction, cs) ← readFraction cs
  let (exponent, rest) ← readExponent cs
  return (sign ++ whole ++ fraction ++ exponent, rest)

def readPlain : List Char → Option (Document × List Char)
  | 'n' :: 'u' :: 'l' :: 'l' :: rest => some (.null, rest)
  | 't' :: 'r' :: 'u' :: 'e' :: rest => some (.bool true, rest)
  | 'f' :: 'a' :: 'l' :: 's' :: 'e' :: rest => some (.bool false, rest)
  | cs => (readNumber cs).map fun result => (.number (String.ofList result.1), result.2)

def readName (cs : List Char) : Option (String × List Char) :=
  match cs.dropWhile isSpace with
  | '\x22' :: rest => do
      let (name, rest) ← readString none rest
      match rest.dropWhile isSpace with
      | ':' :: rest => return (String.ofList name, rest)
      | _ => none
  | _ => none

mutual

def readValue : (fuel : Nat) → List Char → Option (Document × List Char)
  | 0, _ => none
  | fuel + 1, cs =>
      match cs.dropWhile isSpace with
      | '\x22' :: rest =>
          (readString none rest).map fun result => (.string (String.ofList result.1), result.2)
      | '[' :: rest =>
          match rest.dropWhile isSpace with
          | ']' :: rest => some (.array [], rest)
          | rest => (readItems fuel rest).map fun result => (.array result.1, result.2)
      | '\x7b' :: rest =>
          match rest.dropWhile isSpace with
          | '\x7d' :: rest => some (.object [], rest)
          | rest => (readMembers fuel rest).map fun result => (.object result.1, result.2)
      | cs => readPlain cs

def readItems : (fuel : Nat) → List Char → Option (List Document × List Char)
  | 0, _ => none
  | fuel + 1, cs => do
      let (item, rest) ← readValue fuel cs
      match rest.dropWhile isSpace with
      | ',' :: rest =>
          let (items, rest) ← readItems fuel rest
          return (item :: items, rest)
      | ']' :: rest => return ([item], rest)
      | _ => none

/-- The members of an object up to its end, at least one. -/
def readMembers : (fuel : Nat) → List Char → Option (List (String × Document) × List Char)
  | 0, _ => none
  | fuel + 1, cs => do
      let (name, rest) ← readName cs
      let (value, rest) ← readValue fuel rest
      match rest.dropWhile isSpace with
      | ',' :: rest =>
          let (members, rest) ← readMembers fuel rest
          return ((name, value) :: members, rest)
      | '\x7d' :: rest => return ([(name, value)], rest)
      | _ => none

end

/-- The document that a text is.  Two steps take at least one character, so that the bound on the steps is
never reached. -/
def read? (text : String) : Option Document :=
  match readValue (2 * text.length + 2) text.toList with
  | some (document, rest) => if rest.all isSpace then some document else none
  | none => none

end SampledMetrics.Json
