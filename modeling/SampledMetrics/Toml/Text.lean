import SampledMetrics.Failure
/-!
Comments, strings and keys of TOML.  A reader takes what it wants from the front of a text and gives
the rest, or refuses the document.
-/

set_option autoImplicit false
set_option relaxedAutoImplicit false

namespace SampledMetrics.Toml

open Text (apostrophe quotation backslash hexNumber? scalar?)

/-- What was read from the front of a text, and the rest. -/
abbrev Reading (α : Type) : Type :=
  Except Failure (α × List Char)

def refuse {α : Type} : Except Failure α :=
  .error .malformedDocument

/-- White space inside a line. -/
def isGap (c : Char) : Bool :=
  c = ' ' || c = '\t'

/-- What may stand in a line: everything but control characters, of which the tabulator is allowed. -/
def isLegal (c : Char) : Bool :=
  c = '\t' || (0x20 ≤ c.toNat && c.toNat ≠ 0x7f)

def isLegalOrNewline (c : Char) : Bool :=
  c = '\n' || isLegal c

/-- The rest of a line after a comment, if there is one. -/
def skipComment (cs : List Char) : Except Failure (List Char) :=
  match cs with
  | '#' :: rest =>
      let (comment, after) := rest.span (· ≠ '\n')
      if comment.all isLegal then .ok after else refuse
  | cs => .ok cs

/-- The rest after white space, line ends and comments; the flag tells whether a comment has begun. -/
def skipLines (inComment : Bool) : List Char → Except Failure (List Char)
  | [] => .ok []
  | c :: rest =>
      if inComment then
        if c = '\n' then skipLines false rest
        else if isLegal c then skipLines true rest
        else refuse
      else if c = '#' then skipLines true rest
      else if isGap c || c = '\n' then skipLines false rest
      else .ok (c :: rest)

def codeEscape (digits : List Char) : Except Failure Char :=
  match (hexNumber? digits).bind scalar? with
  | some c => .ok c
  | none => refuse

def letterEscape (letter : Char) : Except Failure Char :=
  if letter = 'b' then .ok '\x08'
  else if letter = 't' then .ok '\t'
  else if letter = 'n' then .ok '\n'
  else if letter = 'f' then .ok '\x0c'
  else if letter = 'r' then .ok '\r'
  else if letter = quotation || letter = backslash then .ok letter
  else refuse

def prepend (first : Except Failure Char) (reading : Reading (List Char)) : Reading (List Char) :=
  match first, reading with
  | .ok c, .ok (cs, rest) => .ok (c :: cs, rest)
  | .error failure, _ => .error failure
  | _, .error failure => .error failure

def readBasic : List Char → Reading (List Char)
  | [] => refuse
  | '\\' :: 'u' :: a :: b :: c :: d :: rest => prepend (codeEscape [a, b, c, d]) (readBasic rest)
  | '\\' :: 'U' :: a :: b :: c :: d :: e :: f :: g :: h :: rest =>
      prepend (codeEscape [a, b, c, d, e, f, g, h]) (readBasic rest)
  | '\\' :: letter :: rest => prepend (letterEscape letter) (readBasic rest)
  | c :: rest =>
      if c = quotation then .ok ([], rest)
      else if isLegal c && c ≠ backslash then prepend (.ok c) (readBasic rest)
      else refuse

/-- What becomes of white space in a string of several lines: it is kept, or it must lead to a line
end after a backslash, or it is dropped after such a line end. -/
inductive Spacing
  | kept
  | untilLineEnd
  | dropped
  deriving DecidableEq, Repr

/-- A basic string of several lines after its opening marks, without further marks at its end. -/
def readBasicLines : Spacing → List Char → Reading (List Char)
  | _, [] => refuse
  | .untilLineEnd, c :: rest =>
      if c = '\n' then readBasicLines .dropped rest
      else if isGap c then readBasicLines .untilLineEnd rest
      else refuse
  | _, '\x22' :: '\x22' :: '\x22' :: rest => .ok ([], rest)
  | _, '\\' :: 'u' :: a :: b :: c :: d :: rest =>
      prepend (codeEscape [a, b, c, d]) (readBasicLines .kept rest)
  | _, '\\' :: 'U' :: a :: b :: c :: d :: e :: f :: g :: h :: rest =>
      prepend (codeEscape [a, b, c, d, e, f, g, h]) (readBasicLines .kept rest)
  | _, '\\' :: letter :: rest =>
      if letter = '\n' then readBasicLines .dropped rest
      else if isGap letter then readBasicLines .untilLineEnd rest
      else prepend (letterEscape letter) (readBasicLines .kept rest)
  | spacing, c :: rest =>
      if spacing = .dropped ∧ (isGap c ∨ c = '\n') then readBasicLines .dropped rest
      else if isLegalOrNewline c && c ≠ backslash then prepend (.ok c) (readBasicLines .kept rest)
      else refuse

def readLiteral (cs : List Char) : Reading (List Char) :=
  match cs.span (· ≠ apostrophe) with
  | (body, _ :: rest) => if body.all isLegal then .ok (body, rest) else refuse
  | _ => refuse

/-- A literal string of several lines after its opening marks, without further marks at its end. -/
def readLiteralLines : List Char → Reading (List Char)
  | '\x27' :: '\x27' :: '\x27' :: rest => .ok ([], rest)
  | c :: rest => if isLegalOrNewline c then prepend (.ok c) (readLiteralLines rest) else refuse
  | [] => refuse

/-- A string of several lines with the marks, at most two, that come before its closing ones. -/
def withMarks (mark : Char) (reading : Reading (List Char)) : Reading String :=
  reading.map fun result =>
    let marks := (result.2.take 2).takeWhile (· = mark)
    (String.ofList (result.1 ++ marks), result.2.drop marks.length)

def dropNewline : List Char → List Char
  | '\n' :: rest => rest
  | cs => cs

/-- A string on one line after its opening mark, which is given. -/
def readLine (mark : Char) (cs : List Char) : Reading String :=
  (if mark = quotation then readBasic cs else readLiteral cs).map fun result =>
    (String.ofList result.1, result.2)

/-- A string on one or several lines after its first opening mark, which is given. -/
def readString (mark : Char) (cs : List Char) : Reading String :=
  match cs with
  | second :: third :: rest =>
      if second = mark ∧ third = mark then
        withMarks mark <|
          if mark = quotation then readBasicLines .kept (dropNewline rest)
          else readLiteralLines (dropNewline rest)
      else readLine mark cs
  | cs => readLine mark cs

def isBare (c : Char) : Bool :=
  c.isAlphanum || c = '-' || c = '_'

def readKeyPart (cs : List Char) : Reading String :=
  match cs with
  | [] => refuse
  | c :: rest =>
      if c = quotation ∨ c = apostrophe then readLine c rest
      else if isBare c then
        let (name, after) := cs.span isBare
        .ok (String.ofList name, after)
      else refuse

/-- A key of parts separated by points; every part takes something from the text, and `fuel` bounds
their number. -/
def readKeyParts : (fuel : Nat) → List Char → Except Failure (List String × List Char)
  | 0, _ => refuse
  | fuel + 1, cs => do
      let (name, rest) ← readKeyPart cs
      match rest.dropWhile isGap with
      | '.' :: rest => do
          let (names, rest) ← readKeyParts fuel (rest.dropWhile isGap)
          return (name :: names, rest)
      | rest => return ([name], rest)

def readKey (cs : List Char) : Reading (List String) :=
  readKeyParts cs.length cs

end SampledMetrics.Toml
