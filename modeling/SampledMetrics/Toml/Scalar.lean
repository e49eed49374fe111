import SampledMetrics.Decimal.Reading
import SampledMetrics.Toml.Text
/-!
Numbers, days and times of TOML.
-/

set_option autoImplicit false
set_option relaxedAutoImplicit false

namespace SampledMetrics.Toml

open Text (hexValue?)

/-- Further digits of a numeral, each perhaps after an underscore, and what follows them. -/
def moreDigits (isDigit : Char → Bool) : List Char → List Char × List Char
  | '_' :: c :: rest =>
      if isDigit c then
        let (digits, after) := moreDigits isDigit rest
        (c :: digits, after)
      else ([], '_' :: c :: rest)
  | c :: rest =>
      if isDigit c then
        let (digits, after) := moreDigits isDigit rest
        (c :: digits, after)
      else ([], c :: rest)
  | [] => ([], [])

/-- The digits of a numeral, without their underscores. -/
def readDigits? (isDigit : Char → Bool) : List Char → Option (List Char × List Char)
  | c :: rest =>
      if isDigit c then
        let (digits, after) := moreDigits isDigit rest
        some (c :: digits, after)
      else none
  | [] => none

/-- The digits of an integer without a sign, which do not begin with a zero that others follow. -/
def readWhole? : List Char → Option (List Char × List Char)
  | '0' :: rest => some (['0'], rest)
  | cs => readDigits? Char.isDigit cs

/-- The fraction digits after a point, if there are any. -/
def readFraction (cs : List Char) : List Char × List Char :=
  match cs with
  | '.' :: rest => (readDigits? Char.isDigit rest).getD ([], cs)
  | _ => ([], cs)

def readExponent? (cs : List Char) : Option (Int × List Char) :=
  match cs with
  | mark :: rest =>
      if mark = 'e' ∨ mark = 'E' then
        let (negative, unsigned) := Numeral.readSign rest
        (readDigits? Char.isDigit unsigned).map fun (digits, after) =>
          let magnitude : Int := Nat.ofDigitChars 10 digits 0
          (if negative then -magnitude else magnitude, after)
      else none
  | [] => none

/-- An integer that was read from decimal digits, of which there may not be too many. -/
def decimalInteger (negative : Bool) (digits : List Char) : Except Failure Value :=
  if Numeral.digitLimit < digits.length then .error (.digitLimitReading digits.length)
  else
    let magnitude : Int := Nat.ofDigitChars 10 digits 0
    .ok (.int (if negative then -magnitude else magnitude))

/-- A decimal number: an integer, or binary64 when it has a fraction or an exponent. -/
def readDecimal? (cs : List Char) : Option (Except Failure Value × List Char) := do
  let (negative, unsigned) := Numeral.readSign cs
  let (whole, afterWhole) ← readWhole? unsigned
  let (fraction, afterFraction) := readFraction afterWhole
  match readExponent? afterFraction with
  | none =>
      if fraction.isEmpty then some (decimalInteger negative whole, afterFraction)
      else
        let d : Decimal := ⟨Nat.ofDigitChars 10 (whole ++ fraction) 0, -fraction.length⟩
        some (.ok (.float (d.toBinary64 negative)), afterFraction)
  | some (exponent, rest) =>
      let d : Decimal :=
        ⟨Nat.ofDigitChars 10 (whole ++ fraction) 0, exponent - fraction.length⟩
      some (.ok (.float (d.toBinary64 negative)), rest)

def baseOf? (letter : Char) : Option Nat :=
  if letter = 'x' then some 16
  else if letter = 'b' then some 2
  else if letter = 'o' then some 8
  else none

def readBased? (cs : List Char) : Option (Except Failure Value × List Char) :=
  match cs with
  | '0' :: letter :: rest => do
      let base ← baseOf? letter
      let isDigit (c : Char) : Bool := ((hexValue? c).map (decide <| · < base)).getD false
      let (digits, after) ← readDigits? isDigit rest
      let value := digits.foldl (fun value c => value * base + (hexValue? c).getD 0) 0
      some (.ok (.int value), after)
  | _ => none

/-- A word for a number that is not finite, perhaps with a sign. -/
def readWord? (cs : List Char) : Option (Except Failure Value × List Char) :=
  let (negative, unsigned) := Numeral.readSign cs
  match unsigned with
  | 'i' :: 'n' :: 'f' :: rest => some (.ok (.float (.infinity negative)), rest)
  | 'n' :: 'a' :: 'n' :: rest => some (.ok (.float .nan), rest)
  | _ => none

def readPair? (greatest : Nat) : List Char → Option (Nat × List Char)
  | a :: b :: rest =>
      let value := Nat.ofDigitChars 10 [a, b] 0
      if a.isDigit && b.isDigit && value ≤ greatest then some (value, rest) else none
  | _ => none

def readMark? (mark : Char) : List Char → Option (List Char)
  | c :: rest => if c = mark then some rest else none
  | [] => none

/-- The microseconds of a fraction of a second; further digits are dropped. -/
def readMicroseconds (cs : List Char) : Nat × List Char :=
  match cs with
  | '.' :: rest =>
      let (digits, after) := rest.span Char.isDigit
      if digits.isEmpty then (0, cs)
      else (Nat.ofDigitChars 10 ((digits ++ List.replicate 6 '0').take 6) 0, after)
  | _ => (0, cs)

def readTime? (cs : List Char) : Option (Time × List Char) := do
  let (hour, cs) ← readPair? 23 cs
  let (minute, cs) ← readPair? 59 (← readMark? ':' cs)
  let (second, cs) ← readPair? 59 (← readMark? ':' cs)
  let (microsecond, cs) := readMicroseconds cs
  some (⟨hour, minute, second, microsecond⟩, cs)

/-- Every fourth year is a leap year, but of the full centuries only every fourth. -/
def isLeapYear (year : Nat) : Bool :=
  year % 4 = 0 && (year % 100 ≠ 0 || year % 400 = 0)

def daysInMonth (year month : Nat) : Nat :=
  if month = 2 then (if isLeapYear year then 29 else 28)
  else if month = 4 ∨ month = 6 ∨ month = 9 ∨ month = 11 then 30
  else 31

/-- A day of the calendar, from the year one on. -/
def readDate? (cs : List Char) : Option (Date × List Char) := do
  let (century, cs) ← readPair? 99 cs
  let (yearOfCentury, cs) ← readPair? 99 cs
  let (month, cs) ← readPair? 12 (← readMark? '-' cs)
  let (day, cs) ← readPair? 31 (← readMark? '-' cs)
  let year := century * 100 + yearOfCentury
  if 1 ≤ year ∧ 1 ≤ month ∧ 1 ≤ day ∧ day ≤ daysInMonth year month then
    some (⟨year, month, day⟩, cs)
  else none

/-- The minutes by which a zone is ahead, given by a sign, hours and minutes. -/
def readOffset? (cs : List Char) : Option (Int × List Char) :=
  match cs with
  | c :: rest =>
      if c = 'Z' ∨ c = 'z' then some (0, rest)
      else if c = '+' ∨ c = '-' then do
        let (hours, cs) ← readPair? 23 rest
        let (minutes, cs) ← readPair? 59 (← readMark? ':' cs)
        let ahead : Int := hours * 60 + minutes
        some (if c = '-' then -ahead else ahead, cs)
      else none
  | [] => none

/-- A time of day after the mark that joins it to a day. -/
def readJoinedTime? (cs : List Char) : Option (Time × List Char) :=
  match cs with
  | c :: rest => if c = 'T' ∨ c = 't' ∨ c = ' ' then readTime? rest else none
  | [] => none

def readMoment? (cs : List Char) : Option (Except Failure Value × List Char) := do
  let (date, afterDate) ← readDate? cs
  match readJoinedTime? afterDate with
  | none => some (.ok (.date date), afterDate)
  | some (time, afterTime) =>
      match readOffset? afterTime with
      | none => some (.ok (.moment date time none), afterTime)
      | some (offset, rest) => some (.ok (.moment date time (some offset)), rest)

/-- A number, a day, a time or a moment; the first form that fits is taken. -/
def readScalar (cs : List Char) : Except Failure (Value × List Char) :=
  let time := (readTime? cs).map fun (time, rest) => (Except.ok (Value.time time), rest)
  match readMoment? cs <|> time <|> readBased? cs <|> readDecimal? cs <|> readWord? cs with
  | some (value, rest) => value.map (·, rest)
  | none => refuse

end SampledMetrics.Toml
