import SampledMetrics.Defaults
import SampledMetrics.Text.Separated
/-!
Environment variables that override defaults, one for each of the three.  They are taken in turn, and
one that cannot be read stops the rest, after those before it have been taken.  A caller may give other
things than texts, and the first that cannot be read as a text stops the rest in the same way.  The
variables of the system are texts without a null character, or they cannot be set at all.
-/

set_option autoImplicit false
set_option relaxedAutoImplicit false

namespace SampledMetrics

/-- The texts of the variables that are set. -/
structure Environment where
  size : Option String := none
  seed : Option String := none
  percentiles : Option String := none
  deriving DecidableEq, Repr

namespace Environment

def sizeVariable : String := "HISTOGRAM_RESERVOIR_SIZE"

def seedVariable : String := "HISTOGRAM_RESERVOIR_SEED"

def percentilesVariable : String := "HISTOGRAM_PERCENTILES"

/-- Both environments together; what is set in the second counts. -/
def union (first second : Environment) : Environment :=
  ⟨second.size <|> first.size, second.seed <|> first.seed,
    second.percentiles <|> first.percentiles⟩

def readInteger (name raw : String) : Except Failure Int :=
  match Numeral.readInteger? raw with
  | some value => .ok value
  | none => .error (.environmentNumber name raw)

def noSeedWords : List String :=
  ["", "none", "random"]

/-- Whether a text is, but for white space around it and for case, one of the words. -/
def meansNoSeed (raw : String) : Bool :=
  noSeedWords.contains (String.ofList ((Text.strip Text.isBlank raw.toList).map Char.toLower))

def readSeed (raw : String) : Except Failure (Option Int) :=
  if meansNoSeed raw then .ok none else (readInteger seedVariable raw).map some

/-- The numbers of parts, of which blank ones are left out. -/
def readParts? (parts : List (List Char)) : Option (List Binary64) :=
  (parts.filter fun part => !part.all Text.isBlank).mapM fun part =>
    Numeral.readBinary64? (String.ofList part)

/-- The percentiles of a variable: numbers separated by commas. -/
def readPercentiles (raw : String) : Except Failure (List Binary64) :=
  match readParts? (Text.separate ',' raw.toList) with
  | some values => .ok values
  | none => .error (.environmentPercentiles raw)

def take {α : Type} (raw : Option String) (read : String → Except Failure α)
    (set : Defaults → α → Defaults) (d : Defaults) : Except Failure Defaults :=
  match raw with
  | none => .ok d
  | some raw => (read raw).map (set d)

def seedValue (seed : Option Int) : Value :=
  (seed.map Value.int).getD .null

def takeSize (e : Environment) : Defaults → Except Failure Defaults :=
  take e.size (readInteger sizeVariable) fun d size => { d with reservoirSize := .int size }

def takeSeed (e : Environment) : Defaults → Except Failure Defaults :=
  take e.seed readSeed fun d seed => { d with reservoirSeed := seedValue seed }

def takePercentiles (e : Environment) : Defaults → Except Failure Defaults :=
  take e.percentiles readPercentiles fun d values =>
    { d with percentiles := .list (values.map .float) }

/-- Changes in turn up to the first that fails, and what they leave behind. -/
def inTurn : List (Defaults → Except Failure Defaults) → Defaults → Except Failure Unit × Defaults
  | [], d => (.ok (), d)
  | change :: rest, d =>
      match change d with
      | .ok changed => inTurn rest changed
      | .error failure => (.error failure, d)

/-- Override defaults: whether it succeeds, and the defaults afterwards. -/
def override (e : Environment) (d : Defaults) : Except Failure Unit × Defaults :=
  inTurn [e.takeSize, e.takeSeed, e.takePercentiles] d

end Environment

namespace Environment

def given (assignments : List (String × Value)) (name : String) : Value :=
  (assignments.lookup name).getD .null

/-- The text of a variable from which some part is asked for. -/
def textWith (part : String) : Value → Except Failure (Option String)
  | .null => .ok none
  | .text raw => .ok (some raw)
  | value => .error (.lacks value.kindName part)

/-- The text of a variable from which an integer is made, which may be one already.  Variables are texts; a
binary64 number, whose whole part could be taken, is refused like any other value. -/
def wholeText : Value → Except Failure (Option String)
  | .null => .ok none
  | .text raw => .ok (some raw)
  | .number (.int value) => .ok (some (toString value))
  | .bool value => .ok (some (if value then "1" else "0"))
  | value => .error (.notWhole value.kindName)

/-- The environment of variables up to the first that has no text, and why that one has none. -/
def ofGiven (assignments : List (String × Value)) : Environment × Option Failure :=
  match wholeText (given assignments sizeVariable) with
  | .error failure => ({}, some failure)
  | .ok size =>
      match textWith "strip" (given assignments seedVariable) with
      | .error failure => ({ size }, some failure)
      | .ok seed =>
          match textWith "split" (given assignments percentilesVariable) with
          | .error failure => ({ size, seed }, some failure)
          | .ok percentiles => ({ size, seed, percentiles }, none)

/-- Override defaults by variables: whether it succeeds, and the defaults afterwards. -/
def overrideGiven (assignments : Value) (d : Defaults) : Except Failure Unit × Defaults :=
  match assignments with
  | .dict assignments =>
      let (e, odd) := ofGiven assignments
      match e.override d, odd with
      | (.ok (), d), some failure => (.error failure, d)
      | overridden, _ => overridden
  | assignments => (.error (.lacks assignments.kindName "get"), d)

def systemText : Value → Except Failure (Option String)
  | .null => .ok none
  | .text raw => if raw.toList.contains '\x00' then .error .nullInside else .ok (some raw)
  | value => .error (.variableKind value.kindName)

/-- The environment of the system; what is no dictionary sets no variables. -/
def ofSystem : Value → Except Failure Environment
  | .dict assignments => do
      let size ← systemText (given assignments sizeVariable)
      let seed ← systemText (given assignments seedVariable)
      let percentiles ← systemText (given assignments percentilesVariable)
      return { size, seed, percentiles }
  | _ => .ok {}

end Environment

end SampledMetrics
