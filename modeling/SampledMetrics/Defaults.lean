import SampledMetrics.Envelope.Fields
import SampledMetrics.Failure
import SampledMetrics.Value.Order
/-!
What histograms are built with when they are not told otherwise: the capacity and the seed of their
reservoirs, and further percentiles.  The three are kept as they were given until they are checked.  A
configuration document has a section for them, all of whose keys must be known; what the keys hold is not
checked there, but the percentiles must be a list.
-/

set_option autoImplicit false
set_option relaxedAutoImplicit false

namespace SampledMetrics

def builtInSize : Int := 1024

structure Defaults where
  reservoirSize : Value := .int builtInSize
  reservoirSeed : Value := .null
  percentiles : Value := .list []

namespace Defaults

def checkSize : Value → Except Failure Unit
  | .number (.int size) => if size < 1 then .error .sizeTooSmall else .ok ()
  | _ => .error .sizeKind

/-- A seed is an integer, if there is one. -/
def checkSeed : Value → Except Failure Unit
  | .null => .ok ()
  | .number (.int _) => .ok ()
  | _ => .error .seedKind

/-- A percentile is a number, and not not-a-number; an integer beyond binary64 cannot be judged. -/
def checkPercentile (value : Value) : Except Failure Unit :=
  match value.number? with
  | none => Failure.showing value (.percentileEntryKind value)
  | some number =>
      match number.toBinary64? with
      | none => .error .integerTooLarge
      | some real => if real.isNaN then .error .percentileEntryNaN else .ok ()

/-- Accepts exactly what a histogram can be built with. -/
def validate (d : Defaults) : Except Failure Unit := do
  checkSize d.reservoirSize
  checkSeed d.reservoirSeed
  match d.percentiles.items? with
  | none => .error (.notIterable d.percentiles.kindName)
  | some items => items.forM checkPercentile

end Defaults

namespace Defaults

def sectionKeys : List String :=
  ["reservoir_size", "reservoir_seed", "percentiles"]

def unknownKeys (entries : List (String × Value)) : List String :=
  (entries.map Prod.fst).filter fun key => !sectionKeys.contains key

/-- What the known keys say; one that is missing stands for the built-in value. -/
def ofKnown (entries : List (String × Value)) : Defaults :=
  let builtIn : Defaults := {}
  { reservoirSize := (entries.lookup "reservoir_size").getD builtIn.reservoirSize
    reservoirSeed := (entries.lookup "reservoir_seed").getD builtIn.reservoirSeed
    percentiles := (entries.lookup "percentiles").getD builtIn.percentiles }

def ofSection (entries : List (String × Value)) : Except Failure Defaults :=
  match unknownKeys entries, (ofKnown entries).percentiles with
  | [], .list _ => .ok (ofKnown entries)
  | [], _ => .error .percentilesKind
  | keys, _ => .error (.unknownKeys (Text.sorted keys))

/-- The operation that takes the keys as fields, by its name in messages. -/
def makerName : String := "HistogramDefaults.__init__"

/-- The defaults of a dictionary of single fields, which may hold anything. -/
def ofFields : Value → Except Failure Defaults
  | .dict entries => do
      Arguments.checkNames makerName sectionKeys (entries.map Prod.fst)
      return ofKnown entries
  | fields => .error (.lacks fields.kindName "items")

/-- The defaults of a document; without a section all is built-in. -/
def ofDocument (document : List (String × Value)) : Except Failure Defaults :=
  match document.lookup "histogram" with
  | none => .ok {}
  | some (.dict entries) => ofSection entries
  | some _ => .error .sectionKind

end Defaults

end SampledMetrics
