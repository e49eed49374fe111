import SampledMetrics.Extractor
import SampledMetrics.Log.Record
/-!
The table of a histogram: metric names and their extractors, in the order of the report.  It has the
default metrics, unless they are skipped, and after them the percentiles that were asked for.  What is
no number or lies outside 0 to 100 is left out and logged; a repeated percentile is left out silently,
and one that is a default already is left out and logged.
-/

set_option autoImplicit false
set_option relaxedAutoImplicit false

namespace SampledMetrics

/-- Metric names and extractors in order; no name comes twice. -/
abbrev Table : Type :=
  List (String × Extractor)

namespace Table

def has (table : Table) (name : String) : Bool :=
  table.any fun entry => entry.1 = name

/-- An entry at the end, unless its name is there already. -/
def putNew (table : Table) (name : String) (extractor : Extractor) : Table :=
  if table.has name then table else table ++ [(name, extractor)]

def names (table : Table) : List String :=
  table.map Prod.fst

def defaultTenths : List Nat :=
  [500, 750, 950, 980, 990, 999]

def percentileEntry (p : Binary64) : Except Failure (String × Extractor) := do
  return (← Percentile.name p, .percentile (.float p))

/-- The metrics that every histogram reports unless they are skipped. -/
def defaults : Table :=
  [("Min", .min), ("Max", .max), ("Mean", .mean), ("StdDev", .stddev)]
    ++ (defaultTenths.filterMap fun tenths =>
      (percentileEntry (Binary64.ofRatio false tenths 10)).toOption)

/-- What becomes of an entry of a list of percentiles. -/
inductive Screening
  | keep (p : Binary64)
  | drop (event : Event)
  | fail (failure : Failure)

/-- Only numbers between 0 and 100 are kept; an integer beyond binary64 cannot be judged. -/
def screen (raw : Value) : Screening :=
  match raw.number? with
  | none => .drop (.percentileNotNumeric raw)
  | some number =>
      match number.toBinary64? with
      | none => .fail .integerTooLarge
      | some p => if Percentile.isValid (.float p) then .keep p else .drop (.percentileOutside number)

/-- Add the percentiles asked for to a table of percentiles. -/
def addPercentiles : List Value → Table → Logged Failure Table
  | [], table => pure table
  | raw :: rest, table =>
      match screen raw with
      | .fail failure => Logged.ofExcept (.error failure)
      | .drop event => do
          Logged.tell event
          addPercentiles rest table
      | .keep p => do
          let (name, extractor) ← Logged.ofExcept (percentileEntry p)
          addPercentiles rest (table.putNew name extractor)

def itemsOf (value : Value) : Except Failure (List Value) :=
  match value.items? with
  | some items => .ok items
  | none => .error (.notIterable value.kindName)

def ofPercentiles (percentiles : Value) : Logged Failure Table := do
  let items ← Logged.ofExcept (itemsOf percentiles)
  addPercentiles items []

def addCustom : Table → Table → Logged Failure Table
  | [], table => pure table
  | (name, extractor) :: rest, table =>
      if table.has name then do
        Logged.tell (.duplicatesDefault name)
        addCustom rest table
      else addCustom rest (table ++ [(name, extractor)])

def build (percentiles skipDefaults : Value) : Logged Failure Table := do
  let custom ← ofPercentiles percentiles
  if skipDefaults.isTrue then return custom else addCustom custom defaults

end Table

end SampledMetrics
