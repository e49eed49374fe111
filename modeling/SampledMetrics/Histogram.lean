import SampledMetrics.Defaults
import SampledMetrics.Extractor.Table
import SampledMetrics.Registry
import SampledMetrics.Reservoir
/-!
Histograms and what they are built from.  A histogram has a name, an object that is its reservoir, which
other histograms may share, and a table of extractors that is fixed when it is built.  A draft gathers
the same choices one by one, and the last choice for each counts.
-/

set_option autoImplicit false
set_option relaxedAutoImplicit false

namespace SampledMetrics

/-- A named distribution on a reservoir. -/
structure Histogram where
  name : String
  reservoir : ObjectId
  extractors : Table

/-- Everything that a histogram is built from; no percentiles means the default ones. -/
structure Recipe where
  name : Value := .null
  reservoir : Option ObjectId := none
  percentiles : Value := .null
  skipDefaults : Value := .bool false

/-- What is settled about a histogram before it has a reservoir. -/
structure HistogramPlan where
  name : String
  extractors : Table

namespace Recipe

def checkName : Value → Except Failure String
  | .text name => if Text.isBlankText name then .error .nameMissing else .ok name
  | .null => .error .nameMissing
  | name => .error (.nameKind name.kindName)

/-- The percentiles that are asked for, or else the default ones. -/
def effectivePercentiles (recipe : Recipe) (defaults : Defaults) : Value :=
  match recipe.percentiles with
  | .null => defaults.percentiles
  | percentiles => percentiles

/-- The name and the table of extractors, which must not be empty when the defaults are skipped. -/
def plan (recipe : Recipe) (defaults : Defaults) : Logged Failure HistogramPlan := do
  let name ← Logged.ofExcept (checkName recipe.name)
  let extractors ← Table.build (recipe.effectivePercentiles defaults) recipe.skipDefaults
  if recipe.skipDefaults.isTrue && extractors.isEmpty then
    Logged.ofExcept (.error .noPercentiles)
  else return ⟨name, extractors⟩

end Recipe

namespace Histogram

/-- The names of the metrics, in the order of the report. -/
def metricNames (h : Histogram) : List String :=
  h.extractors.names

def describe (h : Histogram) : String :=
  "Histogram(name=" ++ Text.quote h.name ++ ", metrics="
    ++ (Value.list (h.metricNames.map .text)).render ++ ")"

/-- Every metric of a snapshot of the histogram's reservoir. -/
def report (h : Histogram) (s : Snapshot) : Except Failure (List (String × Value)) :=
  h.extractors.mapM fun entry => do return (entry.1, ← entry.2.apply s)

/-- The observations recorded, where the reservoir counts them, or else the samples held. -/
def count (r : Reservoir) : Value :=
  match r.count? with
  | some (.number (.int count)) => .int count
  | some (.bool count) => .bool count
  | _ => .int r.size

end Histogram

/-- Choices for a histogram, gathered one by one. -/
structure HistogramDraft where
  name : Value := .null
  reservoir : Option ObjectId := none
  percentiles : Option (List Value) := none
  skipDefaults : Value := .bool false

namespace HistogramDraft

def recipe (b : HistogramDraft) : Recipe where
  name := b.name
  reservoir := b.reservoir
  percentiles := (b.percentiles.map Value.list).getD .null
  skipDefaults := b.skipDefaults

def setName (b : HistogramDraft) (name : Value) : HistogramDraft :=
  { b with name }

def setReservoir (b : HistogramDraft) (reservoir : Option ObjectId) : HistogramDraft :=
  { b with reservoir }

/-- Percentiles in place of the default ones, or the default ones again. -/
def setPercentiles (b : HistogramDraft) : Value → Except Failure HistogramDraft
  | .null => .ok { b with percentiles := none }
  | percentiles => do return { b with percentiles := some (← Table.itemsOf percentiles) }

def setSkipDefaults (b : HistogramDraft) (skipDefaults : Value) : HistogramDraft :=
  { b with skipDefaults }

end HistogramDraft

end SampledMetrics
