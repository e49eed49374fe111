import SampledMetrics.Snapshot
/-!
Extractors: the statistics that a histogram reports, each evaluated on a snapshot.  Percentiles are the
numbers from 0 to 100; the metric name of one is the letter P and its digits in fixed point, with an
underscore for the point.
-/

set_option autoImplicit false
set_option relaxedAutoImplicit false

namespace SampledMetrics

namespace Percentile

/-- Whether a number lies between 0 and 100, both included. -/
def isValid (p : Number) : Bool :=
  (Number.int 0).le p && p.le (.int 100)

def check (p : Value) : Except Failure Bool := do
  let real ← p.toReal
  return !real.isNaN && (p.asNumber?.map isValid).getD false

def namePoint (c : Char) : Char :=
  if c = '.' then '_' else c

/-- The name of the metric at a percentile; only finite ones have a name. -/
def name (p : Binary64) : Except Failure String :=
  match p, p.truncate?, p.fixedPoint? with
  | .finite _ magnitude, some whole, some digits =>
      if magnitude.units % Binary64.unitsPerOne = 0 then .ok ("P" ++ toString whole)
      else .ok (String.ofList ('P' :: digits.map namePoint))
  | .infinity _, _, _ => .error .infinityToInteger
  | _, _, _ => .error .nanToInteger

def nameOf (p : Value) : Except Failure String := do
  name (← p.toBinary64)

end Percentile

/-- The kinds of statistics. -/
inductive MetricKind
  | min
  | max
  | mean
  | stddev
  | percentile
  deriving DecidableEq, Repr

namespace MetricKind

def all : List MetricKind :=
  [.min, .max, .mean, .stddev, .percentile]

def label : MetricKind → String
  | .min => "min"
  | .max => "max"
  | .mean => "mean"
  | .stddev => "stddev"
  | .percentile => "percentile"

def describe : MetricKind → String
  | .min => "<MetricKind.MIN: 'min'>"
  | .max => "<MetricKind.MAX: 'max'>"
  | .mean => "<MetricKind.MEAN: 'mean'>"
  | .stddev => "<MetricKind.STDDEV: 'stddev'>"
  | .percentile => "<MetricKind.PERCENTILE: 'percentile'>"

def ofLabel (label : Value) : Except Failure MetricKind :=
  match label with
  | .text text =>
      match all.find? fun kind => kind.label = text with
      | some kind => .ok kind
      | none => .error (.metricKind label)
  | _ => Failure.showing label (.metricKind label)

end MetricKind

/-- One statistic of a snapshot. -/
inductive Extractor
  | min
  | max
  | mean
  | stddev
  | percentile (p : Value)

namespace Extractor

/-- The extractor of a kind; a percentile is given for the percentile kind and no other. -/
def make (kind : MetricKind) (percentile : Value) : Except Failure Extractor :=
  match kind, percentile with
  | .min, .null => .ok .min
  | .max, .null => .ok .max
  | .mean, .null => .ok .mean
  | .stddev, .null => .ok .stddev
  | .percentile, .null => .error .percentilePresence
  | .percentile, p => .ok (.percentile p)
  | _, _ => .error .percentilePresence

def atPercentile (p : Value) : Except Failure Extractor := do
  return .percentile (.float (← p.toBinary64))

def kind : Extractor → MetricKind
  | .min => .min
  | .max => .max
  | .mean => .mean
  | .stddev => .stddev
  | .percentile _ => .percentile

def percentileValue : Extractor → Value
  | .percentile p => p
  | _ => .null

def describe (e : Extractor) : String :=
  "MetricExtractor(kind=" ++ e.kind.describe ++ ", percentile=" ++ e.percentileValue.render ++ ")"

def query : Extractor → Snapshot.Query
  | .min => .min
  | .max => .max
  | .mean => .mean
  | .stddev => .stddev
  | .percentile p => .percentile p

def apply (e : Extractor) (s : Snapshot) : Except Failure Value :=
  s.ask e.query

end Extractor

end SampledMetrics
