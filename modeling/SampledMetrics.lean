import SampledMetrics.Defaults.Revision
import SampledMetrics.Envelope.Fields
import SampledMetrics.Log.Journal
import SampledMetrics.Proofs.Reservoir.Run
import SampledMetrics.Proofs.Reservoir.LastWriter
import SampledMetrics.Proofs.Reservoir.Uniformity
import SampledMetrics.Proofs.Binary64.Rounding
import SampledMetrics.Proofs.Binary64.Arithmetic
import SampledMetrics.Proofs.Binary64.Interpolation
import SampledMetrics.Proofs.Number
import SampledMetrics.Proofs.Snapshot.Percentile
import SampledMetrics.Proofs.Binary64.Range
import SampledMetrics.Proofs.Binary64.Root
import SampledMetrics.Proofs.Statistics.Deviation
import SampledMetrics.Proofs.Statistics.Sum
import SampledMetrics.Proofs.Snapshot.Definedness
import SampledMetrics.Proofs.Extractor.Table
import SampledMetrics.Proofs.Histogram.Report
import SampledMetrics.Proofs.Extractor.Screening
import SampledMetrics.Proofs.Histogram.Making
import SampledMetrics.Proofs.Histogram.Building
import SampledMetrics.Proofs.Registry.Binding
import SampledMetrics.Proofs.Registry.Interleaving
import SampledMetrics.Proofs.World.Objects
import SampledMetrics.Proofs.World.Growth
import SampledMetrics.Proofs.World.Closed
import SampledMetrics.Proofs.World.Agreement
import SampledMetrics.Proofs.Session.Names
import SampledMetrics.Proofs.Session.Quiet
import SampledMetrics.Proofs.Session.History
import SampledMetrics.Proofs.Session.Closed
import SampledMetrics.Proofs.Session.Erasure
import SampledMetrics.Proofs.Decimal.Shortest
import SampledMetrics.Proofs.Decimal.Reading
import SampledMetrics.Proofs.Percentile.Name
import SampledMetrics.Proofs.Correspondence
import SampledMetrics.Proofs.Extractor.Asked
import SampledMetrics.Proofs.Histogram.Spelling
import SampledMetrics.Proofs.Binary64.Alike
import SampledMetrics.Proofs.Statistics.Twins
import SampledMetrics.Proofs.Snapshot.Arrangement
import SampledMetrics.Proofs.Histogram.Arrangement
import SampledMetrics.Proofs.Decimal.RoundTrip
import SampledMetrics.Proofs.Reservoir.Latest
import SampledMetrics.Proofs.Defaults.Expression
import SampledMetrics.Proofs.Defaults.Override
import SampledMetrics.Proofs.Text.Utf8
import SampledMetrics.Proofs.Toml.Refusal
import SampledMetrics.Proofs.Defaults.Load
import SampledMetrics.Proofs.Defaults.Usable
import SampledMetrics.Proofs.Defaults.Layers
import SampledMetrics.Proofs.World.Change
import SampledMetrics.Proofs.Session.Isolation
import SampledMetrics.Proofs.Registry.Unbound
import SampledMetrics.Proofs.Session.Setters
import SampledMetrics.Proofs.Snapshot.Finiteness
import SampledMetrics.Proofs.WordStream.Draws
import SampledMetrics.Proofs.Session.Events
import SampledMetrics.Proofs.Session.Refusal
import SampledMetrics.Proofs.World.Admission
import SampledMetrics.Proofs.Session.Admission
import SampledMetrics.Proofs.Log.Logger
import SampledMetrics.Proofs.Log.Configuration
import SampledMetrics.Proofs.Json.Lossless
import SampledMetrics.Proofs.Session.Visit
import SampledMetrics.Proofs.Snapshot.Spread
import SampledMetrics.Proofs.Snapshot.Ranks
import SampledMetrics.Proofs.Percentile.Refusal
import SampledMetrics.Proofs.Snapshot.Mean
import SampledMetrics.Proofs.Defaults.Parts
import SampledMetrics.Proofs.Session.News
