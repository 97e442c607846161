import MountCensus.Main
import MountCensus.Proofs.Pattern.Language
import MountCensus.Proofs.Regex.Reading
import MountCensus.Proofs.Pattern.Translation
import MountCensus.Proofs.Pattern.Matching
import MountCensus.Proofs.Act
import MountCensus.Proofs.Delivery.Blocks
import MountCensus.Proofs.Enumeration.Listing
import MountCensus.Proofs.Loop.Delivery
import MountCensus.Proofs.Enumeration.Filtering
import MountCensus.Proofs.Enumeration.Tables
import MountCensus.Proofs.Chunk
import MountCensus.Proofs.Loop.Stage
import MountCensus.Proofs.Loop.Isolation
import MountCensus.Proofs.Enumeration.Exchanges
import MountCensus.Proofs.Loop.Obstacles
import MountCensus.Proofs.Json.Plain
import MountCensus.Proofs.Disk.Names
import MountCensus.Proofs.Disk.Locations
import MountCensus.Proofs.Log.Isolated
import MountCensus.Proofs.Log.Rotation
import MountCensus.Proofs.Sink.Journal
import MountCensus.Proofs.Sink.JsonLines
import MountCensus.Proofs.Sink.Copies
import MountCensus.Proofs.Sink.Retention
import MountCensus.Proofs.Enumeration.Header
import MountCensus.Proofs.Sink.Refusal
import MountCensus.Proofs.Loop.DryRun
import MountCensus.Proofs.Loop.Printing
import MountCensus.Proofs.CommandLine.Command
import MountCensus.Proofs.Collector.Stores
import MountCensus.Proofs.Chunk.Fewest
import MountCensus.Proofs.Enumeration.Capacities
import MountCensus.Proofs.Pattern.Joining
import MountCensus.Proofs.Chunk.Withheld
import MountCensus.Proofs.Enumeration.Refreshing
import MountCensus.Proofs.Pattern.Normal
import MountCensus.Proofs.Loop.Timing
import MountCensus.Proofs.Number.Exact
import MountCensus.Proofs.Loop.Period
import MountCensus.Proofs.Delivery.Undivided
import MountCensus.Proofs.Settings.Keys
import MountCensus.Proofs.Sink.NamedOptions
import MountCensus.Proofs.Delivery.Scripts
