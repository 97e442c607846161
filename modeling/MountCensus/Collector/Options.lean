import MountCensus.CommandLine.Argument
import MountCensus.Enumeration
import MountCensus.Loop

/-!
What all collectors have in common: the surroundings in which they run, their options, and the loop
in which they collect.
-/

set_option autoImplicit false

namespace MountCensus

/-- What a collector needs of its surroundings. -/
structure Environment (Surroundings : Type) where
  hostName : String
  /-- The host as it answers at present. -/
  host : Act Surroundings Host
  /-- Takes note of what the host has been asked. -/
  asked : List HostCall → Act Surroundings Unit
  clock : Clock Surroundings
  pauseFor : Int → Act Surroundings Unit
  /-- Goes on in the background. -/
  detach : Act Surroundings Unit
  registry : Sink.Registry Surroundings
  version : String
  /-- The largest number of rounds. -/
  limit : Nat

namespace Environment

variable {Surroundings : Type}

/-- Puts questions to the host. -/
def ask {α : Type} (environment : Environment Surroundings) (question : Host → Answer α) :
    Program Surroundings α := do
  let answer := question (← Program.ofSurroundings environment.host)
  Program.ofSurroundings (environment.asked answer.calls)
  answer.result

end Environment

namespace Collector

open CommandLine

/-- The options that every collector has. -/
structure Options where
  sink : String := ""
  sinkSettings : List String := []
  level : Log.Level := .info
  logFolder : Value := .null
  onConsole : Bool := false
  interval : Int := 0
  once : Bool := false
  retries : Int := 0
  dryRun : Bool := false
  chunkSize : Int := 0

def switchParameter {Settings : Type} (names : List String) (key : String)
    (put : Bool → Settings → Settings) : Parameter Settings :=
  .ofReader names key .switch (.bool false) (fun _ => readSwitch) put

/-- The options of a collector that usually collects at the given interval in seconds. -/
def parameters (interval : Int) : List (Parameter Options) := [
  .ofReader ["--sink"] "sink" .single (.text "stdout") (fun _ => readText)
    fun sink options => { options with sink },
  .ofReader ["-o", "--sink-opt"] "sink_opts" .repeated (.list []) (fun _ => readTexts)
    fun sinkSettings options => { options with sinkSettings },
  .ofReader ["--log-level"] "log_level" .single (.text "INFO") (fun _ => readLevel)
    fun level options => { options with level },
  .ofReader ["--log-folder"] "log_folder" .single (.text "fsmon_logs") readDirectory
    fun logFolder options => { options with logFolder },
  switchParameter ["--stdout"] "stdout" fun onConsole options => { options with onConsole },
  .ofReader ["--interval"] "interval" .single (.int interval) (fun _ => readCount)
    fun interval options => { options with interval },
  switchParameter ["--once"] "once" fun once options => { options with once },
  .ofReader ["--retries"] "retries" .single (.int 2) (fun _ => readCount)
    fun retries options => { options with retries },
  switchParameter ["--dry-run", "-n"] "dry_run" fun dryRun options => { options with dryRun },
  .ofReader ["--chunk-size"] "chunk_size" .single (.text "1M") (fun _ => readSize)
    fun chunkSize options => { options with chunkSize }]

/-- A log folder that is no text is found out only here. -/
def folderOf (value : Value) : Except Failure String :=
  match value with
  | .text folder => .ok folder
  | _ => .error ⟨.argumentType,
      "argument \"log_folder\" (" ++ value.typeName ++ ") is not an instance of str"⟩

def loopSettings (logger : String) (options : Options) : Except Failure Loop.Settings := do
  return {
    logger
    logFolder := ← folderOf options.logFolder
    onConsole := options.onConsole
    level := options.level
    once := options.once
    interval := options.interval
    sink := options.sink
    sinkSettings := options.sinkSettings
    chunkSize := options.chunkSize
    retries := options.retries
    dryRun := options.dryRun }

variable {Surroundings : Type}

/-- Collects one kind of records in a loop. -/
def run (environment : Environment Surroundings) (settings : Loop.Settings)
    (task : Task Surroundings) : Program Surroundings Unit := do
  let _ ← Loop.run settings environment.registry environment.clock environment.pauseFor [task]
    environment.limit

theorem folderOf_text (folder : String) : folderOf (.text folder) = .ok folder := rfl

end Collector

end MountCensus
