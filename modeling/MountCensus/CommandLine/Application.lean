import MountCensus.Collector.FileDescriptors
import MountCensus.Collector.FileStores
import MountCensus.CommandLine.Configuration
import MountCensus.Text.Alphanumeric

/-!
The whole command line: options of the program, the name of a collector, and the options of the
collector. A table of the configuration file holds values for the former, and within it a table for
each collector holds values for the latter.
-/

set_option autoImplicit false

namespace MountCensus.CommandLine

def programName : String := "fsmon"

/-- What stands in front of the name of a collector. -/
structure Front where
  table : Option Table := none
  detached : Bool := false

def Front.configured (front : Front) : Option Value :=
  front.table.map .table

/-- What the configuration holds for a collector. -/
def Front.collectorTable (front : Front) (name : String) : Option Value :=
  front.table.bind (·.lookup name)

def helpText (words : List String) : String :=
  "Usage: " ++ " ".intercalate (programName :: words)

def helpParameter {Settings : Type} (words : List String) : Parameter Settings :=
  noticeParameter "--help" "help" (helpText words)

def front (version : String) : Command Front where
  parameters := [
    configParameter programName "/etc/fsmon/config.toml" (·.table)
      fun table front => { front with table },
    Collector.switchParameter ["--detach", "-d"] "detach"
      fun detached front => { front with detached },
    noticeParameter "--version" "version" (programName ++ ", version " ++ version),
    helpParameter ["[OPTIONS]", "COMMAND", "[ARGS]..."]]
  mixed := false
  initial := {}
  configured := Front.configured

/-- A collector with the settings that its options make. -/
structure CollectorCommand (Surroundings : Type) where
  Settings : Type
  parameters : List (Parameter Settings)
  initial : Settings
  run : Environment Surroundings → Settings → Program Surroundings Unit

variable {Surroundings : Type}

def collectors : List (String × CollectorCommand Surroundings) := [
  (Collector.FileStores.logger,
    ⟨Collector.FileStores.Options, Collector.FileStores.parameters, {}, Collector.FileStores.run⟩),
  (Collector.FileDescriptors.logger,
    ⟨Collector.Options, Collector.FileDescriptors.parameters, {}, Collector.FileDescriptors.run⟩)]

namespace CollectorCommand

/-- The command of a collector under its name, with what the configuration holds for it. -/
def command (collector : CollectorCommand Surroundings) (name : String)
    (configured : Option Value) : Command collector.Settings where
  parameters := collector.parameters ++ [helpParameter [name, "[OPTIONS]"]]
  initial := collector.initial
  configured _ := configured

end CollectorCommand

def missingCommand : Failure :=
  ⟨.usage, "Missing command."⟩

def noSuchCommand (name : String) : Failure :=
  ⟨.noSuchCommand, "No such command " ++ Text.quoted name ++ "."⟩

def noArguments : Failure :=
  ⟨.noArguments, helpText ["[OPTIONS]", "COMMAND", "[ARGS]..."]⟩

/-- Whether a word that names no collector is read as options after all. -/
def resemblesOption (word : String) : Bool :=
  match word.toList with
  | c :: _ => !Text.isAlphanumeric c
  | [] => false

/-- A reading that ends in a text shows it instead of going on. -/
def orShown {α : Type} (reading : Except Stop α) (next : α → Program Surroundings Unit) :
    Program Surroundings Unit :=
  match reading with
  | .ok result => next result
  | .error (.failure failure) => throw failure
  | .error (.notice text) => Program.print (text ++ "\n")

/-- Runs the collector whose name comes first. -/
def runCollector (environment : Environment Surroundings) (read : Front) :
    List String → Program Surroundings Unit
  | [] => throw missingCommand
  | name :: words => do
    let disk := (← get).output.disk
    match collectors.lookup name with
    | some collector =>
      let command := collector.command name (read.collectorTable name)
      orShown (command.read disk words) (collector.run environment)
    | none =>
      if resemblesOption name then
        orShown ((front environment.version).readFrom disk read (name :: words))
          fun _ => throw (noSuchCommand name)
      else throw (noSuchCommand name)

/-- Runs the program with the words of its command line. -/
def run (environment : Environment Surroundings) (words : List String) :
    Program Surroundings Unit := do
  if words.isEmpty then throw noArguments
  let command := front environment.version
  orShown (command.readFrom (← get).output.disk command.initial words) fun (read, rest) => do
    if read.detached then Program.ofSurroundings environment.detach
    runCollector environment read rest

/-- The code with which a program ends that failed. -/
def exitCode (failure : Failure) : Nat :=
  if failure.kind.isMisuse then 2 else 1

theorem exitCode_pos (failure : Failure) : 0 < exitCode failure := by
  unfold exitCode
  split <;> decide

end MountCensus.CommandLine
