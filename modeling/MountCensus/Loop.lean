import MountCensus.Number.Reading
import MountCensus.Sink.Registry

/-!
The loop of a collector: in each round every task is collected and its records are delivered, then
the loop sleeps for what is left of its interval. A collection or a delivery attempt that fails is
entered in the log of the collector and passed over; a delivery that fails as a whole ends the loop.
-/

set_option autoImplicit false

namespace MountCensus

/-- What a loop needs of its surroundings: a clock, and pauses between delivery attempts. -/
structure Clock (Surroundings : Type) where
  monotonic : Act Surroundings Reading
  unixTime : Act Surroundings Int
  sleep : Reading → Act Surroundings Unit

/-- Something to be collected. A collection that answers nothing is left out of its round. -/
structure Task (Surroundings : Type) where
  collect : Program Surroundings (Option (List Record))
  label : Label

namespace Loop

structure Settings where
  logger : String
  logFolder : String
  onConsole : Bool
  level : Log.Level
  once : Bool
  interval : Int
  sink : String
  sinkSettings : List String
  chunkSize : Int
  retries : Int
  dryRun : Bool
deriving DecidableEq, Repr

variable {Surroundings : Type}

/-- How a run of rounds ended: by itself, or because no more rounds were asked for. -/
inductive Ending where
  | finished
  | cutOff
deriving DecidableEq, Repr

def note (settings : Settings) (level : Log.Level) (text : String) : Program Surroundings Unit :=
  Program.log settings.logger { level, text }

def debug (settings : Settings) (text : String) : Program Surroundings Unit :=
  note settings .debug text

/-- The sink that a loop delivers to; a dry run prints instead. -/
def Settings.sinkName (settings : Settings) : String :=
  if settings.dryRun then "stdout" else settings.sink

def loggerSetup (settings : Settings) : Log.Setup where
  name := settings.logger
  directory := Log.joinPath settings.logFolder (settings.logger ++ "_logs")
  fileName := settings.logger ++ ".log"
  level := settings.level
  onConsole := settings.onConsole

/-- One attempt to write a batch. Its failure is entered in the log. -/
def attempt (settings : Settings) (sink : Sink Surroundings) (label : Label) (batch : Batch) :
    Program Surroundings Unit := do
  let _ ← Program.logged settings.logger (sink batch label)

/-- One task of a round that started at the given time. -/
def runTask (settings : Settings) (pauseFor : Int → Act Surroundings Unit)
    (sink : Sink Surroundings) (time : Int) (task : Task Surroundings) :
    Program Surroundings Unit := do
  match (← Program.logged settings.logger task.collect).join with
  | none => note settings .warning ("could not collect " ++ settings.logger ++ " data")
  | some records =>
    debug settings ("will write " ++ settings.logger ++ " data to sink " ++ settings.sinkName)
    Delivery.deliver (attempt settings sink task.label)
      (fun seconds => Program.ofSurroundings (pauseFor seconds))
      settings.sinkName settings.chunkSize settings.retries time records
    debug settings
      ("succeeded writing " ++ settings.logger ++ " data to sink " ++ settings.sinkName)

def runTasks (settings : Settings) (pauseFor : Int → Act Surroundings Unit)
    (sink : Sink Surroundings) (time : Int) : List (Task Surroundings) → Program Surroundings Unit
  | [] => pure ()
  | task :: rest => do
    runTask settings pauseFor sink time task
    runTasks settings pauseFor sink time rest

/-- What is left of the interval when a round has taken the given time. -/
def remaining (interval : Int) (taken : Reading) : Reading :=
  ((Reading.whole interval).sub taken).positivePart

/-- At most the given number of rounds. -/
def rounds (settings : Settings) (clock : Clock Surroundings)
    (pauseFor : Int → Act Surroundings Unit) (sink : Sink Surroundings)
    (tasks : List (Task Surroundings)) : Nat → Program Surroundings Ending
  | 0 => return .cutOff
  | more + 1 => do
    debug settings ("starting new data collection for " ++ settings.logger)
    let started ← Program.ofSurroundings clock.monotonic
    let time ← Program.ofSurroundings clock.unixTime
    runTasks settings pauseFor sink time tasks
    if settings.once then
      debug settings "stopping data collection due to `--once`"
      return .finished
    let taken := (← Program.ofSurroundings clock.monotonic).sub started
    let rest := remaining settings.interval taken
    debug settings ("last data collection took " ++ toString taken.truncate ++ " seconds")
    debug settings
      ("will sleep " ++ toString rest.truncate ++ " seconds before starting next collection")
    Program.ofSurroundings (clock.sleep rest)
    rounds settings clock pauseFor sink tasks more

/-- The loop, for at most the given number of rounds. -/
def run (settings : Settings) (registry : Sink.Registry Surroundings) (clock : Clock Surroundings)
    (pauseFor : Int → Act Surroundings Unit) (tasks : List (Task Surroundings)) (limit : Nat) :
    Program Surroundings Ending := do
  Program.setUpLogger (loggerSetup settings)
  if settings.dryRun then debug settings "this is a `--dry-run`, will print data to stdout"
  let sink ← registry.open' settings.sinkName settings.sinkSettings
  debug settings ("will log data to " ++ settings.sinkName)
  rounds settings clock pauseFor sink tasks limit

theorem rounds_zero (settings : Settings) (clock : Clock Surroundings)
    (pauseFor : Int → Act Surroundings Unit) (sink : Sink Surroundings)
    (tasks : List (Task Surroundings)) :
    rounds settings clock pauseFor sink tasks 0 = pure .cutOff := rfl

theorem remaining_whole (interval n : Int) :
    remaining interval (.whole n) = .whole (max 0 (interval - n)) := rfl

end Loop

end MountCensus
