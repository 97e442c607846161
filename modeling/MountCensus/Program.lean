import MountCensus.Act
import MountCensus.Log.Logger

/-!
The world of a running program: what it has left behind, its loggers, and whatever else its
surroundings keep track of.
-/

set_option autoImplicit false

namespace MountCensus

structure World (Surroundings : Type) where
  output : Output := {}
  loggers : Log.Loggers := []
  surroundings : Surroundings

abbrev Program (Surroundings α : Type) := Act (World Surroundings) α

namespace Program

variable {Surroundings : Type}

/-- What the surroundings do, in a program. -/
def ofSurroundings {α : Type} (act : Act Surroundings α) : Program Surroundings α :=
  Act.ofOutcome fun world =>
    let (result, surroundings) := act.outcome world.surroundings
    (result, { world with surroundings })

def print (text : String) : Program Surroundings Unit :=
  modify fun world => { world with output := world.output.print text }

/-- An entry in the log of the given logger. -/
def log (logger : String) (entry : Log.Entry) : Program Surroundings Unit :=
  modify fun world =>
    let (loggers, output) := world.loggers.log world.output logger entry
    { world with loggers, output }

def setUpLogger (setup : Log.Setup) : Program Surroundings Unit :=
  Act.ofOutcome fun world =>
    let (result, loggers, output) := setup.apply world.loggers world.output
    (result, { world with loggers, output })

/-- Keeps the entries of a logger from those above it. -/
def isolateLogger (logger : String) : Program Surroundings Unit :=
  modify fun world =>
    { world with loggers := world.loggers.update logger ({ · with isolated := true }) }

/-- An action whose failure is entered in a log and otherwise passed over. -/
def logged {α : Type} (logger : String) (act : Program Surroundings α) :
    Program Surroundings (Option α) :=
  Act.onFailure (some <$> act) fun failure => do
    log logger ⟨.error, "An exception occurred", some failure⟩
    return none

end Program

end MountCensus
