/-!
Levels of log entries, in order of weight.
-/

set_option autoImplicit false

namespace MountCensus.Log

inductive Level where
  | debug
  | info
  | warning
  | error
  | critical
deriving DecidableEq, Repr

def Level.weight : Level → Nat
  | .debug => 10
  | .info => 20
  | .warning => 30
  | .error => 40
  | .critical => 50

def Level.name : Level → String
  | .debug => "DEBUG"
  | .info => "INFO"
  | .warning => "WARNING"
  | .error => "ERROR"
  | .critical => "CRITICAL"

def Level.all : List Level := [.debug, .info, .warning, .error, .critical]

def Level.ofName? (name : String) : Option Level :=
  Level.all.find? (·.name == name)

theorem Level.ofName?_name (level : Level) : Level.ofName? level.name = some level := by
  cases level <;> decide

end MountCensus.Log
