import MountCensus.Log.Handler

/-!
Loggers are known by name to the whole program, and dots in a name place it below others: an entry
that is heavy enough for its logger goes to the handlers of that logger and of all those above it,
up to one that keeps its entries to itself. An entry without a handler leaves nothing behind.
Setting a logger up again adds to what it has.
-/

set_option autoImplicit false

namespace MountCensus.Log

structure Logger where
  level : Option Level := none
  handlers : List Handler := []
  isolated : Bool := false
deriving DecidableEq, Repr

abbrev Loggers := List (String × Logger)

def rootName : String := "root"

/-- Without a name the uppermost logger is meant. -/
def properName (name : String) : String :=
  if name.isEmpty then rootName else name

/-- The names above a name, nearest first, given the name reversed. -/
def namesAbove : List Char → List String
  | [] => []
  | c :: rest =>
    if c = '.' then String.ofList rest.reverse :: namesAbove rest else namesAbove rest

/-- A name and all those above it. -/
def chain (name : String) : List String :=
  let name := properName name
  if name == rootName then [rootName] else name :: namesAbove name.toList.reverse ++ [rootName]

namespace Loggers

def get (loggers : Loggers) (name : String) : Logger :=
  (loggers.lookup (properName name)).getD {}

def update (loggers : Loggers) (name : String) (change : Logger → Logger) : Loggers :=
  let name := properName name
  match loggers with
  | [] => [(name, change {})]
  | (other, logger) :: rest =>
    if other = name then (name, change logger) :: rest
    else (other, logger) :: update rest name change

/-- The level of a logger is that of the nearest logger above it that has one. -/
def level (loggers : Loggers) (name : String) : Level :=
  ((chain name).findSome? fun above => (loggers.get above).level).getD .warning

/-- The loggers whose handlers get the entries of a logger. -/
def reached (loggers : Loggers) : List String → List String
  | [] => []
  | name :: above =>
    if (loggers.get name).isolated then [name] else name :: reached loggers above

def writeAll (logger : String) (entry : Entry) :
    List Handler → Output → List Handler × Output
  | [], output => ([], output)
  | handler :: rest, output =>
    let (handler, output) := handler.write output (handler.line logger entry)
    let (rest, output) := writeAll logger entry rest output
    (handler :: rest, output)

/-- An entry of one logger, written by the handlers of the reached ones. -/
def writeReached (logger : String) (entry : Entry) :
    List String → Loggers → Output → Loggers × Output
  | [], loggers, output => (loggers, output)
  | name :: more, loggers, output =>
    let (handlers, output) := writeAll logger entry (loggers.get name).handlers output
    writeReached logger entry more (loggers.update name ({ · with handlers })) output

def log (loggers : Loggers) (output : Output) (name : String) (entry : Entry) : Loggers × Output :=
  if (loggers.level name).weight ≤ entry.level.weight then
    writeReached (properName name) entry (loggers.reached (chain name)) loggers output
  else (loggers, output)

end Loggers

/-- How a logger is set up: where its entries go, from which level on, and in which form. -/
structure Setup where
  name : String
  directory : String
  fileName : String
  level : Level := .info
  detailed : Bool := true
  limit : Int := 1048576
  kept : Int := 2
  onConsole : Bool := false
deriving DecidableEq, Repr

/-- A directory and what lies in it; a path from the root stands for itself. -/
def joinPath (directory path : String) : String :=
  if path.startsWith "/" || directory.isEmpty then path
  else if directory.endsWith "/" then directory ++ path
  else directory ++ "/" ++ path

def directoryOf (path : String) : String :=
  String.ofList (Disk.splitLast path.toList).1

def baseName (path : String) : String :=
  String.ofList (Disk.splitLast path.toList).2

namespace Setup

def path (setup : Setup) : String :=
  joinPath setup.directory setup.fileName

/-- The handler to add, with the directory and the file made if they are missing. -/
def handler (setup : Setup) (output : Output) : Except Failure Handler × Output :=
  if setup.onConsole then (.ok ⟨.console, setup.detailed⟩, output)
  else
    let directory := directoryOf setup.path
    match output.disk.makeDirectories (if directory.isEmpty then "." else directory) with
    | .error failure => (.error failure, output)
    | .ok disk =>
      match disk.openAtEnd setup.path with
      | .error failure => (.error failure, { output with disk })
      | .ok (disk, file) =>
        let rotation := ⟨.ofPath setup.path, some file, setup.limit, setup.kept.toNat⟩
        (.ok ⟨.file rotation, setup.detailed⟩, { output with disk })

/-- The level is set even if the handler cannot be added. -/
def apply (setup : Setup) (loggers : Loggers) (output : Output) :
    Except Failure Unit × Loggers × Output :=
  let loggers := loggers.update setup.name ({ · with level := some setup.level })
  match setup.handler output with
  | (.error failure, output) => (.error failure, loggers, output)
  | (.ok handler, output) =>
    let loggers := loggers.update setup.name fun logger =>
      { logger with handlers := logger.handlers ++ [handler] }
    (.ok (), loggers, output)

end Setup

theorem chain_root : chain "" = [rootName] := by decide

theorem Loggers.reached_of_isolated {loggers : Loggers} {name : String} {above : List String}
    (h : (loggers.get name).isolated) : loggers.reached (name :: above) = [name] := by
  simp [reached, h]

end MountCensus.Log
