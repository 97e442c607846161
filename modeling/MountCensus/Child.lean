import MountCensus.Failure
import MountCensus.Text.Lines
import MountCensus.Text.Utf8

/-!
What comes of running a command, and reading lines from what it has printed. A command that exits
with an error counts by its output all the same.
-/

set_option autoImplicit false

namespace MountCensus

inductive Child where
  | notFound
  | tooSlow
  | printed (bytes : List Nat)
deriving DecidableEq, Repr

namespace Child

def undecodable (fault : Text.Utf8.Fault) : Failure :=
  ⟨.undecodable, fault.message⟩

/-- The lines of a text given as bytes. -/
def linesOf (bytes : List Nat) : Except Failure (List String) :=
  match Text.Utf8.decode bytes with
  | .ok text => .ok ((Text.lines (Text.unifyLineEnds text)).map String.ofList)
  | .error fault => .error (undecodable fault)

def notFoundFailure (command searchPath : String) : Failure :=
  ⟨.runtime, "Could not find executable '" ++ command ++ "'. Current PATH: " ++ searchPath⟩

def timedOut (words : List String) (seconds : Int) : Failure :=
  ⟨.timeout, "Command '" ++ Text.quotedList words ++ "' timed out after " ++ toString seconds ++
    " seconds"⟩

/-- The lines that a command has printed. -/
def lines (words : List String) (searchPath : String) (timeout : Int) :
    Child → Except Failure (List String)
  | .notFound => .error (notFoundFailure (words.headD "") searchPath)
  | .tooSlow => .error (timedOut words timeout)
  | .printed bytes => linesOf bytes

/-- The first of the lines in a text given as bytes, empty if there is none. -/
def firstLineOf (bytes : List Nat) : Except Failure String :=
  (linesOf bytes).map (·.headD "")

/-- The lines of a file, none if it cannot be read. -/
def fileLines (bytes : Option (List Nat)) : Except Failure (List String) :=
  match bytes with
  | some bytes => linesOf bytes
  | none => .ok []

theorem fileLines_none : fileLines none = .ok [] := rfl

theorem lines_printed (words : List String) (searchPath : String) (timeout : Int)
    (bytes : List Nat) : lines words searchPath timeout (.printed bytes) = linesOf bytes := rfl

end Child

end MountCensus
