import MountCensus.Text.Blank
import MountCensus.Usage

/-!
Counts and limits of open files: the rows of a listing below its header, the answer of a shell, and
the setting in a file of limits.
-/

set_option autoImplicit false

namespace MountCensus.Descriptors

/-- The limit that stands for having none. -/
def unlimited : Int := 9223372036854775807

def listCommand : List String := ["lsof", "-nl"]

def limitCommand : String := "ulimit -n"

def limitsPath : String := "/etc/security/limits"

def headerMark : List Char := "COMMAND".toList

def settingMark : List Char := "nofiles".toList

/-- The number of rows below the first header; none without one. -/
def countOpen (lines : List String) : Nat :=
  (lines.dropWhile fun line => !headerMark.isPrefixOf line.toList).length - 1

/-- A shell's answer; anything but a number is zero. -/
def limit (answer : String) : Int :=
  Text.integerOr 0 (Text.stripped answer)

/-- The last column of a line as an integer, hexadecimal or decimal. -/
def lastInteger (default : Int) (line : String) : Int :=
  match (Text.fields line.toList).getLast? with
  | none => default
  | some word =>
    if Text.hasHexMark word then ((Text.hexadecimal? word).map Int.ofNat).getD default
    else Text.integerOr default (String.ofList word)

/-- The setting for one process; there is no limit if it is missing or no number. -/
def limitPerProcess (lines : List String) : Int :=
  match lines.find? fun line => settingMark.isPrefixOf (Text.strip line.toList) with
  | some line => lastInteger unlimited line
  | none => unlimited

theorem countOpen_nil : countOpen [] = 0 := rfl

theorem countOpen_le (lines : List String) : countOpen lines ≤ lines.length := by
  unfold countOpen
  have := (List.dropWhile_sublist (l := lines)
    fun line => !headerMark.isPrefixOf line.toList).length_le
  omega

end MountCensus.Descriptors
