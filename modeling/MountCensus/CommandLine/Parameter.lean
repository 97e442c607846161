import MountCensus.Disk
import MountCensus.Value

/-!
The options of a command: the names that stand for them among the words of a command line, their key
in a configuration, and what a value given for them changes in the settings of the command.
-/

set_option autoImplicit false

namespace MountCensus.CommandLine

/-- Why a command is not carried out: something is wrong, or it was only asked to show a text. -/
inductive Stop where
  | failure (cause : Failure)
  | notice (text : String)
deriving DecidableEq, Repr

/-- A switch takes no value, another option takes one. Of a repeated option all values count, of a
single one the last. -/
inductive Form where
  | switch
  | single
  | repeated
deriving DecidableEq, Repr

structure Parameter (Settings : Type) where
  names : List String
  key : String
  form : Form
  /-- Whether the option is looked at before those that are not early. -/
  early : Bool := false
  /-- The value when none is given. -/
  usual : Value
  set : Disk → Value → Settings → Except Stop Settings

/-- A value that an option does not admit. -/
def misfit (text : String) : Failure :=
  ⟨.badParameter, text⟩

/-- A misfit as it is reported, with the names of its option if it was given for one. -/
def reported (names : List String) (failure : Failure) : Failure :=
  if failure.kind = .badParameter then
    let place := if names.isEmpty then ""
      else " for " ++ " / ".intercalate (names.map fun name => "'" ++ name ++ "'")
    misfit ("Invalid value" ++ place ++ ": " ++ failure.text)
  else failure

def Stop.reported (names : List String) : Stop → Stop
  | .failure cause => .failure (CommandLine.reported names cause)
  | .notice text => .notice text

/-- A step of reading that can fail, as a step of a command. -/
def orStop {α : Type} (result : Except Failure α) : Except Stop α :=
  result.mapError .failure

namespace Parameter

variable {Settings : Type}

def takesValue (parameter : Parameter Settings) : Bool :=
  parameter.form != .switch

/-- An option whose value is read in one way and put in one place. -/
def ofReader {α : Type} (names : List String) (key : String) (form : Form) (usual : Value)
    (read : Disk → Value → Except Failure α) (put : α → Settings → Settings) :
    Parameter Settings where
  names
  key
  form
  usual
  set disk value settings := do return put (← orStop (read disk value)) settings

/-- The option of a part of the settings as an option of the whole. -/
def within {Whole : Type} (part : Whole → Settings) (replace : Settings → Whole → Whole)
    (parameter : Parameter Settings) : Parameter Whole where
  names := parameter.names
  key := parameter.key
  form := parameter.form
  early := parameter.early
  usual := parameter.usual
  set disk value whole := do return replace (← parameter.set disk value (part whole)) whole

theorem within_id (parameter : Parameter Settings) :
    parameter.within id (fun settings _ => settings) = parameter := by
  cases parameter
  simp [within]

end Parameter

theorem reported_of_ne {failure : Failure} (h : failure.kind ≠ .badParameter)
    (names : List String) : reported names failure = failure := by
  simp [reported, h]

end MountCensus.CommandLine
