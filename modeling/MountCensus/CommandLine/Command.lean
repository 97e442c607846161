import MountCensus.CommandLine.Argument
import MountCensus.CommandLine.Words

/-!
Reading the words of a command into its settings. Early options come before the others; among
either, those on the command line come first, in the order of their first mention. What is not on
the command line is taken from the configuration, and what is not there either has its usual value.
-/

set_option autoImplicit false

namespace MountCensus.CommandLine

structure Command (Settings : Type) where
  parameters : List (Parameter Settings)
  /-- Whether options may stand between other words. -/
  mixed : Bool := true
  initial : Settings
  /-- What the configuration holds for the command, as far as it is known by then. -/
  configured : Settings → Option Value

variable {Settings : Type}

/-- The options in the order in which they are looked at. -/
def inOrder (parameters : List (Parameter Settings)) (mentioned : List String) :
    List (Parameter Settings) :=
  let ordered := mentioned.eraseDups.filterMap (fun key => parameters.find? (·.key == key)) ++
    parameters.filter fun parameter => !mentioned.contains parameter.key
  ordered.filter (·.early) ++ ordered.filter fun parameter => !parameter.early

/-- The value that the command line gives for an option. -/
def mentioned? (parameter : Parameter Settings) (mentions : List Mention) : Option Value :=
  match mentions.filter (·.key == parameter.key), parameter.form with
  | [], _ => none
  | _, .switch => some (.bool true)
  | found, .single => found.getLast?.bind (·.value) |>.map .text
  | found, .repeated => some (.list (found.filterMap fun mention => mention.value.map .text))

/-- What the configuration gives for an option. It has to be a table. -/
def configured? (key : String) : Option Value → Except Failure (Option Value)
  | none => .ok none
  | some (.table entries) => .ok (entries.lookup key)
  | some value => .error (noAttribute value "get")

def valueOf (command : Command Settings) (mentions : List Mention) (settings : Settings)
    (parameter : Parameter Settings) : Except Failure Value :=
  match mentioned? parameter mentions with
  | some value => .ok value
  | none => do
    return (← configured? parameter.key (command.configured settings)).getD parameter.usual

/-- One option taken into the settings. -/
def take (command : Command Settings) (disk : Disk) (mentions : List Mention) (settings : Settings)
    (parameter : Parameter Settings) : Except Stop Settings := do
  match ← orStop (valueOf command mentions settings parameter) with
  | .null => return settings
  | value => (parameter.set disk value settings).mapError (·.reported parameter.names)

namespace Command

/-- All options taken into the settings, and the words that belong to none. -/
def readFrom (command : Command Settings) (disk : Disk) (settings : Settings)
    (words : List String) : Except Stop (Settings × List String) := do
  let words ← orStop (Words.read command.parameters command.mixed words)
  let order := inOrder command.parameters (words.mentions.map (·.key))
  return (← order.foldlM (take command disk words.mentions) settings, words.rest)

def unexpected (words : List String) : Failure :=
  ⟨.usage, "Got unexpected extra argument" ++ (if words.length = 1 then "" else "s") ++ " (" ++
    " ".intercalate words ++ ")"⟩

/-- The settings of a command that takes options only. -/
def read (command : Command Settings) (disk : Disk) (words : List String) :
    Except Stop Settings := do
  let (settings, rest) ← command.readFrom disk command.initial words
  if rest.isEmpty then return settings else throw (.failure (unexpected rest))

end Command

/-- An early switch that ends the reading with a text. -/
def noticeParameter (name key text : String) : Parameter Settings where
  names := [name]
  key
  form := .switch
  early := true
  usual := .bool false
  set _ value settings := do
    if ← orStop (readSwitch value) then throw (.notice text) else return settings

theorem mentioned?_nil (parameter : Parameter Settings) : mentioned? parameter [] = none := rfl

theorem configured?_none (key : String) : configured? key none = .ok none := rfl

end MountCensus.CommandLine
