import MountCensus.CommandLine.Parameter

/-!
The words of a command line. A long name stands for one option and may have its value behind an
equals sign; behind a single dash several switches may stand together, and the last of them may be
an option with its value. Two dashes by themselves end the options.
-/

set_option autoImplicit false

namespace MountCensus.CommandLine

/-- An option that stands on the command line, with its value if it takes one. -/
structure Mention where
  key : String
  value : Option String := none
deriving DecidableEq, Repr

/-- The options on a command line, in order, and the words that are none. -/
structure Words where
  mentions : List Mention := []
  rest : List String := []
deriving DecidableEq, Repr

/-- An option that takes the next word for its value: its name and its key. -/
structure Waiting where
  name : String
  key : String
deriving DecidableEq, Repr

/-- What a single word says. -/
structure Said where
  mentions : List Mention := []
  waiting : Option Waiting := none
deriving DecidableEq, Repr

def noSuchOption (name : String) : Failure :=
  ⟨.noSuchOption, "No such option " ++ Text.quoted name ++ "."⟩

def needsValue (name : String) : Failure :=
  ⟨.optionUsage, "Option " ++ Text.quoted name ++ " requires an argument."⟩

def takesNoValue (name : String) : Failure :=
  ⟨.optionUsage, "Option " ++ Text.quoted name ++ " does not take a value."⟩

variable {Settings : Type}

def named? (parameters : List (Parameter Settings)) (name : String) : Option (Parameter Settings) :=
  parameters.find? (·.names.contains name)

/-- The letters behind a single dash. -/
def ofLetters (parameters : List (Parameter Settings)) : List Char → Except Failure Said
  | [] => .ok {}
  | c :: rest => do
    let name := String.ofList ['-', c]
    let some parameter := named? parameters name | throw (noSuchOption name)
    if parameter.takesValue then
      if rest.isEmpty then return { waiting := some ⟨name, parameter.key⟩ }
      else return { mentions := [⟨parameter.key, some (String.ofList rest)⟩] }
    else
      let said ← ofLetters parameters rest
      return { said with mentions := ⟨parameter.key, none⟩ :: said.mentions }

/-- A name and what stands behind the first equals sign. -/
def splitValue (word : List Char) : String × Option String :=
  let name := word.takeWhile (· != '=')
  (String.ofList name, (word.drop name.length).tail?.map String.ofList)

def isLong (name : String) : Bool :=
  name.startsWith "--"

/-- A word that begins with a dash. -/
def ofOption (parameters : List (Parameter Settings)) (word : String) : Except Failure Said :=
  let (name, value) := splitValue word.toList
  match if isLong name then named? parameters name else none, value with
  | some parameter, some value =>
    if parameter.takesValue then .ok { mentions := [⟨parameter.key, some value⟩] }
    else .error (takesNoValue name)
  | some parameter, none =>
    if parameter.takesValue then .ok { waiting := some ⟨name, parameter.key⟩ }
    else .ok { mentions := [⟨parameter.key, none⟩] }
  | none, _ =>
    if isLong word then .error (noSuchOption name) else ofLetters parameters (word.toList.drop 1)

/-- Whether a word is read as options. A dash by itself is not. -/
def isOption (word : String) : Bool :=
  match word.toList with
  | '-' :: _ :: _ => true
  | _ => false

namespace Words

def precededBy (mentions : List Mention) (words : Words) : Words :=
  { words with mentions := mentions ++ words.mentions }

def precededByWord (word : String) (words : Words) : Words :=
  { words with rest := word :: words.rest }

/-- The words behind those that have been read, the last of which may be an option that waits for
its value. Where options may not stand between other words, the first other word ends them. -/
def readBehind (parameters : List (Parameter Settings)) (mixed : Bool) :
    Option Waiting → List String → Except Failure Words
  | none, [] => .ok {}
  | some option, [] => .error (needsValue option.name)
  | some option, value :: rest =>
    (readBehind parameters mixed none rest).map (precededBy [⟨option.key, some value⟩])
  | none, word :: rest =>
    if word == "--" then .ok { rest }
    else if isOption word then
      match ofOption parameters word with
      | .error failure => .error failure
      | .ok said => (readBehind parameters mixed said.waiting rest).map (precededBy said.mentions)
    else if mixed then (readBehind parameters mixed none rest).map (precededByWord word)
    else .ok { rest := word :: rest }

def read (parameters : List (Parameter Settings)) (mixed : Bool) (words : List String) :
    Except Failure Words :=
  readBehind parameters mixed none words

theorem read_dashes (parameters : List (Parameter Settings)) (mixed : Bool) (rest : List String) :
    read parameters mixed ("--" :: rest) = .ok ⟨[], rest⟩ := rfl

end Words

end MountCensus.CommandLine
