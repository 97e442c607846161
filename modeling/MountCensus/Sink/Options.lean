import MountCensus.Text.Search
import MountCensus.Value

/-!
The options of a kind of sink: which names it takes, which of them must be given, and which values
each one admits; and how it is told that options do not fit.
-/

set_option autoImplicit false

namespace MountCensus.Sink

/-- How a parameter gets its value: by its name only, by place as well, or by place only. One that
takes what is left over gets all further values that are given by place, or all other options. -/
inductive ParameterKind where
  | named
  | placed
  | unnamed
  | further
  | other
deriving DecidableEq, Repr

inductive Admitted where
  | anything
  | text
  | integer
  | optionalText
deriving DecidableEq, Repr

structure Parameter where
  name : String
  kind : ParameterKind
  default : Option Value := none
  admitted : Admitted := .anything
deriving Repr

def Parameter.isNamed (parameter : Parameter) : Bool :=
  parameter.kind == .named

/-- Whether the parameter gets its value from the option of its name. -/
def Parameter.hasOption (parameter : Parameter) : Bool :=
  parameter.kind == .named || parameter.kind == .placed

/-- Whether the parameter gets one value, and not all that are left over. -/
def Parameter.isSingle (parameter : Parameter) : Bool :=
  !(parameter.kind == .further || parameter.kind == .other)

def Parameter.isRequired (parameter : Parameter) : Bool :=
  parameter.isSingle && parameter.default.isNone

/-- Ascending order. -/
def sorted (names : List String) : List String :=
  names.mergeSort fun a b => decide (a ≤ b)

/-- The names that can be explained to be valid: those taken by name only. -/
def validNames (parameters : List Parameter) : List String :=
  sorted ((parameters.filter (·.isNamed)).map (·.name))

def requiredNames (parameters : List Parameter) : List String :=
  (parameters.filter fun p => p.isNamed && p.isRequired).map (·.name)

/-- What to say about options that do not fit, given how their refusal was worded; nothing if the
wording does not speak of an unknown option or of a missing one. -/
def explain (refusal sink : String) (parameters : List Parameter) (given : List String) :
    Option String :=
  if Text.mentions refusal "got an unexpected keyword argument" then
    let unknown := sorted (given.filter fun name => !(validNames parameters).contains name)
    some ("Sink '" ++ sink ++ "' got unrecognized options " ++ Text.quotedList unknown ++
      ". Valid options: " ++ Text.quotedList (validNames parameters))
  else if Text.mentions refusal "missing" &&
      Text.mentions refusal "required keyword-only argument" then
    let missing := sorted ((requiredNames parameters).filter fun name => !given.contains name)
    some ("Sink '" ++ sink ++ "' is missing required options " ++ Text.quotedList missing ++ ".")
  else none

/-- Names in a sentence. -/
def listed (names : List String) : String :=
  match (names.map Text.quoted).reverse with
  | [] => ""
  | [name] => name
  | [last, first] => first ++ " and " ++ last
  | last :: more => ", ".intercalate more.reverse ++ ", and " ++ last

def missingText (className kind : String) (names : List String) : String :=
  className ++ ".__init__() missing " ++ toString names.length ++ " required " ++ kind ++
    " argument" ++
    (if names.length = 1 then "" else "s") ++ ": " ++ listed names

/-- The name by which a sink that is being made goes itself. -/
def selfName : String := "self"

/-- What is taken by place only. The sink itself comes first, and is taken so if a parameter is. -/
def unnamedNames (parameters : List Parameter) : List String :=
  match (parameters.filter (·.kind == .unnamed)).map (·.name) with
  | [] => []
  | names => selfName :: names

def hasOption (parameters : List Parameter) (name : String) : Bool :=
  parameters.any fun p => p.hasOption && p.name == name

/-- Whether an option cannot be given by this name. A parameter for all other options takes any
name, but not that of the sink if this has been taken already. -/
def isRefused (parameters : List Parameter) (name : String) : Bool :=
  !hasOption parameters name &&
    (!parameters.any (·.kind == .other) || name == selfName && (unnamedNames parameters).isEmpty)

/-- What is said of the first option that cannot be given, unless some that are taken by place only
have been given as well: then these are told. -/
def refusedText (parameters : List Parameter) (given : List String) (name : String) : String :=
  if name == selfName && (unnamedNames parameters).isEmpty then
    "multiple values for argument '" ++ name ++ "'"
  else
    match (unnamedNames parameters).filter given.contains with
    | [] => "an unexpected keyword argument '" ++ name ++ "'"
    | names => "some positional-only arguments passed as keyword arguments: '" ++
        ", ".intercalate names ++ "'"

/-- The wording of the refusal of the given options, none if they fit. An option that cannot be
given comes first, in the order in which they are given; then what is missing, by place and by
name. -/
def refusal? (className : String) (parameters : List Parameter) (given : List String) :
    Option String :=
  match given.find? (isRefused parameters) with
  | some name => some (className ++ ".__init__() got " ++ refusedText parameters given name)
  | none =>
    let missing := parameters.filter fun p =>
      p.isRequired && !(p.hasOption && given.contains p.name)
    let placed := (missing.filter fun p => !p.isNamed).map (·.name)
    let named := (missing.filter (·.isNamed)).map (·.name)
    if !placed.isEmpty then some (missingText className "positional" placed)
    else if !named.isEmpty then some (missingText className "keyword-only" named)
    else none

def Admitted.admits : Admitted → Value → Bool
  | .anything, _ => true
  | .text, .text _ => true
  | .integer, .int _ => true
  | .integer, .bool _ => true
  | .optionalText, .text _ => true
  | .optionalText, .null => true
  | _, _ => false

def Admitted.complaint : Admitted → String
  | .anything => ""
  | .text => "is not an instance of str"
  | .integer => "is not an instance of int"
  | .optionalText =>
    "did not match any element in the union:\n  str: is not an instance of str\n" ++
      "  NoneType: is not an instance of NoneType"

/-- An argument with a value that is not admitted, or with one that is not in what it holds. -/
def badArgument (name : String) (value : Value) (inside : String) (admitted : Admitted) : Failure :=
  ⟨.argumentType,
    inside ++ "argument \"" ++ name ++ "\" (" ++ value.typeName ++ ") " ++ admitted.complaint⟩

/-- The value of an option, given or by default. -/
def argument (options : List (String × Value)) (parameter : Parameter) : Value :=
  (options.lookup parameter.name).getD (parameter.default.getD .null)

/-- What a parameter gets when a sink is made with options. -/
def valueFor (parameters : List Parameter) (options : List (String × Value))
    (parameter : Parameter) : Value :=
  match parameter.kind with
  | .named | .placed => argument options parameter
  | .unnamed => parameter.default.getD .null
  | .further => .list []
  | .other => .table (options.filter fun option => !hasOption parameters option.1)

/-- Whether a parameter may get a value. Of all other options only the first is looked at. -/
def Parameter.check (parameter : Parameter) (value : Value) : Except Failure Unit :=
  match parameter.kind, value with
  | .further, _ | .other, .table [] => .ok ()
  | .other, .table ((key, first) :: _) =>
    if parameter.admitted.admits first then .ok ()
    else .error (badArgument parameter.name value ("value of key " ++ Text.quoted key ++ " of ")
      parameter.admitted)
  | _, _ =>
    if parameter.admitted.admits value then .ok ()
    else .error (badArgument parameter.name value "" parameter.admitted)

/-- What all parameters get, in their order; the first value that is not admitted is refused. -/
def arguments (parameters : List Parameter) (options : List (String × Value)) :
    Except Failure (List (String × Value)) :=
  parameters.mapM fun parameter => do
    let value := valueFor parameters options parameter
    parameter.check value
    return (parameter.name, value)

theorem refusal?_nil (className : String) : refusal? className [] [] = none := rfl

theorem explain_of_unexpected {refusal sink : String} {parameters : List Parameter}
    {given : List String} (h : Text.mentions refusal "got an unexpected keyword argument") :
    (explain refusal sink parameters given).isSome := by
  simp [explain, h]

end MountCensus.Sink
