import MountCensus.CommandLine.Parameter
import MountCensus.Log.Level
import MountCensus.Text.Case

/-!
How the values of options are read. On a command line every value is a text; a configuration may
hold any value, and what is no text is taken as far as its type goes.
-/

set_option autoImplicit false

namespace MountCensus.CommandLine

def noAttribute (value : Value) (name : String) : Failure :=
  ⟨.attribute, Text.quoted value.className ++ " object has no attribute " ++ Text.quoted name⟩

def noNumber (value : Value) : Failure :=
  ⟨.type, "int() argument must be a string, a bytes-like object or a real number, not " ++
    Text.quoted value.className⟩

def notIndexable (typeName : String) : Failure :=
  ⟨.type, Text.quoted typeName ++ " object is not subscriptable"⟩

/-- The words for a switch, in order. -/
def switchWords : List (String × Bool) := [
  ("", false), ("0", false), ("1", true), ("f", false), ("false", false), ("n", false),
  ("no", false), ("off", false), ("on", true), ("t", true), ("true", true), ("y", true),
  ("yes", true)]

def readSwitch (value : Value) : Except Failure Bool :=
  match value with
  | .bool b => .ok b
  | .text s =>
    match switchWords.lookup (String.ofList ((Text.strip s.toList).map Text.smallLetter)) with
    | some b => .ok b
    | none => .error (misfit (value.shown ++ " is not a valid boolean. Recognized values: " ++
        ", ".intercalate (switchWords.map (·.1))))
  | _ => .error (noAttribute value "strip")

/-- A whole number, which a message calls by the given name. -/
def readWhole (name : String) (value : Value) : Except Failure Int :=
  match value with
  | .null | .moment _ | .list _ | .table _ => .error (noNumber value)
  | _ => do
    let some n ← value.integer? | throw (misfit (value.shown ++ " is not a valid " ++ name ++ "."))
    return n

def readInteger (value : Value) : Except Failure Int :=
  readWhole "integer" value

/-- A whole number that is not negative. -/
def readCount (value : Value) : Except Failure Int := do
  let n ← readWhole "integer range" value
  if n < 0 then throw (misfit (toString n ++ " is not in the range x>=0."))
  return n

/-- Symbols for powers of ten, and what they stand for. -/
def sizeSymbols : List (String × Int) := [("k", 1000), ("M", 1000000)]

def unknownSymbol (symbol : String) : Failure :=
  misfit ("Unrecognized SI symbol '" ++ symbol ++ "'. Allowed symbols are: " ++
    ", ".intercalate (sizeSymbols.map (·.1)))

def readSizeText (text : String) : Except Failure Int :=
  let whole (number : List Char) (factor : Int) : Except Failure Int :=
    match Text.integer? (String.ofList number) with
    | some n => .ok (n * factor)
    | none => .error (misfit (Text.quoted text ++ " is not a valid integer"))
  let chars := text.toList
  match chars.getLast? with
  | none => whole chars 1
  | some last =>
    if Text.isDigitSign last then whole chars 1
    else
      let symbol := String.singleton last
      match sizeSymbols.lookup symbol with
      | some factor => whole chars.dropLast factor
      | none => .error (unknownSymbol symbol)

/-- A size in bytes, a number that a symbol may follow. Nothing but a text is read this way; the
last part of any other collection is taken for its symbol, which never leads to a number. -/
def readSize (value : Value) : Except Failure Int :=
  match value with
  | .bool b => .ok (if b then 1 else 0)
  | .int n => .ok n
  | .text s => readSizeText s
  | .float (.finite _ 0 _) => .ok 0
  | .float _ => .error (notIndexable "float")
  | .moment m => .error (notIndexable m.typeName)
  | .table (_ :: _) => .error ⟨.key, "-1"⟩
  | .list items =>
    match items.getLast? with
    | some (.text s) =>
      if (!s.isEmpty && s.toList.all Text.isDigitSign) || (sizeSymbols.lookup s).isSome then
        .error (noNumber value)
      else .error (unknownSymbol s)
    | some last => .error (noAttribute last "isdigit")
    | none => .error (noNumber value)
  | .null | .table [] => .error (noNumber value)

def readText (value : Value) : Except Failure String :=
  .ok value.asText

def readLevel (value : Value) : Except Failure Log.Level :=
  match Log.Level.ofName? value.asText with
  | some level => .ok level
  | none => .error (misfit (value.shown ++ " is not one of " ++
      ", ".intercalate (Log.Level.all.map fun level => Text.quoted level.name) ++ "."))

/-- The texts given for a repeated option; of a table its keys are taken. -/
def readTexts (value : Value) : Except Failure (List String) :=
  match value with
  | .list items => .ok (items.map Value.asText)
  | .table entries => .ok (entries.map (·.1))
  | _ => .error (misfit "Value must be an iterable.")

/-- The largest number of an open file. -/
def greatestFileNumber : Int := 2147483647

/-- What can be asked for as a path: a text without a null character, or the number of an open file.
-/
def checkPath (value : Value) : Except Failure Unit :=
  match value with
  | .text s => if s.toList.contains '\x00' then .error Disk.nulByte else .ok ()
  | .bool _ => .ok ()
  | .int n =>
    if greatestFileNumber < n then .error ⟨.overflow, "fd is greater than maximum"⟩
    else if n < -greatestFileNumber - 1 then .error ⟨.overflow, "fd is less than minimum"⟩
    else .ok ()
  | _ => .error ⟨.type, "stat: path should be string, bytes, os.PathLike or integer, not " ++
      String.ofList (Text.afterLast '.' value.className.toList)⟩

/-- A path at which there may be a directory but no file. -/
def readDirectory (disk : Disk) (value : Value) : Except Failure Value := do
  checkPath value
  if let .text path := value then
    if disk.hasFileAt path then throw (misfit ("Directory " ++ Text.quoted path ++ " is a file."))
  return value

/-- A path at which there may be a file but no directory. -/
def readFilePath (disk : Disk) (value : Value) : Except Failure String := do
  checkPath value
  if disk.hasDirectoryAt value.asText then
    throw (misfit ("File " ++ Text.quoted value.asText ++ " is a directory."))
  return value.asText

theorem readSize_int (n : Int) : readSize (.int n) = .ok n := rfl

theorem readCount_nonneg {value : Value} {n : Int} (h : readCount value = .ok n) : 0 ≤ n := by
  unfold readCount at h
  cases hw : readWhole "integer range" value with
  | error failure => simp [hw, bind, Except.bind] at h
  | ok m =>
    by_cases hm : m < 0
    · simp [hw, hm, bind, Except.bind, throw, throwThe, MonadExceptOf.throw] at h
    · simp [hw, hm, bind, Except.bind, pure, Except.pure] at h
      omega

end MountCensus.CommandLine
