import MountCensus.Sink.Registry

/-!
The sinks that come with the program: one prints each batch as a Json list, one appends each record
as a line to a file, and one does nothing. The file sink may have files of its own for some kinds of
records; all others go to its general file.
-/

set_option autoImplicit false

namespace MountCensus.Sink

variable {Surroundings : Type}

/-- The package of the shipped sinks. -/
def home : String := "fsmon.exporters"

def typeName : DataType → String
  | .log => "DataType.LOG"
  | .metric => "DataType.METRIC"

def identifierName : DataIdentifier → String
  | .fileStore => "DataIdentifier.FILE_STORE"
  | .fileDescriptors => "DataIdentifier.FILE_DESCRIPTORS"
  | .generic => "DataIdentifier.GENERIC"

/-- A choice as it is shown, by its name and its number. -/
def shownChoice (choice : Option (String × Nat)) : String :=
  match choice with
  | some (name, number) => "<" ++ name ++ ": " ++ toString number ++ ">"
  | none => "None"

/-- What a sink is told about a batch, as it is shown. -/
def shownLabel (label : Label) : String :=
  let type := label.type.map fun type => (typeName type, type.ctorIdx + 1)
  let identifier := label.identifier.map fun identifier =>
    (identifierName identifier, identifier.ctorIdx + 1)
  "SinkAdditionalParams(data_type=" ++ shownChoice type ++ ", data_identifier=" ++
    shownChoice identifier ++ ")"

/-- A warning for a batch of no type. -/
def warnUntyped (label : Label) : Program Surroundings Unit :=
  if label.type.isSome then pure ()
  else Program.log (home ++ ".stdout") {
    level := .warning
    text := "Stdout writes expect data_type to be specified: " ++ shownLabel label }

def printed : Sink Surroundings := fun batch label => do
  warnUntyped label
  let text ← Record.writeList Json.spaced batch.records
  Program.print (text ++ "\n")

def nothing : Sink Surroundings := fun _ _ => pure ()

/-- The paths of a file sink. -/
structure FilePaths where
  general : Option String := none
  stores : Option String := none
  descriptors : Option String := none
deriving DecidableEq, Repr

namespace FilePaths

def all (paths : FilePaths) : List String :=
  paths.general.toList ++ paths.stores.toList ++ paths.descriptors.toList

def own? (paths : FilePaths) : DataIdentifier → Option String
  | .generic => paths.general
  | .fileStore => paths.stores
  | .fileDescriptors => paths.descriptors

/-- The file for records of a kind, its own one or the general one. -/
def route? (paths : FilePaths) (identifier : DataIdentifier) : Option String :=
  (paths.own? identifier).or paths.general

theorem route?_generic (paths : FilePaths) : paths.route? .generic = paths.general := by
  simp [route?, own?]

end FilePaths

def noPath : Failure :=
  ⟨.value, "When using the file sink at least one file_path needs to be specified. " ++
    "See fsmon %collector% --help"⟩

def noRoute (identifier : DataIdentifier) : Failure :=
  ⟨.assertion, "The file sink has no file for " ++ identifierName identifier ++
    ". Pass file_path or the specific path option."⟩

/-- The logger that writes to the file at a path. -/
def fileLogger (path : String) : String :=
  home ++ ".file" ++ path

def openFile (path : String) : Program Surroundings Unit := do
  Program.setUpLogger {
    name := fileLogger path
    directory := Log.directoryOf path
    fileName := Log.baseName path
    detailed := false }
  Program.isolateLogger (fileLogger path)

/-- One line for each record, until one of them cannot be written. -/
def writeLines (path : String) : List Record → Program Surroundings Unit
  | [] => pure ()
  | record :: rest => do
    let line ← record.write Json.spaced
    Program.log (fileLogger path) { level := .info, text := line }
    writeLines path rest

def file (paths : FilePaths) : Sink Surroundings := fun batch label =>
  let identifier := label.identifier.getD .generic
  match paths.route? identifier with
  | some path => writeLines path batch.records
  | none => throw (noRoute identifier)

/-- A file sink with its files opened. -/
def openFiles (paths : FilePaths) : Program Surroundings (Sink Surroundings) := do
  if paths.all.isEmpty then throw noPath
  paths.all.forM openFile
  return file paths

def textOf? (arguments : List (String × Value)) (name : String) : Option String :=
  match arguments.lookup name with
  | some (.text s) => some s
  | _ => none

def printedKind : Kind Surroundings :=
  ⟨"Stdout", home ++ ".stdout", none, fun _ => return some printed⟩

def nothingKind : Kind Surroundings :=
  ⟨"DoNothing", home ++ ".do_nothing", none, fun _ => return some nothing⟩

def pathParameter (name : String) : Parameter :=
  ⟨name, .named, some .null, .optionalText⟩

def fileKind : Kind Surroundings where
  className := "File"
  home := home ++ ".file"
  signature := some [pathParameter "file_path", pathParameter "file_store_file_path",
    pathParameter "file_descriptors_file_path"]
  make arguments := some <$> openFiles {
    general := textOf? arguments "file_path"
    stores := textOf? arguments "file_store_file_path"
    descriptors := textOf? arguments "file_descriptors_file_path" }

def shipped : Registry Surroundings := [
  ("stdout", printedKind), ("file", fileKind), ("do_nothing", nothingKind)]

end MountCensus.Sink
