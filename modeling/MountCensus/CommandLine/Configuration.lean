import MountCensus.CommandLine.Command
import MountCensus.Toml.Document

/-!
Configuration files. One table of a file holds values for the options of a command, under their
keys; a file that is not there, or the empty device, holds nothing.
-/

set_option autoImplicit false

namespace MountCensus.CommandLine

abbrev Table := List (String × Value)

/-- A path without empty components and those that stay where they are. -/
def plainPath (path : String) : String :=
  let chars := path.toList
  let slashes := chars.takeWhile (· == '/')
  let start := if slashes.length = 2 then "//" else if slashes.isEmpty then "" else "/"
  let components := (Location.components chars).filter fun c => !(c.isEmpty || c == ".")
  let plain := start ++ "/".intercalate components
  if plain.isEmpty then "." else plain

def emptyDevice : String := "/dev/null"

def tomlFailure (path : String) : Toml.Fault → Failure
  | .invalid => misfit (path ++ " does not contain valid TOML.")
  | .tooManyDigits count => ⟨.value, Text.tooManyDigits count⟩

/-- The named table of a document. -/
def tableOf (name path text : String) : Except Failure Table := do
  let entries ← (Toml.parse text).mapError (tomlFailure path)
  match entries.lookup name with
  | some value => value.entries?
  | none => throw (misfit ("'" ++ name ++ "' is not a top-level table name in " ++ path ++
      ". Valid names: " ++ Text.quotedList (entries.map (·.1))))

/-- The named table of the file at a path, or none if there is no such file. -/
def configurationAt (disk : Disk) (name path : String) : Except Failure (Option Table) :=
  let path := plainPath path
  let location := Location.ofPath path
  if path == emptyDevice then .ok none
  else if disk.isDirectory location then
    .error (Disk.failure "IsADirectoryError" 21 "Is a directory" path)
  else
    match disk.read? location with
    | none => .ok none
    | some text => (tableOf name path text).map some

/-- The option that names the configuration file. The entries of its table outweigh those of a
configuration that has been read before. -/
def configParameter {Settings : Type} (name usual : String) (table : Settings → Option Table)
    (replace : Option Table → Settings → Settings) : Parameter Settings where
  names := ["--config"]
  key := "config"
  form := .single
  early := true
  usual := .text usual
  set disk value settings := do
    let path ← orStop (readFilePath disk value)
    match ← orStop (configurationAt disk name path) with
    | none => return settings
    | some entries => return replace (some (entries ++ (table settings).getD [])) settings

example : plainPath "./a//b/" = "a/b" := by decide +kernel
example : plainPath "" = "." := by decide +kernel

end MountCensus.CommandLine
