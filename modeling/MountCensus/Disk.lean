import MountCensus.Failure
import MountCensus.Text.Search

/-!
The files that a program leaves behind. A file is known by a number, and names lead to it: who has
opened it goes on writing to it when it is given another name. A directory that is given another
name takes along what lies in it. Paths are resolved by their text; the directories that a path goes
through have to be there. A path from the root never leads to where one from the working directory
does.
-/

set_option autoImplicit false

namespace MountCensus

/-- The way to a file or directory from a starting point, which comes first: the root, the working
directory, or a directory above it. -/
abbrev Location := List String

namespace Location

/-- One more component of a path, the location reversed. -/
def enter (reversed : List String) (component : String) : List String :=
  if component.isEmpty || component == "." then reversed
  else if component == ".." then
    match reversed with
    | ["/"] => ["/"]
    | ["."] => [".."]
    | ".." :: _ => ".." :: reversed
    | _ :: above => above
    | [] => []
  else component :: reversed

def components (path : List Char) : List String :=
  (path.splitOnP (· == '/')).map String.ofList

/-- The starting point of a path. -/
def startOf : List Char → String
  | '/' :: _ => "/"
  | _ => "."

def ofPath (path : String) : Location :=
  ((components path.toList).foldl enter [startOf path.toList]).reverse

/-- The location with something added to its last component. -/
def extended (location : Location) (ending : String) : Location :=
  match location.getLast? with
  | some last => location.dropLast ++ [last ++ ending]
  | none => []

/-- The new location of what lies at a source or below it when the source becomes the target. -/
def moved (location source target : Location) : Location :=
  if source.isPrefixOf location then target ++ location.drop source.length else location

/-- The path of what lies in the working directory. -/
def relative? (location : Location) : Option String :=
  match location with
  | "." :: component :: more => some ("/".intercalate (component :: more))
  | _ => none

/-- A path that leads to a location. -/
def path : Location → String
  | "." :: components => "/".intercalate components
  | "/" :: components => "/" ++ "/".intercalate components
  | components => "/".intercalate components

theorem enter_dot (reversed : List String) : enter reversed "." = reversed := rfl

end Location

structure Disk where
  /-- Which file a name leads to. -/
  names : List (Location × Nat) := []
  /-- The contents of the files, by number. -/
  contents : List String := []
  directories : List Location := []
deriving DecidableEq, Repr

namespace Disk

def file? (disk : Disk) (location : Location) : Option Nat :=
  disk.names.lookup location

def isFile (disk : Disk) (location : Location) : Bool :=
  (disk.file? location).isSome

def isDirectory (disk : Disk) (location : Location) : Bool :=
  location.length ≤ 1 || location.getLast? == some ".." || disk.directories.contains location

def isPresent (disk : Disk) (location : Location) : Bool :=
  disk.isFile location || disk.isDirectory location

/-- Whether a way can be gone: each of its components is entered from a directory. -/
def canFollow (disk : Disk) : List String → List String → Bool
  | _, [] => true
  | reversed, component :: rest =>
    disk.isDirectory reversed.reverse && disk.canFollow (Location.enter reversed component) rest

def hasWay (disk : Disk) (path : String) : Bool :=
  disk.canFollow [Location.startOf path.toList] (Location.components path.toList)

def isPresentAt (disk : Disk) (path : String) : Bool :=
  disk.hasWay path && disk.isPresent (.ofPath path)

/-- Whether a path leads to a file. A slash at its end asks for a directory. -/
def hasFileAt (disk : Disk) (path : String) : Bool :=
  disk.hasWay path && disk.isFile (.ofPath path)

/-- Whether a path leads to a directory. An empty one leads nowhere. -/
def hasDirectoryAt (disk : Disk) (path : String) : Bool :=
  !path.isEmpty && disk.hasWay path && disk.isDirectory (.ofPath path)

def content (disk : Disk) (file : Nat) : String :=
  disk.contents.getD file ""

/-- The size of a file in bytes. -/
def size (disk : Disk) (file : Nat) : Nat :=
  (disk.content file).utf8ByteSize

/-- The whole text under a name. -/
def read? (disk : Disk) (location : Location) : Option String :=
  (disk.file? location).map disk.content

def append (disk : Disk) (file : Nat) (text : String) : Disk :=
  { disk with contents := disk.contents.set file (disk.content file ++ text) }

/-- A file under a name, new and empty if there is none yet. -/
def open' (disk : Disk) (location : Location) : Disk × Nat :=
  match disk.file? location with
  | some file => (disk, file)
  | none =>
    let file := disk.contents.length
    let names := disk.names ++ [(location, file)]
    ({ disk with names, contents := disk.contents ++ [""] }, file)

def unname (disk : Disk) (location : Location) : Disk :=
  { disk with names := disk.names.filter (·.1 != location) }

/-- A file is taken away; a directory cannot be. -/
def remove? (disk : Disk) (location : Location) : Option Disk :=
  if disk.isDirectory location then none else some (disk.unname location)

/-- A file is given another name, which loses the file it had. -/
def renameFile (disk : Disk) (source target : Location) : Disk :=
  match disk.file? source with
  | some file =>
    let cleared := (disk.unname source).unname target
    { cleared with names := cleared.names ++ [(target, file)] }
  | none => disk

/-- A directory is given another name and takes along what lies below it. -/
def renameDirectory (disk : Disk) (source target : Location) : Disk :=
  let names := disk.names.map fun (location, file) => (location.moved source target, file)
  { disk with names, directories := disk.directories.map (·.moved source target) }

def rename (disk : Disk) (source target : Location) : Disk :=
  if disk.isDirectory source then disk.renameDirectory source target
  else disk.renameFile source target

/-- What lies under one name, if anything does, takes the place of the file under another one. A
directory there is in the way. -/
def replace? (disk : Disk) (source target : Location) : Option Disk :=
  if disk.isPresent source then (disk.remove? target).map (·.rename source target) else some disk

/-- A file with the given text and the directories above it, as they are found before the program
starts. -/
def withFile (disk : Disk) (path text : String) : Disk :=
  let location := Location.ofPath path
  let (disk, file) := disk.open' location
  let above := (List.range location.length).map location.take
  { disk with
    contents := disk.contents.set file text
    directories := disk.directories ++ above }

/-- The files in the working directory with their texts. -/
def files (disk : Disk) : List (String × String) :=
  disk.names.filterMap fun (location, file) =>
    location.relative?.map fun path => (path, disk.content file)

def failure (name : String) (number : Nat) (text path : String) : Failure :=
  ⟨.other name false, "[Errno " ++ toString number ++ "] " ++ text ++ ": " ++ Text.quoted path⟩

/-- A path without its last component and the slashes in front of it, and that component. -/
def splitLast (path : List Char) : List Char × List Char :=
  let tail := Text.afterLast '/' path
  let head := path.take (path.length - tail.length)
  if head.all (· == '/') then (head, tail)
  else ((head.reverse.dropWhile (· == '/')).reverse, tail)

def notDirectory (path : String) : Failure :=
  failure "NotADirectoryError" 20 "Not a directory" path

/-- One more directory; it may be there already. -/
def makeDirectory (disk : Disk) (path : List Char) : Except Failure Disk :=
  let bare := (path.reverse.dropWhile (· == '/')).reverse
  let path := String.ofList path
  let location := Location.ofPath path
  if !disk.hasWay (String.ofList bare) then .error (notDirectory path)
  else if disk.isDirectory location then .ok disk
  else if disk.isFile location then .error (failure "FileExistsError" 17 "File exists" path)
  else .ok { disk with directories := disk.directories ++ [location] }

/-- A directory and all that have to be there for it; the fuel bounds the number of components. -/
def makeDirectoriesWithin (disk : Disk) : Nat → List Char → Except Failure Disk
  | 0, _ => .ok disk
  | fuel + 1, path => do
    let (head, tail) := splitLast path
    let (head, tail) := if tail.isEmpty then splitLast head else (head, tail)
    let missing := !head.isEmpty && !tail.isEmpty && !disk.isPresentAt (String.ofList head)
    let disk ← if missing then disk.makeDirectoriesWithin fuel head else pure disk
    if missing && tail == ['.'] then return disk
    disk.makeDirectory path

def nulByte : Failure := ⟨.value, "embedded null byte"⟩

def makeDirectories (disk : Disk) (path : String) : Except Failure Disk :=
  if path.toList.contains '\x00' then .error nulByte
  else disk.makeDirectoriesWithin (path.length + 1) path.toList

/-- Whether a file can be found or made under a name. -/
def hasRoom (disk : Disk) (location : Location) : Bool :=
  !disk.isDirectory location && disk.isDirectory location.dropLast

/-- Why no file can be found or made at a path. -/
def noRoom (disk : Disk) (path : String) : Failure :=
  let location := Location.ofPath path
  if disk.isDirectory location then failure "IsADirectoryError" 21 "Is a directory" path
  else if (List.range location.length).any fun n => disk.isFile (location.take n) then
    notDirectory path
  else failure "FileNotFoundError" 2 "No such file or directory" path

/-- Opens a file for writing at its end. -/
def openAtEnd (disk : Disk) (path : String) : Except Failure (Disk × Nat) :=
  let location := Location.ofPath path
  if path.toList.contains '\x00' then .error nulByte
  else if disk.hasRoom location then .ok (disk.open' location)
  else .error (disk.noRoom path)

theorem content_append_self (disk : Disk) {file : Nat} (h : file < disk.contents.length)
    (text : String) : (disk.append file text).content file = disk.content file ++ text := by
  simp [append, content, h]

theorem content_append_of_ne (disk : Disk) {file other : Nat} (h : file ≠ other) (text : String) :
    (disk.append file text).content other = disk.content other := by
  simp [append, content, List.getD_eq_getElem?_getD, List.getElem?_set_ne h]

end Disk

end MountCensus
