import MountCensus.Disk
import MountCensus.Log.Level

/-!
Where log entries go: to standard output or to a file. A file with a limit is put aside before an
entry that would bring it to the limit, and older files are given higher numbers; the oldest is
lost. If a directory is in the way, the entry is lost and the file stays closed until the next one.
-/

set_option autoImplicit false

namespace MountCensus

/-- What a program leaves behind: its files and what it has printed. -/
structure Output where
  disk : Disk := {}
  printed : String := ""
deriving DecidableEq, Repr

def Output.print (output : Output) (text : String) : Output :=
  { output with printed := output.printed ++ text }

namespace Log

/-- A file that is put aside when it grows to `limit` bytes, unless that is zero, and how many of
the files put aside are kept. There is no number while the file is closed. -/
structure Rotation where
  location : Location
  file : Option Nat
  limit : Int
  kept : Nat
deriving DecidableEq, Repr

inductive Target where
  | console
  | file (rotation : Rotation)
deriving DecidableEq, Repr

/-- A target, and whether entries are written there with time, level and logger. -/
structure Handler where
  target : Target
  detailed : Bool
deriving DecidableEq, Repr

structure Entry where
  level : Level
  text : String
  failure : Option Failure := none
deriving DecidableEq, Repr

def detailedText (logger : String) (entry : Entry) : String :=
  "[TIME] - [" ++ entry.level.name ++ "] - [" ++ logger ++ "] - " ++ entry.text

/-- An entry with the end of its line; a failure has lines of its own. -/
def Handler.line (handler : Handler) (logger : String) (entry : Entry) : String :=
  (if handler.detailed then detailedText logger entry else entry.text) ++
    (match entry.failure with
      | some failure => "\n" ++ failure.entry
      | none => "") ++ "\n"

namespace Rotation

/-- The name of a file that has been put aside as the given number. -/
def aside (rotation : Rotation) (number : Nat) : Location :=
  rotation.location.extended ("." ++ toString number)

/-- Whether an entry of the given length would bring the file to its limit. Bytes in the file and
characters of the entry are counted alike. What is no file is never put aside. -/
def isDue (rotation : Rotation) (disk : Disk) (length : Nat) : Bool :=
  match rotation.file with
  | none => false
  | some file =>
    !disk.isDirectory rotation.location &&
      (0 < rotation.limit && rotation.limit ≤ ((disk.size file + length : Nat) : Int))

/-- What is numbered from `number` down to one each gets the next number. The disk is told as it is
left, also when a directory was in the way. -/
def shift (rotation : Rotation) (disk : Disk) : Nat → Except Disk Disk
  | 0 => .ok disk
  | number + 1 =>
    match disk.replace? (rotation.aside (number + 1)) (rotation.aside (number + 2)) with
    | some disk => rotation.shift disk number
    | none => .error disk

/-- The file put aside; without room for files put aside nothing is moved. -/
def putAside (rotation : Rotation) (disk : Disk) : Except Disk Disk :=
  if rotation.kept = 0 then .ok disk
  else do
    let disk ← rotation.shift disk (rotation.kept - 1)
    match disk.remove? (rotation.aside 1) with
    | some disk => return disk.rename rotation.location (rotation.aside 1)
    | none => throw disk

/-- The file under the name opened for writing at its end, if that can be done. -/
def reopen (rotation : Rotation) (disk : Disk) : Rotation × Disk :=
  if disk.hasRoom rotation.location then
    let (disk, file) := disk.open' rotation.location
    ({ rotation with file := some file }, disk)
  else ({ rotation with file := none }, disk)

/-- The file put aside, and an empty one in its place. -/
def rotate (rotation : Rotation) (disk : Disk) : Rotation × Disk :=
  match rotation.putAside disk with
  | .ok disk => rotation.reopen disk
  | .error disk => ({ rotation with file := none }, disk)

/-- The rotation that writes an entry of the given length, and the disk on which it does so. -/
def ready (rotation : Rotation) (disk : Disk) (length : Nat) : Rotation × Disk :=
  let (rotation, disk) := if rotation.file.isNone then rotation.reopen disk else (rotation, disk)
  if rotation.isDue disk length then rotation.rotate disk else (rotation, disk)

/-- A line at the end of the file; without an open file it is lost. -/
def append (rotation : Rotation) (disk : Disk) (line : String) : Disk :=
  match rotation.file with
  | some file => disk.append file line
  | none => disk

def write (rotation : Rotation) (disk : Disk) (line : String) : Rotation × Disk :=
  let (rotation, disk) := rotation.ready disk line.length
  (rotation, rotation.append disk line)

theorem isDue_of_no_limit {rotation : Rotation} (h : rotation.limit ≤ 0) (disk : Disk)
    (length : Nat) : rotation.isDue disk length = false := by
  unfold isDue
  split
  · rfl
  · simp [Int.not_lt.mpr h]

end Rotation

def Handler.write (handler : Handler) (output : Output) (line : String) : Handler × Output :=
  match handler.target with
  | .console => (handler, output.print line)
  | .file rotation =>
    let (rotation, disk) := rotation.write output.disk line
    ({ handler with target := .file rotation }, { output with disk })

end Log

end MountCensus
