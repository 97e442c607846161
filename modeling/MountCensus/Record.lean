import MountCensus.Failure
import MountCensus.Json.Text
import MountCensus.Store
import MountCensus.Text.Integer

/-!
The records that are collected and sent on, and their fields in the order in which they are written.
-/

set_option autoImplicit false

namespace MountCensus

/-- Counts of open files on one host. -/
structure DescriptorCounts where
  hostname : String
  openFiles : Int
  limit : Int
  limitPerProcess : Int
deriving DecidableEq, Repr

inductive Record where
  | usage (usage : Usage)
  | mount (mount : Mount)
  | capacity (capacity : Capacity)
  | store (store : Store)
  | hostStore (store : Store) (hostname : String)
  | descriptors (counts : DescriptorCounts)
deriving DecidableEq, Repr

namespace Record

inductive Field where
  | bool (b : Bool)
  | int (n : Int)
  | text (s : String)
deriving DecidableEq, Repr

def Field.json : Field → Json
  | .bool b => .bool b
  | .int n => .int n
  | .text s => .text s

/-- Whether the field can be written: its integer must not have too many digits. -/
def Field.isWritable : Field → Bool
  | .int n => n.natAbs < Nat.pow 10 Text.digitLimit
  | _ => true

def storeFields (store : Store) : List (String × Field) := [
  ("name", .text store.name), ("volume", .text store.volume), ("label", .text store.label),
  ("mount", .text store.mount), ("options", .text store.options),
  ("description", .text store.description), ("fs_type", .text store.type),
  ("free_space", .int store.freeSpace), ("usable_space", .int store.usableSpace),
  ("total_space", .int store.totalSpace), ("free_inodes", .int store.freeInodes),
  ("total_inodes", .int store.totalInodes)]

def fields : Record → List (String × Field)
  | .usage u => [("inodes_free", .int u.freeInodes), ("inodes_total", .int u.totalInodes)]
  | .mount m => [("volume", .text m.volume), ("path", .text m.path), ("fs_type", .text m.type),
      ("options", .text m.options)]
  | .capacity c => [("exists", .bool c.reachable), ("total", .int c.total), ("free", .int c.free),
      ("usable", .int c.usable)]
  | .store s => storeFields s
  | .hostStore s hostname => storeFields s ++ [("hostname", .text hostname)]
  | .descriptors d => [("hostname", .text d.hostname), ("open_file_descriptors", .int d.openFiles),
      ("max_file_descriptors", .int d.limit),
      ("max_file_descriptors_per_process", .int d.limitPerProcess)]

def json (record : Record) : Json :=
  .object (record.fields.map fun (key, field) => (key, field.json))

def isWritable (record : Record) : Bool :=
  record.fields.all fun (_, field) => field.isWritable

def unwritable : Failure :=
  ⟨.value, "Exceeds the limit (" ++ toString Text.digitLimit ++
    " digits) for integer string conversion; " ++
    "use sys.set_int_max_str_digits() to increase the limit"⟩

/-- One record as Json text. -/
def write (style : Json.Style) (record : Record) : Except Failure String :=
  if record.isWritable then .ok (record.json.write style) else .error unwritable

/-- Records as the text of a Json list. -/
def writeList (style : Json.Style) (records : List Record) : Except Failure String :=
  if records.all isWritable then .ok ((Json.list (records.map json)).write style)
  else .error unwritable

theorem write_of_isWritable {style : Json.Style} {record : Record} (h : record.isWritable) :
    record.write style = .ok (record.json.write style) := by
  simp [write, h]

end Record

end MountCensus
