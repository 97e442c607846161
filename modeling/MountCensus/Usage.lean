import MountCensus.Text.Alphanumeric
import MountCensus.Text.Integer

/-!
Inode usage of devices, as a report lists it: one row a device, of which the last two columns are
the inodes in use and the free ones. Other rows carry no usage.
-/

set_option autoImplicit false

namespace MountCensus

structure Usage where
  freeInodes : Int
  totalInodes : Int
deriving DecidableEq, Repr

/-- The integer a text stands for, or the given one. -/
def Text.integerOr (default : Int) (text : String) : Int :=
  (Text.integer? text).getD default

namespace Usage

/-- The usage of a volume that no report mentions. -/
def unknown : Usage := ⟨0, 0⟩

def reportCommand (localOnly : Bool) : List String :=
  ["df", "-F", "%l", "%n"] ++ if localOnly then ["-T", "local"] else []

def isNodeChar (c : Char) : Bool :=
  Text.isWordChar c || c == '.'

/-- Whether a row starts with the path of a device, perhaps behind the name of a node and a colon.
-/
def isDeviceRow (row : List Char) : Bool :=
  match row with
  | '/' :: _ => true
  | _ =>
    !(row.takeWhile isNodeChar).isEmpty && [':', '/'].isPrefixOf (row.dropWhile isNodeChar)

/-- The usage that the columns of a row tell. A count that is no number is read as zero. -/
def ofColumns? (columns : List String) : Option Usage :=
  match columns.reverse with
  | free :: used :: _ :: _ =>
    let used := Text.integerOr 0 used
    let free := Text.integerOr 0 free
    some ⟨free, used + free⟩
  | _ => none

def columns (line : String) : List String :=
  (Text.fields line.toList).map String.ofList

/-- The device of a row and its usage. -/
def ofRow? (line : String) : Option (String × Usage) :=
  if isDeviceRow line.toList then
    let columns := columns line
    match columns.head?, ofColumns? columns with
    | some device, some usage => some (device, usage)
    | _, _ => none
  else none

/-- Devices in the order of their first rows. -/
abbrev Table := List (String × Usage)

/-- The table with one more row: the last row of a device counts. -/
def Table.put (table : Table) (row : String × Usage) : Table :=
  match table with
  | [] => [row]
  | entry :: rest => if entry.1 = row.1 then row :: rest else entry :: put rest row

def Table.usageOf (table : Table) (volume : String) : Usage :=
  (table.lookup volume).getD unknown

def ofReport (lines : List String) : Table :=
  (lines.filterMap ofRow?).foldl Table.put []

theorem Table.lookup_put_self (table : Table) (device : String) (usage : Usage) :
    (table.put (device, usage)).lookup device = some usage := by
  induction table with
  | nil => simp [put]
  | cons entry rest ih =>
    obtain ⟨d, u⟩ := entry
    by_cases h : d = device
    · simp [put, h]
    · have hne : (device == d) = false := by simpa using Ne.symm h
      simp [put, h, List.lookup_cons, hne, ih]

theorem Table.lookup_put_of_ne (table : Table) {device other : String} (usage : Usage)
    (h : other ≠ device) : (table.put (device, usage)).lookup other = table.lookup other := by
  have hne : (other == device) = false := by simpa using h
  induction table with
  | nil => simp [put, List.lookup_cons, hne]
  | cons entry rest ih =>
    obtain ⟨d, u⟩ := entry
    by_cases heq : d = device
    · simp [put, heq, List.lookup_cons, hne]
    · simp [put, heq, List.lookup_cons, ih]

theorem isDeviceRow_slash (rest : List Char) : isDeviceRow ('/' :: rest) = true := rfl

end Usage

end MountCensus
