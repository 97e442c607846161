import MountCensus.Text.Blank

/-!
Rows of the mount table: an optional node, the volume, the path it is mounted at, the type of the
file system, three columns of date, and options.
-/

set_option autoImplicit false

namespace MountCensus

structure Mount where
  volume : String
  path : String
  type : String
  options : String
deriving DecidableEq, Repr

namespace Mount

def tableCommand : List String := ["mount"]

/-- The columns of a row. The mark in front of the line is a column of its own when there is no
node, so that the volume always comes second. -/
def columns (line : String) : List String :=
  (Text.fields ('x' :: line.toList)).map String.ofList

/-- What a row tells, unless it has too few columns. -/
def ofRow? (line : String) : Option Mount :=
  match columns line with
  | _ :: volume :: path :: type :: _ :: _ :: _ :: options :: _ => some ⟨volume, path, type, options⟩
  | _ => none

def ofTable (lines : List String) : List Mount :=
  lines.filterMap ofRow?

theorem ofTable_append (xs ys : List String) : ofTable (xs ++ ys) = ofTable xs ++ ofTable ys := by
  simp [ofTable]

end Mount

end MountCensus
