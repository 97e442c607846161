import MountCensus.Settings.Node

/-!
Settings given one by one as `key=value`, where dots and brackets in a key lead into tables. A later
setting takes the place of an earlier one, except that tables are merged.
-/

set_option autoImplicit false

namespace MountCensus.Settings

/-- The components of a key behind its first one: each follows a dot or stands in brackets. -/
def laterComponents : Nat → List Char → List (List Char)
  | 0, _ => []
  | _, [] => []
  | fuel + 1, '.' :: rest =>
    let inComponent (c : Char) : Bool := c != '.' && c != '['
    rest.takeWhile inComponent :: laterComponents fuel (rest.dropWhile inComponent)
  | fuel + 1, '[' :: rest =>
    if rest.contains ']' then
      rest.takeWhile (· != ']') :: laterComponents fuel ((rest.dropWhile (· != ']')).drop 1)
    else laterComponents fuel rest
  | fuel + 1, _ :: rest => laterComponents fuel rest

/-- The components of a key. Dots in front of it each give an empty one. -/
def keyComponents (key : List Char) : List (List Char) :=
  let dots := key.takeWhile (· == '.')
  let word := (key.drop dots.length).takeWhile fun c => c != '.' && c != '['
  let rest := key.drop (dots.length + word.length)
  let first := if word.isEmpty && rest.head? == some '[' then [] else [word]
  let head := dots.map (fun _ => []) ++ first
  head ++ laterComponents rest.length rest

mutual

/-- A table over another one: entries of both, the later one where both have one. -/
def mergeEntries (entries : List (String × Value)) : List (String × Value) → List (String × Value)
  | [] => entries
  | (key, value) :: rest => mergeEntries (mergeEntry key value entries) rest

def mergeEntry (key : String) (value : Value) : List (String × Value) → List (String × Value)
  | [] => [(key, value)]
  | (other, old) :: rest =>
    if other = key then (key, overlay old value) :: rest
    else (other, old) :: mergeEntry key value rest

/-- A later value over an earlier one. -/
def overlay : Value → Value → Value
  | .table earlier, .table later => .table (mergeEntries earlier later)
  | _, value => value

end

/-- A value with another one put in at the end of a way through tables and lists. -/
def put (place : Value) (value : Value) : List String → Value
  | [] => overlay place value
  | component :: way =>
    match place with
    | .list items =>
      match Text.integer? component with
      | some (.ofNat index) => .list (items.set index (put (items.getD index .null) value way))
      | _ => .list items
    | .table entries =>
      .table (putEntry entries component (put ((entries.lookup component).getD .null) value way))
    | _ => .table [(component, put .null value way)]

/-- A key, and its value if there is an equals sign. -/
def splitSetting (setting : String) : String × Option String :=
  let key := setting.toList.takeWhile (· != '=')
  let rest := setting.toList.drop key.length
  (String.ofList key, if rest.isEmpty then none else some (String.ofList (rest.drop 1)))

/-- The table with one more setting. -/
def addSetting (table : Value) (setting : String) : Except Failure Value := do
  let (key, text) := splitSetting setting
  let value ← match text with
    | some text => ofText text
    | none => pure .null
  return put table value ((keyComponents key.toList).map String.ofList)

def ofDotList (settings : List String) : Except Failure (List (String × Value)) := do
  match ← settings.foldlM addSetting (.table []) with
  | .table entries => return entries
  | _ => return []

example : (keyComponents "a[b].c".toList).map String.ofList = ["a", "b", "c"] := by decide +kernel
example : (keyComponents ".a.b[c].d".toList).map String.ofList = ["", "a", "b", "c", "d"] := by
  decide +kernel

end MountCensus.Settings
