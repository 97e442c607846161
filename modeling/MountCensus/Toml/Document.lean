import MountCensus.Toml.Scalar

/-!
Documents of keys and values, in tables under headings. Each table is opened by one heading only, or
by the dotted keys of one section, and what stands in braces or brackets cannot be added to.
-/

set_option autoImplicit false

namespace MountCensus.Toml

abbrev Key := List String

abbrev Entries := List (String × Value)

def isKeyChar (c : Char) : Bool :=
  c.isAlphanum || c == '-' || c == '_'

def readKeyPart (text : List Char) : Except Fault (Read String) :=
  match text with
  | '"' :: rest => basicText false (rest.length + 1) [] rest
  | '\'' :: rest => literalText false [] rest
  | _ =>
    let part := text.takeWhile isKeyChar
    if part.isEmpty then .error .invalid else .ok (String.ofList part, text.drop part.length)

/-- A key of one or more parts with points between them. -/
def readKey : Nat → List Char → Except Fault (Read Key)
  | 0, _ => .error .invalid
  | fuel + 1, text => do
    let (part, rest) ← readKeyPart text
    match skipSpaces rest with
    | '.' :: rest => do
      let (more, rest) ← readKey fuel (skipSpaces rest)
      return (part :: more, rest)
    | rest => return ([part], rest)

/-- A comment at the front, up to the end of its line. -/
def skipComment (text : List Char) : Except Fault (List Char) :=
  match text with
  | '#' :: rest =>
    let comment := rest.takeWhile (· != '\n')
    if comment.all (isTextChar false) then .ok (rest.drop comment.length) else .error .invalid
  | _ => .ok text

/-- Blanks, ends of lines and comments. -/
def skipLines : Nat → List Char → Except Fault (List Char)
  | 0, text => .ok text
  | fuel + 1, text =>
    match text.dropWhile fun c => isSpace c || c == '\n' with
    | '#' :: rest => do skipLines fuel (← skipComment ('#' :: rest))
    | rest => .ok rest

/-- The entries with a change made to the table at the end of a key; tables on the way are made if
they are missing, and of a list the last table is taken. -/
def change (f : Entries → Option Entries) : Key → Entries → Option Entries
  | [], entries => f entries
  | part :: more, entries =>
    match entries.lookup part with
    | none => (change f more []).map fun inner => entries ++ [(part, .table inner)]
    | some (.table inner) =>
      (change f more inner).map fun inner => replace part (.table inner) entries
    | some (.list items) =>
      match items.getLast? with
      | some (.table inner) =>
        (change f more inner).map fun inner =>
          replace part (.list (items.dropLast ++ [.table inner])) entries
      | _ => none
    | some _ => none
where
  replace (part : String) (value : Value) (entries : Entries) : Entries :=
    entries.map fun (other, old) => if other = part then (other, value) else (other, old)

/-- A new entry; there must be none with its name. -/
def addEntry (name : String) (value : Value) (entries : Entries) : Option Entries :=
  if (entries.lookup name).isSome then none else some (entries ++ [(name, value)])

def isCollection : Value → Bool
  | .table _ | .list _ => true
  | _ => false

/-- The entries between braces so far, and the keys of them that hold collections. -/
structure Inline where
  entries : Entries := []
  closed : List Key := []

def Inline.add (inline : Inline) (key : Key) (value : Value) : Except Fault Inline :=
  if inline.closed.any (·.isPrefixOf key) then .error .invalid
  else match change (addEntry (key.getLastD "") value) key.dropLast inline.entries with
    | some entries =>
      .ok ⟨entries, if isCollection value then key :: inline.closed else inline.closed⟩
    | none => .error .invalid

mutual

def readValue : Nat → List Char → Except Fault (Read Value)
  | 0, _ => .error .invalid
  | fuel + 1, text =>
    match text with
    | '[' :: rest => do readItems fuel [] (← skipLines rest.length rest)
    | '\x7b' :: rest => do readEntries fuel {} (← skipLines rest.length rest)
    | _ => scalar text

/-- The items of a list up to its closing bracket. -/
def readItems : Nat → List Value → List Char → Except Fault (Read Value)
  | 0, _, _ => .error .invalid
  | fuel + 1, found, text =>
    match text with
    | ']' :: rest => .ok (.list found.reverse, rest)
    | _ => do
      let (item, rest) ← readValue fuel text
      match ← skipLines rest.length rest with
      | ',' :: rest => readItems fuel (item :: found) (← skipLines rest.length rest)
      | ']' :: rest => .ok (.list (item :: found).reverse, rest)
      | _ => .error .invalid

/-- The entries of a table up to its closing brace. -/
def readEntries : Nat → Inline → List Char → Except Fault (Read Value)
  | 0, _, _ => .error .invalid
  | fuel + 1, found, text =>
    match text with
    | '\x7d' :: rest => .ok (.table found.entries, rest)
    | _ => do
      let (key, rest) ← readKey (text.length + 1) text
      let '=' :: rest := rest | .error .invalid
      let (value, rest) ← readValue fuel (skipSpaces rest)
      let found ← found.add key value
      match ← skipLines rest.length rest with
      | ',' :: rest => readEntries fuel found (← skipLines rest.length rest)
      | '\x7d' :: rest => .ok (.table found.entries, rest)
      | _ => .error .invalid

end

/-- A document as far as it has been read: its entries, the heading in force, the tables that may
not be opened again, those opened by dotted keys of this section, and what may not be added to. -/
structure Document where
  entries : Entries := []
  heading : Key := []
  opened : List Key := []
  pending : List Key := []
  closed : List Key := []

namespace Document

def isClosed (document : Document) (key : Key) : Bool :=
  document.closed.any (·.isPrefixOf key)

/-- The beginnings of a dotted key, itself apart. -/
def beginnings (key : Key) : List Key :=
  (List.range (key.length - 1)).map fun n => key.take (n + 1)

def addPair (document : Document) (key : Key) (value : Value) : Except Fault Document :=
  let ways := (beginnings key).map (document.heading ++ ·)
  let parent := document.heading ++ key.dropLast
  if ways.any document.opened.contains || document.isClosed parent then .error .invalid
  else match change (addEntry (key.getLastD "") value) parent document.entries with
    | none => .error .invalid
    | some entries => .ok { document with
        entries
        pending := document.pending ++ ways
        closed := if isCollection value then (document.heading ++ key) :: document.closed
          else document.closed }

/-- The tables of dotted keys are opened for good when their section ends. -/
def endSection (document : Document) : Document :=
  { document with opened := document.opened ++ document.pending, pending := [] }

def openTable (document : Document) (key : Key) : Except Fault Document :=
  if document.opened.contains key || document.isClosed key then .error .invalid
  else match change some key document.entries with
    | none => .error .invalid
    | some entries => .ok { document with
        entries
        heading := key
        opened := key :: document.opened }

/-- One more table at the end of a list. -/
def addTable (name : String) (entries : Entries) : Option Entries :=
  match entries.lookup name with
  | none => some (entries ++ [(name, .list [.table []])])
  | some (.list tables) => some (change.replace name (.list (tables ++ [.table []])) entries)
  | some _ => none

def openListItem (document : Document) (key : Key) : Except Fault Document :=
  if document.isClosed key then .error .invalid
  else match change (addTable (key.getLastD "")) key.dropLast document.entries with
    | none => .error .invalid
    | some entries =>
      let fresh (keys : List Key) : List Key := keys.filter fun k => !key.isPrefixOf k
      .ok { document with
        entries
        heading := key
        opened := key :: fresh document.opened
        closed := fresh document.closed }

end Document

/-- One pair or heading at the front of the text. -/
def statement (document : Document) (text : List Char) : Except Fault (Read Document) :=
  match text with
  | '[' :: '[' :: rest => do
    let (key, rest) ← readKey (rest.length + 1) (skipSpaces rest)
    let ']' :: ']' :: rest := rest | .error .invalid
    return (← document.endSection.openListItem key, rest)
  | '[' :: rest => do
    let (key, rest) ← readKey (rest.length + 1) (skipSpaces rest)
    let ']' :: rest := rest | .error .invalid
    return (← document.endSection.openTable key, rest)
  | _ => do
    let (key, rest) ← readKey (text.length + 1) text
    let '=' :: rest := rest | .error .invalid
    let (value, rest) ← readValue (2 * rest.length + 2) (skipSpaces rest)
    return (← document.addPair key value, rest)

/-- The statements of a text, one a line. -/
def statements : Nat → Document → List Char → Except Fault Document
  | 0, document, _ => .ok document
  | fuel + 1, document, text => do
    let text := skipSpaces text
    let (document, rest) ← match text with
      | [] | '\n' :: _ | '#' :: _ => .ok (document, text)
      | _ => statement document text
    match ← skipComment (skipSpaces rest) with
    | [] => .ok document
    | '\n' :: rest => statements fuel document rest
    | _ => .error .invalid

def dropReturns : List Char → List Char
  | '\r' :: '\n' :: rest => '\n' :: dropReturns rest
  | c :: rest => c :: dropReturns rest
  | [] => []

/-- The entries of a document. -/
def parse (text : String) : Except Fault Entries :=
  let text := dropReturns text.toList
  (statements (text.length + 1) {} text).map (·.entries)

theorem beginnings_singleton (part : String) : Document.beginnings [part] = [] := rfl

end MountCensus.Toml
