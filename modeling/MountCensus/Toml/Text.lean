import MountCensus.Text.Integer

/-!
Texts of a configuration file: between quotation marks with escapes, between apostrophes without,
and both in a form over several lines between three marks.
-/

set_option autoImplicit false

namespace MountCensus.Toml

/-- Why a document cannot be read. -/
inductive Fault where
  | invalid
  | tooManyDigits (count : Nat)
deriving DecidableEq, Repr

/-- What has been read from the front of a text, and the rest. -/
abbrev Read (α : Type) := α × List Char

def isSpace (c : Char) : Bool :=
  c == ' ' || c == '\t'

def isControl (c : Char) : Bool :=
  c.toNat < 32 || c.toNat == 127

def skipSpaces (text : List Char) : List Char :=
  text.dropWhile isSpace

/-- A character that may stand in a text; lines end in texts over several lines only. -/
def isTextChar (multiline : Bool) (c : Char) : Bool :=
  !isControl c || c == '\t' || (multiline && c == '\n')

def letterEscape? : Char → Option Char
  | 'b' => some '\x08'
  | 't' => some '\t'
  | 'n' => some '\n'
  | 'f' => some '\x0c'
  | 'r' => some '\r'
  | 'e' => some '\x1b'
  | '"' => some '"'
  | '\\' => some '\\'
  | _ => none

def codeLength? : Char → Option Nat
  | 'x' => some 2
  | 'u' => some 4
  | 'U' => some 8
  | _ => none

/-- The character with a code of the given number of hexadecimal digits. -/
def codeChar? (count : Nat) (text : List Char) : Option Char := do
  let digits ← (text.take count).mapM Text.hexDigit?
  let code := Text.ofDigits 16 digits
  if digits.length = count && (code < 0xD800 || (0xDFFF < code && code < 0x110000)) then
    some (Char.ofNat code)
  else none

/-- What follows a backslash at the end of a line: the text goes on with the next character that is
no blank. -/
def continued? (text : List Char) : Option (List Char) :=
  match skipSpaces text with
  | [] => some []
  | '\n' :: rest => some (rest.dropWhile fun c => isSpace c || c == '\n')
  | _ => none

/-- Up to two more marks in front of the closing ones belong to the text. -/
def closing? (mark : Char) (text : List Char) : Option (List Char × List Char) :=
  let marks := text.takeWhile (· == mark)
  if marks.length < 3 then none
  else
    let extra := min 2 (marks.length - 3)
    some (marks.take extra, text.drop (extra + 3))

/-- A text with escapes up to its closing mark or marks. -/
def basicText (multiline : Bool) : Nat → List Char → List Char → Except Fault (Read String)
  | 0, _, _ => .error .invalid
  | _, _, [] => .error .invalid
  | fuel + 1, found, '\\' :: c :: rest =>
    match letterEscape? c, codeLength? c with
    | some d, _ => basicText multiline fuel (d :: found) rest
    | none, some count =>
      match codeChar? count rest with
      | some d => basicText multiline fuel (d :: found) (rest.drop count)
      | none => .error .invalid
    | none, none =>
      if multiline && (isSpace c || c == '\n') then
        match continued? (c :: rest) with
        | some rest => basicText multiline fuel found rest
        | none => .error .invalid
      else .error .invalid
  | fuel + 1, found, c :: rest =>
    if c == '"' then
      if multiline then
        match closing? '"' (c :: rest) with
        | some (extra, rest) => .ok (String.ofList (found.reverse ++ extra), rest)
        | none => basicText multiline fuel (c :: found) rest
      else .ok (String.ofList found.reverse, rest)
    else if isTextChar multiline c then basicText multiline fuel (c :: found) rest
    else .error .invalid

/-- A text without escapes up to its closing mark or marks. -/
def literalText (multiline : Bool) : List Char → List Char → Except Fault (Read String)
  | _, [] => .error .invalid
  | found, c :: rest =>
    if c == '\'' then
      if multiline then
        match closing? '\'' (c :: rest) with
        | some (extra, rest) => .ok (String.ofList (found.reverse ++ extra), rest)
        | none => literalText multiline (c :: found) rest
      else .ok (String.ofList found.reverse, rest)
    else if isTextChar multiline c then literalText multiline (c :: found) rest
    else .error .invalid

/-- A line's end right behind the opening marks is no part of the text. -/
def dropFirstLineEnd : List Char → List Char
  | '\n' :: rest => rest
  | text => text

/-- A text at the front, if there is one. -/
def text? : List Char → Option (Except Fault (Read String))
  | '"' :: '"' :: '"' :: rest => some (basicText true (rest.length + 1) [] (dropFirstLineEnd rest))
  | '"' :: rest => some (basicText false (rest.length + 1) [] rest)
  | '\'' :: '\'' :: '\'' :: rest => some (literalText true [] (dropFirstLineEnd rest))
  | '\'' :: rest => some (literalText false [] rest)
  | _ => none

end MountCensus.Toml
