import MountCensus.Text.Quoted

/-!
Json values without fractions, and their text: one line of plain characters, every other character
written as a code of four hexadecimal digits, or two such codes if one does not suffice. Integers
beyond a fixed number of digits are not written.
-/

set_option autoImplicit false

namespace MountCensus

inductive Json where
  | bool (b : Bool)
  | int (n : Int)
  | text (s : String)
  | list (items : List Json)
  | object (entries : List (String × Json))
deriving Repr

namespace Json

/-- What follows a comma and a colon. -/
structure Style where
  afterComma : String
  afterColon : String
deriving DecidableEq, Repr

def compact : Style := ⟨"", ""⟩

def spaced : Style := ⟨" ", " "⟩

def codeUnit (n : Nat) : List Char :=
  '\\' :: 'u' :: Text.hexDigits 4 n

/-- A character between quotation marks. -/
def writtenChar (c : Char) : List Char :=
  if c == '"' || c == '\\' then ['\\', c]
  else if c == '\n' then ['\\', 'n']
  else if c == '\r' then ['\\', 'r']
  else if c == '\t' then ['\\', 't']
  else if c == '\x08' then ['\\', 'b']
  else if c == '\x0c' then ['\\', 'f']
  else if ' ' ≤ c && c ≤ '~' then [c]
  else if c.toNat < 0x10000 then codeUnit c.toNat
  else
    let n := c.toNat - 0x10000
    codeUnit (0xD800 + n / 0x400) ++ codeUnit (0xDC00 + n % 0x400)

def writtenText (s : String) : String :=
  String.ofList ('"' :: s.toList.flatMap writtenChar ++ ['"'])

mutual

def write (style : Style) : Json → String
  | .bool b => if b then "true" else "false"
  | .int n => toString n
  | .text s => writtenText s
  | .list items => "[" ++ ("," ++ style.afterComma).intercalate (writeItems style items) ++ "]"
  | .object entries =>
    "\x7b" ++ ("," ++ style.afterComma).intercalate (writeEntries style entries) ++ "\x7d"

def writeItems (style : Style) : List Json → List String
  | [] => []
  | item :: rest => item.write style :: writeItems style rest

def writeEntries (style : Style) : List (String × Json) → List String
  | [] => []
  | (key, value) :: rest =>
    (writtenText key ++ ":" ++ style.afterColon ++ value.write style) :: writeEntries style rest

end

theorem writeItems_eq_map (style : Style) (items : List Json) :
    writeItems style items = items.map (write style) := by
  induction items with
  | nil => simp [writeItems]
  | cons item rest ih => simp [writeItems, ih]

theorem writtenChar_plain {c : Char} (hq : c ≠ '"') (hb : c ≠ '\\') (hlo : ' ' ≤ c)
    (hhi : c ≤ '~') :
    writtenChar c = [c] := by
  have hne (d : Char) (h : d < ' ') : c ≠ d := fun heq => absurd (heq ▸ hlo) (Char.not_le.mpr h)
  simp [writtenChar, hq, hb, hlo, hhi, hne '\n' (by decide), hne '\r' (by decide),
    hne '\t' (by decide), hne '\x08' (by decide), hne '\x0c' (by decide)]

end Json

end MountCensus
