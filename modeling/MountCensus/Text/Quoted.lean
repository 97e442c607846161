import MountCensus.Text.Printable

/-!
Texts as they are shown inside messages: between quotation marks, with a code in place of every
character that would not show.
-/

set_option autoImplicit false

namespace MountCensus.Text

/-- The hexadecimal digits of a number, padded with zeros on the left to the given width. -/
def hexDigits (width n : Nat) : List Char :=
  let digits := Nat.toDigits 16 n
  List.replicate (width - digits.length) '0' ++ digits

/-- Double quotes are used only around a text that holds a single quote and no double one. -/
def quoteMark (text : List Char) : Char :=
  if text.contains '\'' && !text.contains '"' then '"' else '\''

/-- A character inside quotation marks. -/
def quotedChar (mark c : Char) : List Char :=
  if c == mark || c == '\\' then ['\\', c]
  else if c == '\n' then ['\\', 'n']
  else if c == '\r' then ['\\', 'r']
  else if c == '\t' then ['\\', 't']
  else if isPrintable c then [c]
  else if c.toNat < 0x100 then '\\' :: 'x' :: hexDigits 2 c.toNat
  else if c.toNat < 0x10000 then '\\' :: 'u' :: hexDigits 4 c.toNat
  else '\\' :: 'U' :: hexDigits 8 c.toNat

def quotedChars (text : List Char) : List Char :=
  let mark := quoteMark text
  mark :: text.flatMap (quotedChar mark) ++ [mark]

def quoted (text : String) : String :=
  String.ofList (quotedChars text.toList)

/-- A list of texts: quoted, separated by commas, in brackets. -/
def quotedList (texts : List String) : String :=
  "[" ++ ", ".intercalate (texts.map quoted) ++ "]"

theorem quoteMark_eq_single {text : List Char} (h : '\'' ∉ text) : quoteMark text = '\'' := by
  simp [quoteMark, h]

theorem quotedChar_printable {mark c : Char} (hm : c ≠ mark) (hb : c ≠ '\\') (hn : c ≠ '\n')
    (hr : c ≠ '\r') (ht : c ≠ '\t') (hp : isPrintable c) : quotedChar mark c = [c] := by
  simp [quotedChar, hm, hb, hn, hr, ht, hp]

end MountCensus.Text
