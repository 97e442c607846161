import MountCensus.Regex.Reading
import MountCensus.Text.Alphanumeric

/-!
Escapes: what a backslash and the character after it stand for, by themselves and together with the
digits that may follow them. A character set and the rest of a pattern share most of them; an octal
number and a reference to a group are told apart only outside of sets.
-/

set_option autoImplicit false

namespace MountCensus.Regex

def isOctalDigit (c : Char) : Bool :=
  '0' ≤ c && c ≤ '7'

def isHexDigit (c : Char) : Bool :=
  (Text.hexDigit? c).isSome

def hexValue (digits : List Char) : Nat :=
  Text.ofDigits 16 (digits.filterMap Text.hexDigit?)

def decimalValue (digits : List Char) : Nat :=
  Text.ofDigits 10 (digits.filterMap Text.decimalDigit?)

def octalValue (digits : List Char) : Nat :=
  Text.ofDigits 8 (digits.filterMap Text.decimalDigit?)

/-- The control characters that have an escape of their own. -/
def controlEscape? : Char → Option Nat
  | 'a' => some 7
  | 'f' => some 12
  | 'n' => some 10
  | 'r' => some 13
  | 't' => some 9
  | 'v' => some 11
  | _ => none

def categoryEscape? : Char → Option (Category × Bool)
  | 'd' => some (.digit, false)
  | 'D' => some (.digit, true)
  | 's' => some (.space, false)
  | 'S' => some (.space, true)
  | 'w' => some (.word, false)
  | 'W' => some (.word, true)
  | _ => none

def anchorEscape? : Char → Option Anchor
  | 'A' => some .textStart
  | 'b' => some (.wordBoundary false)
  | 'B' => some (.wordBoundary true)
  | 'Z' => some .textEnd
  | _ => none

/-- How many hexadecimal digits follow an escape that names a code. -/
def hexEscapeLength? : Char → Option Nat
  | 'x' => some 2
  | 'u' => some 4
  | 'U' => some 8
  | _ => none

def escapeText (c : Char) (more : List Char) : String :=
  String.ofList ('\\' :: c :: more)

namespace Reading

/-- Refuses an escape just read. -/
def failEscape {α : Type} (defect : String → Defect) (c : Char) (more : List Char) : Reading α :=
  fail (defect (escapeText c more)) (more.length + 2)

def hexEscape (c : Char) (count : Nat) : Reading Nat := do
  let digits ← takeUpTo count isHexDigit
  if digits.length ≠ count then failEscape .incompleteEscape c digits
  let code := hexValue digits
  if 0x10FFFF < code then failEscape .badEscape c digits
  return code

/-- Characters cannot be called by a name. -/
def namedEscape : Reading Nat := do
  unless ← accept '\x7b' do fail .missingBrace
  let name ← takeUntil '\x7d' "character name"
  fail (.unknownCharacterName (String.ofList name)) (name.length + 4)

def octalEscape (c : Char) (more : List Char) : Reading Nat := do
  let code := octalValue (c :: more)
  if 0o377 < code then failEscape .octalOutsideRange c more
  return code

/-- An escape that stands for its own character; letters are kept for other uses. -/
def plainEscape (c : Char) : Reading Nat := do
  if c.isAlpha then failEscape .badEscape c []
  return c.toNat

/-- The code that an escape stands for, digits apart. -/
def codeEscape (c : Char) : Reading Nat := do
  match controlEscape? c, hexEscapeLength? c with
  | some code, _ => return code
  | none, some count => hexEscape c count
  | none, none => if c = 'N' then namedEscape else plainEscape c

/-- An escape inside a character set. -/
def setEscape (c : Char) : Reading Member := do
  match categoryEscape? c with
  | some (category, negated) => return .category category negated
  | none =>
    if c = 'b' then return .single 8
    else if isOctalDigit c then
      return .single (← octalEscape c (← takeUpTo 2 isOctalDigit))
    else if c.isDigit then failEscape .badEscape c []
    else return .single (← codeEscape c)

/-- An escape that starts with a digit: an octal number if it starts with a zero or has three octal
digits, otherwise a reference to a group. -/
def digitEscape (c : Char) : Reading Regex := do
  if c = '0' then
    return literal (← octalEscape c (← takeUpTo 2 isOctalDigit))
  else
    let more ← takeUpTo 1 Char.isDigit
    let last ← if (c :: more).length = 2 && (c :: more).all isOctalDigit
      then takeUpTo 1 isOctalDigit else pure []
    if last.isEmpty then
      reference (decimalValue (c :: more)) ((c :: more).length + 1)
    else
      return literal (← octalEscape c (more ++ last))

/-- An escape outside of character sets. -/
def escape (c : Char) : Reading Regex := do
  match categoryEscape? c, anchorEscape? c with
  | some (category, negated), _ => return .char (.oneOf false [.category category negated])
  | none, some place => return .anchor place
  | none, none =>
    if c.isDigit then digitEscape c
    else return literal (← codeEscape c)

end Reading

end MountCensus.Regex
