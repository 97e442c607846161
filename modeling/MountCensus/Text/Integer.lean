import MountCensus.Text.Blank
import MountCensus.Text.Digit

/-!
The integers that a text can stand for. Decimal text may use the digits of any script, blanks at
both ends, one sign, and single underscores between digits; it has a largest admitted number of
digits. Hexadecimal text starts with `0x` and has neither sign nor limit.
-/

set_option autoImplicit false

namespace MountCensus.Text

/-- The largest number of decimal digits that is read or written. -/
def digitLimit : Nat := 4300

/-- What is said about a text with more decimal digits than that. -/
def tooManyDigits (count : Nat) : String :=
  "Exceeds the limit (" ++ toString digitLimit ++
    " digits) for integer string conversion: value has " ++ toString count ++
    " digits; use sys.set_int_max_str_digits() to increase the limit"

/-- The character in the Latin alphabet that is read in place of the given one, if there is one:
blanks become spaces and decimal digits lose their script. -/
def latinForm? (c : Char) : Option Char :=
  if c.toNat < 127 then some c
  else if isBlank c then some ' '
  else (decimalValue? c).map fun d => Char.ofNat (48 + d)

/-- A text that is plain throughout is left alone, controls included. -/
def latinForm (text : List Char) : Option (List Char) :=
  if text.all (·.toNat < 128) then some text else text.mapM latinForm?

/-- The blanks around a number in the Latin alphabet. -/
def isNumberPadding (c : Char) : Bool :=
  c == ' ' || (9 ≤ c.toNat && c.toNat ≤ 13)

def trimPadding (text : List Char) : List Char :=
  ((text.dropWhile isNumberPadding).reverse.dropWhile isNumberPadding).reverse

def decimalDigit? (c : Char) : Option Nat :=
  if c.isDigit then some (c.toNat - 48) else none

def hexDigit? (c : Char) : Option Nat :=
  if c.isDigit then some (c.toNat - 48)
  else if 'a' ≤ c ∧ c ≤ 'f' then some (c.toNat - 87)
  else if 'A' ≤ c ∧ c ≤ 'F' then some (c.toNat - 55)
  else none

/-- The digits of a number in which single underscores may stand between two digits. -/
def ungroup (digit? : Char → Option Nat) : List Char → Option (List Nat)
  | [] => none
  | [c] => (digit? c).map ([·])
  | c :: '_' :: rest => do return (← digit? c) :: (← ungroup digit? rest)
  | c :: d :: rest => do return (← digit? c) :: (← ungroup digit? (d :: rest))

def ofDigits (base : Nat) (digits : List Nat) : Nat :=
  digits.foldl (fun value digit => value * base + digit) 0

/-- The number written by unsigned decimal text, unless it has too many digits. -/
def natural? (text : List Char) : Option Nat := do
  let digits ← ungroup decimalDigit? text
  if digits.length ≤ digitLimit then some (ofDigits 10 digits) else none

def signed? : List Char → Option Int
  | '-' :: rest => (natural? rest).map fun n => -(n : Int)
  | '+' :: rest => (natural? rest).map Int.ofNat
  | text => (natural? text).map Int.ofNat

/-- The integer that decimal text stands for. -/
def integer? (text : String) : Option Int := do
  signed? (trimPadding (← latinForm text.toList))

/-- Whether a text is to be read as hexadecimal. -/
def hasHexMark : List Char → Bool
  | '0' :: c :: _ => c == 'x' || c == 'X'
  | _ => false

/-- The number after the mark `0x`; one underscore may follow the mark. -/
def hexadecimal? (text : List Char) : Option Nat := do
  match ← latinForm text with
  | _ :: _ :: '_' :: digits => (ungroup hexDigit? digits).map (ofDigits 16)
  | _ :: _ :: digits => (ungroup hexDigit? digits).map (ofDigits 16)
  | _ => none

theorem ofDigits_append_singleton (base : Nat) (digits : List Nat) (d : Nat) :
    ofDigits base (digits ++ [d]) = ofDigits base digits * base + d := by
  simp [ofDigits]

theorem ungroup_nil (digit? : Char → Option Nat) : ungroup digit? [] = none := rfl

example : integer? " -1_000 " = some (-1000) := by decide +kernel
example : integer? "1__0" = none := by decide +kernel

end MountCensus.Text
