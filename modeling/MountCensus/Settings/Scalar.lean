import MountCensus.Value

/-!
What an unquoted word of a setting stands for: nothing, a truth value, a number, or itself. Numbers
may be grouped by underscores; whole numbers have four bases, and colons group by sixty.
-/

set_option autoImplicit false

namespace MountCensus.Settings

def nullWords : List String := ["~", "null", "Null", "NULL", ""]

def trueWords : List String :=
  ["yes", "Yes", "YES", "true", "True", "TRUE", "on", "On", "ON"]

def falseWords : List String :=
  ["no", "No", "NO", "false", "False", "FALSE", "off", "Off", "OFF"]

/-- A sign in front of the text, and the rest. -/
def signOf : List Char → Bool × List Char
  | '-' :: rest => (true, rest)
  | '+' :: rest => (false, rest)
  | text => (false, text)

/-- A run of digits and underscores that is not empty. -/
def isGroup (digit : Char → Bool) (text : List Char) : Bool :=
  !text.isEmpty && text.all fun c => digit c || c == '_'

/-- The same with a digit in front. -/
def isNumeral (text : List Char) : Bool :=
  text.head?.any Char.isDigit && isGroup Char.isDigit text

def digitsOf (digit? : Char → Option Nat) (text : List Char) : List Nat :=
  text.filterMap digit?

/-- One or two digits below sixty. -/
def isSixtieth (text : List Char) : Bool :=
  match text with
  | [d] => d.isDigit
  | [t, d] => '0' ≤ t && t ≤ '5' && d.isDigit
  | _ => false

/-- The size of a whole number without its sign. -/
def wholeSize? (text : List Char) : Option Nat :=
  match text with
  | ['0'] => some 0
  | '0' :: 'b' :: digits =>
    if isGroup (fun c => c == '0' || c == '1') digits then
      some (Text.ofDigits 2 (digitsOf Text.decimalDigit? digits))
    else none
  | '0' :: 'x' :: digits =>
    if isGroup (fun c => (Text.hexDigit? c).isSome) digits then
      some (Text.ofDigits 16 (digitsOf Text.hexDigit? digits))
    else none
  | '0' :: digits =>
    if isGroup (fun c => '0' ≤ c && c ≤ '7') digits then
      some (Text.ofDigits 8 (digitsOf Text.decimalDigit? digits))
    else none
  | _ =>
    match text.splitOnP (· == ':') with
    | first :: sixtieths =>
      if isNumeral first && sixtieths.all isSixtieth then
        let number (part : List Char) : Nat :=
          Text.ofDigits 10 (digitsOf Text.decimalDigit? part)
        some (sixtieths.foldl (fun n part => n * 60 + number part) (number first))
      else none
    | [] => none

/-- The power of ten at the end of a number, if the text is one. -/
def power? (text : List Char) : Option Int :=
  match text with
  | [] => some 0
  | e :: rest =>
    if e == 'e' || e == 'E' then
      let (negative, digits) := signOf rest
      if !digits.isEmpty && digits.all Char.isDigit then
        let n : Int := Text.ofDigits 10 (digitsOf Text.decimalDigit? digits)
        some (if negative then -n else n)
      else none
    else none

def isPowerMark (c : Char) : Bool :=
  c == 'e' || c == 'E'

/-- A number with a point, with a power of ten, or with both. -/
def fraction? (negative : Bool) (text : List Char) : Option Double :=
  let mantissa := text.takeWhile fun c => !isPowerMark c
  let tail := text.dropWhile fun c => !isPowerMark c
  let whole := mantissa.takeWhile (· != '.')
  let fraction := (mantissa.dropWhile (· != '.')).drop 1
  let pointed := mantissa.contains '.'
  let digit (c : Char) : Bool := c.isDigit || c == '_'
  if isNumeral whole && fraction.all digit && (pointed || !tail.isEmpty) then
    (power? tail).map (Double.ofParts negative (digitsOf Text.decimalDigit? whole)
      (digitsOf Text.decimalDigit? fraction))
  else none

/-- A number whose first character is its point; a power of ten needs a sign then. -/
def bareFraction? (text : List Char) : Option Double :=
  match text with
  | '.' :: rest =>
    let digits := rest.takeWhile fun c => !isPowerMark c
    let tail := rest.dropWhile fun c => !isPowerMark c
    let signed := match tail with
      | _ :: c :: _ => c == '-' || c == '+'
      | _ => tail.isEmpty
    if isGroup Char.isDigit digits && signed then
      (power? tail).map (Double.ofParts false [] (digitsOf Text.decimalDigit? digits))
    else none
  | _ => none

/-- What an unquoted word stands for. -/
def plainValue (word : List Char) : Value :=
  let text := String.ofList word
  let (negative, unsigned) := signOf word
  if nullWords.contains text then .null
  else if trueWords.contains text then .bool true
  else if falseWords.contains text then .bool false
  else if [".inf", ".Inf", ".INF"].contains (String.ofList unsigned) then
    .float (.infinite negative)
  else if [".nan", ".NaN", ".NAN"].contains text then .float .nan
  else match wholeSize? unsigned, fraction? negative unsigned, bareFraction? word with
    | some n, _, _ => .int (if negative then -(n : Int) else n)
    | none, some x, _ => .float x
    | none, none, some x => .float x
    | none, none, none => .text text

example : (match plainValue "0x10".toList with | .int n => n | _ => 0) = 16 := by decide +kernel
example : (match plainValue "1e3".toList with | .float x => x.text | _ => "") = "1000.0" := by
  decide +kernel

end MountCensus.Settings
