import MountCensus.Toml.Text
import MountCensus.Value

/-!
Numbers, dates and times of a configuration file.
-/

set_option autoImplicit false

namespace MountCensus.Toml

/-- Digits at the front, single underscores between them left out, and the rest. The flag says
whether a digit stands right in front. -/
def digitsAfter (digit? : Char → Option Nat) : Bool → List Char → List Nat × List Char
  | _, [] => ([], [])
  | behindDigit, c :: rest =>
    match digit? c with
    | some d =>
      let (digits, after) := digitsAfter digit? true rest
      (d :: digits, after)
    | none =>
      if behindDigit && c == '_' && (rest.head?.bind digit?).isSome then
        digitsAfter digit? false rest
      else ([], c :: rest)

def digitRun (digit? : Char → Option Nat) (text : List Char) : List Nat × List Char :=
  digitsAfter digit? false text

def digitBelow (base : Nat) (c : Char) : Option Nat :=
  (Text.hexDigit? c).filter (· < base)

/-- A whole number in another base than ten. -/
def basedNumber? : List Char → Option (Value × List Char)
  | '0' :: mark :: rest =>
    let base := match mark with
      | 'x' => 16
      | 'o' => 8
      | 'b' => 2
      | _ => 0
    let (digits, after) := digitRun (digitBelow base) rest
    if digits.isEmpty then none else some (.int (Text.ofDigits base digits), after)
  | _ => none

/-- The fraction behind a point, if digits follow it. -/
def fractionRun (text : List Char) : List Nat × List Char :=
  match text with
  | '.' :: rest =>
    let (digits, after) := digitRun Text.decimalDigit? rest
    if digits.isEmpty then ([], text) else (digits, after)
  | _ => ([], text)

def signed (text : List Char) : Bool × List Char :=
  match text with
  | '-' :: rest => (true, rest)
  | '+' :: rest => (false, rest)
  | _ => (false, text)

/-- The power of ten behind its mark, if digits follow. -/
def powerRun (text : List Char) : Option Int × List Char :=
  match text with
  | e :: rest =>
    if e == 'e' || e == 'E' then
      let (negative, rest) := signed rest
      let (digits, after) := digitRun Text.decimalDigit? rest
      let n : Int := Text.ofDigits 10 digits
      if digits.isEmpty then (none, text) else (some (if negative then -n else n), after)
    else (none, text)
  | [] => (none, [])

/-- A whole number or one with a fraction or a power of ten. Zeros in front are not admitted. -/
def decimalNumber? (text : List Char) : Option (Except Fault (Read Value)) :=
  let (negative, unsigned) := signed text
  let (whole, after) := match unsigned with
    | '0' :: rest => ([0], rest)
    | _ => digitRun Text.decimalDigit? unsigned
  let (fraction, after) := fractionRun after
  let (power, after) := powerRun after
  if whole.isEmpty then none
  else if fraction.isEmpty && power.isNone then
    if Text.digitLimit < whole.length then some (.error (.tooManyDigits whole.length))
    else
      let n : Int := Text.ofDigits 10 whole
      some (.ok (.int (if negative then -n else n), after))
  else some (.ok (.float (Double.ofParts negative whole fraction (power.getD 0)), after))

def specialNumber? (text : List Char) : Option (Value × List Char) :=
  let (negative, unsigned) := signed text
  match unsigned with
  | 'i' :: 'n' :: 'f' :: rest => some (.float (.infinite negative), rest)
  | 'n' :: 'a' :: 'n' :: rest => some (.float .nan, rest)
  | _ => none

/-- A number of exactly so many digits. -/
def fixed? (count : Nat) (text : List Char) : Option (Nat × List Char) := do
  let digits ← (text.take count).mapM Text.decimalDigit?
  if digits.length = count then some (Text.ofDigits 10 digits, text.drop count) else none

def below? (bound count : Nat) (text : List Char) : Option (Nat × List Char) :=
  (fixed? count text).filter (·.1 < bound)

/-- Six places of a second; further ones are cut off. -/
def microseconds (digits : List Nat) : Nat :=
  Text.ofDigits 10 ((digits ++ List.replicate 6 0).take 6)

def time? (text : List Char) : Option (TimeOfDay × List Char) := do
  let (hour, text) ← below? 24 2 text
  let ':' :: text := text | none
  let (minute, text) ← below? 60 2 text
  let plain := (⟨hour, minute, 0, 0⟩, text)
  match text with
  | ':' :: text =>
    let some (second, text) := below? 60 2 text | some plain
    match text with
    | '.' :: rest =>
      let digits := (rest.takeWhile Char.isDigit).filterMap Text.decimalDigit?
      if digits.isEmpty then some (⟨hour, minute, second, 0⟩, text)
      else some (⟨hour, minute, second, microseconds digits⟩, rest.drop digits.length)
    | _ => some (⟨hour, minute, second, 0⟩, text)
  | _ => some plain

def isLeapYear (year : Nat) : Bool :=
  year % 4 = 0 && (year % 100 ≠ 0 || year % 400 = 0)

def daysInMonth (year month : Nat) : Nat :=
  if month = 2 then if isLeapYear year then 29 else 28
  else if month = 4 || month = 6 || month = 9 || month = 11 then 30
  else 31

def date? (text : List Char) : Option (Date × List Char) := do
  let (year, text) ← fixed? 4 text
  let '-' :: text := text | none
  let (month, text) ← below? 13 2 text
  let '-' :: text := text | none
  let (day, text) ← below? 32 2 text
  if month = 0 || day = 0 then none else some (⟨year, month, day⟩, text)

/-- A distance from universal time in minutes. -/
def offset? (text : List Char) : Option Int × List Char :=
  match text with
  | 'Z' :: rest | 'z' :: rest => (some 0, rest)
  | sign :: rest =>
    if sign == '+' || sign == '-' then
      match below? 24 2 rest with
      | some (hours, ':' :: more) =>
        match below? 60 2 more with
        | some (minutes, after) =>
          let total : Int := hours * 60 + minutes
          (some (if sign == '-' then -total else total), after)
        | none => (none, text)
      | _ => (none, text)
    else (none, text)
  | [] => (none, [])

/-- A date, a time or both. A date that no calendar has is refused. -/
def moment? (text : List Char) : Option (Except Fault (Read Value)) :=
  match date? text with
  | some (date, after) =>
    if date.year = 0 || daysInMonth date.year date.month < date.day then some (.error .invalid)
    else
      match after with
      | c :: rest =>
        match if c == 'T' || c == 't' || c == ' ' then time? rest else none with
        | some (time, after) =>
          let (offset, after) := offset? after
          some (.ok (.moment (.dateTime date time offset), after))
        | none => some (.ok (.moment (.date date), after))
      | [] => some (.ok (.moment (.date date), after))
  | none => (time? text).map fun (time, after) => .ok (.moment (.time time), after)

def word? (text : List Char) : Option (Value × List Char) :=
  match text with
  | 't' :: 'r' :: 'u' :: 'e' :: rest => some (.bool true, rest)
  | 'f' :: 'a' :: 'l' :: 's' :: 'e' :: rest => some (.bool false, rest)
  | _ => none

/-- A value that is no collection. -/
def scalar (text : List Char) : Except Fault (Read Value) :=
  match text? text with
  | some read => read.map fun (s, rest) => (.text s, rest)
  | none =>
    match word? text, moment? text, basedNumber? text with
    | some read, _, _ => .ok read
    | none, some read, _ => read
    | none, none, some read => .ok read
    | none, none, none =>
      match decimalNumber? text, specialNumber? text with
      | some read, _ => read
      | none, some read => .ok read
      | none, none => .error .invalid

end MountCensus.Toml
