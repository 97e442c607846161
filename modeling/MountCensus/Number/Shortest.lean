import MountCensus.Number.Double
import MountCensus.Text.Integer

/-!
The shortest decimal that reads back as a given number, and the text it is written as. Of two
decimals of the same length the nearer one is taken. Powers of ten from the fifth place behind the
point up to the sixteenth before it are written without an exponent.
-/

set_option autoImplicit false

namespace MountCensus.Double

/-- A positive number `digits · 10 ^ exponent`. -/
structure Decimal where
  digits : Nat
  exponent : Int
deriving DecidableEq, Repr

/-- `mantissa · 2 ^ exponent` in units of `10 ^ place`, as a fraction of whole numbers. -/
def inPlaces (mantissa : Nat) (exponent place : Int) : Nat × Nat :=
  let n := mantissa * Nat.pow 2 exponent.toNat * Nat.pow 10 (-place).toNat
  let d := Nat.pow 2 (-exponent).toNat * Nat.pow 10 place.toNat
  (n, d)

/-- The decimal with its last digit at `place` that reads back as the number, if there is one. The
bounds of what reads back are halves of the way to the neighbours; they are taken in quarters, since
a power of two has its lower neighbour at half the distance. -/
def decimalAt? (mantissa : Nat) (exponent place : Int) : Option Decimal :=
  let below := if mantissa = Nat.pow 2 52 ∧ leastExponent < exponent then 1 else 2
  let (n, d) := inPlaces (4 * mantissa) (exponent - 2) place
  let (low, _) := inPlaces (4 * mantissa - below) (exponent - 2) place
  let (high, _) := inPlaces (4 * mantissa + 2) (exponent - 2) place
  let closed := mantissa % 2 = 0
  let readsBack (digits : Nat) : Bool :=
    if closed then low ≤ digits * d && digits * d ≤ high
    else low < digits * d && digits * d < high
  let floor := n / d
  let candidates := if n - floor * d = 0 then [floor]
    else if 2 * (n - floor * d) < d ∨ (2 * (n - floor * d) = d ∧ floor % 2 = 0)
      then [floor, floor + 1] else [floor + 1, floor]
  (candidates.find? fun digits => digits ≠ 0 && readsBack digits).map (⟨·, place⟩)

def decimalFrom (mantissa : Nat) (exponent : Int) : Nat → Int → Decimal
  | 0, place => ⟨(inPlaces mantissa exponent place).1 / (inPlaces mantissa exponent place).2, place⟩
  | fuel + 1, place =>
    match decimalAt? mantissa exponent place with
    | some decimal => decimal
    | none => decimalFrom mantissa exponent fuel (place - 1)

/-- The shortest decimal for a positive number. The search starts at a place at or above the first
digit and goes down by one place at a time. -/
def shortest (mantissa : Nat) (exponent : Int) : Decimal :=
  let bits : Int := (mantissa.log2 : Int) + exponent
  let start := Int.fdiv (bits * 30103) 100000 + 2
  decimalFrom mantissa exponent 25 start

/-- A decimal without zeros at its end. -/
def Decimal.trimmed (decimal : Decimal) : Decimal :=
  go decimal.digits decimal
where
  go : Nat → Decimal → Decimal
    | 0, d => d
    | fuel + 1, d =>
      if d.digits ≠ 0 ∧ d.digits % 10 = 0 then go fuel ⟨d.digits / 10, d.exponent + 1⟩ else d

def padded (digits : List Char) (width : Nat) : List Char :=
  List.replicate (width - digits.length) '0' ++ digits

/-- The text of a positive decimal. -/
def Decimal.text (decimal : Decimal) : List Char :=
  let digits := Nat.toDigits 10 decimal.digits
  let point : Int := digits.length + decimal.exponent
  if -4 < point ∧ point ≤ 16 then
    if point ≤ 0 then
      '0' :: '.' :: List.replicate (-point).toNat '0' ++ digits
    else if digits.length ≤ point.toNat then
      digits ++ List.replicate (point.toNat - digits.length) '0' ++ ['.', '0']
    else digits.take point.toNat ++ '.' :: digits.drop point.toNat
  else
    let power := point - 1
    let head := match digits with
      | [d] => [d]
      | d :: more => d :: '.' :: more
      | [] => []
    head ++ 'e' :: (if power < 0 then '-' else '+') ::
      padded (Nat.toDigits 10 power.natAbs) 2

def text : Double → String
  | .finite negative mantissa exponent =>
    let body := if mantissa = 0 then ['0', '.', '0']
      else (shortest mantissa exponent).trimmed.text
    String.ofList (if negative then '-' :: body else body)
  | .infinite negative => if negative then "-inf" else "inf"
  | .nan => "nan"

/-- The number that an unsigned decimal text with an optional fraction and exponent stands for. -/
def ofParts (negative : Bool) (whole fraction : List Nat) (exponent : Int) : Double :=
  let digits := Text.ofDigits 10 (whole ++ fraction)
  let exponent := exponent - fraction.length
  -- beyond these bounds the result does not depend on the exponent any more
  if 400 < exponent + (whole ++ fraction).length ∧ digits ≠ 0 then .infinite negative
  else if exponent + (whole ++ fraction).length < -400 then .finite negative 0 0
  else ofScientific negative digits exponent

example : (ofScientific false 1 (-1)).text = "0.1" := by decide +kernel
example : (ofScientific false 1 22).text = "1e+22" := by decide +kernel
example : (ofScientific false 5 (-324)).text = "5e-324" := by decide +kernel
example : (ofScientific true 1234567890123456 0).text = "-1234567890123456.0" := by decide +kernel
example : (ofScientific false 1 (-5)).text = "1e-05" := by decide +kernel

end MountCensus.Double
