/-!
Numbers with a binary fraction of 53 digits, as exact values: a sign, a mantissa and a power of two.
Every operation rounds the exact result once, to the nearest number, and a half goes to the even
mantissa.
-/

set_option autoImplicit false

namespace MountCensus

inductive Double where
  | finite (negative : Bool) (mantissa : Nat) (exponent : Int)
  | infinite (negative : Bool)
  | nan
deriving DecidableEq, Repr

namespace Double

/-- The least power of two that a mantissa is multiplied by. -/
def leastExponent : Int := -1074

def greatestExponent : Int := 971

/-- `n / d` rounded to a whole number, a half to the even one. -/
def roundedQuotient (n d : Nat) : Nat :=
  let q := n / d
  let r := n % d
  if 2 * r < d then q
  else if d < 2 * r then q + 1
  else if q % 2 = 0 then q else q + 1

/-- `n / d` in units of a power of two, as a fraction of whole numbers. -/
def inUnits (n d : Nat) (exponent : Int) : Nat × Nat :=
  if 0 ≤ exponent then (n, d * Nat.pow 2 exponent.toNat) else (n * Nat.pow 2 (-exponent).toNat, d)

/-- The power of two that gives `n / d` a mantissa of 53 digits, or the least one. -/
def exponentOf (n d : Nat) : Int :=
  let guess : Int := (n.log2 : Int) - d.log2 - 52
  let (a, b) := inUnits n d guess
  max leastExponent (if a < Nat.pow 2 52 * b then guess - 1 else guess)

/-- The number nearest to `n / d`. -/
def ofRatio (negative : Bool) (n d : Nat) : Double :=
  if n = 0 then .finite negative 0 0
  else
    let exponent := exponentOf n d
    let (a, b) := inUnits n d exponent
    let mantissa := roundedQuotient a b
    let (mantissa, exponent) :=
      if mantissa = Nat.pow 2 53 then (Nat.pow 2 52, exponent + 1) else (mantissa, exponent)
    if mantissa = 0 then .finite negative 0 0
    else if greatestExponent < exponent then .infinite negative
    else .finite negative mantissa exponent

/-- The number nearest to a whole number of powers of ten. -/
def ofScientific (negative : Bool) (digits : Nat) (exponent : Int) : Double :=
  if 0 ≤ exponent then ofRatio negative (digits * Nat.pow 10 exponent.toNat) 1
  else ofRatio negative digits (Nat.pow 10 (-exponent).toNat)

def ofInt (n : Int) : Double :=
  ofRatio (n < 0) n.natAbs 1

/-- A mantissa and a power of two, over a common power of two. -/
def scaled (negative : Bool) (mantissa : Nat) (shift : Nat) : Int :=
  (if negative then -1 else 1) * (mantissa * Nat.pow 2 shift : Nat)

/-- The number nearest to a whole number of powers of two; a sum of zero has no sign. -/
def ofScaled (n : Int) (exponent : Int) : Double :=
  if 0 ≤ exponent then ofRatio (n < 0) (n.natAbs * Nat.pow 2 exponent.toNat) 1
  else ofRatio (n < 0) n.natAbs (Nat.pow 2 (-exponent).toNat)

def neg : Double → Double
  | .finite negative mantissa exponent => .finite (!negative) mantissa exponent
  | .infinite negative => .infinite (!negative)
  | .nan => .nan

def add : Double → Double → Double
  | .finite s m e, .finite s' m' e' =>
    let least := min e e'
    ofScaled (scaled s m (e - least).toNat + scaled s' m' (e' - least).toNat) least
  | .nan, _ | _, .nan => .nan
  | .infinite s, .infinite s' => if s = s' then .infinite s else .nan
  | .infinite s, .finite .. => .infinite s
  | .finite .., .infinite s => .infinite s

/-- Strictly smaller; nothing compares with a result that is no number. -/
def less : Double → Double → Bool
  | .finite s m e, .finite s' m' e' =>
    let least := min e e'
    scaled s m (e - least).toNat < scaled s' m' (e' - least).toNat
  | .nan, _ | _, .nan => false
  | .infinite s, .infinite s' => s && !s'
  | .infinite s, .finite .. => s
  | .finite .., .infinite s => !s

/-- The whole number towards zero, if there is one. -/
def truncate? : Double → Option Int
  | .finite negative mantissa exponent =>
    let size := if 0 ≤ exponent then mantissa * Nat.pow 2 exponent.toNat
      else mantissa / Nat.pow 2 (-exponent).toNat
    some (if negative then -(size : Int) else size)
  | _ => none

theorem roundedQuotient_one (n : Nat) : roundedQuotient n 1 = n := by
  simp [roundedQuotient, Nat.mod_one]

example : ofScientific false 1 0 = .finite false (2 ^ 52) (-52) := by decide +kernel
example : ofScientific false 5 (-324) = .finite false 1 (-1074) := by decide +kernel
example : (ofScientific true 37 (-1)).truncate? = some (-3) := by decide +kernel

end Double

end MountCensus
