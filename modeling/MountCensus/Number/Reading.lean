import MountCensus.Number.Double

/-!
Readings of a clock: whole numbers, which are added exactly, or numbers with a binary fraction.
-/

set_option autoImplicit false

namespace MountCensus

inductive Reading where
  | whole (n : Int)
  | fraction (x : Double)
deriving DecidableEq, Repr

namespace Reading

def double : Reading → Double
  | .whole n => .ofInt n
  | .fraction x => x

def add : Reading → Reading → Reading
  | .whole a, .whole b => .whole (a + b)
  | a, b => .fraction (a.double.add b.double)

def sub : Reading → Reading → Reading
  | .whole a, .whole b => .whole (a - b)
  | a, b => .fraction (a.double.add b.double.neg)

/-- The reading itself if it is above zero, otherwise zero. -/
def positivePart : Reading → Reading
  | .whole n => .whole (max 0 n)
  | .fraction x => if (Double.finite false 0 0).less x then .fraction x else .whole 0

/-- The whole number towards zero. -/
def truncate : Reading → Int
  | .whole n => n
  | .fraction x => x.truncate?.getD 0

theorem sub_whole (a b : Int) : (Reading.whole a).sub (.whole b) = .whole (a - b) := rfl

theorem positivePart_whole (n : Int) : (Reading.whole n).positivePart = .whole (max 0 n) := rfl

end Reading

end MountCensus
