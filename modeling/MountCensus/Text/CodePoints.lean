/-!
Sets of characters given by a table of ranges.
-/

set_option autoImplicit false

namespace MountCensus.Text

/-- A set of characters, stored as the ascending code points at which membership changes: the first
is in, the second is the first one out again, and so on. -/
structure CodePoints where
  changes : List Nat

/-- A character is in the set when an odd number of changes lies at or below it. -/
def CodePoints.contains (set : CodePoints) (c : Char) : Bool :=
  (set.changes.takeWhile (· ≤ c.toNat)).length % 2 == 1

theorem CodePoints.contains_empty (c : Char) : (CodePoints.mk []).contains c = false := rfl

end MountCensus.Text
