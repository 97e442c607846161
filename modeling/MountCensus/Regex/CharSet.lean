import MountCensus.Regex.Escape

/-!
Character sets, `[...]`: reading one, and the rules by which a hyphen makes a range.
-/

set_option autoImplicit false

namespace MountCensus.Regex.Reading

/-- A member of a set that starts with the given token. -/
def member : Token → Reading Member
  | .plain c => return .single c.toNat
  | .escaped c => setEscape c

/-- The range between two members; both have to be characters, in ascending order. -/
def memberRange (low high : Token) (first last : Member) : Reading Member := do
  let refuse {α : Type} : Reading α :=
    fail (.badRange low.text high.text) (low.width + 1 + high.width)
  match first, last with
  | .single a, .single b => if b < a then refuse else return .range a b
  | _, _ => refuse

/-- The members up to the closing bracket; `start` is the position of the opening one. A bracket
that would close an empty set is its first member, and a hyphen in front of the closing bracket is
its last. -/
def members (start : Nat) : Nat → List Member → Reading (List Member)
  | 0, _ => failAt start .unterminatedSet
  | fuel + 1, found => do
    let some token ← next | failAt start .unterminatedSet
    if token = .plain ']' && !found.isEmpty then return found.reverse
    let first ← member token
    if ← accept '-' then
      let some bound ← next | failAt start .unterminatedSet
      if bound = .plain ']' then return (.single 45 :: first :: found).reverse
      let last ← member bound
      members start fuel ((← memberRange token bound first last) :: found)
    else members start fuel (first :: found)

/-- A set whose opening bracket has just been read. -/
def charSet : Reading Regex := do
  let start := (← position) - 1
  let negated ← accept '^'
  let found ← members start ((← get).source.tokens.length + 1) []
  return .char (.oneOf negated found)

end MountCensus.Regex.Reading
