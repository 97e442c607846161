import MountCensus.Regex.Syntax
import MountCensus.Regex.Token

/-!
What is known while a pattern is being read: the place in its text, the flags set for the whole of
it, and the groups met so far. A group is open until its closing parenthesis has been read; only a
closed group has a width, and only a closed group may be referred to.
-/

set_option autoImplicit false

namespace MountCensus.Regex

structure Progress where
  source : Source
  flags : Flags
  names : List (String × Nat)
  /-- The widths by group number; none for the whole pattern, which is group 0, and for open
  groups. -/
  widths : List (Option Width)
  /-- Inside a look behind, the number of groups that were met before it. -/
  behind : Option Nat
  /-- Groups asked for by number in a condition, each with the position of its first mention. -/
  conditions : List (Nat × Nat)
deriving Repr

abbrev Reading := StateT Progress (Except Fault)

def Progress.start (source : Source) : Progress :=
  ⟨source, {}, [], [none], none, []⟩

def Progress.isClosed (progress : Progress) (group : Nat) : Bool :=
  (progress.widths[group]?.join).isSome

namespace Reading

def peek : Reading (Option Token) :=
  return (← get).source.tokens.head?

def position : Reading Nat :=
  return (← get).source.position

/-- Refuses the pattern at the given number of characters before the present place. -/
def fail {α : Type} (defect : Defect) (back : Nat := 0) : Reading α := do
  throw (.defect defect (some ((← position) - back)))

def failAt {α : Type} (position : Nat) (defect : Defect) : Reading α :=
  throw (.defect defect (some position))

/-- Moves over the next tokens. -/
def skip (count : Nat) : Reading Unit := do
  let progress ← get
  let source ← progress.source.skip count
  set { progress with source }

def next : Reading (Option Token) := do
  let token ← peek
  skip 1
  return token

/-- Moves over the next token if it is the given character. -/
def accept (c : Char) : Reading Bool := do
  if (← peek) = some (.plain c) then
    skip 1
    return true
  else return false

/-- The characters in front of the first token that is not one of the wanted characters. -/
def run (wanted : Char → Bool) : List Token → List Char
  | .plain c :: rest => if wanted c then c :: run wanted rest else []
  | _ => []

/-- Moves over wanted characters, at most `limit` of them. -/
def takeUpTo (limit : Nat) (wanted : Char → Bool) : Reading (List Char) := do
  let chars := run wanted ((← get).source.tokens.take limit)
  skip chars.length
  return chars

def takeWhile (wanted : Char → Bool) : Reading (List Char) := do
  let chars := run wanted (← get).source.tokens
  skip chars.length
  return chars

/-- What stands before the given terminator, which is moved over too. -/
def takeUntil (terminator : Char) (what : String) : Reading (List Char) := do
  let tokens := (← get).source.tokens
  let name := tokens.takeWhile (· ≠ .plain terminator)
  let chars := name.flatMap Token.chars
  skip (name.length + 1)
  if name.length = tokens.length then
    if chars.isEmpty then fail (.missingName what)
    else fail (.unterminatedName terminator) chars.length
  else if chars.isEmpty then fail (.missingName what) 1
  else return chars

/-- A new group, still open. A name may be given once. -/
def openGroup (name : Option (List Char)) : Reading Nat := do
  let progress ← get
  let group := progress.widths.length
  match name with
  | none => set { progress with widths := progress.widths ++ [none] }
  | some chars =>
    let name := String.ofList chars
    match progress.names.lookup name with
    | some former => fail (.redefinedGroup name group former) (chars.length + 1)
    | none =>
      set { progress with
        widths := progress.widths ++ [none]
        names := progress.names ++ [(name, group)] }
  return group

def closeGroup (group : Nat) (width : Width) : Reading Unit :=
  modify fun progress => { progress with widths := progress.widths.set group (some width) }

/-- Inside a look behind only groups that were closed before it may be referred to. -/
def checkBehind (group : Nat) : Reading Unit := do
  let progress ← get
  match progress.behind with
  | none => return
  | some known =>
    if !progress.isClosed group then fail .openGroupReference
    else if known ≤ group then fail .lookbehindReference

/-- A reference to a group, whose text ended just before the present place. -/
def reference (group : Nat) (mentionLength : Nat) : Reading Regex := do
  match (← get).widths[group]? with
  | some (some width) =>
    checkBehind group
    return .backreference group width
  | some none => fail .openGroupReference mentionLength
  | none => fail (.invalidReference group) (mentionLength - 1)

end Reading

end MountCensus.Regex
