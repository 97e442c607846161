import MountCensus.Regex.Syntax
import MountCensus.Text.Alphanumeric
import MountCensus.Text.Blank
import MountCensus.Text.Case
import MountCensus.Text.Digit

/-!
Matching by trying: a tree is run at a place of the subject with a goal, what has to hold behind it,
and the alternatives are tried in order until the goal is reached. Repetitions stop when a pass has
not moved, so every run ends.
-/

set_option autoImplicit false

namespace MountCensus.Regex

/-- A place in the subject: what lies before it, nearest first, and after it, and where groups began
and ended so far, latest first. -/
structure Place where
  before : List Char
  after : List Char
  position : Nat
  marks : List (Nat × Nat)
deriving DecidableEq, Repr

def Place.start (subject : List Char) : Place :=
  ⟨[], subject, 0, []⟩

def Place.mark (place : Place) (key : Nat) : Place :=
  { place with marks := (key, place.position) :: place.marks }

/-- The place a number of characters earlier. -/
def Place.back (place : Place) (count : Nat) : Option Place :=
  if count ≤ place.position then
    some ⟨place.before.drop count, (place.before.take count).reverse ++ place.after,
      place.position - count, place.marks⟩
  else none

/-- What a group has matched last. -/
def Place.captured (place : Place) (group : Nat) : Option (List Char) := do
  let start ← place.marks.lookup (2 * group)
  let stop ← place.marks.lookup (2 * group + 1)
  if start ≤ stop then
    some (((place.before.reverse ++ place.after).drop start).take (stop - start))
  else none

/-- The codes a pattern may name to match a character. -/
def Flags.codes (flags : Flags) (c : Char) : List Nat :=
  if !flags.ignoreCase then [c.toNat]
  else if flags.ascii then Text.asciiCaseless c
  else Text.caseless c

def Category.contains (ascii : Bool) (c : Char) : Category → Bool
  | .digit => if ascii then c.isDigit else Text.isDecimal c
  | .space => if ascii then c == ' ' || (9 ≤ c.toNat && c.toNat ≤ 13) else Text.isBlank c
  | .word => if ascii then c.isAlphanum || c == '_' else Text.isWordChar c

def Member.contains (flags : Flags) (c : Char) : Member → Bool
  | .single code => (flags.codes c).contains code
  | .range low high => (flags.codes c).any fun code => low ≤ code && code ≤ high
  | .category kind negated => kind.contains flags.ascii c != negated

def CharSpec.admits (flags : Flags) (c : Char) : CharSpec → Bool
  | .any => flags.dotAll || c != '\n'
  | .oneOf negated members => members.any (·.contains flags c) != negated

def Place.atWord (flags : Flags) (c : Option Char) : Bool :=
  c.any (Category.word.contains flags.ascii ·)

/-- There is no boundary in an empty subject, and no place without one either. -/
def Anchor.holds (flags : Flags) (place : Place) : Anchor → Bool
  | .textStart => place.before.isEmpty
  | .lineStart => place.before.isEmpty || (flags.multiline && place.before.head? == some '\n')
  | .textEnd => place.after.isEmpty
  | .lineEnd => place.after.isEmpty || place.after == ['\n'] ||
      (flags.multiline && place.after.head? == some '\n')
  | .wordBoundary negated =>
    !(place.before.isEmpty && place.after.isEmpty) &&
      (Place.atWord flags place.before.head? != Place.atWord flags place.after.head?) != negated

/-- What is to be reached from a place; the answer is the place where it has been reached. -/
abbrev Goal := Place → Option Place

/-- One character that is as specified, then the goal. -/
def CharSpec.run (spec : CharSpec) (flags : Flags) (goal : Goal) : Goal
  | ⟨before, c :: rest, position, marks⟩ =>
    if spec.admits flags c then goal ⟨c :: before, rest, position + 1, marks⟩ else none
  | ⟨_, [], _, _⟩ => none

/-- A text once more; letters are compared by their small form only. -/
def follow (flags : Flags) (goal : Goal) : List Char → Goal
  | [], place => goal place
  | c :: text, ⟨before, d :: rest, position, marks⟩ =>
    let same := if !flags.ignoreCase then c == d
      else if flags.ascii then c.toLower == d.toLower
      else Text.smallLetter c == Text.smallLetter d
    if same then follow flags goal text ⟨d :: before, rest, position + 1, marks⟩ else none
  | _ :: _, ⟨_, [], _, _⟩ => none

/-- A number of passes, then the goal. -/
def passes (pass : Goal → Goal) (goal : Goal) : Nat → Goal
  | 0 => goal
  | count + 1 => pass (passes pass goal count)

/-- As many passes as possible, then the goal; `last` is where the pass before began. -/
def greedily (pass : Goal → Goal) (goal : Goal) : Nat → Option Nat → Goal
  | 0, _, place => goal place
  | left + 1, last, place =>
    if last = some place.position then goal place
    else pass (greedily pass goal left (some place.position)) place <|> goal place

/-- As few passes as possible, then the goal. -/
def reluctantly (pass : Goal → Goal) (goal : Goal) : Nat → Option Nat → Goal
  | 0, _, place => goal place
  | left + 1, last, place =>
    goal place <|>
      if last = some place.position then none
      else pass (reluctantly pass goal left (some place.position)) place

/-- As many passes as possible, each taken for good. -/
def possessively (pass : Goal → Goal) : Nat → Option Nat → Place → Place
  | 0, _, place => place
  | left + 1, last, place =>
    if last = some place.position then place
    else match pass some place with
      | some further => possessively pass left (some place.position) further
      | none => place

/-- One more pass than there are characters is enough to be standing still. -/
def passesLeft (least : Nat) (greatest : Option Nat) (place : Place) : Nat :=
  match greatest with
  | some n => min (n - least) (place.after.length + 1)
  | none => place.after.length + 1

def repeatedly (pass : Goal → Goal) (least : Nat) (greatest : Option Nat) (goal : Goal) :
    Preference → Goal
  | .greedy =>
    passes pass (fun place => greedily pass goal (passesLeft least greatest place) none place) least
  | .reluctant =>
    passes pass (fun place => reluctantly pass goal (passesLeft least greatest place) none place)
      least
  | .possessive =>
    fun place =>
      (passes (fun goal place => (pass some place).bind goal) some least place).bind fun place =>
        goal (possessively pass (passesLeft least greatest place) none place)

/-- The tree at a place, then the goal. -/
def run : Regex → Flags → Goal → Goal
  | .empty, _, goal, place => goal place
  | .char spec, flags, goal, place => spec.run flags goal place
  | .anchor a, flags, goal, place => if a.holds flags place then goal place else none
  | .seq a b, flags, goal, place => run a flags (run b flags goal) place
  | .alt a b, flags, goal, place => run a flags goal place <|> run b flags goal place
  | .repeated least greatest preference body, flags, goal, place =>
    repeatedly (run body flags) least greatest goal preference place
  | .capture group body, flags, goal, place =>
    run body flags (fun after => goal (after.mark (2 * group + 1))) (place.mark (2 * group))
  | .scoped on off body, flags, goal, place => run body (flags.scoped on off) goal place
  | .atomic body, flags, goal, place => (run body flags some place).bind goal
  | .look ahead negated body, flags, goal, place =>
    let start := if ahead then some place else place.back body.width.least
    match start.bind (run body flags some) with
    | some found => if negated then none else goal { place with marks := found.marks }
    | none => if negated then goal place else none
  | .backreference group _, flags, goal, place =>
    (place.captured group).bind fun text => follow flags goal text place
  | .conditional group yes no, flags, goal, place =>
    if (place.captured group).isSome then run yes flags goal place else run no flags goal place

/-- Whether the whole subject matches. -/
def fullMatch (tree : Regex) (flags : Flags) (subject : List Char) : Bool :=
  (run tree flags (fun place => if place.after.isEmpty then some place else none)
    (Place.start subject)).isSome

theorem run_seq (a b : Regex) (flags : Flags) (goal : Goal) :
    run (.seq a b) flags goal = run a flags (run b flags goal) := by
  funext place
  rfl

theorem run_empty (flags : Flags) (goal : Goal) : run .empty flags goal = goal := by
  funext place
  rfl

end MountCensus.Regex
