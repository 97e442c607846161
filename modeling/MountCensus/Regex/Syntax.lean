/-!
Regular expressions as trees, the flags that colour their meaning, and the least and greatest number
of characters that a tree can match.
-/

set_option autoImplicit false

namespace MountCensus

/-- How letters, dots and anchors are to be understood. -/
structure Regex.Flags where
  ignoreCase : Bool := false
  multiline : Bool := false
  dotAll : Bool := false
  verbose : Bool := false
  ascii : Bool := false
  unicode : Bool := false
  template : Bool := false
deriving DecidableEq, Repr

/-- Flags that are set in either. -/
def Regex.Flags.union (a b : Flags) : Flags where
  ignoreCase := a.ignoreCase || b.ignoreCase
  multiline := a.multiline || b.multiline
  dotAll := a.dotAll || b.dotAll
  verbose := a.verbose || b.verbose
  ascii := a.ascii || b.ascii
  unicode := a.unicode || b.unicode
  template := a.template || b.template

def Regex.Flags.without (a b : Flags) : Flags where
  ignoreCase := a.ignoreCase && !b.ignoreCase
  multiline := a.multiline && !b.multiline
  dotAll := a.dotAll && !b.dotAll
  verbose := a.verbose && !b.verbose
  ascii := a.ascii && !b.ascii
  unicode := a.unicode && !b.unicode
  template := a.template && !b.template

def Regex.Flags.isEmpty (flags : Flags) : Bool :=
  flags == {}

/-- The flags inside a group that turns some on and some off; a group that names an alphabet takes
the place of the alphabet around it. -/
def Regex.Flags.scoped (flags on off : Flags) : Flags :=
  let base :=
    if on.ascii || on.unicode then { flags with ascii := false, unicode := false } else flags
  (base.union on).without off

inductive Regex.Category where
  | digit
  | space
  | word
deriving DecidableEq, Repr

/-- A member of a character set. Characters are given by their code, since a pattern may name codes
that no character has. -/
inductive Regex.Member where
  | single (code : Nat)
  | range (low high : Nat)
  | category (category : Category) (negated : Bool)
deriving DecidableEq, Repr

/-- What one character of the subject is held against. -/
inductive Regex.CharSpec where
  | any
  | oneOf (negated : Bool) (members : List Member)
deriving DecidableEq, Repr

inductive Regex.Anchor where
  | lineStart
  | lineEnd
  | textStart
  | textEnd
  | wordBoundary (negated : Bool)
deriving DecidableEq, Repr

/-- Which number of passes a repetition tries first, and whether it goes back on its choice. -/
inductive Regex.Preference where
  | greedy
  | reluctant
  | possessive
deriving DecidableEq, Repr

/-- The least and the greatest number of characters of a match. -/
structure Regex.Width where
  least : Nat
  greatest : Nat
deriving DecidableEq, Repr

open Regex in
inductive Regex where
  | empty
  | char (spec : CharSpec)
  | anchor (anchor : Anchor)
  | seq (first second : Regex)
  | alt (first second : Regex)
  | repeated (least : Nat) (greatest : Option Nat) (preference : Preference) (body : Regex)
  | capture (group : Nat) (body : Regex)
  | scoped (on off : Flags) (body : Regex)
  | atomic (body : Regex)
  | look (ahead negated : Bool) (body : Regex)
  | backreference (group : Nat) (width : Width)
  | conditional (group : Nat) (yes no : Regex)
deriving DecidableEq, Repr

namespace Regex

def literal (code : Nat) : Regex :=
  .char (.oneOf false [.single code])

def sequence (items : List Regex) : Regex :=
  items.foldr .seq .empty

/-- At least one branch is expected. -/
def alternatives : List Regex → Regex
  | [] => .empty
  | [branch] => branch
  | branch :: more => .alt branch (alternatives more)

/-- Widths do not grow beyond this bound. -/
def widthLimit : Nat := Nat.pow 2 64

def Width.capped (width : Width) : Width :=
  ⟨min width.least widthLimit, min width.greatest widthLimit⟩

def width : Regex → Width
  | .empty | .anchor _ | .look .. => ⟨0, 0⟩
  | .char _ => ⟨1, 1⟩
  | .seq a b => Width.capped ⟨a.width.least + b.width.least, a.width.greatest + b.width.greatest⟩
  | .alt a b | .conditional _ a b =>
    ⟨min a.width.least b.width.least, max a.width.greatest b.width.greatest⟩
  | .repeated least greatest _ body =>
    Width.capped ⟨body.width.least * least, match greatest with
      | some n => body.width.greatest * n
      | none => if body.width.greatest = 0 then 0 else widthLimit⟩
  | .capture _ body | .scoped _ _ body | .atomic body => body.width
  | .backreference _ w => w

def isAnchor : Regex → Bool
  | .anchor _ => true
  | _ => false

def isRepeated : Regex → Bool
  | .repeated .. => true
  | _ => false

theorem sequence_nil : sequence [] = .empty := rfl

theorem sequence_cons (item : Regex) (items : List Regex) :
    sequence (item :: items) = .seq item (sequence items) := rfl

theorem width_literal (code : Nat) : (literal code).width = ⟨1, 1⟩ := rfl

end Regex

end MountCensus
