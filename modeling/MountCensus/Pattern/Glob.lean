/-!
Globs, read from left to right into pieces, and the regular expression that a list of pieces is
written as. Within one component of a path a run stops at the slash; braces hold alternatives and do
not nest.
-/

set_option autoImplicit false

namespace MountCensus.Pattern

inductive Piece where
  /-- Any run of characters; only a crossing one may hold a slash. -/
  | anyRun (crossing : Bool)
  /-- One character other than the slash. -/
  | anyOne
  /-- One character other than the slash that is, or is not, in the set. -/
  | set (negated : Bool) (body : List Char)
  | opening
  | separator
  | closing
  | literal (c : Char)
deriving DecidableEq, Repr

/-- What lies between the bracket in front of the text and the one that closes it, and what follows.
A closing bracket right after the opening one, or after a negation in between, is a member. -/
def setBody? (text : List Char) : Option (List Char × List Char) :=
  let lead := match text with
    | '!' :: ']' :: _ => 2
    | '!' :: _ => 1
    | ']' :: _ => 1
    | _ => 0
  let tail := text.drop lead
  if tail.contains ']' then
    some (text.take lead ++ tail.takeWhile (· != ']'), (tail.dropWhile (· != ']')).drop 1)
  else none

theorem length_rest_of_setBody? {text body rest : List Char}
    (h : setBody? text = some (body, rest)) :
    rest.length ≤ text.length := by
  unfold setBody? at h
  simp only [Option.ite_none_right_eq_some, Option.some.injEq, Prod.mk.injEq] at h
  obtain ⟨-, -, rfl⟩ := h
  exact ((List.drop_sublist _ _).trans
    ((List.dropWhile_sublist _).trans (List.drop_sublist _ _))).length_le

def Piece.ofSetBody (body : List Char) : Piece :=
  match body with
  | '!' :: body => .set true body
  | body => .set false body

/-- The pieces of a glob; `inGroup` tells whether a brace is open. -/
def piecesFrom (inGroup : Bool) (text : List Char) : List Piece :=
  match text with
  | [] => []
  | '*' :: '*' :: rest => .anyRun true :: piecesFrom inGroup rest
  | '*' :: rest => .anyRun false :: piecesFrom inGroup rest
  | '?' :: rest => .anyOne :: piecesFrom inGroup rest
  | '[' :: rest =>
    match h : setBody? rest with
    | some (body, after) =>
      have := length_rest_of_setBody? h
      .ofSetBody body :: piecesFrom inGroup after
    | none => .literal '[' :: piecesFrom inGroup rest
  | '\x7b' :: rest =>
    (if inGroup then .literal '\x7b' else .opening) :: piecesFrom true rest
  | '\x7d' :: rest =>
    (if inGroup then .closing else .literal '\x7d') :: piecesFrom false rest
  | ',' :: rest =>
    (if inGroup then .separator else .literal ',') :: piecesFrom inGroup rest
  | '\\' :: c :: rest => .literal c :: piecesFrom inGroup rest
  | c :: rest => .literal c :: piecesFrom inGroup rest
termination_by text.length

def pieces (glob : List Char) : List Piece :=
  piecesFrom false glob

/-- The characters that mean something in a regular expression, or might in one with blanks and
comments. -/
def isRegexMark (c : Char) : Bool :=
  "()[]\x7b\x7d?*+-|^$\\.&~# \t\n\r\x0b\x0c".toList.contains c

def escaped (c : Char) : List Char :=
  if isRegexMark c then ['\\', c] else [c]

/-- A character inside a set, where only three of them would mean something. -/
def setChar (c : Char) : List Char :=
  if c == '\\' || c == '[' || c == '^' then ['\\', c] else [c]

def setRegex (negated : Bool) (body : List Char) : List Char :=
  "(?!/)[".toList ++ (if negated then ['^'] else []) ++ body.flatMap setChar ++ [']']

def Piece.regex : Piece → List Char
  | .anyRun true => ".*".toList
  | .anyRun false => "[^/]*".toList
  | .anyOne => "[^/]".toList
  | .set negated body => setRegex negated body
  | .opening => "(?:".toList
  | .separator => ['|']
  | .closing => [')']
  | .literal c => escaped c

/-- The regular expression for the inside of a set. -/
def classRegex (body : String) : String :=
  String.ofList (Piece.ofSetBody body.toList).regex

/-- The regular expression that a glob is written as. -/
def globRegex (glob : String) : String :=
  String.ofList ((pieces glob.toList).flatMap Piece.regex)

theorem escaped_of_not_mark {c : Char} (h : isRegexMark c = false) : escaped c = [c] := by
  simp [escaped, h]

theorem regex_ofSetBody_negated (body : List Char) :
    (Piece.ofSetBody ('!' :: body)).regex = setRegex true body := rfl

theorem piecesFrom_nil (inGroup : Bool) : piecesFrom inGroup [] = [] := by
  simp [piecesFrom]

end MountCensus.Pattern
