import MountCensus.Text.Integer
import MountCensus.Text.Quoted

/-!
What can be wrong with the text of a regular expression, where it is wrong, and how that is said.
-/

set_option autoImplicit false

namespace MountCensus.Regex

inductive Defect where
  | danglingEscape
  | badEscape (escape : String)
  | incompleteEscape (escape : String)
  | octalOutsideRange (escape : String)
  | missingBrace
  | unknownCharacterName (name : String)
  | missingName (what : String)
  | unterminatedName (terminator : Char)
  | badGroupName (name : String)
  | unknownGroupName (name : String)
  | redefinedGroup (name : String) (group former : Nat)
  | badGroupNumber
  | invalidReference (group : Nat)
  | openGroupReference
  | lookbehindReference
  | unterminatedSet
  | badRange (low high : String)
  | reversedBounds
  | nothingToRepeat
  | multipleRepeat
  | unexpectedEnd
  | unknownExtension (mark : String)
  | unterminatedComment
  | unterminatedGroup
  | tooManyBranches
  | unbalancedGroup
  | misplacedFlags
  | localeFlag
  | conflictingFlags
  | unknownFlag
  | missingFlag
  | missingFlagEnd
  | missingColon
  | globalFlagOn
  | globalFlagOff
  | alphabetFlagOff
  | flagOnAndOff
  | variableLookbehind
  | distantLookbehind
  | templateOperator (operator : String)
deriving DecidableEq, Repr

open Text in
def Defect.message : Defect → String
  | .danglingEscape => "bad escape (end of pattern)"
  | .badEscape escape => "bad escape " ++ escape
  | .incompleteEscape escape => "incomplete escape " ++ escape
  | .octalOutsideRange escape => "octal escape value " ++ escape ++ " outside of range 0-0o377"
  | .missingBrace => "missing \x7b"
  | .unknownCharacterName name => "undefined character name " ++ quoted name
  | .missingName what => "missing " ++ what
  | .unterminatedName terminator => "missing " ++ terminator.toString ++ ", unterminated name"
  | .badGroupName name => "bad character in group name " ++ quoted name
  | .unknownGroupName name => "unknown group name " ++ quoted name
  | .redefinedGroup name group former =>
    "redefinition of group name " ++ quoted name ++ " as group " ++ toString group ++
      "; was group " ++ toString former
  | .badGroupNumber => "bad group number"
  | .invalidReference group => "invalid group reference " ++ toString group
  | .openGroupReference => "cannot refer to an open group"
  | .lookbehindReference =>
    "cannot refer to group defined in the same lookbehind subpattern"
  | .unterminatedSet => "unterminated character set"
  | .badRange low high => "bad character range " ++ low ++ "-" ++ high
  | .reversedBounds => "min repeat greater than max repeat"
  | .nothingToRepeat => "nothing to repeat"
  | .multipleRepeat => "multiple repeat"
  | .unexpectedEnd => "unexpected end of pattern"
  | .unknownExtension mark => "unknown extension ?" ++ mark
  | .unterminatedComment => "missing ), unterminated comment"
  | .unterminatedGroup => "missing ), unterminated subpattern"
  | .tooManyBranches => "conditional backref with more than two branches"
  | .unbalancedGroup => "unbalanced parenthesis"
  | .misplacedFlags => "global flags not at the start of the expression"
  | .localeFlag => "bad inline flags: cannot use 'L' flag with a str pattern"
  | .conflictingFlags => "bad inline flags: flags 'a', 'u' and 'L' are incompatible"
  | .unknownFlag => "unknown flag"
  | .missingFlag => "missing flag"
  | .missingFlagEnd => "missing -, : or )"
  | .missingColon => "missing :"
  | .globalFlagOn => "bad inline flags: cannot turn on global flag"
  | .globalFlagOff => "bad inline flags: cannot turn off global flag"
  | .alphabetFlagOff => "bad inline flags: cannot turn off flags 'a', 'u' and 'L'"
  | .flagOnAndOff => "bad inline flags: flag turned on and off"
  | .variableLookbehind => "look-behind requires fixed-width pattern"
  | .distantLookbehind => "looks too much behind"
  | .templateOperator operator => "internal: unsupported template operator " ++ operator

/-- A pattern is refused for a defect, at a position of its text if the defect has one, or because a
number or a choice of alphabet in it cannot be honoured. -/
inductive Fault where
  | defect (defect : Defect) (position : Option Nat)
  | repetitionTooLarge
  | tooManyDigits (count : Nat)
  | conflictingAlphabets
deriving DecidableEq, Repr

/-- The position of a defect in words. A pattern of several lines also gets line and column. -/
def placeText (pattern : List Char) (position : Nat) : String :=
  let before := pattern.take position
  let plain := " at position " ++ toString position
  if pattern.contains '\n' then
    let column := (before.reverse.takeWhile (· != '\n')).length + 1
    plain ++ " (line " ++ toString (before.count '\n' + 1) ++ ", column " ++ toString column ++ ")"
  else plain

def Fault.message (pattern : String) : Fault → String
  | .defect what none => what.message
  | .defect what (some position) => what.message ++ placeText pattern.toList position
  | .repetitionTooLarge => "the repetition number is too large"
  | .tooManyDigits count => Text.tooManyDigits count
  | .conflictingAlphabets => "ASCII and UNICODE flags are incompatible"

theorem placeText_of_one_line {pattern : List Char} (h : '\n' ∉ pattern) (position : Nat) :
    placeText pattern position = " at position " ++ toString position := by
  simp [placeText, h]

end MountCensus.Regex
