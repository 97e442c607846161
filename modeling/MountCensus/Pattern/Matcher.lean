import MountCensus.Pattern.Glob
import MountCensus.Pattern.Split
import MountCensus.Regex.Match
import MountCensus.Regex.Parse

/-!
Configured patterns made ready for matching. A pattern is a regular expression or a glob, as its
first word says; without one it is a glob.
-/

set_option autoImplicit false

namespace MountCensus.Pattern

structure Matcher where
  source : String
  tree : Regex
  flags : Regex.Flags
deriving DecidableEq, Repr

/-- A regular expression that cannot be used, and why. -/
structure Fault where
  source : String
  cause : Regex.Fault
deriving DecidableEq, Repr

def Fault.message (fault : Fault) : String :=
  fault.cause.message fault.source

def regexMark : List Char := "regex:".toList

def globMark : List Char := "glob:".toList

/-- The regular expression that a pattern stands for. -/
def regexOf (pattern : String) : String :=
  let text := pattern.toList
  if regexMark.isPrefixOf text then String.ofList (text.drop regexMark.length)
  else if globMark.isPrefixOf text then globRegex (String.ofList (text.drop globMark.length))
  else globRegex pattern

def compile (pattern : String) : Except Fault Matcher :=
  let source := regexOf pattern
  match Regex.parse source with
  | .ok (tree, flags) => .ok ⟨source, tree, flags⟩
  | .error cause => .error ⟨source, cause⟩

/-- The matchers of all patterns of all values, in order; the first fault wins. -/
def compileAll (values : List String) : Except Fault (List Matcher) :=
  (values.flatMap splitPatterns).mapM compile

def Matcher.accepts (matcher : Matcher) (subject : String) : Bool :=
  matcher.tree.fullMatch matcher.flags subject.toList

def matchesAny (subject : String) (matchers : List Matcher) : Bool :=
  matchers.any (·.accepts subject)

theorem matchesAny_eq_true_iff {subject : String} {matchers : List Matcher} :
    matchesAny subject matchers = true ↔ ∃ m ∈ matchers, m.accepts subject = true := by
  simp [matchesAny]

theorem matchesAny_append (subject : String) (xs ys : List Matcher) :
    matchesAny subject (xs ++ ys) = (matchesAny subject xs || matchesAny subject ys) := by
  simp [matchesAny]

end MountCensus.Pattern
