import MountCensus.Text.Blank

/-!
One configured value may hold several patterns, separated by commas. A comma inside braces belongs
to its pattern; a closing brace without an opening one is no brace.
-/

set_option autoImplicit false

namespace MountCensus.Pattern

/-- How deep in braces the text after a character is. -/
def depthAfter (depth : Nat) (c : Char) : Nat :=
  if c = '\x7b' then depth + 1
  else if c = '\x7d' then depth - 1
  else depth

/-- The texts between the separating commas, never none. -/
def segments : Nat → List Char → List (List Char)
  | _, [] => [[]]
  | depth, c :: rest =>
    if c = ',' ∧ depth = 0 then [] :: segments depth rest
    else match segments (depthAfter depth c) rest with
      | [] => [[c]]
      | segment :: more => (c :: segment) :: more

/-- The patterns of a value, without blanks around them; blank ones are left out. -/
def split (value : List Char) : List (List Char) :=
  ((segments 0 value).map Text.strip).filter (!·.isEmpty)

def splitPatterns (value : String) : List String :=
  (split value.toList).map String.ofList

theorem segments_ne_nil (depth : Nat) (text : List Char) : segments depth text ≠ [] := by
  cases text with
  | nil => simp [segments]
  | cons c rest =>
    unfold segments
    split
    · simp
    · split <;> simp

theorem segments_comma (rest : List Char) : segments 0 (',' :: rest) = [] :: segments 0 rest := by
  simp [segments]

theorem not_mem_split_nil (value : List Char) : [] ∉ split value := by
  simp [split]

end MountCensus.Pattern
