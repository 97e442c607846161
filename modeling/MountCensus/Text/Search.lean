/-!
Finding one text within another.
-/

set_option autoImplicit false

namespace MountCensus.Text

def occursIn (part : List Char) : List Char → Bool
  | [] => part.isEmpty
  | c :: rest => part.isPrefixOf (c :: rest) || occursIn part rest

/-- Whether a text holds another one without a gap. -/
def mentions (text part : String) : Bool :=
  occursIn part.toList text.toList

/-- What follows the last occurrence of a character; the whole text if there is none. -/
def afterLast (mark : Char) (text : List Char) : List Char :=
  (text.reverse.takeWhile (· != mark)).reverse

theorem occursIn_iff_isInfix {part text : List Char} :
    occursIn part text = true ↔ part <:+: text := by
  induction text with
  | nil => simp [occursIn]
  | cons c rest ih => simp [occursIn, ih, List.infix_cons_iff]

theorem not_mem_afterLast (mark : Char) (text : List Char) : mark ∉ afterLast mark text := by
  intro h
  have hall := List.all_takeWhile (p := (· != mark)) (l := text.reverse)
  simpa using List.all_eq_true.mp hall mark (List.mem_reverse.mp h)

theorem afterLast_suffix (mark : Char) (text : List Char) : afterLast mark text <:+ text := by
  rw [afterLast, ← List.reverse_prefix, List.reverse_reverse]
  exact List.takeWhile_prefix _

end MountCensus.Text
