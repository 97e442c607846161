/-!
Lines of a text, and the unification of the three spellings of a line's end.
-/

set_option autoImplicit false

namespace MountCensus.Text

/-- The characters that end a line: line feed, vertical tab, form feed, carriage return, the three
information separators, next line, and the line and paragraph separators. -/
def endsLine (c : Char) : Bool :=
  let n := c.toNat
  (10 ≤ n && n ≤ 13) || (28 ≤ n && n ≤ 30) || n == 0x85 || n == 0x2028 || n == 0x2029

/-- The lines of a text without their ends. A carriage return and a line feed after it are one end,
and an end at the very end of the text starts no further line. -/
def lines : List Char → List (List Char)
  | [] => []
  | '\r' :: '\n' :: rest => [] :: lines rest
  | c :: rest =>
    if endsLine c then [] :: lines rest
    else match lines rest with
      | [] => [[c]]
      | line :: more => (c :: line) :: more

/-- Every carriage return, with or without a line feed after it, becomes a line feed. -/
def unifyLineEnds : List Char → List Char
  | [] => []
  | '\r' :: '\n' :: rest => '\n' :: unifyLineEnds rest
  | '\r' :: rest => '\n' :: unifyLineEnds rest
  | c :: rest => c :: unifyLineEnds rest

theorem unifyLineEnds_eq_self {text : List Char} (h : '\r' ∉ text) : unifyLineEnds text = text := by
  induction text with
  | nil => rfl
  | cons c rest ih =>
    have hc : c ≠ '\r' := fun heq => h (heq ▸ List.mem_cons_self)
    have hrest : '\r' ∉ rest := fun hmem => h (List.mem_cons_of_mem c hmem)
    rw [unifyLineEnds.eq_4 c rest (fun _ heq => absurd heq hc) (fun heq => absurd heq hc), ih hrest]

end MountCensus.Text
