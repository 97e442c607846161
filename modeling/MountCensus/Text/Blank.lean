/-!
Blank characters, and the two ways a line is cut by them: into its fields, and down to what lies
between its outermost blanks.
-/

set_option autoImplicit false

namespace MountCensus.Text

/-- Spaces, separators and the controls that move the print position. -/
def isBlank (c : Char) : Bool :=
  let n := c.toNat
  (9 ≤ n && n ≤ 13) || (28 ≤ n && n ≤ 32) || n == 0x85 || n == 0xA0 || n == 0x1680 ||
    (0x2000 ≤ n && n ≤ 0x200A) || n == 0x2028 || n == 0x2029 || n == 0x202F || n == 0x205F ||
    n == 0x3000

/-- The maximal runs of characters that are not blank, in order. -/
def fields : List Char → List (List Char)
  | [] => []
  | c :: rest =>
    if isBlank c then fields rest
    else match rest with
      | [] => [[c]]
      | d :: _ =>
        if isBlank d then [c] :: fields rest
        else match fields rest with
          | [] => [[c]]
          | word :: words => (c :: word) :: words

/-- The text without the blanks at its two ends. -/
def strip (text : List Char) : List Char :=
  ((text.dropWhile isBlank).reverse.dropWhile isBlank).reverse

def stripped (text : String) : String :=
  String.ofList (strip text.toList)

theorem isBlank_of_isWhitespace {c : Char} (h : c.isWhitespace) : isBlank c := by
  simp only [Char.isWhitespace, Bool.or_eq_true, decide_eq_true_eq] at h
  rcases h with ((rfl | rfl) | rfl) | rfl <;> decide

theorem fields_cons_blank {c : Char} (h : isBlank c) (rest : List Char) :
    fields (c :: rest) = fields rest := by
  cases rest <;> simp [fields, h]

theorem fields_singleton {c : Char} (h : isBlank c = false) : fields [c] = [[c]] := by
  simp [fields, h]

theorem fields_cons_of_blank_next {c d : Char} (hc : isBlank c = false) (hd : isBlank d)
    (rest : List Char) : fields (c :: d :: rest) = [c] :: fields rest := by
  rw [← fields_cons_blank hd rest]
  simp [fields, hc, hd]

end MountCensus.Text
