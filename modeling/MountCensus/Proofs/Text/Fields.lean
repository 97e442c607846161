import MountCensus.Text.Alphanumeric
import MountCensus.Text.Blank

/-!
Cutting a line into its fields undoes any spacing. Words carry that they hold no blank, and gaps
that they hold nothing else; a row of words with a gap in front of each gives its words back
(`fields_spread`), and so does one that begins with a word (`fields_word_spread`).
-/

set_option autoImplicit false

namespace MountCensus.Text

/-- Characters with no blank among them. -/
structure Word where
  chars : List Char
  nonempty : chars ≠ []
  solid : ∀ c ∈ chars, isBlank c = false

/-- What may stand between two words. -/
structure Gap where
  chars : List Char
  nonempty : chars ≠ []
  blank : ∀ c ∈ chars, isBlank c = true

/-- A word and the gap in front of it. -/
structure Column where
  gap : Gap
  word : Word

def Word.ofChars (chars : List Char) (nonempty : chars ≠ [])
    (solid : chars.all (!isBlank ·) = true) : Word where
  chars := chars
  nonempty := nonempty
  solid c hc := by simpa using List.all_eq_true.mp solid c hc

def Gap.ofChars (chars : List Char) (nonempty : chars ≠ []) (blank : chars.all isBlank = true) :
    Gap where
  chars := chars
  nonempty := nonempty
  blank := List.all_eq_true.mp blank

def Word.text (word : Word) : String :=
  String.ofList word.chars

def Column.text (column : Column) : String :=
  column.word.text

def Column.chars (column : Column) : List Char :=
  column.gap.chars ++ column.word.chars

/-- Columns one after the other, and what follows them up to the end of the line. -/
def spread (columns : List Column) (ending : List Char) : List Char :=
  columns.flatMap Column.chars ++ ending

/-- A text that no word goes on into. -/
def BeginsBlank (text : List Char) : Prop :=
  ∀ c ∈ text.head?, isBlank c = true

theorem beginsBlank_of_forall {text : List Char} (h : ∀ c ∈ text, isBlank c = true) :
    BeginsBlank text :=
  fun c hc ↦ h c (List.mem_of_mem_head? hc)

theorem beginsBlank_spread (columns : List Column) {ending : List Char}
    (hending : ∀ c ∈ ending, isBlank c = true) : BeginsBlank (spread columns ending) := by
  cases columns with
  | nil => exact beginsBlank_of_forall hending
  | cons column columns =>
    obtain ⟨⟨_ | ⟨d, gap⟩, hgap, hblank⟩, word⟩ := column
    · exact absurd rfl hgap
    · intro c hc
      obtain rfl : d = c := Option.some.inj hc
      exact hblank d (by simp)

theorem fields_blanks_append {blanks : List Char} (h : ∀ c ∈ blanks, isBlank c = true)
    (text : List Char) : fields (blanks ++ text) = fields text := by
  induction blanks with
  | nil => rfl
  | cons c blanks ih =>
    obtain ⟨hc, hblanks⟩ := List.forall_mem_cons.mp h
    rw [List.cons_append, fields_cons_blank hc, ih hblanks]

/-- A word is a field of its own when a blank or the end follows it. -/
theorem fields_solid_append {word rest : List Char} (hne : word ≠ [])
    (hsolid : ∀ c ∈ word, isBlank c = false) (hrest : BeginsBlank rest) :
    fields (word ++ rest) = word :: fields rest := by
  induction word with
  | nil => exact absurd rfl hne
  | cons c word ih =>
    obtain ⟨hc, hword⟩ := List.forall_mem_cons.mp hsolid
    cases word with
    | nil =>
      cases rest with
      | nil => exact fields_singleton hc
      | cons d rest =>
        have hd : isBlank d = true := hrest d rfl
        rw [List.singleton_append, fields_cons_of_blank_next hc hd, fields_cons_blank hd]
    | cons d word =>
      have hd : isBlank d = false := hword d (by simp)
      have hmore := ih (by simp) hword
      rw [List.cons_append] at hmore ⊢
      rw [List.cons_append, fields]
      simp [hc, hd, hmore]

theorem fields_word_append (word : Word) {rest : List Char} (hrest : BeginsBlank rest) :
    fields (word.chars ++ rest) = word.chars :: fields rest :=
  fields_solid_append word.nonempty word.solid hrest

theorem fields_spread (columns : List Column) {ending : List Char}
    (hending : ∀ c ∈ ending, isBlank c = true) :
    fields (spread columns ending) = columns.map (·.word.chars) := by
  induction columns with
  | nil =>
    have hfields := fields_blanks_append hending []
    rw [List.append_nil] at hfields
    exact hfields
  | cons column columns ih =>
    have hrow : spread (column :: columns) ending =
        column.gap.chars ++ (column.word.chars ++ spread columns ending) := by
      simp [spread, Column.chars]
    rw [hrow, fields_blanks_append column.gap.blank,
      fields_word_append column.word (beginsBlank_spread columns hending), ih, List.map_cons]

theorem fields_word_spread (word : Word) (columns : List Column) {ending : List Char}
    (hending : ∀ c ∈ ending, isBlank c = true) :
    fields (word.chars ++ spread columns ending) =
      word.chars :: columns.map (·.word.chars) := by
  rw [fields_word_append word (beginsBlank_spread columns hending), fields_spread columns hending]

/-! ### Blanks are not parts of words -/

/-- The code points of all blanks. -/
def blankCodes : List Nat :=
  [9, 10, 11, 12, 13, 28, 29, 30, 31, 32, 0x85, 0xA0, 0x1680, 0x2000, 0x2001, 0x2002, 0x2003,
    0x2004, 0x2005, 0x2006, 0x2007, 0x2008, 0x2009, 0x200A, 0x2028, 0x2029, 0x202F, 0x205F, 0x3000]

theorem mem_blankCodes {c : Char} (h : isBlank c = true) : c.toNat ∈ blankCodes := by
  simp only [isBlank, Bool.or_eq_true, Bool.and_eq_true, decide_eq_true_eq, beq_iff_eq] at h
  simp only [blankCodes, List.mem_cons, List.not_mem_nil, or_false]
  omega

theorem isWordChar_of_isBlank {c : Char} (h : isBlank c = true) : isWordChar c = false := by
  have hall : ∀ n ∈ blankCodes, isWordChar (Char.ofNat n) = false := by decide +kernel
  have hc := hall c.toNat (mem_blankCodes h)
  rwa [Char.ofNat_toNat] at hc

end MountCensus.Text
