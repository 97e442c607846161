import Mathlib.Data.List.DropRight
import Mathlib.Tactic.SplitIfs
import MountCensus.Pattern.Split

/-!
Where a configured value is cut. A comma is no cut exactly if it is deep in braces, as the braces in
front of it are counted: the first segment ends before the first comma that is not
(`segments_cases`). So a text all of whose commas are deep in braces is one segment
(`segments_of_isSheltered`), and a text whose braces are all closed can be cut from what is joined
to it by a comma (`segments_append_comma`).
-/

set_option autoImplicit false

namespace MountCensus.Text

/-- A text is what lies between its outermost blanks, and blanks on both sides. -/
theorem exists_blanks_strip (text : List Char) :
    ∃ before after, (∀ c ∈ before, isBlank c = true) ∧ (∀ c ∈ after, isBlank c = true) ∧
      text = before ++ strip text ++ after := by
  refine ⟨text.takeWhile isBlank,
    ((text.dropWhile isBlank).reverse.takeWhile isBlank).reverse, fun c hc ↦ ?_, fun c hc ↦ ?_, ?_⟩
  · exact List.all_eq_true.mp List.all_takeWhile c hc
  · exact List.all_eq_true.mp List.all_takeWhile c (List.mem_reverse.mp hc)
  · rw [strip, List.append_assoc, ← List.reverse_append, List.takeWhile_append_dropWhile,
      List.reverse_reverse, List.takeWhile_append_dropWhile]

/-- A text without a blank at either end. -/
structure IsTrimmed (text : List Char) : Prop where
  head : ∀ c ∈ text.head?, isBlank c = false
  last : ∀ c ∈ text.getLast?, isBlank c = false

theorem isTrimmed_strip (text : List Char) : IsTrimmed (strip text) where
  head c hc := by
    obtain ⟨after, hafter⟩ : strip text <+: text.dropWhile isBlank := List.rdropWhile_prefix _ _
    have hhead : (text.dropWhile isBlank).head? = some c := by
      rw [← hafter, List.head?_append, Option.mem_def.mp hc, Option.some_or]
    simpa [hhead] using List.head?_dropWhile_not isBlank text
  last c hc := by
    rw [strip, List.getLast?_reverse] at hc
    simpa [Option.mem_def.mp hc] using
      List.head?_dropWhile_not isBlank (text.dropWhile isBlank).reverse

theorem dropWhile_isBlank_eq_self {text : List Char} (h : ∀ c ∈ text.head?, isBlank c = false) :
    text.dropWhile isBlank = text := by
  cases text with
  | nil => rfl
  | cons c text => exact List.dropWhile_cons_of_neg (by simp [h c rfl])

theorem IsTrimmed.strip_eq {text : List Char} (h : IsTrimmed text) : strip text = text := by
  have hlast : ∀ c ∈ text.reverse.head?, isBlank c = false := by
    rw [List.head?_reverse]
    exact h.last
  rw [strip, dropWhile_isBlank_eq_self h.head, dropWhile_isBlank_eq_self hlast,
    List.reverse_reverse]

/-- Nothing is taken from the front of a text that does not begin with a blank. -/
theorem exists_strip_append {c : Char} (hc : isBlank c = false) (text : List Char) :
    ∃ after, (∀ d ∈ after, isBlank d = true) ∧ c :: text = strip (c :: text) ++ after := by
  obtain ⟨before, after, hbefore, hafter, htext⟩ := exists_blanks_strip (c :: text)
  cases before with
  | nil => exact ⟨after, hafter, htext⟩
  | cons d before =>
    obtain ⟨rfl, -⟩ := List.cons.inj htext
    exact absurd (hbefore c List.mem_cons_self) (by simp [hc])

theorem strip_cons_ne_nil {c : Char} (hc : isBlank c = false) (text : List Char) :
    strip (c :: text) ≠ [] := by
  obtain ⟨after, hafter, htext⟩ := exists_strip_append hc text
  intro hstrip
  rw [hstrip, List.nil_append] at htext
  exact absurd (hafter c (htext ▸ List.mem_cons_self)) (by simp [hc])

/-- A text without blanks at its ends does not begin with one. -/
theorem isBlank_head_of_strip_eq {c : Char} {text : List Char}
    (h : strip (c :: text) = c :: text) : isBlank c = false :=
  (isTrimmed_strip (c :: text)).head c (by rw [h, List.head?_cons, Option.mem_some])

end MountCensus.Text

namespace MountCensus.Pattern

/-! ### Depth -/

/-- How deep in braces the text behind a text is. -/
def depthThrough (depth : Nat) (text : List Char) : Nat :=
  text.foldl depthAfter depth

/-- Each comma of a text is deep in braces. -/
def IsSheltered (depth : Nat) (text : List Char) : Prop :=
  ∀ before after, text = before ++ ',' :: after → depthThrough depth before ≠ 0

theorem depthThrough_append (depth : Nat) (text more : List Char) :
    depthThrough depth (text ++ more) = depthThrough (depthThrough depth text) more :=
  List.foldl_append

def HasNoBrace (text : List Char) : Prop :=
  '\x7b' ∉ text ∧ '\x7d' ∉ text

theorem depthThrough_of_hasNoBrace (depth : Nat) {text : List Char} (h : HasNoBrace text) :
    depthThrough depth text = depth := by
  induction text generalizing depth with
  | nil => rfl
  | cons c text ih =>
    simp only [HasNoBrace, List.mem_cons, not_or] at h
    have hc : depthAfter depth c = depth := by
      rw [depthAfter, if_neg (Ne.symm h.1.1), if_neg (Ne.symm h.2.1)]
    rw [depthThrough, List.foldl_cons, hc]
    exact ih depth ⟨h.1.2, h.2.2⟩

/-- Blanks are no braces. -/
theorem hasNoBrace_of_blanks {text : List Char} (h : ∀ c ∈ text, Text.isBlank c = true) :
    HasNoBrace text :=
  ⟨fun hmem ↦ absurd (h _ hmem) (by decide), fun hmem ↦ absurd (h _ hmem) (by decide)⟩

theorem depthThrough_strip (depth : Nat) (text : List Char) :
    depthThrough depth (Text.strip text) = depthThrough depth text := by
  obtain ⟨before, after, hbefore, hafter, htext⟩ := Text.exists_blanks_strip text
  generalize Text.strip text = inner at htext ⊢
  rw [htext, depthThrough_append, depthThrough_append,
    depthThrough_of_hasNoBrace depth (hasNoBrace_of_blanks hbefore),
    depthThrough_of_hasNoBrace _ (hasNoBrace_of_blanks hafter)]

theorem isSheltered_of_no_comma (depth : Nat) {text : List Char} (h : ',' ∉ text) :
    IsSheltered depth text := by
  rintro before after rfl
  exact absurd (by simp) h

theorem isSheltered_of_hasNoBrace {depth : Nat} (hdepth : depth ≠ 0) {text : List Char}
    (h : HasNoBrace text) : IsSheltered depth text := by
  rintro before after rfl
  rw [depthThrough_of_hasNoBrace depth ⟨fun hmem ↦ h.1 (List.mem_append_left _ hmem),
    fun hmem ↦ h.2 (List.mem_append_left _ hmem)⟩]
  exact hdepth

theorem isSheltered_append {depth : Nat} {text more : List Char} :
    IsSheltered depth (text ++ more) ↔
      IsSheltered depth text ∧ IsSheltered (depthThrough depth text) more := by
  constructor
  · refine fun h ↦ ⟨fun before after htext ↦ h before (after ++ more) (by simp [htext]),
      fun before after hmore ↦ ?_⟩
    rw [← depthThrough_append]
    exact h (text ++ before) after (by simp [hmore])
  · rintro ⟨htext, hmore⟩ before after heq
    rcases List.append_eq_append_iff.mp heq.symm with ⟨rest, rfl, hrest⟩ | ⟨rest, rfl, hrest⟩
    · cases rest with
      | nil =>
        rw [List.nil_append] at hrest
        rw [List.append_nil] at hmore
        exact hmore [] after hrest.symm
      | cons c rest =>
        obtain ⟨rfl, -⟩ := List.cons.inj hrest
        exact htext before rest rfl
    · rw [depthThrough_append]
      exact hmore rest after hrest

theorem isSheltered_cons {depth : Nat} {c : Char} {text : List Char} :
    IsSheltered depth (c :: text) ↔
      (c = ',' → depth ≠ 0) ∧ IsSheltered (depthAfter depth c) text := by
  rw [← List.singleton_append, isSheltered_append]
  refine and_congr ⟨?_, ?_⟩ Iff.rfl
  · rintro h rfl
    exact h [] [] rfl
  · intro h before after heq
    cases before with
    | nil =>
      obtain ⟨rfl, -⟩ := List.cons.inj heq
      exact h rfl
    | cons d before => simp at heq

theorem IsSheltered.strip {depth : Nat} {text : List Char} (h : IsSheltered depth text) :
    IsSheltered depth (Text.strip text) := by
  obtain ⟨before, after, hbefore, -, htext⟩ := Text.exists_blanks_strip text
  generalize Text.strip text = inner at htext ⊢
  rw [htext, isSheltered_append, isSheltered_append,
    depthThrough_of_hasNoBrace depth (hasNoBrace_of_blanks hbefore)] at h
  exact h.1.2

/-! ### Segments -/

theorem segments_cons {depth : Nat} {c : Char} (h : ¬ (c = ',' ∧ depth = 0))
    {rest first : List Char} {more : List (List Char)}
    (hrest : segments (depthAfter depth c) rest = first :: more) :
    segments depth (c :: rest) = (c :: first) :: more := by
  rw [segments, if_neg h, hrest]

/-- The first segment is all of the text, or it ends before a comma that is in no brace. -/
theorem segments_cases (depth : Nat) (text : List Char) :
    ∃ first more, segments depth text = first :: more ∧ IsSheltered depth first ∧
      ((first = text ∧ more = []) ∨
        ∃ rest, text = first ++ ',' :: rest ∧ depthThrough depth first = 0 ∧
          more = segments 0 rest) := by
  induction text generalizing depth with
  | nil => exact ⟨[], [], rfl, isSheltered_of_no_comma depth (by simp), .inl ⟨rfl, rfl⟩⟩
  | cons c text ih =>
    by_cases hcut : c = ',' ∧ depth = 0
    · obtain ⟨rfl, rfl⟩ := hcut
      exact ⟨[], segments 0 text, segments_comma text, isSheltered_of_no_comma 0 (by simp),
        .inr ⟨text, rfl, rfl, rfl⟩⟩
    · obtain ⟨first, more, hsegments, hsheltered, hends⟩ := ih (depthAfter depth c)
      refine ⟨c :: first, more, segments_cons hcut hsegments,
        isSheltered_cons.mpr ⟨fun hc hdepth ↦ hcut ⟨hc, hdepth⟩, hsheltered⟩, ?_⟩
      rcases hends with ⟨rfl, rfl⟩ | ⟨rest, rfl, hdepth, hmore⟩
      · exact .inl ⟨rfl, rfl⟩
      · exact .inr ⟨rest, rfl, hdepth, hmore⟩

theorem segments_of_isSheltered {depth : Nat} {text : List Char} (h : IsSheltered depth text) :
    segments depth text = [text] := by
  obtain ⟨first, more, hsegments, -, ⟨rfl, rfl⟩ | ⟨rest, rfl, hdepth, -⟩⟩ :=
    segments_cases depth text
  · exact hsegments
  · exact absurd hdepth (h first rest rfl)

theorem split_cons {value first : List Char} {more : List (List Char)}
    (h : segments 0 value = first :: more) (hfirst : Text.strip first ≠ []) :
    split value = Text.strip first :: (more.map Text.strip).filter (!·.isEmpty) := by
  rw [split, h, List.map_cons, List.filter_cons_of_pos (by simpa using hfirst)]

/-- A comma behind a text whose braces are all closed is a cut. -/
theorem segments_append_comma {depth : Nat} {text : List Char} (h : depthThrough depth text = 0)
    (rest : List Char) :
    segments depth (text ++ ',' :: rest) = segments depth text ++ segments 0 rest := by
  induction text generalizing depth with
  | nil =>
    obtain rfl : depth = 0 := h
    exact segments_comma rest
  | cons c text ih =>
    have hmore := @ih (depthAfter depth c) h
    by_cases hcut : c = ',' ∧ depth = 0
    · obtain ⟨rfl, rfl⟩ := hcut
      rw [List.cons_append, segments_comma, segments_comma, List.cons_append]
      exact congrArg _ hmore
    · obtain ⟨first, more, hsegments, -⟩ := segments_cases (depthAfter depth c) text
      rw [hsegments, List.cons_append] at hmore
      rw [List.cons_append, segments_cons hcut hmore, segments_cons hcut hsegments,
        List.cons_append]

end MountCensus.Pattern
