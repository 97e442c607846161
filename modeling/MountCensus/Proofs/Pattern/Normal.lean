import MountCensus.Proofs.Pattern.Joining

/-!
The patterns of a value, given as a value again. Each of them is trimmed and holds commas in braces
only, and all but the last one close their braces, because a value is only cut where no brace is
open (`countsRight_split`). So joined by commas they are split up the same way. A value whose braces
are closed at its end can be put in front of another one, or given on its own
(`splitPatterns_normal`).
-/

set_option autoImplicit false

namespace MountCensus.Pattern

open Text

variable {text : List Char}

/-! ### Cuts -/

/-- A value is one text whose commas are all in braces, or such a text whose braces are closed, a
comma, and what a value may be. -/
theorem cut_induction {motive : List Char → Prop}
    (whole : ∀ text, IsSheltered 0 text → motive text)
    (cut : ∀ first rest, IsSheltered 0 first → depthThrough 0 first = 0 → motive rest →
      motive (first ++ ',' :: rest))
    (text : List Char) : motive text := by
  induction hlength : text.length using Nat.strong_induction_on generalizing text with
  | _ length ih =>
    obtain ⟨first, more, -, hsheltered, ⟨rfl, -⟩ | ⟨rest, rfl, hclosed, -⟩⟩ :=
      segments_cases 0 text
    · exact whole first hsheltered
    · have hshorter : rest.length < length := by
        rw [← hlength, List.length_append, List.length_cons]
        omega
      exact cut first rest hsheltered hclosed (ih rest.length hshorter rest rfl)

theorem split_append_comma (h : depthThrough 0 text = 0) (rest : List Char) :
    split (text ++ ',' :: rest) = split text ++ split rest := by
  rw [split, segments_append_comma h, List.map_append, List.filter_append, ← split, ← split]

theorem split_of_isSheltered (h : IsSheltered 0 text) :
    split text = [strip text].filter (!·.isEmpty) := by
  rw [split, segments_of_isSheltered h, List.map_singleton]

/-- A text whose commas are all in braces is one pattern, unless it is blank. -/
theorem split_cases_of_isSheltered (h : IsSheltered 0 text) :
    split text = [] ∨ split text = [strip text] := by
  rw [split_of_isSheltered h]
  by_cases hempty : (strip text).isEmpty = true
  · exact .inl (List.filter_cons_of_neg (by simp [hempty]))
  · exact .inr (List.filter_cons_of_pos (by simp [hempty]))

/-! ### Patterns -/

theorem isTrimmed_of_mem_split {pattern : List Char} (h : pattern ∈ split text) :
    pattern ≠ [] ∧ IsTrimmed pattern := by
  obtain ⟨hsegment, hfull⟩ := List.mem_filter.mp h
  obtain ⟨segment, -, rfl⟩ := List.mem_map.mp hsegment
  exact ⟨by simpa using hfull, isTrimmed_strip segment⟩

theorem isTrimmed_of_mem_splitPatterns {pattern value : String}
    (h : pattern ∈ splitPatterns value) :
    pattern.toList ≠ [] ∧ IsTrimmed pattern.toList := by
  obtain ⟨chars, hchars, rfl⟩ := List.mem_map.mp h
  rw [String.toList_ofList]
  exact isTrimmed_of_mem_split hchars

theorem CountsRight.cons {pattern : String} {more : List String}
    (hsheltered : IsSheltered 0 pattern.toList) (hclosed : depthThrough 0 pattern.toList = 0)
    (hmore : CountsRight more) : CountsRight (pattern :: more) := by
  cases more with
  | nil => exact countsRight_singleton.mpr hsheltered
  | cons next more => exact countsRight_cons.mpr ⟨hsheltered, hclosed, hmore⟩

/-- The patterns of a value hold commas in braces only, and all but the last close their braces. -/
theorem countsRight_split (text : List Char) : CountsRight ((split text).map String.ofList) := by
  induction text using cut_induction with
  | whole text hsheltered =>
    rcases split_cases_of_isSheltered hsheltered with hnone | hone
    · rw [hnone]
      exact ⟨List.forall_mem_nil _, List.forall_mem_nil _⟩
    · rw [hone, List.map_singleton, countsRight_singleton, String.toList_ofList]
      exact hsheltered.strip
  | cut first rest hsheltered hclosed ih =>
    rw [split_append_comma hclosed, List.map_append]
    rcases split_cases_of_isSheltered hsheltered with hnone | hone
    · rw [hnone]
      exact ih
    · rw [hone]
      refine CountsRight.cons ?_ ?_ ih
      · rw [String.toList_ofList]
        exact hsheltered.strip
      · rw [String.toList_ofList, depthThrough_strip, hclosed]

theorem splitPatterns_append_comma {value : String} (h : depthThrough 0 value.toList = 0)
    (other : String) :
    splitPatterns (value ++ "," ++ other) = splitPatterns value ++ splitPatterns other := by
  have hvalue : (value ++ "," ++ other).toList = value.toList ++ ',' :: other.toList := by
    rw [String.toList_append, String.toList_append, List.append_assoc]
    rfl
  rw [splitPatterns, hvalue, split_append_comma h, List.map_append, splitPatterns, splitPatterns]

/-- The patterns of a value are not empty and have no blanks around them, and given as one value
they are the same patterns. Two values, of which the first one closes its braces, can be given as
one: its patterns are those of the two, and so are its matchers. -/
theorem splitPatterns_normal :
    (∀ value : String,
      (∀ pattern ∈ splitPatterns value, pattern ≠ "" ∧
        (∀ c ∈ pattern.toList.head?, isBlank c = false) ∧
        ∀ c ∈ pattern.toList.getLast?, isBlank c = false) ∧
      splitPatterns (",".intercalate (splitPatterns value)) = splitPatterns value) ∧
    ∀ value other : String, depthThrough 0 value.toList = 0 →
      splitPatterns (value ++ "," ++ other) = splitPatterns value ++ splitPatterns other ∧
      ∀ before after : List String,
        compileAll (before ++ (value ++ "," ++ other) :: after) =
          compileAll (before ++ value :: other :: after) := by
  refine ⟨fun value ↦ ⟨fun pattern hpattern ↦ ?_, ?_⟩, fun value other hclosed ↦ ⟨?_, ?_⟩⟩
  · obtain ⟨hfull, htrimmed⟩ := isTrimmed_of_mem_splitPatterns hpattern
    refine ⟨?_, htrimmed.head, htrimmed.last⟩
    rintro rfl
    exact hfull rfl
  · exact splitPatterns_intercalate
      (fun pattern hpattern ↦ (isTrimmed_of_mem_splitPatterns hpattern).2.strip_eq)
      (fun pattern hpattern ↦ (isTrimmed_of_mem_splitPatterns hpattern).1)
      (countsRight_split value.toList)
  · exact splitPatterns_append_comma hclosed other
  · intro before after
    simp only [compileAll, List.flatMap_append, List.flatMap_cons,
      splitPatterns_append_comma hclosed, List.append_assoc]

/-- The first value closes a brace that was never opened, the second one leaves a brace open. -/
theorem splitPatterns_normal_of_braces :
    depthThrough 0 " \x7d/a , \x7b/b,/c\x7d ,".toList = 0 ∧
    splitPatterns " \x7d/a , \x7b/b,/c\x7d ," = ["\x7d/a", "\x7b/b,/c\x7d"] ∧
    splitPatterns (" \x7d/a , \x7b/b,/c\x7d ," ++ "," ++ "/d\x7b ,/e ") =
      ["\x7d/a", "\x7b/b,/c\x7d"] ++ ["/d\x7b ,/e"] ∧
    splitPatterns (",".intercalate ["/d\x7b ,/e"]) = ["/d\x7b ,/e"] := by
  have hclosed : depthThrough 0 " \x7d/a , \x7b/b,/c\x7d ,".toList = 0 := by decide
  have hfirst : splitPatterns " \x7d/a , \x7b/b,/c\x7d ," = ["\x7d/a", "\x7b/b,/c\x7d"] := by
    decide +kernel
  have hsecond : splitPatterns "/d\x7b ,/e " = ["/d\x7b ,/e"] := by decide +kernel
  have hjoined := (splitPatterns_normal.2 _ "/d\x7b ,/e " hclosed).1
  have hagain := (splitPatterns_normal.1 "/d\x7b ,/e ").2
  rw [hfirst, hsecond] at hjoined
  rw [hsecond] at hagain
  exact ⟨hclosed, hfirst, hjoined, hagain⟩

end MountCensus.Pattern
