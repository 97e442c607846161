import Mathlib.Data.List.Basic
import Mathlib.Tactic.SplitIfs
import MountCensus.Proofs.Log.Rotation

/-!
Lines that stand by themselves in a text. A line that is added to segments is one of the segment that
is growing, and moves one segment back each time a segment is closed (`exists_hasLine_addAll`). A
text of a single line has no other line (`not_hasLine_of_unbroken`).
-/

set_option autoImplicit false

namespace MountCensus

/-! ### Lines of a text -/

/-- A text to which a line can be added that stands by itself. -/
def Text.IsEnded (text : String) : Prop :=
  text = "" ∨ ∃ former, text = former ++ "\n"

/-- A line stands in a text by itself. -/
def Text.HasLine (text line : String) : Prop :=
  ∃ before after, text = before ++ (line ++ "\n") ++ after ∧ IsEnded before

namespace Text

theorem HasLine.append {text line : String} (h : HasLine text line) (more : String) :
    HasLine (text ++ more) line := by
  obtain ⟨before, after, rfl, hbefore⟩ := h
  exact ⟨before, after ++ more, by rw [String.append_assoc], hbefore⟩

theorem hasLine_append_self {text : String} (h : IsEnded text) (line : String) :
    HasLine (text ++ (line ++ "\n")) line :=
  ⟨text, "", by rw [String.append_empty], h⟩

theorem hasLine_self (line : String) : HasLine (line ++ "\n") line :=
  ⟨"", "", by rw [String.empty_append, String.append_empty], .inl rfl⟩

/-- Without a line break inside, there is one line only. -/
theorem not_hasLine_of_unbroken {text line : String} (hbreak : '\n' ∉ text.toList)
    (hne : text ≠ line) : ¬ HasLine (text ++ "\n") line := by
  rintro ⟨before, after, htext, hbefore⟩
  have hchars : text.toList ++ '\n' :: [] =
      before.toList ++ line.toList ++ '\n' :: after.toList := by
    have htoList := congrArg String.toList htext
    simpa [String.toList_append] using htoList
  rcases hbefore with rfl | ⟨former, rfl⟩
  · have hsame := ((List.append_cons_inj_of_notMem hbreak (by simp)).mp hchars).1
    rw [String.toList_empty, List.nil_append, String.toList_inj] at hsame
    exact hne hsame
  · have hafter : former.toList ++ '\n' :: (line.toList ++ '\n' :: after.toList) =
        text.toList ++ '\n' :: [] := by
      rw [hchars]
      simp [String.toList_append]
    have hnil := ((List.append_cons_inj_of_notMem hbreak (by simp)).mp hafter.symm).2.2
    exact absurd hnil (by simp)

end Text

/-! ### Lines of segments -/

namespace Log.Segments

open Text

/-- The segments from the growing one back to the first. -/
def texts (segments : Segments) : List String :=
  segments.current :: segments.closed

theorem add_cases (limit : Int) (segments : Segments) (line : String) :
    segments.add limit line = ⟨segments.current :: segments.closed, line⟩ ∨
      segments.add limit line = ⟨segments.closed, segments.current ++ line⟩ := by
  unfold add
  split_ifs
  · exact .inl rfl
  · exact .inr rfl

theorem isEnded_current_add (limit : Int) (segments : Segments) (line : String) :
    IsEnded (segments.add limit (line ++ "\n")).current := by
  rcases add_cases limit segments (line ++ "\n") with hadd | hadd <;> rw [hadd]
  · exact .inr ⟨line, rfl⟩
  · exact .inr ⟨segments.current ++ line, by rw [String.append_assoc]⟩

/-- A line that is added stands by itself in the growing segment. -/
theorem hasLine_current_add {segments : Segments} (h : IsEnded segments.current) (limit : Int)
    (line : String) : HasLine (segments.add limit (line ++ "\n")).current line := by
  rcases add_cases limit segments (line ++ "\n") with hadd | hadd <;> rw [hadd]
  · exact hasLine_self line
  · exact hasLine_append_self h line

/-- A line moves one segment back each time a segment is closed. -/
theorem exists_hasLine_addAll (limit : Int) {segments : Segments} {place : Nat}
    {text line : String} (htext : segments.texts[place]? = some text) (hline : HasLine text line)
    (lines : List String) :
    ∃ closings later, (segments.addAll limit lines).closed.length =
        segments.closed.length + closings ∧
      (segments.addAll limit lines).texts[place + closings]? = some later ∧ HasLine later line := by
  induction lines generalizing segments place text with
  | nil => exact ⟨0, text, rfl, htext, hline⟩
  | cons next lines ih =>
    rcases add_cases limit segments next with hadd | hadd
    · have hmoved : (segments.add limit next).texts[place + 1]? = some text := by
        rw [hadd]
        exact htext
      obtain ⟨closings, later, hlength, hlater, hkept⟩ := ih hmoved hline
      refine ⟨closings + 1, later, ?_, ?_, hkept⟩
      · rw [addAll_cons, hlength, hadd, List.length_cons]
        omega
      · rw [addAll_cons, ← hlater, Nat.add_comm closings 1, Nat.add_assoc]
    · obtain ⟨moved, hmoved, hmovedLine⟩ : ∃ moved,
          (segments.add limit next).texts[place]? = some moved ∧ HasLine moved line := by
        rw [hadd]
        cases place with
        | zero =>
          obtain rfl : segments.current = text := Option.some.inj htext
          exact ⟨_, rfl, hline.append next⟩
        | succ place => exact ⟨text, htext, hline⟩
      obtain ⟨closings, later, hlength, hlater, hkept⟩ := ih hmoved hmovedLine
      refine ⟨closings, later, ?_, hlater, hkept⟩
      rw [addAll_cons, hlength, hadd]

end Log.Segments

end MountCensus
