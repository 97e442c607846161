import MountCensus.Proofs.Json.Reading
import MountCensus.Text.Lines

/-!
The text of a value consists of the characters from space to tilde (`isPlainText_write`): it is the
same in every encoding that has these, takes one byte for each character (`utf8ByteSize_write`) and
is one line.
-/

set_option autoImplicit false

namespace MountCensus.Json

/-- The characters from space to tilde, which are the same in every encoding and end no line. -/
def IsPlain (c : Char) : Prop :=
  ' ' ≤ c ∧ c ≤ '~'

instance (c : Char) : Decidable (IsPlain c) :=
  inferInstanceAs (Decidable (_ ∧ _))

theorem IsPlain.toNat_le {c : Char} (h : IsPlain c) : 32 ≤ c.toNat ∧ c.toNat ≤ 126 := h

theorem IsPlain.endsLine_eq_false {c : Char} (h : IsPlain c) : Text.endsLine c = false := by
  have hcode := h.toNat_le
  simp only [Text.endsLine, Bool.or_eq_false_iff, Bool.and_eq_false_iff, decide_eq_false_iff_not,
    beq_eq_false_iff_ne]
  omega

theorem IsPlain.utf8Size_eq_one {c : Char} (h : IsPlain c) : c.utf8Size = 1 := by
  rw [Char.utf8Size_eq_one_iff]
  exact UInt32.le_trans h.2 (by decide)

def IsPlainText (chars : List Char) : Prop :=
  ∀ c ∈ chars, IsPlain c

theorem isPlainText_of_all (chars : List Char)
    (h : (chars.all fun c ↦ decide (IsPlain c)) = true) : IsPlainText chars :=
  fun c hc ↦ of_decide_eq_true (List.all_eq_true.mp h c hc)

theorem isPlainText_nil : IsPlainText [] := fun _ hc ↦ absurd hc (by simp)

theorem IsPlainText.append {chars more : List Char} (h : IsPlainText chars)
    (hmore : IsPlainText more) : IsPlainText (chars ++ more) :=
  List.forall_mem_append.mpr ⟨h, hmore⟩

theorem IsPlainText.cons {c : Char} {chars : List Char} (hc : IsPlain c) (h : IsPlainText chars) :
    IsPlainText (c :: chars) :=
  List.forall_mem_cons.mpr ⟨hc, h⟩

theorem isPlainText_of_spaces {chars : List Char} (h : ∀ c ∈ chars, c = ' ') :
    IsPlainText chars := fun c hc ↦ by
  rw [h c hc]
  decide

theorem IsPlainText.intercalate {separator : List Char} (hseparator : IsPlainText separator)
    {texts : List (List Char)} (h : ∀ text ∈ texts, IsPlainText text) :
    IsPlainText (separator.intercalate texts) := by
  induction texts with
  | nil => exact isPlainText_nil
  | cons text texts ih =>
    obtain ⟨htext, hmore⟩ := List.forall_mem_cons.mp h
    cases texts with
    | nil => rwa [List.intercalate_singleton]
    | cons second texts =>
      rw [List.intercalate_cons_cons]
      exact (htext.append hseparator).append (ih hmore)

theorem isPlainText_toDigits {base : Nat} (hlow : 1 < base) (hhigh : base ≤ 16) (n : Nat) :
    IsPlainText (Nat.toDigits base n) := by
  intro c hc
  have hall : ∀ d < 16, IsPlain (Nat.digitChar d) := by decide
  obtain ⟨d, hd, rfl⟩ := Text.exists_digitChar hlow n c hc
  exact hall d (by omega)

theorem isPlainText_codeUnit (n : Nat) : IsPlainText (codeUnit n) := by
  refine .cons (by decide) (.cons (by decide) (.append (fun c hc ↦ ?_) ?_))
  · rw [List.eq_of_mem_replicate hc]
    decide
  · exact isPlainText_toDigits (by decide) (by decide) n

theorem isPlainText_pair {c d : Char} (hc : IsPlain c) (hd : IsPlain d) : IsPlainText [c, d] :=
  .cons hc (.cons hd isPlainText_nil)

theorem isPlainText_writtenChar (c : Char) : IsPlainText (writtenChar c) := by
  unfold writtenChar
  split_ifs with hmark hbreak hreturn htab hback hfeed hplain hsmall
  · rcases (Bool.or_eq_true _ _).mp hmark with h | h <;> obtain rfl := beq_iff_eq.mp h <;>
      exact isPlainText_pair (by decide) (by decide)
  · exact isPlainText_pair (by decide) (by decide)
  · exact isPlainText_pair (by decide) (by decide)
  · exact isPlainText_pair (by decide) (by decide)
  · exact isPlainText_pair (by decide) (by decide)
  · exact isPlainText_pair (by decide) (by decide)
  · exact .cons (by simpa [IsPlain] using hplain) isPlainText_nil
  · exact isPlainText_codeUnit _
  · exact (isPlainText_codeUnit _).append (isPlainText_codeUnit _)

theorem isPlainText_writtenText (s : String) : IsPlainText (writtenText s).toList := by
  have hquote : IsPlain '"' := by decide
  have hchars : IsPlainText (s.toList.flatMap writtenChar) := fun c hc ↦ by
    obtain ⟨d, -, hmem⟩ := List.mem_flatMap.mp hc
    exact isPlainText_writtenChar d c hmem
  rw [writtenText, String.toList_ofList]
  exact .cons hquote (hchars.append (.cons hquote isPlainText_nil))

theorem isPlainText_int (n : Int) : IsPlainText (toString n).toList := by
  rw [Int.toString_eq_repr, Int.repr_eq_if]
  split_ifs
  · rw [Nat.toList_repr]
    exact isPlainText_toDigits (by decide) (by decide) _
  · rw [String.toList_append, Nat.toList_repr]
    exact .cons (by decide) (isPlainText_toDigits (by decide) (by decide) _)

/-- Plain texts in a row, between two plain characters. -/
theorem IsPlainText.enclosed {style : Style} (hstyle : style.IsSpacing) {left right : Char}
    (hleft : IsPlain left) (hright : IsPlain right) {texts : List String}
    (h : ∀ text ∈ texts, IsPlainText text.toList) :
    IsPlainText (left :: ((("," ++ style.afterComma).intercalate texts).toList ++ [right])) := by
  have hseparator : IsPlainText ("," ++ style.afterComma).toList := by
    rw [String.toList_append]
    exact .cons (by decide) (isPlainText_of_spaces hstyle.afterComma)
  rw [String.toList_intercalate]
  refine .cons hleft ((hseparator.intercalate fun text htext ↦ ?_).append
    (.cons hright isPlainText_nil))
  obtain ⟨part, hpart, rfl⟩ := List.mem_map.mp htext
  exact h part hpart

theorem isPlainText_writeEntries {style : Style} (hstyle : style.IsSpacing)
    {entries : List (String × Json)}
    (h : ∀ entry ∈ entries, IsPlainText (entry.2.write style).toList) :
    ∀ text ∈ writeEntries style entries, IsPlainText text.toList := by
  induction entries with
  | nil => exact fun _ htext ↦ absurd htext (by simp [writeEntries])
  | cons entry entries ih =>
    obtain ⟨key, value⟩ := entry
    obtain ⟨hvalue, hmore⟩ := List.forall_mem_cons.mp h
    refine List.forall_mem_cons.mpr ⟨?_, ih hmore⟩
    simp only [String.toList_append]
    exact (((isPlainText_writtenText key).append (.cons (by decide) isPlainText_nil)).append
      (isPlainText_of_spaces hstyle.afterColon)).append hvalue

theorem isPlainText_write {style : Style} (hstyle : style.IsSpacing) (json : Json) :
    IsPlainText (json.write style).toList := by
  induction json using induction with
  | bool b =>
    cases b with
    | false => exact isPlainText_of_all "false".toList rfl
    | true => exact isPlainText_of_all "true".toList rfl
  | int n => exact isPlainText_int n
  | text s => exact isPlainText_writtenText s
  | list items hitems =>
    have hall : ∀ text ∈ writeItems style items, IsPlainText text.toList := by
      rw [writeItems_eq_map]
      exact fun text htext ↦ by
        obtain ⟨item, hitem, rfl⟩ := List.mem_map.mp htext
        exact hitems item hitem
    have henclosed := IsPlainText.enclosed hstyle (show IsPlain '[' by decide)
      (show IsPlain ']' by decide) hall
    simpa [write, String.toList_append] using henclosed
  | object entries hentries =>
    have henclosed := IsPlainText.enclosed hstyle (show IsPlain '\x7b' by decide)
      (show IsPlain '\x7d' by decide) (isPlainText_writeEntries hstyle hentries)
    simpa [write, String.toList_append] using henclosed

theorem utf8ByteSize_of_isPlainText {chars : List Char} (h : IsPlainText chars) :
    (String.ofList chars).utf8ByteSize = chars.length := by
  induction chars with
  | nil => rfl
  | cons c chars ih =>
    obtain ⟨hc, hmore⟩ := List.forall_mem_cons.mp h
    rw [String.ofList_cons, String.utf8ByteSize_append, String.utf8ByteSize_singleton,
      hc.utf8Size_eq_one, ih hmore, List.length_cons, Nat.add_comm]

theorem utf8ByteSize_write {style : Style} (hstyle : style.IsSpacing) (json : Json) :
    (json.write style).utf8ByteSize = (json.write style).length := by
  have hsize := utf8ByteSize_of_isPlainText (isPlainText_write hstyle json)
  rwa [String.ofList_toList, String.length_toList] at hsize

end MountCensus.Json
