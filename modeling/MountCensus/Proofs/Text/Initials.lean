import Mathlib.Data.List.Chain
import Mathlib.Tactic.SplitIfs
import MountCensus.Proofs.Text.Integer
import MountCensus.Text.Quoted
import MountCensus.Text.Search

/-!
The words of a message and the letters with which they begin. A phrase with a word in it that begins
with some letter is not found in a text that has no such word (`not_mentions`), and one with a whole
word in its middle is not found in a text without that word (`not_mentions_of_word`). Texts in
quotation marks have no words inside them unless there are blanks in them already
(`startsNoWord_quoted`).
-/

set_option autoImplicit false

namespace MountCensus.Text

/-- No word begins with the letter: neither behind a blank of the text nor at its start. -/
def StartsNoWord (letter : Char) (text : List Char) : Prop :=
  (' ' :: text).IsChain fun c next ↦ c = ' ' → next ≠ letter

instance (letter : Char) (text : List Char) : Decidable (StartsNoWord letter text) :=
  inferInstanceAs (Decidable (List.IsChain _ _))

theorem StartsNoWord.head_ne {letter c : Char} {text : List Char} (h : StartsNoWord letter text)
    (hc : c ∈ text.head?) : c ≠ letter :=
  List.IsChain.rel_head? h hc rfl

theorem isChain_append {letter : Char} {before text : List Char}
    (hbefore : before.IsChain fun c next ↦ c = ' ' → next ≠ letter)
    (h : StartsNoWord letter text) :
    (before ++ text).IsChain fun c next ↦ c = ' ' → next ≠ letter :=
  hbefore.append h.tail fun _ _ _ hc _ ↦ h.head_ne hc

theorem StartsNoWord.append {letter : Char} {text more : List Char} (h : StartsNoWord letter text)
    (hmore : StartsNoWord letter more) : StartsNoWord letter (text ++ more) :=
  isChain_append h hmore

theorem startsNoWord_nil (letter : Char) : StartsNoWord letter [] :=
  List.isChain_singleton _

theorem isChain_of_solid {letter : Char} {text : List Char} (h : ' ' ∉ text) :
    text.IsChain fun c next ↦ c = ' ' → next ≠ letter := by
  induction text with
  | nil => exact .nil
  | cons c text ih =>
    rw [List.mem_cons, not_or] at h
    exact List.isChain_cons.mpr ⟨fun _ _ hblank ↦ absurd hblank.symm h.1, ih h.2⟩

/-- A text without blanks is one word. -/
theorem startsNoWord_of_solid {letter : Char} {text : List Char} (hsolid : ' ' ∉ text)
    (hhead : ∀ c ∈ text.head?, c ≠ letter) : StartsNoWord letter text :=
  List.isChain_cons.mpr ⟨fun c hc _ ↦ hhead c hc, isChain_of_solid hsolid⟩

theorem StartsNoWord.intercalate {letter : Char} {separator : List Char}
    (hseparator : StartsNoWord letter separator) {texts : List (List Char)}
    (h : ∀ text ∈ texts, StartsNoWord letter text) :
    StartsNoWord letter (separator.intercalate texts) := by
  induction texts with
  | nil => exact startsNoWord_nil letter
  | cons text texts ih =>
    obtain ⟨htext, hmore⟩ := List.forall_mem_cons.mp h
    cases texts with
    | nil => rwa [List.intercalate_singleton]
    | cons second texts =>
      rw [List.intercalate_cons_cons]
      exact (htext.append hseparator).append (ih hmore)

/-- The name at the start of a text may begin with any letter: nothing stands in front of it. -/
theorem not_mentions {letter : Char} {name text phrase : String} (hname : ' ' ∉ name.toList)
    (htext : StartsNoWord letter text.toList) (hphrase : [' ', letter] <:+: phrase.toList) :
    mentions (name ++ text) phrase = false := by
  rw [Bool.eq_false_iff, mentions, ne_eq, occursIn_iff_isInfix, String.toList_append]
  intro hfound
  have hpair := List.IsChain.infix (isChain_append (isChain_of_solid hname) htext)
    (hphrase.trans hfound)
  exact List.isChain_pair.mp hpair rfl rfl

/-! ### Whole words -/

/-- What stands between the blanks of a text. -/
def words (text : List Char) : List (List Char) :=
  text.splitOnP (· == ' ')

theorem words_append_blank (text more : List Char) :
    words (text ++ ' ' :: more) = words text ++ words more :=
  List.splitOnP_append_cons _ _ rfl

theorem words_of_solid {text : List Char} (h : ' ' ∉ text) : words text = [text] :=
  List.splitOnP_eq_singleton fun c hc ↦ by simpa using fun heq : c = ' ' ↦ h (heq ▸ hc)

theorem not_mentions_of_word {word : List Char} {text phrase : String} (hsolid : ' ' ∉ word)
    (hphrase : ' ' :: word ++ [' '] <:+: phrase.toList) (hword : word ∉ words text.toList) :
    mentions text phrase = false := by
  rw [Bool.eq_false_iff, mentions, ne_eq, occursIn_iff_isInfix]
  intro hfound
  obtain ⟨before, after, htext⟩ := hphrase.trans hfound
  have hparts : words text.toList = words before ++ ([word] ++ words after) := by
    rw [← htext, ← words_of_solid hsolid, ← words_append_blank, ← words_append_blank]
    simp
  exact hword (hparts ▸ List.mem_append_right _ (List.mem_append_left _ (.head _)))

/-! ### Numbers and quoted texts -/

theorem startsNoWord_toString {letter : Char} (hletter : letter.isDigit = false) (n : Nat) :
    StartsNoWord letter (toString n).toList := by
  have hdigit : ∀ c ∈ (toString n).toList, c.isDigit = true := by
    rw [Nat.toString_eq_repr, Nat.toList_repr]
    exact fun c ↦ isDigit_of_mem_decimal
  refine startsNoWord_of_solid (fun hblank ↦ absurd (hdigit _ hblank) (by decide)) fun c hc ↦ ?_
  exact ne_of_isDigit (hdigit c (List.mem_of_mem_head? hc)) hletter

theorem blank_notMem_hexDigits (width n : Nat) : ' ' ∉ hexDigits width n := by
  have hdigits : ∀ d < 16, ' ' ≠ Nat.digitChar d := by decide
  rw [hexDigits, List.mem_append, not_or]
  refine ⟨fun h ↦ absurd (List.eq_of_mem_replicate h) (by decide), fun h ↦ ?_⟩
  obtain ⟨d, hd, hblank⟩ := exists_digitChar (by decide) n _ h
  exact hdigits d hd hblank

theorem blank_notMem_quotedChar (mark : Char) {c : Char} (hc : c ≠ ' ') :
    ' ' ∉ quotedChar mark c := by
  unfold quotedChar
  split_ifs <;> simp [hc.symm, blank_notMem_hexDigits]

theorem quoteMark_eq_or (text : List Char) : quoteMark text = '"' ∨ quoteMark text = '\'' := by
  unfold quoteMark
  split_ifs
  · exact .inl rfl
  · exact .inr rfl

theorem startsNoWord_quoted {letter : Char} (hdouble : letter ≠ '"') (hsingle : letter ≠ '\'')
    {text : String} (h : ' ' ∉ text.toList) : StartsNoWord letter (quoted text).toList := by
  have hmark : quoteMark text.toList ≠ ' ' ∧ quoteMark text.toList ≠ letter := by
    rcases quoteMark_eq_or text.toList with heq | heq <;> rw [heq]
    · exact ⟨by decide, hdouble.symm⟩
    · exact ⟨by decide, hsingle.symm⟩
  rw [quoted, String.toList_ofList, quotedChars]
  refine startsNoWord_of_solid ?_ ?_
  · rintro hblank
    rw [List.cons_append, List.mem_cons, List.mem_append, List.mem_singleton] at hblank
    obtain hblank | hblank | hblank := hblank
    · exact hmark.1 hblank.symm
    · obtain ⟨c, hc, hblank⟩ := List.mem_flatMap.mp hblank
      exact blank_notMem_quotedChar _ (fun heq ↦ h (heq ▸ hc)) hblank
    · exact hmark.1 hblank.symm
  · rintro c hc
    rw [List.cons_append, List.head?_cons, Option.mem_some_iff] at hc
    rw [← hc]
    exact hmark.2

end MountCensus.Text
