import Mathlib.Tactic.SplitIfs
import MountCensus.Pattern.Matcher
import MountCensus.Proofs.Pattern.Language

/-!
A pattern that is longer by a comma or a blank, whatever follows it, is never written as the same
regular expression (`regexOf_append_ne`). Up to its end the shorter one is cut into the same pieces,
unless what follows turns a character that stood for itself into the beginning of an escape or of a
set, and then the two expressions part ways right there. So where a pattern ends within a value can
be told from what it is written as (`eq_of_regexOf_eq`).
-/

set_option autoImplicit false

namespace MountCensus.Pattern

open Text

/-! ### Globs -/

/-- The regular expression of the rest of a glob. -/
def regexFrom (inGroup : Bool) (text : List Char) : List Char :=
  (piecesFrom inGroup text).flatMap Piece.regex

theorem globRegex_ofList (text : List Char) :
    globRegex (String.ofList text) = String.ofList (regexFrom false text) := by
  rw [globRegex, String.toList_ofList]
  rfl

theorem regexFrom_nil (inGroup : Bool) : regexFrom inGroup [] = [] := by
  rw [regexFrom, piecesFrom_nil, List.flatMap_nil]

theorem regexFrom_of_pieces {inGroup inGroup' : Bool} {text after : List Char} {piece : Piece}
    (h : piecesFrom inGroup text = piece :: piecesFrom inGroup' after) :
    regexFrom inGroup text = piece.regex ++ regexFrom inGroup' after := by
  rw [regexFrom, h, List.flatMap_cons]
  rfl

theorem escaped_ne_nil (c : Char) : escaped c ≠ [] := by
  unfold escaped
  split_ifs <;> exact List.cons_ne_nil _ _

theorem Piece.regex_ne_nil (piece : Piece) : piece.regex ≠ [] := by
  match piece with
  | .anyRun true | .anyRun false | .anyOne | .opening | .separator | .closing =>
    exact List.cons_ne_nil _ _
  | .set _ _ => exact List.cons_ne_nil _ _
  | .literal c => exact escaped_ne_nil c

theorem exists_regex_ofSetBody (body : List Char) :
    ∃ more, (Piece.ofSetBody body).regex = '(' :: more := by
  unfold Piece.ofSetBody
  split <;> exact ⟨_, rfl⟩

theorem piecesFrom_cons (inGroup : Bool) (c : Char) (text : List Char) :
    ∃ piece inGroup' after,
      piecesFrom inGroup (c :: text) = piece :: piecesFrom inGroup' after := by
  rw [piecesFrom.eq_def]
  split
  · contradiction
  · exact ⟨_, _, _, rfl⟩
  · exact ⟨_, _, _, rfl⟩
  · exact ⟨_, _, _, rfl⟩
  · split <;> exact ⟨_, _, _, rfl⟩
  all_goals exact ⟨_, _, _, rfl⟩

theorem regexFrom_cons_ne_nil (inGroup : Bool) (c : Char) (text : List Char) :
    regexFrom inGroup (c :: text) ≠ [] := by
  obtain ⟨piece, inGroup', after, hpieces⟩ := piecesFrom_cons inGroup c text
  rw [regexFrom_of_pieces hpieces]
  exact List.append_ne_nil_of_left_ne_nil piece.regex_ne_nil _

/-- A set that has been closed stays so. -/
theorem setBody?_append {text body after : List Char} (h : setBody? text = some (body, after))
    (more : List Char) : setBody? (text ++ more) = some (body, after ++ more) := by
  obtain ⟨negated, inside, ⟨hfirst, rfl⟩, rfl⟩ := setBody?_eq_some_iff.mp h
  exact setBody?_eq_some_iff.mpr ⟨negated, inside, ⟨hfirst, by simp⟩, rfl⟩

section Longer

variable {inGroup inGroup' : Bool} {text after more : List Char}

/-- As long as the longer text is cut into the same pieces, nothing is settled. -/
theorem regexFrom_append_ne_of_piece {piece : Piece}
    (hshort : piecesFrom inGroup text = piece :: piecesFrom inGroup' after)
    (hlong : piecesFrom inGroup (text ++ more) = piece :: piecesFrom inGroup' (after ++ more))
    (hne : regexFrom inGroup' after ≠ regexFrom inGroup' (after ++ more)) :
    regexFrom inGroup text ≠ regexFrom inGroup (text ++ more) := by
  rw [regexFrom_of_pieces hshort, regexFrom_of_pieces hlong]
  exact mt List.append_cancel_left hne

/-- A bracket that stood for itself may open a set in the longer text. -/
theorem regexFrom_bracket_append_ne (hshort : setBody? text = none)
    (hne : regexFrom inGroup text ≠ regexFrom inGroup (text ++ more)) :
    regexFrom inGroup ('[' :: text) ≠ regexFrom inGroup ('[' :: (text ++ more)) := by
  cases hlong : setBody? (text ++ more) with
  | none =>
    exact regexFrom_append_ne_of_piece (piecesFrom_bracket inGroup hshort)
      (piecesFrom_bracket inGroup hlong) hne
  | some cut =>
    obtain ⟨behind, hset⟩ := exists_regex_ofSetBody cut.1
    have hbracket : (Piece.literal '[').regex = ['\\', '['] := by decide
    rw [regexFrom_of_pieces (piecesFrom_bracket inGroup hshort), hbracket,
      regexFrom_of_pieces (piecesFrom_set inGroup hlong), hset]
    exact fun h ↦ absurd (List.cons.inj h).1 (by decide)

/-- A backslash that stood for itself escapes what follows it in the longer text. -/
theorem regexFrom_backslash_ne {c : Char} (hslash : c ≠ '\\') (rest : List Char) :
    regexFrom inGroup ['\\'] ≠ regexFrom inGroup ('\\' :: c :: rest) := by
  have hshort : piecesFrom inGroup ['\\'] = .literal '\\' :: piecesFrom inGroup [] := by
    simp [piecesFrom]
  have hlong : piecesFrom inGroup ('\\' :: c :: rest) = .literal c :: piecesFrom inGroup rest := by
    simp [piecesFrom]
  have hslashes : (Piece.literal '\\').regex = ['\\', '\\'] := by decide
  rw [regexFrom_of_pieces hshort, regexFrom_of_pieces hlong, hslashes, Piece.regex, escaped]
  split_ifs
  · exact fun h ↦ hslash (List.cons.inj (List.cons.inj h).2).1.symm
  · exact fun h ↦ hslash (List.cons.inj h).1.symm

end Longer

theorem regexFrom_append_ne {c : Char} (hstar : c ≠ '*') (hslash : c ≠ '\\') (inGroup : Bool)
    (text rest : List Char) :
    regexFrom inGroup text ≠ regexFrom inGroup (text ++ c :: rest) := by
  fun_induction piecesFrom inGroup text with
  | case1 inGroup =>
    rw [regexFrom_nil, List.nil_append]
    exact (regexFrom_cons_ne_nil inGroup c rest).symm
  | case2 inGroup text ih =>
    exact regexFrom_append_ne_of_piece (by rw [piecesFrom])
      (by rw [List.cons_append, List.cons_append, piecesFrom]) ih
  | case3 inGroup text hnext ih =>
    have hnext' : ∀ more, text ++ c :: rest = '*' :: more → False := by
      intro more hmore
      cases text with
      | nil => exact hstar (List.cons.inj hmore).1
      | cons d text => exact hnext text (by rw [(List.cons.inj hmore).1])
    exact regexFrom_append_ne_of_piece (piecesFrom.eq_3 inGroup text hnext)
      (piecesFrom.eq_3 inGroup _ hnext') ih
  | case4 inGroup text ih =>
    exact regexFrom_append_ne_of_piece (by rw [piecesFrom])
      (by rw [List.cons_append, piecesFrom]) ih
  | case5 inGroup text body after hbody hlength ih =>
    exact regexFrom_append_ne_of_piece (piecesFrom_set inGroup hbody)
      (piecesFrom_set inGroup (setBody?_append hbody _)) ih
  | case6 inGroup text hbody ih => exact regexFrom_bracket_append_ne hbody ih
  | case7 inGroup text ih | case8 inGroup text ih | case9 inGroup text ih =>
    exact regexFrom_append_ne_of_piece (by rw [piecesFrom])
      (by rw [List.cons_append, piecesFrom]) ih
  | case10 inGroup d text ih =>
    exact regexFrom_append_ne_of_piece (by rw [piecesFrom])
      (by rw [List.cons_append, List.cons_append, piecesFrom]) ih
  | case11 inGroup d text hruns hrun hone hset hopen hclose hcomma hescape ih =>
    have hself (more : List Char) (hends : d = '\\' → more = []) :
        piecesFrom inGroup (d :: more) = .literal d :: piecesFrom inGroup more := by
      rw [piecesFrom.eq_def]
      split <;> simp_all
    by_cases hends : d = '\\'
    · subst hends
      obtain rfl : text = [] := by
        cases text with
        | nil => rfl
        | cons d text => exact (hescape d text rfl rfl).elim
      exact regexFrom_backslash_ne hslash rest
    · exact regexFrom_append_ne_of_piece (hself text (absurd · hends))
        (hself (text ++ c :: rest) (absurd · hends)) ih

/-! ### Patterns -/

/-- Where a pattern may end within a value: before a comma, before a blank or with the value. -/
def IsEnd (rest : List Char) : Prop :=
  ∀ c ∈ rest.head?, c = ',' ∨ isBlank c = true

theorem ne_of_isEnd {c d : Char} {rest : List Char} (h : IsEnd (c :: rest)) (hcomma : d ≠ ',')
    (hblank : isBlank d = false) : c ≠ d := by
  rintro rfl
  rcases h c rfl with rfl | hc
  · exact hcomma rfl
  · simp [hblank] at hc

theorem isPrefix_append_cons_iff {mark text rest : List Char} {c : Char} (hc : c ∉ mark) :
    mark <+: text ++ c :: rest ↔ mark <+: text := by
  refine ⟨fun h ↦ ?_, fun h ↦ h.trans (List.prefix_append text (c :: rest))⟩
  obtain ⟨tail, htail⟩ := h
  rcases List.append_eq_append_iff.mp htail with ⟨more, rfl, -⟩ | ⟨more, rfl, hmore⟩
  · exact List.prefix_append mark more
  · cases more with
    | nil => simp
    | cons d more =>
      obtain ⟨rfl, -⟩ := List.cons.inj hmore
      exact absurd (by simp) hc

/-- The glob of a pattern that is not a regular expression, behind its mark if it has one. -/
def globText (text : List Char) : List Char :=
  if globMark.isPrefixOf text then text.drop globMark.length else text

theorem regexOf_ofList {text : List Char} (h : ¬ regexMark <+: text) :
    regexOf (String.ofList text) = String.ofList (regexFrom false (globText text)) := by
  simp only [regexOf, String.toList_ofList, List.isPrefixOf_iff_prefix, if_neg h, globText]
  split <;> exact globRegex_ofList _

theorem globText_append_cons {text rest : List Char} {c : Char} (hc : c ∉ globMark) :
    globText (text ++ c :: rest) = globText text ++ c :: rest := by
  simp only [globText, List.isPrefixOf_iff_prefix, isPrefix_append_cons_iff hc]
  split_ifs with h
  · rw [List.drop_append_of_le_length h.length_le]
  · rfl

theorem regexOf_append_ne {text rest : List Char} {c : Char} (hmark : ¬ regexMark <+: text)
    (hend : IsEnd (c :: rest)) :
    regexOf (String.ofList text) ≠ regexOf (String.ofList (text ++ c :: rest)) := by
  have hne {d : Char} (hd : d ≠ ',' ∧ isBlank d = false) : c ≠ d := ne_of_isEnd hend hd.1 hd.2
  have hmarks : (regexMark ++ globMark).all (fun d ↦ d != ',' && !isBlank d) = true := by decide
  have hunlike (d : Char) (hd : d ∈ regexMark ++ globMark) : c ≠ d :=
    hne (by simpa using List.all_eq_true.mp hmarks d hd)
  have hregex : c ∉ regexMark := fun hc ↦ hunlike c (List.mem_append_left _ hc) rfl
  have hglob : c ∉ globMark := fun hc ↦ hunlike c (List.mem_append_right _ hc) rfl
  rw [regexOf_ofList hmark, regexOf_ofList (mt (isPrefix_append_cons_iff hregex).mp hmark),
    globText_append_cons hglob]
  exact fun h ↦ regexFrom_append_ne (hne (by decide)) (hne (by decide)) false (globText text) rest
    (String.ofList_injective h)

/-- Two patterns that begin the same value and may end where they do are the same pattern if they
are written as the same regular expression. -/
theorem eq_of_regexOf_eq {first second rest rest' : List Char} (hmark : ¬ regexMark <+: first)
    (hvalue : first ++ rest = second ++ rest') (hrest : IsEnd rest) (hrest' : IsEnd rest')
    (heq : regexOf (String.ofList first) = regexOf (String.ofList second)) : first = second := by
  rcases List.append_eq_append_iff.mp hvalue with ⟨more, rfl, rfl⟩ | ⟨more, rfl, rfl⟩
  · cases more with
    | nil => rw [List.append_nil]
    | cons c more => exact absurd heq (regexOf_append_ne hmark hrest)
  · cases more with
    | nil => rw [List.append_nil]
    | cons c more =>
      have hmark' : ¬ regexMark <+: second := fun h ↦
        hmark (h.trans (List.prefix_append second (c :: more)))
      exact absurd heq.symm (regexOf_append_ne hmark' hrest')

end MountCensus.Pattern
