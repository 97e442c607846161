import Mathlib.Data.List.TakeWhile
import Mathlib.Tactic.SplitIfs
import MountCensus.Pattern.Glob

/-!
The language of globs as it is documented, apart from the way in which a glob is made ready for
matching. A glob is a sequence of items and of choices between sequences of items; `Reads` says
which sequence a text stands for, `Glob.Matches` which subjects belong to it.

Reading goes from left to right, never gets stuck (`exists_reads`) and never has a choice
(`Reads.unique`): the only thing that can be wrong with a text as such is that it leaves a brace
open. The pieces that a glob is cut into are those of what it reads as (`pieces_of_reads`).
-/

set_option autoImplicit false

namespace MountCensus.Pattern

/-! ### Globs and the subjects they match -/

/-- A member of a set: a character, or all characters from one to another. -/
inductive Member where
  | single (c : Char)
  | range (low high : Char)
deriving DecidableEq, Repr

def Member.Has : Member → Char → Prop
  | .single d, c => c = d
  | .range low high, c => low ≤ c ∧ c ≤ high

/-- A range whose end is below its start. -/
def Member.Descends : Member → Prop
  | .single _ => False
  | .range low high => high < low

/-- The members that the inside of a set names, from left to right. A hyphen makes a range when a
character stands on either side of it; all other characters stand for themselves. -/
def membersOf : List Char → List Member
  | low :: '-' :: high :: rest => .range low high :: membersOf rest
  | c :: rest => .single c :: membersOf rest
  | [] => []

/-- The inside of a set, its negation apart. The bracket that closes the set is the first one that
does not stand in front of all members. -/
structure SetBody where
  first : Char
  more : List Char
  closed : ']' ∉ more
deriving DecidableEq, Repr

def SetBody.chars (body : SetBody) : List Char :=
  body.first :: body.more

/-- What a glob is made of besides braces. -/
inductive Item where
  | run (crossing : Bool)
  | one
  | set (negated : Bool) (body : SetBody)
  | literal (c : Char)
deriving DecidableEq, Repr

/-- An item, or a choice in braces. -/
inductive Part where
  | item (item : Item)
  | choice (alternatives : List (List Item))
deriving DecidableEq, Repr

abbrev Glob := List Part

/-- A text that falls into consecutive texts, one for each member of a list. -/
def MatchesInTurn {α : Type} (matches' : α → List Char → Prop) : List α → List Char → Prop
  | [], text => text = []
  | a :: rest, text => ∃ u v, text = u ++ v ∧ matches' a u ∧ MatchesInTurn matches' rest v

def Item.Matches : Item → List Char → Prop
  | .run true, _ => True
  | .run false, text => '/' ∉ text
  | .one, text => ∃ c, text = [c] ∧ c ≠ '/'
  | .set negated body, text =>
    ∃ c, text = [c] ∧ c ≠ '/' ∧ ((∃ m ∈ membersOf body.chars, m.Has c) ↔ negated = false)
  | .literal c, text => text = [c]

def Part.Matches : Part → List Char → Prop
  | .item i, text => i.Matches text
  | .choice alternatives, text =>
    ∃ alternative ∈ alternatives, MatchesInTurn Item.Matches alternative text

def Glob.Matches (glob : Glob) (text : List Char) : Prop :=
  MatchesInTurn Part.Matches glob text

/-- Whether a set holds a range whose end is below its start. -/
def Item.Descends : Item → Prop
  | .set _ body => ∃ m ∈ membersOf body.chars, m.Descends
  | _ => False

def Part.Descends : Part → Prop
  | .item i => i.Descends
  | .choice alternatives => ∃ alternative ∈ alternatives, ∃ item ∈ alternative, item.Descends

def Glob.Descends (glob : Glob) : Prop :=
  ∃ part ∈ glob, part.Descends

/-! ### What a text stands for -/

/-- The text behind an opening bracket begins with the inside of a set and the bracket that closes
it: the first one that is not directly behind the opening bracket or the negation. -/
def ClosesSet (text : List Char) (negated : Bool) (body : SetBody) (rest : List Char) : Prop :=
  (negated = false → body.first ≠ '!') ∧
    text = (if negated then ['!'] else []) ++ body.chars ++ ']' :: rest

/-- The characters that stand for themselves, given what follows them: a backslash does so at the
very end only, and commas and braces mean different things inside of braces and outside. -/
def StandsForItself (inGroup : Bool) (c : Char) (rest : List Char) : Prop :=
  c ≠ '*' ∧ c ≠ '?' ∧ c ≠ '[' ∧ (c = '\\' → rest = []) ∧
    (inGroup = true → c ≠ ',' ∧ c ≠ '\x7d') ∧ (inGroup = false → c ≠ '\x7b')

/-- The first item of a text, and the text behind it. -/
inductive ReadsItem (inGroup : Bool) : List Char → Item → List Char → Prop where
  | crossingRun (rest : List Char) : ReadsItem inGroup ('*' :: '*' :: rest) (.run true) rest
  | run (rest : List Char) : rest.head? ≠ some '*' →
      ReadsItem inGroup ('*' :: rest) (.run false) rest
  | one (rest : List Char) : ReadsItem inGroup ('?' :: rest) .one rest
  | set {text : List Char} {negated : Bool} {body : SetBody} {rest : List Char} :
      ClosesSet text negated body rest → ReadsItem inGroup ('[' :: text) (.set negated body) rest
  | bracket (rest : List Char) : (∀ negated body after, ¬ ClosesSet rest negated body after) →
      ReadsItem inGroup ('[' :: rest) (.literal '[') rest
  | escaped (c : Char) (rest : List Char) : ReadsItem inGroup ('\\' :: c :: rest) (.literal c) rest
  | plain {c : Char} {rest : List Char} : StandsForItself inGroup c rest →
      ReadsItem inGroup (c :: rest) (.literal c) rest

/-- The alternatives in the text behind an opening brace, and the text behind the brace that closes
them, if there is one. -/
inductive ReadsChoice : List Char → List (List Item) → Option (List Char) → Prop where
  | unclosed : ReadsChoice [] [[]] none
  | closed (rest : List Char) : ReadsChoice ('\x7d' :: rest) [[]] (some rest)
  | comma {text : List Char} {alternatives : List (List Item)} {rest : Option (List Char)} :
      ReadsChoice text alternatives rest → ReadsChoice (',' :: text) ([] :: alternatives) rest
  | item {text after : List Char} {item : Item} {alternative : List Item}
      {alternatives : List (List Item)} {rest : Option (List Char)} :
      ReadsItem true text item after → ReadsChoice after (alternative :: alternatives) rest →
      ReadsChoice text ((item :: alternative) :: alternatives) rest

/-- The glob that a text stands for, and whether every brace in it is closed. -/
inductive Reads : List Char → Glob → Bool → Prop where
  | nil : Reads [] [] true
  | item {text after : List Char} {item : Item} {glob : Glob} {closed : Bool} :
      ReadsItem false text item after → Reads after glob closed →
      Reads text (.item item :: glob) closed
  | choice {text after : List Char} {alternatives : List (List Item)} {glob : Glob}
      {closed : Bool} :
      ReadsChoice text alternatives (some after) → Reads after glob closed →
      Reads ('\x7b' :: text) (.choice alternatives :: glob) closed
  | unclosed {text : List Char} {alternatives : List (List Item)} :
      ReadsChoice text alternatives none → Reads ('\x7b' :: text) [.choice alternatives] false

/-- The texts that leave a brace open. -/
def LeavesOpen (text : List Char) : Prop :=
  ∃ glob, Reads text glob false

/-- The texts that have a range whose end is below its start in one of their sets. -/
def HoldsDescent (text : List Char) : Prop :=
  ∃ glob closed, Reads text glob closed ∧ glob.Descends

/-- The subjects in the language of a text. -/
def InLanguage (text subject : List Char) : Prop :=
  ∃ glob, Reads text glob true ∧ glob.Matches subject

/-! ### Where a set ends -/

/-- What lies before the first closing bracket of a text, behind what has been passed over, and
what follows that bracket. -/
def cutAtBracket (lead tail : List Char) : Option (List Char × List Char) :=
  if tail.contains ']' then
    some (lead ++ tail.takeWhile (· != ']'), (tail.dropWhile (· != ']')).drop 1)
  else none

theorem cutAtBracket_eq_some_iff {lead tail inside rest : List Char} :
    cutAtBracket lead tail = some (inside, rest) ↔
      ∃ u, ']' ∉ u ∧ tail = u ++ ']' :: rest ∧ inside = lead ++ u := by
  unfold cutAtBracket
  constructor
  · intro h
    split_ifs at h with hmem
    obtain ⟨rfl, rfl⟩ := Prod.mk.inj (Option.some.inj h)
    refine ⟨tail.takeWhile (· != ']'), ?_, ?_, rfl⟩
    · intro hbracket
      simpa using List.all_eq_true.mp (List.all_takeWhile (l := tail)) _ hbracket
    · have hhead : ∃ d, tail.dropWhile (· != ']') = ']' :: d := by
        cases hdrop : tail.dropWhile (· != ']') with
        | nil =>
          have hall := List.dropWhile_eq_nil_iff.mp hdrop _ (List.contains_iff_mem.mp hmem)
          simp at hall
        | cons c d =>
          have hc := List.head_dropWhile_not (· != ']') (l := tail) (by simp [hdrop])
          simp only [hdrop, List.head_cons, bne_eq_false_iff_eq] at hc
          exact ⟨d, by rw [hc]⟩
      obtain ⟨d, hd⟩ := hhead
      rw [hd, List.drop_one, List.tail_cons, ← hd, List.takeWhile_append_dropWhile]
  · rintro ⟨u, hu, rfl, rfl⟩
    have hall : ∀ c ∈ u, (c != ']') = true := by
      intro c hc
      simpa using ne_of_mem_of_not_mem hc hu
    rw [List.takeWhile_append_of_pos hall, List.dropWhile_append_of_pos hall]
    simp

theorem setBody?_negated_bracket (text : List Char) :
    setBody? ('!' :: ']' :: text) = cutAtBracket ['!', ']'] text := rfl

theorem setBody?_negated {text : List Char} (h : text.head? ≠ some ']') :
    setBody? ('!' :: text) = cutAtBracket ['!'] text := by
  cases text with
  | nil => rfl
  | cons c rest =>
    have hc : c ≠ ']' := by simpa using h
    simp [setBody?, cutAtBracket, hc]

theorem setBody?_bracket (text : List Char) :
    setBody? (']' :: text) = cutAtBracket [']'] text := rfl

theorem setBody?_of_ne {text : List Char} (hneg : text.head? ≠ some '!')
    (hbracket : text.head? ≠ some ']') : setBody? text = cutAtBracket [] text := by
  cases text with
  | nil => rfl
  | cons c rest =>
    have hneg : c ≠ '!' := by simpa using hneg
    have hbracket : c ≠ ']' := by simpa using hbracket
    simp [setBody?, cutAtBracket, hneg, hbracket]

/-- What is cut off a text as the inside of a set is what the rule for closing brackets gives. -/
theorem setBody?_eq_some_iff {text inside rest : List Char} :
    setBody? text = some (inside, rest) ↔
      ∃ negated body, ClosesSet text negated body rest ∧
        inside = (if negated then ['!'] else []) ++ body.chars := by
  constructor
  · intro h
    rcases text with _ | ⟨c, text⟩
    · simp [setBody?] at h
    by_cases hneg : c = '!'
    · subst hneg
      by_cases hbracket : text.head? = some ']'
      · obtain ⟨text, rfl⟩ := List.head?_eq_some_iff.mp hbracket
        rw [setBody?_negated_bracket, cutAtBracket_eq_some_iff] at h
        obtain ⟨u, hu, rfl, rfl⟩ := h
        exact ⟨true, ⟨']', u, hu⟩, ⟨by simp, rfl⟩, rfl⟩
      · rw [setBody?_negated hbracket, cutAtBracket_eq_some_iff] at h
        obtain ⟨_ | ⟨first, more⟩, hu, rfl, rfl⟩ := h
        · simp at hbracket
        · exact ⟨true, ⟨first, more, fun hmem ↦ hu (by simp [hmem])⟩, ⟨by simp, rfl⟩, rfl⟩
    · by_cases hbracket : c = ']'
      · subst hbracket
        rw [setBody?_bracket, cutAtBracket_eq_some_iff] at h
        obtain ⟨u, hu, rfl, rfl⟩ := h
        exact ⟨false, ⟨']', u, hu⟩, ⟨by simp, rfl⟩, rfl⟩
      · rw [setBody?_of_ne (by simpa using hneg) (by simpa using hbracket),
          cutAtBracket_eq_some_iff] at h
        obtain ⟨_ | ⟨first, more⟩, hu, htext, rfl⟩ := h
        · exact absurd (List.cons.inj htext).1 hbracket
        · obtain ⟨rfl, rfl⟩ := List.cons.inj htext
          exact ⟨false, ⟨c, more, fun hmem ↦ hu (by simp [hmem])⟩, ⟨fun _ ↦ hneg, rfl⟩, rfl⟩
  · rintro ⟨negated, ⟨first, more, hmore⟩, ⟨hfirst, rfl⟩, rfl⟩
    by_cases hbracket : first = ']'
    · subst hbracket
      have hcut (lead : List Char) :
          cutAtBracket lead (more ++ ']' :: rest) = some (lead ++ more, rest) :=
        cutAtBracket_eq_some_iff.mpr ⟨more, hmore, rfl, rfl⟩
      cases negated with
      | true => exact hcut ['!', ']']
      | false => exact hcut [']']
    · have hcut (lead : List Char) :
          cutAtBracket lead (first :: more ++ ']' :: rest) = some (lead ++ first :: more, rest) :=
        cutAtBracket_eq_some_iff.mpr ⟨first :: more, by simp [hmore, Ne.symm hbracket], rfl, rfl⟩
      cases negated with
      | true =>
        have hhead : (first :: more ++ ']' :: rest).head? ≠ some ']' := by simpa using hbracket
        exact (setBody?_negated hhead).trans (hcut ['!'])
      | false =>
        have hhead : (first :: more ++ ']' :: rest).head? ≠ some ']' := by simpa using hbracket
        have hneg : (first :: more ++ ']' :: rest).head? ≠ some '!' := by simpa using hfirst rfl
        exact (setBody?_of_ne hneg hhead).trans (hcut [])

theorem ofSetBody_of_closesSet {text : List Char} {negated : Bool} {body : SetBody}
    {rest : List Char} (h : ClosesSet text negated body rest) :
    Piece.ofSetBody ((if negated then ['!'] else []) ++ body.chars) =
      .set negated body.chars := by
  obtain ⟨hfirst, -⟩ := h
  cases negated with
  | true => rfl
  | false =>
    have hne : body.first ≠ '!' := hfirst rfl
    simp [Piece.ofSetBody, SetBody.chars, hne]

theorem setBody?_of_closesSet {text : List Char} {negated : Bool} {body : SetBody}
    {rest : List Char} (h : ClosesSet text negated body rest) :
    setBody? text = some ((if negated then ['!'] else []) ++ body.chars, rest) :=
  setBody?_eq_some_iff.mpr ⟨negated, body, h, rfl⟩

/-! ### The pieces of what a text reads as -/

def Item.piece : Item → Piece
  | .run crossing => .anyRun crossing
  | .one => .anyOne
  | .set negated body => .set negated body.chars
  | .literal c => .literal c

/-- The pieces of alternatives, with a separator in front of each but the first. -/
def piecesOfAlternatives : List (List Item) → List Piece
  | [] => []
  | [alternative] => alternative.map Item.piece
  | alternative :: more =>
    alternative.map Item.piece ++ .separator :: piecesOfAlternatives more

def Part.pieces : Part → List Piece
  | .item i => [i.piece]
  | .choice alternatives => .opening :: piecesOfAlternatives alternatives ++ [.closing]

theorem piecesOfAlternatives_nil_cons {alternatives : List (List Item)} (h : alternatives ≠ []) :
    piecesOfAlternatives ([] :: alternatives) = .separator :: piecesOfAlternatives alternatives := by
  cases alternatives with
  | nil => exact absurd rfl h
  | cons alternative more => rfl

theorem piecesOfAlternatives_item_cons (item : Item) (alternative : List Item)
    (alternatives : List (List Item)) :
    piecesOfAlternatives ((item :: alternative) :: alternatives) =
      item.piece :: piecesOfAlternatives (alternative :: alternatives) := by
  cases alternatives <;> rfl

theorem piecesFrom_set (inGroup : Bool) {text body after : List Char}
    (h : setBody? text = some (body, after)) :
    piecesFrom inGroup ('[' :: text) = .ofSetBody body :: piecesFrom inGroup after := by
  rw [piecesFrom]
  split
  · rename_i hbody
    obtain ⟨rfl, rfl⟩ := Prod.mk.inj (Option.some.inj (h.symm.trans hbody))
    rfl
  · rename_i hnone
    simp [h] at hnone

theorem piecesFrom_bracket (inGroup : Bool) {text : List Char} (h : setBody? text = none) :
    piecesFrom inGroup ('[' :: text) = .literal '[' :: piecesFrom inGroup text := by
  rw [piecesFrom]
  split
  · rename_i hbody
    simp [h] at hbody
  · rfl

theorem piecesFrom_of_readsItem {inGroup : Bool} {text after : List Char} {item : Item}
    (h : ReadsItem inGroup text item after) :
    piecesFrom inGroup text = item.piece :: piecesFrom inGroup after := by
  cases h with
  | crossingRun rest => simp [piecesFrom, Item.piece]
  | run _ hne =>
    have hnext : ∀ more, after = '*' :: more → False := by
      rintro more rfl
      exact hne rfl
    rw [piecesFrom.eq_3 inGroup after hnext]
    rfl
  | one rest => simp [piecesFrom, Item.piece]
  | set hset =>
    rw [piecesFrom_set inGroup (setBody?_of_closesSet hset), ofSetBody_of_closesSet hset]
    rfl
  | bracket rest hnone =>
    have hbody : setBody? after = none := by
      cases hcut : setBody? after with
      | none => rfl
      | some cut =>
        obtain ⟨negated, inside, hset, -⟩ := setBody?_eq_some_iff.mp hcut
        exact absurd hset (hnone _ _ _)
    exact piecesFrom_bracket inGroup hbody
  | escaped c rest => simp [piecesFrom, Item.piece]
  | plain hc =>
    obtain ⟨hstar, hquestion, hbracket, hslash, hin, hout⟩ := hc
    rw [piecesFrom.eq_def]
    cases inGroup <;> split <;> simp_all [Item.piece]

theorem ReadsChoice.ne_nil {text : List Char} {alternatives : List (List Item)}
    {rest : Option (List Char)} (h : ReadsChoice text alternatives rest) : alternatives ≠ [] := by
  cases h <;> simp

theorem piecesFrom_of_readsChoice {text : List Char} {alternatives : List (List Item)}
    {rest : Option (List Char)} (h : ReadsChoice text alternatives rest) :
    piecesFrom true text = piecesOfAlternatives alternatives ++
      rest.elim [] fun after ↦ .closing :: piecesFrom false after := by
  induction h with
  | unclosed => simp [piecesFrom, piecesOfAlternatives]
  | closed rest => simp [piecesFrom, piecesOfAlternatives]
  | comma hchoice ih =>
    rw [piecesOfAlternatives_nil_cons hchoice.ne_nil, List.cons_append, ← ih]
    simp [piecesFrom]
  | item hitem hchoice ih =>
    rw [piecesOfAlternatives_item_cons, List.cons_append, ← ih, piecesFrom_of_readsItem hitem]

/-- The pieces of a text whose braces are all closed, and of one that leaves a brace open. -/
theorem pieces_of_reads {text : List Char} {glob : Glob} {closed : Bool}
    (h : Reads text glob closed) :
    if closed then pieces text = glob.flatMap Part.pieces
    else ∃ before alternatives, glob = before ++ [.choice alternatives] ∧
      pieces text = before.flatMap Part.pieces ++ .opening :: piecesOfAlternatives alternatives := by
  unfold pieces
  induction h with
  | nil => simp [piecesFrom]
  | @item text after item glob closed hitem _ ih =>
    rw [piecesFrom_of_readsItem hitem]
    cases closed with
    | true => simpa [Part.pieces] using ih
    | false =>
      obtain ⟨before, alternatives, rfl, hpieces⟩ := ih
      exact ⟨.item item :: before, alternatives, rfl, by simp [hpieces, Part.pieces]⟩
  | @choice text after alternatives glob closed hchoice _ ih =>
    have hstep : piecesFrom false ('\x7b' :: text) =
        (Part.choice alternatives).pieces ++ piecesFrom false after := by
      simp [piecesFrom, piecesFrom_of_readsChoice hchoice, Part.pieces]
    rw [hstep]
    cases closed with
    | true => simpa using ih
    | false =>
      obtain ⟨before, more, rfl, hpieces⟩ := ih
      exact ⟨.choice alternatives :: before, more, rfl, by simp [hpieces]⟩
  | @unclosed text alternatives hchoice =>
    exact ⟨[], alternatives, rfl, by simp [piecesFrom, piecesFrom_of_readsChoice hchoice]⟩

/-- Choices have at least one alternative. -/
def Part.IsProper : Part → Prop
  | .item _ => True
  | .choice alternatives => alternatives ≠ []

theorem Reads.isProper {text : List Char} {glob : Glob} {closed : Bool}
    (h : Reads text glob closed) : ∀ part ∈ glob, part.IsProper := by
  induction h with
  | nil => simp
  | item _ _ ih => exact List.forall_mem_cons.mpr ⟨trivial, ih⟩
  | choice hchoice _ ih => exact List.forall_mem_cons.mpr ⟨hchoice.ne_nil, ih⟩
  | unclosed hchoice => exact List.forall_mem_singleton.mpr hchoice.ne_nil

/-! ### Every text reads as something -/

theorem exists_readsItem (inGroup : Bool) (c : Char) (text : List Char)
    (hin : inGroup = true → c ≠ ',' ∧ c ≠ '\x7d') (hout : inGroup = false → c ≠ '\x7b') :
    ∃ item after, ReadsItem inGroup (c :: text) item after ∧ after.length ≤ text.length := by
  by_cases hspecial : c ≠ '*' ∧ c ≠ '?' ∧ c ≠ '[' ∧ (c = '\\' → text = [])
  · obtain ⟨hstar, hquestion, hbracket, hslash⟩ := hspecial
    exact ⟨.literal c, text, .plain ⟨hstar, hquestion, hbracket, hslash, hin, hout⟩, le_rfl⟩
  by_cases hstar : c = '*'
  · subst hstar
    by_cases hnext : text.head? = some '*'
    · obtain ⟨rest, rfl⟩ := List.head?_eq_some_iff.mp hnext
      exact ⟨.run true, rest, .crossingRun rest, by simp⟩
    · exact ⟨.run false, text, .run text hnext, le_rfl⟩
  by_cases hquestion : c = '?'
  · subst hquestion
    exact ⟨.one, text, .one text, le_rfl⟩
  by_cases hbracket : c = '['
  · subst hbracket
    cases hcut : setBody? text with
    | none =>
      refine ⟨.literal '[', text, .bracket text fun negated body after hset ↦ ?_, le_rfl⟩
      simp [setBody?_of_closesSet hset] at hcut
    | some cut =>
      obtain ⟨inside, rest⟩ := cut
      obtain ⟨negated, body, hset, -⟩ := setBody?_eq_some_iff.mp hcut
      exact ⟨.set negated body, rest, .set hset, length_rest_of_setBody? hcut⟩
  · have hslash : c = '\\' ∧ text ≠ [] := by
      by_contra hne
      exact hspecial ⟨hstar, hquestion, hbracket, fun hc ↦ by_contra fun ht ↦ hne ⟨hc, ht⟩⟩
    obtain ⟨rfl, hne⟩ := hslash
    obtain ⟨d, rest, rfl⟩ := List.exists_cons_of_ne_nil hne
    exact ⟨.literal d, rest, .escaped d rest, by simp⟩

theorem exists_readsChoice (text : List Char) :
    ∃ alternatives rest, ReadsChoice text alternatives rest ∧
      ∀ after, rest = some after → after.length < text.length := by
  induction hlength : text.length using Nat.strong_induction_on generalizing text with
  | _ n ih =>
    rcases text with _ | ⟨c, text⟩
    · exact ⟨[[]], none, .unclosed, by simp⟩
    by_cases hclose : c = '\x7d'
    · subst hclose
      exact ⟨[[]], some text, .closed text, by simp [← hlength]⟩
    by_cases hcomma : c = ','
    · subst hcomma
      obtain ⟨alternatives, rest, hchoice, hrest⟩ := ih text.length (by simp [← hlength]) text rfl
      refine ⟨[] :: alternatives, rest, .comma hchoice, fun after hafter ↦ ?_⟩
      have := hrest after hafter
      simp only [List.length_cons] at hlength
      omega
    · obtain ⟨item, after, hitem, hle⟩ := exists_readsItem true c text (fun _ ↦ ⟨hcomma, hclose⟩)
        (by simp)
      simp only [List.length_cons] at hlength
      obtain ⟨alternatives, rest, hchoice, hrest⟩ := ih after.length (by omega) after rfl
      obtain ⟨alternative, more, rfl⟩ := List.exists_cons_of_ne_nil hchoice.ne_nil
      refine ⟨(item :: alternative) :: more, rest, .item hitem hchoice, fun last hlast ↦ ?_⟩
      have := hrest last hlast
      omega

theorem exists_reads (text : List Char) : ∃ glob closed, Reads text glob closed := by
  induction hlength : text.length using Nat.strong_induction_on generalizing text with
  | _ n ih =>
    rcases text with _ | ⟨c, text⟩
    · exact ⟨[], true, .nil⟩
    simp only [List.length_cons] at hlength
    by_cases hopen : c = '\x7b'
    · subst hopen
      obtain ⟨alternatives, rest, hchoice, hrest⟩ := exists_readsChoice text
      cases rest with
      | none => exact ⟨_, false, .unclosed hchoice⟩
      | some after =>
        have := hrest after rfl
        obtain ⟨glob, closed, hglob⟩ := ih after.length (by omega) after rfl
        exact ⟨_, closed, .choice hchoice hglob⟩
    · obtain ⟨item, after, hitem, hle⟩ := exists_readsItem false c text (by simp) (fun _ ↦ hopen)
      obtain ⟨glob, closed, hglob⟩ := ih after.length (by omega) after rfl
      exact ⟨_, closed, .item hitem hglob⟩

/-! ### No text reads as anything else -/

theorem ClosesSet.unique {text : List Char} {negated negated' : Bool} {body body' : SetBody}
    {rest rest' : List Char} (h : ClosesSet text negated body rest)
    (h' : ClosesSet text negated' body' rest') :
    negated = negated' ∧ body = body' ∧ rest = rest' := by
  have hcut := (setBody?_of_closesSet h).symm.trans (setBody?_of_closesSet h')
  obtain ⟨hinside, rfl⟩ := Prod.mk.inj (Option.some.inj hcut)
  have hpiece : Piece.set negated body.chars = .set negated' body'.chars := by
    rw [← ofSetBody_of_closesSet h, hinside, ofSetBody_of_closesSet h']
  obtain ⟨hnegated, hchars⟩ := Piece.set.inj hpiece
  obtain ⟨hfirst, hmore⟩ := List.cons.inj hchars
  refine ⟨hnegated, ?_, rfl⟩
  cases body
  cases body'
  simp_all

theorem ReadsItem.unique {inGroup : Bool} {text after after' : List Char} {item item' : Item}
    (h : ReadsItem inGroup text item after) (h' : ReadsItem inGroup text item' after') :
    item = item' ∧ after = after' := by
  cases h with
  | crossingRun _ =>
    cases h' with
    | crossingRun _ => exact ⟨rfl, rfl⟩
    | run _ hnext => exact absurd rfl hnext
    | plain hself => exact absurd rfl hself.1
  | run _ hnext =>
    cases h' with
    | crossingRun _ => exact absurd rfl hnext
    | run _ _ => exact ⟨rfl, rfl⟩
    | plain hself => exact absurd rfl hself.1
  | one _ =>
    cases h' with
    | one _ => exact ⟨rfl, rfl⟩
    | plain hself => exact absurd rfl hself.2.1
  | set hset =>
    cases h' with
    | set hset' =>
      obtain ⟨rfl, rfl, rfl⟩ := hset.unique hset'
      exact ⟨rfl, rfl⟩
    | bracket _ hnone => exact absurd hset (hnone _ _ _)
    | plain hself => exact absurd rfl hself.2.2.1
  | bracket _ hnone =>
    cases h' with
    | set hset => exact absurd hset (hnone _ _ _)
    | bracket _ _ => exact ⟨rfl, rfl⟩
    | plain hself => exact absurd rfl hself.2.2.1
  | escaped _ _ =>
    cases h' with
    | escaped _ _ => exact ⟨rfl, rfl⟩
    | plain hself => exact absurd (hself.2.2.2.1 rfl) (List.cons_ne_nil _ _)
  | plain hself =>
    cases h' with
    | crossingRun _ => exact absurd rfl hself.1
    | run _ _ => exact absurd rfl hself.1
    | one _ => exact absurd rfl hself.2.1
    | set _ => exact absurd rfl hself.2.2.1
    | bracket _ _ => exact absurd rfl hself.2.2.1
    | escaped _ _ => exact absurd (hself.2.2.2.1 rfl) (List.cons_ne_nil _ _)
    | plain _ => exact ⟨rfl, rfl⟩

/-- No item begins where an alternative or a choice ends. -/
theorem ReadsItem.head_ne {text after : List Char} {item : Item}
    (h : ReadsItem true text item after) : text.head? ≠ some ',' ∧ text.head? ≠ some '\x7d' := by
  cases h with
  | plain hself =>
    obtain ⟨hcomma, hclose⟩ := hself.2.2.2.2.1 rfl
    exact ⟨fun h ↦ hcomma (Option.some.inj h), fun h ↦ hclose (Option.some.inj h)⟩
  | _ => simp

/-- Outside of choices, no item begins with an opening brace. -/
theorem ReadsItem.head_ne_opening {text after : List Char} {item : Item}
    (h : ReadsItem false text item after) : text.head? ≠ some '\x7b' := by
  cases h with
  | plain hself => exact fun h ↦ hself.2.2.2.2.2 rfl (Option.some.inj h)
  | _ => simp

theorem ReadsChoice.unique {text : List Char} {alternatives alternatives' : List (List Item)}
    {rest rest' : Option (List Char)} (h : ReadsChoice text alternatives rest)
    (h' : ReadsChoice text alternatives' rest') :
    alternatives = alternatives' ∧ rest = rest' := by
  induction h generalizing alternatives' rest' with
  | unclosed =>
    cases h' with
    | unclosed => exact ⟨rfl, rfl⟩
    | item hitem _ => nomatch hitem
  | closed _ =>
    cases h' with
    | closed _ => exact ⟨rfl, rfl⟩
    | item hitem _ => exact absurd rfl hitem.head_ne.2
  | comma _ ih =>
    cases h' with
    | comma hmore =>
      obtain ⟨rfl, rfl⟩ := ih hmore
      exact ⟨rfl, rfl⟩
    | item hitem _ => exact absurd rfl hitem.head_ne.1
  | item hitem _ ih =>
    cases h' with
    | unclosed => nomatch hitem
    | closed _ => exact absurd rfl hitem.head_ne.2
    | comma _ => exact absurd rfl hitem.head_ne.1
    | item hitem' hmore =>
      obtain ⟨rfl, rfl⟩ := hitem.unique hitem'
      obtain ⟨halternatives, rfl⟩ := ih hmore
      obtain ⟨rfl, rfl⟩ := List.cons.inj halternatives
      exact ⟨rfl, rfl⟩

theorem Reads.unique {text : List Char} {glob glob' : Glob} {closed closed' : Bool}
    (h : Reads text glob closed) (h' : Reads text glob' closed') :
    glob = glob' ∧ closed = closed' := by
  induction h generalizing glob' closed' with
  | nil =>
    cases h' with
    | nil => exact ⟨rfl, rfl⟩
    | item hitem _ => nomatch hitem
  | item hitem _ ih =>
    cases h' with
    | nil => nomatch hitem
    | item hitem' hmore =>
      obtain ⟨rfl, rfl⟩ := hitem.unique hitem'
      obtain ⟨rfl, rfl⟩ := ih hmore
      exact ⟨rfl, rfl⟩
    | choice _ _ => exact absurd rfl hitem.head_ne_opening
    | unclosed _ => exact absurd rfl hitem.head_ne_opening
  | choice hchoice _ ih =>
    cases h' with
    | item hitem _ => exact absurd rfl hitem.head_ne_opening
    | choice hchoice' hmore =>
      obtain ⟨rfl, hrest⟩ := hchoice.unique hchoice'
      obtain rfl := Option.some.inj hrest
      obtain ⟨rfl, rfl⟩ := ih hmore
      exact ⟨rfl, rfl⟩
    | unclosed hchoice' => nomatch (hchoice.unique hchoice').2
  | unclosed hchoice =>
    cases h' with
    | item hitem _ => exact absurd rfl hitem.head_ne_opening
    | choice hchoice' _ => nomatch (hchoice.unique hchoice').2
    | unclosed hchoice' =>
      obtain ⟨rfl, -⟩ := hchoice.unique hchoice'
      exact ⟨rfl, rfl⟩

/-! ### What is said of a text, said of its reading -/

section Reading

variable {text : List Char} {glob : Glob} {closed : Bool}

theorem Reads.leavesOpen_iff (h : Reads text glob closed) : LeavesOpen text ↔ closed = false := by
  constructor
  · rintro ⟨other, hopen⟩
    exact (h.unique hopen).2
  · rintro rfl
    exact ⟨glob, h⟩

theorem Reads.holdsDescent_iff (h : Reads text glob closed) :
    HoldsDescent text ↔ glob.Descends := by
  constructor
  · rintro ⟨other, closed', hother, hdescends⟩
    rwa [(h.unique hother).1]
  · intro hdescends
    exact ⟨glob, closed, h, hdescends⟩

theorem Reads.inLanguage_iff (h : Reads text glob true) (subject : List Char) :
    InLanguage text subject ↔ glob.Matches subject := by
  constructor
  · rintro ⟨other, hother, hmatches⟩
    rwa [(h.unique hother).1]
  · intro hmatches
    exact ⟨glob, h, hmatches⟩

end Reading

end MountCensus.Pattern
