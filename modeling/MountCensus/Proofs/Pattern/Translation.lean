import Mathlib.Data.List.TakeWhile
import Mathlib.Tactic.SplitIfs
import MountCensus.Pattern.Matcher
import MountCensus.Proofs.Pattern.Language
import MountCensus.Proofs.Regex.Reading

/-!
The regular expression that a glob is written as, read back. Cut into tokens it is the tokens of
its pieces, one after the other (`tokens_regex`); an item is read as its trees (`readAs_item`) unless
it is a set with a range whose end is below its start (`faulty_item`), and a choice is read as a
group of alternatives (`readAs_part`). The main statements are
`parse_globRegex` for globs that can be used and `parse_globRegex_error` for those that cannot.
-/

set_option autoImplicit false

namespace MountCensus.Pattern

open Regex

/-! ### Tokens -/

/-- The token that stands for a character outside of sets. -/
def literalToken (c : Char) : Token :=
  if isRegexMark c then .escaped c else .plain c

/-- The token that stands for a character in a set. -/
def setToken (c : Char) : Token :=
  if c = '\\' ∨ c = '[' ∨ c = '^' then .escaped c else .plain c

def Piece.tokens : Piece → List Token
  | .anyRun true => [.plain '.', .plain '*']
  | .anyRun false => [.plain '[', .plain '^', .plain '/', .plain ']', .plain '*']
  | .anyOne => [.plain '[', .plain '^', .plain '/', .plain ']']
  | .set negated body =>
    [.plain '(', .plain '?', .plain '!', .plain '/', .plain ')', .plain '['] ++
      (if negated then [.plain '^'] else []) ++ body.map setToken ++ [.plain ']']
  | .opening => [.plain '(', .plain '?', .plain ':']
  | .separator => [.plain '|']
  | .closing => [.plain ')']
  | .literal c => [literalToken c]

theorem tokens_plain {c : Char} (h : c ≠ '\\') (text : List Char) :
    Regex.tokens (c :: text) = (.plain c :: (Regex.tokens text).1, (Regex.tokens text).2) := by
  rw [Regex.tokens.eq_4]
  · intro hc
    exact absurd hc h
  · intro _ _ hc
    exact absurd hc h

theorem tokens_escaped (c : Char) (text : List Char) :
    Regex.tokens ('\\' :: c :: text) =
      (.escaped c :: (Regex.tokens text).1, (Regex.tokens text).2) := by
  rw [Regex.tokens]

theorem tokens_literal (c : Char) (text : List Char) :
    Regex.tokens (escaped c ++ text) =
      (literalToken c :: (Regex.tokens text).1, (Regex.tokens text).2) := by
  unfold escaped literalToken
  split_ifs with hmark
  · exact tokens_escaped c text
  · have hslash : c ≠ '\\' := by
      rintro rfl
      exact hmark (by decide)
    exact tokens_plain hslash text

theorem tokens_setChars (body text : List Char) :
    Regex.tokens (body.flatMap setChar ++ text) =
      (body.map setToken ++ (Regex.tokens text).1, (Regex.tokens text).2) := by
  induction body with
  | nil => rfl
  | cons c body ih =>
    rw [List.flatMap_cons, List.append_assoc, List.map_cons]
    by_cases hspecial : c = '\\' ∨ c = '[' ∨ c = '^'
    · have hchar : setChar c = ['\\', c] := by
        rcases hspecial with rfl | rfl | rfl <;> rfl
      rw [hchar, setToken, if_pos hspecial, List.cons_append, List.cons_append, List.nil_append,
        tokens_escaped, ih]
      rfl
    · have hne := not_or.mp hspecial
      have hchar : setChar c = [c] := by
        simp [setChar, hne.1, (not_or.mp hne.2).1, (not_or.mp hne.2).2]
      rw [hchar, setToken, if_neg hspecial, List.cons_append, List.nil_append,
        tokens_plain hne.1, ih]
      rfl

theorem tokens_piece (piece : Piece) (text : List Char) :
    Regex.tokens (piece.regex ++ text) =
      (piece.tokens ++ (Regex.tokens text).1, (Regex.tokens text).2) := by
  cases piece with
  | anyRun crossing => cases crossing <;> simp [Piece.regex, Piece.tokens, tokens_plain]
  | set negated body =>
    have hclose := tokens_plain (show ']' ≠ '\\' by decide) text
    have hbody := tokens_setChars body (']' :: text)
    rw [hclose] at hbody
    have hregex : (Piece.set negated body).regex = ['(', '?', '!', '/', ')', '['] ++
        (if negated then ['^'] else []) ++ body.flatMap setChar ++ [']'] := rfl
    rw [hregex]
    cases negated <;> simp [Piece.tokens, tokens_plain, hbody]
  | literal c => simpa [Piece.regex, Piece.tokens] using tokens_literal c text
  | _ => simp [Piece.regex, Piece.tokens, tokens_plain]

/-- The tokens of the regular expression that pieces are written as, up to its very end. -/
theorem tokens_regex (pieces : List Piece) :
    Regex.tokens (pieces.flatMap Piece.regex) = (pieces.flatMap Piece.tokens, false) := by
  induction pieces with
  | nil => rfl
  | cons piece pieces ih => rw [List.flatMap_cons, tokens_piece, ih, List.flatMap_cons]

/-! ### Trees -/

def Member.node : Member → Regex.Member
  | .single c => .single c.toNat
  | .range low high => .range low.toNat high.toNat

/-- One character other than the slash. -/
def noSlash : Regex :=
  .char (.oneOf true [.single 47])

/-- The trees of an item. A set needs two, the first of which shuts out the slash. -/
def Item.nodes : Item → List Regex
  | .run true => [.repeated 0 none .greedy (.char .any)]
  | .run false => [.repeated 0 none .greedy noSlash]
  | .one => [noSlash]
  | .set negated body => [.look true true (Regex.sequence [Regex.literal 47]),
      .char (.oneOf negated ((membersOf body.chars).map Member.node))]
  | .literal c => [Regex.literal c.toNat]

def alternativeTree (alternative : List Item) : Regex :=
  Regex.sequence (alternative.flatMap Item.nodes)

def Part.nodes : Part → List Regex
  | .item i => i.nodes
  | .choice alternatives => [Regex.alternatives (alternatives.map alternativeTree)]

def Glob.tree (glob : Glob) : Regex :=
  Regex.sequence (glob.flatMap Part.nodes)

/-! ### Reading a set -/

section Sets

variable {start fuel : Nat} {found : List Regex.Member} {rest : List Token}

theorem setToken_eq_plain_iff {c d : Char} (hd : d ≠ '\\' ∧ d ≠ '[' ∧ d ≠ '^') :
    setToken c = .plain d ↔ c = d := by
  unfold setToken
  split_ifs with hspecial
  · constructor
    · intro h
      exact absurd h (by simp)
    · rintro rfl
      rcases hspecial with rfl | rfl | rfl <;> simp_all
  · rw [Token.plain.injEq]

theorem takes_member (c : Char) (tokens : List Token) :
    Takes (Reading.member (setToken c)) tokens tokens (.single c.toNat) := by
  unfold setToken
  split_ifs with hspecial
  · rcases hspecial with rfl | rfl | rfl <;> exact fun position ↦ ⟨position, rfl⟩
  · exact Takes.pure _ _

/-- A closing bracket behind a member closes the set. -/
theorem takes_members_close (hfound : found ≠ []) :
    Takes (Reading.members start (fuel + 1) found) (.plain ']' :: rest) rest found.reverse := by
  rw [Reading.members]
  refine (Takes.bind (takes_next _ _) _).trans ?_
  dsimp only
  rw [if_pos (by simp [hfound])]
  exact Takes.pure _ _

/-- What is read behind a member that a character stands for. -/
def membersBehind (start fuel : Nat) (c : Char) (found : List Regex.Member) :
    Regex.Reading (List Regex.Member) := do
  if ← Reading.accept '-' then
    let some bound ← Reading.next | Reading.failAt start .unterminatedSet
    if bound = .plain ']' then return (.single 45 :: .single c.toNat :: found).reverse
    let last ← Reading.member bound
    Reading.members start fuel
      ((← Reading.memberRange (setToken c) bound (.single c.toNat) last) :: found)
  else Reading.members start fuel (.single c.toNat :: found)

theorem goesOn_members {c : Char} (hclose : found = [] ∨ c ≠ ']') :
    GoesOn (Reading.members start (fuel + 1) found) (setToken c :: rest)
      (membersBehind start fuel c found) rest := by
  rw [Reading.members]
  refine (Takes.bind (takes_next _ _) _).trans ?_
  dsimp only
  have hopen : (decide (setToken c = .plain ']') && !found.isEmpty) = false := by
    rcases hclose with rfl | hne
    · simp
    · simp [setToken_eq_plain_iff (d := ']') (by decide), hne]
  rw [if_neg (by simp [hopen])]
  exact Takes.bind (takes_member c _) _

theorem goesOn_members_single {c : Char} (hclose : found = [] ∨ c ≠ ']')
    (hhyphen : rest.head? ≠ some (.plain '-')) :
    GoesOn (Reading.members start (fuel + 1) found) (setToken c :: rest)
      (Reading.members start fuel (.single c.toNat :: found)) rest :=
  (goesOn_members hclose).trans (Takes.bind (takes_accept_of_ne hhyphen) _)

/-- A hyphen in front of the closing bracket stands for itself. -/
theorem takes_members_hyphen {c : Char} (hclose : found = [] ∨ c ≠ ']') :
    Takes (Reading.members start (fuel + 1) found)
      (setToken c :: .plain '-' :: .plain ']' :: rest) rest
      (.single 45 :: .single c.toNat :: found).reverse := by
  refine (goesOn_members hclose).trans ?_
  refine (Takes.bind (takes_accept '-' _) _).trans ?_
  exact Takes.bind (takes_next _ _) _

theorem goesOn_members_bound {low high : Char} (hclose : found = [] ∨ low ≠ ']')
    (hhigh : high ≠ ']') :
    GoesOn (Reading.members start (fuel + 1) found)
      (setToken low :: .plain '-' :: setToken high :: rest)
      (do Reading.members start fuel ((← Reading.memberRange (setToken low) (setToken high)
        (.single low.toNat) (.single high.toNat)) :: found)) rest := by
  refine (goesOn_members hclose).trans ?_
  refine (Takes.bind (takes_accept '-' _) _).trans ?_
  refine (Takes.bind (takes_next _ _) _).trans ?_
  dsimp only
  rw [if_neg (by simp [setToken_eq_plain_iff (d := ']') (by decide), hhigh])]
  exact Takes.bind (takes_member high _) _

theorem goesOn_members_range {low high : Char} (hclose : found = [] ∨ low ≠ ']')
    (hhigh : high ≠ ']') (hle : low ≤ high) :
    GoesOn (Reading.members start (fuel + 1) found)
      (setToken low :: .plain '-' :: setToken high :: rest)
      (Reading.members start fuel (.range low.toNat high.toNat :: found)) rest := by
  refine (goesOn_members_bound hclose hhigh).trans (Takes.bind ?_ _)
  have hge : ¬ high.toNat < low.toNat := Nat.not_lt.mpr hle
  simp only [Reading.memberRange, hge, if_false]
  exact Takes.pure _ _

theorem refuses_members_range {low high : Char} (hclose : found = [] ∨ low ≠ ']')
    (hhigh : high ≠ ']') (hlt : high < low) :
    Refuses (Reading.members start (fuel + 1) found)
      (setToken low :: .plain '-' :: setToken high :: rest) := by
  refine (goesOn_members_bound hclose hhigh).refuses (Refuses.bind ?_ _)
  have hlt : high.toNat < low.toNat := hlt
  simp only [Reading.memberRange, hlt, if_true]
  exact refuses_fail _ _ _

end Sets

theorem setToken_hyphen : setToken '-' = .plain '-' := rfl

/-- A character that no hyphen and further character follow is a member of its own. -/
theorem goesOn_members_of_no_range {start fuel : Nat} {found : List Regex.Member} {c : Char}
    {body : List Char} {rest : List Token} (hclose : found = [] ∨ c ≠ ']')
    (hrange : ∀ high more, body ≠ '-' :: high :: more) (hbody : body ≠ ['-']) :
    GoesOn (Reading.members start (fuel + 1) found)
      (setToken c :: (body.map setToken ++ .plain ']' :: rest))
      (Reading.members start fuel (.single c.toNat :: found))
      (body.map setToken ++ .plain ']' :: rest) := by
  refine goesOn_members_single hclose ?_
  rcases body with _ | ⟨d, body⟩
  · simp
  · have hd : d ≠ '-' := by
      rintro rfl
      rcases body with _ | ⟨high, more⟩
      · exact hbody rfl
      · exact hrange high more rfl
    simpa [setToken_eq_plain_iff (d := '-') (by decide)] using hd

/-- The inside of a set is read as its members. A bracket that would close the set stands at most
in front of all of them. -/
theorem takes_members (start : Nat) (rest : List Token) (body : List Char) :
    ∀ (fuel : Nat) (found : List Regex.Member), body.length < fuel → (found = [] → body ≠ []) →
      (found = [] ∨ ']' ∉ body) → ']' ∉ body.tail → (∀ m ∈ membersOf body, ¬ m.Descends) →
      Takes (Reading.members start fuel found) (body.map setToken ++ .plain ']' :: rest) rest
        (found.reverse ++ (membersOf body).map Member.node) := by
  induction body using membersOf.induct with
  | case1 low high body ih =>
    rintro (_ | fuel) found hfuel hfound hhead htail hascends
    · simp at hfuel
    simp only [membersOf, List.forall_mem_cons] at hascends
    simp only [List.tail_cons, List.mem_cons, not_or] at htail
    simp only [List.map_cons, List.cons_append, setToken_hyphen]
    refine (goesOn_members_range (by grind) (Ne.symm htail.2.1) (Char.not_lt.mp hascends.1)).takes ?_
    have hmore := ih fuel (.range low.toNat high.toNat :: found) (by simp at hfuel; omega) (by simp)
      (.inr htail.2.2) (fun h ↦ htail.2.2 (List.mem_of_mem_tail h)) hascends.2
    simpa [membersOf, Member.node] using hmore
  | case2 c body hrange ih =>
    rintro (_ | fuel) found hfuel hfound hhead htail hascends
    · simp at hfuel
    have hclose : found = [] ∨ c ≠ ']' := by grind
    rw [List.map_cons, List.cons_append]
    by_cases hbody : body = ['-']
    · subst hbody
      simpa [membersOf, Member.node, setToken_hyphen] using takes_members_hyphen hclose
    · refine (goesOn_members_of_no_range hclose hrange hbody).takes ?_
      have hmembers : membersOf (c :: body) = .single c :: membersOf body := by
        rw [membersOf.eq_2 c body hrange]
      rw [hmembers, List.forall_mem_cons] at hascends
      have hmore := ih fuel (.single c.toNat :: found) (by simp at hfuel; omega) (by simp)
        (.inr htail) (fun h ↦ htail (List.mem_of_mem_tail h)) hascends.2
      simpa [hmembers, Member.node] using hmore
  | case3 =>
    rintro (_ | fuel) found hfuel hfound hhead htail hascends
    · simp at hfuel
    · simpa [membersOf] using takes_members_close fun h ↦ hfound h rfl

/-- A range whose end is below its start is a fault, wherever it stands in a set. -/
theorem refuses_members (start : Nat) (rest : List Token) (body : List Char) :
    ∀ (fuel : Nat) (found : List Regex.Member), body.length < fuel →
      (found = [] ∨ ']' ∉ body) → ']' ∉ body.tail → (∃ m ∈ membersOf body, m.Descends) →
      Refuses (Reading.members start fuel found) (body.map setToken ++ .plain ']' :: rest) := by
  induction body using membersOf.induct with
  | case1 low high body ih =>
    rintro (_ | fuel) found hfuel hhead htail hdescends
    · simp at hfuel
    simp only [membersOf, List.mem_cons, exists_eq_or_imp] at hdescends
    simp only [List.tail_cons, List.mem_cons, not_or] at htail
    simp only [List.map_cons, List.cons_append, setToken_hyphen]
    by_cases hlt : high < low
    · exact refuses_members_range (by grind) (Ne.symm htail.2.1) hlt
    · refine (goesOn_members_range (by grind) (Ne.symm htail.2.1) (Char.not_lt.mp hlt)).refuses ?_
      exact ih fuel _ (by simp at hfuel; omega) (.inr htail.2.2)
        (fun h ↦ htail.2.2 (List.mem_of_mem_tail h)) (hdescends.resolve_left hlt)
  | case2 c body hrange ih =>
    rintro (_ | fuel) found hfuel hhead htail hdescends
    · simp at hfuel
    have hclose : found = [] ∨ c ≠ ']' := by grind
    have hbody : body ≠ ['-'] := by
      rintro rfl
      simp [membersOf, Member.Descends] at hdescends
    simp only [membersOf.eq_2 c body hrange, List.mem_cons, exists_eq_or_imp] at hdescends
    rw [List.map_cons, List.cons_append]
    refine (goesOn_members_of_no_range hclose hrange hbody).refuses ?_
    exact ih fuel _ (by simp at hfuel; omega) (.inr htail)
      (fun h ↦ htail (List.mem_of_mem_tail h)) (hdescends.resolve_left id)
  | case3 =>
    rintro fuel found hfuel hhead htail ⟨m, hm, -⟩
    simp [membersOf] at hm

theorem setToken_ne_caret (c : Char) : setToken c ≠ .plain '^' := by
  unfold setToken
  split_ifs with hspecial
  · simp
  · simp_all

/-- The tokens of a set, from behind its opening bracket to the one that closes it. -/
def setTokens (negated : Bool) (body : SetBody) : List Token :=
  (if negated then [.plain '^'] else []) ++ body.chars.map setToken ++ [.plain ']']

theorem takes_negation (negated : Bool) (body : SetBody) (rest : List Token) :
    Takes (Reading.accept '^') (setTokens negated body ++ rest)
      (body.chars.map setToken ++ .plain ']' :: rest) negated := by
  cases negated with
  | true => simpa [setTokens] using takes_accept '^' (body.chars.map setToken ++ .plain ']' :: rest)
  | false =>
    have hfirst : (body.chars.map setToken ++ .plain ']' :: rest).head? ≠ some (.plain '^') := by
      simpa [SetBody.chars] using setToken_ne_caret body.first
    simpa [setTokens] using takes_accept_of_ne hfirst

theorem takes_charSet {body : SetBody} (h : ∀ m ∈ membersOf body.chars, ¬ m.Descends)
    (negated : Bool) (rest : List Token) :
    Takes Reading.charSet (setTokens negated body ++ rest) rest
      (.char (.oneOf negated ((membersOf body.chars).map Member.node))) := by
  refine goesOn_position fun start ↦ ?_
  refine (Takes.bind (takes_negation negated body rest) _).trans ?_
  refine goesOn_get fun position ↦ ?_
  refine (Takes.bind (takes_members _ rest body.chars _ [] ?_ ?_ (.inl rfl) body.closed h) _).trans
    (Takes.pure _ _)
  · simp only [standing, Progress.start, List.length_append, List.length_map, List.length_cons]
    omega
  · simp [SetBody.chars]

theorem refuses_charSet {body : SetBody} (h : ∃ m ∈ membersOf body.chars, m.Descends)
    (negated : Bool) (rest : List Token) :
    Refuses Reading.charSet (setTokens negated body ++ rest) := by
  refine refuses_position fun start ↦ ?_
  refine (Takes.bind (takes_negation negated body rest) _).refuses ?_
  refine refuses_get fun position ↦ ?_
  refine (refuses_members _ rest body.chars _ [] ?_ (.inl rfl) body.closed h).bind _
  simp only [standing, Progress.start, List.length_append, List.length_map, List.length_cons]
  omega

/-! ### Reading items -/

section Items

variable {fuel : Nat} {first : Bool} {found : List Regex} {rest : List Token}

theorem takes_escape {c : Char} (h : isRegexMark c = true) (tokens : List Token) :
    Takes (Reading.escape c) tokens tokens (Regex.literal c.toNat) := by
  have hmarks : c ∈ ['(', ')', '[', ']', '\x7b', '\x7d', '?', '*', '+', '-', '|', '^', '$', '\\', '.',
      '&', '~', '#', ' ', '\t', '\n', '\r', '\x0b', '\x0c'] := by
    simpa [isRegexMark] using h
  simp only [List.mem_cons, List.not_mem_nil, or_false] at hmarks
  rcases hmarks with rfl | rfl | rfl | rfl | rfl | rfl | rfl | rfl | rfl | rfl | rfl | rfl | rfl |
    rfl | rfl | rfl | rfl | rfl | rfl | rfl | rfl | rfl | rfl | rfl <;>
    exact fun position ↦ ⟨position, rfl⟩

theorem unqualified_literalToken (c : Char) (rest : List Token) :
    Unqualified (literalToken c :: rest) := by
  unfold literalToken Unqualified
  split_ifs with hmark
  · simp
  · constructor <;> simp <;> rintro rfl <;> exact hmark (by decide)

/-- No piece begins with a character that would qualify a repetition in front of it. -/
theorem unqualified_tokens (piece : Piece) (rest : List Token) :
    Unqualified (piece.tokens ++ rest) := by
  cases piece with
  | anyRun crossing => cases crossing <;> simp [Unqualified, Piece.tokens]
  | literal c => exact unqualified_literalToken c rest
  | _ => simp [Unqualified, Piece.tokens]

theorem takes_noSlash (rest : List Token) :
    Takes Reading.charSet (.plain '^' :: .plain '/' :: .plain ']' :: rest) rest noSlash := by
  have hslash : ∀ m ∈ membersOf (SetBody.mk '/' [] (by simp)).chars, ¬ m.Descends := by
    simp [membersOf, SetBody.chars, Member.Descends]
  exact takes_charSet hslash true rest

/-- The first tree of a set. -/
theorem takes_slashAhead {start : Nat} (rest : List Token) :
    Takes (Reading.group (fuel + 4) false start)
      (.plain '?' :: .plain '!' :: .plain '/' :: .plain ')' :: rest) rest
      (.inr [.look true true (Regex.sequence [Regex.literal 47])]) := by
  refine takes_group_ahead (takes_branches_end ?_ (by simp))
  refine (goesOn_items_literal (by decide)).takes ?_
  exact takes_items_end fun token htoken ↦ .inr (by simpa using htoken.symm)

theorem tokens_set (negated : Bool) (body : SetBody) (rest : List Token) :
    (Item.set negated body).piece.tokens ++ rest =
      .plain '(' :: .plain '?' :: .plain '!' :: .plain '/' :: .plain ')' :: .plain '[' ::
        (setTokens negated body ++ rest) := by
  simp [Item.piece, Piece.tokens, setTokens]

theorem isRegexMark_of_mem {c : Char} (h : c ∈ ".^$[(*+?\x7b|)".toList) :
    isRegexMark c = true := by
  have hmarks : c ∈ ['.', '^', '$', '[', '(', '*', '+', '?', '\x7b', '|', ')'] := h
  simp only [List.mem_cons, List.not_mem_nil, or_false] at hmarks
  rcases hmarks with rfl | rfl | rfl | rfl | rfl | rfl | rfl | rfl | rfl | rfl | rfl <;> rfl

/-- The tokens of an item are read as its trees. -/
theorem readAs_item {item : Item} (hascends : ¬ item.Descends) :
    ReadAs item.piece.tokens item.nodes := by
  cases item with
  | run crossing =>
    cases crossing with
    | true =>
      refine readAs_of_steps 2 (Nat.le_refl 2) fun fuel first found rest hrest _ ↦ ?_
      exact goesOn_items_dot.trans (goesOn_items_star rfl rfl hrest)
    | false =>
      refine readAs_of_steps 2 (by decide) fun fuel first found rest hrest _ ↦ ?_
      exact (goesOn_items_set (takes_noSlash _)).trans (goesOn_items_star rfl rfl hrest)
  | one =>
    refine readAs_of_steps 1 (by decide) fun fuel first found rest _ _ ↦ ?_
    exact goesOn_items_set (takes_noSlash rest)
  | set negated body =>
    refine readAs_of_steps 2 ?_ fun fuel first found rest _ hfuel ↦ ?_
    · simp [Item.piece, Piece.tokens]
    -- The group in front of the set is read with what the two steps leave.
    rw [tokens_set] at hfuel ⊢
    obtain ⟨fuel, rfl⟩ : ∃ less, fuel = less + 3 :=
      ⟨fuel - 3, by simp only [List.length_cons] at hfuel; omega⟩
    have hset := takes_charSet (fun m hm hd ↦ hascends ⟨m, hm, hd⟩) negated rest
    exact (goesOn_items_group fun _ ↦ takes_slashAhead _).trans (goesOn_items_set hset)
  | literal c =>
    refine readAs_of_steps 1 (Nat.le_refl 1) fun fuel first found rest _ _ ↦ ?_
    simp only [Item.piece, Piece.tokens, literalToken]
    split_ifs with hmark
    · exact goesOn_items_escaped (takes_escape hmark rest)
    · exact goesOn_items_literal fun hc ↦ hmark (isRegexMark_of_mem hc)

/-- A set that holds a range whose end is below its start is a fault. -/
theorem faulty_item {item : Item} (hdescends : item.Descends) : Faulty item.piece.tokens := by
  intro fuel first found rest _ hfuel
  cases item with
  | set negated body =>
    obtain ⟨fuel, rfl⟩ : ∃ more, fuel = more + 6 :=
      ⟨fuel - 6, by simp [Item.piece, Piece.tokens] at hfuel; omega⟩
    rw [tokens_set]
    refine (goesOn_items_group fun _ ↦ takes_slashAhead _).refuses ?_
    exact refuses_items_set (refuses_charSet hdescends negated rest)
  | _ => exact hdescends.elim

end Items

/-! ### Reading the alternatives of a choice -/

theorem unqualified_pieces (pieces : List Piece) {rest : List Token} (h : Unqualified rest) :
    Unqualified (pieces.flatMap Piece.tokens ++ rest) := by
  cases pieces with
  | nil => exact h
  | cons piece pieces =>
    rw [List.flatMap_cons, List.append_assoc]
    exact unqualified_tokens piece _

theorem readAs_alternative {alternative : List Item}
    (hascends : ∀ item ∈ alternative, ¬ item.Descends) :
    ReadAs ((alternative.map Item.piece).flatMap Piece.tokens)
      (alternative.flatMap Item.nodes) := by
  induction alternative with
  | nil => exact readAs_nil
  | cons item alternative ih =>
    obtain ⟨hitem, hmore⟩ := List.forall_mem_cons.mp hascends
    rw [List.map_cons, List.flatMap_cons, List.flatMap_cons]
    exact (readAs_item hitem).append (ih hmore) fun _ ↦ unqualified_pieces _

theorem faulty_alternative {alternative : List Item}
    (hdescends : ∃ item ∈ alternative, item.Descends) :
    Faulty ((alternative.map Item.piece).flatMap Piece.tokens) := by
  induction alternative with
  | nil => simp at hdescends
  | cons item alternative ih =>
    rw [List.map_cons, List.flatMap_cons]
    by_cases hitem : item.Descends
    · exact (faulty_item hitem).append fun _ ↦ unqualified_pieces _
    · simp only [List.mem_cons, exists_eq_or_imp, hitem, false_or] at hdescends
      exact (readAs_item hitem).faulty_append (ih hdescends) fun _ ↦ unqualified_pieces _

/-- What stands behind the alternatives of a choice: its end, or the end of the pattern. -/
def EndsGroup (tokens : List Token) : Prop :=
  ∀ token ∈ tokens.head?, token = .plain ')'

theorem EndsGroup.endsBranch {tokens : List Token} (h : EndsGroup tokens) : EndsBranch tokens :=
  fun token htoken ↦ .inr (h token htoken)

theorem tokens_alternatives (alternative next : List Item) (more : List (List Item)) :
    (piecesOfAlternatives (alternative :: next :: more)).flatMap Piece.tokens =
      (alternative.map Item.piece).flatMap Piece.tokens ++
        .plain '|' :: (piecesOfAlternatives (next :: more)).flatMap Piece.tokens := by
  simp [piecesOfAlternatives, Piece.tokens]

theorem takes_items_alternative {alternative : List Item} {fuel : Nat} {rest : List Token}
    (hascends : ∀ item ∈ alternative, ¬ item.Descends) (hrest : EndsBranch rest)
    (hfuel : ((alternative.map Item.piece).flatMap Piece.tokens ++ rest).length < fuel) :
    Takes (Reading.items fuel false false [])
      ((alternative.map Item.piece).flatMap Piece.tokens ++ rest) rest
      (alternativeTree alternative) :=
  (readAs_alternative hascends).takes_items hrest hfuel

theorem endsBranch_bar (tokens : List Token) : EndsBranch (.plain '|' :: tokens) :=
  fun _ htoken ↦ .inl (Option.some.inj htoken).symm

/-- Alternatives are read as branches, one for each. -/
theorem takes_branches_alternatives {rest : List Token} (hrest : EndsGroup rest)
    (more : List (List Item)) :
    ∀ (alternative : List Item) (fuel : Nat) (found : List Regex),
      (∀ a ∈ alternative :: more, ∀ item ∈ a, ¬ item.Descends) →
      ((piecesOfAlternatives (alternative :: more)).flatMap Piece.tokens ++ rest).length + 1
        < fuel →
      Takes (Reading.branches fuel false false found)
        ((piecesOfAlternatives (alternative :: more)).flatMap Piece.tokens ++ rest) rest
        (Regex.alternatives (found.reverse ++ (alternative :: more).map alternativeTree)) := by
  induction more with
  | nil =>
    intro alternative fuel found hascends hfuel
    obtain ⟨fuel, rfl⟩ : ∃ less, fuel = less + 1 := ⟨fuel - 1, by omega⟩
    simp only [piecesOfAlternatives] at hfuel ⊢
    have hend : rest.head? ≠ some (.plain '|') := fun hhead ↦ by simpa using hrest _ hhead
    have hitems := takes_items_alternative (hascends alternative (by simp)) hrest.endsBranch
      (Nat.lt_of_succ_lt_succ hfuel)
    simpa using takes_branches_end hitems hend
  | cons next more ih =>
    intro alternative fuel found hascends hfuel
    obtain ⟨hfirst, hmore⟩ := List.forall_mem_cons.mp hascends
    obtain ⟨fuel, rfl⟩ : ∃ less, fuel = less + 1 := ⟨fuel - 1, by omega⟩
    rw [tokens_alternatives, List.append_assoc, List.cons_append] at hfuel ⊢
    have hitems := takes_items_alternative hfirst (endsBranch_bar _)
      (Nat.lt_of_succ_lt_succ hfuel)
    refine (goesOn_branches_bar hitems).takes ?_
    have hnext := ih next fuel (alternativeTree alternative :: found) hmore
      (by simp only [List.length_append, List.length_cons] at hfuel ⊢; omega)
    simpa using hnext

/-- A fault in one of the alternatives is a fault of the choice. -/
theorem refuses_branches_alternatives {rest : List Token} (hrest : EndsGroup rest)
    (more : List (List Item)) :
    ∀ (alternative : List Item) (fuel : Nat) (found : List Regex),
      (∃ a ∈ alternative :: more, ∃ item ∈ a, item.Descends) →
      ((piecesOfAlternatives (alternative :: more)).flatMap Piece.tokens ++ rest).length + 1
        < fuel →
      Refuses (Reading.branches fuel false false found)
        ((piecesOfAlternatives (alternative :: more)).flatMap Piece.tokens ++ rest) := by
  induction more with
  | nil =>
    intro alternative fuel found hdescends hfuel
    obtain ⟨fuel, rfl⟩ : ∃ less, fuel = less + 1 := ⟨fuel - 1, by omega⟩
    simp only [piecesOfAlternatives, List.mem_singleton, exists_eq_left] at hdescends hfuel ⊢
    exact refuses_branches (faulty_alternative hdescends _ _ _ _ hrest.endsBranch.unqualified
      (by omega))
  | cons next more ih =>
    intro alternative fuel found hdescends hfuel
    obtain ⟨fuel, rfl⟩ : ∃ less, fuel = less + 1 := ⟨fuel - 1, by omega⟩
    rw [tokens_alternatives, List.append_assoc, List.cons_append] at hfuel ⊢
    by_cases hfirst : ∃ item ∈ alternative, item.Descends
    · exact refuses_branches (faulty_alternative hfirst _ _ _ _ (endsBranch_bar _).unqualified
        (by omega))
    · have hascends : ∀ item ∈ alternative, ¬ item.Descends :=
        fun item hitem hd ↦ hfirst ⟨item, hitem, hd⟩
      have hitems := takes_items_alternative hascends (endsBranch_bar _)
        (Nat.lt_of_succ_lt_succ hfuel)
      obtain ⟨a, ha, hd⟩ := hdescends
      have hnext : a ∈ next :: more :=
        (List.mem_cons.mp ha).resolve_left fun h ↦ hfirst (h ▸ hd)
      refine (goesOn_branches_bar hitems).refuses (ih next fuel _ ⟨a, hnext, hd⟩ ?_)
      · simp only [List.length_append, List.length_cons] at hfuel ⊢
        omega

/-! ### Reading a glob -/

theorem tokens_choice (alternatives : List (List Item)) (rest : List Token) :
    (Part.choice alternatives).pieces.flatMap Piece.tokens ++ rest =
      .plain '(' :: .plain '?' :: .plain ':' ::
        ((piecesOfAlternatives alternatives).flatMap Piece.tokens ++ .plain ')' :: rest) := by
  simp [Part.pieces, Piece.tokens]

theorem endsGroup_close (tokens : List Token) : EndsGroup (.plain ')' :: tokens) :=
  fun _ htoken ↦ (Option.some.inj htoken).symm

theorem readAs_part {part : Part} (hproper : part.IsProper) (hascends : ¬ part.Descends) :
    ReadAs (part.pieces.flatMap Piece.tokens) part.nodes := by
  cases part with
  | item i => simpa [Part.pieces, Part.nodes] using readAs_item hascends
  | choice alternatives =>
    obtain ⟨alternative, more, rfl⟩ := List.exists_cons_of_ne_nil hproper
    refine readAs_of_steps 1 (by simp [Part.pieces, Piece.tokens])
      fun fuel first found rest _ hfuel ↦ ?_
    rw [tokens_choice] at hfuel ⊢
    simp only [List.length_append, List.length_cons] at hfuel
    obtain ⟨fuel, rfl⟩ : ∃ less, fuel = less + 1 := ⟨fuel - 1, by omega⟩
    refine goesOn_items_group fun _ ↦ takes_group_plain ?_
    refine takes_branches_alternatives (endsGroup_close rest) more alternative fuel [] ?_ ?_
    · exact fun a ha item hitem hd ↦ hascends ⟨a, ha, item, hitem, hd⟩
    · simp only [List.length_append, List.length_cons]
      omega

theorem faulty_part {part : Part} (hdescends : part.Descends) :
    Faulty (part.pieces.flatMap Piece.tokens) := by
  cases part with
  | item i => simpa [Part.pieces] using faulty_item hdescends
  | choice alternatives =>
    obtain ⟨a, ha, hd⟩ := hdescends
    obtain ⟨alternative, more, rfl⟩ := List.exists_cons_of_ne_nil (List.ne_nil_of_mem ha)
    intro fuel first found rest _ hfuel
    rw [tokens_choice] at hfuel ⊢
    simp only [List.length_append, List.length_cons] at hfuel
    obtain ⟨fuel, rfl⟩ : ∃ less, fuel = less + 2 := ⟨fuel - 2, by omega⟩
    refine refuses_items_group fun _ ↦ refuses_group_plain ?_
    refine refuses_branches_alternatives (endsGroup_close rest) more alternative fuel [] ?_ ?_
    · exact ⟨a, ha, hd⟩
    · simp only [List.length_append, List.length_cons]
      omega

/-- The tokens of a whole glob. -/
def Glob.tokens (glob : Glob) : List Token :=
  (glob.flatMap Part.pieces).flatMap Piece.tokens

theorem Glob.tokens_cons (part : Part) (glob : Glob) :
    Glob.tokens (part :: glob) = part.pieces.flatMap Piece.tokens ++ Glob.tokens glob := by
  simp [Glob.tokens]

theorem readAs_glob {glob : Glob} (hproper : ∀ part ∈ glob, part.IsProper)
    (hascends : ¬ glob.Descends) : ReadAs glob.tokens (glob.flatMap Part.nodes) := by
  induction glob with
  | nil => exact readAs_nil
  | cons part glob ih =>
    obtain ⟨hpart, hmore⟩ := List.forall_mem_cons.mp hproper
    rw [Glob.tokens_cons, List.flatMap_cons]
    refine (readAs_part hpart fun hd ↦ hascends ⟨part, by simp, hd⟩).append (ih hmore ?_)
      fun _ ↦ unqualified_pieces _
    rintro ⟨other, hother, hd⟩
    exact hascends ⟨other, List.mem_cons_of_mem part hother, hd⟩

theorem faulty_glob {glob : Glob} (hproper : ∀ part ∈ glob, part.IsProper)
    (hdescends : glob.Descends) : Faulty glob.tokens := by
  induction glob with
  | nil =>
    obtain ⟨part, hpart, -⟩ := hdescends
    simp at hpart
  | cons part glob ih =>
    obtain ⟨hpart, hmore⟩ := List.forall_mem_cons.mp hproper
    rw [Glob.tokens_cons]
    by_cases hd : part.Descends
    · exact (faulty_part hd).append fun _ ↦ unqualified_pieces _
    · obtain ⟨other, hother, hdother⟩ := hdescends
      have hmem : other ∈ glob := (List.mem_cons.mp hother).resolve_left fun h ↦ hd (h ▸ hdother)
      exact (readAs_part hpart hd).faulty_append (ih hmore ⟨other, hmem, hdother⟩)
        fun _ ↦ unqualified_pieces _

/-- A choice that nothing closes is a fault, whatever it holds. -/
theorem refuses_items_unclosed {before : Glob} {alternatives : List (List Item)} {fuel : Nat}
    {first : Bool} {found : List Regex}
    (hproper : ∀ part ∈ before ++ [.choice alternatives], part.IsProper)
    (hfuel : (before.tokens ++
      (Piece.opening :: piecesOfAlternatives alternatives).flatMap Piece.tokens).length < fuel) :
    Refuses (Reading.items fuel false first found) (before.tokens ++
      (Piece.opening :: piecesOfAlternatives alternatives).flatMap Piece.tokens) := by
  have hbefore : ∀ part ∈ before, part.IsProper := fun part hpart ↦ hproper part (by simp [hpart])
  have hne : alternatives ≠ [] := hproper (.choice alternatives) (by simp)
  obtain ⟨alternative, more, rfl⟩ := List.exists_cons_of_ne_nil hne
  have hrest : Unqualified ((Piece.opening ::
      piecesOfAlternatives (alternative :: more)).flatMap Piece.tokens) := by
    simp [Unqualified, Piece.tokens]
  by_cases hdescends : before.Descends
  · exact faulty_glob hbefore hdescends _ _ _ _ hrest hfuel
  obtain ⟨fuel, hfuel, hgoes⟩ := readAs_glob hbefore hdescends _ first found _ hrest hfuel
  refine hgoes.refuses ?_
  have hends : EndsGroup [] := by simp [EndsGroup]
  have hopening : (Piece.opening :: piecesOfAlternatives (alternative :: more)).flatMap
      Piece.tokens = .plain '(' :: .plain '?' :: .plain ':' ::
        ((piecesOfAlternatives (alternative :: more)).flatMap Piece.tokens ++ []) := by
    simp [Piece.tokens]
  rw [hopening] at hfuel ⊢
  simp only [List.length_cons] at hfuel
  obtain ⟨fuel, rfl⟩ : ∃ less, fuel = less + 2 := ⟨fuel - 2, by omega⟩
  refine refuses_items_group fun _ ↦ ?_
  by_cases hd : (Part.choice (alternative :: more)).Descends
  · exact refuses_group_plain (refuses_branches_alternatives hends more alternative fuel [] hd
      (by omega))
  · refine refuses_group_open (takes_branches_alternatives hends more alternative fuel [] ?_
      (by omega)) (by simp)
    exact fun a ha item hitem hdescends ↦ hd ⟨a, ha, item, hitem, hdescends⟩

/-! ### The whole regular expression -/

theorem check_item (item : Item) : ∀ node ∈ item.nodes, check {} node = .ok () := by
  cases item with
  | run crossing => cases crossing <;> simp [Item.nodes, noSlash, check]
  | _ => simp [Item.nodes, noSlash, check, Regex.literal, Regex.sequence, bind, Except.bind]

theorem check_part (part : Part) : ∀ node ∈ part.nodes, check {} node = .ok () := by
  cases part with
  | item i => exact check_item i
  | choice alternatives =>
    rw [Part.nodes, List.forall_mem_singleton]
    refine check_alternatives fun branch hbranch ↦ ?_
    obtain ⟨alternative, -, rfl⟩ := List.mem_map.mp hbranch
    refine check_sequence fun node hnode ↦ ?_
    obtain ⟨item, -, hitem⟩ := List.mem_flatMap.mp hnode
    exact check_item item node hitem

theorem check_glob (glob : Glob) : check {} glob.tree = .ok () := by
  refine check_sequence fun node hnode ↦ ?_
  obtain ⟨part, -, hpart⟩ := List.mem_flatMap.mp hnode
  exact check_part part node hpart

theorem tokens_globRegex (text : String) :
    Regex.tokens (globRegex text).toList = ((pieces text.toList).flatMap Piece.tokens, false) := by
  rw [globRegex, String.toList_ofList, tokens_regex]

/-- The regular expression of a glob that can be used is the tree of what the glob reads as. -/
theorem parse_globRegex {text : String} {glob : Glob} (h : Reads text.toList glob true)
    (hascends : ¬ glob.Descends) : Regex.parse (globRegex text) = .ok (glob.tree, {}) := by
  have htokens : Regex.tokens (globRegex text).toList = (glob.tokens, false) := by
    have hpieces : pieces text.toList = glob.flatMap Part.pieces := pieces_of_reads h
    rw [tokens_globRegex, hpieces, Glob.tokens]
  exact parse_of_readAs htokens (readAs_glob h.isProper hascends) (check_glob glob)

theorem parse_globRegex_error {text : String} {glob : Glob} {closed : Bool}
    (h : Reads text.toList glob closed) (hfault : closed = false ∨ glob.Descends) :
    ∃ what place, Regex.parse (globRegex text) = .error (.defect what place) := by
  refine parse_of_refuses (tokens_globRegex text) fun fuel hfuel ↦ ?_
  cases closed with
  | true =>
    have hpieces : pieces text.toList = glob.flatMap Part.pieces := pieces_of_reads h
    have hfaulty := faulty_glob h.isProper (hfault.resolve_left (by simp))
    rw [hpieces] at hfuel ⊢
    have hrefuses := hfaulty fuel true [] [] (by simp [Unqualified])
      (by simpa [Glob.tokens] using hfuel)
    simpa [Glob.tokens] using hrefuses
  | false =>
    obtain ⟨before, alternatives, rfl, hpieces⟩ := pieces_of_reads h
    rw [hpieces, List.flatMap_append] at hfuel ⊢
    exact refuses_items_unclosed h.isProper hfuel

end MountCensus.Pattern
