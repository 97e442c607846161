import Mathlib.Data.List.Forall2
import Mathlib.Tactic.SplitIfs
import MountCensus.Json.Text
import MountCensus.Proofs.Text.Integer

/-!
A reader of Json, and the text of a value read back. The reader cuts a text into tokens one
character at a time and puts the tokens together with a stack of the lists and objects that are
still open; it knows the whole notation for the values there are here, whatever way of writing them
is chosen. The text of a value is read as that value (`read?_write`), so it says everything about
it.
-/

set_option autoImplicit false

namespace MountCensus.Json

inductive Token where
  | openList
  | closeList
  | openObject
  | closeObject
  | colon
  | comma
  | text (s : String)
  | int (n : Int)
  | bool (b : Bool)
deriving DecidableEq, Repr

/-! ### Characters -/

/-- The blanks that may stand between two tokens. -/
def isBlank (c : Char) : Bool :=
  c == ' ' || c == '\n' || c == '\r' || c == '\t'

def Token.ofMark? : Char → Option Token
  | '[' => some .openList
  | ']' => some .closeList
  | '\x7b' => some .openObject
  | '\x7d' => some .closeObject
  | ':' => some .colon
  | ',' => some .comma
  | _ => none

/-- What one character after a backslash stands for. -/
def escaped? : Char → Option Char
  | '"' => some '"'
  | '\\' => some '\\'
  | '/' => some '/'
  | 'b' => some '\x08'
  | 'f' => some '\x0c'
  | 'n' => some '\n'
  | 'r' => some '\r'
  | 't' => some '\t'
  | _ => none

def isHigh (unit : Nat) : Bool :=
  0xD800 ≤ unit && unit < 0xDC00

def isLow (unit : Nat) : Bool :=
  0xDC00 ≤ unit && unit < 0xE000

/-- The characters written by numbers. Two of them may make one character; neither does so by
itself. -/
def ofUnits : List Nat → Option (List Char)
  | [] => some []
  | high :: low :: rest =>
    if isHigh high && isLow low then
      (ofUnits rest).map (Char.ofNat (0x10000 + (high - 0xD800) * 0x400 + (low - 0xDC00)) :: ·)
    else if high.isValidChar then (ofUnits (low :: rest)).map (Char.ofNat high :: ·)
    else none
  | [unit] => if unit.isValidChar then some [Char.ofNat unit] else none

/-! ### Tokens -/

/-- What is known of the token that is being read. -/
inductive Scan where
  | ready
  | sign
  | number (negative : Bool) (value : Nat)
  | word (letters : List Char)
  | text (units : List Nat)
  | escape (units : List Nat)
  | code (units digits : List Nat)
deriving DecidableEq, Repr

namespace Scan

def ofWord? (letters : List Char) : Option Token :=
  if letters = "true".toList then some (.bool true)
  else if letters = "false".toList then some (.bool false)
  else none

/-- The token that ends where no character belongs to it any more, if there is one. -/
def finish : Scan → Option (List Token)
  | .ready => some []
  | .number negative value => some [.int (if negative then -(value : Int) else value)]
  | .word letters => (ofWord? letters).map ([·])
  | _ => none

/-- A character that does not belong to the token before it. -/
def start (c : Char) : Option (List Token × Scan) :=
  if isBlank c then some ([], .ready)
  else if c == '"' then some ([], .text [])
  else if c == '-' then some ([], .sign)
  else if c.isDigit then some ([], .number false (c.toNat - 48))
  else if c.isLower then some ([], .word [c])
  else (Token.ofMark? c).map fun mark ↦ ([mark], .ready)

/-- One more character: the tokens that are complete now, and what is known of the next one. A
number does not go on after a zero at its beginning. -/
def step : Scan → Char → Option (List Token × Scan)
  | .ready, c => start c
  | .sign, c => if c.isDigit then some ([], .number true (c.toNat - 48)) else none
  | .number negative value, c =>
    if c.isDigit then
      if value = 0 then none else some ([], .number negative (value * 10 + (c.toNat - 48)))
    else do
      let ended ← (number negative value).finish
      let (tokens, next) ← start c
      return (ended ++ tokens, next)
  | .word letters, c =>
    if c.isLower then some ([], .word (letters ++ [c]))
    else do
      let ended ← (word letters).finish
      let (tokens, next) ← start c
      return (ended ++ tokens, next)
  | .text units, c =>
    if c == '"' then (ofUnits units).map fun chars ↦ ([.text (String.ofList chars)], .ready)
    else if c == '\\' then some ([], .escape units)
    else if ' ' ≤ c then some ([], .text (units ++ [c.toNat]))
    else none
  | .escape units, c =>
    if c == 'u' then some ([], .code units [])
    else (escaped? c).map fun d ↦ ([], .text (units ++ [d.toNat]))
  | .code units digits, c => do
    let digit ← Text.hexDigit? c
    let digits := digits ++ [digit]
    if digits.length = 4 then return ([], .text (units ++ [Text.ofDigits 16 digits]))
    else return ([], .code units digits)

/-- The tokens of a text. -/
def tokens : Scan → List Char → Option (List Token)
  | state, [] => state.finish
  | state, c :: rest => do
    let (complete, next) ← state.step c
    let more ← next.tokens rest
    return complete ++ more

end Scan

/-! ### Values -/

/-- A list or an object that is still open: what it holds so far, and the key of what comes next. -/
inductive Frame where
  | list (items : List Json)
  | object (entries : List (String × Json)) (key : String)

mutual

/-- The value that begins with the next token, and then what is still open. -/
def parse (stack : List Frame) : List Token → Option Json
  | .text s :: rest => resume stack (.text s) rest
  | .int n :: rest => resume stack (.int n) rest
  | .bool b :: rest => resume stack (.bool b) rest
  | .openList :: .closeList :: rest => resume stack (.list []) rest
  | .openList :: rest => parse (.list [] :: stack) rest
  | .openObject :: .closeObject :: rest => resume stack (.object []) rest
  | .openObject :: rest => parseEntry stack [] rest
  | _ => none

/-- The key of an object's next entry, and then its value. -/
def parseEntry (stack : List Frame) (entries : List (String × Json)) : List Token → Option Json
  | .text key :: .colon :: rest => parse (.object entries key :: stack) rest
  | _ => none

/-- What is still open, given the value that has just been read. -/
def resume (stack : List Frame) (value : Json) : List Token → Option Json
  | [] => if stack.isEmpty then some value else none
  | .comma :: rest => match stack with
    | .list items :: stack => parse (.list (items ++ [value]) :: stack) rest
    | .object entries key :: stack => parseEntry stack (entries ++ [(key, value)]) rest
    | [] => none
  | .closeList :: rest => match stack with
    | .list items :: stack => resume stack (.list (items ++ [value])) rest
    | _ => none
  | .closeObject :: rest => match stack with
    | .object entries key :: stack => resume stack (.object (entries ++ [(key, value)])) rest
    | _ => none
  | _ => none

end

/-- The value that a text stands for. -/
def read? (text : String) : Option Json := do
  parse [] (← Scan.ready.tokens text.toList)

/-! ### The tokens of a value are parsed as that value -/

/-- Induction over values: what holds of all that a list or an object contains holds of it. -/
@[elab_as_elim]
theorem induction {P : Json → Prop} (bool : ∀ b, P (.bool b)) (int : ∀ n, P (.int n))
    (text : ∀ s, P (.text s)) (list : ∀ items, (∀ item ∈ items, P item) → P (.list items))
    (object : ∀ entries, (∀ entry ∈ entries, P entry.2) → P (.object entries)) (json : Json) :
    P json := by
  refine @Json.rec P (fun items ↦ ∀ item ∈ items, P item)
    (fun entries ↦ ∀ entry ∈ entries, P entry.2) (fun entry ↦ P entry.2)
    bool int text list object ?_ ?_ ?_ ?_ ?_ json
  · simp
  · exact fun item items hitem hitems ↦ List.forall_mem_cons.mpr ⟨hitem, hitems⟩
  · simp
  · exact fun entry entries hentry hentries ↦ List.forall_mem_cons.mpr ⟨hentry, hentries⟩
  · exact fun _ _ hvalue ↦ hvalue

mutual

def tokens : Json → List Token
  | .bool b => [.bool b]
  | .int n => [.int n]
  | .text s => [.text s]
  | .list items => .openList :: ([Token.comma].intercalate (itemTokens items) ++ [.closeList])
  | .object entries =>
    .openObject :: ([Token.comma].intercalate (entryTokens entries) ++ [.closeObject])

def itemTokens : List Json → List (List Token)
  | [] => []
  | item :: rest => item.tokens :: itemTokens rest

def entryTokens : List (String × Json) → List (List Token)
  | [] => []
  | (key, value) :: rest => (.text key :: .colon :: value.tokens) :: entryTokens rest

end

/-- Whatever is open, a value's tokens are read as that value. -/
def IsParsed (json : Json) : Prop :=
  ∀ (stack : List Frame) (rest : List Token),
    parse stack (json.tokens ++ rest) = resume stack json rest

/-- No value begins with the end of a list. -/
theorem closeList_not_head (json : Json) (more rest : List Token) :
    json.tokens ++ more ≠ .closeList :: rest := by
  cases json <;> simp [tokens]

theorem parse_openList {stack : List Frame} {rest : List Token}
    (h : ∀ more, rest ≠ .closeList :: more) :
    parse stack (.openList :: rest) = parse (.list [] :: stack) rest := by
  rw [parse]
  exact h

theorem parse_openObject {stack : List Frame} {rest : List Token}
    (h : ∀ more, rest ≠ .closeObject :: more) :
    parse stack (.openObject :: rest) = parseEntry stack [] rest := by
  rw [parse]
  exact h

/-- Items that follow those already read, up to the end of their list. -/
theorem parse_items {item : Json} {items : List Json} (hitem : item.IsParsed)
    (hitems : ∀ other ∈ items, other.IsParsed) (stack : List Frame) (former : List Json)
    (rest : List Token) :
    parse (.list former :: stack)
        ([Token.comma].intercalate (itemTokens (item :: items)) ++ .closeList :: rest) =
      resume stack (.list (former ++ item :: items)) rest := by
  induction items generalizing item former with
  | nil =>
    rw [itemTokens, itemTokens, List.intercalate_singleton, hitem, resume]
  | cons second items ih =>
    obtain ⟨hsecond, hmore⟩ := List.forall_mem_cons.mp hitems
    have hlater := ih hsecond hmore (former ++ [item])
    rw [itemTokens] at hlater ⊢
    rw [itemTokens, List.intercalate_cons_cons, List.append_assoc, List.append_assoc, hitem,
      List.singleton_append, resume]
    rw [hlater, List.append_assoc, List.singleton_append]

theorem parse_entries (key : String) {value : Json} {entries : List (String × Json)}
    (hvalue : value.IsParsed) (hentries : ∀ entry ∈ entries, entry.2.IsParsed)
    (stack : List Frame) (former : List (String × Json)) (rest : List Token) :
    parseEntry stack former
        ([Token.comma].intercalate (entryTokens ((key, value) :: entries)) ++
          .closeObject :: rest) =
      resume stack (.object (former ++ (key, value) :: entries)) rest := by
  induction entries generalizing key value former with
  | nil =>
    rw [entryTokens, entryTokens, List.intercalate_singleton, List.cons_append, List.cons_append,
      parseEntry, hvalue, resume]
  | cons entry entries ih =>
    obtain ⟨second, next⟩ := entry
    obtain ⟨hnext, hmore⟩ := List.forall_mem_cons.mp hentries
    have hlater := ih second hnext hmore (former ++ [(key, value)])
    rw [entryTokens] at hlater ⊢
    rw [entryTokens, List.intercalate_cons_cons, List.append_assoc, List.append_assoc,
      List.cons_append, List.cons_append, parseEntry, hvalue, List.singleton_append, resume]
    rw [hlater, List.append_assoc, List.singleton_append]

theorem isParsed (json : Json) : json.IsParsed := by
  induction json using induction with
  | bool b => exact fun _ _ ↦ by rw [tokens, List.singleton_append, parse]
  | int n => exact fun _ _ ↦ by rw [tokens, List.singleton_append, parse]
  | text s => exact fun _ _ ↦ by rw [tokens, List.singleton_append, parse]
  | list items hitems =>
    intro stack rest
    cases items with
    | nil => simp [tokens, itemTokens, parse]
    | cons item items =>
      obtain ⟨hitem, hmore⟩ := List.forall_mem_cons.mp hitems
      rw [tokens, List.cons_append, List.append_assoc, List.singleton_append, parse_openList,
        parse_items hitem hmore, List.nil_append]
      intro more
      cases items with
      | nil => simpa [itemTokens] using closeList_not_head item _ more
      | cons second items =>
        simpa [itemTokens, List.append_assoc] using closeList_not_head item _ more
  | object entries hentries =>
    intro stack rest
    cases entries with
    | nil => simp [tokens, entryTokens, parse]
    | cons entry entries =>
      obtain ⟨key, value⟩ := entry
      obtain ⟨hvalue, hmore⟩ := List.forall_mem_cons.mp hentries
      rw [tokens, List.cons_append, List.append_assoc, List.singleton_append, parse_openObject,
        parse_entries key hvalue hmore, List.nil_append]
      intro more
      cases entries <;> simp [entryTokens]

theorem parse_tokens (json : Json) : parse [] json.tokens = some json := by
  have h := json.isParsed [] []
  rw [List.append_nil, resume] at h
  exact h

/-! ### The text of a value is cut into its tokens -/

namespace Scan

/-- Reading `chars` leads from one state to another and completes `complete` on the way, whatever
follows. -/
def Reads (state : Scan) (chars : List Char) (complete : List Token) (next : Scan) : Prop :=
  ∀ rest, state.tokens (chars ++ rest) = (next.tokens rest).map (complete ++ ·)

variable {state next last : Scan} {chars more : List Char} {complete further : List Token}

theorem Reads.nil (state : Scan) : state.Reads [] [] state := fun rest ↦ by simp

theorem Reads.step {c : Char} (h : state.step c = some (complete, next)) :
    state.Reads [c] complete next := fun rest ↦ by
  rw [List.singleton_append, tokens, h]
  cases hrest : next.tokens rest <;> simp [hrest]

theorem Reads.append (h : state.Reads chars complete next) (hmore : next.Reads more further last) :
    state.Reads (chars ++ more) (complete ++ further) last := fun rest ↦ by
  rw [List.append_assoc, h, hmore, Option.map_map]
  simp [Function.comp_def]

/-- What completes nothing leaves the tokens to what follows it. -/
theorem Reads.tokens_append (h : state.Reads chars [] next) (rest : List Char) :
    state.tokens (chars ++ rest) = next.tokens rest := by
  rw [h]
  cases next.tokens rest <;> rfl

theorem Reads.cons {c : Char} (middle : Scan) (h : state.step c = some ([], middle))
    (hmore : middle.Reads more further last) : state.Reads (c :: more) further last :=
  (Reads.step h).append hmore

/-- A text with which neither a number nor a word goes on. -/
def IsApart (text : List Char) : Prop :=
  ∀ c ∈ text.head?, c.isDigit = false ∧ c.isLower = false

theorem isApart_nil : IsApart [] := fun _ h ↦ absurd h (by simp)

theorem isApart_cons {c : Char} (hdigit : c.isDigit = false) (hlower : c.isLower = false)
    (text : List Char) : IsApart (c :: text) := by
  rintro d hd
  obtain rfl : c = d := Option.some.inj hd
  exact ⟨hdigit, hlower⟩

theorem tokens_number {negative : Bool} {value : Nat} {rest : List Char} (h : IsApart rest) :
    (number negative value).tokens rest =
      (ready.tokens rest).map (.int (if negative then -(value : Int) else value) :: ·) := by
  cases rest with
  | nil => rfl
  | cons c rest =>
    have hdigit : c.isDigit = false := (h c rfl).1
    simp only [tokens, step, hdigit, finish]
    rcases start c with _ | ⟨complete, next⟩
    · rfl
    · cases hmore : next.tokens rest <;> simp [hmore]

theorem tokens_word {letters : List Char} {token : Token} {rest : List Char}
    (hword : ofWord? letters = some token) (h : IsApart rest) :
    (word letters).tokens rest = (ready.tokens rest).map (token :: ·) := by
  cases rest with
  | nil => simp [tokens, finish, hword]
  | cons c rest =>
    have hlower : c.isLower = false := (h c rfl).2
    simp only [tokens, step, hlower, finish, hword]
    rcases start c with _ | ⟨complete, next⟩
    · rfl
    · cases hmore : next.tokens rest <;> simp [hmore]

/-! #### Numbers -/

/-- What is known of a number before its first digit. -/
def beforeDigits (negative : Bool) : Scan :=
  if negative then sign else ready

theorem step_beforeDigits (negative : Bool) {d : Nat} (hd : d < 10) :
    (beforeDigits negative).step d.digitChar = some ([], number negative d) := by
  have hall : ∀ negative, ∀ d < 10,
      (beforeDigits negative).step (Nat.digitChar d) = some ([], number negative d) := by
    decide
  exact hall negative d hd

theorem step_number {negative : Bool} {value d : Nat} (hvalue : value ≠ 0) (hd : d < 10) :
    (number negative value).step d.digitChar = some ([], number negative (value * 10 + d)) := by
  have hdigit : d.digitChar.isDigit = true := by simp [hd]
  have hcode : d.digitChar.toNat - 48 = d := by
    have hall : ∀ d < 10, (Nat.digitChar d).toNat - 48 = d := by decide
    exact hall d hd
  simp [step, hdigit, hvalue, hcode]

theorem reads_decimal (negative : Bool) (n : Nat) :
    (beforeDigits negative).Reads (Nat.toDigits 10 n) [] (number negative n) := by
  induction n using Nat.strongRecOn with
  | ind n ih =>
    by_cases hsmall : n < 10
    · rw [Nat.toDigits_of_lt_base hsmall]
      exact .step (step_beforeDigits negative hsmall)
    · have hfirst := ih (n / 10) (by omega)
      have hlast : (number negative (n / 10)).step (n % 10).digitChar =
          some ([], number negative n) := by
        rw [step_number (by omega) (by omega), Nat.div_add_mod' n 10]
      rw [Nat.toDigits_of_base_le (by decide) (by omega)]
      exact hfirst.append (.step hlast)

/-! #### Texts -/

/-- The numbers that write a character: one, or a pair if it lies beyond the first 0x10000. -/
def units (c : Char) : List Nat :=
  if c.toNat < 0x10000 then [c.toNat]
  else [0xD800 + (c.toNat - 0x10000) / 0x400, 0xDC00 + (c.toNat - 0x10000) % 0x400]

theorem units_of_lt {c : Char} (h : c.toNat < 0x10000) : units c = [c.toNat] :=
  if_pos h

theorem isValidChar_toNat (c : Char) : c.toNat.isValidChar :=
  c.valid

/-- No character has the number of half a pair. -/
theorem isHigh_toNat (c : Char) : isHigh c.toNat = false := by
  have hvalid := isValidChar_toNat c
  simp only [Nat.isValidChar] at hvalid
  simp only [isHigh, Bool.and_eq_false_iff, decide_eq_false_iff_not]
  omega

theorem ofUnits_cons (c : Char) (rest : List Nat) :
    ofUnits (c.toNat :: rest) = (ofUnits rest).map (c :: ·) := by
  have hvalid := isValidChar_toNat c
  cases rest with
  | nil => simp [ofUnits, hvalid]
  | cons unit rest => simp [ofUnits, isHigh_toNat, hvalid]

theorem ofUnits_units_append (c : Char) (rest : List Nat) :
    ofUnits (units c ++ rest) = (ofUnits rest).map (c :: ·) := by
  by_cases hsmall : c.toNat < 0x10000
  · rw [units_of_lt hsmall, List.singleton_append, ofUnits_cons]
  · have hvalid := isValidChar_toNat c
    simp only [Nat.isValidChar] at hvalid
    have hhigh : isHigh (0xD800 + (c.toNat - 0x10000) / 0x400) = true := by
      simp only [isHigh, Bool.and_eq_true, decide_eq_true_eq]
      omega
    have hlow : isLow (0xDC00 + (c.toNat - 0x10000) % 0x400) = true := by
      simp only [isLow, Bool.and_eq_true, decide_eq_true_eq]
      omega
    have hsum : 0x10000 + (0xD800 + (c.toNat - 0x10000) / 0x400 - 0xD800) * 0x400 +
        (0xDC00 + (c.toNat - 0x10000) % 0x400 - 0xDC00) = c.toNat := by
      omega
    rw [units, if_neg hsmall, List.cons_append, List.singleton_append, ofUnits, hhigh, hlow, hsum,
      Char.ofNat_toNat]
    rfl

theorem ofUnits_flatMap_units (chars : List Char) :
    ofUnits (chars.flatMap units) = some chars := by
  induction chars with
  | nil => rfl
  | cons c chars ih => rw [List.flatMap_cons, ofUnits_units_append, ih, Option.map_some]

/-- The last of several hexadecimal digits. -/
theorem hexDigits_succ (width n : Nat) :
    Text.hexDigits (width + 2) n = Text.hexDigits (width + 1) (n / 16) ++ [(n % 16).digitChar] := by
  by_cases hsmall : n < 16
  · have hzero : n / 16 = 0 := by omega
    have hmod : n % 16 = n := by omega
    simp only [Text.hexDigits, hzero, hmod, Nat.toDigits_of_lt_base hsmall,
      Nat.toDigits_of_lt_base (show 0 < 16 by decide), List.length_singleton, Nat.add_sub_cancel,
      show width + 2 - 1 = width + 1 by omega, List.replicate_succ']
    rfl
  · have hlength (len : Nat) : width + 2 - (len + 1) = width + 1 - len := by omega
    simp only [Text.hexDigits,
      Nat.toDigits_of_base_le (show 1 < 16 by decide) (Nat.le_of_not_lt hsmall),
      List.length_append, List.length_singleton, hlength, List.append_assoc]

theorem hexDigits_one {n : Nat} (h : n < 16) : Text.hexDigits 1 n = [n.digitChar] := by
  simp [Text.hexDigits, Nat.toDigits_of_lt_base h]

theorem hexDigit?_digitChar {d : Nat} (h : d < 16) : Text.hexDigit? d.digitChar = some d := by
  have hall : ∀ d < 16, Text.hexDigit? (Nat.digitChar d) = some d := by decide
  exact hall d h

theorem reads_codeUnit (former : List Nat) {n : Nat} (h : n < 0x10000) :
    (text former).Reads (codeUnit n) [] (text (former ++ [n])) := by
  have hdigits : Text.hexDigits 4 n = [(n / 16 / 16 / 16).digitChar, (n / 16 / 16 % 16).digitChar,
      (n / 16 % 16).digitChar, (n % 16).digitChar] := by
    rw [hexDigits_succ, hexDigits_succ, hexDigits_succ, hexDigits_one (by omega)]
    rfl
  have hvalue : Text.ofDigits 16 [n / 16 / 16 / 16, n / 16 / 16 % 16, n / 16 % 16, n % 16] = n := by
    simp only [Text.ofDigits, List.foldl_cons, List.foldl_nil]
    omega
  have hfirst := hexDigit?_digitChar (show n / 16 / 16 / 16 < 16 by omega)
  have hsecond := hexDigit?_digitChar (show n / 16 / 16 % 16 < 16 by omega)
  have hthird := hexDigit?_digitChar (show n / 16 % 16 < 16 by omega)
  have hfourth := hexDigit?_digitChar (show n % 16 < 16 by omega)
  rw [codeUnit, hdigits]
  refine .cons (escape former) rfl <| .cons (code former []) rfl ?_
  refine .cons (code former [n / 16 / 16 / 16]) (by simp [step, hfirst]) ?_
  refine .cons (code former [n / 16 / 16 / 16, n / 16 / 16 % 16])
    (by simp [step, hsecond]) ?_
  refine .cons (code former [n / 16 / 16 / 16, n / 16 / 16 % 16, n / 16 % 16])
    (by simp [step, hthird]) ?_
  exact .step (by simp [step, hfourth, hvalue])

theorem reads_escaped (former : List Nat) {letter c : Char} (hcode : letter ≠ 'u')
    (h : escaped? letter = some c) :
    (text former).Reads ['\\', letter] [] (text (former ++ [c.toNat])) :=
  .cons (escape former) rfl (.step (by simp [step, hcode, h]))

theorem reads_writtenChar (former : List Nat) (c : Char) :
    (text former).Reads (writtenChar c) [] (text (former ++ units c)) := by
  unfold writtenChar
  split_ifs with hmark hbreak hreturn htab hback hfeed hplain hsmall
  · rcases (Bool.or_eq_true _ _).mp hmark with h | h <;> obtain rfl := beq_iff_eq.mp h <;>
      exact reads_escaped former (by decide) rfl
  · obtain rfl := beq_iff_eq.mp hbreak
    exact reads_escaped former (by decide) rfl
  · obtain rfl := beq_iff_eq.mp hreturn
    exact reads_escaped former (by decide) rfl
  · obtain rfl := beq_iff_eq.mp htab
    exact reads_escaped former (by decide) rfl
  · obtain rfl := beq_iff_eq.mp hback
    exact reads_escaped former (by decide) rfl
  · obtain rfl := beq_iff_eq.mp hfeed
    exact reads_escaped former (by decide) rfl
  · obtain ⟨hspace, htilde⟩ : ' ' ≤ c ∧ c ≤ '~' := by simpa using hplain
    obtain ⟨hquote, hslash⟩ : c ≠ '"' ∧ c ≠ '\\' := by simpa using hmark
    have hcode : c.toNat ≤ 126 := htilde
    rw [units_of_lt (by omega)]
    exact .step (by simp [step, hquote, hslash, hspace])
  · rw [units_of_lt hsmall]
    exact reads_codeUnit former hsmall
  · have hvalid := isValidChar_toNat c
    simp only [Nat.isValidChar] at hvalid
    have hhigh := reads_codeUnit former (n := 0xD800 + (c.toNat - 0x10000) / 0x400) (by omega)
    have hlow := reads_codeUnit (former ++ [0xD800 + (c.toNat - 0x10000) / 0x400])
      (n := 0xDC00 + (c.toNat - 0x10000) % 0x400) (by omega)
    rw [List.append_assoc] at hlow
    rw [units, if_neg hsmall]
    exact hhigh.append hlow

theorem reads_writtenChars (chars : List Char) (former : List Nat) :
    (text former).Reads (chars.flatMap writtenChar) [] (text (former ++ chars.flatMap units)) := by
  induction chars generalizing former with
  | nil => simpa using Reads.nil (text former)
  | cons c chars ih =>
    have hmore := ih (former ++ units c)
    rw [List.append_assoc] at hmore
    exact (reads_writtenChar former c).append hmore

theorem reads_writtenText (s : String) :
    ready.Reads (writtenText s).toList [.text s] ready := by
  have hend : (text (s.toList.flatMap units)).step '"' = some ([.text s], ready) := by
    simp [step, ofUnits_flatMap_units]
  rw [writtenText, String.toList_ofList]
  exact .cons (text []) rfl ((reads_writtenChars s.toList []).append (.step hend))

/-! #### Values -/

/-- The tokens of a text, whatever follows it apart. -/
def Lexes (chars : List Char) (tokens : List Token) : Prop :=
  ∀ rest, IsApart rest → ready.tokens (chars ++ rest) = (ready.tokens rest).map (tokens ++ ·)

theorem Reads.lexes (h : ready.Reads chars complete ready) : Lexes chars complete :=
  fun rest _ ↦ h rest

theorem Reads.append_lexes (h : ready.Reads chars complete ready) (hmore : Lexes more further) :
    Lexes (chars ++ more) (complete ++ further) := fun rest hrest ↦ by
  rw [List.append_assoc, h, hmore rest hrest, Option.map_map]
  simp [Function.comp_def]

theorem Lexes.append (h : Lexes chars complete) (hapart : ∀ rest, IsApart (more ++ rest))
    (hmore : Lexes more further) : Lexes (chars ++ more) (complete ++ further) :=
  fun rest hrest ↦ by
    rw [List.append_assoc, h _ (hapart rest), hmore rest hrest, Option.map_map]
    simp [Function.comp_def]

theorem reads_blanks {blanks : List Char} (h : ∀ c ∈ blanks, isBlank c = true) :
    ready.Reads blanks [] ready := by
  induction blanks with
  | nil => exact .nil ready
  | cons c blanks ih =>
    obtain ⟨hc, hmore⟩ := List.forall_mem_cons.mp h
    exact .cons ready (by simp [step, start, hc]) (ih hmore)

theorem lexes_bool (b : Bool) : Lexes (if b then "true" else "false").toList [.bool b] := by
  intro rest hrest
  cases b with
  | true =>
    have hword : ready.Reads "true".toList [] (word "true".toList) :=
      .cons (word ['t']) rfl <| .cons (word ['t', 'r']) rfl <|
        .cons (word ['t', 'r', 'u']) rfl <| .step rfl
    rw [if_pos rfl, hword.tokens_append, tokens_word rfl hrest]
    rfl
  | false =>
    have hword : ready.Reads "false".toList [] (word "false".toList) :=
      .cons (word ['f']) rfl <| .cons (word ['f', 'a']) rfl <|
        .cons (word ['f', 'a', 'l']) rfl <|
          .cons (word ['f', 'a', 'l', 's']) rfl <| .step rfl
    rw [if_neg (by decide), hword.tokens_append, tokens_word rfl hrest]
    rfl

theorem lexes_int (n : Int) : Lexes (toString n).toList [.int n] := by
  intro rest hrest
  have hread : ready.Reads (toString n).toList [] (number (decide (n < 0)) n.natAbs) := by
    rw [Int.toString_eq_repr, Int.repr_eq_if]
    by_cases hneg : 0 ≤ n
    · have hdigits := reads_decimal false n.toNat
      have habs : n.toNat = n.natAbs := by omega
      rw [if_pos hneg, Nat.toList_repr, decide_eq_false (by omega), ← habs]
      exact hdigits
    · have hdigits := reads_decimal true (-n).toNat
      have habs : (-n).toNat = n.natAbs := by omega
      rw [if_neg hneg, String.toList_append, Nat.toList_repr, decide_eq_true (by omega), ← habs]
      exact .cons sign rfl hdigits
  have hvalue : (if decide (n < 0) then -(n.natAbs : Int) else n.natAbs) = n := by
    split_ifs with h <;> simp only [decide_eq_true_eq] at h <;> omega
  rw [hread.tokens_append, tokens_number hrest, hvalue]
  rfl

theorem lexes_intercalate {blanks : List Char} (hblanks : ∀ c ∈ blanks, isBlank c = true)
    {texts : List (List Char)} {parts : List (List Token)}
    (h : List.Forall₂ Lexes texts parts) :
    Lexes ((',' :: blanks).intercalate texts) ([Token.comma].intercalate parts) := by
  induction h with
  | nil => exact (Reads.nil ready).lexes
  | cons hfirst hmore ih =>
    cases hmore with
    | nil => simpa using hfirst
    | cons hsecond hlater =>
      have hcomma : ready.Reads ([','] ++ blanks) ([.comma] ++ []) ready :=
        (Reads.step rfl).append (reads_blanks hblanks)
      rw [List.intercalate_cons_cons, List.intercalate_cons_cons, List.append_assoc,
        List.append_assoc]
      exact hfirst.append (fun _ ↦ isApart_cons rfl rfl _) (hcomma.append_lexes ih)

/-- What is enclosed by two marks. -/
theorem Lexes.enclosed (left right : Char) {leftMark rightMark : Token}
    (hleft : ready.step left = some ([leftMark], ready))
    (hright : ready.step right = some ([rightMark], ready))
    (hdigit : right.isDigit = false) (hlower : right.isLower = false) (h : Lexes chars complete) :
    Lexes (left :: (chars ++ [right])) (leftMark :: (complete ++ [rightMark])) :=
  (Reads.step hleft).append_lexes
    (h.append (fun _ ↦ isApart_cons hdigit hlower _) (Reads.step hright).lexes)

end Scan

/-- A way of writing that puts nothing but spaces after commas and colons. -/
structure Style.IsSpacing (style : Style) : Prop where
  afterComma : ∀ c ∈ style.afterComma.toList, c = ' '
  afterColon : ∀ c ∈ style.afterColon.toList, c = ' '

theorem compact_isSpacing : compact.IsSpacing := ⟨by simp [compact], by simp [compact]⟩

theorem spaced_isSpacing : spaced.IsSpacing := ⟨by simp [spaced], by simp [spaced]⟩

theorem isBlank_of_spaces {chars : List Char} (h : ∀ c ∈ chars, c = ' ') :
    ∀ c ∈ chars, isBlank c = true := fun c hc ↦ by
  rw [h c hc]
  rfl

open Scan

variable {style : Style}

theorem forall₂_lexes_items {items : List Json}
    (h : ∀ item ∈ items, Lexes (item.write style).toList item.tokens) :
    List.Forall₂ Lexes ((writeItems style items).map String.toList) (itemTokens items) := by
  induction items with
  | nil => exact .nil
  | cons item items ih =>
    obtain ⟨hitem, hmore⟩ := List.forall_mem_cons.mp h
    exact .cons hitem (ih hmore)

theorem forall₂_lexes_entries (hstyle : style.IsSpacing) {entries : List (String × Json)}
    (h : ∀ entry ∈ entries, Lexes (entry.2.write style).toList entry.2.tokens) :
    List.Forall₂ Lexes ((writeEntries style entries).map String.toList) (entryTokens entries) := by
  induction entries with
  | nil => exact .nil
  | cons entry entries ih =>
    obtain ⟨key, value⟩ := entry
    obtain ⟨hvalue, hmore⟩ := List.forall_mem_cons.mp h
    refine .cons ?_ (ih hmore)
    have hcolon : ready.Reads ([':'] ++ style.afterColon.toList) ([.colon] ++ []) ready :=
      (Reads.step rfl).append (reads_blanks (isBlank_of_spaces hstyle.afterColon))
    have hentry := (reads_writtenText key).append_lexes (hcolon.append_lexes hvalue)
    simpa [String.toList_append] using hentry

theorem lexes_write (hstyle : style.IsSpacing) (json : Json) :
    Lexes (json.write style).toList json.tokens := by
  induction json using induction with
  | bool b => exact lexes_bool b
  | int n => exact lexes_int n
  | text s => exact (reads_writtenText s).lexes
  | list items hitems =>
    have hinner := lexes_intercalate (isBlank_of_spaces hstyle.afterComma)
      (forall₂_lexes_items hitems)
    have hwhole := hinner.enclosed '[' ']' rfl rfl rfl rfl
    simpa [write, tokens, String.toList_append, String.toList_intercalate] using hwhole
  | object entries hentries =>
    have hinner := lexes_intercalate (isBlank_of_spaces hstyle.afterComma)
      (forall₂_lexes_entries hstyle hentries)
    have hwhole := hinner.enclosed '\x7b' '\x7d' rfl rfl rfl rfl
    simpa [write, tokens, String.toList_append, String.toList_intercalate] using hwhole

/-- The text of a value is read as that value. -/
theorem read?_write (hstyle : style.IsSpacing) (json : Json) :
    read? (json.write style) = some json := by
  have htokens := lexes_write hstyle json [] isApart_nil
  rw [List.append_nil] at htokens
  simp [read?, htokens, Scan.tokens, finish, parse_tokens]

theorem write_injective (hstyle : style.IsSpacing) {json other : Json}
    (h : json.write style = other.write style) : json = other := by
  have hread := read?_write hstyle json
  rw [h, read?_write hstyle] at hread
  exact (Option.some.inj hread).symm

end MountCensus.Json
