import MountCensus.Regex.Fault

/-!
The text of a regular expression cut into tokens: a backslash forms one token with the character
after it. A backslash at the very end has no such character, and reading up to it fails.
-/

set_option autoImplicit false

namespace MountCensus.Regex

inductive Token where
  | plain (c : Char)
  | escaped (c : Char)
deriving DecidableEq, Repr

def Token.width : Token → Nat
  | .plain _ => 1
  | .escaped _ => 2

def Token.chars : Token → List Char
  | .plain c => [c]
  | .escaped c => ['\\', c]

def Token.text (token : Token) : String :=
  String.ofList token.chars

/-- The tokens of a text, and whether a lone backslash is left at its end. -/
def tokens : List Char → List Token × Bool
  | [] => ([], false)
  | ['\\'] => ([], true)
  | '\\' :: c :: rest => let (more, dangling) := tokens rest; (.escaped c :: more, dangling)
  | c :: rest => let (more, dangling) := tokens rest; (.plain c :: more, dangling)

/-- A place in the text: the position of the next token, and the tokens from there on. -/
structure Source where
  position : Nat
  tokens : List Token
  dangling : Bool
deriving DecidableEq, Repr

/-- Reading stands just before a token; it cannot come to stand before a lone backslash. -/
def Source.settle (source : Source) : Except Fault Source :=
  if source.dangling && source.tokens.isEmpty then
    .error (.defect .danglingEscape (some source.position))
  else .ok source

def Source.start (text : String) : Except Fault Source :=
  let (tokens, dangling) := Regex.tokens text.toList
  (Source.mk 0 tokens dangling).settle

/-- The place after the next `count` tokens, or the end if there are fewer. -/
def Source.skip (source : Source) (count : Nat) : Except Fault Source :=
  let passed := source.tokens.take count
  (Source.mk (passed.foldl (· + ·.width) source.position) (source.tokens.drop count)
    source.dangling).settle

theorem Source.settle_of_not_dangling {source : Source} (h : source.dangling = false) :
    source.settle = .ok source := by
  simp [settle, h]

theorem Source.skip_one {position : Nat} {token : Token} {rest : List Token} :
    (Source.mk position (token :: rest) false).skip 1 =
      .ok ⟨position + token.width, rest, false⟩ := by
  simp [skip, settle]

theorem Source.skip_zero {source : Source} (h : source.dangling = false) :
    source.skip 0 = .ok source := by
  cases source
  simp_all [skip, settle]

theorem tokens_chars (text : List Char) :
    (tokens text).1.flatMap Token.chars ++ (if (tokens text).2 then ['\\'] else []) = text := by
  fun_induction tokens text <;> simp_all [Token.chars]

end MountCensus.Regex
