import MountCensus.Settings.Scalar

/-!
The value of one setting: a word, a text in quotation marks, or a collection of such values in
brackets or braces. A word with a colon behind it names an entry of a table; a hyphen marks an item
of a list.
-/

set_option autoImplicit false

namespace MountCensus.Settings

def isSpace (c : Char) : Bool :=
  c == ' ' || c == '\t' || c == '\n' || c == '\r'

def isFlowMark (c : Char) : Bool :=
  ",[]\x7b\x7d".toList.contains c

/-- Blanks and comments; a comment starts the text or follows a blank. -/
def skipBlanks : Bool → List Char → List Char
  | _, [] => []
  | afterBlank, c :: rest =>
    if isSpace c then skipBlanks true rest
    else if c = '#' && afterBlank then skipBlanks true (rest.dropWhile (· != '\n'))
    else c :: rest
termination_by _ text => text.length
decreasing_by
  · simp
  · exact Nat.lt_succ_of_le (List.dropWhile_sublist _).length_le

/-- Whether a colon in front of the text separates a key from its value. -/
def endsKey (inFlow : Bool) (afterColon : List Char) : Bool :=
  match afterColon with
  | [] => true
  | c :: _ => isSpace c || (inFlow && isFlowMark c)

/-- A word without quotation marks up to where it ends, blanks at its end included. -/
def wordFrom (inFlow : Bool) : List Char → List Char × List Char
  | [] => ([], [])
  | c :: rest =>
    if (c = ':' && endsKey inFlow rest) || (inFlow && (isFlowMark c || c = '?')) then
      ([], c :: rest)
    else match rest with
      | '#' :: _ =>
        if isSpace c then ([], c :: rest)
        else let (word, after) := wordFrom inFlow rest; (c :: word, after)
      | _ => let (word, after) := wordFrom inFlow rest; (c :: word, after)

/-- Whether a word without quotation marks can start here. -/
def startsWord (inFlow : Bool) : List Char → Bool
  | [] => false
  | c :: rest =>
    if "-?:".toList.contains c then
      (c = '-' || !inFlow) && rest.head?.any (!isSpace ·)
    else !isSpace c && !(",[]\x7b\x7d#&*!|>'\"%@`".toList.contains c)

def trimEnd (word : List Char) : List Char :=
  (word.reverse.dropWhile isSpace).reverse

/-- What follows the opening single quote, where a quote is written twice. -/
def singleQuoted : List Char → Option (List Char × List Char)
  | [] => none
  | '\'' :: '\'' :: rest => (singleQuoted rest).map fun (text, after) => ('\'' :: text, after)
  | '\'' :: rest => some ([], rest)
  | c :: rest => (singleQuoted rest).map fun (text, after) => (c :: text, after)

/-- The character of an escape of one letter. -/
def letterEscape? : Char → Option Char
  | '0' => some '\x00'
  | 'a' => some '\x07'
  | 'b' => some '\x08'
  | 't' => some '\t'
  | 'n' => some '\n'
  | 'v' => some '\x0b'
  | 'f' => some '\x0c'
  | 'r' => some '\r'
  | 'e' => some '\x1b'
  | ' ' => some ' '
  | '"' => some '"'
  | '/' => some '/'
  | '\\' => some '\\'
  | 'N' => some '\u0085'
  | '_' => some '\u00a0'
  | 'L' => some '\u2028'
  | 'P' => some '\u2029'
  | _ => none

def codeLength? : Char → Option Nat
  | 'x' => some 2
  | 'u' => some 4
  | 'U' => some 8
  | _ => none

/-- What follows the opening double quote. -/
def doubleQuoted : Nat → List Char → Option (List Char × List Char)
  | 0, _ => none
  | _, [] => none
  | _, '"' :: rest => some ([], rest)
  | fuel + 1, '\\' :: c :: rest =>
    match letterEscape? c, codeLength? c with
    | some d, _ => (doubleQuoted fuel rest).map fun (text, after) => (d :: text, after)
    | none, some n => do
      let digits ← (rest.take n).mapM Text.hexDigit?
      if digits.length = n then
        (doubleQuoted fuel (rest.drop n)).map fun (text, after) =>
          (Char.ofNat (Text.ofDigits 16 digits) :: text, after)
      else none
    | none, none => none
  | fuel + 1, c :: rest => (doubleQuoted fuel rest).map fun (text, after) => (c :: text, after)

/-- The text of a key. -/
def keyText (value : Value) : String :=
  match value with
  | .text s => s
  | .null => "null"
  | .bool b => if b then "true" else "false"
  | value => value.asText

/-- A table with one more entry, which takes the place of one with the same key. -/
def putEntry (entries : List (String × Value)) (key : String) (value : Value) :
    List (String × Value) :=
  match entries with
  | [] => [(key, value)]
  | (other, old) :: rest =>
    if other = key then (key, value) :: rest else (other, old) :: putEntry rest key value

/-- One quoted text or word, and what follows it. -/
def scalar (inFlow : Bool) (text : List Char) : Option (Value × List Char) :=
  match text with
  | '\'' :: rest => (singleQuoted rest).map fun (s, after) => (.text (String.ofList s), after)
  | '"' :: rest => (doubleQuoted (rest.length + 1) rest).map fun (s, after) =>
      (.text (String.ofList s), after)
  | _ =>
    if startsWord inFlow text then
      let (word, after) := wordFrom inFlow text
      some (plainValue (trimEnd word), after)
    else none

mutual

/-- A value inside of brackets or braces. -/
def flowValue : Nat → List Char → Option (Value × List Char)
  | 0, _ => none
  | fuel + 1, text =>
    match text with
    | '[' :: rest => flowItems fuel [] (skipBlanks true rest)
    | '\x7b' :: rest => flowEntries fuel [] (skipBlanks true rest)
    | _ => scalar true text

/-- A value, or nothing where another one could start. -/
def flowValueOrNull : Nat → List Char → Option (Value × List Char)
  | 0, _ => none
  | fuel + 1, text =>
    match text with
    | c :: _ => if c = ',' || c = ']' || c = '\x7d' then some (.null, text) else flowValue fuel text
    | [] => none

/-- The items of a list up to its closing bracket. -/
def flowItems : Nat → List Value → List Char → Option (Value × List Char)
  | 0, _, _ => none
  | fuel + 1, found, text =>
    match text with
    | ']' :: rest => some (.list found.reverse, rest)
    | _ => do
      let (first, after) ← flowValue fuel text
      let after := skipBlanks true after
      let (item, after) ← match after with
        | ':' :: rest => do
          let (value, after) ← flowValueOrNull fuel (skipBlanks true rest)
          pure (.table [(keyText first, value)], skipBlanks true after)
        | _ => pure (first, after)
      match after with
      | ',' :: rest => flowItems fuel (item :: found) (skipBlanks true rest)
      | ']' :: rest => some (.list (item :: found).reverse, rest)
      | _ => none

/-- The entries of a table up to its closing brace. -/
def flowEntries : Nat → List (String × Value) → List Char → Option (Value × List Char)
  | 0, _, _ => none
  | fuel + 1, found, text =>
    match text with
    | '\x7d' :: rest => some (.table found, rest)
    | _ => do
      let (key, after) ← flowValue fuel text
      let (value, after) ← match skipBlanks true after with
        | ':' :: rest => flowValueOrNull fuel (skipBlanks true rest)
        | after => pure (.null, after)
      let found := putEntry found (keyText key) value
      match skipBlanks true after with
      | ',' :: rest => flowEntries fuel found (skipBlanks true rest)
      | '\x7d' :: rest => some (.table found, rest)
      | _ => none

end

/-- The value of a whole text, which may start with item marks or with a key. -/
def node : Nat → Bool → List Char → Option Value
  | 0, _, _ => none
  | fuel + 1, keyed, text =>
    let text := skipBlanks true text
    match text with
    | [] => some .null
    | '-' :: rest =>
      if endsKey false rest then
        if keyed then none else (node fuel false rest).map fun item => .list [item]
      else whole fuel keyed text
    | _ => whole fuel keyed text
where
  whole (fuel : Nat) (keyed : Bool) (text : List Char) : Option Value := do
    let inFlow := text.head?.any fun c => c = '[' || c = '\x7b'
    let (value, after) ← if inFlow then flowValue (2 * text.length + 2) text else scalar false text
    match skipBlanks false after with
    | [] => some value
    | ':' :: rest =>
      if endsKey false rest && !keyed then
        (node fuel true rest).map fun entry => .table [(keyText value, entry)]
      else none
    | _ => none

/-- A text that is no value. -/
def unreadable (text : String) : Failure :=
  ⟨.other "ScannerError" false,
    "while scanning for the next token\n  in \"<unicode string>\":\n    " ++ text⟩

def ofText (text : String) : Except Failure Value :=
  match node (text.length + 2) false text.toList with
  | some value => .ok value
  | none => .error (unreadable text)

end MountCensus.Settings
