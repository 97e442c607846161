import MountCensus.Regex.CharSet
import MountCensus.Text.Identifier

/-!
Reading a whole pattern: branches, items, their repetitions, and the many kinds of groups. The kinds
that a group can be of are told apart by the characters after its opening parenthesis.
-/

set_option autoImplicit false

namespace MountCensus.Regex

/-- No number of passes may reach this one. -/
def repetitionLimit : Nat := 4294967295

/-- No group may have this number. -/
def groupLimit : Nat := 1073741823

def isPatternBlank (c : Char) : Bool :=
  c == ' ' || (9 ≤ c.toNat && c.toNat ≤ 13)

def flag? : Char → Option Flags
  | 'i' => some { ignoreCase := true }
  | 'm' => some { multiline := true }
  | 's' => some { dotAll := true }
  | 'x' => some { verbose := true }
  | 'a' => some { ascii := true }
  | 'u' => some { unicode := true }
  | 't' => some { template := true }
  | _ => none

def isFlagLetter (c : Char) : Bool :=
  c == 'L' || (flag? c).isSome

/-- What the characters after an opening parenthesis make of a group. -/
inductive GroupKind where
  | capture (name : Option (List Char))
  | plain
  | atomic
  | scoped (on off : Flags)
  | look (ahead negated : Bool)
  | conditional (group : Nat)
  | comment
  | reference (item : Regex)
  | globalFlags
deriving Repr

namespace Reading

/-- The flags turned on in front of a colon, a hyphen or a parenthesis, and which of the three it
is. -/
def flagsOn : Nat → Flags → Char → Reading (Flags × Char)
  | 0, _, _ => fail .missingFlagEnd
  | fuel + 1, found, letter => do
    let some flag := flag? letter | fail .localeFlag
    let found := found.union flag
    if (flag.ascii || flag.unicode) && found.ascii && found.unicode then fail .conflictingFlags
    let some token ← next | fail .missingFlagEnd
    match token with
    | .plain c =>
      if c = ')' || c = '-' || c = ':' then return (found, c)
      else if isFlagLetter c then flagsOn fuel found c
      else fail (if Text.isLetter c then .unknownFlag else .missingFlagEnd) token.width
    | .escaped _ => fail .missingFlagEnd token.width

/-- The flags turned off in front of a colon. -/
def flagsOff : Nat → Flags → Char → Reading Flags
  | 0, _, _ => fail .missingColon
  | fuel + 1, found, letter => do
    let some flag := flag? letter | fail .alphabetFlagOff
    if flag.ascii || flag.unicode then fail .alphabetFlagOff
    let found := found.union flag
    let some token ← next | fail .missingColon
    if token = .plain ':' then return found
    match token with
    | .plain c =>
      if isFlagLetter c then flagsOff fuel found c
      else fail (if Text.isLetter c then .unknownFlag else .missingColon) token.width
    | .escaped _ => fail .missingColon token.width

/-- Flags from their first character on. -/
def flagGroup (first : Char) : Reading GroupKind := do
  let fuel := (← get).source.tokens.length + 1
  let (on, stop) ← if first = '-' then pure ({}, '-') else flagsOn fuel {} first
  if stop = ')' then
    modify fun progress => { progress with flags := progress.flags.union on }
    return .globalFlags
  if on.template then fail .globalFlagOn 1
  let off ← if stop = ':' then pure {} else do
    let some token ← next | fail .missingFlag
    match token with
    | .plain c =>
      if isFlagLetter c then flagsOff fuel {} c
      else fail (if Text.isLetter c then .unknownFlag else .missingFlag) token.width
    | .escaped _ => fail .missingFlag token.width
  if off.template then fail .globalFlagOff 1
  unless (on.without off) = on do fail .flagOnAndOff 1
  return .scoped on off

def groupName (terminator : Char) : Reading (List Char) := do
  let name ← takeUntil terminator "group name"
  unless Text.isIdentifier name do
    fail (.badGroupName (String.ofList name)) (name.length + 1)
  return name

/-- The group of a name that has just been read. -/
def namedGroup (name : List Char) : Reading Nat := do
  match (← get).names.lookup (String.ofList name) with
  | some group => return group
  | none => fail (.unknownGroupName (String.ofList name)) (name.length + 1)

/-- The group that a condition asks for, by name or by number. -/
def conditionGroup : Reading Nat := do
  let name ← takeUntil ')' "group name"
  let group ← if Text.isIdentifier name then namedGroup name else
    match Text.integer? (String.ofList name) with
    | some (.ofNat group) => do
      if group = 0 then fail .badGroupNumber (name.length + 1)
      if groupLimit ≤ group then fail (.invalidReference group) (name.length + 1)
      let here ← position
      modify fun (progress : Progress) =>
        if (progress.conditions.lookup group).isSome then progress
        else { progress with
          conditions := progress.conditions ++ [(group, here - name.length - 1)] }
      pure group
    | _ => fail (.badGroupName (String.ofList name)) (name.length + 1)
  checkBehind group
  return group

/-- Moves behind the end of a comment whose group starts at the given position. -/
def skipComment (start : Nat) : Reading Unit := do
  let tokens := (← get).source.tokens
  let comment := tokens.takeWhile (· ≠ .plain ')')
  skip (comment.length + 1)
  if comment.length = tokens.length then failAt start .unterminatedComment

/-- The kind of a group whose parenthesis at the given position has been read. -/
def groupKind (start : Nat) : Reading GroupKind := do
  unless ← accept '?' do return .capture none
  let some token ← next | fail .unexpectedEnd
  match token with
  | .plain 'P' =>
    if ← accept '<' then return .capture (some (← groupName '>'))
    else if ← accept '=' then
      let name ← groupName ')'
      let group ← namedGroup name
      return .reference (← reference group (name.length + 1))
    else
      let some other ← next | fail .unexpectedEnd
      fail (.unknownExtension ("P" ++ other.text)) (other.width + 2)
  | .plain ':' => return .plain
  | .plain '#' =>
    skipComment start
    return .comment
  | .plain '=' => return .look true false
  | .plain '!' => return .look true true
  | .plain '<' =>
    let some other ← next | fail .unexpectedEnd
    match other with
    | .plain '=' => return .look false false
    | .plain '!' => return .look false true
    | _ => fail (.unknownExtension ("<" ++ other.text)) (other.width + 2)
  | .plain '(' => return .conditional (← conditionGroup)
  | .plain '>' => return .atomic
  | .plain c =>
    if isFlagLetter c || c = '-' then flagGroup c
    else fail (.unknownExtension token.text) (token.width + 1)
  | .escaped _ => fail (.unknownExtension token.text) (token.width + 1)

def closeParenthesis (start : Nat) : Reading Unit := do
  unless ← accept ')' do failAt start .unterminatedGroup

/-- The numbers of passes asked for in braces, whose opening one has been read; none if the braces
ask for nothing and stand for themselves. -/
def bounds : Reading (Option (Nat × Option Nat)) := do
  let before ← get
  if (← peek) = some (.plain '\x7d') then return none
  let low ← takeWhile Char.isDigit
  let high ← if ← accept ',' then takeWhile Char.isDigit else pure low
  unless ← accept '\x7d' do
    set before
    return none
  let least ← bound low
  let greatest ← bound high
  match greatest with
  | some n => if n < least.getD 0 then failAt before.source.position .reversedBounds
  | none => pure ()
  return some (least.getD 0, greatest)
where
  bound (digits : List Char) : Reading (Option Nat) := do
    if digits.isEmpty then return none
    if Text.digitLimit < digits.length then throw (.tooManyDigits digits.length)
    let n := decimalValue digits
    if repetitionLimit ≤ n then throw .repetitionTooLarge
    return some n

/-- The numbers of passes that a character asks for, unless it stands for itself. -/
def passes : Char → Reading (Option (Nat × Option Nat))
  | '?' => return some (0, some 1)
  | '*' => return some (0, none)
  | '+' => return some (1, none)
  | _ => bounds

def preference : Reading Preference := do
  if ← accept '?' then return .reluctant
  else if ← accept '+' then return .possessive
  else return .greedy

/-- The items read so far, in reverse, with the last one repeated; `start` is where the character
that asks for it stands. -/
def repeatLast (start : Nat) (c : Char) (found : List Regex) : Reading (List Regex) := do
  match ← passes c with
  | none => return literal c.toNat :: found
  | some (least, greatest) =>
    match found with
    | [] => failAt start .nothingToRepeat
    | item :: before =>
      if item.isAnchor then failAt start .nothingToRepeat
      if item.isRepeated then failAt start .multipleRepeat
      return .repeated least greatest (← preference) item :: before

/-- Moves behind the end of the line. -/
def skipLine : Reading Unit := do
  let line := (← get).source.tokens.takeWhile (· ≠ .plain '\n')
  skip (line.length + 1)

mutual

/-- Branches up to a closing parenthesis or the end. `top` tells whether they are those of the whole
pattern, where flags may be set and are in force from the next branch on. -/
def branches : Nat → Bool → Bool → List Regex → Reading Regex
  | 0, _, _, _ => fail .unexpectedEnd
  | fuel + 1, verbose, top, found => do
    let branch ← items fuel verbose (top && found.isEmpty) []
    if ← accept '|' then
      let flags := (← get).flags
      let verbose := if top then flags.verbose else verbose
      branches fuel verbose top (branch :: found)
    else return alternatives (branch :: found).reverse

/-- Items up to the end of their branch. `first` tells whether flags may be set in front of them. -/
def items : Nat → Bool → Bool → List Regex → Reading Regex
  | 0, _, _, _ => fail .unexpectedEnd
  | fuel + 1, verbose, first, found => do
    let some token ← peek | return sequence found.reverse
    if token = .plain '|' || token = .plain ')' then return sequence found.reverse
    let start ← position
    skip 1
    match token with
    | .escaped c => items fuel verbose first ((← escape c) :: found)
    | .plain c =>
      if verbose && isPatternBlank c then items fuel verbose first found
      else if verbose && c = '#' then
        skipLine
        items fuel verbose first found
      else match c with
        | '.' => items fuel verbose first (.char .any :: found)
        | '^' => items fuel verbose first (.anchor .lineStart :: found)
        | '$' => items fuel verbose first (.anchor .lineEnd :: found)
        | '[' => items fuel verbose first ((← charSet) :: found)
        | '(' =>
          match ← group fuel verbose start with
          | .inl () =>
            unless first && found.isEmpty do failAt start .misplacedFlags
            let verbose := (← get).flags.verbose
            items fuel verbose first found
          | .inr more => items fuel verbose first (more ++ found)
        | '*' | '+' | '?' | '\x7b' =>
          items fuel verbose first (← repeatLast start c found)
        | _ => items fuel verbose first (literal c.toNat :: found)

/-- A group whose parenthesis has been read: the items it adds, none for a comment, or the news that
flags were set for the whole pattern. -/
def group : Nat → Bool → Nat → Reading (Unit ⊕ List Regex)
  | 0, _, _ => fail .unexpectedEnd
  | fuel + 1, verbose, start => do
    match ← groupKind start with
    | .comment => return .inr []
    | .globalFlags => return .inl ()
    | .reference item => return .inr [item]
    | .capture name =>
      let number ← openGroup name
      let body ← branches fuel verbose false []
      closeParenthesis start
      closeGroup number body.width
      return .inr [.capture number body]
    | .plain =>
      let body ← branches fuel verbose false []
      closeParenthesis start
      return .inr [body]
    | .atomic =>
      let body ← branches fuel verbose false []
      closeParenthesis start
      return .inr [.atomic body]
    | .scoped on off =>
      let body ← branches fuel ((verbose || on.verbose) && !off.verbose) false []
      closeParenthesis start
      return .inr [.scoped on off body]
    | .look ahead negated =>
      let outer := (← get).behind
      unless ahead do
        modify fun progress =>
          { progress with behind := progress.behind.or (some progress.widths.length) }
      let body ← branches fuel verbose false []
      unless ahead do modify fun progress => { progress with behind := outer }
      closeParenthesis start
      return .inr [.look ahead negated body]
    | .conditional number =>
      let yes ← items fuel verbose false []
      let no ← if ← accept '|' then do
          let no ← items fuel verbose false []
          if (← peek) = some (.plain '|') then fail .tooManyBranches
          pure no
        else pure .empty
      closeParenthesis start
      return .inr [.conditional number yes no]

end

end Reading

/-- The operator in question of a repetition that the template flag shuts out. -/
def Preference.operatorText : Preference → String
  | .greedy => "MAX_REPEAT"
  | .reluctant => "MIN_REPEAT"
  | .possessive => "POSSESSIVE_REPEAT"

/-- What is refused once the whole pattern is known: looking behind over a varying or too great
width, and repetitions in a template. -/
def check (flags : Flags) : Regex → Except Fault Unit
  | .empty | .char _ | .anchor _ | .backreference .. => .ok ()
  | .seq a b | .alt a b | .conditional _ a b => do check flags a; check flags b
  | .repeated _ _ preference body =>
    if flags.template then .error (.defect (.templateOperator preference.operatorText) none)
    else check flags body
  | .capture _ body | .atomic body => check flags body
  | .scoped on off body => check (flags.scoped on off) body
  | .look ahead _ body =>
    if !ahead && repetitionLimit < body.width.least then .error (.defect .distantLookbehind none)
    else if !ahead && body.width.least ≠ body.width.greatest then
      .error (.defect .variableLookbehind none)
    else check flags body

/-- What a whole pattern says: its tree, and the flags set for all of it. -/
def parse (pattern : String) : Except Fault (Regex × Flags) := do
  let source ← Source.start pattern
  let fuel := 3 * source.tokens.length + 3
  let (tree, progress) ← StateT.run (Reading.branches fuel false true []) (Progress.start source)
  if progress.flags.ascii && progress.flags.unicode then .error .conflictingAlphabets
  unless progress.source.tokens.isEmpty do
    .error (.defect .unbalancedGroup (some progress.source.position))
  match progress.conditions.find? (progress.widths.length ≤ ·.1) with
  | some (group, position) => .error (.defect (.invalidReference group) (some position))
  | none => pure ()
  check progress.flags tree
  return (tree, progress.flags)

end MountCensus.Regex
