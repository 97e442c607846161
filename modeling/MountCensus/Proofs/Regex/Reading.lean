import MountCensus.Regex.Parse

/-!
What the readers of regular expressions do in front of given tokens, for patterns in which no group
has a number and no flag is set. `GoesOn` relates a reader to what is left of it once some tokens
have been moved over; it is transitive, so that a whole reading is put together from its steps.
Positions only matter for the wording of faults, and are left open.

The main statements are the steps of reading the items of a branch (`goesOn_items_dot` and those
that follow it), branches (`goesOn_branches_bar`) and groups (`goesOn_group_plain`). `ReadAs` and
`Faulty` say the same of tokens wherever they stand in a branch, so that they can be put side by
side.
-/

set_option autoImplicit false

namespace MountCensus.Regex

/-- Reading that stands in front of the given tokens. -/
def standing (position : Nat) (tokens : List Token) : Progress :=
  Progress.start ⟨position, tokens, false⟩

/-- A reader in front of some tokens does what another one does in front of the tokens left. -/
def GoesOn {α : Type} (m : Reading α) (before : List Token) (m' : Reading α)
    (after : List Token) : Prop :=
  ∀ position, ∃ position',
    StateT.run m (standing position before) = StateT.run m' (standing position' after)

/-- A reader moves over some tokens and answers. -/
def Takes {α : Type} (m : Reading α) (before after : List Token) (a : α) : Prop :=
  GoesOn m before (pure a) after

/-- A reader finds a defect. -/
def Refuses {α : Type} (m : Reading α) (before : List Token) : Prop :=
  ∀ position, ∃ what place, StateT.run m (standing position before) = .error (.defect what place)

variable {α β : Type} {m m' m'' : Reading α} {f : α → Reading β}
variable {before middle after rest : List Token}

/-! ### Putting steps together -/

theorem GoesOn.refl (m : Reading α) (tokens : List Token) : GoesOn m tokens m tokens :=
  fun position ↦ ⟨position, rfl⟩

theorem GoesOn.trans (h : GoesOn m before m' middle) (h' : GoesOn m' middle m'' after) :
    GoesOn m before m'' after := by
  intro position
  obtain ⟨position', hm⟩ := h position
  obtain ⟨position'', hm'⟩ := h' position'
  exact ⟨position'', hm.trans hm'⟩

theorem GoesOn.takes {a : α} (h : GoesOn m before m' middle) (h' : Takes m' middle after a) :
    Takes m before after a :=
  h.trans h'

theorem GoesOn.refuses (h : GoesOn m before m' after) (h' : Refuses m' after) :
    Refuses m before := by
  intro position
  obtain ⟨position', hm⟩ := h position
  obtain ⟨what, place, hdefect⟩ := h' position'
  exact ⟨what, place, hm.trans hdefect⟩

theorem Takes.pure (a : α) (tokens : List Token) : Takes (pure a) tokens tokens a :=
  GoesOn.refl _ _

theorem Takes.bind {a : α} (h : Takes m before after a) (f : α → Reading β) :
    GoesOn (m >>= f) before (f a) after := by
  intro position
  obtain ⟨position', hm⟩ := h position
  refine ⟨position', ?_⟩
  rw [StateT.run_bind, hm]
  rfl

theorem Refuses.bind (h : Refuses m before) (f : α → Reading β) : Refuses (m >>= f) before := by
  intro position
  obtain ⟨what, place, hm⟩ := h position
  refine ⟨what, place, ?_⟩
  rw [StateT.run_bind, hm]
  rfl

theorem refuses_failAt (position : Nat) (defect : Defect) (tokens : List Token) :
    Refuses (Reading.failAt position defect : Reading α) tokens :=
  fun _ ↦ ⟨_, _, rfl⟩

theorem refuses_fail (defect : Defect) (back : Nat) (tokens : List Token) :
    Refuses (Reading.fail defect back : Reading α) tokens :=
  fun _ ↦ ⟨_, _, rfl⟩

/-! ### Looking at the place of reading, and moving on -/

theorem goesOn_get {f : Progress → Reading β} {m' : Reading β}
    (h : ∀ position, GoesOn (f (standing position before)) before m' after) :
    GoesOn (get >>= f) before m' after :=
  fun position ↦ h position position

theorem goesOn_position {f : Nat → Reading β} {m' : Reading β}
    (h : ∀ position, GoesOn (f position) before m' after) :
    GoesOn (Reading.position >>= f) before m' after :=
  fun position ↦ h position position

theorem refuses_position {f : Nat → Reading β} (h : ∀ position, Refuses (f position) before) :
    Refuses (Reading.position >>= f) before :=
  fun position ↦ h position position

theorem refuses_get {f : Progress → Reading β}
    (h : ∀ position, Refuses (f (standing position before)) before) :
    Refuses (get >>= f) before :=
  fun position ↦ h position position

theorem takes_peek (tokens : List Token) : Takes Reading.peek tokens tokens tokens.head? :=
  fun position ↦ ⟨position, rfl⟩

theorem takes_skip (count : Nat) (tokens : List Token) :
    Takes (Reading.skip count) tokens (tokens.drop count) () := by
  intro position
  refine ⟨(tokens.take count).foldl (· + ·.width) position, ?_⟩
  simp [Reading.skip, standing, Progress.start, Source.skip, Source.settle]
  rfl

theorem takes_next (token : Token) (tokens : List Token) :
    Takes Reading.next (token :: tokens) tokens (some token) :=
  (Takes.bind (takes_peek _) _).trans (Takes.bind (takes_skip 1 _) _)

theorem takes_accept (c : Char) (tokens : List Token) :
    Takes (Reading.accept c) (.plain c :: tokens) tokens true := by
  refine (Takes.bind (takes_peek _) _).trans ?_
  simp only [List.head?_cons, if_true]
  exact Takes.bind (takes_skip 1 _) _

theorem takes_accept_of_ne {c : Char} {tokens : List Token}
    (h : tokens.head? ≠ some (.plain c)) : Takes (Reading.accept c) tokens tokens false := by
  refine (Takes.bind (takes_peek _) _).trans ?_
  rw [if_neg h]
  exact Takes.pure _ _

/-! ### Items -/

section Items

variable {fuel : Nat} {first : Bool} {found : List Regex} {tokens : List Token}

/-- The tokens at which the items of a branch end. -/
def EndsBranch (tokens : List Token) : Prop :=
  ∀ token ∈ tokens.head?, token = .plain '|' ∨ token = .plain ')'

/-- Nothing in front of these tokens asks for an item to be repeated reluctantly or for good. -/
def Unqualified (tokens : List Token) : Prop :=
  tokens.head? ≠ some (.plain '?') ∧ tokens.head? ≠ some (.plain '+')

/-- What is read behind the first token of an item, which stands at `start`. -/
def itemsBehind (fuel : Nat) (first : Bool) (found : List Regex) (start : Nat) :
    Token → Reading Regex
  | .escaped c => do Reading.items fuel false first ((← Reading.escape c) :: found)
  | .plain c => match c with
    | '.' => Reading.items fuel false first (.char .any :: found)
    | '^' => Reading.items fuel false first (.anchor .lineStart :: found)
    | '$' => Reading.items fuel false first (.anchor .lineEnd :: found)
    | '[' => do Reading.items fuel false first ((← Reading.charSet) :: found)
    | '(' => do
      match ← Reading.group fuel false start with
      | .inl () =>
        unless first && found.isEmpty do Reading.failAt start .misplacedFlags
        let verbose := (← get).flags.verbose
        Reading.items fuel verbose first found
      | .inr more => Reading.items fuel false first (more ++ found)
    | '*' | '+' | '?' | '\x7b' => do
      Reading.items fuel false first (← Reading.repeatLast start c found)
    | _ => Reading.items fuel false first (literal c.toNat :: found)

theorem items_succ (fuel : Nat) (first : Bool) (found : List Regex) :
    Reading.items (fuel + 1) false first found = (do
      let some token ← Reading.peek | return sequence found.reverse
      if token = .plain '|' || token = .plain ')' then return sequence found.reverse
      let start ← Reading.position
      Reading.skip 1
      itemsBehind fuel first found start token) := by
  rw [Reading.items]
  rfl

theorem takes_items_end (h : EndsBranch tokens) :
    Takes (Reading.items (fuel + 1) false first found) tokens tokens (sequence found.reverse) := by
  rw [items_succ]
  refine (Takes.bind (takes_peek _) _).trans ?_
  cases tokens with
  | nil => exact Takes.pure _ _
  | cons token rest =>
    have hend : token = .plain '|' ∨ token = .plain ')' := h token rfl
    simp only [List.head?_cons]
    rw [if_pos (by simpa using hend)]
    exact Takes.pure _ _

theorem goesOn_items_of_behind {token : Token} {m : Reading Regex} (hbar : token ≠ .plain '|')
    (hclose : token ≠ .plain ')')
    (h : ∀ start, GoesOn (itemsBehind fuel first found start token) tokens m after) :
    GoesOn (Reading.items (fuel + 1) false first found) (token :: tokens) m after := by
  rw [items_succ]
  refine (Takes.bind (takes_peek _) _).trans ?_
  simp only [List.head?_cons]
  rw [if_neg (by simp [hbar, hclose])]
  refine goesOn_position fun start ↦ ?_
  exact (Takes.bind (takes_skip 1 _) _).trans (h start)

theorem refuses_items_of_behind {token : Token} (hbar : token ≠ .plain '|')
    (hclose : token ≠ .plain ')')
    (h : ∀ start, Refuses (itemsBehind fuel first found start token) tokens) :
    Refuses (Reading.items (fuel + 1) false first found) (token :: tokens) := by
  rw [items_succ]
  refine (Takes.bind (takes_peek _) _).refuses ?_
  simp only [List.head?_cons]
  rw [if_neg (by simp [hbar, hclose])]
  refine refuses_position fun start ↦ ?_
  exact (Takes.bind (takes_skip 1 _) _).refuses (h start)

theorem goesOn_items_escaped {c : Char} {node : Regex}
    (h : Takes (Reading.escape c) tokens after node) :
    GoesOn (Reading.items (fuel + 1) false first found) (.escaped c :: tokens)
      (Reading.items fuel false first (node :: found)) after :=
  goesOn_items_of_behind (by simp) (by simp) fun _ ↦ Takes.bind h _

theorem goesOn_items_dot :
    GoesOn (Reading.items (fuel + 1) false first found) (.plain '.' :: tokens)
      (Reading.items fuel false first (.char .any :: found)) tokens :=
  goesOn_items_of_behind (by simp) (by simp) fun _ ↦ GoesOn.refl _ _

/-- A character that means nothing in particular stands for itself. -/
theorem goesOn_items_literal {c : Char} (h : c ∉ ".^$[(*+?\x7b|)".toList) :
    GoesOn (Reading.items (fuel + 1) false first found) (.plain c :: tokens)
      (Reading.items fuel false first (literal c.toNat :: found)) tokens := by
  have hmarks : c ∉ ['.', '^', '$', '[', '(', '*', '+', '?', '\x7b', '|', ')'] := h
  simp only [List.mem_cons, List.not_mem_nil, or_false, not_or] at hmarks
  obtain ⟨_, _, _, _, _, _, _, _, _, _, _⟩ := hmarks
  refine goesOn_items_of_behind (by simp_all) (by simp_all) fun start ↦ ?_
  have hbehind : itemsBehind fuel first found start (.plain c) =
      Reading.items fuel false first (literal c.toNat :: found) := by
    unfold itemsBehind
    split <;> simp_all
  rw [hbehind]
  exact GoesOn.refl _ _

theorem takes_preference (h : Unqualified tokens) :
    Takes Reading.preference tokens tokens .greedy := by
  refine (Takes.bind (takes_accept_of_ne h.1) _).trans ?_
  simp only [Bool.false_eq_true, if_false]
  exact Takes.bind (takes_accept_of_ne h.2) _

/-- A star repeats the item before it, unless that is an anchor or a repetition. -/
theorem goesOn_items_star {item : Regex} (hanchor : item.isAnchor = false)
    (hrepeated : item.isRepeated = false) (h : Unqualified tokens) :
    GoesOn (Reading.items (fuel + 1) false first (item :: found)) (.plain '*' :: tokens)
      (Reading.items fuel false first (.repeated 0 none .greedy item :: found)) tokens := by
  refine goesOn_items_of_behind (by simp) (by simp) fun start ↦ Takes.bind ?_ _
  refine (Takes.bind (Takes.pure (some (0, none)) _) _).trans ?_
  simp only [hanchor, hrepeated, Bool.false_eq_true, if_false]
  exact Takes.bind (takes_preference h) _

theorem goesOn_items_set {node : Regex} (h : Takes Reading.charSet tokens after node) :
    GoesOn (Reading.items (fuel + 1) false first found) (.plain '[' :: tokens)
      (Reading.items fuel false first (node :: found)) after :=
  goesOn_items_of_behind (by simp) (by simp) fun _ ↦ Takes.bind h _

theorem refuses_items_set (h : Refuses Reading.charSet tokens) :
    Refuses (Reading.items (fuel + 1) false first found) (.plain '[' :: tokens) :=
  refuses_items_of_behind (by simp) (by simp) fun _ ↦ h.bind _

theorem goesOn_items_group {more : List Regex}
    (h : ∀ start, Takes (Reading.group fuel false start) tokens after (.inr more)) :
    GoesOn (Reading.items (fuel + 1) false first found) (.plain '(' :: tokens)
      (Reading.items fuel false first (more ++ found)) after :=
  goesOn_items_of_behind (by simp) (by simp) fun start ↦ Takes.bind (h start) _

theorem refuses_items_group (h : ∀ start, Refuses (Reading.group fuel false start) tokens) :
    Refuses (Reading.items (fuel + 1) false first found) (.plain '(' :: tokens) :=
  refuses_items_of_behind (by simp) (by simp) fun start ↦ (h start).bind _

/-! ### Branches and groups -/

theorem branches_succ (fuel : Nat) (first : Bool) (found : List Regex) :
    Reading.branches (fuel + 1) false first found = (do
      let branch ← Reading.items fuel false (first && found.isEmpty) []
      if ← Reading.accept '|' then
        let flags := (← get).flags
        Reading.branches fuel (if first then flags.verbose else false) first (branch :: found)
      else return alternatives (branch :: found).reverse) := by
  rw [Reading.branches]

theorem takes_branches_end {branch : Regex}
    (h : Takes (Reading.items fuel false (first && found.isEmpty) []) tokens after branch)
    (hend : after.head? ≠ some (.plain '|')) :
    Takes (Reading.branches (fuel + 1) false first found) tokens after
      (alternatives (branch :: found).reverse) := by
  rw [branches_succ]
  refine (Takes.bind h _).trans ?_
  exact Takes.bind (takes_accept_of_ne hend) _

theorem goesOn_branches_bar {branch : Regex}
    (h : Takes (Reading.items fuel false (first && found.isEmpty) []) tokens
      (.plain '|' :: after) branch) :
    GoesOn (Reading.branches (fuel + 1) false first found) tokens
      (Reading.branches fuel false first (branch :: found)) after := by
  rw [branches_succ]
  refine (Takes.bind h _).trans ?_
  refine (Takes.bind (takes_accept '|' after) _).trans ?_
  refine goesOn_get fun position ↦ ?_
  have hverbose : (if first = true then (standing position after).flags.verbose else false) =
      false := by
    cases first <;> rfl
  simp only [hverbose]
  exact GoesOn.refl _ _

theorem refuses_branches
    (h : Refuses (Reading.items fuel false (first && found.isEmpty) []) tokens) :
    Refuses (Reading.branches (fuel + 1) false first found) tokens := by
  rw [branches_succ]
  exact h.bind _

theorem takes_closeParenthesis (start : Nat) (tokens : List Token) :
    Takes (Reading.closeParenthesis start) (.plain ')' :: tokens) tokens () :=
  Takes.bind (takes_accept ')' tokens) _

theorem refuses_closeParenthesis (start : Nat) (h : tokens.head? ≠ some (.plain ')')) :
    Refuses (Reading.closeParenthesis start) tokens :=
  (Takes.bind (takes_accept_of_ne h) _).refuses (refuses_failAt _ _ _)

theorem takes_groupKind_plain (start : Nat) (tokens : List Token) :
    Takes (Reading.groupKind start) (.plain '?' :: .plain ':' :: tokens) tokens .plain :=
  (Takes.bind (takes_accept '?' _) _).trans (Takes.bind (takes_next _ _) _)

theorem takes_groupKind_ahead (start : Nat) (tokens : List Token) :
    Takes (Reading.groupKind start) (.plain '?' :: .plain '!' :: tokens) tokens
      (.look true true) :=
  (Takes.bind (takes_accept '?' _) _).trans (Takes.bind (takes_next _ _) _)

/-- Branches up to the parenthesis that closes their group, of which `node` makes an item. -/
def enclosed (fuel start : Nat) (node : Regex → Regex) : Reading (Unit ⊕ List Regex) := do
  let body ← Reading.branches fuel false false []
  Reading.closeParenthesis start
  return .inr [node body]

theorem goesOn_group_plain (fuel start : Nat) (tokens : List Token) :
    GoesOn (Reading.group (fuel + 1) false start) (.plain '?' :: .plain ':' :: tokens)
      (enclosed fuel start id) tokens := by
  rw [Reading.group]
  exact Takes.bind (takes_groupKind_plain start tokens) _

theorem goesOn_group_ahead (fuel start : Nat) (tokens : List Token) :
    GoesOn (Reading.group (fuel + 1) false start) (.plain '?' :: .plain '!' :: tokens)
      (enclosed fuel start (.look true true)) tokens := by
  rw [Reading.group]
  refine (Takes.bind (takes_groupKind_ahead start tokens) _).trans ?_
  exact goesOn_get fun _ ↦ GoesOn.refl _ _

theorem takes_enclosed {start : Nat} {body : Regex}
    (h : Takes (Reading.branches fuel false false []) tokens (.plain ')' :: after) body)
    (node : Regex → Regex) : Takes (enclosed fuel start node) tokens after (.inr [node body]) :=
  (Takes.bind h _).trans (Takes.bind (takes_closeParenthesis start after) _)

theorem takes_group_plain {start : Nat} {body : Regex}
    (h : Takes (Reading.branches fuel false false []) tokens (.plain ')' :: after) body) :
    Takes (Reading.group (fuel + 1) false start) (.plain '?' :: .plain ':' :: tokens) after
      (.inr [body]) :=
  (goesOn_group_plain fuel start tokens).takes (takes_enclosed h id)

theorem refuses_group_plain {start : Nat}
    (h : Refuses (Reading.branches fuel false false []) tokens) :
    Refuses (Reading.group (fuel + 1) false start) (.plain '?' :: .plain ':' :: tokens) :=
  (goesOn_group_plain fuel start tokens).refuses (h.bind _)

theorem refuses_group_open {start : Nat} {body : Regex}
    (h : Takes (Reading.branches fuel false false []) tokens after body)
    (hend : after.head? ≠ some (.plain ')')) :
    Refuses (Reading.group (fuel + 1) false start) (.plain '?' :: .plain ':' :: tokens) := by
  refine (goesOn_group_plain fuel start tokens).refuses ?_
  refine (Takes.bind h _).refuses ?_
  exact (refuses_closeParenthesis start hend).bind _

theorem takes_group_ahead {start : Nat} {body : Regex}
    (h : Takes (Reading.branches fuel false false []) tokens (.plain ')' :: after) body) :
    Takes (Reading.group (fuel + 1) false start) (.plain '?' :: .plain '!' :: tokens) after
      (.inr [.look true true body]) :=
  (goesOn_group_ahead fuel start tokens).takes (takes_enclosed h (.look true true))

/-! ### Stretches of a branch -/

/-- Some tokens are read as items with the given trees, wherever in a branch they stand. -/
def ReadAs (tokens : List Token) (nodes : List Regex) : Prop :=
  ∀ (fuel : Nat) (first : Bool) (found : List Regex) (rest : List Token), Unqualified rest →
    (tokens ++ rest).length < fuel → ∃ fuel', rest.length < fuel' ∧
      GoesOn (Reading.items fuel false first found) (tokens ++ rest)
        (Reading.items fuel' false first (nodes.reverse ++ found)) rest

/-- Reading finds a fault in some tokens, wherever in a branch they stand. -/
def Faulty (tokens : List Token) : Prop :=
  ∀ (fuel : Nat) (first : Bool) (found : List Regex) (rest : List Token), Unqualified rest →
    (tokens ++ rest).length < fuel →
      Refuses (Reading.items fuel false first found) (tokens ++ rest)

theorem EndsBranch.unqualified (h : EndsBranch tokens) : Unqualified tokens := by
  constructor <;> intro hhead <;> simpa using h _ hhead

theorem readAs_nil : ReadAs [] [] :=
  fun fuel _ _ _ _ hfuel ↦ ⟨fuel, hfuel, GoesOn.refl _ _⟩

section Stretches

variable {stretch more : List Token} {nodes moreNodes : List Regex}

/-- Tokens that are read in a number of steps, of which there are not more than tokens. -/
theorem readAs_of_steps (steps : Nat) (hsteps : steps ≤ stretch.length)
    (h : ∀ (fuel : Nat) (first : Bool) (found : List Regex) (rest : List Token),
      Unqualified rest → (stretch ++ rest).length < fuel + steps →
        GoesOn (Reading.items (fuel + steps) false first found) (stretch ++ rest)
          (Reading.items fuel false first (nodes.reverse ++ found)) rest) :
    ReadAs stretch nodes := by
  intro fuel first found rest hrest hfuel
  have hlength : (stretch ++ rest).length = stretch.length + rest.length := List.length_append
  obtain ⟨fuel, rfl⟩ : ∃ less, fuel = less + steps := ⟨fuel - steps, by omega⟩
  exact ⟨fuel, by omega, h fuel first found rest hrest hfuel⟩

theorem ReadAs.append (h : ReadAs stretch nodes) (h' : ReadAs more moreNodes)
    (hmore : ∀ rest, Unqualified rest → Unqualified (more ++ rest)) :
    ReadAs (stretch ++ more) (nodes ++ moreNodes) := by
  intro fuel first found rest hrest hfuel
  rw [List.append_assoc] at hfuel ⊢
  obtain ⟨fuel', hfuel', hstretch⟩ := h fuel first found _ (hmore rest hrest) hfuel
  obtain ⟨fuel'', hfuel'', hgoes⟩ := h' fuel' first (nodes.reverse ++ found) rest hrest hfuel'
  refine ⟨fuel'', hfuel'', ?_⟩
  rw [List.reverse_append, List.append_assoc]
  exact hstretch.trans hgoes

theorem Faulty.append (h : Faulty stretch)
    (hmore : ∀ rest, Unqualified rest → Unqualified (more ++ rest)) : Faulty (stretch ++ more) := by
  intro fuel first found rest hrest hfuel
  rw [List.append_assoc] at hfuel ⊢
  exact h fuel first found _ (hmore rest hrest) hfuel

theorem ReadAs.faulty_append (h : ReadAs stretch nodes) (h' : Faulty more)
    (hmore : ∀ rest, Unqualified rest → Unqualified (more ++ rest)) : Faulty (stretch ++ more) := by
  intro fuel first found rest hrest hfuel
  rw [List.append_assoc] at hfuel ⊢
  obtain ⟨fuel', hfuel', hstretch⟩ := h fuel first found _ (hmore rest hrest) hfuel
  exact hstretch.refuses (h' fuel' first _ rest hrest hfuel')

theorem ReadAs.takes_items (h : ReadAs stretch nodes) (hrest : EndsBranch rest)
    (hfuel : (stretch ++ rest).length < fuel) :
    Takes (Reading.items fuel false first []) (stretch ++ rest) rest (sequence nodes) := by
  obtain ⟨fuel', hfuel', hgoes⟩ := h fuel first [] rest hrest.unqualified hfuel
  obtain ⟨fuel', rfl⟩ : ∃ less, fuel' = less + 1 := ⟨fuel' - 1, by omega⟩
  rw [List.append_nil] at hgoes
  have hend : Takes (Reading.items (fuel' + 1) false first nodes.reverse) rest rest
      (sequence nodes.reverse.reverse) := takes_items_end hrest
  rw [List.reverse_reverse] at hend
  exact hgoes.takes hend

end Stretches

end Items

/-! ### Whole patterns -/

theorem check_sequence {flags : Flags} {items : List Regex}
    (h : ∀ item ∈ items, check flags item = .ok ()) : check flags (sequence items) = .ok () := by
  induction items with
  | nil => rfl
  | cons item items ih =>
    obtain ⟨hitem, hitems⟩ := List.forall_mem_cons.mp h
    rw [sequence_cons, check, hitem]
    exact ih hitems

theorem check_alternatives {flags : Flags} {branches : List Regex}
    (h : ∀ branch ∈ branches, check flags branch = .ok ()) :
    check flags (alternatives branches) = .ok () := by
  induction branches using alternatives.induct with
  | case1 => rfl
  | case2 branch => exact h branch (by simp)
  | case3 branch more hmore ih =>
    obtain ⟨hbranch, hbranches⟩ := List.forall_mem_cons.mp h
    rw [alternatives, check, hbranch]
    · exact ih hbranches
    · exact hmore

theorem start_of_tokens {pattern : String} {stretch : List Token}
    (h : tokens pattern.toList = (stretch, false)) :
    Source.start pattern = .ok ⟨0, stretch, false⟩ := by
  simp [Source.start, h, Source.settle]

/-- A pattern that is one branch, all of whose items are known. -/
theorem parse_of_readAs {pattern : String} {stretch : List Token} {nodes : List Regex}
    (htokens : tokens pattern.toList = (stretch, false)) (hread : ReadAs stretch nodes)
    (hcheck : check {} (sequence nodes) = .ok ()) :
    parse pattern = .ok (sequence nodes, {}) := by
  have hfuel : (stretch ++ []).length < 3 * stretch.length + 2 := by
    rw [List.append_nil]
    omega
  have hitems : Takes (Reading.items (3 * stretch.length + 2) false true []) (stretch ++ []) []
      (sequence nodes) := hread.takes_items (by simp [EndsBranch]) hfuel
  rw [List.append_nil] at hitems
  obtain ⟨position, hbranches⟩ : ∃ position,
      StateT.run (Reading.branches (3 * stretch.length + 3) false true []) (standing 0 stretch) =
        .ok (sequence nodes, standing position []) :=
    takes_branches_end hitems (by simp) 0
  have hstart : Progress.start ⟨0, stretch, false⟩ = standing 0 stretch := rfl
  simp only [parse, start_of_tokens htokens, bind, Except.bind, hstart, hbranches]
  simp [standing, Progress.start, hcheck, pure, Except.pure]

theorem parse_of_refuses {pattern : String} {stretch : List Token}
    (htokens : tokens pattern.toList = (stretch, false))
    (hrefuses : ∀ fuel, stretch.length < fuel →
      Refuses (Reading.items fuel false true []) stretch) :
    ∃ what place, parse pattern = .error (.defect what place) := by
  obtain ⟨what, place, hdefect⟩ : ∃ what place,
      StateT.run (Reading.branches (3 * stretch.length + 3) false true []) (standing 0 stretch) =
        .error (.defect what place) :=
    refuses_branches (hrefuses _ (by omega)) 0
  have hstart : Progress.start ⟨0, stretch, false⟩ = standing 0 stretch := rfl
  refine ⟨what, place, ?_⟩
  simp only [parse, start_of_tokens htokens, bind, Except.bind, hstart, hdefect]

end MountCensus.Regex
