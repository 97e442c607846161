import Mathlib.Tactic.SplitIfs
import MountCensus.Regex.Match

/-!
What trees match, told apart from how they are tried. A tree recognizes a language if running it
with a goal succeeds exactly when some text of the language lies ahead and the goal is reached
behind it (`Recognizes`); the order of trying only settles which such text it is. Languages are put
together as trees are, and the subjects matched as a whole are those in the language
(`Recognizes.fullMatch_iff`).

Scope. No flag is set, and subjects hold no line feed, so that the dot stands for every character.
Of repetitions only the greedy star over single characters is dealt with (`recognizes_star`).
-/

set_option autoImplicit false

namespace MountCensus.Regex

/-- The place behind a text that lies ahead. -/
def Place.past (place : Place) (text : List Char) : Place :=
  ⟨text.reverse ++ place.before, place.after.drop text.length, place.position + text.length,
    place.marks⟩

theorem Place.past_over (place : Place) (u v : List Char) :
    (place.past u).past v = place.past (u ++ v) := by
  simp [past, Nat.add_assoc]

theorem Place.past_after {place : Place} {u v : List Char} (h : place.after = u ++ v) :
    (place.past u).after = v := by
  simp [past, h]

/-- Texts that fall into one of the first language and one of the second. -/
def Concatenation (L M : List Char → Prop) (text : List Char) : Prop :=
  ∃ u v, text = u ++ v ∧ L u ∧ M v

def Recognizes (tree : Regex) (L : List Char → Prop) : Prop :=
  ∀ (goal : Goal) (place : Place), '\n' ∉ place.after →
    ((run tree {} goal place).isSome = true ↔
      ∃ u v, place.after = u ++ v ∧ L u ∧ (goal (place.past u)).isSome = true)

variable {a b : Regex} {L M : List Char → Prop}

theorem Recognizes.congr (h : Recognizes a L) (hLM : ∀ u, '\n' ∉ u → (L u ↔ M u)) :
    Recognizes a M := by
  intro goal place hplain
  rw [h goal place hplain]
  refine exists_congr fun u ↦ exists_congr fun v ↦ and_congr_right fun hafter ↦
    and_congr_left fun _ ↦ hLM u fun hu ↦ hplain ?_
  rw [hafter]
  exact List.mem_append_left v hu

/-- A whole subject is matched exactly when it is in the language. -/
theorem Recognizes.fullMatch_iff (h : Recognizes a L) {subject : List Char}
    (hplain : '\n' ∉ subject) : fullMatch a {} subject = true ↔ L subject := by
  refine (h _ (Place.start subject) hplain).trans ⟨?_, fun hL ↦ ?_⟩
  · rintro ⟨u, v, hafter, hL, hgoal⟩
    have hend : v = [] := by
      rw [Place.past_after hafter] at hgoal
      cases v with
      | nil => rfl
      | cons c v => simp at hgoal
    have hsubject : subject = u := by simpa [Place.start, hend] using hafter
    rwa [hsubject]
  · exact ⟨subject, [], by simp [Place.start], hL, by simp [Place.past, Place.start]⟩

theorem recognizes_empty : Recognizes .empty (· = []) := by
  intro goal place _
  constructor
  · intro hgoal
    exact ⟨[], place.after, rfl, rfl, hgoal⟩
  · rintro ⟨_, _, _, rfl, hgoal⟩
    exact hgoal

theorem Recognizes.seq (h : Recognizes a L) (h' : Recognizes b M) :
    Recognizes (.seq a b) (Concatenation L M) := by
  intro goal place hplain
  rw [run_seq, h _ place hplain]
  constructor
  · rintro ⟨u, v, hafter, hL, hrun⟩
    have hv : '\n' ∉ (place.past u).after := by
      rw [Place.past_after hafter]
      exact fun hmem ↦ hplain (hafter ▸ List.mem_append_right u hmem)
    obtain ⟨w, x, hw, hM, hgoal⟩ := (h' goal _ hv).mp hrun
    rw [Place.past_after hafter] at hw
    rw [Place.past_over] at hgoal
    exact ⟨u ++ w, x, by rw [hafter, hw, List.append_assoc], ⟨u, w, rfl, hL, hM⟩, hgoal⟩
  · rintro ⟨_, x, hafter, ⟨u, w, rfl, hL, hM⟩, hgoal⟩
    rw [List.append_assoc] at hafter
    refine ⟨u, w ++ x, hafter, hL, ?_⟩
    have hv : '\n' ∉ (place.past u).after := by
      rw [Place.past_after hafter]
      exact fun hmem ↦ hplain (hafter ▸ List.mem_append_right u hmem)
    refine (h' goal _ hv).mpr ⟨w, x, Place.past_after hafter, hM, ?_⟩
    rwa [Place.past_over]

theorem Recognizes.alt (h : Recognizes a L) (h' : Recognizes b M) :
    Recognizes (.alt a b) fun text ↦ L text ∨ M text := by
  intro goal place hplain
  have hsome : (run (.alt a b) {} goal place).isSome = true ↔
      (run a {} goal place).isSome = true ∨ (run b {} goal place).isSome = true := by
    simp [run]
  rw [hsome, h goal place hplain, h' goal place hplain]
  constructor
  · rintro (⟨u, v, hafter, hL, hgoal⟩ | ⟨u, v, hafter, hM, hgoal⟩)
    · exact ⟨u, v, hafter, .inl hL, hgoal⟩
    · exact ⟨u, v, hafter, .inr hM, hgoal⟩
  · rintro ⟨u, v, hafter, hL | hM, hgoal⟩
    · exact .inl ⟨u, v, hafter, hL, hgoal⟩
    · exact .inr ⟨u, v, hafter, hM, hgoal⟩

/-! ### Sequences and alternatives -/

theorem run_sequence_append (before after : List Regex) (flags : Flags) (goal : Goal) :
    run (sequence (before ++ after)) flags goal =
      run (sequence before) flags (run (sequence after) flags goal) := by
  induction before with
  | nil => exact (run_empty flags _).symm
  | cons item before ih => rw [List.cons_append, sequence_cons, sequence_cons, run_seq, run_seq, ih]

theorem recognizes_sequence_append {before after : List Regex}
    (h : Recognizes (sequence before) L) (h' : Recognizes (sequence after) M) :
    Recognizes (sequence (before ++ after)) (Concatenation L M) := by
  intro goal place hplain
  rw [run_sequence_append, ← run_seq]
  exact h.seq h' goal place hplain

theorem Recognizes.sequence_singleton (h : Recognizes a L) : Recognizes (sequence [a]) L := by
  refine (h.seq recognizes_empty).congr fun text _ ↦ ⟨?_, fun hL ↦ ?_⟩
  · rintro ⟨u, _, rfl, hL, rfl⟩
    rwa [List.append_nil]
  · exact ⟨text, [], (List.append_nil text).symm, hL, rfl⟩

/-- Alternatives recognize what one of them does. -/
theorem recognizes_alternatives {α : Type} {tree : α → Regex} {language : α → List Char → Prop}
    (h : ∀ x, Recognizes (tree x) (language x)) (more : List α) :
    ∀ x : α, Recognizes (alternatives ((x :: more).map tree))
      fun text ↦ ∃ y ∈ x :: more, language y text := by
  induction more with
  | nil => exact fun x ↦ (h x).congr fun text _ ↦ by simp
  | cons next more ih =>
    intro x
    refine ((h x).alt (ih next)).congr fun text _ ↦ ?_
    simp

/-! ### Characters -/

theorem run_char (spec : CharSpec) (flags : Flags) (goal : Goal) (place : Place) :
    run (.char spec) flags goal place = spec.run flags goal place := rfl

/-- One character, and the goal at the place behind it. -/
theorem isSome_charSpec_run (spec : CharSpec) (goal : Goal) (place : Place) :
    (spec.run {} goal place).isSome = true ↔
      ∃ c rest, place.after = c :: rest ∧ spec.admits {} c = true ∧
        (goal (place.past [c])).isSome = true := by
  obtain ⟨before, _ | ⟨c, rest⟩, position, marks⟩ := place
  · simp [CharSpec.run]
  · by_cases hadmits : spec.admits {} c = true <;> simp [CharSpec.run, hadmits, Place.past]

theorem recognizes_char (spec : CharSpec) :
    Recognizes (.char spec) fun text ↦ ∃ c, text = [c] ∧ spec.admits {} c = true := by
  intro goal place _
  rw [run_char, isSome_charSpec_run]
  constructor
  · rintro ⟨c, rest, hafter, hadmits, hgoal⟩
    exact ⟨[c], rest, hafter, ⟨c, rfl, hadmits⟩, hgoal⟩
  · rintro ⟨_, rest, hafter, ⟨c, rfl, hadmits⟩, hgoal⟩
    exact ⟨c, rest, hafter, hadmits, hgoal⟩

/-- A run of characters taken as far as possible, and given back one by one. The number of passes
left is never used up, and no pass stands still. -/
theorem isSome_greedily (spec : CharSpec) (goal : Goal) (left : Nat) :
    ∀ (last : Option Nat) (place : Place), place.after.length < left →
      last ≠ some place.position →
      ((greedily (spec.run {}) goal left last place).isSome = true ↔
        ∃ u v, place.after = u ++ v ∧ (∀ c ∈ u, spec.admits {} c = true) ∧
          (goal (place.past u)).isSome = true) := by
  induction left with
  | zero =>
    intro _ place hleft
    exact absurd hleft (Nat.not_lt_zero _)
  | succ left ih =>
    intro last place hleft hlast
    have hstep : (greedily (spec.run {}) goal (left + 1) last place).isSome = true ↔
        (∃ c rest, place.after = c :: rest ∧ spec.admits {} c = true ∧
          (greedily (spec.run {}) goal left (some place.position) (place.past [c])).isSome = true) ∨
        (goal place).isSome = true := by
      rw [greedily, if_neg hlast, ← isSome_charSpec_run]
      simp
    have hnext (c : Char) (rest : List Char) (hafter : place.after = c :: rest) :=
      ih (some place.position) (place.past [c])
        (by rw [hafter] at hleft; simpa [Place.past, hafter] using hleft)
        (by simp [Place.past])
    rw [hstep]
    constructor
    · rintro (⟨c, rest, hafter, hadmits, hmore⟩ | hgoal)
      · obtain ⟨u, v, hrest, hall, hgoal⟩ := (hnext c rest hafter).mp hmore
        rw [Place.past_after (u := [c]) hafter] at hrest
        rw [Place.past_over] at hgoal
        exact ⟨c :: u, v, by rw [hafter, hrest, List.cons_append],
          List.forall_mem_cons.mpr ⟨hadmits, hall⟩, hgoal⟩
      · exact ⟨[], place.after, rfl, by simp, hgoal⟩
    · rintro ⟨_ | ⟨c, u⟩, v, hafter, hall, hgoal⟩
      · exact .inr hgoal
      · obtain ⟨hadmits, hall⟩ := List.forall_mem_cons.mp hall
        refine .inl ⟨c, u ++ v, hafter, hadmits, ?_⟩
        refine (hnext c (u ++ v) hafter).mpr ⟨u, v, Place.past_after (u := [c]) hafter, hall, ?_⟩
        rwa [Place.past_over]

theorem recognizes_star (spec : CharSpec) :
    Recognizes (.repeated 0 none .greedy (.char spec)) fun text ↦
      ∀ c ∈ text, spec.admits {} c = true := by
  intro goal place _
  exact isSome_greedily spec goal _ none place (Nat.lt_succ_self _) (by simp)

theorem admits_literal (code : Nat) (c : Char) :
    CharSpec.admits {} c (.oneOf false [.single code]) = true ↔ c.toNat = code := by
  simp [CharSpec.admits, Member.contains, Flags.codes, eq_comm]

theorem recognizes_literal (code : Nat) :
    Recognizes (literal code) fun text ↦ ∃ c, text = [c] ∧ c.toNat = code :=
  (recognizes_char _).congr fun _ _ ↦
    exists_congr fun c ↦ and_congr_right fun _ ↦ admits_literal code c

theorem run_notAhead (body : Regex) (goal : Goal) (place : Place) :
    run (.look true true body) {} goal place =
      if (run body {} some place).isSome then none else goal place := by
  simp only [run, if_true, Option.bind_some]
  cases run body {} some place <;> rfl

/-- A character that is as specified, unless it is the one shut out in front of it. -/
theorem recognizes_char_unless (code : Nat) (spec : CharSpec) :
    Recognizes (sequence [.look true true (sequence [literal code]), .char spec]) fun text ↦
      ∃ c, text = [c] ∧ c.toNat ≠ code ∧ spec.admits {} c = true := by
  intro goal place hplain
  have hahead : (run (sequence [literal code]) {} some place).isSome = true ↔
      ∃ c rest, place.after = c :: rest ∧ c.toNat = code := by
    rw [(recognizes_literal code).sequence_singleton some place hplain]
    constructor
    · rintro ⟨_, rest, hafter, ⟨c, rfl, hc⟩, -⟩
      exact ⟨c, rest, hafter, hc⟩
    · rintro ⟨c, rest, hafter, hc⟩
      exact ⟨[c], rest, hafter, ⟨c, rfl, hc⟩, rfl⟩
  rw [sequence_cons, run_seq, run_notAhead]
  split_ifs with hfound
  · obtain ⟨c, rest, hafter, hc⟩ := hahead.mp hfound
    refine ⟨fun hgoal ↦ by simp at hgoal, ?_⟩
    rintro ⟨_, v, hafter', ⟨d, rfl, hd, -⟩, -⟩
    rw [hafter, List.singleton_append, List.cons.injEq] at hafter'
    exact absurd (hafter'.1 ▸ hc) hd
  · rw [(recognizes_char spec).sequence_singleton goal place hplain]
    constructor
    · rintro ⟨_, v, hafter, ⟨c, rfl, hadmits⟩, hgoal⟩
      exact ⟨[c], v, hafter, ⟨c, rfl, fun hc ↦ hfound (hahead.mpr ⟨c, v, hafter, hc⟩), hadmits⟩,
        hgoal⟩
    · rintro ⟨_, v, hafter, ⟨c, rfl, -, hadmits⟩, hgoal⟩
      exact ⟨[c], v, hafter, ⟨c, rfl, hadmits⟩, hgoal⟩

end MountCensus.Regex
