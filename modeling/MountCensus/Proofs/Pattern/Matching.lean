import MountCensus.Proofs.Pattern.Translation
import MountCensus.Proofs.Regex.Matching

/-!
Globs and the subjects they accept. The trees of an item, of a part and of a whole glob recognize
what these match (`recognizes_item`, `recognizes_part`, `recognizes_glob`); together with what the
regular expression of a glob is read as, this settles which globs can be used and what they accept
(`compile_glob`).
-/

set_option autoImplicit false

namespace MountCensus.Pattern

open Regex

/-! ### Characters -/

theorem toNat_eq_slash_iff (c : Char) : c.toNat = 47 ↔ c = '/' :=
  ⟨fun h ↦ Char.toNat_inj.mp h, fun h ↦ by rw [h]; rfl⟩

theorem contains_node (m : Member) (c : Char) :
    m.node.contains {} c = true ↔ m.Has c := by
  cases m with
  | single d =>
    have hcode : (Member.single d).node.contains {} c = true ↔ d.toNat = c.toNat := by
      simp [Member.node, Regex.Member.contains, Flags.codes]
    rw [hcode, Char.toNat_inj]
    exact eq_comm
  | range low high =>
    have hcodes : (Member.range low high).node.contains {} c = true ↔
        low.toNat ≤ c.toNat ∧ c.toNat ≤ high.toNat := by
      simp [Member.node, Regex.Member.contains, Flags.codes]
    exact hcodes

theorem admits_set (negated : Bool) (members : List Member) (c : Char) :
    CharSpec.admits {} c (.oneOf negated (members.map Member.node)) = true ↔
      ((∃ m ∈ members, m.Has c) ↔ negated = false) := by
  have hany : (members.map Member.node).any (·.contains {} c) = true ↔ ∃ m ∈ members, m.Has c := by
    simp [contains_node]
  rw [CharSpec.admits, ← hany]
  cases (members.map Member.node).any (·.contains {} c) <;> cases negated <;> simp

theorem admits_noSlash (c : Char) :
    CharSpec.admits {} c (.oneOf true [.single 47]) = true ↔ c ≠ '/' := by
  have hset := admits_set true [.single '/'] c
  simpa [Member.Has, Member.node] using hset

/-! ### Items, choices and globs -/

theorem recognizes_item (item : Item) : Recognizes (Regex.sequence item.nodes) item.Matches := by
  cases item with
  | run crossing =>
    cases crossing with
    | true =>
      refine (recognizes_star .any).sequence_singleton.congr fun u hu ↦ ?_
      refine iff_of_true (fun c hc ↦ ?_) trivial
      simpa [CharSpec.admits] using ne_of_mem_of_not_mem hc hu
    | false =>
      refine (recognizes_star _).sequence_singleton.congr fun u _ ↦ ?_
      simp only [admits_noSlash]
      exact ⟨fun h hmem ↦ h '/' hmem rfl, fun h c hc ↦ ne_of_mem_of_not_mem hc h⟩
  | one =>
    refine (recognizes_char _).sequence_singleton.congr fun u _ ↦ ?_
    simp only [admits_noSlash, Item.Matches]
  | set negated body =>
    refine (recognizes_char_unless 47 _).congr fun u _ ↦ ?_
    simp only [admits_set, Item.Matches, ne_eq, toNat_eq_slash_iff]
  | literal c =>
    refine (recognizes_literal _).sequence_singleton.congr fun u _ ↦ ?_
    simp only [Char.toNat_inj, Item.Matches, exists_eq_right]

/-- What the members of a list recognize one by one, their trees recognize in turn. -/
theorem recognizes_inTurn {α : Type} {nodes : α → List Regex} {matches' : α → List Char → Prop}
    (h : ∀ a, Recognizes (Regex.sequence (nodes a)) (matches' a)) (list : List α) :
    Recognizes (Regex.sequence (list.flatMap nodes)) (MatchesInTurn matches' list) := by
  induction list with
  | nil => exact recognizes_empty
  | cons a list ih =>
    rw [List.flatMap_cons]
    exact recognizes_sequence_append (h a) ih

theorem recognizes_part {part : Part} (hproper : part.IsProper) :
    Recognizes (Regex.sequence part.nodes) part.Matches := by
  cases part with
  | item i => exact recognizes_item i
  | choice alternatives =>
    obtain ⟨alternative, more, rfl⟩ := List.exists_cons_of_ne_nil hproper
    exact (recognizes_alternatives (recognizes_inTurn recognizes_item) more
      alternative).sequence_singleton

theorem recognizes_glob {glob : Glob} (hproper : ∀ part ∈ glob, part.IsProper) :
    Recognizes glob.tree glob.Matches := by
  induction glob with
  | nil => exact recognizes_empty
  | cons part glob ih =>
    obtain ⟨hpart, hmore⟩ := List.forall_mem_cons.mp hproper
    rw [Glob.tree, List.flatMap_cons]
    exact recognizes_sequence_append (recognizes_part hpart) (ih hmore)

/-! ### Compiled globs -/

theorem regexOf_glob (text : String) : regexOf ("glob:" ++ text) = globRegex text := by
  have hregex : regexMark = ['r', 'e', 'g', 'e', 'x', ':'] := rfl
  have hglob : globMark = ['g', 'l', 'o', 'b', ':'] := rfl
  have htext : ("glob:" ++ text).toList = 'g' :: 'l' :: 'o' :: 'b' :: ':' :: text.toList := by
    rw [String.toList_append]
    rfl
  simp [regexOf, hregex, hglob, htext]

theorem compile_of_reads {text : String} {glob : Glob} (h : Reads text.toList glob true)
    (hascends : ¬ glob.Descends) :
    compile ("glob:" ++ text) = .ok ⟨globRegex text, glob.tree, {}⟩ := by
  simp only [compile, regexOf_glob, parse_globRegex h hascends]

/-- What keeps a glob from being used. -/
theorem compile_of_fault {text : String}
    (hfault : LeavesOpen text.toList ∨ HoldsDescent text.toList) :
    ∃ what place, compile ("glob:" ++ text) = .error ⟨globRegex text, .defect what place⟩ := by
  obtain ⟨glob, closed, h⟩ := exists_reads text.toList
  rw [h.leavesOpen_iff, h.holdsDescent_iff] at hfault
  obtain ⟨what, place, hdefect⟩ := parse_globRegex_error h hfault
  exact ⟨what, place, by simp only [compile, regexOf_glob, hdefect]⟩

theorem compile_of_no_fault {text : String}
    (hsound : ¬ (LeavesOpen text.toList ∨ HoldsDescent text.toList)) :
    ∃ glob, Reads text.toList glob true ∧
      compile ("glob:" ++ text) = .ok ⟨globRegex text, glob.tree, {}⟩ := by
  obtain ⟨glob, closed, h⟩ := exists_reads text.toList
  rw [h.leavesOpen_iff, h.holdsDescent_iff, not_or, Bool.not_eq_false] at hsound
  obtain ⟨rfl, hascends⟩ := hsound
  exact ⟨glob, h, compile_of_reads h hascends⟩

theorem no_fault_of_compile {text : String} {matcher : Matcher}
    (hok : compile ("glob:" ++ text) = .ok matcher) :
    ¬ (LeavesOpen text.toList ∨ HoldsDescent text.toList) := by
  intro hfault
  obtain ⟨what, place, herror⟩ := compile_of_fault hfault
  simp [hok] at herror

/-- A glob that can be used accepts the subjects in its language. -/
theorem accepts_iff_inLanguage {text subject : String} {matcher : Matcher}
    (hok : compile ("glob:" ++ text) = .ok matcher) (hplain : '\n' ∉ subject.toList) :
    matcher.accepts subject = true ↔ InLanguage text.toList subject.toList := by
  obtain ⟨glob, h, hcompile⟩ := compile_of_no_fault (no_fault_of_compile hok)
  rw [hcompile] at hok
  rw [← Except.ok.inj hok, h.inLanguage_iff]
  exact (recognizes_glob h.isProper).fullMatch_iff hplain

/-- A glob can be used unless it leaves a brace open or holds a range whose end is below its start;
it accepts the subjects in its language. -/
theorem compile_glob (text : String) :
    ((∃ matcher, compile ("glob:" ++ text) = .ok matcher) ↔
      ¬ (LeavesOpen text.toList ∨ HoldsDescent text.toList)) ∧
    ((∃ what place, compile ("glob:" ++ text) = .error ⟨globRegex text, .defect what place⟩) ↔
      LeavesOpen text.toList ∨ HoldsDescent text.toList) ∧
    ∀ matcher, compile ("glob:" ++ text) = .ok matcher →
      ∀ subject : String, '\n' ∉ subject.toList →
        (matcher.accepts subject = true ↔ InLanguage text.toList subject.toList) := by
  refine ⟨⟨?_, fun hsound ↦ ?_⟩, ⟨?_, compile_of_fault⟩, ?_⟩
  · rintro ⟨matcher, hok⟩
    exact no_fault_of_compile hok
  · obtain ⟨glob, -, hok⟩ := compile_of_no_fault hsound
    exact ⟨_, hok⟩
  · rintro ⟨what, place, herror⟩
    by_contra hsound
    obtain ⟨glob, -, hok⟩ := compile_of_no_fault hsound
    simp [hok] at herror
  · intro matcher hok subject hplain
    exact accepts_iff_inLanguage hok hplain

theorem compile_glob_alternatives :
    ¬ (LeavesOpen "/\x7bmnt,srv\x7d/[!a-c]*".toList ∨
      HoldsDescent "/\x7bmnt,srv\x7d/[!a-c]*".toList) ∧
    InLanguage "/\x7bmnt,srv\x7d/[!a-c]*".toList "/srv/data".toList ∧
    ¬ InLanguage "/\x7bmnt,srv\x7d/[!a-c]*".toList "/mnt/backup".toList := by
  have hmatcher : (compile ("glob:" ++ "/\x7bmnt,srv\x7d/[!a-c]*")).toOption.any
      (fun matcher ↦ matcher.accepts "/srv/data" && !matcher.accepts "/mnt/backup") = true := by
    decide +kernel
  cases hok : compile ("glob:" ++ "/\x7bmnt,srv\x7d/[!a-c]*") with
  | error fault =>
    rw [hok] at hmatcher
    exact absurd hmatcher (by simp [Except.toOption])
  | ok matcher =>
    rw [hok, Except.toOption, Option.any_some, Bool.and_eq_true, Bool.not_eq_true'] at hmatcher
    obtain ⟨hsound, -, haccepts⟩ := compile_glob "/\x7bmnt,srv\x7d/[!a-c]*"
    refine ⟨hsound.mp ⟨matcher, hok⟩, ?_, fun hlanguage ↦ ?_⟩
    · exact (haccepts matcher hok "/srv/data" (by decide)).mp hmatcher.1
    · have haccepted := (haccepts matcher hok "/mnt/backup" (by decide)).mpr hlanguage
      rw [haccepted] at hmatcher
      exact absurd hmatcher.2 (by simp)

end MountCensus.Pattern
