import Mathlib.Data.List.Forall2
import MountCensus.Proofs.Pattern.Longer
import MountCensus.Proofs.Pattern.Splitting

/-!
Globs given as one value, joined by commas. Where the value is cut is up to a count of braces that
knows nothing of escapes and sets, and which braces a glob means is up to its reading. A pattern
that is cut off at another place is written otherwise, so the value stands for the globs exactly if
the count finds each of their commas in braces and each of them but the last closed. That is so if
no brace in them stands for itself (`compileAll_joined`); an opening brace in a set makes one pattern
of two (`compileAll_joined_ne`).
-/

set_option autoImplicit false

namespace MountCensus.Pattern

open Text

/-! ### What is said of the parts of a glob -/

/-- A glob all of whose braces are closed, of whose texts something holds: the texts of its items
outside of braces, and what lies between its braces. -/
inductive EachPart (outside inside : List Char → Prop) : List Char → Prop where
  | nil : EachPart outside inside []
  | item {part after : List Char} {item : Item} :
      ReadsItem false (part ++ after) item after → outside part → EachPart outside inside after →
      EachPart outside inside (part ++ after)
  | choice {text after : List Char} {alternatives : List (List Item)} :
      ReadsChoice (text ++ '\x7d' :: after) alternatives (some after) → inside text →
      EachPart outside inside after →
      EachPart outside inside ('\x7b' :: text ++ '\x7d' :: after)

section Parts

variable {outside inside : List Char → Prop}

theorem EachPart.of_item {part after : List Char} {item : Item}
    (hitem : ReadsItem false (part ++ after) item after)
    (h : EachPart outside inside (part ++ after)) :
    outside part ∧ EachPart outside inside after := by
  generalize hwhole : part ++ after = whole at h hitem
  cases h with
  | nil => nomatch hitem
  | item hitem' hpart hafter =>
    obtain ⟨-, rfl⟩ := hitem.unique hitem'
    obtain rfl := List.append_cancel_right hwhole
    exact ⟨hpart, hafter⟩
  | choice _ _ _ => exact absurd rfl hitem.head_ne_opening

theorem EachPart.of_choice {text after : List Char} {alternatives : List (List Item)}
    (hchoice : ReadsChoice (text ++ '\x7d' :: after) alternatives (some after))
    (h : EachPart outside inside ('\x7b' :: text ++ '\x7d' :: after)) :
    inside text ∧ EachPart outside inside after := by
  generalize hwhole : '\x7b' :: text ++ '\x7d' :: after = whole at h
  cases h with
  | nil => nomatch hwhole
  | item hitem _ _ => exact absurd (by rw [← hwhole]; rfl) hitem.head_ne_opening
  | choice hchoice' htext hafter =>
    have hbehind := (List.cons.inj hwhole).2
    simp only [List.append_eq] at hbehind
    rw [← hbehind] at hchoice'
    obtain ⟨-, hrest⟩ := hchoice.unique hchoice'
    obtain rfl := Option.some.inj hrest
    obtain rfl := List.append_cancel_right hbehind
    exact ⟨htext, hafter⟩

theorem EachPart.plain {c : Char} {after : List Char} (hc : StandsForItself false c after)
    (hpart : outside [c]) (hafter : EachPart outside inside after) :
    EachPart outside inside (c :: after) :=
  @EachPart.item outside inside [c] after _ (.plain hc) hpart hafter

end Parts

/-- Commas stand between the braces of the glob only. -/
def HasCommasInside (text : List Char) : Prop :=
  EachPart (',' ∉ ·) (fun _ ↦ True) text

/-- The only braces are those around the alternatives of the glob. -/
def HasNoLiteralBrace (text : List Char) : Prop :=
  EachPart HasNoBrace HasNoBrace text

theorem isSheltered_and_closed {text : List Char} (hbraces : HasNoLiteralBrace text)
    (hcommas : HasCommasInside text) : IsSheltered 0 text ∧ depthThrough 0 text = 0 := by
  unfold HasNoLiteralBrace at hbraces
  induction hbraces with
  | nil => exact ⟨isSheltered_of_no_comma 0 List.not_mem_nil, rfl⟩
  | item hitem hpart _ ih =>
    obtain ⟨hcomma, hafter⟩ := hcommas.of_item hitem
    rw [isSheltered_append, depthThrough_append, depthThrough_of_hasNoBrace 0 hpart]
    exact ⟨⟨isSheltered_of_no_comma 0 hcomma, (ih hafter).1⟩, (ih hafter).2⟩
  | @choice text after alternatives hchoice htext _ ih =>
    obtain ⟨-, hafter⟩ := hcommas.of_choice hchoice
    have hdepth : depthThrough 1 text = 1 := depthThrough_of_hasNoBrace 1 htext
    have hbehind : IsSheltered 1 ('\x7d' :: after) :=
      isSheltered_cons.mpr ⟨(absurd · (by decide)), (ih hafter).1⟩
    have hinside : IsSheltered 1 (text ++ '\x7d' :: after) :=
      isSheltered_append.mpr ⟨isSheltered_of_hasNoBrace Nat.one_ne_zero htext, by rwa [hdepth]⟩
    refine ⟨isSheltered_cons.mpr ⟨(absurd · (by decide)), hinside⟩, ?_⟩
    calc depthThrough 0 ('\x7b' :: text ++ '\x7d' :: after)
      _ = depthThrough (depthThrough 1 text) ('\x7d' :: after) := depthThrough_append 1 text _
      _ = depthThrough 0 after := by rw [hdepth]; rfl
      _ = 0 := (ih hafter).2

/-! ### Globs in one value -/

/-- A glob that can be one of several in a value: a usable one without blanks around it, whose
commas are all between braces. -/
structure IsListable (glob : String) : Prop where
  nonempty : glob.toList ≠ []
  trimmed : strip glob.toList = glob.toList
  unmarked : ¬ regexMark <+: glob.toList
  usable : ∃ matcher, compile glob = .ok matcher
  commas : HasCommasInside (globText glob.toList)

/-- Each matcher is written as its glob on its own is. -/
def AreMatchersOf (globs : List String) (matchers : List Matcher) : Prop :=
  List.Forall₂ (fun glob matcher ↦ ∃ own, compile glob = .ok own ∧ matcher.source = own.source)
    globs matchers

/-- A count of braces finds each comma of the globs in braces, and all braces closed wherever
another glob follows. -/
structure CountsRight (globs : List String) : Prop where
  sheltered : ∀ glob ∈ globs, IsSheltered 0 glob.toList
  closed : ∀ glob ∈ globs.dropLast, depthThrough 0 glob.toList = 0

theorem countsRight_singleton {glob : String} :
    CountsRight [glob] ↔ IsSheltered 0 glob.toList :=
  ⟨fun h ↦ h.sheltered glob List.mem_cons_self, fun h ↦ ⟨by simpa using h, by simp⟩⟩

theorem countsRight_cons {glob next : String} {more : List String} :
    CountsRight (glob :: next :: more) ↔
      IsSheltered 0 glob.toList ∧ depthThrough 0 glob.toList = 0 ∧ CountsRight (next :: more) := by
  constructor
  · rintro ⟨hsheltered, hclosed⟩
    rw [List.dropLast_cons_cons] at hclosed
    exact ⟨hsheltered glob List.mem_cons_self, hclosed glob List.mem_cons_self,
      fun other h ↦ hsheltered other (List.mem_cons_of_mem _ h),
      fun other h ↦ hclosed other (List.mem_cons_of_mem _ h)⟩
  · rintro ⟨hsheltered, hclosed, hmore⟩
    exact ⟨List.forall_mem_cons.mpr ⟨hsheltered, hmore.sheltered⟩,
      by rw [List.dropLast_cons_cons]; exact List.forall_mem_cons.mpr ⟨hclosed, hmore.closed⟩⟩

theorem toList_joined (glob next : String) (more : List String) :
    (",".intercalate (glob :: next :: more)).toList =
      glob.toList ++ ',' :: (",".intercalate (next :: more)).toList := by
  rw [String.intercalate_cons_cons, String.toList_append, String.toList_append, List.append_assoc]
  rfl

/-- If the count is right, a value is cut into the globs it was joined from. -/
theorem segments_joined (glob : String) (more : List String) (h : CountsRight (glob :: more)) :
    segments 0 (",".intercalate (glob :: more)).toList = (glob :: more).map String.toList := by
  induction more generalizing glob with
  | nil =>
    rw [String.intercalate_singleton]
    exact segments_of_isSheltered (countsRight_singleton.mp h)
  | cons next more ih =>
    obtain ⟨hsheltered, hclosed, hmore⟩ := countsRight_cons.mp h
    rw [toList_joined, segments_append_comma hclosed, segments_of_isSheltered hsheltered,
      ih next hmore]
    rfl

/-- If the count is right, patterns without blanks around them are split up again. -/
theorem splitPatterns_intercalate {patterns : List String}
    (htrimmed : ∀ pattern ∈ patterns, strip pattern.toList = pattern.toList)
    (hfull : ∀ pattern ∈ patterns, pattern.toList ≠ []) (h : CountsRight patterns) :
    splitPatterns (",".intercalate patterns) = patterns := by
  cases patterns with
  | nil => rfl
  | cons pattern more =>
    have hstrip : ∀ other ∈ pattern :: more, String.ofList (strip other.toList) = other :=
      fun other hother ↦ by rw [htrimmed other hother, String.ofList_toList]
    have hstripped : ∀ other ∈ pattern :: more, strip other.toList ≠ [] := fun other hother ↦ by
      rw [htrimmed other hother]
      exact hfull other hother
    rw [splitPatterns, split, segments_joined pattern more h, List.filter_eq_self.mpr,
      List.map_map, List.map_map]
    · exact (List.map_congr_left hstrip).trans (List.map_id _)
    · simpa using hstripped

theorem split_joined {globs : List String} (hglobs : ∀ glob ∈ globs, IsListable glob)
    (h : CountsRight globs) : splitPatterns (",".intercalate globs) = globs :=
  splitPatterns_intercalate (fun glob hglob ↦ (hglobs glob hglob).trimmed)
    (fun glob hglob ↦ (hglobs glob hglob).nonempty) h

theorem IsListable.exists_cons {glob : String} (h : IsListable glob) :
    ∃ c text, glob.toList = c :: text ∧ isBlank c = false ∧ c ≠ ',' := by
  obtain ⟨c, text, htext⟩ := List.exists_cons_of_ne_nil h.nonempty
  refine ⟨c, text, htext, isBlank_head_of_strip_eq (htext ▸ h.trimmed), ?_⟩
  rintro rfl
  have hcommas := h.commas
  rw [htext] at hcommas
  have hread : ReadsItem false ([','] ++ text) (.literal ',') text :=
    .plain ⟨by decide, by decide, by decide, (absurd · (by decide)), (nomatch ·), by decide⟩
  exact absurd (hcommas.of_item hread).1 (by simp)

section FirstCut

variable {glob : String} {first rest more : List Char}

/-- What is cut off first begins as the first glob does. -/
theorem IsListable.exists_first (h : IsListable glob) (hvalue : first ++ rest = glob.toList ++ more)
    (hrest : ∀ c ∈ rest.head?, c = ',') :
    ∃ c text, first = c :: text ∧ isBlank c = false := by
  obtain ⟨c, text, htext, hblank, hcomma⟩ := h.exists_cons
  rw [htext] at hvalue
  cases first with
  | nil =>
    rw [List.nil_append, List.cons_append] at hvalue
    exact absurd (hrest c (by rw [hvalue]; rfl)) hcomma
  | cons d first =>
    obtain ⟨rfl, -⟩ := List.cons.inj hvalue
    exact ⟨d, first, rfl, hblank⟩

/-- If what is cut off first is written as the first glob is, it is the first glob. -/
theorem IsListable.eq_first (h : IsListable glob) (hvalue : first ++ rest = glob.toList ++ more)
    (hrest : ∀ c ∈ rest.head?, c = ',') (hmore : ∀ c ∈ more.head?, c = ',')
    (heq : regexOf (String.ofList (strip first)) = regexOf glob) : first = glob.toList := by
  obtain ⟨c, text, hfirst, hblank⟩ := h.exists_first hvalue hrest
  obtain ⟨behind, hbehind, hstrip⟩ := exists_strip_append hblank text
  rw [← hfirst] at hstrip
  have hends : glob.toList ++ more = strip first ++ (behind ++ rest) := by
    rw [← List.append_assoc, ← hstrip, hvalue]
  have hend : IsEnd (behind ++ rest) := by
    cases behind with
    | nil => exact fun d hd ↦ .inl (hrest d hd)
    | cons d behind =>
      rintro d ⟨⟩
      exact .inr (hbehind d List.mem_cons_self)
  have hglob : glob.toList = strip first :=
    eq_of_regexOf_eq h.unmarked hends (fun d hd ↦ .inl (hmore d hd)) hend
      (by rw [String.ofList_toList, heq])
  cases behind with
  | nil => rw [hstrip, List.append_nil, hglob]
  | cons d behind =>
    rw [← hglob] at hends
    have hd := hmore d (by rw [List.append_cancel_left hends]; rfl)
    exact absurd (hbehind d List.mem_cons_self) (by rw [hd]; decide)

/-- If the first pattern of a value is written as the first glob is, the value is cut behind that
glob. -/
theorem IsListable.cut_behind (h : IsListable glob) (hmore : ∀ c ∈ more.head?, c = ',')
    {pattern : String} {patterns : List String}
    (hsplit : splitPatterns (String.ofList (glob.toList ++ more)) = pattern :: patterns)
    (heq : regexOf pattern = regexOf glob) :
    IsSheltered 0 glob.toList ∧ ∀ next, more = ',' :: next →
      depthThrough 0 glob.toList = 0 ∧ patterns = splitPatterns (String.ofList next) := by
  obtain ⟨first, others, hsegments, hsheltered, hcut⟩ := segments_cases 0 (glob.toList ++ more)
  obtain ⟨rest, hvalue, hrest⟩ : ∃ rest, first ++ rest = glob.toList ++ more ∧
      ∀ c ∈ rest.head?, c = ',' := by
    rcases hcut with ⟨rfl, -⟩ | ⟨rest, hrest, -⟩
    · exact ⟨[], List.append_nil _, by simp⟩
    · exact ⟨',' :: rest, hrest.symm, by simp⟩
  obtain ⟨c, text, hfirst, hblank⟩ := h.exists_first hvalue hrest
  have hne : strip first ≠ [] := by
    rw [hfirst]
    exact strip_cons_ne_nil hblank text
  rw [splitPatterns, String.toList_ofList, split_cons hsegments hne, List.map_cons] at hsplit
  obtain ⟨rfl, hpatterns⟩ := List.cons.inj hsplit
  obtain rfl := h.eq_first hvalue hrest hmore heq
  refine ⟨hsheltered, fun next hnext ↦ ?_⟩
  rcases hcut with ⟨hwhole, -⟩ | ⟨behind, hbehind, hdepth, rfl⟩
  · simp [hnext] at hwhole
  · rw [hnext] at hbehind
    obtain rfl := (List.cons.inj (List.append_cancel_left hbehind)).2
    rw [splitPatterns, String.toList_ofList]
    exact ⟨hdepth, hpatterns.symm⟩

end FirstCut

/-- If the patterns of a value are written as the globs it was joined from, the count is right. -/
theorem countsRight_of_regexOf_eq {globs : List String} (hglobs : ∀ glob ∈ globs, IsListable glob)
    (h : (splitPatterns (",".intercalate globs)).map regexOf = globs.map regexOf) :
    CountsRight globs := by
  induction globs with
  | nil => exact ⟨by simp, by simp⟩
  | cons glob more ih =>
    obtain ⟨hglob, hmore⟩ := List.forall_mem_cons.mp hglobs
    obtain ⟨pattern, patterns, hsplit, heq, hpatterns⟩ := List.map_eq_cons_iff.mp h
    cases more with
    | nil =>
      have hvalue : ",".intercalate [glob] = String.ofList (glob.toList ++ []) := by
        rw [String.intercalate_singleton, List.append_nil, String.ofList_toList]
      rw [hvalue] at hsplit
      exact countsRight_singleton.mpr (hglob.cut_behind (by simp) hsplit heq).1
    | cons next more =>
      have hvalue := congrArg String.ofList (toList_joined glob next more)
      rw [String.ofList_toList] at hvalue
      rw [hvalue] at hsplit
      obtain ⟨hsheltered, hcut⟩ := hglob.cut_behind (by simp) hsplit heq
      obtain ⟨hclosed, rfl⟩ := hcut _ rfl
      rw [String.ofList_toList] at hpatterns
      exact countsRight_cons.mpr ⟨hsheltered, hclosed, ih hmore hpatterns⟩

theorem globText_eq_or (text : List Char) :
    text = globText text ∨ text = globMark ++ globText text := by
  unfold globText
  split_ifs with h
  · exact .inr (List.prefix_iff_eq_append.mp (List.isPrefixOf_iff_prefix.mp h)).symm
  · exact .inl rfl

theorem countsRight_of_hasNoLiteralBrace {globs : List String}
    (hglobs : ∀ glob ∈ globs, IsListable glob)
    (h : ∀ glob ∈ globs, HasNoLiteralBrace (globText glob.toList)) : CountsRight globs := by
  have hglob : ∀ glob ∈ globs, IsSheltered 0 glob.toList ∧ depthThrough 0 glob.toList = 0 := by
    intro glob hmem
    have hbehind := isSheltered_and_closed (h glob hmem) (hglobs glob hmem).commas
    have hmark : depthThrough 0 globMark = 0 := by decide
    rcases globText_eq_or glob.toList with htext | htext
    · rwa [htext]
    · rw [htext, isSheltered_append, depthThrough_append, hmark]
      exact ⟨⟨isSheltered_of_no_comma 0 (by decide), hbehind.1⟩, hbehind.2⟩
  exact ⟨fun glob hmem ↦ (hglob glob hmem).1,
    fun glob hmem ↦ (hglob glob (List.dropLast_subset _ hmem)).2⟩

/-! ### Matchers of several patterns -/

theorem source_of_compile {pattern : String} {matcher : Matcher}
    (h : compile pattern = .ok matcher) : matcher.source = regexOf pattern := by
  simp only [compile] at h
  split at h
  · rw [← Except.ok.inj h]
  · nomatch h

theorem mapM_compile_eq_ok_iff {patterns : List String} {matchers : List Matcher} :
    patterns.mapM compile = .ok matchers ↔
      List.Forall₂ (fun pattern matcher ↦ compile pattern = .ok matcher) patterns matchers := by
  induction patterns generalizing matchers with
  | nil =>
    rw [List.forall₂_nil_left_iff, List.mapM_nil]
    exact ⟨fun h ↦ (Except.ok.inj h).symm, fun h ↦ congrArg Except.ok h.symm⟩
  | cons pattern patterns ih =>
    simp only [List.mapM_cons, List.forall₂_cons_left_iff, ← ih]
    cases compile pattern with
    | error fault => simp [bind, Except.bind]
    | ok matcher =>
      cases patterns.mapM compile with
      | error fault => simp [bind, Except.bind]
      | ok more => simp [bind, Except.bind, pure, Except.pure, eq_comm]

theorem exists_mapM_compile {patterns : List String}
    (h : ∀ pattern ∈ patterns, ∃ matcher, compile pattern = .ok matcher) :
    ∃ matchers, List.Forall₂ (fun pattern matcher ↦ compile pattern = .ok matcher)
      patterns matchers := by
  induction patterns with
  | nil => exact ⟨[], .nil⟩
  | cons pattern patterns ih =>
    obtain ⟨⟨matcher, hmatcher⟩, hmore⟩ := List.forall_mem_cons.mp h
    obtain ⟨matchers, hmatchers⟩ := ih hmore
    exact ⟨matcher :: matchers, .cons hmatcher hmatchers⟩

theorem AreMatchersOf.of_compile {patterns : List String} {matchers : List Matcher}
    (h : List.Forall₂ (fun pattern matcher ↦ compile pattern = .ok matcher) patterns matchers) :
    AreMatchersOf patterns matchers :=
  h.imp fun _ matcher hmatcher ↦ ⟨matcher, hmatcher, rfl⟩

theorem AreMatchersOf.sources {globs : List String} {matchers : List Matcher}
    (h : AreMatchersOf globs matchers) : globs.map regexOf = matchers.map Matcher.source := by
  rw [← List.forall₂_eq_eq_eq, List.forall₂_map_left_iff, List.forall₂_map_right_iff]
  refine h.imp fun glob matcher hown ↦ ?_
  obtain ⟨own, hcompile, hsource⟩ := hown
  rw [hsource, source_of_compile hcompile]

/-! ### Main result -/

/-- Usable globs without blanks around them and with commas between their braces only, given as one
value, make the matchers of the globs exactly if a count of braces that passes over escapes and sets
finds each comma in braces, and all braces closed wherever another glob follows. It does if no brace
of the globs stands for itself. -/
theorem compileAll_joined {globs : List String} (hglobs : ∀ glob ∈ globs, IsListable glob) :
    ((∃ matchers, compileAll [",".intercalate globs] = .ok matchers ∧
        AreMatchersOf globs matchers) ↔ CountsRight globs) ∧
      ((∀ glob ∈ globs, HasNoLiteralBrace (globText glob.toList)) → CountsRight globs) := by
  refine ⟨⟨?_, fun h ↦ ?_⟩, countsRight_of_hasNoLiteralBrace hglobs⟩
  · rintro ⟨matchers, hok, hmatchers⟩
    rw [compileAll, List.flatMap_singleton, mapM_compile_eq_ok_iff] at hok
    have hsources := (AreMatchersOf.of_compile hok).sources.trans hmatchers.sources.symm
    exact countsRight_of_regexOf_eq hglobs hsources
  · rw [compileAll, List.flatMap_singleton, split_joined hglobs h]
    obtain ⟨matchers, hmatchers⟩ := exists_mapM_compile fun glob hmem ↦ (hglobs glob hmem).usable
    exact ⟨matchers, mapM_compile_eq_ok_iff.mpr hmatchers, .of_compile hmatchers⟩

/-! ### Fixed globs -/

instance (inGroup : Bool) (c : Char) (rest : List Char) :
    Decidable (StandsForItself inGroup c rest) :=
  inferInstanceAs (Decidable (c ≠ '*' ∧ c ≠ '?' ∧ c ≠ '[' ∧ (c = '\\' → rest = []) ∧
    (inGroup = true → c ≠ ',' ∧ c ≠ '\x7d') ∧ (inGroup = false → c ≠ '\x7b')))

theorem exists_of_toOption {pattern : String} (h : (compile pattern).toOption.isSome = true) :
    ∃ matcher, compile pattern = .ok matcher := by
  cases hok : compile pattern with
  | ok matcher => exact ⟨matcher, rfl⟩
  | error fault => simp [hok, Except.toOption] at h

theorem isListable_of_set : IsListable "/a[\x7b]" where
  nonempty := by decide
  trimmed := by decide
  unmarked := by decide
  usable := exists_of_toOption (by decide +kernel)
  commas := by
    have hset : ReadsItem false ['[', '\x7b', ']'] (.set false ⟨'\x7b', [], by decide⟩) [] :=
      .set ⟨by decide, rfl⟩
    exact .plain (by decide) (by decide) (.plain (by decide) (by decide)
      (@EachPart.item _ _ ['[', '\x7b', ']'] [] _ hset (by decide) .nil))

theorem isListable_of_choice : IsListable "\x7ba,[\x7d]\x7d" where
  nonempty := by decide
  trimmed := by decide
  unmarked := by decide
  usable := exists_of_toOption (by decide +kernel)
  commas := by
    have hset : ReadsItem true ['[', '\x7d', ']', '\x7d'] (.set false ⟨'\x7d', [], by decide⟩)
        ['\x7d'] := .set ⟨by decide, rfl⟩
    exact @EachPart.choice _ _ ['a', ',', '[', '\x7d', ']'] [] _
      (.item (.plain (by decide)) (.comma (.item hset (.closed [])))) trivial .nil

theorem isListable_of_plain : IsListable "/b" where
  nonempty := by decide
  trimmed := by decide
  unmarked := by decide
  usable := exists_of_toOption (by decide +kernel)
  commas := .plain (by decide) (by decide) (.plain (by decide) (by decide) .nil)

/-- A closing brace in a set ends the count early, but behind the comma of the choice. -/
theorem compileAll_joined_of_closing_in_set :
    (∀ glob ∈ ["\x7ba,[\x7d]\x7d", "/b"], IsListable glob) ∧
      ∃ matchers, compileAll [",".intercalate ["\x7ba,[\x7d]\x7d", "/b"]] = .ok matchers ∧
        AreMatchersOf ["\x7ba,[\x7d]\x7d", "/b"] matchers := by
  have hglobs : ∀ glob ∈ ["\x7ba,[\x7d]\x7d", "/b"], IsListable glob :=
    List.forall_mem_cons.mpr
      ⟨isListable_of_choice, List.forall_mem_singleton.mpr isListable_of_plain⟩
  refine ⟨hglobs, (compileAll_joined hglobs).1.mpr (countsRight_cons.mpr ⟨?_, by decide, ?_⟩)⟩
  · simp [isSheltered_cons, isSheltered_of_no_comma, depthAfter]
  · exact countsRight_singleton.mpr (isSheltered_of_no_comma 0 (by decide))

/-- An opening brace in a set is never closed for the count, and the next glob is swallowed. -/
theorem compileAll_joined_ne :
    (∀ glob ∈ ["/a[\x7b]", "/b"], IsListable glob) ∧
      (compileAll [",".intercalate ["/a[\x7b]", "/b"]]).toOption.map (·.map Matcher.source) =
        some ["/a(?!/)[\x7b],/b"] ∧
      ¬ ∃ matchers, compileAll [",".intercalate ["/a[\x7b]", "/b"]] = .ok matchers ∧
        AreMatchersOf ["/a[\x7b]", "/b"] matchers := by
  have hsources : (compileAll [",".intercalate ["/a[\x7b]", "/b"]]).toOption.map
      (·.map Matcher.source) = some ["/a(?!/)[\x7b],/b"] := by
    decide +kernel
  refine ⟨List.forall_mem_cons.mpr
    ⟨isListable_of_set, List.forall_mem_singleton.mpr isListable_of_plain⟩, hsources, ?_⟩
  rintro ⟨matchers, hok, hmatchers⟩
  have htwo : matchers.length = 2 := (List.Forall₂.length_eq hmatchers).symm
  rw [hok, Except.toOption, Option.map_some, Option.some.injEq] at hsources
  have hone : (matchers.map Matcher.source).length = 1 := by rw [hsources]; rfl
  rw [List.length_map] at hone
  omega

end MountCensus.Pattern
