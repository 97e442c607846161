import MountCensus.Proofs.Act
import MountCensus.Proofs.Text.Initials
import MountCensus.Sink.Shipped

/-!
What becomes of a sink that is asked for by a name nobody registered, or with options its kind does
not take. A refusal is told as a misuse of the program only if its wording is understood, and that
depends on the signature: a kind without one is never understood, nor is one that misses an option
which may be given by place, that is given by name what it takes by place only, or that is given the
option `self` (`outcome_open_of_unfit`).
-/

set_option autoImplicit false

namespace MountCensus.Sink

open Text

variable {Surroundings : Type}

/-- Names as they can be given to classes and parameters, as far as it matters here. -/
structure Kind.HasSolidNames (kind : Kind Surroundings) : Prop where
  className : ' ' ∉ kind.className.toList
  parameters : ∀ p ∈ kind.parameters, ' ' ∉ p.name.toList

/-- Whether an option may have this name: a parameter has it, or there is one for all other options.
The name of the sink itself is free only if the sink is taken by place only, as it is in front of a
parameter that is. -/
def TakesOption (parameters : List Parameter) (name : String) : Prop :=
  (∃ p ∈ parameters, p.hasOption = true ∧ p.name = name) ∨
    (∃ p ∈ parameters, p.kind = .other) ∧
      (name = selfName → ∃ p ∈ parameters, p.kind = .unnamed)

/-- Whether a kind takes options of the given names: each of them may be given, and those are there
that it must be given. What is taken by place only cannot be given. -/
def Kind.Takes (kind : Kind Surroundings) (given : List String) : Prop :=
  match kind.signature with
  | none => given = []
  | some parameters =>
    (∀ name ∈ given, TakesOption parameters name) ∧
      ∀ p ∈ parameters, p.isRequired = true → p.hasOption = true ∧ p.name ∈ given

/-- The parameters that must get a value and do not. -/
def missing (parameters : List Parameter) (given : List String) : List Parameter :=
  parameters.filter fun p ↦ p.isRequired && !(p.hasOption && given.contains p.name)

/-- Whether a refusal of options will be understood. There is a signature, and if an option cannot
be given, the first such is not the sink itself and nothing is given that is taken by place only; if
all can be given, what is missing is taken by name only. -/
def Kind.Understands (kind : Kind Surroundings) (given : List String) : Prop :=
  match kind.signature with
  | none => False
  | some parameters =>
    match given.find? (isRefused parameters) with
    | some name => (unnamedNames parameters = [] → name ≠ selfName) ∧
        ∀ unnamed ∈ unnamedNames parameters, unnamed ∉ given
    | none => ∀ p ∈ missing parameters given, p.isNamed = true

theorem unnamedNames_eq_nil_iff {parameters : List Parameter} :
    unnamedNames parameters = [] ↔ ∀ p ∈ parameters, p.kind ≠ .unnamed := by
  unfold unnamedNames
  split
  · rename_i h
    simpa [List.filter_eq_nil_iff] using h
  · rename_i h
    simpa [List.filter_eq_nil_iff] using h

theorem isRefused_eq_false_iff {parameters : List Parameter} {name : String} :
    isRefused parameters name = false ↔ TakesOption parameters name := by
  have hunnamed : (name = selfName → unnamedNames parameters ≠ []) ↔
      (name = selfName → ∃ p ∈ parameters, p.kind = .unnamed) := by
    simp [unnamedNames_eq_nil_iff]
  rw [TakesOption, ← hunnamed]
  simp [isRefused, hasOption, Decidable.or_iff_not_imp_left]

theorem find?_isRefused_eq_none_iff {parameters : List Parameter} {given : List String} :
    given.find? (isRefused parameters) = none ↔ ∀ name ∈ given, TakesOption parameters name := by
  simp only [List.find?_eq_none, Bool.not_eq_true, isRefused_eq_false_iff]

theorem missing_eq_nil_iff {parameters : List Parameter} {given : List String} :
    missing parameters given = [] ↔
      ∀ p ∈ parameters, p.isRequired = true → p.hasOption = true ∧ p.name ∈ given := by
  simp only [missing, List.filter_eq_nil_iff, Bool.and_eq_true, not_and, Bool.not_eq_true',
    Bool.not_eq_false, List.contains_eq_mem, decide_eq_true_eq]

/-! ### The wording of a refusal -/

section Wording

variable {parameters : List Parameter} {given : List String} {name : String}

theorem refusal?_of_refused (h : given.find? (isRefused parameters) = some name)
    (className : String) :
    refusal? className parameters given =
      some (className ++ ".__init__() got " ++ refusedText parameters given name) := by
  simp only [refusal?, h]

theorem refusedText_self (hunnamed : unnamedNames parameters = []) :
    refusedText parameters given selfName = "multiple values for argument '" ++ "self" ++ "'" := by
  simp [refusedText, hunnamed, selfName]

theorem refusedText_unexpected (hself : unnamedNames parameters = [] → name ≠ selfName)
    (hgiven : ∀ unnamed ∈ unnamedNames parameters, unnamed ∉ given) :
    refusedText parameters given name = "an unexpected keyword argument '" ++ name ++ "'" := by
  have hnone : (unnamedNames parameters).filter given.contains = [] := by
    simpa [List.filter_eq_nil_iff] using hgiven
  have hfree : ¬ (name == selfName && (unnamedNames parameters).isEmpty) = true := by
    simpa [imp_not_comm] using hself
  rw [refusedText, if_neg hfree, hnone]

/-- What is told of options that are taken by place only. -/
def unnamedText (names : List String) : String :=
  "some positional-only arguments passed as keyword arguments: '" ++ ", ".intercalate names ++ "'"

theorem refusedText_unnamed (hgiven : ∃ unnamed ∈ unnamedNames parameters, unnamed ∈ given)
    (name : String) :
    ∃ names ≠ [], (∀ unnamed ∈ names, unnamed ∈ unnamedNames parameters) ∧
      refusedText parameters given name = unnamedText names := by
  obtain ⟨unnamed, hunnamed, hmem⟩ := hgiven
  have hfound : unnamed ∈ (unnamedNames parameters).filter given.contains := by
    simpa using ⟨hunnamed, hmem⟩
  have hsome : ¬ (name == selfName && (unnamedNames parameters).isEmpty) = true := by
    simp [List.ne_nil_of_mem hunnamed]
  refine ⟨(unnamedNames parameters).filter given.contains, List.ne_nil_of_mem hfound,
    fun other hother ↦ List.mem_of_mem_filter hother, ?_⟩
  rw [refusedText, if_neg hsome]
  split
  · rename_i heq
    exact absurd heq (List.ne_nil_of_mem hfound)
  · rfl

theorem refusal?_of_fit (hknown : given.find? (isRefused parameters) = none)
    (hmissing : missing parameters given = []) (className : String) :
    refusal? className parameters given = none := by
  unfold missing at hmissing
  simp only [refusal?, hknown, hmissing]
  rfl

/-- If anything that is missing may be given by place, only that is told. -/
theorem refusal?_of_missing (hknown : given.find? (isRefused parameters) = none)
    (hmissing : missing parameters given ≠ []) (className : String) :
    ∃ names : List String, (∀ name ∈ names, ∃ p ∈ parameters, p.name = name) ∧
      refusal? className parameters given = some (missingText className
        (if (missing parameters given).all (·.isNamed) then "keyword-only" else "positional")
        names) := by
  have hrefusal : refusal? className parameters given =
      if !(((missing parameters given).filter fun p ↦ !p.isNamed).map (·.name)).isEmpty then
        some (missingText className "positional"
          (((missing parameters given).filter fun p ↦ !p.isNamed).map (·.name)))
      else if !(((missing parameters given).filter (·.isNamed)).map (·.name)).isEmpty then
        some (missingText className "keyword-only"
          (((missing parameters given).filter (·.isNamed)).map (·.name)))
      else none := by
    simp only [refusal?, hknown, missing]
    rfl
  have hnames (select : Parameter → Bool) :
      ∀ name ∈ ((missing parameters given).filter select).map (·.name),
        ∃ p ∈ parameters, p.name = name := by
    intro name hname
    obtain ⟨p, hp, heq⟩ := List.mem_map.mp hname
    exact ⟨p, List.mem_of_mem_filter (List.mem_of_mem_filter hp), heq⟩
  rw [hrefusal]
  by_cases hall : (missing parameters given).all (·.isNamed) = true
  · have hplaced : (missing parameters given).filter (fun p ↦ !p.isNamed) = [] :=
      List.filter_eq_nil_iff.mpr fun p hp ↦ by simp [List.all_eq_true.mp hall p hp]
    have hnamed : (missing parameters given).filter (·.isNamed) = missing parameters given :=
      List.filter_eq_self.mpr (List.all_eq_true.mp hall)
    refine ⟨_, hnames (·.isNamed), ?_⟩
    simp [hplaced, hnamed, hall, hmissing]
  · have hplaced : (missing parameters given).filter (fun p ↦ !p.isNamed) ≠ [] := by
      simpa [List.filter_eq_nil_iff] using hall
    refine ⟨_, hnames fun p ↦ !p.isNamed, ?_⟩
    simp [hplaced, hall]

end Wording

/-- The letters with which no word of a wording begins that neither names an unknown option nor asks
for one by name. -/
def isTelling (letter : Char) : Prop :=
  letter = 'u' ∨ letter = 'k'

theorem startsNoWord_listed {letter : Char} (hletter : isTelling letter) {names : List String}
    (hsolid : ∀ name ∈ names, ' ' ∉ name.toList) : StartsNoWord letter (listed names).toList := by
  have hquoted : ∀ text ∈ (names.map quoted).reverse, StartsNoWord letter text.toList := by
    intro text htext
    obtain ⟨name, hname, rfl⟩ := List.mem_map.mp (List.mem_reverse.mp htext)
    rcases hletter with rfl | rfl <;>
      exact startsNoWord_quoted (by decide) (by decide) (hsolid name hname)
  have hcomma : StartsNoWord letter ", ".toList := by
    rcases hletter with rfl | rfl <;> decide
  have hand : StartsNoWord letter " and ".toList ∧ StartsNoWord letter ", and ".toList := by
    rcases hletter with rfl | rfl <;> decide
  unfold listed
  split
  · exact startsNoWord_nil letter
  · rename_i text heq
    exact hquoted text (by simp [heq])
  · rename_i last first heq
    rw [heq] at hquoted
    simp only [String.toList_append]
    exact ((hquoted first (by simp)).append hand.1).append (hquoted last (by simp))
  · rename_i last more _ _ heq
    rw [heq] at hquoted
    simp only [String.toList_append, String.toList_intercalate]
    refine (StartsNoWord.append (hcomma.intercalate ?_) hand.2).append (hquoted last (by simp))
    intro text htext
    obtain ⟨name, hname, rfl⟩ := List.mem_map.mp htext
    exact hquoted name (List.mem_cons_of_mem _ (List.mem_reverse.mp hname))

/-! ### Which wordings are understood -/

def isUnderstood (refusal : String) : Bool :=
  mentions refusal "got an unexpected keyword argument" ||
    mentions refusal "missing" && mentions refusal "required keyword-only argument"

theorem kind_refused (name : String) (kind : Kind Surroundings) (given : List String)
    (refusal : String) :
    (refused name kind given refusal).kind = if isUnderstood refusal then .usage else .type := by
  simp only [refused, explain, isUnderstood]
  split_ifs <;> simp_all

theorem mentions_of_eq {text before phrase after : String} (h : text = before ++ phrase ++ after) :
    mentions text phrase = true := by
  rw [mentions, occursIn_iff_isInfix, h, String.toList_append, String.toList_append]
  exact List.infix_append ..

/-- A wording with no word that begins as the telling words do. -/
theorem isUnderstood_eq_false {name text : String} (hname : ' ' ∉ name.toList)
    (htext : ∀ letter, isTelling letter → StartsNoWord letter text.toList) :
    isUnderstood (name ++ text) = false := by
  have hunexpected : [' ', 'u'] <:+: "got an unexpected keyword argument".toList :=
    occursIn_iff_isInfix.mp (by decide)
  have hrequired : [' ', 'k'] <:+: "required keyword-only argument".toList :=
    occursIn_iff_isInfix.mp (by decide)
  rw [isUnderstood, not_mentions hname (htext 'u' (.inl rfl)) hunexpected,
    not_mentions hname (htext 'k' (.inr rfl)) hrequired]
  simp

theorem mentions_unexpected (className name : String) :
    mentions (className ++ ".__init__() got " ++ ("an unexpected keyword argument '" ++ name ++
      "'")) "got an unexpected keyword argument" = true := by
  have hfound : className ++ ".__init__() got " ++ ("an unexpected keyword argument '" ++ name ++
      "'") = className ++ ".__init__() " ++ "got an unexpected keyword argument" ++
        (" '" ++ name ++ "'") := by
    apply String.toList_injective
    simp
  exact mentions_of_eq hfound

theorem isUnderstood_unexpected (className name : String) :
    isUnderstood (className ++ ".__init__() got " ++ ("an unexpected keyword argument '" ++ name ++
      "'")) = true := by
  rw [isUnderstood, mentions_unexpected, Bool.true_or]

theorem isUnderstood_multiple {className : String} (hsolid : ' ' ∉ className.toList) :
    isUnderstood (className ++ ".__init__() got " ++ ("multiple values for argument '" ++ "self" ++
      "'")) = false := by
  simp only [String.append_assoc]
  refine isUnderstood_eq_false hsolid ?_
  rintro letter (rfl | rfl) <;> decide

/-- Every word of what is listed in one pair of quotation marks ends with a comma or with a mark. -/
theorem getLast?_of_mem_words {names : List String} (hnames : names ≠ [])
    (hsolid : ∀ name ∈ names, ' ' ∉ name.toList) {opening : List Char} (hopening : ' ' ∉ opening) :
    ∀ word ∈ words (opening ++ (", ".intercalate names).toList ++ ['\'']),
      word.getLast? = some ',' ∨ word.getLast? = some '\'' := by
  induction names generalizing opening with
  | nil => exact absurd rfl hnames
  | cons name names ih =>
    obtain ⟨hname, hmore⟩ := List.forall_mem_cons.mp hsolid
    cases names with
    | nil =>
      have hlast : ' ' ∉ opening ++ name.toList ++ ['\''] := by simp [hopening, hname]
      rw [String.intercalate_singleton, words_of_solid hlast]
      simp
    | cons second names =>
      have hsplit : opening ++ (", ".intercalate (name :: second :: names)).toList ++ ['\''] =
          (opening ++ name.toList ++ [',']) ++
            ' ' :: ([] ++ (", ".intercalate (second :: names)).toList ++ ['\'']) := by
        simp [String.intercalate_cons_cons]
      have hfirst : ' ' ∉ opening ++ name.toList ++ [','] := by simp [hopening, hname]
      rw [hsplit, words_append_blank, words_of_solid hfirst]
      intro word hword
      rcases List.mem_cons.mp hword with rfl | hword
      · exact .inl (by simp)
      · exact ih (List.cons_ne_nil _ _) hmore List.not_mem_nil word hword

/-- The words of a refusal of options that are taken by place only: some of its own, and others that
end with a mark of punctuation. -/
theorem mem_words_unnamedText {className : String} (hclass : ' ' ∉ className.toList)
    {names : List String} (hnames : names ≠ []) (hsolid : ∀ name ∈ names, ' ' ∉ name.toList)
    {word : List Char} (hword : word ∈
      words (className ++ ".__init__() got " ++ unnamedText names).toList) :
    word ∈ words "got some positional-only arguments passed as keyword arguments:".toList ∨
      word.getLast? = some ')' ∨ word.getLast? = some ',' ∨ word.getLast? = some '\'' := by
  have hsplit : (className ++ ".__init__() got " ++ unnamedText names).toList =
      (className.toList ++ ".__init__()".toList) ++ ' ' ::
        ("got some positional-only arguments passed as keyword arguments:".toList ++ ' ' ::
          (['\''] ++ (", ".intercalate names).toList ++ ['\''])) := by
    have hopening : ".__init__() got ".toList = ".__init__()".toList ++ ' ' :: "got ".toList := by
      decide +kernel
    have htold : "got ".toList ++
        "some positional-only arguments passed as keyword arguments: '".toList =
          "got some positional-only arguments passed as keyword arguments:".toList ++
            [' ', '\''] := by
      decide +kernel
    have hclosing : "'".toList = ['\''] := rfl
    unfold unnamedText
    simp only [String.toList_append, hopening, hclosing, List.append_assoc, List.cons_append,
      List.nil_append]
    rw [← List.append_assoc "got ".toList, htold]
    simp only [List.append_assoc, List.cons_append, List.nil_append]
  have hfirst : ' ' ∉ className.toList ++ ".__init__()".toList := by
    rw [List.mem_append, not_or]
    exact ⟨hclass, by decide⟩
  rw [hsplit, words_append_blank, words_append_blank, words_of_solid hfirst, List.mem_append,
    List.mem_append, List.mem_singleton] at hword
  rcases hword with rfl | hword | hword
  · refine .inr (.inl ?_)
    simp
  · exact .inl hword
  · exact .inr (.inr (getLast?_of_mem_words hnames hsolid (by decide) word hword))

theorem isUnderstood_unnamed {className : String} (hclass : ' ' ∉ className.toList)
    {names : List String} (hnames : names ≠ []) (hsolid : ∀ name ∈ names, ' ' ∉ name.toList) :
    isUnderstood (className ++ ".__init__() got " ++ unnamedText names) = false := by
  have hmentions (word : List Char) (phrase : String) (hblank : ' ' ∉ word)
      (hphrase : ' ' :: word ++ [' '] <:+: phrase.toList)
      (hown : word ∉ words "got some positional-only arguments passed as keyword arguments:".toList)
      (hlast : word.getLast? ≠ some ')' ∧ word.getLast? ≠ some ',' ∧ word.getLast? ≠ some '\'') :
      mentions (className ++ ".__init__() got " ++ unnamedText names) phrase = false := by
    refine not_mentions_of_word hblank hphrase fun hword ↦ ?_
    rcases mem_words_unnamedText hclass hnames hsolid hword with h | h | h | h
    · exact hown h
    · exact hlast.1 h
    · exact hlast.2.1 h
    · exact hlast.2.2 h
  have hunexpected := hmentions "unexpected".toList "got an unexpected keyword argument"
    (by decide) (occursIn_iff_isInfix.mp (by decide)) (by decide +kernel) (by decide)
  have hrequired := hmentions "keyword-only".toList "required keyword-only argument"
    (by decide) (occursIn_iff_isInfix.mp (by decide)) (by decide +kernel) (by decide)
  rw [isUnderstood, hunexpected, hrequired]
  simp

theorem isUnderstood_noArguments {className : String} (hsolid : ' ' ∉ className.toList) :
    isUnderstood (className ++ "() takes no arguments") = false := by
  refine isUnderstood_eq_false hsolid ?_
  rintro letter (rfl | rfl) <;> decide

/-- What is told of options that are missing, behind the name of the class. -/
def missingClause (kind : String) (names : List String) : String :=
  ".__init__() missing " ++ (toString names.length ++ ((" required " ++ kind) ++ (" argument" ++
    ((if names.length = 1 then "" else "s") ++ (": " ++ listed names)))))

theorem missingText_eq (className kind : String) (names : List String) :
    missingText className kind names = className ++ missingClause kind names := by
  unfold missingText missingClause
  simp only [String.append_assoc]

theorem startsNoWord_missingClause {letter : Char} (hletter : isTelling letter) {kind : String}
    (hkind : StartsNoWord letter (" required " ++ kind).toList) {names : List String}
    (hsolid : ∀ name ∈ names, ' ' ∉ name.toList) :
    StartsNoWord letter (missingClause kind names).toList := by
  have hopening : StartsNoWord letter ".__init__() missing ".toList := by
    rcases hletter with rfl | rfl <;> decide
  have hcount : StartsNoWord letter (toString names.length).toList := by
    rcases hletter with rfl | rfl <;> exact startsNoWord_toString (by decide) _
  have hnoun : StartsNoWord letter " argument".toList := by
    rcases hletter with rfl | rfl <;> decide
  have hplural : StartsNoWord letter (if names.length = 1 then "" else "s").toList := by
    split_ifs <;> rcases hletter with rfl | rfl <;> decide
  have hcolon : StartsNoWord letter ": ".toList := by
    rcases hletter with rfl | rfl <;> decide
  unfold missingClause
  simp only [String.toList_append] at hkind ⊢
  exact hopening.append (hcount.append (hkind.append (hnoun.append
    (hplural.append (hcolon.append (startsNoWord_listed hletter hsolid))))))

theorem mentions_missing (className kind : String) (names : List String) :
    mentions (missingText className kind names) "missing" = true := by
  have hfound : missingText className kind names =
      className ++ ".__init__() " ++ "missing" ++ (" " ++ toString names.length ++ " required " ++
        kind ++ " argument" ++ (if names.length = 1 then "" else "s") ++ ": " ++ listed names) := by
    apply String.toList_injective
    simp [missingText]
  exact mentions_of_eq hfound

theorem mentions_required (className : String) (names : List String) :
    mentions (missingText className "keyword-only" names) "required keyword-only argument" =
      true := by
  have hfound : missingText className "keyword-only" names =
      className ++ ".__init__() missing " ++ toString names.length ++ " " ++
        "required keyword-only argument" ++
          ((if names.length = 1 then "" else "s") ++ ": " ++ listed names) := by
    apply String.toList_injective
    simp [missingText]
  exact mentions_of_eq hfound

theorem isUnderstood_named (className : String) (names : List String) :
    isUnderstood (missingText className "keyword-only" names) = true := by
  rw [isUnderstood, mentions_missing, mentions_required, Bool.true_and, Bool.or_true]

theorem isUnderstood_placed {className : String} (hclass : ' ' ∉ className.toList)
    {names : List String} (hsolid : ∀ name ∈ names, ' ' ∉ name.toList) :
    isUnderstood (missingText className "positional" names) = false := by
  rw [missingText_eq]
  refine isUnderstood_eq_false hclass fun letter hletter ↦ ?_
  have hkind : StartsNoWord letter (" required " ++ "positional").toList := by
    rcases hletter with rfl | rfl <;> decide
  exact startsNoWord_missingClause hletter hkind hsolid

theorem blank_notMem_unnamedNames {parameters : List Parameter}
    (hsolid : ∀ p ∈ parameters, ' ' ∉ p.name.toList) :
    ∀ unnamed ∈ unnamedNames parameters, ' ' ∉ unnamed.toList := by
  intro unnamed hmem
  unfold unnamedNames at hmem
  split at hmem
  · cases hmem
  · rcases List.mem_cons.mp hmem with rfl | hmem
    · decide
    · obtain ⟨p, hp, rfl⟩ := List.mem_map.mp hmem
      exact hsolid p (List.mem_of_mem_filter hp)

/-- The wordings that are understood are those for options of which this can be said by their
names. -/
theorem isUnderstood_refusal {kind : Kind Surroundings} (hsolid : kind.HasSolidNames)
    {given : List String} {refusal : String} (h : kind.refusal? given = some refusal) :
    isUnderstood refusal = true ↔ kind.Understands given := by
  unfold Kind.refusal? at h
  unfold Kind.Understands
  split at h
  · rename_i parameters hsignature
    have hparameters : ∀ p ∈ parameters, ' ' ∉ p.name.toList := by
      have hall := hsolid.parameters
      rwa [Kind.parameters, hsignature, Option.getD_some] at hall
    simp only [hsignature]
    cases hfound : given.find? (isRefused parameters) with
    | some name =>
      rw [refusal?_of_refused hfound, Option.some_inj] at h
      rw [← h]
      by_cases hgiven : ∃ unnamed ∈ unnamedNames parameters, unnamed ∈ given
      · obtain ⟨names, hnames, hunnamed, htext⟩ := refusedText_unnamed hgiven name
        have hsolidNames : ∀ unnamed ∈ names, ' ' ∉ unnamed.toList := fun unnamed hmem ↦
          blank_notMem_unnamedNames hparameters unnamed (hunnamed unnamed hmem)
        rw [htext, isUnderstood_unnamed hsolid.className hnames hsolidNames]
        simpa using fun _ ↦ hgiven
      · have hfree : ∀ unnamed ∈ unnamedNames parameters, unnamed ∉ given := by simpa using hgiven
        by_cases hself : unnamedNames parameters = [] → name ≠ selfName
        · rw [refusedText_unexpected hself hfree, isUnderstood_unexpected]
          exact iff_of_true rfl ⟨hself, hfree⟩
        · obtain ⟨hunnamed, heq⟩ := Classical.not_imp.mp hself
          obtain rfl := not_not.mp heq
          rw [refusedText_self hunnamed, isUnderstood_multiple hsolid.className]
          simp [hunnamed]
    | none =>
      have hmissing : missing parameters given ≠ [] := by
        intro hnone
        rw [refusal?_of_fit hfound hnone] at h
        cases h
      obtain ⟨names, hnames, hrefusal⟩ := refusal?_of_missing hfound hmissing kind.className
      rw [hrefusal, Option.some_inj] at h
      simp only
      rw [← List.all_eq_true, ← h]
      split_ifs with hall
      · simpa [hall] using isUnderstood_named kind.className names
      · have hsolidNames : ∀ name ∈ names, ' ' ∉ name.toList := by
          intro name hname
          obtain ⟨p, hp, rfl⟩ := hnames name hname
          exact hparameters p hp
        simpa [hall] using isUnderstood_placed hsolid.className hsolidNames
  · rename_i hsignature
    split_ifs at h
    rw [← Option.some_inj.mp h, isUnderstood_noArguments hsolid.className]
    simp [hsignature]

/-- A kind refuses what it does not take. -/
theorem refusal?_eq_none_iff (kind : Kind Surroundings) (given : List String) :
    kind.refusal? given = none ↔ kind.Takes given := by
  unfold Kind.refusal? Kind.Takes
  cases kind.signature with
  | none => simp
  | some parameters =>
    simp only [← find?_isRefused_eq_none_iff, ← missing_eq_nil_iff]
    cases hfound : given.find? (isRefused parameters) with
    | some name => simp [refusal?_of_refused hfound]
    | none =>
      by_cases hmissing : missing parameters given = []
      · simp [refusal?_of_fit hfound hmissing, hmissing]
      · obtain ⟨names, -, hrefusal⟩ := refusal?_of_missing hfound hmissing kind.className
        simp [hrefusal, hmissing]

/-! ### Asking for a sink -/

theorem open_of_unregistered {registry : Registry Surroundings} {name : String}
    (hname : registry.lookup name = none) (settings : List String) :
    registry.open' name settings = throw (notFound name registry) := by
  simp only [Registry.open', hname]

/-- A sink of a registered kind is made of the arguments that the options give, unless the kind
refuses them. -/
theorem open_of_registered {registry : Registry Surroundings} {name : String}
    {kind : Kind Surroundings} (hkind : registry.lookup name = some kind)
    {settings : List String} {options : List (String × Value)}
    (hoptions : Settings.ofDotList settings = .ok options) :
    registry.open' name settings =
      match kind.refusal? (options.map (·.1)) with
      | some refusal => throw (refused name kind (options.map (·.1)) refusal)
      | none => do
        let arguments ← arguments kind.parameters options
        let some sink ← kind.make arguments | throw (noSink name kind.home)
        return sink := by
  refine Act.ext fun world ↦ ?_
  rw [Registry.open', hkind, hoptions]
  exact Act.outcome_bind_ok (Act.outcome_liftM _ world)

/-- The sink that prints can be had without options only. -/
theorem open_printed {registry : Registry Surroundings} {name : String}
    (hkind : registry.lookup name = some printedKind) {settings : List String}
    {options : List (String × Value)} (hoptions : Settings.ofDotList settings = .ok options) :
    registry.open' name settings =
      if options = [] then pure printed
      else throw ⟨.type, "Stdout() takes no arguments"⟩ := by
  rw [open_of_registered hkind hoptions]
  cases options with
  | nil => rfl
  | cons option options =>
    have hrefused (given : List String) :
        refused name (printedKind : Kind Surroundings) given "Stdout() takes no arguments" =
          ⟨.type, "Stdout() takes no arguments"⟩ := rfl
    simp only [Kind.refusal?, printedKind, List.map_cons, List.isEmpty_cons, Bool.false_eq_true,
      if_false, reduceCtorEq]
    exact congrArg throw (hrefused _)

/-- A sink of an unknown kind, or with options its kind does not take, is not made, and nothing else
happens. The unknown kind is told as a misuse of the program. Options are if their refusal is
understood, and otherwise it is passed on as it is. -/
theorem outcome_open_of_unfit {registry : Registry Surroundings}
    (hsolid : ∀ entry ∈ registry, entry.2.HasSolidNames) (name : String) (settings : List String)
    (world : World Surroundings) :
    (registry.lookup name = none →
      (registry.open' name settings).outcome world = (.error (notFound name registry), world) ∧
        (notFound name registry).kind = .usage) ∧
    ∀ kind options, registry.lookup name = some kind → Settings.ofDotList settings = .ok options →
      ¬ kind.Takes (options.map (·.1)) →
        ∃ failure, (registry.open' name settings).outcome world = (.error failure, world) ∧
          (failure.kind = .usage ↔ kind.Understands (options.map (·.1))) ∧
          (failure.kind = .type ↔ ¬ kind.Understands (options.map (·.1))) := by
  constructor
  · intro hname
    rw [open_of_unregistered hname]
    exact ⟨rfl, rfl⟩
  intro kind options hkind hoptions hunfit
  obtain ⟨refusal, hrefusal⟩ : ∃ refusal, kind.refusal? (options.map (·.1)) = some refusal := by
    rw [← Option.ne_none_iff_exists', ne_eq, refusal?_eq_none_iff]
    exact hunfit
  have hnames : kind.HasSolidNames := by
    obtain ⟨before, after, hregistry, -⟩ := List.lookup_eq_some_iff.mp hkind
    exact hsolid (name, kind) (by simp [hregistry])
  refine ⟨refused name kind (options.map (·.1)) refusal, ?_, ?_, ?_⟩
  · rw [open_of_registered hkind hoptions, hrefusal]
    rfl
  · rw [kind_refused, ← isUnderstood_refusal hnames hrefusal]
    split_ifs with h <;> simp [h]
  · rw [kind_refused, ← isUnderstood_refusal hnames hrefusal]
    split_ifs with h <;> simp [h]

theorem hasSolidNames_shipped :
    ∀ entry ∈ (shipped : Registry Unit), entry.2.HasSolidNames := by
  simp only [shipped, List.forall_mem_cons]
  exact ⟨⟨by decide, by decide⟩, ⟨by decide, by decide⟩, ⟨by decide, by decide⟩, by simp⟩

/-- A text that begins with a word and ends with it stands for what the word does. -/
theorem ofText_of_scalar {text : String} {c : Char} {more : List Char} {value : Value}
    (htext : text.toList = c :: more) (hdash : c ≠ '-') (hbracket : c ≠ '[') (hbrace : c ≠ '\x7b')
    (hskip : Settings.skipBlanks true (c :: more) = c :: more)
    (hscalar : Settings.scalar false (c :: more) = some (value, [])) :
    Settings.ofText text = .ok value := by
  have hend : Settings.skipBlanks false [] = [] := by decide +kernel
  rw [Settings.ofText, Settings.node, htext, hskip]
  simp [Settings.node.whole, hdash, hbracket, hbrace, hscalar, hend]

/-- A single setting without dots in its key. -/
theorem ofDotList_singleton {setting key text : String} {value : Value}
    (hparts : Settings.splitSetting setting = (key, some text))
    (hkey : (Settings.keyComponents key.toList).map String.ofList = [key])
    (hvalue : Settings.ofText text = .ok value) :
    Settings.ofDotList [setting] = .ok [(key, value)] := by
  have hadded : Settings.addSetting (.table []) setting = .ok (.table [(key, value)]) := by
    simp only [Settings.addSetting, hparts, hvalue, hkey]
    simp [Settings.put, Settings.putEntry, Settings.overlay]
  simp only [Settings.ofDotList, List.foldlM_cons, hadded]
  rfl

theorem ofDotList_foo : Settings.ofDotList ["foo=1"] = .ok [("foo", .int 1)] :=
  have hvalue : Settings.ofText "1" = .ok (.int 1) :=
    ofText_of_scalar rfl (by decide) (by decide) (by decide) (by decide +kernel) rfl
  ofDotList_singleton (by decide +kernel) (by decide +kernel) hvalue

/-- A kind that must be given a path, which may be given by place, and takes all other options. -/
def archiveKind : Kind Unit :=
  ⟨"Archive", "sinks", some [⟨"path", .placed, none, .text⟩, ⟨"rest", .other, none, .anything⟩],
    fun _ ↦ pure (some nothing)⟩

def archiveRegistry : Registry Unit :=
  shipped ++ [("archive", archiveKind)]

theorem hasSolidNames_archiveRegistry : ∀ entry ∈ archiveRegistry, entry.2.HasSolidNames := by
  rw [archiveRegistry, List.forall_mem_append, List.forall_mem_singleton]
  exact ⟨hasSolidNames_shipped, ⟨by decide, by decide⟩⟩

/-- An unknown kind, an option that the file sink does not know, and one that another kind takes,
but which is not the one that it must be given. -/
theorem outcome_open_of_unfit_of_archive :
    ( archiveRegistry.open' "syslog" []).outcome ⟨{}, [], ()⟩ =
      (.error (notFound "syslog" archiveRegistry), ⟨{}, [], ()⟩) ∧
    (∃ failure, ( archiveRegistry.open' "file" ["foo=1"]).outcome ⟨{}, [], ()⟩ =
      (.error failure, ⟨{}, [], ()⟩) ∧ failure.kind = .usage) ∧
    ∃ failure, ( archiveRegistry.open' "archive" ["foo=1"]).outcome ⟨{}, [], ()⟩ =
      (.error failure, ⟨{}, [], ()⟩) ∧ failure.kind = .type := by
  have hfileUnfit : ¬ (fileKind : Kind Unit).Takes ["foo"] := by
    rw [← refusal?_eq_none_iff]
    decide
  have harchiveUnfit : ¬ archiveKind.Takes ["foo"] := by
    rw [← refusal?_eq_none_iff]
    decide
  have hunderstood : (fileKind : Kind Unit).Understands ["foo"] :=
    ⟨by decide, by decide⟩
  have hmissing : ¬ archiveKind.Understands ["foo"] := fun h ↦
    absurd (h ⟨"path", .placed, none, .text⟩ (.head _)) (by decide)
  obtain ⟨hunregistered, -⟩ :=
    outcome_open_of_unfit hasSolidNames_archiveRegistry "syslog" [] ⟨{}, [], ()⟩
  obtain ⟨-, hfile⟩ :=
    outcome_open_of_unfit hasSolidNames_archiveRegistry "file" ["foo=1"] ⟨{}, [], ()⟩
  obtain ⟨-, harchive⟩ :=
    outcome_open_of_unfit hasSolidNames_archiveRegistry "archive" ["foo=1"] ⟨{}, [], ()⟩
  obtain ⟨first, hfirst, husage, -⟩ := hfile fileKind _ rfl ofDotList_foo hfileUnfit
  obtain ⟨second, hsecond, -, htype⟩ := harchive archiveKind _ rfl ofDotList_foo harchiveUnfit
  exact ⟨(hunregistered rfl).1, ⟨first, hfirst, husage.mpr hunderstood⟩,
    second, hsecond, htype.mpr hmissing⟩

/-- The sink that prints takes no options, and its refusal of one is passed on as it is. -/
theorem outcome_open_printed :
    ¬ (printedKind : Kind Unit).Takes ["foo"] ∧
    ( shipped.open' "stdout" ["foo=1"]).outcome ⟨{}, [], ()⟩ =
      (.error ⟨.type, "Stdout() takes no arguments"⟩, ⟨{}, [], ()⟩) := by
  constructor
  · rw [← refusal?_eq_none_iff]
    decide
  · rw [open_of_registered rfl ofDotList_foo]
    rfl

end MountCensus.Sink
