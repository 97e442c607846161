import Mathlib.Data.Finset.Sort
import Mathlib.Data.String.Basic
import MountCensus.Proofs.Settings.Keys
import MountCensus.Proofs.Sink.Refusal

/-!
Kinds of sinks that take all their options by name. Whether the options fit is a matter of three
sets of names: those that are given, those that are known and those that are required. A sink is
made exactly if every required name is given and every given one is known (`open_of_fitting`);
otherwise the names that are unknown are told, or if there are none of them, those that are missing
(`open_of_unknown`, `open_of_missing`). Nothing but these names is told, each of them once and in
ascending order (`open_by_names`).
-/

set_option autoImplicit false

namespace MountCensus.Sink

open Text

variable {Surroundings : Type}

/-! ### Sets of names -/

/-- A kind that brings a signature in which every parameter is taken by its name only. -/
structure Kind.TakesByName (kind : Kind Surroundings) (parameters : List Parameter) : Prop where
  signature : kind.signature = some parameters
  named : ∀ p ∈ parameters, p.isNamed = true
  distinct : (parameters.map (·.name)).Nodup

def knownSet (parameters : List Parameter) : Finset String :=
  (parameters.map (·.name)).toFinset

def requiredSet (parameters : List Parameter) : Finset String :=
  ((parameters.filter (·.isRequired)).map (·.name)).toFinset

def givenSet (options : List (String × Value)) : Finset String :=
  (options.map (·.1)).toFinset

/-- The value that a parameter gets, given or by default, is one that it admits. -/
def Parameter.Accepts (parameter : Parameter) (options : List (String × Value)) : Prop :=
  ∀ value, (options.lookup parameter.name).or parameter.default = some value →
    parameter.admitted.admits value = true

/-- What the parameters get. -/
def passed (parameters : List Parameter) (options : List (String × Value)) :
    List (String × Value) :=
  parameters.map fun p ↦ (p.name, argument options p)

/-- A sink of a kind, made of what its parameters get. -/
def Kind.build (kind : Kind Surroundings) (name : String) (values : List (String × Value)) :
    Program Surroundings (Sink Surroundings) := do
  let some sink ← kind.make values | throw (noSink name kind.home)
  return sink

theorem sort_eq_of_sorted {names : List String} {set : Finset String} (hset : names.toFinset = set)
    (hdistinct : names.Nodup) (hsorted : names.Pairwise (· ≤ ·)) : set.sort = names := by
  rw [← hset]
  exact (List.toFinset_sort _ hdistinct).mpr hsorted

theorem sorted_eq_sort {names : List String} (h : names.Nodup) :
    sorted names = names.toFinset.sort := by
  have hperm : (sorted names).Perm names := List.mergeSort_perm names _
  have htrans : ∀ a b c : String, decide (a ≤ b) = true → decide (b ≤ c) = true →
      decide (a ≤ c) = true := by
    simpa using fun a b c : String ↦ String.le_trans
  have htotal : ∀ a b : String, (decide (a ≤ b) || decide (b ≤ a)) = true := by
    simpa using String.le_total
  have hsorted : (sorted names).Pairwise (· ≤ ·) := by
    simpa [sorted] using List.pairwise_mergeSort htrans htotal names
  exact (sort_eq_of_sorted (List.toFinset_eq_of_perm _ _ hperm) (hperm.nodup_iff.mpr h)
    hsorted).symm

section Names

variable {parameters : List Parameter} {options : List (String × Value)}

variable {kind : Kind Surroundings}

theorem Kind.TakesByName.hasOption (h : kind.TakesByName parameters) {p : Parameter}
    (hp : p ∈ parameters) : p.hasOption = true := by
  have hnamed := h.named p hp
  rw [Parameter.isNamed] at hnamed
  rw [Parameter.hasOption, hnamed, Bool.true_or]

theorem Kind.TakesByName.kind_eq (h : kind.TakesByName parameters) {p : Parameter}
    (hp : p ∈ parameters) : p.kind = .named := by
  simpa [Parameter.isNamed] using h.named p hp

theorem Kind.TakesByName.isRequired (h : kind.TakesByName parameters) {p : Parameter}
    (hp : p ∈ parameters) (hdefault : p.default = none) : p.isRequired = true := by
  simp [Parameter.isRequired, Parameter.isSingle, h.kind_eq hp, hdefault]

theorem Kind.TakesByName.unnamedNames_eq (h : kind.TakesByName parameters) :
    unnamedNames parameters = [] :=
  unnamedNames_eq_nil_iff.mpr fun p hp ↦ by simp [h.kind_eq hp]

theorem Kind.TakesByName.takesOption_iff (h : kind.TakesByName parameters) {name : String} :
    TakesOption parameters name ↔ ∃ p ∈ parameters, p.name = name := by
  have hother : ¬ ∃ p ∈ parameters, p.kind = .other := by
    rintro ⟨p, hp, hkind⟩
    rw [h.kind_eq hp] at hkind
    cases hkind
  simp only [TakesOption, hother, false_and, or_false]
  exact exists_congr fun p ↦ and_congr_right fun hp ↦ and_iff_right (h.hasOption hp)

theorem Kind.TakesByName.known_iff (h : kind.TakesByName parameters) :
    givenSet options ⊆ knownSet parameters ↔
      (options.map (·.1)).find? (isRefused parameters) = none := by
  rw [find?_isRefused_eq_none_iff]
  simp only [h.takesOption_iff]
  simp [Finset.subset_iff, givenSet, knownSet]

theorem Kind.TakesByName.required_iff (h : kind.TakesByName parameters) :
    requiredSet parameters ⊆ givenSet options ↔ missing parameters (options.map (·.1)) = [] := by
  rw [missing_eq_nil_iff]
  simp only [Finset.subset_iff, givenSet, requiredSet, List.mem_toFinset, List.forall_mem_map,
    List.mem_filter, and_imp]
  exact forall_congr' fun p ↦ forall_congr' fun hp ↦ forall_congr' fun _ ↦
    (and_iff_right (h.hasOption hp)).symm

theorem Kind.TakesByName.filter_isNamed (h : kind.TakesByName parameters) :
    parameters.filter (·.isNamed) = parameters :=
  List.filter_eq_self.mpr h.named

theorem Kind.TakesByName.validNames_eq (h : kind.TakesByName parameters) :
    validNames parameters = (knownSet parameters).sort := by
  rw [validNames, h.filter_isNamed, sorted_eq_sort h.distinct]
  rfl

theorem Kind.TakesByName.sorted_unknown (h : kind.TakesByName parameters)
    (hdistinct : (options.map (·.1)).Nodup) :
    sorted ((options.map (·.1)).filter fun name ↦ !(validNames parameters).contains name) =
      (givenSet options \ knownSet parameters).sort := by
  rw [sorted_eq_sort (hdistinct.filter _)]
  congr 1
  ext name
  simp [h.validNames_eq, givenSet]

theorem Kind.TakesByName.sorted_missing (h : kind.TakesByName parameters) :
    sorted ((requiredNames parameters).filter fun name ↦ !(options.map (·.1)).contains name) =
      (requiredSet parameters \ givenSet options).sort := by
  have hrequired : requiredNames parameters = (parameters.filter (·.isRequired)).map (·.name) := by
    rw [requiredNames]
    congr 1
    exact List.filter_congr fun p hp ↦ by simp [h.named p hp]
  have hdistinct : (requiredNames parameters).Nodup := by
    rw [hrequired]
    exact h.distinct.sublist (List.filter_sublist.map _)
  rw [sorted_eq_sort (hdistinct.filter _)]
  congr 1
  ext name
  simp [hrequired, givenSet, requiredSet]

end Names

/-! ### What is told -/

section Told

variable {kind : Kind Surroundings} {parameters : List Parameter} {options : List (String × Value)}

/-- The options that are not known, and all that are. -/
def unrecognized (name : String) (parameters : List Parameter) (options : List (String × Value)) :
    Failure :=
  ⟨.usage, "Sink '" ++ name ++ "' got unrecognized options " ++
    quotedList (givenSet options \ knownSet parameters).sort ++ ". Valid options: " ++
      quotedList (knownSet parameters).sort⟩

/-- The options that must be given and are not. -/
def lacking (name : String) (parameters : List Parameter) (options : List (String × Value)) :
    Failure :=
  ⟨.usage, "Sink '" ++ name ++ "' is missing required options " ++
    quotedList (requiredSet parameters \ givenSet options).sort ++ "."⟩

theorem Kind.TakesByName.parameters_eq (h : kind.TakesByName parameters) :
    kind.parameters = parameters := by
  rw [Kind.parameters, h.signature, Option.getD_some]

theorem Kind.TakesByName.refusal?_eq (h : kind.TakesByName parameters) (given : List String) :
    kind.refusal? given = Sink.refusal? kind.className parameters given := by
  rw [Kind.refusal?, h.signature]

theorem refused_of_unexpected (hnamed : kind.TakesByName parameters)
    (hdistinct : (options.map (·.1)).Nodup) (name unknown : String) :
    refused name kind (options.map (·.1)) (kind.className ++ ".__init__() got " ++
        ("an unexpected keyword argument '" ++ unknown ++ "'")) =
      unrecognized name parameters options := by
  unfold refused explain
  rw [if_pos (mentions_unexpected kind.className unknown), hnamed.parameters_eq,
    hnamed.sorted_unknown hdistinct, hnamed.validNames_eq]
  rfl

theorem refused_of_missing (hnamed : kind.TakesByName parameters) (hsolid : kind.HasSolidNames)
    {names : List String} (hnames : ∀ name ∈ names, ∃ p ∈ parameters, p.name = name)
    (name : String) :
    refused name kind (options.map (·.1)) (missingText kind.className "keyword-only" names) =
      lacking name parameters options := by
  have hunexpected : mentions (missingText kind.className "keyword-only" names)
      "got an unexpected keyword argument" = false := by
    have hphrase : [' ', 'u'] <:+: "got an unexpected keyword argument".toList :=
      occursIn_iff_isInfix.mp (by decide)
    have hsolidNames : ∀ name ∈ names, ' ' ∉ name.toList := by
      intro name hname
      obtain ⟨p, hp, rfl⟩ := hnames name hname
      exact hsolid.parameters p (hnamed.parameters_eq ▸ hp)
    rw [missingText_eq]
    exact not_mentions hsolid.className
      (startsNoWord_missingClause (.inl rfl) (by decide) hsolidNames) hphrase
  unfold refused explain
  rw [if_neg (Bool.eq_false_iff.mp hunexpected), mentions_missing, mentions_required,
    hnamed.parameters_eq, hnamed.sorted_missing]
  rfl

theorem Parameter.Accepts.admits {p : Parameter} (h : p.Accepts options)
    (hgiven : p.default = none → p.name ∈ options.map (·.1)) :
    p.admitted.admits (argument options p) = true := by
  cases hlookup : options.lookup p.name with
  | some value =>
    rw [argument, hlookup]
    exact h value (by rw [hlookup]; rfl)
  | none =>
    cases hdefault : p.default with
    | some value =>
      rw [argument, hlookup, hdefault]
      exact h value (by rw [hlookup, hdefault]; rfl)
    | none =>
      obtain ⟨option, hoption, hname⟩ := List.mem_map.mp (hgiven hdefault)
      have hother := List.lookup_eq_none_iff.mp hlookup option hoption
      simp [hname] at hother

theorem mapM_eq_ok {α β : Type} {f : α → Except Failure β} {g : α → β} {items : List α}
    (h : ∀ item ∈ items, f item = .ok (g item)) : items.mapM f = .ok (items.map g) := by
  induction items with
  | nil => rfl
  | cons item items ih =>
    obtain ⟨hitem, hmore⟩ := List.forall_mem_cons.mp h
    rw [List.mapM_cons, hitem, ih hmore]
    rfl

theorem Kind.TakesByName.arguments_eq (hnamed : kind.TakesByName parameters)
    (h : ∀ p ∈ parameters, p.admitted.admits (argument options p) = true) :
    arguments parameters options = .ok (passed parameters options) := by
  refine mapM_eq_ok fun p hp ↦ ?_
  have hvalue : valueFor parameters options p = argument options p := by
    rw [valueFor, hnamed.kind_eq hp]
  have hcheck : p.check (argument options p) = .ok () := by
    unfold Parameter.check
    rw [hnamed.kind_eq hp]
    exact if_pos (h p hp)
  simp only [hvalue, hcheck]
  rfl

end Told

/-! ### Asking for a sink by the names of its options -/

section Open

variable {registry : Registry Surroundings} {name : String} {kind : Kind Surroundings}
variable {parameters : List Parameter} {settings : List String} {options : List (String × Value)}
variable (hkind : registry.lookup name = some kind) (hnamed : kind.TakesByName parameters)
variable (hoptions : Settings.ofDotList settings = .ok options)

include hkind hnamed hoptions

theorem open_of_unknown (hself : "self" ∉ givenSet options)
    (hunknown : ¬ givenSet options ⊆ knownSet parameters) :
    registry.open' name settings = throw (unrecognized name parameters options) := by
  rw [hnamed.known_iff, ← ne_eq, Option.ne_none_iff_exists'] at hunknown
  obtain ⟨unknown, hunknown⟩ := hunknown
  have hne : unknown ≠ selfName := by
    rintro rfl
    exact hself (List.mem_toFinset.mpr (List.mem_of_find?_eq_some hunknown))
  have htext := refusedText_unexpected (fun _ ↦ hne)
    (by simp [hnamed.unnamedNames_eq] : ∀ unnamed ∈ unnamedNames parameters,
      unnamed ∉ options.map (·.1))
  rw [open_of_registered hkind hoptions, hnamed.refusal?_eq, refusal?_of_refused hunknown, htext]
  exact congrArg throw
    (refused_of_unexpected hnamed (Settings.nodup_keys_ofDotList hoptions) name unknown)

theorem open_of_missing (hsolid : kind.HasSolidNames)
    (hknown : givenSet options ⊆ knownSet parameters)
    (hmissing : ¬ requiredSet parameters ⊆ givenSet options) :
    registry.open' name settings = throw (lacking name parameters options) := by
  rw [hnamed.known_iff] at hknown
  rw [hnamed.required_iff] at hmissing
  have hall : (missing parameters (options.map (·.1))).all (·.isNamed) = true :=
    List.all_eq_true.mpr fun p hp ↦ hnamed.named p (List.mem_of_mem_filter hp)
  obtain ⟨names, hnames, hrefusal⟩ := refusal?_of_missing hknown hmissing kind.className
  rw [if_pos hall] at hrefusal
  rw [open_of_registered hkind hoptions, hnamed.refusal?_eq, hrefusal]
  exact congrArg throw (refused_of_missing hnamed hsolid hnames name)

theorem open_of_fitting (haccepted : ∀ p ∈ parameters, p.Accepts options)
    (hrequired : requiredSet parameters ⊆ givenSet options)
    (hknown : givenSet options ⊆ knownSet parameters) :
    registry.open' name settings = kind.build name (passed parameters options) := by
  rw [hnamed.known_iff] at hknown
  rw [hnamed.required_iff] at hrequired
  have harguments := hnamed.arguments_eq fun p hp ↦
    (haccepted p hp).admits fun hdefault ↦
      (missing_eq_nil_iff.mp hrequired p hp (hnamed.isRequired hp hdefault)).2
  rw [open_of_registered hkind hoptions, hnamed.refusal?_eq, refusal?_of_fit hknown hrequired,
    hnamed.parameters_eq, harguments]
  rfl

end Open

/-- A sink of a kind that takes its options by name is made of what its parameters get, exactly if
every option that is required is given and every one that is given is known. Otherwise nothing is
made and the misuse is told: the options that are not known with all those that are, or, if there
are none of these, the options that are missing. -/
theorem open_by_names {registry : Registry Surroundings} {name : String}
    {kind : Kind Surroundings} {parameters : List Parameter} {settings : List String}
    {options : List (String × Value)} (hkind : registry.lookup name = some kind)
    (hnamed : kind.TakesByName parameters) (hsolid : kind.HasSolidNames)
    (hoptions : Settings.ofDotList settings = .ok options) (hself : "self" ∉ givenSet options)
    (haccepted : ∀ p ∈ parameters, p.Accepts options) :
    (¬ givenSet options ⊆ knownSet parameters →
      registry.open' name settings = throw (unrecognized name parameters options)) ∧
    (givenSet options ⊆ knownSet parameters → ¬ requiredSet parameters ⊆ givenSet options →
      registry.open' name settings = throw (lacking name parameters options)) ∧
    (requiredSet parameters ⊆ givenSet options → givenSet options ⊆ knownSet parameters →
      registry.open' name settings = kind.build name (passed parameters options)) ∧
    ((∀ values world, ∃ sink after, (kind.make values).outcome world = (.ok (some sink), after)) →
      ∀ world, (∃ sink after, (registry.open' name settings).outcome world = (.ok sink, after)) ↔
        requiredSet parameters ⊆ givenSet options ∧ givenSet options ⊆ knownSet parameters) := by
  have hunknown := open_of_unknown hkind hnamed hoptions hself
  have hmissing := open_of_missing hkind hnamed hoptions hsolid
  have hfitting := open_of_fitting hkind hnamed hoptions haccepted
  refine ⟨hunknown, hmissing, hfitting, fun hmakes world ↦ ⟨?_, ?_⟩⟩
  · rintro ⟨sink, after, hmade⟩
    by_cases hknown : givenSet options ⊆ knownSet parameters
    · by_cases hrequired : requiredSet parameters ⊆ givenSet options
      · exact ⟨hrequired, hknown⟩
      · rw [hmissing hknown hrequired] at hmade
        cases hmade
    · rw [hunknown hknown] at hmade
      cases hmade
  · rintro ⟨hrequired, hknown⟩
    obtain ⟨sink, after, hmake⟩ := hmakes (passed parameters options) world
    refine ⟨sink, after, ?_⟩
    rw [hfitting hrequired hknown, Kind.build, Act.outcome_bind_ok hmake]
    rfl

/-! ### A kind with one option that is required -/

def zonedParameters : List Parameter := [
  ⟨"zone", .named, none, .integer⟩, ⟨"area", .named, some .null, .optionalText⟩]

def zonedKind : Kind Unit :=
  ⟨"Zoned", "sinks", some zonedParameters, fun _ ↦ pure (some nothing)⟩

def zonedRegistry : Registry Unit :=
  [("zoned", zonedKind)]

theorem takesByName_zoned : zonedKind.TakesByName zonedParameters :=
  ⟨rfl, by decide, by decide⟩

theorem hasSolidNames_zoned : zonedKind.HasSolidNames :=
  ⟨by decide, by decide⟩

theorem accepts_zoned {options : List (String × Value)}
    (hzone : ∀ value, options.lookup "zone" = some value → ∃ n, value = .int n)
    (harea : options.lookup "area" = none) : ∀ p ∈ zonedParameters, p.Accepts options := by
  simp only [zonedParameters, List.forall_mem_cons]
  refine ⟨fun value hvalue ↦ ?_, fun value hvalue ↦ ?_, by simp⟩
  · rw [Option.or_none] at hvalue
    obtain ⟨n, rfl⟩ := hzone value hvalue
    rfl
  · rw [harea, Option.none_or] at hvalue
    cases hvalue
    rfl

theorem unrecognized_zoned : unrecognized "zoned" zonedParameters [("foo", .int 1)] = ⟨.usage,
    "Sink 'zoned' got unrecognized options ['foo']. Valid options: ['area', 'zone']"⟩ := by
  have hunknown : (givenSet [("foo", .int 1)] \ knownSet zonedParameters).sort = ["foo"] :=
    sort_eq_of_sorted (by decide) (by decide) (by decide)
  have hknown : (knownSet zonedParameters).sort = ["area", "zone"] :=
    sort_eq_of_sorted (by decide) (by decide) (by decide +kernel)
  rw [unrecognized, hunknown, hknown]
  decide +kernel

theorem lacking_zoned : lacking "zoned" zonedParameters [] = ⟨.usage,
    "Sink 'zoned' is missing required options ['zone']."⟩ := by
  have hmissing : (requiredSet zonedParameters \ givenSet []).sort = ["zone"] :=
    sort_eq_of_sorted (by decide) (by decide) (by decide)
  rw [lacking, hmissing]
  decide +kernel

/-- An option that is not known, none at all, and the one that is required. -/
theorem open_by_names_of_zoned :
    zonedRegistry.open' "zoned" ["foo=1"] = throw ⟨.usage,
      "Sink 'zoned' got unrecognized options ['foo']. Valid options: ['area', 'zone']"⟩ ∧
    zonedRegistry.open' "zoned" [] = throw ⟨.usage,
      "Sink 'zoned' is missing required options ['zone']."⟩ ∧
    ∃ sink after, ( zonedRegistry.open' "zoned" ["zone=1"]).outcome ⟨{}, [], ()⟩ =
      (.ok sink, after) := by
  have hzone : Settings.ofDotList ["zone=1"] = .ok [("zone", .int 1)] :=
    have hvalue : Settings.ofText "1" = .ok (.int 1) :=
      ofText_of_scalar rfl (by decide) (by decide) (by decide) (by decide +kernel) rfl
    ofDotList_singleton (by decide +kernel) (by decide +kernel) hvalue
  have hnone : Settings.ofDotList [] = .ok [] := rfl
  have hkind : zonedRegistry.lookup "zoned" = some zonedKind := rfl
  have hfoo := open_by_names hkind takesByName_zoned hasSolidNames_zoned ofDotList_foo (by decide)
    (accepts_zoned (fun _ h ↦ nomatch h) rfl)
  have hnothing := open_by_names hkind takesByName_zoned hasSolidNames_zoned hnone (by decide)
    (accepts_zoned (fun _ h ↦ nomatch h) rfl)
  have hgiven := open_by_names hkind takesByName_zoned hasSolidNames_zoned hzone (by decide)
    (accepts_zoned (fun _ h ↦ ⟨1, (Option.some.inj h).symm⟩) rfl)
  refine ⟨?_, ?_, ?_⟩
  · rw [← unrecognized_zoned]
    exact hfoo.1 (by decide)
  · rw [← lacking_zoned]
    exact hnothing.2.1 (by decide) (by decide)
  · have hmakes : ∀ values world, ∃ sink after,
        (zonedKind.make values).outcome world = (.ok (some sink), after) :=
      fun _ world ↦ ⟨nothing, world, rfl⟩
    exact (hgiven.2.2.2 hmakes _).mpr ⟨by decide, by decide⟩

end MountCensus.Sink
