import Mathlib.Data.List.TakeWhile
import MountCensus.CommandLine.Words

/-!
Command lines on which options are given by their long names. Whatever the options, their order, and
whether a value stands behind an equals sign or is the next word: the words are read as the mentions
of the options, one after the other, and no word is left (`read_uses`).
-/

set_option autoImplicit false

namespace MountCensus.CommandLine

variable {Settings : Type} {parameters : List (Parameter Settings)}

/-- A name that can be told from values and from other names. -/
def IsLongName (name : String) : Prop :=
  isLong name = true ∧ isOption name = true ∧ name ≠ "--" ∧ '=' ∉ name.toList

instance (name : String) : Decidable (IsLongName name) :=
  inferInstanceAs (Decidable (_ ∧ _))

/-- An option given by a long name, with a value exactly if it takes one. -/
structure Use (parameters : List (Parameter Settings)) where
  name : String
  parameter : Parameter Settings
  named : named? parameters name = some parameter
  long : IsLongName name
  value : Option String
  fitting : value.isSome = parameter.takesValue
  /-- Whether the value stands behind an equals sign. -/
  joined : Bool

namespace Use

/-- How the option is spelled. -/
def words (use : Use parameters) : List String :=
  match use.value with
  | none => [use.name]
  | some value => if use.joined then [use.name ++ "=" ++ value] else [use.name, value]

def mention (use : Use parameters) : Mention :=
  ⟨use.parameter.key, use.value⟩

end Use

theorem splitValue_plain {name : List Char} (hplain : '=' ∉ name) :
    splitValue name = (String.ofList name, none) := by
  have hname : name.takeWhile (· != '=') = name :=
    List.takeWhile_eq_self_iff.mpr fun c hc ↦ by simpa using ne_of_mem_of_not_mem hc hplain
  simp [splitValue, hname]

theorem splitValue_joined {name : List Char} (hplain : '=' ∉ name) (value : List Char) :
    splitValue (name ++ '=' :: value) = (String.ofList name, some (String.ofList value)) := by
  have hname : (name ++ '=' :: value).takeWhile (· != '=') = name := by
    rw [List.takeWhile_append_of_pos fun c hc ↦ by simpa using ne_of_mem_of_not_mem hc hplain]
    simp
  simp [splitValue, hname]

theorem isOption_append {name : String} (h : isOption name = true) (more : String) :
    isOption (name ++ more) = true := by
  unfold isOption at h ⊢
  rw [String.toList_append]
  split at h
  · rename_i hname
    rw [hname]
    rfl
  · cases h

namespace Words

/-- An option is read before all that follows it. -/
theorem readBehind_use (use : Use parameters) (mixed : Bool) (rest : List String) :
    readBehind parameters mixed none (use.words ++ rest) =
      (readBehind parameters mixed none rest).map (precededBy [use.mention]) := by
  obtain ⟨name, parameter, hnamed, ⟨hlong, hoption, hproper, hplain⟩, value, hfitting, joined⟩ :=
    use
  have hparts : splitValue name.toList = (name, none) := by
    rw [splitValue_plain hplain, String.ofList_toList]
  cases value with
  | none =>
    have hswitch : parameter.takesValue = false := hfitting.symm
    have hsaid : ofOption parameters name = .ok { mentions := [⟨parameter.key, none⟩] } := by
      simp [ofOption, hparts, hlong, hnamed, hswitch]
    simp only [Use.words, Use.mention, List.singleton_append]
    rw [readBehind]
    simp [hproper, hoption, hsaid]
  | some value =>
    have htakes : parameter.takesValue = true := hfitting.symm
    cases joined with
    | true =>
      have hword : name ++ "=" ++ value ≠ "--" := by
        intro heq
        have hmem : '=' ∈ (name ++ "=" ++ value).toList := by simp
        rw [heq] at hmem
        exact absurd hmem (by decide)
      have hjoined : splitValue (name ++ "=" ++ value).toList = (name, some value) := by
        have hparts := splitValue_joined hplain value.toList
        rw [String.ofList_toList, String.ofList_toList] at hparts
        simpa [String.toList_append] using hparts
      have hsaid : ofOption parameters (name ++ "=" ++ value) =
          .ok { mentions := [⟨parameter.key, some value⟩] } := by
        simp only [ofOption, hjoined, hlong, hnamed, htakes, if_true]
      simp only [Use.words, Use.mention, if_true, List.singleton_append]
      rw [readBehind]
      simp [hword, isOption_append (isOption_append hoption "=") value, hsaid]
    | false =>
      have hsaid : ofOption parameters name = .ok { waiting := some ⟨name, parameter.key⟩ } := by
        simp [ofOption, hparts, hlong, hnamed, htakes]
      simp only [Use.words, Use.mention, Bool.false_eq_true, if_false, List.cons_append,
        List.nil_append]
      rw [readBehind]
      simp [hproper, hoption, hsaid, readBehind]
      cases readBehind parameters mixed none rest <;> rfl

/-- Options given by their long names are read one after the other. -/
theorem read_uses (uses : List (Use parameters)) (mixed : Bool) :
    read parameters mixed (uses.flatMap Use.words) = .ok ⟨uses.map Use.mention, []⟩ := by
  unfold read
  induction uses with
  | nil => simp [readBehind]
  | cons use uses ih =>
    rw [List.flatMap_cons, readBehind_use, ih]
    rfl

end Words

end MountCensus.CommandLine
