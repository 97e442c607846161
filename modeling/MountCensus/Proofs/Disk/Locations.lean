import Mathlib.Data.List.Basic
import Mathlib.Tactic.SplitIfs
import MountCensus.Log.Logger
import MountCensus.Proofs.Text.Integer

/-!
Where paths lead. A path leads to where its directory and its last component lead when they are
joined again (`ofPath_joinPath`). The numbered companions of a file are told apart by the file and
the number (`numbered_inj`), and none of them is the file itself.
-/

set_option autoImplicit false

namespace MountCensus

theorem Text.afterLast_append_cons {mark : Char} {tail : List Char} (h : mark ∉ tail)
    (head : List Char) : Text.afterLast mark (head ++ mark :: tail) = tail := by
  have htail : ∀ c ∈ tail.reverse, (c != mark) = true := fun c hc ↦ by
    have hne : c ≠ mark := fun heq ↦ h (heq ▸ List.mem_reverse.mp hc)
    simpa using hne
  rw [afterLast, List.reverse_append, List.reverse_cons, List.append_assoc,
    List.takeWhile_append_of_pos htail]
  simp

namespace Location

/-! ### Following a path -/

/-- Where a path leads from a starting point, reversed. -/
def follow (start : List String) (path : List Char) : List String :=
  (components path).foldl enter start

theorem ofPath_eq (path : String) :
    ofPath path = (follow [startOf path.toList] path.toList).reverse :=
  rfl

theorem startOf_append {path : List Char} (h : path ≠ []) (more : List Char) :
    startOf (path ++ more) = startOf path := by
  cases path with
  | nil => exact absurd rfl h
  | cons c path =>
    by_cases hc : c = '/'
    · rw [hc]; rfl
    · rw [List.cons_append, startOf.eq_2 _ fun _ h ↦ hc (List.cons.inj h).1,
        startOf.eq_2 _ fun _ h ↦ hc (List.cons.inj h).1]

theorem follow_append_slash (start : List String) (path more : List Char) :
    follow start (path ++ '/' :: more) = follow (follow start path) more := by
  rw [follow, components, List.splitOnP_append_cons _ _ rfl, List.map_append, List.foldl_append]
  rfl

theorem follow_nil (start : List String) : follow start [] = start := by
  simp [follow, components, enter]

/-- More slashes lead nowhere else. -/
theorem follow_slashes {slashes : List Char} (h : ∀ c ∈ slashes, c = '/') (start : List String)
    (more : List Char) : follow start (slashes ++ more) = follow start more := by
  induction slashes with
  | nil => rfl
  | cons c slashes ih =>
    obtain ⟨hc, hmore⟩ := List.forall_mem_cons.mp h
    have hstep := follow_append_slash start [] (slashes ++ more)
    rw [follow_nil, ih hmore] at hstep
    rw [hc]
    exact hstep

/-! ### No path leads nowhere -/

/-- What lies at the bottom of a way: the root, the working directory, or what is above it. -/
def IsRooted (reversed : List String) : Prop :=
  reversed.getLast? = some "/" ∨ reversed.getLast? = some "." ∨ reversed.getLast? = some ".."

theorem IsRooted.ne_nil {reversed : List String} (h : IsRooted reversed) : reversed ≠ [] := by
  rintro rfl
  simp [IsRooted] at h

theorem IsRooted.cons {reversed : List String} (h : IsRooted reversed) (component : String) :
    IsRooted (component :: reversed) := by
  rwa [IsRooted, List.getLast?_cons_of_ne_nil h.ne_nil]

theorem IsRooted.enter {reversed : List String} (h : IsRooted reversed) (component : String) :
    IsRooted (enter reversed component) := by
  unfold Location.enter
  split_ifs
  · exact h
  · split
    · exact .inl rfl
    · exact .inr (.inr rfl)
    · exact h.cons _
    · rename_i last above hroot hwork hup
      cases above with
      | nil =>
        rcases h with h | h | h <;> obtain rfl := Option.some.inj h
        · exact (hroot rfl rfl).elim
        · exact (hwork rfl rfl).elim
        · exact (hup rfl).elim
      | cons next above => rwa [IsRooted, List.getLast?_cons_cons] at h
    · exact absurd rfl h.ne_nil
  · exact h.cons component

theorem isRooted_follow {start : List String} (h : IsRooted start) (path : List Char) :
    IsRooted (follow start path) := by
  rw [follow]
  induction components path generalizing start with
  | nil => exact h
  | cons component more ih => exact ih (h.enter component)

theorem ofPath_ne_nil (path : String) : ofPath path ≠ [] := by
  have hstart : IsRooted [startOf path.toList] := by
    unfold startOf
    split
    · exact .inl rfl
    · exact .inr (.inl rfl)
  rw [ofPath_eq]
  simpa using (isRooted_follow hstart path.toList).ne_nil

/-! ### Numbered companions -/

/-- The name under which a file is kept when it has been put aside as the given number. -/
def numbered (location : Location) (number : Nat) : Location :=
  location.extended ("." ++ toString number)

theorem extended_concat (above : List String) (last ending : String) :
    extended (above ++ [last]) ending = above ++ [last ++ ending] := by
  simp [extended]

theorem dot_not_mem_digits (number : Nat) : '.' ∉ Nat.toDigits 10 number := fun h ↦ by
  have hdigit := Text.isDigit_of_mem_decimal h
  exact absurd hdigit (by decide)

theorem toDigits_inj {number other : Nat} (h : Nat.toDigits 10 number = Nat.toDigits 10 other) :
    number = other := by
  rw [← Text.ofDigits_toDigits number, h, Text.ofDigits_toDigits]

/-- A companion tells its file and its number. -/
theorem numbered_inj {location other : Location} (hlocation : location ≠ []) (hother : other ≠ [])
    {number second : Nat} (h : location.numbered number = other.numbered second) :
    location = other ∧ number = second := by
  obtain ⟨above, last, rfl⟩ : ∃ above last, location = above ++ [last] :=
    ⟨_, _, (List.dropLast_append_getLast hlocation).symm⟩
  obtain ⟨above', last', rfl⟩ : ∃ above last, other = above ++ [last] :=
    ⟨_, _, (List.dropLast_append_getLast hother).symm⟩
  rw [numbered, numbered, extended_concat, extended_concat] at h
  obtain ⟨rfl, hlast⟩ := List.append_inj' h rfl
  have hchars : last.toList ++ '.' :: Nat.toDigits 10 number =
      last'.toList ++ '.' :: Nat.toDigits 10 second := by
    have htext := congrArg String.toList (List.singleton_inj.mp hlast)
    simpa [String.toList_append, Nat.toString_eq_repr, Nat.toList_repr] using htext
  have hdigits : Nat.toDigits 10 number = Nat.toDigits 10 second := by
    rw [← Text.afterLast_append_cons (dot_not_mem_digits number) last.toList, hchars,
      Text.afterLast_append_cons (dot_not_mem_digits second)]
  rw [hdigits] at hchars
  exact ⟨by rw [String.toList_inj.mp (List.append_cancel_right hchars)], toDigits_inj hdigits⟩

theorem numbered_ne {location : Location} (hlocation : location ≠ []) (number : Nat) :
    location.numbered number ≠ location := by
  obtain ⟨above, last, rfl⟩ : ∃ above last, location = above ++ [last] :=
    ⟨_, _, (List.dropLast_append_getLast hlocation).symm⟩
  intro h
  rw [numbered, extended_concat] at h
  have hlast := congrArg String.length (List.singleton_inj.mp (List.append_inj' h rfl).2)
  simp only [String.length_append] at hlast
  have hdot : ".".length = 1 := rfl
  omega

end Location

/-! ### A path and its last component -/

namespace Log

theorem startsWith_slash_of_not_mem {chars : List Char} (h : '/' ∉ chars) :
    (String.ofList chars).startsWith "/" = false := by
  rw [Bool.eq_false_iff]
  intro hstarts
  have hmem := (String.startsWith_string_iff.mp hstarts).subset (List.mem_singleton.mpr rfl)
  rw [String.toList_ofList] at hmem
  exact h hmem

theorem endsWith_slash_iff {text : String} :
    text.endsWith "/" = true ↔ ∃ chars, text.toList = chars ++ ['/'] := by
  rw [String.endsWith_eq_endsWith_toSlice, String.Slice.endsWith_string_iff, String.copy_toSlice]
  exact ⟨fun ⟨chars, h⟩ ↦ ⟨chars, h.symm⟩, fun ⟨chars, h⟩ ↦ ⟨chars, h.symm⟩⟩

/-- What stands before the last component of a path: nothing, or it ends with a slash. -/
theorem exists_head_append_afterLast (path : List Char) :
    ∃ head, path = head ++ Text.afterLast '/' path ∧
      (head = [] ∨ ∃ above, head = above ++ ['/']) := by
  refine ⟨(path.reverse.dropWhile (· != '/')).reverse, ?_, ?_⟩
  · rw [Text.afterLast, ← List.reverse_append, List.takeWhile_append_dropWhile,
      List.reverse_reverse]
  · cases hdrop : path.reverse.dropWhile (· != '/') with
    | nil => exact .inl rfl
    | cons c rest =>
      have hc := List.head?_dropWhile_not (· != '/') path.reverse
      rw [hdrop] at hc
      have hslash : c = '/' := by simpa using hc
      exact .inr ⟨rest.reverse, by rw [List.reverse_cons, hslash]⟩

/-- A path that is nothing but slashes and a component, or one with something in front of the
slashes. -/
inductive Parting : List Char → List Char → List Char → Prop where
  | top {slashes tail : List Char} (hslashes : ∀ c ∈ slashes, c = '/') (htail : '/' ∉ tail) :
    Parting (slashes ++ tail) slashes tail
  | below {head slashes tail : List Char} (hhead : head ≠ []) (hend : head.getLast? ≠ some '/')
    (hslashes : ∀ c ∈ slashes, c = '/') (htail : '/' ∉ tail) :
    Parting (head ++ '/' :: slashes ++ tail) head tail

theorem append_slash_of_slashes {slashes : List Char} (h : ∀ c ∈ slashes, c = '/') :
    slashes ++ ['/'] = '/' :: slashes := by
  rw [List.eq_replicate_of_mem h, ← List.replicate_succ', List.replicate_succ]

theorem parting_splitLast (path : List Char) :
    Parting path (Disk.splitLast path).1 (Disk.splitLast path).2 := by
  obtain ⟨head, hpath, hend⟩ := exists_head_append_afterLast path
  have htail : '/' ∉ Text.afterLast '/' path := Text.not_mem_afterLast '/' path
  rw [Disk.splitLast]
  generalize Text.afterLast '/' path = tail at hpath htail ⊢
  subst hpath
  simp only [List.length_append, Nat.add_sub_cancel, List.take_left]
  split_ifs with hall
  · exact .top (by simpa using hall) htail
  · obtain ⟨above, rfl⟩ := hend.resolve_left fun hnil ↦ hall (by rw [hnil]; rfl)
    have hdrop : (above ++ ['/']).reverse.dropWhile (· == '/') =
        above.reverse.dropWhile (· == '/') := by simp
    have hslashes : ∀ c ∈ (above.reverse.takeWhile (· == '/')).reverse, c = '/' := fun c hc ↦ by
      have htaken := List.all_eq_true.mp (List.all_takeWhile (p := (· == '/')) (l := above.reverse))
      simpa using htaken c (List.mem_reverse.mp hc)
    have hparts : above ++ ['/'] = (above.reverse.dropWhile (· == '/')).reverse ++
        '/' :: (above.reverse.takeWhile (· == '/')).reverse := by
      rw [← append_slash_of_slashes hslashes, ← List.append_assoc, ← List.reverse_append,
        List.takeWhile_append_dropWhile, List.reverse_reverse]
    have hfirst := List.head?_dropWhile_not (· == '/') above.reverse
    rw [hdrop, hparts]
    refine .below (fun hnil ↦ hall ?_) ?_ hslashes htail
    · rw [hparts, hnil]
      exact List.all_eq_true.mpr (by simpa using hslashes)
    · rw [List.getLast?_reverse]
      intro hslash
      rw [hslash] at hfirst
      simp at hfirst

theorem isEmpty_ofList {chars : List Char} (h : chars ≠ []) :
    (String.ofList chars).isEmpty = false := by
  simpa using h

theorem joinPath_of_slash {directory path : String} (hpath : path.startsWith "/" = false)
    (h : directory.isEmpty = false) (hend : directory.endsWith "/" = true) :
    joinPath directory path = directory ++ path := by
  simp [joinPath, hpath, h, hend]

theorem joinPath_of_no_slash {directory path : String} (hpath : path.startsWith "/" = false)
    (h : directory.isEmpty = false) (hend : directory.endsWith "/" = false) :
    joinPath directory path = directory ++ "/" ++ path := by
  simp [joinPath, hpath, h, hend]

/-- Joining the parts of a path again leads where the path led. -/
theorem ofPath_joinPath (path : String) :
    Location.ofPath (joinPath (directoryOf path) (baseName path)) = Location.ofPath path := by
  obtain ⟨chars, rfl⟩ : ∃ chars, path = String.ofList chars := ⟨_, String.ofList_toList.symm⟩
  have hparting := parting_splitLast chars
  rw [directoryOf, baseName, String.toList_ofList]
  generalize (Disk.splitLast chars).1 = head at hparting
  generalize (Disk.splitLast chars).2 = tail at hparting
  cases hparting with
  | top hslashes htail =>
    have hjoin : joinPath (String.ofList head) (String.ofList tail) =
        String.ofList (head ++ tail) := by
      rcases List.eq_nil_or_concat head with rfl | ⟨above, c, rfl⟩
      · simp [joinPath]
      · obtain rfl : c = '/' := hslashes c (by simp)
        rw [joinPath_of_slash (startsWith_slash_of_not_mem htail), String.ofList_append]
        · exact isEmpty_ofList (by simp)
        · exact endsWith_slash_iff.mpr ⟨above, by simp⟩
    rw [hjoin]
  | @below _ slashes _ hhead hend hslashes htail =>
    have hnot : (String.ofList head).endsWith "/" = false := by
      rw [Bool.eq_false_iff]
      intro hslash
      obtain ⟨above, habove⟩ := endsWith_slash_iff.mp hslash
      rw [String.toList_ofList] at habove
      exact hend (by simp [habove])
    have hjoin : joinPath (String.ofList head) (String.ofList tail) =
        String.ofList (head ++ '/' :: tail) := by
      rw [joinPath_of_no_slash (startsWith_slash_of_not_mem htail) (isEmpty_ofList hhead) hnot,
        String.ofList_append, String.ofList_cons, String.append_assoc]
      rfl
    rw [hjoin, Location.ofPath_eq, Location.ofPath_eq, String.toList_ofList, String.toList_ofList,
      List.append_assoc, Location.startOf_append hhead, Location.startOf_append hhead,
      List.cons_append, Location.follow_append_slash, Location.follow_append_slash,
      Location.follow_slashes hslashes]

end Log

end MountCensus
