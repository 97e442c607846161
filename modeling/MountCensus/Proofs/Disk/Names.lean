import Mathlib.Data.List.Basic
import Mathlib.Tactic.SplitIfs
import MountCensus.Disk

/-!
What the operations on a disk do to its names and to the texts under them. A disk is sound when no
name leads to a file that is not there and no two names lead to one file; the operations on files
keep it so. On a sound disk, a text that is appended under one name is seen under that name only
(`read?_append`), and a file that gets another name is found there (`file?_renameFile`), as is all
that lies below a directory (`file?_renameDirectory`). Where no directory is in the way, a file
takes the place of another one (`replace?_of_clear`); and no directory is made where a file is
(`sameFiles_makeDirectories`).
-/

set_option autoImplicit false

namespace MountCensus.Disk

/-- Every name has a file, and a file of its own. -/
structure IsSound (disk : Disk) : Prop where
  bounded : ∀ {location : Location} {file : Nat},
    disk.file? location = some file → file < disk.contents.length
  injective : ∀ {location other : Location} {file : Nat},
    disk.file? location = some file → disk.file? other = some file → location = other

variable {disk later : Disk} {location other source target : Location} {file : Nat}

theorem isSound_empty : ({} : Disk).IsSound where
  bounded h := by simp [file?] at h
  injective h := by simp [file?] at h

/-- Only the names and the number of files matter. -/
theorem IsSound.of_names_eq (h : disk.IsSound) (hnames : later.names = disk.names)
    (hlength : later.contents.length = disk.contents.length) : later.IsSound := by
  have hfile : later.file? = disk.file? := by
    funext location
    rw [file?, file?, hnames]
  refine ⟨fun {place file} hplace ↦ ?_, fun {place other file} hplace hother ↦ ?_⟩
  · rw [hlength]
    exact h.bounded (hfile ▸ hplace)
  · exact h.injective (hfile ▸ hplace) (hfile ▸ hother)

theorem read?_eq_some_iff {text : String} :
    disk.read? location = some text ↔
      ∃ file, disk.file? location = some file ∧ disk.content file = text :=
  Option.map_eq_some_iff

theorem read?_of_file? (h : disk.file? location = some file) :
    disk.read? location = some (disk.content file) := by
  rw [read?, h, Option.map_some]

/-! ### Appending -/

theorem file?_append (disk : Disk) (file : Nat) (text : String) (location : Location) :
    (disk.append file text).file? location = disk.file? location := rfl

theorem IsSound.append (h : disk.IsSound) (file : Nat) (text : String) :
    (disk.append file text).IsSound :=
  h.of_names_eq rfl List.length_set

theorem read?_append (hsound : disk.IsSound) (hfile : disk.file? location = some file)
    (text : String) (other : Location) :
    (disk.append file text).read? other =
      if other = location then some (disk.content file ++ text) else disk.read? other := by
  rw [read?, file?_append]
  split_ifs with heq
  · rw [heq, hfile, Option.map_some, content_append_self disk (hsound.bounded hfile)]
  · cases hother : disk.file? other with
    | none => rw [read?, hother]; rfl
    | some number =>
      have hne : file ≠ number := by
        rintro rfl
        exact heq (hsound.injective hother hfile)
      rw [read?, hother, Option.map_some, Option.map_some, content_append_of_ne disk hne]

/-! ### Opening -/

theorem open'_of_file? (h : disk.file? location = some file) :
    disk.open' location = (disk, file) := by
  rw [open', h]

theorem open'_of_none (h : disk.file? location = none) :
    disk.open' location =
      ({ disk with
          names := disk.names ++ [(location, disk.contents.length)]
          contents := disk.contents ++ [""] },
        disk.contents.length) := by
  rw [open', h]

theorem file?_open' (disk : Disk) (location other : Location) :
    (disk.open' location).1.file? other =
      if other = location then some (disk.open' location).2 else disk.file? other := by
  cases hfile : disk.file? location with
  | some file =>
    rw [open'_of_file? hfile]
    split_ifs with heq
    · rw [heq, hfile]
    · rfl
  | none =>
    rw [open'_of_none hfile, file?, List.lookup_append]
    split_ifs with heq
    · subst heq
      rw [file?] at hfile
      simp [hfile]
    · simp [file?, List.lookup_cons, beq_false_of_ne heq]

theorem content_open' (disk : Disk) (location : Location) (file : Nat) :
    (disk.open' location).1.content file = disk.content file := by
  cases hfile : disk.file? location with
  | some _ => rw [open'_of_file? hfile]
  | none =>
    rw [open'_of_none hfile]
    simp only [content, List.getD_eq_getElem?_getD]
    rcases Nat.lt_or_ge file disk.contents.length with hlt | hge
    · rw [List.getElem?_append_left hlt]
    · rw [List.getElem?_append_right hge, List.getElem?_eq_none hge]
      cases file - disk.contents.length <;> rfl

/-- The new file is empty; all others are as they were. -/
theorem read?_open' (disk : Disk) (location other : Location) :
    (disk.open' location).1.read? other =
      if other = location then some ((disk.read? location).getD "") else disk.read? other := by
  rw [read?, file?_open']
  split_ifs with heq
  · rw [Option.map_some, content_open']
    cases hfile : disk.file? location with
    | some file => rw [open'_of_file? hfile, read?_of_file? hfile, Option.getD_some]
    | none => simp [open'_of_none hfile, read?, hfile, content]
  · rw [funext (content_open' disk location), read?]

theorem IsSound.open' (h : disk.IsSound) (location : Location) :
    (disk.open' location).1.IsSound := by
  cases hfile : disk.file? location with
  | some _ => rwa [open'_of_file? hfile]
  | none =>
    have hnew : (disk.open' location).2 = disk.contents.length := by rw [open'_of_none hfile]
    have hlength : (disk.open' location).1.contents.length = disk.contents.length + 1 := by
      simp [open'_of_none hfile]
    refine ⟨fun {place file} hplace ↦ ?_, fun {place other file} hplace hother ↦ ?_⟩
    · rw [file?_open', hnew] at hplace
      split_ifs at hplace with heq
      · obtain rfl := Option.some.inj hplace
        omega
      · have := h.bounded hplace
        omega
    · rw [file?_open', hnew] at hplace hother
      split_ifs at hplace hother with heq heq' heq'
      · rw [heq, heq']
      · obtain rfl := Option.some.inj hplace
        exact absurd (h.bounded hother) (Nat.lt_irrefl _)
      · obtain rfl := Option.some.inj hother
        exact absurd (h.bounded hplace) (Nat.lt_irrefl _)
      · exact h.injective hplace hother

theorem IsSound.withFile (h : disk.IsSound) (path text : String) :
    (disk.withFile path text).IsSound :=
  (h.open' (.ofPath path)).of_names_eq rfl List.length_set

/-! ### Names given and taken away -/

theorem file?_unname (disk : Disk) (location other : Location) :
    (disk.unname location).file? other = if other = location then none else disk.file? other := by
  simp only [file?, unname]
  induction disk.names with
  | nil => simp
  | cons name names ih =>
    obtain ⟨place, file⟩ := name
    by_cases hplace : place = location
    · rw [List.filter_cons_of_neg (by simp [hplace]), ih, List.lookup_cons]
      split_ifs with heq
      · rfl
      · rw [beq_false_of_ne (hplace ▸ heq)]
    · rw [List.filter_cons_of_pos (by simp [hplace]), List.lookup_cons, List.lookup_cons, ih]
      by_cases hother : other = place
      · simp [hother, hplace]
      · rw [beq_false_of_ne hother]

theorem isDirectory_unname (disk : Disk) (location other : Location) :
    (disk.unname location).isDirectory other = disk.isDirectory other := rfl

theorem renameFile_of_none (h : disk.file? source = none) :
    disk.renameFile source target = disk := by
  rw [renameFile, h]

theorem file?_renameFile (h : disk.file? source = some file) (other : Location) :
    (disk.renameFile source target).file? other =
      if other = target then some file else if other = source then none
      else disk.file? other := by
  have hcleared : ((disk.unname source).unname target).names.lookup other =
      ((disk.unname source).unname target).file? other := rfl
  rw [renameFile, h, file?, List.lookup_append, hcleared, file?_unname, file?_unname]
  by_cases htarget : other = target
  · simp [htarget]
  · rw [if_neg htarget, if_neg htarget, List.lookup_cons, beq_false_of_ne htarget]
    simp

theorem contents_renameFile (disk : Disk) (source target : Location) :
    (disk.renameFile source target).contents = disk.contents := by
  cases h : disk.file? source <;> simp [renameFile, h, unname]

theorem directories_renameFile (disk : Disk) (source target : Location) :
    (disk.renameFile source target).directories = disk.directories := by
  cases h : disk.file? source <;> simp [renameFile, h, unname]

theorem content_renameFile (disk : Disk) (source target : Location) (file : Nat) :
    (disk.renameFile source target).content file = disk.content file := by
  rw [content, contents_renameFile, content]

theorem IsSound.renameFile (h : disk.IsSound) (source target : Location) :
    (disk.renameFile source target).IsSound := by
  cases hsource : disk.file? source with
  | none => rwa [renameFile_of_none hsource]
  | some moved =>
    refine ⟨fun {place file} hplace ↦ ?_, fun {place other file} hplace hother ↦ ?_⟩
    · rw [contents_renameFile]
      rw [file?_renameFile hsource] at hplace
      split_ifs at hplace with htarget
      · obtain rfl := Option.some.inj hplace
        exact h.bounded hsource
      · exact h.bounded hplace
    · rw [file?_renameFile hsource] at hplace hother
      split_ifs at hplace hother with htarget htarget' hsource' htarget' hsource' hsource''
      · rw [htarget, htarget']
      · obtain rfl := Option.some.inj hplace
        exact absurd (h.injective hother hsource) hsource'
      · obtain rfl := Option.some.inj hother
        exact absurd (h.injective hplace hsource) (by assumption)
      · exact h.injective hplace hother

theorem unname_unname (disk : Disk) (source target : Location) :
    ((disk.unname target).unname source).unname target = (disk.unname source).unname target := by
  simp only [unname, List.filter_filter]
  congr 2
  funext name
  cases name.1 != source <;> cases name.1 != target <;> rfl

/-- A name that is given to a file may be taken away before. -/
theorem renameFile_unname (disk : Disk) (h : source ≠ target) :
    (disk.unname target).renameFile source target =
      if disk.isFile source then disk.renameFile source target else disk.unname target := by
  have hsource : (disk.unname target).file? source = disk.file? source := by
    rw [file?_unname, if_neg h]
  cases hfile : disk.file? source with
  | none =>
    rw [renameFile_of_none (hsource.trans hfile), isFile, hfile]
    rfl
  | some file =>
    rw [isFile, hfile, renameFile, renameFile, hsource, hfile]
    simp only [unname_unname, Option.isSome_some, if_true]

theorem moved_eq_append_iff (h : ¬ target <+: location) (below : List String) :
    location.moved source target = target ++ below ↔ location = source ++ below := by
  unfold Location.moved
  split_ifs with hsource
  · obtain ⟨rest, rfl⟩ := List.isPrefixOf_iff_prefix.mp hsource
    rw [List.drop_left, List.append_cancel_left_eq, List.append_cancel_left_eq]
  · refine iff_of_false (fun heq ↦ h ⟨below, heq.symm⟩) fun heq ↦ hsource ?_
    exact List.isPrefixOf_iff_prefix.mpr ⟨below, heq.symm⟩

/-- A directory takes along what lies below it. -/
theorem file?_renameDirectory (hfree : ∀ name ∈ disk.names, ¬ target <+: name.1)
    (below : List String) :
    (disk.renameDirectory source target).file? (target ++ below) =
      disk.file? (source ++ below) := by
  simp only [file?, renameDirectory]
  generalize disk.names = names at hfree ⊢
  induction names with
  | nil => rfl
  | cons name names ih =>
    obtain ⟨hname, hmore⟩ := List.forall_mem_cons.mp hfree
    have hmoved := @moved_eq_append_iff name.1 source target hname below
    rw [List.map_cons, List.lookup_cons, List.lookup_cons, ih hmore]
    by_cases hbelow : name.1 = source ++ below
    · rw [hmoved.mpr hbelow, hbelow, beq_self_eq_true, beq_self_eq_true]
    · rw [beq_false_of_ne (Ne.symm hbelow), beq_false_of_ne (Ne.symm (mt hmoved.mp hbelow))]

/-! ### Where no directory is in the way -/

theorem remove?_of_clear (h : disk.isDirectory location = false) :
    disk.remove? location = some (disk.unname location) := by
  rw [remove?, h]
  rfl

theorem rename_of_clear (h : disk.isDirectory source = false) (target : Location) :
    disk.rename source target = disk.renameFile source target := by
  rw [rename, h]
  rfl

/-- A file takes the place of another one by its new name alone. -/
theorem replace?_of_clear (hne : source ≠ target) (hsource : disk.isDirectory source = false)
    (htarget : disk.isDirectory target = false) :
    disk.replace? source target = some (disk.renameFile source target) := by
  have hstill : (disk.unname target).isDirectory source = false := by
    rw [isDirectory_unname, hsource]
  rw [replace?, isPresent, hsource, Bool.or_false, remove?_of_clear htarget]
  cases hfile : disk.isFile source with
  | false =>
    have hnone : disk.file? source = none := by simpa [isFile] using hfile
    rw [renameFile_of_none hnone]
    rfl
  | true => rw [if_pos rfl, Option.map_some, rename_of_clear hstill, renameFile_unname disk hne,
      hfile, if_pos rfl]

theorem isDirectory_of_directories_eq (h : later.directories = disk.directories) :
    later.isDirectory = disk.isDirectory := by
  funext location
  rw [isDirectory, isDirectory, h]

theorem hasRoom_of_directories_eq (h : later.directories = disk.directories) :
    later.hasRoom = disk.hasRoom := by
  funext location
  rw [hasRoom, hasRoom, isDirectory_of_directories_eq h]

theorem isDirectory_of_hasRoom (h : disk.hasRoom location) : disk.isDirectory location = false := by
  rw [hasRoom, Bool.and_eq_true] at h
  simpa using h.1

theorem directories_open' (disk : Disk) (location : Location) :
    (disk.open' location).1.directories = disk.directories := by
  cases hfile : disk.file? location with
  | some _ => rw [open'_of_file? hfile]
  | none => rw [open'_of_none hfile]

/-! ### Directories are made -/

/-- The same files under the same names, and no fewer directories, but none where a file is. -/
structure SameFiles (disk other : Disk) : Prop where
  names : other.names = disk.names
  contents : other.contents = disk.contents
  above : ∀ {location}, disk.isDirectory location = true → other.isDirectory location = true
  free : ∀ {location}, disk.isFile location = true → disk.isDirectory location = false →
    other.isDirectory location = false

namespace SameFiles

variable {made : Disk}

theorem refl (disk : Disk) : SameFiles disk disk := ⟨rfl, rfl, id, fun _ h ↦ h⟩

theorem file?_eq (h : SameFiles disk made) : made.file? = disk.file? := by
  funext location
  rw [file?, file?, h.names]

theorem trans (h : SameFiles disk made) (hlater : SameFiles made later) :
    SameFiles disk later where
  names := hlater.names.trans h.names
  contents := hlater.contents.trans h.contents
  above hdirectory := hlater.above (h.above hdirectory)
  free hfile hdirectory := hlater.free (by rwa [isFile, h.file?_eq]) (h.free hfile hdirectory)

theorem read?_eq (h : SameFiles disk made) : made.read? = disk.read? := by
  funext location
  rw [read?, read?, h.file?_eq]
  congr 1
  funext file
  rw [content, content, h.contents]

theorem isSound (h : SameFiles disk made) (hsound : disk.IsSound) : made.IsSound :=
  hsound.of_names_eq h.names (by rw [h.contents])

/-- A file still has room where it is. -/
theorem hasRoom (h : SameFiles disk made) (hfile : disk.isFile location)
    (hroom : disk.hasRoom location) : made.hasRoom location := by
  have hfree := isDirectory_of_hasRoom hroom
  rw [Disk.hasRoom, Bool.and_eq_true] at hroom ⊢
  exact ⟨by rw [h.free hfile hfree]; rfl, h.above hroom.2⟩

end SameFiles

theorem isDirectory_directories_append (disk : Disk) (location other : Location) :
    { disk with directories := disk.directories ++ [location] }.isDirectory other =
      (disk.isDirectory other || other == location) := by
  rw [Bool.eq_iff_iff]
  simp [isDirectory, or_assoc]

theorem sameFiles_makeDirectory {path : List Char} {made : Disk}
    (h : disk.makeDirectory path = .ok made) : SameFiles disk made := by
  simp only [makeDirectory] at h
  split_ifs at h with _ _ hfile <;> obtain rfl := Except.ok.inj h
  · exact .refl _
  · refine ⟨rfl, rfl, fun hdirectory ↦ ?_, fun {location} hlocation hfree ↦ ?_⟩
    · rw [isDirectory_directories_append, hdirectory, Bool.true_or]
    · rw [isDirectory_directories_append, hfree, Bool.false_or, beq_eq_false_iff_ne]
      rintro rfl
      exact hfile hlocation

theorem sameFiles_makeDirectoriesWithin {fuel : Nat} {path : List Char} {made : Disk}
    (h : disk.makeDirectoriesWithin fuel path = .ok made) : SameFiles disk made := by
  induction fuel generalizing path made with
  | zero =>
    obtain rfl := Except.ok.inj h
    exact .refl _
  | succ fuel ih =>
    rw [makeDirectoriesWithin] at h
    dsimp only at h
    -- Only what is above the last component is made by the recursion, and only if it is missing.
    generalize (if (splitLast path).2.isEmpty then splitLast (splitLast path).1
      else ((splitLast path).1, (splitLast path).2)) = parts at h
    generalize (!parts.1.isEmpty && !parts.2.isEmpty &&
      !disk.isPresentAt (String.ofList parts.1)) = missing at h
    cases missing with
    | false => exact sameFiles_makeDirectory h
    | true =>
      cases habove : disk.makeDirectoriesWithin fuel parts.1 with
      | error failure =>
        rw [habove] at h
        have hfailed : (Except.error failure : Except Failure Disk) = .ok made := h
        cases hfailed
      | ok above =>
        rw [habove] at h
        have hlast : (if (true && parts.2 == ['.']) = true then pure above
            else above.makeDirectory path) = .ok made := h
        split_ifs at hlast
        · obtain rfl := Except.ok.inj hlast
          exact ih habove
        · exact (ih habove).trans (sameFiles_makeDirectory hlast)

theorem sameFiles_makeDirectories {path : String} {made : Disk}
    (h : disk.makeDirectories path = .ok made) : SameFiles disk made := by
  rw [makeDirectories] at h
  split_ifs at h
  exact sameFiles_makeDirectoriesWithin h

end MountCensus.Disk
