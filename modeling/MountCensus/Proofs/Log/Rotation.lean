import MountCensus.Proofs.Disk.Locations
import MountCensus.Proofs.Disk.Names

/-!
What is kept of everything written to a file that is put aside when it grows too large. The lines
written make up segments: one that is still growing, and those closed before it. The file holds the
growing segment and its numbered companions hold the latest closed ones, each in its turn
(`Keeps.write`); older ones are gone. No other name is touched (`Keeps.untouched`), and as long as
nothing is closed, not even the companions' names are. That holds where no directory has the name of
a companion: rotating then only gives files other names (`shift_of_clear`, `rotate_of_clear`).
-/

set_option autoImplicit false

namespace MountCensus.Log

/-! ### Segments -/

/-- Texts that have been closed, the latest first, and the one that is still growing. -/
structure Segments where
  closed : List String := []
  current : String := ""
deriving DecidableEq, Repr

namespace Segments

/-- A line that would bring the growing segment to its limit begins a new one. -/
def add (limit : Int) (segments : Segments) (line : String) : Segments :=
  if 0 < limit && limit ≤ ((segments.current.utf8ByteSize + line.length : Nat) : Int) then
    ⟨segments.current :: segments.closed, line⟩
  else ⟨segments.closed, segments.current ++ line⟩

def addAll (limit : Int) (segments : Segments) (lines : List String) : Segments :=
  lines.foldl (add limit) segments

/-- Everything that has been written, in order. -/
def text (segments : Segments) : String :=
  String.join segments.closed.reverse ++ segments.current

theorem add_of_le {limit : Int} (hpositive : 0 < limit) {segments : Segments} {line : String}
    (h : limit ≤ ((segments.current.utf8ByteSize + line.length : Nat) : Int)) :
    segments.add limit line = ⟨segments.current :: segments.closed, line⟩ :=
  if_pos (by rw [decide_eq_true hpositive, decide_eq_true h]; rfl)

theorem add_of_lt {limit : Int} {segments : Segments} {line : String}
    (h : ((segments.current.utf8ByteSize + line.length : Nat) : Int) < limit) :
    segments.add limit line = ⟨segments.closed, segments.current ++ line⟩ :=
  if_neg (by rw [decide_eq_false (Int.not_le.mpr h), Bool.and_false]; exact Bool.false_ne_true)

theorem text_add (limit : Int) (segments : Segments) (line : String) :
    (segments.add limit line).text = segments.text ++ line := by
  unfold add
  split_ifs
  · simp [text, String.join_append]
  · rw [text, text, String.append_assoc]

theorem addAll_cons (limit : Int) (segments : Segments) (line : String) (lines : List String) :
    segments.addAll limit (line :: lines) = (segments.add limit line).addAll limit lines := rfl

theorem addAll_append (limit : Int) (segments : Segments) (lines more : List String) :
    segments.addAll limit (lines ++ more) = (segments.addAll limit lines).addAll limit more :=
  List.foldl_append

/-- No line is lost when the segments are put together again. -/
theorem text_addAll (limit : Int) (segments : Segments) (lines : List String) :
    (segments.addAll limit lines).text = segments.text ++ String.join lines := by
  induction lines generalizing segments with
  | nil => simp [addAll]
  | cons line lines ih => rw [addAll_cons, ih, text_add, String.join_cons, String.append_assoc]

theorem length_le_utf8ByteSize (text : String) : text.length ≤ text.utf8ByteSize := by
  obtain ⟨chars, rfl⟩ : ∃ chars, text = String.ofList chars := ⟨_, String.ofList_toList.symm⟩
  rw [String.length_ofList]
  induction chars with
  | nil => exact Nat.le_refl 0
  | cons c chars ih =>
    have hpositive := c.utf8Size_pos
    rw [String.ofList_cons, String.utf8ByteSize_append, String.utf8ByteSize_singleton,
      List.length_cons]
    omega

end Segments

/-- The names under which segments may be kept: that of the file, and those of its companions once
a segment has been closed. -/
def Segments.Covers (segments : Segments) (location : Location) (kept : Nat) (other : Location) :
    Prop :=
  other = location ∨
    segments.closed ≠ [] ∧ ∃ number < kept, other = location.numbered (number + 1)

namespace Segments

variable {segments : Segments} {location other : Location} {kept : Nat}

theorem covers_self (segments : Segments) (location : Location) (kept : Nat) :
    segments.Covers location kept location := .inl rfl

theorem covers_iff_of_closed_nil (h : segments.closed = []) :
    segments.Covers location kept other ↔ other = location := by
  simp [Covers, h]

theorem Covers.add (h : segments.Covers location kept other) (limit : Int) (line : String) :
    (segments.add limit line).Covers location kept other := by
  refine h.imp id fun ⟨hclosed, haside⟩ ↦ ⟨?_, haside⟩
  unfold Segments.add
  split_ifs
  · exact List.cons_ne_nil _ _
  · exact hclosed

theorem Covers.addAll (h : segments.Covers location kept other) (limit : Int)
    (lines : List String) : (segments.addAll limit lines).Covers location kept other := by
  induction lines generalizing segments with
  | nil => exact h
  | cons line lines ih => exact ih (h.add limit line)

end Segments

/-! ### The numbered companions move up -/

namespace Rotation

variable {rotation : Rotation} {disk : Disk} {other : Location} {file count number : Nat}

theorem aside_eq (rotation : Rotation) (number : Nat) :
    rotation.aside number = rotation.location.numbered number := rfl

theorem aside_inj (hplaced : rotation.location ≠ []) {second : Nat}
    (h : rotation.aside number = rotation.aside second) : number = second :=
  (Location.numbered_inj hplaced hplaced h).2

theorem aside_ne_aside (hplaced : rotation.location ≠ []) {second : Nat} (h : number ≠ second) :
    rotation.aside number ≠ rotation.aside second :=
  mt (aside_inj hplaced) h

theorem aside_ne (hplaced : rotation.location ≠ []) (number : Nat) :
    rotation.aside number ≠ rotation.location :=
  Location.numbered_ne hplaced number

/-- No directory has the name of a companion. -/
def IsClear (rotation : Rotation) (disk : Disk) : Prop :=
  ∀ number < rotation.kept, disk.isDirectory (rotation.aside (number + 1)) = false

/-- The disk after the companions have moved up, with no directory in the way. -/
def shifted (rotation : Rotation) (disk : Disk) : Nat → Disk
  | 0 => disk
  | number + 1 =>
    rotation.shifted (disk.renameFile (rotation.aside (number + 1)) (rotation.aside (number + 2)))
      number

theorem shift_of_clear (hplaced : rotation.location ≠ [])
    (hclear : ∀ number ≤ count, disk.isDirectory (rotation.aside (number + 1)) = false) :
    rotation.shift disk count = .ok (rotation.shifted disk count) := by
  induction count generalizing disk with
  | zero => rfl
  | succ count ih =>
    have hne : rotation.aside (count + 1) ≠ rotation.aside (count + 2) :=
      aside_ne_aside hplaced (by omega)
    have hsame := Disk.isDirectory_of_directories_eq
      (disk.directories_renameFile (rotation.aside (count + 1)) (rotation.aside (count + 2)))
    rw [shift, Disk.replace?_of_clear hne (hclear count (by omega)) (hclear (count + 1) (by omega))]
    exact ih fun number hnumber ↦ by
      rw [hsame]
      exact hclear number (by omega)

theorem isSound_shifted (hsound : disk.IsSound) (rotation : Rotation) (count : Nat) :
    (rotation.shifted disk count).IsSound := by
  induction count generalizing disk with
  | zero => exact hsound
  | succ count ih => exact ih (hsound.renameFile _ _)

theorem content_shifted (rotation : Rotation) (disk : Disk) (count file : Nat) :
    (rotation.shifted disk count).content file = disk.content file := by
  induction count generalizing disk with
  | zero => rfl
  | succ count ih => rw [shifted, ih, Disk.content_renameFile]

theorem directories_shifted (rotation : Rotation) (disk : Disk) (count : Nat) :
    (rotation.shifted disk count).directories = disk.directories := by
  induction count generalizing disk with
  | zero => rfl
  | succ count ih => rw [shifted, ih, Disk.directories_renameFile]

theorem file?_shifted_of_ne (h : ∀ number ≤ count, other ≠ rotation.aside (number + 1)) :
    (rotation.shifted disk count).file? other = disk.file? other := by
  induction count generalizing disk with
  | zero => rfl
  | succ count ih =>
    rw [shifted, ih fun number hnumber ↦ h number (by omega)]
    cases hsource : disk.file? (rotation.aside (count + 1)) with
    | none => rw [Disk.renameFile_of_none hsource]
    | some file => rw [Disk.file?_renameFile hsource, if_neg (h (count + 1) (by omega)),
        if_neg (h count (by omega))]

/-- Each companion gets the next number. -/
theorem file?_shifted (hplaced : rotation.location ≠ []) (hnumber : number < count)
    (hfile : disk.file? (rotation.aside (number + 1)) = some file) :
    (rotation.shifted disk count).file? (rotation.aside (number + 2)) = some file := by
  induction count generalizing disk with
  | zero => exact absurd hnumber (by omega)
  | succ count ih =>
    rw [shifted]
    by_cases hlast : number = count
    · subst hlast
      rw [file?_shifted_of_ne, Disk.file?_renameFile hfile, if_pos rfl]
      exact fun second hsecond ↦ aside_ne_aside hplaced (by omega)
    · refine ih (by omega) ?_
      cases hsource : disk.file? (rotation.aside (count + 1)) with
      | none => rw [Disk.renameFile_of_none hsource, hfile]
      | some moved =>
        have hnext : rotation.aside (number + 1) ≠ rotation.aside (count + 2) :=
          aside_ne_aside hplaced (by omega)
        have hsame : rotation.aside (number + 1) ≠ rotation.aside (count + 1) :=
          aside_ne_aside hplaced (by omega)
        rw [Disk.file?_renameFile hsource, if_neg hnext, if_neg hsame, hfile]

/-! ### The file is put aside -/

/-- The disk after the file has become the first companion, before a new one is begun. -/
def vacated (rotation : Rotation) (disk : Disk) : Disk :=
  (rotation.shifted disk (rotation.kept - 1)).renameFile rotation.location (rotation.aside 1)

/-- The rotation with a new file, and the disk on which that has been begun. -/
def renewed (rotation : Rotation) (disk : Disk) : Rotation × Disk :=
  ({ rotation with file := some ((rotation.vacated disk).open' rotation.location).2 },
    ((rotation.vacated disk).open' rotation.location).1)

theorem directories_vacated (rotation : Rotation) (disk : Disk) :
    (rotation.vacated disk).directories = disk.directories := by
  rw [vacated, Disk.directories_renameFile, directories_shifted]

theorem directories_renewed (rotation : Rotation) (disk : Disk) :
    (rotation.renewed disk).2.directories = disk.directories := by
  rw [renewed, Disk.directories_open', directories_vacated]

theorem putAside_of_clear (hplaced : rotation.location ≠ []) (hkept : rotation.kept ≠ 0)
    (hfile : disk.isFile rotation.location) (hfree : disk.isDirectory rotation.location = false)
    (hclear : rotation.IsClear disk) :
    rotation.putAside disk = .ok (rotation.vacated disk) := by
  have hne : rotation.location ≠ rotation.aside 1 := (aside_ne hplaced 1).symm
  have hshift := shift_of_clear hplaced fun number (hnumber : number ≤ rotation.kept - 1) ↦
    hclear number (by omega)
  have hsame := Disk.isDirectory_of_directories_eq
    (directories_shifted rotation disk (rotation.kept - 1))
  have hfirst : (rotation.shifted disk (rotation.kept - 1)).isDirectory (rotation.aside 1) =
      false := by
    rw [hsame]
    exact hclear 0 (by omega)
  have hlocation : ((rotation.shifted disk (rotation.kept - 1)).unname
      (rotation.aside 1)).isDirectory rotation.location = false := by
    rw [Disk.isDirectory_unname, hsame, hfree]
  have hstill : (rotation.shifted disk (rotation.kept - 1)).isFile rotation.location := by
    rw [Disk.isFile, file?_shifted_of_ne fun number _ ↦ (aside_ne hplaced _).symm]
    exact hfile
  rw [putAside, if_neg hkept, hshift]
  simp only [bind, Except.bind, Disk.remove?_of_clear hfirst, pure, Except.pure]
  rw [Disk.rename_of_clear hlocation, Disk.renameFile_unname _ hne, if_pos hstill, vacated]

theorem rotate_of_clear (hplaced : rotation.location ≠ []) (hkept : rotation.kept ≠ 0)
    (hfile : disk.isFile rotation.location) (hroom : disk.hasRoom rotation.location)
    (hclear : rotation.IsClear disk) : rotation.rotate disk = rotation.renewed disk := by
  have hstill : (rotation.vacated disk).hasRoom rotation.location = true := by
    rwa [Disk.hasRoom_of_directories_eq (directories_vacated rotation disk)]
  rw [rotate, putAside_of_clear hplaced hkept hfile (Disk.isDirectory_of_hasRoom hroom) hclear]
  dsimp only
  rw [reopen, if_pos hstill]
  rfl

theorem isSound_vacated (hsound : disk.IsSound) (rotation : Rotation) :
    (rotation.vacated disk).IsSound :=
  (isSound_shifted hsound rotation _).renameFile _ _

theorem content_vacated (rotation : Rotation) (disk : Disk) (file : Nat) :
    (rotation.vacated disk).content file = disk.content file := by
  rw [vacated, Disk.content_renameFile, content_shifted]

theorem file?_vacated (hplaced : rotation.location ≠ [])
    (hleads : disk.file? rotation.location = some file) (other : Location) :
    (rotation.vacated disk).file? other =
      if other = rotation.aside 1 then some file
      else if other = rotation.location then none
      else (rotation.shifted disk (rotation.kept - 1)).file? other := by
  have hlocation : (rotation.shifted disk (rotation.kept - 1)).file? rotation.location =
      some file := by
    rw [file?_shifted_of_ne fun number _ ↦ (aside_ne hplaced _).symm, hleads]
  rw [vacated, Disk.file?_renameFile hlocation]

end Rotation

/-! ### What a rotation keeps -/

/-- The open file is the one under the name, which holds the growing segment, and the companions
hold the latest closed ones. -/
structure Rotation.Keeps (rotation : Rotation) (disk : Disk) (segments : Segments) : Prop where
  placed : rotation.location ≠ []
  sound : disk.IsSound
  room : disk.hasRoom rotation.location
  leads : rotation.file = disk.file? rotation.location
  current : disk.read? rotation.location = some segments.current
  closed : ∀ {number : Nat} {text : String}, number < rotation.kept →
    segments.closed[number]? = some text → disk.read? (rotation.aside (number + 1)) = some text

namespace Rotation

variable {rotation : Rotation} {disk : Disk} {segments : Segments} {line : String}
  {other : Location}

theorem not_covers_iff :
    ¬ segments.Covers rotation.location rotation.kept other ↔
      other ≠ rotation.location ∧
        (segments.closed ≠ [] → ∀ number < rotation.kept, other ≠ rotation.aside (number + 1)) := by
  simp only [Segments.Covers, not_or, not_and, not_exists, aside_eq]

theorem Keeps.exists_file (h : rotation.Keeps disk segments) :
    ∃ file, rotation.file = some file ∧ disk.file? rotation.location = some file ∧
      disk.content file = segments.current := by
  obtain ⟨file, hfile, hcontent⟩ := Disk.read?_eq_some_iff.mp h.current
  exact ⟨file, h.leads.trans hfile, hfile, hcontent⟩

/-! #### A new segment -/

theorem Keeps.rotate_eq (h : rotation.Keeps disk segments) (hkept : rotation.kept ≠ 0)
    (hclear : rotation.IsClear disk) : rotation.rotate disk = rotation.renewed disk := by
  obtain ⟨file, -, hfile, -⟩ := h.exists_file
  exact rotate_of_clear h.placed hkept (by rw [Disk.isFile, hfile]; rfl) h.room hclear

theorem Keeps.file?_vacated_self (h : rotation.Keeps disk segments) :
    (rotation.vacated disk).file? rotation.location = none := by
  obtain ⟨file, -, hfile, -⟩ := h.exists_file
  rw [file?_vacated h.placed hfile, if_neg (aside_ne h.placed 1).symm, if_pos rfl]

/-- Under every name but that of the file there is what was left there when it was vacated. -/
theorem read?_renewed_of_ne (hother : other ≠ rotation.location) :
    (rotation.renewed disk).2.read? other =
      ((rotation.vacated disk).file? other).map disk.content := by
  rw [renewed, Disk.read?_open', if_neg hother, Disk.read?, funext (content_vacated rotation disk)]

theorem file?_renewed_of_ne (hother : other ≠ rotation.location) :
    (rotation.renewed disk).2.file? other = (rotation.vacated disk).file? other := by
  rw [renewed, Disk.file?_open', if_neg hother]

/-- No other name is touched. -/
theorem Keeps.file?_vacated_of_ne (h : rotation.Keeps disk segments) (hkept : rotation.kept ≠ 0)
    (hother : other ≠ rotation.location)
    (haside : ∀ number < rotation.kept, other ≠ rotation.aside (number + 1)) :
    (rotation.vacated disk).file? other = disk.file? other := by
  obtain ⟨file, -, hfile, -⟩ := h.exists_file
  rw [file?_vacated h.placed hfile, if_neg (haside 0 (by omega)), if_neg hother,
    file?_shifted_of_ne fun number hnumber ↦ haside number (by omega)]

theorem Keeps.renewed (h : rotation.Keeps disk segments) :
    (rotation.renewed disk).1.Keeps (rotation.renewed disk).2
      ⟨segments.current :: segments.closed, ""⟩ where
  placed := h.placed
  sound := (isSound_vacated h.sound rotation).open' _
  room := by
    rw [Disk.hasRoom_of_directories_eq (directories_renewed rotation disk)]
    exact h.room
  leads := by
    rw [Rotation.renewed, Disk.file?_open', if_pos rfl]
  current := by
    rw [Rotation.renewed, Disk.read?_open', if_pos rfl, Disk.read?, h.file?_vacated_self]
    rfl
  closed {number text} hnumber htext := by
    obtain ⟨file, -, hfile, hcontent⟩ := h.exists_file
    have haside : (rotation.renewed disk).1.aside (number + 1) = rotation.aside (number + 1) := rfl
    rw [haside, read?_renewed_of_ne (aside_ne h.placed _), file?_vacated h.placed hfile]
    cases number with
    | zero =>
      obtain rfl : segments.current = text := Option.some.inj htext
      rw [if_pos rfl, Option.map_some, hcontent]
    | succ number =>
      have hbound : number + 1 < rotation.kept := hnumber
      have hfirst : rotation.aside (number + 2) ≠ rotation.aside 1 :=
        aside_ne_aside h.placed (by omega)
      obtain ⟨former, hformer, hkept⟩ := Disk.read?_eq_some_iff.mp
        (h.closed (show number < rotation.kept by omega) htext)
      rw [if_neg hfirst, if_neg (aside_ne h.placed _),
        file?_shifted h.placed (by omega) hformer, Option.map_some, hkept]

/-! #### One more line -/

theorem write_eq (rotation : Rotation) (disk : Disk) (line : String) :
    rotation.write disk line =
      ((rotation.ready disk line.length).1,
        (rotation.ready disk line.length).1.append (rotation.ready disk line.length).2 line) := rfl

theorem Keeps.isDue_eq (h : rotation.Keeps disk segments) (line : String) :
    rotation.isDue disk line.length = (decide (0 < rotation.limit) &&
      decide (rotation.limit ≤ ((segments.current.utf8ByteSize + line.length : Nat) : Int))) := by
  obtain ⟨file, hopen, -, hcontent⟩ := h.exists_file
  simp only [isDue, hopen, Disk.isDirectory_of_hasRoom h.room, Disk.size, hcontent, Bool.not_false,
    Bool.true_and]

/-- Before a line the file is put aside if it has to be. -/
theorem Keeps.ready_eq (h : rotation.Keeps disk segments) (hkept : rotation.kept ≠ 0)
    (hclear : (segments.add rotation.limit line).closed ≠ [] → rotation.IsClear disk) :
    rotation.ready disk line.length =
      if rotation.isDue disk line.length then rotation.renewed disk else (rotation, disk) := by
  obtain ⟨file, hopen, -, -⟩ := h.exists_file
  rw [Segments.add, ← h.isDue_eq] at hclear
  rw [ready, hopen]
  simp only [Option.isNone_some, Bool.false_eq_true, if_false]
  split_ifs at hclear ⊢ with hdue
  · exact h.rotate_eq hkept (hclear (List.cons_ne_nil _ _))
  · rfl

theorem Keeps.append (h : rotation.Keeps disk segments) (line : String) :
    rotation.Keeps (rotation.append disk line) ⟨segments.closed, segments.current ++ line⟩ := by
  obtain ⟨file, hopen, hfile, hcontent⟩ := h.exists_file
  rw [Rotation.append, hopen]
  refine ⟨h.placed, h.sound.append _ _, h.room, h.leads, ?_, fun {number text} hnumber htext ↦ ?_⟩
  · rw [Disk.read?_append h.sound hfile, if_pos rfl, hcontent]
  · rw [Disk.read?_append h.sound hfile, if_neg (aside_ne h.placed _)]
    exact h.closed hnumber htext

/-- Only the text under the name of the file grows. -/
theorem Keeps.append_of_ne (h : rotation.Keeps disk segments) (hother : other ≠ rotation.location)
    (line : String) :
    (rotation.append disk line).file? other = disk.file? other ∧
      (rotation.append disk line).read? other = disk.read? other := by
  obtain ⟨file, hopen, hfile, -⟩ := h.exists_file
  rw [Rotation.append, hopen, Disk.file?_append, Disk.read?_append h.sound hfile, if_neg hother]
  exact ⟨rfl, rfl⟩

theorem directories_append (rotation : Rotation) (disk : Disk) (line : String) :
    (rotation.append disk line).directories = disk.directories := by
  rw [Rotation.append]
  split <;> rfl

/-- A line goes to the growing segment or begins the next one. -/
theorem Keeps.write (h : rotation.Keeps disk segments) (hkept : rotation.kept ≠ 0)
    (hclear : (segments.add rotation.limit line).closed ≠ [] → rotation.IsClear disk) :
    (rotation.write disk line).1.Keeps (rotation.write disk line).2
      (segments.add rotation.limit line) := by
  rw [write_eq, h.ready_eq hkept hclear, Segments.add, ← h.isDue_eq]
  split_ifs
  · have happended := h.renewed.append line
    rwa [String.empty_append] at happended
  · exact h.append line

/-- Only the names that the segments cover are touched. -/
theorem Keeps.untouched (h : rotation.Keeps disk segments) (hkept : rotation.kept ≠ 0)
    (hclear : (segments.add rotation.limit line).closed ≠ [] → rotation.IsClear disk)
    (hother : ¬ (segments.add rotation.limit line).Covers rotation.location rotation.kept other) :
    (rotation.write disk line).2.file? other = disk.file? other ∧
      (rotation.write disk line).2.read? other = disk.read? other := by
  obtain ⟨hplace, haside⟩ := not_covers_iff.mp hother
  rw [write_eq, h.ready_eq hkept hclear]
  rw [Segments.add, ← h.isDue_eq] at haside
  split_ifs at haside ⊢
  · have hvacated := h.file?_vacated_of_ne hkept hplace (haside (List.cons_ne_nil _ _))
    obtain ⟨hfile, hread⟩ := h.renewed.append_of_ne hplace line
    rw [hfile, hread, file?_renewed_of_ne hplace, read?_renewed_of_ne hplace, hvacated, Disk.read?]
    exact ⟨rfl, rfl⟩
  · exact h.append_of_ne hplace line

theorem Keeps.directories_write (h : rotation.Keeps disk segments) (hkept : rotation.kept ≠ 0)
    (hclear : (segments.add rotation.limit line).closed ≠ [] → rotation.IsClear disk) :
    (rotation.write disk line).2.directories = disk.directories := by
  rw [write_eq, directories_append, h.ready_eq hkept hclear]
  split_ifs
  · exact directories_renewed rotation disk
  · rfl

/-- A rotation only gets another file. -/
theorem Keeps.write_fst (h : rotation.Keeps disk segments) (hkept : rotation.kept ≠ 0)
    (hclear : (segments.add rotation.limit line).closed ≠ [] → rotation.IsClear disk) :
    (rotation.write disk line).1 =
      { rotation with file := (rotation.write disk line).1.file } := by
  rw [write_eq, h.ready_eq hkept hclear]
  split_ifs <;> rfl

/-- What is kept stays kept where no covered name is touched. -/
theorem Keeps.of_untouched (h : rotation.Keeps disk segments) {later : Disk}
    (hsound : later.IsSound) (hroom : later.hasRoom rotation.location)
    (hsame : ∀ place, segments.Covers rotation.location rotation.kept place →
      later.file? place = disk.file? place ∧ later.read? place = disk.read? place) :
    rotation.Keeps later segments where
  placed := h.placed
  sound := hsound
  room := hroom
  leads := by
    rw [(hsame _ (segments.covers_self _ _)).1]
    exact h.leads
  current := by
    rw [(hsame _ (segments.covers_self _ _)).2]
    exact h.current
  closed {number text} hnumber htext := by
    have hclosed : segments.closed ≠ [] := fun hnil ↦ by simp [hnil] at htext
    rw [aside_eq, (hsame _ (.inr ⟨hclosed, number, hnumber, rfl⟩)).2]
    exact h.closed hnumber htext

end Rotation

end MountCensus.Log
