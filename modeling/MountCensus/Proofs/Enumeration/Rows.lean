import Mathlib.Data.List.Basic
import Mathlib.Tactic.SplitIfs
import MountCensus.Enumeration
import MountCensus.Proofs.Text.Fields
import MountCensus.Proofs.Text.Integer

/-!
The rows of the two reports as they are printed, and what is read off them. A row of the mount table
gives its volume, path, type and first option back, with a node in front of them or without
(`MountRow.ofRow?_line`); a row of the usage report gives its device and its counts if the device is
the path of one (`UsageRow.ofRow?_line`), and of several rows for one device the last one counts
(`usageOf_ofReport`).
-/

set_option autoImplicit false

namespace MountCensus

open Text

/-! ### Rows of the mount table -/

/-- A row of the mount table. It begins with the name of a node or with the gap in front of the
volume; behind the options there may be more of them, and blanks. -/
structure MountRow where
  node : Option Word
  volume : Column
  path : Column
  type : Column
  month : Column
  day : Column
  time : Column
  options : Column
  more : List Column
  ending : List Char
  blank_ending : ∀ c ∈ ending, isBlank c = true

namespace MountRow

def columns (row : MountRow) : List Column :=
  row.volume :: row.path :: row.type :: row.month :: row.day :: row.time :: row.options :: row.more

def line (row : MountRow) : String :=
  String.ofList (row.node.elim [] Word.chars ++ spread row.columns row.ending)

/-- What a row says about its mount. -/
def mount (row : MountRow) : Mount :=
  ⟨row.volume.text, row.path.text, row.type.text, row.options.text⟩

/-- The first field of the marked line: the mark, and the node if there is one. -/
def marked (row : MountRow) : Word where
  chars := 'x' :: row.node.elim [] Word.chars
  nonempty := List.cons_ne_nil _ _
  solid := by
    refine List.forall_mem_cons.mpr ⟨by decide, ?_⟩
    cases row.node with
    | none => simp
    | some node => exact node.solid

theorem fields_marked (row : MountRow) :
    fields ('x' :: row.line.toList) = row.marked.chars :: row.columns.map (·.word.chars) := by
  have hline : 'x' :: row.line.toList = row.marked.chars ++ spread row.columns row.ending := by
    simp [line, marked]
  rw [hline, fields_word_spread row.marked row.columns row.blank_ending]

theorem ofRow?_line (row : MountRow) : Mount.ofRow? row.line = some row.mount := by
  rw [Mount.ofRow?, Mount.columns, fields_marked]
  rfl

theorem ofTable_lines (rows : List MountRow) :
    Mount.ofTable (rows.map line) = rows.map mount := by
  rw [Mount.ofTable, List.filterMap_map]
  exact List.filterMap_eq_map_iff_forall_eq_some.mpr fun row _ ↦ row.ofRow?_line

end MountRow

/-! ### Paths of devices -/

namespace Usage

/-- The path of a device, perhaps behind the name of a node and a colon. -/
def NamesDevice (text : List Char) : Prop :=
  ∃ node rest, text = node ++ '/' :: rest ∧
    (node = [] ∨ ∃ name, name ≠ [] ∧ (∀ c ∈ name, isNodeChar c = true) ∧ node = name ++ [':'])

theorem isDeviceRow_iff (text : List Char) : isDeviceRow text = true ↔ NamesDevice text := by
  have hcolon : isNodeChar ':' = false := by decide +kernel
  constructor
  · intro h
    unfold isDeviceRow at h
    split at h
    · rename_i rest
      exact ⟨[], rest, rfl, .inl rfl⟩
    · simp only [Bool.and_eq_true, Bool.not_eq_true', List.isEmpty_eq_false_iff,
        List.isPrefixOf_iff_prefix] at h
      obtain ⟨hname, rest, hrest⟩ := h
      refine ⟨text.takeWhile isNodeChar ++ [':'], rest, ?_, .inr ⟨_, hname, ?_, rfl⟩⟩
      · rw [List.append_assoc, List.singleton_append]
        calc text = text.takeWhile isNodeChar ++ text.dropWhile isNodeChar :=
              List.takeWhile_append_dropWhile.symm
          _ = _ := by rw [← hrest]; rfl
      · exact List.all_eq_true.mp List.all_takeWhile
  · rintro ⟨_, rest, rfl, rfl | ⟨name, hne, hname, rfl⟩⟩
    · rfl
    · have htake : (name ++ ':' :: '/' :: rest).takeWhile isNodeChar = name := by
        rw [List.takeWhile_append_of_pos hname]
        simp [hcolon]
      have hdrop : (name ++ ':' :: '/' :: rest).dropWhile isNodeChar = ':' :: '/' :: rest := by
        rw [List.dropWhile_append_of_pos hname]
        simp [hcolon]
      unfold isDeviceRow
      split
      · rfl
      · simp [htake, hdrop, hne]

theorem isBlank_of_isNodeChar {c : Char} (h : isNodeChar c = true) : isBlank c = false := by
  by_contra hblank
  rw [Bool.not_eq_false] at hblank
  have hdot : c ≠ '.' := by
    rintro rfl
    exact absurd hblank (by decide)
  simp [isNodeChar, isWordChar_of_isBlank hblank, hdot] at h

instance : DecidablePred NamesDevice :=
  fun text ↦ decidable_of_iff _ (isDeviceRow_iff text)

/-- Whether a row is one of a device shows in its first column. -/
theorem namesDevice_append {device rest : List Char} (hrest : BeginsBlank rest) :
    NamesDevice (device ++ rest) ↔ NamesDevice device := by
  constructor
  · rintro ⟨node, tail, htext, hnode⟩
    have hsolid : ∀ c ∈ node ++ ['/'], isBlank c = false := by
      intro c hc
      rcases List.mem_append.mp hc with hc | hc
      · rcases hnode with rfl | ⟨name, -, hname, rfl⟩
        · simp at hc
        · rcases List.mem_append.mp hc with hc | hc
          · exact isBlank_of_isNodeChar (hname c hc)
          · rw [List.mem_singleton.mp hc]
            decide
      · rw [List.mem_singleton.mp hc]
        decide
    have hprefix : device ++ rest = (node ++ ['/']) ++ tail := by rw [htext]; simp
    rcases List.append_eq_append_iff.mp hprefix with ⟨middle, hdevice, hmiddle⟩ | ⟨middle, h, -⟩
    · -- The slash would lie behind the first column, and so would not follow a node.
      cases middle with
      | nil =>
        rw [List.append_nil] at hdevice
        exact ⟨node, [], hdevice.symm, hnode⟩
      | cons c middle =>
        have hblank := hrest c (by rw [hmiddle]; rfl)
        have hc := hsolid c (by rw [hdevice]; simp)
        rw [hblank] at hc
        exact absurd hc (by simp)
    · exact ⟨node, middle, by rw [h]; simp, hnode⟩
  · rintro ⟨node, tail, rfl, hnode⟩
    exact ⟨node, tail ++ rest, by simp, hnode⟩

theorem isDeviceRow_append {device rest : List Char} (hrest : BeginsBlank rest) :
    isDeviceRow (device ++ rest) = isDeviceRow device := by
  rw [Bool.eq_iff_iff, isDeviceRow_iff, isDeviceRow_iff, namesDevice_append hrest]

end Usage

/-! ### Rows of the usage report -/

/-- A row of the usage report, which begins with its device. -/
structure UsageRow where
  device : Word
  blocks : Column
  used : Column
  free : Column
  ending : List Char
  blank_ending : ∀ c ∈ ending, isBlank c = true

namespace UsageRow

def columns (row : UsageRow) : List Column :=
  [row.blocks, row.used, row.free]

def line (row : UsageRow) : String :=
  String.ofList (row.device.chars ++ spread row.columns row.ending)

/-- The inodes that a row counts. -/
def usage (row : UsageRow) : Usage where
  freeInodes := integerOr 0 row.free.text
  totalInodes := integerOr 0 row.used.text + integerOr 0 row.free.text

theorem ofRow?_line (row : UsageRow) :
    Usage.ofRow? row.line =
      if Usage.isDeviceRow row.device.chars then some (row.device.text, row.usage) else none := by
  have hline : row.line.toList = row.device.chars ++ spread row.columns row.ending := by
    simp [line]
  have hcolumns : Usage.columns row.line =
      [row.device.text, row.blocks.text, row.used.text, row.free.text] := by
    rw [Usage.columns, hline, fields_word_spread row.device row.columns row.blank_ending]
    rfl
  rw [Usage.ofRow?, hline, Usage.isDeviceRow_append (beginsBlank_spread _ row.blank_ending),
    hcolumns]
  rfl

/-- The usage of a row whose counts are written in decimal. -/
theorem usage_of_decimal {row : UsageRow} {used free : Nat} (hused : row.used.text = toString used)
    (hfree : row.free.text = toString free)
    (hlimit : (Nat.toDigits 10 used).length ≤ digitLimit ∧
      (Nat.toDigits 10 free).length ≤ digitLimit) :
    row.usage = ⟨free, used + free⟩ := by
  unfold usage integerOr
  rw [hused, hfree, integer?_decimal hlimit.1, integer?_decimal hlimit.2]
  rfl

end UsageRow

/-! ### The last row of a device -/

/-- The last of the rows for a device. -/
def lastRow? (rows : List UsageRow) (device : String) : Option UsageRow :=
  rows.reverse.find? (·.device.text == device)

theorem Usage.Table.lookup_foldl_put (rows : List (String × Usage)) (device : String) :
    ∀ table : Usage.Table, (rows.foldl Usage.Table.put table).lookup device =
      (rows.reverse.lookup device).or (table.lookup device) := by
  induction rows with
  | nil => exact fun table ↦ rfl
  | cons row rows ih =>
    intro table
    obtain ⟨other, usage⟩ := row
    rw [List.foldl_cons, ih, List.reverse_cons, List.lookup_append, Option.or_assoc]
    congr 1
    by_cases hdevice : device = other
    · subst hdevice
      simp [Usage.Table.lookup_put_self]
    · have hne : (device == other) = false := by simpa using hdevice
      simp [Usage.Table.lookup_put_of_ne table usage hdevice, List.lookup_cons, hne]

/-- What the rows that are read off a report say about a device. -/
theorem lookup_readRows (rows : List UsageRow) (device : String) :
    (rows.filterMap fun row ↦ Usage.ofRow? row.line).lookup device =
      if Usage.isDeviceRow device.toList then
        (rows.find? (·.device.text == device)).map UsageRow.usage
      else none := by
  induction rows with
  | nil => simp
  | cons row rows ih =>
    rw [List.find?_cons]
    by_cases hdevice : row.device.text = device
    · have hchars : device.toList = row.device.chars := by rw [← hdevice]; exact String.toList_ofList
      rw [hchars] at ih ⊢
      by_cases hpath : Usage.isDeviceRow row.device.chars = true
      · have hread : Usage.ofRow? row.line = some (device, row.usage) := by
          rw [row.ofRow?_line, if_pos hpath, hdevice]
        simp [hread, hpath, hdevice]
      · have hread : Usage.ofRow? row.line = none := by rw [row.ofRow?_line, if_neg hpath]
        rw [if_neg hpath] at ih ⊢
        rw [List.filterMap_cons, hread]
        exact ih
    · have hrow : (row.device.text == device) = false := by simpa using hdevice
      have hkey : (device == row.device.text) = false := by simpa using Ne.symm hdevice
      rw [hrow, ← ih, List.filterMap_cons, row.ofRow?_line]
      by_cases hpath : Usage.isDeviceRow row.device.chars = true
      · simp [hpath, List.lookup_cons, hkey]
      · simp [hpath]

/-- The inodes of a volume: those of its last row, if it is the path of a device that has any. -/
def inodesOf (rows : List UsageRow) (volume : String) : Usage :=
  if Usage.NamesDevice volume.toList then
    ((lastRow? rows volume).map UsageRow.usage).getD Usage.unknown
  else Usage.unknown

theorem usageOf_ofReport (rows : List UsageRow) (volume : String) :
    (Usage.ofReport (rows.map UsageRow.line)).usageOf volume = inodesOf rows volume := by
  have hlookup : (Usage.ofReport (rows.map UsageRow.line)).lookup volume =
      (rows.reverse.filterMap fun row ↦ Usage.ofRow? row.line).lookup volume := by
    rw [Usage.ofReport, Usage.Table.lookup_foldl_put, List.filterMap_map, List.lookup_nil,
      Option.or_none, ← List.filterMap_reverse]
    rfl
  rw [Usage.Table.usageOf, hlookup, lookup_readRows, inodesOf, lastRow?]
  simp only [Usage.isDeviceRow_iff]
  split_ifs <;> rfl

end MountCensus
