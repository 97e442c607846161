import Mathlib.Logic.Basic
import Mathlib.Tactic.SplitIfs
import MountCensus.Proofs.Enumeration.Rows

/-!
Listing the stores of a host whose two reports are given row by row. Whatever the spacing of the
rows, there is one store for each mount that is eligible and can be probed, in the order of the
mount table, with the columns of its row and the inodes of the last row of its volume
(`stores_of_rows`).
-/

set_option autoImplicit false

namespace MountCensus.Enumeration

open Text

/-- Whether a row of the mount table gives a store. -/
def isListed (policy : Policy) (localOnly : Bool) (probe : String → Capacity) (row : MountRow) :
    Bool :=
  policy.isEligible row.path.text row.volume.text row.type.text localOnly &&
    (probe row.path.text).reachable && decide (0 ≤ (probe row.path.text).total)

/-- The store of a row of the mount table. -/
def storeOf (policy : Policy) (probe : String → Capacity) (usageRows : List UsageRow)
    (row : MountRow) : Store where
  name := Store.displayName row.path.text row.volume.text
  volume := row.volume.text
  label := Store.displayName row.path.text row.volume.text
  mount := row.path.text
  options := row.options.text
  description :=
    Store.describe policy.networkTypes row.path.text row.volume.text row.type.text
  type := row.type.text
  freeSpace := (probe row.path.text).free
  usableSpace := (probe row.path.text).usable
  totalSpace := (probe row.path.text).total
  freeInodes := (inodesOf usageRows row.volume.text).freeInodes
  totalInodes := (inodesOf usageRows row.volume.text).totalInodes

/-- Joining a mount with the usage report and its capacity gives the store of its row. -/
theorem assemble_mount (policy : Policy) (probe : String → Capacity) (usageRows : List UsageRow)
    (row : MountRow) :
    Store.assemble policy.networkTypes (Usage.ofReport (usageRows.map UsageRow.line)) probe
        row.mount =
      if (probe row.path.text).reachable && decide (0 ≤ (probe row.path.text).total) then
        some (storeOf policy probe usageRows row)
      else none := by
  split_ifs with hprobe
  · rw [Bool.and_eq_true, decide_eq_true_eq] at hprobe
    have hreachable : ¬ (!(probe row.path.text).reachable ||
        decide ((probe row.path.text).total < 0)) = true := by
      simp [hprobe.1, hprobe.2]
    unfold Store.assemble storeOf
    simp only [← usageOf_ofReport, MountRow.mount]
    exact if_neg hreachable
  · refine Store.assemble_eq_none_iff.mpr ?_
    rw [Bool.and_eq_true, decide_eq_true_eq, not_and_or, Bool.not_eq_true, Int.not_le] at hprobe
    exact hprobe

theorem selects_mount (policy : Policy) (localOnly : Bool) (row : MountRow) :
    selects policy none localOnly row.mount =
      policy.isEligible row.path.text row.volume.text row.type.text localOnly :=
  selects_none policy localOnly row.mount

theorem storesOf_mounts (host : Host) (policy : Policy) (localOnly : Bool)
    (usageRows : List UsageRow) (mountRows : List MountRow) :
    storesOf host policy (usageRows.map UsageRow.line)
        ((mountRows.map MountRow.mount).filter (selects policy none localOnly)) =
      (mountRows.filter (isListed policy localOnly host.probe)).map
        (storeOf policy host.probe usageRows) := by
  unfold storesOf
  induction mountRows with
  | nil => rfl
  | cons row mountRows ih =>
    rw [List.map_cons, List.filter_cons, List.filter_cons, selects_mount]
    have hlisted : isListed policy localOnly host.probe row =
        (policy.isEligible row.path.text row.volume.text row.type.text localOnly &&
          ((host.probe row.path.text).reachable &&
            decide (0 ≤ (host.probe row.path.text).total))) := Bool.and_assoc _ _ _
    rw [hlisted]
    by_cases heligible :
        policy.isEligible row.path.text row.volume.text row.type.text localOnly = true
    · rw [if_pos heligible, heligible, Bool.true_and, List.filterMap_cons, assemble_mount, ih]
      split_ifs <;> rfl
    · rw [if_neg heligible, ih, if_neg (by simp [heligible])]

/-- A host whose reports are given row by row is listed as its rows say, and rows whose counts are
written in decimal say what they count. -/
theorem stores_of_rows {host : Host} {localOnly : Bool} {mountRows : List MountRow}
    {usageRows : List UsageRow}
    (hmounts : host.run Mount.tableCommand = .ok (mountRows.map MountRow.line))
    (husage : host.run (Usage.reportCommand localOnly) = .ok (usageRows.map UsageRow.line))
    (policy : Policy) :
    (stores host policy localOnly).result =
      .ok ((mountRows.filter (isListed policy localOnly host.probe)).map
        (storeOf policy host.probe usageRows)) ∧
    ∀ row ∈ usageRows, ∀ used free : Nat,
      row.used.text = toString used → row.free.text = toString free →
        (Nat.toDigits 10 used).length ≤ digitLimit → (Nat.toDigits 10 free).length ≤ digitLimit →
          row.usage = ⟨free, used + free⟩ := by
  constructor
  · simp only [stores, listing, husage, hmounts, MountRow.ofTable_lines, storesOf_mounts]
  · intro row _ used free hused hfree husedLimit hfreeLimit
    exact UsageRow.usage_of_decimal hused hfree ⟨husedLimit, hfreeLimit⟩

/-! ### Hosts -/

def oneSpace : Gap :=
  .ofChars [' '] (by decide) (by decide)

def rootMount : MountRow where
  node := none
  volume := ⟨.ofChars [' ', ' '] (by decide) (by decide),
    .ofChars "/dev/hd4".toList (by decide) (by decide)⟩
  path := ⟨oneSpace, .ofChars ['/'] (by decide) (by decide)⟩
  type := ⟨.ofChars ['\t', ' '] (by decide) (by decide),
    .ofChars "jfs2".toList (by decide) (by decide)⟩
  month := ⟨oneSpace, .ofChars "Jun".toList (by decide) (by decide)⟩
  day := ⟨oneSpace, .ofChars "16".toList (by decide) (by decide)⟩
  time := ⟨oneSpace, .ofChars "09:12".toList (by decide) (by decide)⟩
  options := ⟨oneSpace, .ofChars "rw".toList (by decide) (by decide)⟩
  more := []
  ending := []
  blank_ending := by simp

def rootUsage : UsageRow where
  device := .ofChars "/dev/hd4".toList (by decide) (by decide)
  blocks := ⟨oneSpace, .ofChars "1441792".toList (by decide) (by decide)⟩
  used := ⟨oneSpace, .ofChars "18137".toList (by decide) (by decide)⟩
  free := ⟨oneSpace, .ofChars "58071".toList (by decide) (by decide)⟩
  ending := []
  blank_ending := by simp

def rootHost : Host where
  run words :=
    .ok (if words = Mount.tableCommand then [rootMount.line] else [rootUsage.line])
  firstLine _ := .ok ""
  readLines _ := .ok []
  probe _ := { reachable := true, total := 4, free := 2, usable := 1 }

/-- A row with a node, whose volume is not the path of a device. -/
def shareMount : MountRow :=
  { rootMount with
    node := some (.ofChars "aix2".toList (by decide) (by decide))
    volume := ⟨oneSpace, .ofChars "share".toList (by decide) (by decide)⟩
    path := ⟨oneSpace, .ofChars "/mnt".toList (by decide) (by decide)⟩
    type := ⟨oneSpace, .ofChars "nfs3".toList (by decide) (by decide)⟩
    more := [⟨oneSpace, .ofChars "soft".toList (by decide) (by decide)⟩] }

/-- A row of a type that is left out. -/
def procMount : MountRow :=
  { rootMount with
    volume := ⟨oneSpace, .ofChars "/proc".toList (by decide) (by decide)⟩
    path := ⟨oneSpace, .ofChars "/proc".toList (by decide) (by decide)⟩
    type := ⟨oneSpace, .ofChars "procfs".toList (by decide) (by decide)⟩ }

/-- A row of the root's device before the last one. -/
def formerUsage : UsageRow :=
  { rootUsage with
    used := ⟨oneSpace, .ofChars "1".toList (by decide) (by decide)⟩
    free := ⟨oneSpace, .ofChars "2".toList (by decide) (by decide)⟩ }

def shareUsage : UsageRow :=
  { rootUsage with device := .ofChars "share".toList (by decide) (by decide) }

def sharingHost : Host :=
  { rootHost with
    run := fun words ↦
      if words = Mount.tableCommand then .ok ([rootMount, procMount, shareMount].map MountRow.line)
      else .ok ([formerUsage, shareUsage, rootUsage].map UsageRow.line) }

theorem stores_of_rows_of_sharing :
    [rootMount, procMount, shareMount].map MountRow.line = [
      "  /dev/hd4 /\t jfs2 Jun 16 09:12 rw", " /proc /proc procfs Jun 16 09:12 rw",
      "aix2 share /mnt nfs3 Jun 16 09:12 rw soft"] ∧
    [formerUsage, shareUsage, rootUsage].map UsageRow.line = [
      "/dev/hd4 1441792 1 2", "share 1441792 18137 58071", "/dev/hd4 1441792 18137 58071"] ∧
    sharingHost.run Mount.tableCommand =
      .ok ([rootMount, procMount, shareMount].map MountRow.line) ∧
    sharingHost.run (Usage.reportCommand false) =
      .ok ([formerUsage, shareUsage, rootUsage].map UsageRow.line) ∧
    rootUsage.usage = ⟨58071, 18137 + 58071⟩ ∧
    (stores sharingHost {} false).result = .ok [
      { name := "hd4", volume := "/dev/hd4", label := "hd4", mount := "/", options := "rw",
        description := "Local Disk", type := "jfs2", freeSpace := 2, usableSpace := 1,
        totalSpace := 4, freeInodes := 58071, totalInodes := 76208 },
      { name := "mnt", volume := "share", label := "mnt", mount := "/mnt", options := "rw",
        description := "Network Disk", type := "nfs3", freeSpace := 2, usableSpace := 1,
        totalSpace := 4, freeInodes := 0, totalInodes := 0 }] := by
  have hmounts : sharingHost.run Mount.tableCommand =
      .ok ([rootMount, procMount, shareMount].map MountRow.line) := rfl
  have husage : sharingHost.run (Usage.reportCommand false) =
      .ok ([formerUsage, shareUsage, rootUsage].map UsageRow.line) := rfl
  obtain ⟨hstores, hcounts⟩ := stores_of_rows hmounts husage {}
  have hcount : rootUsage.usage = ⟨58071, 18137 + 58071⟩ :=
    hcounts rootUsage (by simp) 18137 58071 rfl rfl (by decide) (by decide)
  refine ⟨by decide, by decide, hmounts, husage, hcount, ?_⟩
  rw [hstores]
  decide +kernel

end MountCensus.Enumeration
