import MountCensus.Proofs.Enumeration.Rows
import MountCensus.Proofs.Enumeration.Selection

/-!
Listings of a host as functions of its two reports. Stray lines may stand anywhere in them
(`Inserted.filterMap_eq`), rows of the usage report may change places unless they are about the same
device (`usageOf_swap`), and one part of the mount table is listed after the other
(`stores_of_tables`).
-/

set_option autoImplicit false

namespace MountCensus

/-! ### Lines without a row -/

/-- A list with further items inserted anywhere. -/
inductive Inserted {α : Type} (stray : α → Prop) : List α → List α → Prop
  | nil : Inserted stray [] []
  | keep (x : α) {xs ys : List α} : Inserted stray xs ys → Inserted stray (x :: xs) (x :: ys)
  | insert {y : α} {xs ys : List α} : stray y → Inserted stray xs ys → Inserted stray xs (y :: ys)

/-- What is read off no inserted item is read off the list as it was. -/
theorem Inserted.filterMap_eq {α β : Type} {stray : α → Prop} {f : α → Option β}
    (hstray : ∀ y, stray y → f y = none) {xs ys : List α} (h : Inserted stray xs ys) :
    ys.filterMap f = xs.filterMap f := by
  induction h with
  | nil => rfl
  | keep x _ ih => rw [List.filterMap_cons, List.filterMap_cons, ih]
  | insert hy _ ih => rw [List.filterMap_cons_none (hstray _ hy), ih]

/-- A line of the usage report that is not about a device or has too few columns. -/
def Usage.IsStray (line : String) : Prop :=
  ¬ Usage.NamesDevice line.toList ∨ (Usage.columns line).length < 3

/-- A line of the mount table with too few columns. -/
def Mount.IsStray (line : String) : Prop :=
  (Mount.columns line).length < 8

theorem Usage.ofColumns?_eq_none {columns : List String} (h : columns.length < 3) :
    Usage.ofColumns? columns = none := by
  rw [← List.length_reverse] at h
  unfold Usage.ofColumns?
  split
  · rename_i heq
    rw [heq] at h
    simp at h
    omega
  · rfl

theorem Usage.ofRow?_of_stray {line : String} (h : Usage.IsStray line) :
    Usage.ofRow? line = none := by
  unfold Usage.ofRow?
  rcases h with hdevice | hshort
  · rw [if_neg (fun hrow ↦ hdevice ((Usage.isDeviceRow_iff _).mp hrow))]
  · split
    · simp only [Usage.ofColumns?_eq_none hshort]
      split <;> simp_all
    · rfl

theorem Mount.ofRow?_of_stray {line : String} (h : Mount.IsStray line) :
    Mount.ofRow? line = none := by
  unfold Mount.ofRow?
  split
  · rename_i heq
    rw [Mount.IsStray, heq] at h
    simp at h
    omega
  · rfl

theorem Usage.ofReport_inserted {lines more : List String} (h : Inserted IsStray lines more) :
    Usage.ofReport more = Usage.ofReport lines := by
  rw [Usage.ofReport, Usage.ofReport, h.filterMap_eq fun _ ↦ Usage.ofRow?_of_stray]

theorem Mount.ofTable_inserted {lines more : List String} (h : Inserted IsStray lines more) :
    Mount.ofTable more = Mount.ofTable lines :=
  h.filterMap_eq fun _ ↦ Mount.ofRow?_of_stray

/-! ### Rows that change places -/

namespace Usage

/-- Lines that are not two rows about one device. -/
def Apart (first second : String) : Prop :=
  ∀ row ∈ ofRow? first, ∀ next ∈ ofRow? second, row.1 ≠ next.1

theorem lookup_ofReport (lines : List String) (device : String) :
    (ofReport lines).lookup device = (lines.reverse.filterMap ofRow?).lookup device := by
  rw [ofReport, Table.lookup_foldl_put, List.lookup_nil, Option.or_none, List.filterMap_reverse]

theorem lookup_swap {first second : String} (h : Apart first second) (device : String) :
    ([first, second].filterMap ofRow?).lookup device =
      ([second, first].filterMap ofRow?).lookup device := by
  rcases hfirst : ofRow? first with _ | ⟨name, usage⟩
  · simp only [List.filterMap_cons, hfirst, List.filterMap_nil]
  · rcases hsecond : ofRow? second with _ | ⟨other, otherUsage⟩
    · simp only [List.filterMap_cons, hsecond, List.filterMap_nil]
    · have hne : name ≠ other := h _ hfirst _ hsecond
      simp only [List.filterMap_cons, hfirst, hsecond, List.filterMap_nil, List.lookup_cons]
      by_cases hdevice : device = name
      · have hother : (device == other) = false := by simpa [hdevice] using hne
        rw [hother]
      · have hname : (device == name) = false := by simpa using hdevice
        rw [hname]

/-- The report with two of its neighbouring lines exchanged says the same about every volume. -/
theorem usageOf_swap {first second : String} (h : Apart first second) (before after : List String)
    (volume : String) :
    (ofReport (before ++ first :: second :: after)).usageOf volume =
      (ofReport (before ++ second :: first :: after)).usageOf volume := by
  have hreverse (line next : String) :
      (before ++ line :: next :: after).reverse =
        after.reverse ++ ([next, line] ++ before.reverse) := by simp
  rw [Table.usageOf, Table.usageOf, lookup_ofReport, lookup_ofReport, hreverse, hreverse,
    List.filterMap_append, List.filterMap_append, List.filterMap_append, List.filterMap_append,
    List.lookup_append, List.lookup_append, List.lookup_append, List.lookup_append, lookup_swap h]

end Usage

/-! ### Listings -/

namespace Enumeration

/-- The rows of a mount table that a full listing selects. -/
def selectedRows (policy : Policy) (localOnly : Bool) (mountLines : List String) : List Mount :=
  (Mount.ofTable mountLines).filter (selects policy none localOnly)

theorem stores_ofReports (usageLines mountLines : List String) (probe : String → Capacity)
    (policy : Policy) (localOnly : Bool) :
    stores (.ofReports usageLines mountLines probe) policy localOnly =
      ⟨.command (Usage.reportCommand localOnly) :: .command Mount.tableCommand ::
          (selectedRows policy localOnly mountLines).map (.probe ·.path),
        .ok ((selectedRows policy localOnly mountLines).filterMap
          (Store.assemble policy.networkTypes (Usage.ofReport usageLines) probe))⟩ := by
  rw [stores, listing_of_reports (Host.run_usageReport usageLines mountLines probe localOnly)
    (Host.run_mountTable usageLines mountLines probe)]
  rfl

theorem selectedRows_append (policy : Policy) (localOnly : Bool) (upper lower : List String) :
    selectedRows policy localOnly (upper ++ lower) =
      selectedRows policy localOnly upper ++ selectedRows policy localOnly lower := by
  rw [selectedRows, Mount.ofTable_append, List.filter_append]
  rfl

theorem probes_stores_ofReports (usageLines mountLines : List String) (probe : String → Capacity)
    (policy : Policy) (localOnly : Bool) :
    (stores (.ofReports usageLines mountLines probe) policy localOnly).probes =
      (selectedRows policy localOnly mountLines).map (·.path) := by
  rw [stores_ofReports, Answer.probes, List.filterMap_cons_none rfl, List.filterMap_cons_none rfl,
    List.filterMap_map]
  exact List.filterMap_eq_map_iff_forall_eq_some.mpr fun _ _ ↦ rfl

/-- What a store takes from the usage report is the usage of its volume. -/
theorem assemble_congr_usage {usage other : Usage.Table}
    (h : ∀ volume, usage.usageOf volume = other.usageOf volume) (networkTypes : List String)
    (probe : String → Capacity) :
    Store.assemble networkTypes usage probe = Store.assemble networkTypes other probe := by
  funext mount
  simp only [Store.assemble, h]

/-- A listing is made of its two reports row by row. Stray lines anywhere in them change nothing,
nor do two neighbouring lines of the usage report that are not about the same device when they
change places; and when the mount table has two parts, the stores of the first one are listed and
probed before those of the second one. -/
theorem stores_of_tables (policy : Policy) (localOnly : Bool) (probe : String → Capacity) :
    (∀ usageLines moreUsage mountLines moreMounts : List String,
      Inserted Usage.IsStray usageLines moreUsage → Inserted Mount.IsStray mountLines moreMounts →
        stores (.ofReports moreUsage moreMounts probe) policy localOnly =
          stores (.ofReports usageLines mountLines probe) policy localOnly) ∧
    (∀ (before after mountLines : List String) (first second : String),
      Usage.Apart first second →
        stores (.ofReports (before ++ first :: second :: after) mountLines probe) policy localOnly =
          stores (.ofReports (before ++ second :: first :: after) mountLines probe) policy
            localOnly) ∧
    ∀ usageLines upper lower : List String, ∃ few more : List Store,
      (stores (.ofReports usageLines upper probe) policy localOnly).result = .ok few ∧
      (stores (.ofReports usageLines lower probe) policy localOnly).result = .ok more ∧
      (stores (.ofReports usageLines (upper ++ lower) probe) policy localOnly).result =
        .ok (few ++ more) ∧
      (stores (.ofReports usageLines (upper ++ lower) probe) policy localOnly).probes =
        (stores (.ofReports usageLines upper probe) policy localOnly).probes ++
          (stores (.ofReports usageLines lower probe) policy localOnly).probes := by
  refine ⟨?_, ?_, ?_⟩
  · intro usageLines moreUsage mountLines moreMounts husage hmounts
    rw [stores_ofReports, stores_ofReports, Usage.ofReport_inserted husage, selectedRows,
      selectedRows, Mount.ofTable_inserted hmounts]
  · intro before after mountLines first second h
    rw [stores_ofReports, stores_ofReports,
      assemble_congr_usage (Usage.usageOf_swap h before after)]
  · intro usageLines upper lower
    have hstores (lines : List String) :
        (stores (.ofReports usageLines lines probe) policy localOnly).result =
          .ok ((selectedRows policy localOnly lines).filterMap
            (Store.assemble policy.networkTypes (Usage.ofReport usageLines) probe)) := by
      rw [stores_ofReports]
    refine ⟨_, _, hstores upper, hstores lower, ?_, ?_⟩
    · rw [hstores, selectedRows_append, List.filterMap_append]
    · simp only [probes_stores_ofReports, selectedRows_append, List.map_append]

/-! ### Reports with headers -/

def rootLine : String := "         /dev/hd4  /      jfs2   Jun 16 09:12 rw"
def homeLine : String := "foo      /dev/lv0  /home  jfs2   Jun 16 09:13 rw"
def rootCounts : String := "/dev/hd4  1441792  18137  58071"
def homeCounts : String := "/dev/lv0  5636096  44046  102455"

def roomy (_ : String) : Capacity :=
  { reachable := true, total := 4, free := 2, usable := 1 }

theorem stores_of_tables_of_headers :
    stores (.ofReports ["Filesystem    512-blocks     Iused    Ifree", rootCounts, "/proc  -"]
        ["-------- ---------------  ---------------", rootLine] roomy) {} false =
      stores (.ofReports [rootCounts] [rootLine] roomy) {} false ∧
    stores (.ofReports [rootCounts, homeCounts] [rootLine] roomy) {} true =
      stores (.ofReports [homeCounts, rootCounts] [rootLine] roomy) {} true ∧
    ∃ few more : List Store,
      (stores (.ofReports [rootCounts] [rootLine] roomy) {} false).result = .ok few ∧
      (stores (.ofReports [rootCounts] [homeLine] roomy) {} false).result = .ok more ∧
      (stores (.ofReports [rootCounts] [rootLine, homeLine] roomy) {} false).result =
        .ok (few ++ more) ∧
      (stores (.ofReports [rootCounts] [rootLine, homeLine] roomy) {} false).probes =
        ["/", "/home"] := by
  have htitles : Usage.IsStray "Filesystem    512-blocks     Iused    Ifree" :=
    .inl (by decide +kernel)
  have hshort : Usage.IsStray "/proc  -" := .inr (by decide +kernel)
  have hdashes : Mount.IsStray "-------- ---------------  ---------------" := by
    unfold Mount.IsStray
    decide +kernel
  have hroot : Usage.ofRow? rootCounts = some ("/dev/hd4", ⟨58071, 76208⟩) := by decide +kernel
  have hhome : Usage.ofRow? homeCounts = some ("/dev/lv0", ⟨102455, 146501⟩) := by decide +kernel
  have hapart : Usage.Apart rootCounts homeCounts := by
    rintro row hrow next hnext
    rw [hroot, Option.mem_some_iff] at hrow
    rw [hhome, Option.mem_some_iff] at hnext
    rw [← hrow, ← hnext]
    decide
  refine ⟨?_, ?_, ?_⟩
  · exact (stores_of_tables {} false roomy).1 _ _ _ _
      (.insert htitles (.keep _ (.insert hshort .nil))) (.insert hdashes (.keep _ .nil))
  · exact (stores_of_tables {} true roomy).2.1 [] [] _ _ _ hapart
  · obtain ⟨few, more, hfew, hmore, hboth, hprobes⟩ :=
      (stores_of_tables {} false roomy).2.2 [rootCounts] [rootLine] [homeLine]
    refine ⟨few, more, hfew, hmore, hboth, hprobes.trans ?_⟩
    rw [probes_stores_ofReports, probes_stores_ofReports]
    decide +kernel

end Enumeration

end MountCensus
