import MountCensus.Proofs.Enumeration.Listing
import MountCensus.Proofs.Enumeration.Tables

/-!
The two lines above a mount table. The dashes have too few columns for a row, but the titles have as
many as a row without a node: they are read as a mount of the volume `node` at the path `mounted`
(`Header.ofTable_append`). Whether that mount is listed is up to the policy and to what the host
answers for its path. So a header changes the probes of a listing unless the policy or the name
keeps its mount out, and it changes the stores unless that is so or the path cannot be probed
(`listing_below_header`).
-/

set_option autoImplicit false

namespace MountCensus

open Text

/-! ### Headers -/

/-- A group of dashes, one more of them than the given number. -/
def Text.Word.dashes (more : Nat) : Word where
  chars := List.replicate (more + 1) '-'
  nonempty := by simp
  solid c hc := by
    rw [List.eq_of_mem_replicate hc]
    decide

/-- The titles of the columns, in any spacing and with blanks in front of them, and below them six
groups of dashes. -/
structure Header where
  titles : MountRow
  node_eq_none : titles.node = none
  texts_eq : titles.columns.map Column.text =
    ["node", "mounted", "mounted", "over", "vfs", "date", "options"]
  margin : List Char
  blank_margin : ∀ c ∈ margin, isBlank c = true
  firstDashes : Nat
  moreDashes : List (Gap × Nat)
  length_moreDashes : moreDashes.length = 5
  ending : List Char
  blank_ending : ∀ c ∈ ending, isBlank c = true

namespace Header

def dashColumns (header : Header) : List Column :=
  header.moreDashes.map fun (gap, more) ↦ ⟨gap, .dashes more⟩

def dashLine (header : Header) : String :=
  String.ofList (header.margin ++
    ((Word.dashes header.firstDashes).chars ++ spread header.dashColumns header.ending))

def lines (header : Header) : List String :=
  [header.titles.line, header.dashLine]

/-- What the titles say if they are taken for a row. -/
def mount : Mount :=
  ⟨"node", "mounted", "mounted", "options"⟩

theorem mount_titles (header : Header) : header.titles.mount = mount := by
  have htexts := header.texts_eq
  simp only [MountRow.columns, List.map_cons, List.cons.injEq] at htexts
  obtain ⟨hvolume, hpath, htype, -, -, -, hoptions, -⟩ := htexts
  rw [MountRow.mount, hvolume, hpath, htype, hoptions]
  rfl

/-- Six groups make seven columns at most: the mark in front of the line is a column of its own only
if there is a margin. -/
theorem isStray_dashLine (header : Header) : Mount.IsStray header.dashLine := by
  have hbelow := beginsBlank_spread header.dashColumns header.blank_ending
  have hgroups : (fields ((Word.dashes header.firstDashes).chars ++
      spread header.dashColumns header.ending)).length = 6 := by
    rw [fields_word_spread _ _ header.blank_ending, List.length_cons, List.length_map, dashColumns,
      List.length_map, header.length_moreDashes]
  rw [Mount.IsStray, Mount.columns, List.length_map, dashLine, String.toList_ofList]
  by_cases hmargin : header.margin = []
  · have hmarked : ∀ c ∈ 'x' :: (Word.dashes header.firstDashes).chars, isBlank c = false :=
      List.forall_mem_cons.mpr ⟨by decide, (Word.dashes header.firstDashes).solid⟩
    rw [hmargin, List.nil_append, ← List.cons_append,
      fields_solid_append (List.cons_ne_nil _ _) hmarked hbelow, List.length_cons,
      fields_spread _ header.blank_ending, List.length_map, dashColumns, List.length_map,
      header.length_moreDashes]
    decide
  · have hblank : BeginsBlank (header.margin ++ ((Word.dashes header.firstDashes).chars ++
        spread header.dashColumns header.ending)) := by
      intro c hc
      rw [List.head?_append_of_ne_nil _ hmargin] at hc
      exact header.blank_margin c (List.mem_of_mem_head? hc)
    have hmark : ∀ c ∈ ['x'], isBlank c = false := List.forall_mem_singleton.mpr rfl
    rw [← List.singleton_append, fields_solid_append (List.cons_ne_nil _ _) hmark hblank,
      fields_blanks_append header.blank_margin, List.length_cons, hgroups]
    decide

/-- A mount table with its header is read as one with a row more. -/
theorem ofTable_append (header : Header) (table : List String) :
    Mount.ofTable (header.lines ++ table) = mount :: Mount.ofTable table := by
  have htitles : Mount.ofRow? header.titles.line = some mount := by
    rw [header.titles.ofRow?_line, header.mount_titles]
  have hdashes : Mount.ofRow? header.dashLine = none :=
    Mount.ofRow?_of_stray header.isStray_dashLine
  rw [Mount.ofTable_append]
  simp only [lines, Mount.ofTable, List.filterMap_cons, htitles, hdashes, List.filterMap_nil,
    List.singleton_append]

end Header

/-! ### Listings below a header -/

/-- The host with another mount table. -/
def Host.withTable (host : Host) (lines : List String) : Host :=
  { host with run := fun words ↦ if words = Mount.tableCommand then .ok lines else host.run words }

theorem Host.run_withTable_table (host : Host) (lines : List String) :
    (host.withTable lines).run Mount.tableCommand = .ok lines := by
  simp only [withTable, if_pos]

theorem Host.run_withTable_report (host : Host) (lines : List String) (localOnly : Bool) :
    (host.withTable lines).run (Usage.reportCommand localOnly) =
      host.run (Usage.reportCommand localOnly) := by
  have hne : Usage.reportCommand localOnly ≠ Mount.tableCommand := by cases localOnly <;> decide
  simp only [withTable, if_neg hne]

namespace Enumeration

/-- Whether a listing takes the titles of a header for a mount. -/
def TakesTitles (policy : Policy) (name : Option String) (localOnly : Bool) : Prop :=
  policy.isEligible "mounted" "node" "mounted" localOnly = true ∧
    ∀ wanted ∈ name, wanted = "mounted"

theorem takesTitles_iff (policy : Policy) (name : Option String) (localOnly : Bool) :
    TakesTitles policy name localOnly ↔ selects policy name localOnly Header.mount = true := by
  have hname : Store.displayName Header.mount.path Header.mount.volume = "mounted" := by decide
  rw [selects, hname, Bool.and_eq_true, Option.all_eq_true]
  simp only [beq_iff_eq]
  rfl

instance (policy : Policy) (name : Option String) (localOnly : Bool) :
    Decidable (TakesTitles policy name localOnly) :=
  decidable_of_iff _ (takesTitles_iff policy name localOnly).symm

/-- The store that the titles of a header are taken for. -/
def titlesStore? (host : Host) (policy : Policy) (name : Option String) (localOnly : Bool)
    (usageLines : List String) : Option Store :=
  if TakesTitles policy name localOnly then
    Store.assemble policy.networkTypes (Usage.ofReport usageLines) host.probe Header.mount
  else none

theorem titlesStore?_eq_none_iff {host : Host} {policy : Policy} {name : Option String}
    {localOnly : Bool} {usageLines : List String} :
    titlesStore? host policy name localOnly usageLines = none ↔
      ¬ (TakesTitles policy name localOnly ∧ (host.probe "mounted").reachable = true ∧
        0 ≤ (host.probe "mounted").total) := by
  unfold titlesStore?
  split_ifs with htakes
  · rw [Store.assemble_eq_none_iff, ← Bool.not_eq_true, ← Int.not_le, ← not_and_or]
    simp only [htakes, true_and]
    rfl
  · simp only [htakes, false_and, not_false_eq_true]

/-- Below a header the titles are one mount more, in front, if they are taken at all. -/
theorem filter_ofTable_below (header : Header) (lines : List String) (policy : Policy)
    (name : Option String) (localOnly : Bool) :
    (Mount.ofTable (header.lines ++ lines)).filter (selects policy name localOnly) =
      (if TakesTitles policy name localOnly then [Header.mount] else []) ++
        (Mount.ofTable lines).filter (selects policy name localOnly) := by
  rw [header.ofTable_append, List.filter_cons]
  simp only [← takesTitles_iff]
  split_ifs <;> rfl

theorem storesOf_titles (host : Host) (policy : Policy) (name : Option String) (localOnly : Bool)
    (usageLines : List String) :
    storesOf host policy usageLines
        (if TakesTitles policy name localOnly then [Header.mount] else []) =
      (titlesStore? host policy name localOnly usageLines).toList := by
  unfold titlesStore? storesOf
  split_ifs
  · rw [List.filterMap_cons, List.filterMap_nil]
    cases Store.assemble policy.networkTypes (Usage.ofReport usageLines) host.probe Header.mount <;>
      rfl
  · rfl

theorem probes_listing_of_reports {host : Host} {localOnly : Bool}
    {usageLines mountLines : List String}
    (husage : host.run (Usage.reportCommand localOnly) = .ok usageLines)
    (hmounts : host.run Mount.tableCommand = .ok mountLines) (policy : Policy)
    (name : Option String) :
    (listing host policy name localOnly).probes =
      ((Mount.ofTable mountLines).filter (selects policy name localOnly)).map (·.path) := by
  rw [listing_of_reports husage hmounts, Answer.probes, List.filterMap_cons_none rfl,
    List.filterMap_cons_none rfl, List.filterMap_map]
  exact List.filterMap_eq_map_iff_forall_eq_some.mpr fun _ _ ↦ rfl

/-- Below a header a listing takes its titles for one mount more, whose path is probed before all
others and whose store comes first. The probes are those of the table without its header exactly if
the policy or the wanted name keeps that mount out, and the stores are so exactly if this is the
case or its path cannot be probed. Without a usage report nothing is read at all. -/
theorem listing_below_header (header : Header) (host : Host) (lines : List String)
    (policy : Policy) (name : Option String) (localOnly : Bool) :
    (∀ failure, host.run (Usage.reportCommand localOnly) = .error failure →
      listing (host.withTable (header.lines ++ lines)) policy name localOnly =
        listing (host.withTable lines) policy name localOnly) ∧
    ∀ usageLines, host.run (Usage.reportCommand localOnly) = .ok usageLines →
      ∃ stores : List Store,
        (listing (host.withTable lines) policy name localOnly).result = .ok stores ∧
        (listing (host.withTable (header.lines ++ lines)) policy name localOnly).result =
          .ok ((titlesStore? host policy name localOnly usageLines).toList ++ stores) ∧
        (listing (host.withTable (header.lines ++ lines)) policy name localOnly).probes =
          (if TakesTitles policy name localOnly then ["mounted"] else []) ++
            (listing (host.withTable lines) policy name localOnly).probes ∧
        ((listing (host.withTable (header.lines ++ lines)) policy name localOnly).probes =
            (listing (host.withTable lines) policy name localOnly).probes ↔
          ¬ TakesTitles policy name localOnly) ∧
        ((listing (host.withTable (header.lines ++ lines)) policy name localOnly).result =
            (listing (host.withTable lines) policy name localOnly).result ↔
          ¬ (TakesTitles policy name localOnly ∧ (host.probe "mounted").reachable = true ∧
            0 ≤ (host.probe "mounted").total)) := by
  constructor
  · intro failure hfails
    have hreport (lines : List String) :
        (host.withTable lines).run (Usage.reportCommand localOnly) = .error failure :=
      (host.run_withTable_report lines localOnly).trans hfails
    simp only [listing, hreport]
  intro usageLines husage
  have hreport (lines : List String) :
      (host.withTable lines).run (Usage.reportCommand localOnly) = .ok usageLines :=
    (host.run_withTable_report lines localOnly).trans husage
  have hlisting (lines : List String) :
      (listing (host.withTable lines) policy name localOnly).result =
        .ok (storesOf host policy usageLines
          ((Mount.ofTable lines).filter (selects policy name localOnly))) := by
    rw [listing_of_reports (hreport lines) (host.run_withTable_table lines)]
    rfl
  have hprobes (lines : List String) :
      (listing (host.withTable lines) policy name localOnly).probes =
        ((Mount.ofTable lines).filter (selects policy name localOnly)).map (·.path) :=
    probes_listing_of_reports (hreport lines) (host.run_withTable_table lines) policy name
  have hresult : (listing (host.withTable (header.lines ++ lines)) policy name localOnly).result =
      .ok ((titlesStore? host policy name localOnly usageLines).toList ++
        storesOf host policy usageLines
          ((Mount.ofTable lines).filter (selects policy name localOnly))) := by
    rw [hlisting, filter_ofTable_below, storesOf_append, storesOf_titles]
  have hpaths : (listing (host.withTable (header.lines ++ lines)) policy name localOnly).probes =
      (if TakesTitles policy name localOnly then ["mounted"] else []) ++
        (listing (host.withTable lines) policy name localOnly).probes := by
    rw [hprobes, hprobes, filter_ofTable_below, List.map_append]
    split_ifs <;> rfl
  refine ⟨_, hlisting lines, hresult, hpaths, ?_, ?_⟩
  · rw [hpaths, List.append_left_eq_self]
    simp
  · rw [hresult, hlisting lines, Except.ok.injEq, List.append_left_eq_self,
      Option.toList_eq_nil_iff, titlesStore?_eq_none_iff]

/-! ### The usual header -/

theorem blank_nil : ∀ c ∈ ([] : List Char), isBlank c = true := fun _ hc ↦ by cases hc

/-- A header as it is usually printed. -/
def usualHeader : Header where
  titles := {
    node := none
    volume := ⟨.ofChars "  ".toList (by decide) (by decide),
      .ofChars "node".toList (by decide) (by decide)⟩
    path := ⟨.ofChars "       ".toList (by decide) (by decide),
      .ofChars "mounted".toList (by decide) (by decide)⟩
    type := ⟨.ofChars "        ".toList (by decide) (by decide),
      .ofChars "mounted".toList (by decide) (by decide)⟩
    month := ⟨oneSpace, .ofChars "over".toList (by decide) (by decide)⟩
    day := ⟨.ofChars "    ".toList (by decide) (by decide),
      .ofChars "vfs".toList (by decide) (by decide)⟩
    time := ⟨.ofChars "       ".toList (by decide) (by decide),
      .ofChars "date".toList (by decide) (by decide)⟩
    options := ⟨.ofChars "        ".toList (by decide) (by decide),
      .ofChars "options".toList (by decide) (by decide)⟩
    more := []
    ending := []
    blank_ending := blank_nil }
  node_eq_none := rfl
  texts_eq := by decide
  margin := []
  blank_margin := blank_nil
  firstDashes := 7
  moreDashes := [(oneSpace, 14), (oneSpace, 14), (oneSpace, 5), (oneSpace, 11), (oneSpace, 14)]
  length_moreDashes := rfl
  ending := []
  blank_ending := blank_nil

example : usualHeader.lines =
    ["  node       mounted        mounted over    vfs       date        options",
      "-------- --------------- --------------- ------ ------------ ---------------"] := by decide

/-- A host on which no command can be run. -/
def mute : Host :=
  { rootHost with run := fun _ ↦ .error ⟨.runtime, "mount: not found"⟩ }

theorem listing_below_header_of_usual :
    listing (mute.withTable (usualHeader.lines ++ [rootLine])) {} none false =
      listing (mute.withTable [rootLine]) {} none false ∧
    rootHost.run (Usage.reportCommand false) = .ok [rootUsage.line] ∧
    ¬ TakesTitles {} (some "hd4") false ∧ TakesTitles {} none false ∧
    (listing (rootHost.withTable (usualHeader.lines ++ [rootLine])) {} (some "hd4") false).probes =
      (listing (rootHost.withTable [rootLine]) {} (some "hd4") false).probes ∧
    (listing (rootHost.withTable (usualHeader.lines ++ [rootLine])) {} (some "hd4") false).result =
      (listing (rootHost.withTable [rootLine]) {} (some "hd4") false).result ∧
    (listing (rootHost.withTable (usualHeader.lines ++ [rootLine])) {} none false).probes =
      ["mounted", "/"] := by
  have husage : rootHost.run (Usage.reportCommand false) = .ok [rootUsage.line] := rfl
  have hother : ¬ TakesTitles {} (some "hd4") false := by decide +kernel
  have hany : TakesTitles {} none false := by decide +kernel
  obtain ⟨-, -, -, -, hprobes, hresult⟩ :=
    (listing_below_header usualHeader rootHost [rootLine] {} (some "hd4") false).2 _ husage
  obtain ⟨-, -, -, hall, -, -⟩ :=
    (listing_below_header usualHeader rootHost [rootLine] {} none false).2 _ husage
  refine ⟨(listing_below_header usualHeader mute [rootLine] {} none false).1 _ rfl, husage, hother,
    hany, hprobes.mpr hother, hresult.mpr fun h ↦ hother h.1, ?_⟩
  rw [hall, if_pos hany]
  decide +kernel

/-- The path is a relative one, but nothing keeps a host from answering for it. -/
theorem listing_below_header_ne :
    (listing (rootHost.withTable usualHeader.lines) {} none false).probes ≠
        (listing (rootHost.withTable []) {} none false).probes ∧
      (listing (rootHost.withTable usualHeader.lines) {} none false).result ≠
        (listing (rootHost.withTable []) {} none false).result := by
  decide +kernel

end Enumeration

end MountCensus
