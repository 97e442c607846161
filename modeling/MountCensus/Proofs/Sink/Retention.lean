import MountCensus.Proofs.Log.Lines
import MountCensus.Proofs.Sink.JsonLines

/-!
How long a record stays in the files of a file sink. A file and its two numbered companions hold the
last three segments of what has been written to it (`files_keep_last_segments`), so a record is
there, as a line of its own, until its file has been put aside a third time after it was written.
Then it is missing, and so it is when another file is put aside of which its own is a companion, or
of which a companion has the name of the directory in which its own lies; no write fails for that
(`written_records_missing`).
-/

set_option autoImplicit false

namespace MountCensus.Sink

open Text

variable {Surroundings : Type}

/-- What has been written to a path once some records have gone there, in segments: a line that
would bring the file to its limit begins a new one. -/
def segmentsOf (start : World Surroundings) (path : String) (records : List Record) :
    Log.Segments :=
  Log.Segments.addAll sizeLimit ⟨[], textAt start path⟩ (records.map lineOf)

/-- How often a file has been put aside once some records have been written to it. -/
def timesPutAside (start : World Surroundings) (path : String) (records : List Record) : Nat :=
  (segmentsOf start path records).closed.length

/-- The file at a path and its companions, the latest first. -/
def kept (path : String) : List Location :=
  [.ofPath path, (Location.ofPath path).numbered 1, (Location.ofPath path).numbered 2]

theorem kept_succ {path : String} {number : Nat} {location : Location}
    (h : (kept path)[number + 1]? = some location) :
    number < keptCount ∧ location = (Location.ofPath path).numbered (number + 1) := by
  match number, h with
  | 0, h => exact ⟨by decide, (Option.some.inj h).symm⟩
  | 1, h => exact ⟨by decide, (Option.some.inj h).symm⟩

theorem segmentsOf_append_singleton (start : World Surroundings) (path : String)
    (records : List Record) (record : Record) :
    segmentsOf start path (records ++ [record]) =
      (segmentsOf start path records).add sizeLimit (lineOf record) := by
  rw [segmentsOf, List.map_append, Log.Segments.addAll_append]
  rfl

/-- Only before the first record may a file end within a line. -/
theorem isEnded_segmentsOf {start : World Surroundings} {path : String} {records : List Record}
    (h : records ≠ [] ∨ IsEnded (textAt start path)) :
    IsEnded (segmentsOf start path records).current := by
  rcases List.eq_nil_or_concat records with rfl | ⟨former, record, rfl⟩
  · exact h.resolve_left fun hne ↦ hne rfl
  · rw [List.concat_eq_append, segmentsOf_append_singleton]
    exact Log.Segments.isEnded_current_add sizeLimit _ _

/-- A record is a line of the segment that has since been followed by as many others as the file
has been put aside. -/
theorem exists_hasLine_segmentsOf {start : World Surroundings} {path : String}
    {earlier : List Record} (hended : earlier ≠ [] ∨ IsEnded (textAt start path)) (record : Record)
    (later : List Record) :
    ∃ closings text,
      timesPutAside start path (earlier ++ record :: later) =
        timesPutAside start path (earlier ++ [record]) + closings ∧
      (segmentsOf start path (earlier ++ record :: later)).texts[closings]? = some text ∧
      HasLine text (record.json.write Json.spaced) := by
  have hall : segmentsOf start path (earlier ++ record :: later) =
      (segmentsOf start path (earlier ++ [record])).addAll sizeLimit (later.map lineOf) := by
    rw [segmentsOf, segmentsOf, ← Log.Segments.addAll_append, ← List.map_append]
    simp
  have hline : HasLine (segmentsOf start path (earlier ++ [record])).current
      (record.json.write Json.spaced) := by
    rw [segmentsOf_append_singleton]
    exact Log.Segments.hasLine_current_add (isEnded_segmentsOf hended) sizeLimit _
  have hgrowing : (segmentsOf start path (earlier ++ [record])).texts[0]? =
      some (segmentsOf start path (earlier ++ [record])).current := rfl
  obtain ⟨closings, text, hlength, htext, hkept⟩ :=
    Log.Segments.exists_hasLine_addAll sizeLimit hgrowing hline (later.map lineOf)
  refine ⟨closings, text, ?_, ?_, hkept⟩
  · rw [timesPutAside, timesPutAside, hall, hlength]
  · rw [hall, ← htext, Nat.zero_add]

/-- What is found under the name of a path and those of its companions. -/
theorem Journaled.read?_kept {start world : World Surroundings} {paths : List String}
    {journal : Journal} (h : Journaled start paths journal world) {path : String}
    (hpath : path ∈ paths) {number : Nat} {text : String} {location : Location}
    (htext : (journal path).texts[number]? = some text)
    (hlocation : (kept path)[number]? = some location) :
    world.output.disk.read? location = some text := by
  obtain ⟨rotation, hopen, hkeeps⟩ := h.held path hpath
  match number, hlocation with
  | 0, hlocation =>
    obtain rfl : Location.ofPath path = location := Option.some.inj hlocation
    rw [← hopen.location, hkeeps.current]
    exact htext
  | number + 1, hlocation =>
    obtain ⟨hnumber, rfl⟩ := kept_succ hlocation
    have hclosed := hkeeps.closed (hopen.kept ▸ hnumber) htext
    rwa [Log.Rotation.aside_eq, hopen.location] at hclosed

theorem mem_kept_of_covers {journal : Journal} {path : String} {location : Location}
    (h : journal.Covers path location) : location ∈ kept path := by
  rcases h with rfl | ⟨-, number, hnumber, rfl⟩
  · exact .head _
  · match number, hnumber with
    | 0, _ => exact .tail _ (.head _)
    | 1, _ => exact .tail _ (.tail _ (.head _))

/-! ### Paths that keep out of each other's way -/

/-- Paths that lead to different files. No file that the writes put aside has a companion among
them, and no directory has the name of one. -/
structure FilePaths.AreSeparate (paths : FilePaths) (start opened : World Surroundings)
    (calls : List Call) : Prop where
  distinct : (paths.all.map Location.ofPath).Nodup
  alone : ∀ path ∈ paths.all, timesPutAside start path (recordsFor paths calls path) ≠ 0 →
    ∀ other ∈ paths.all, ∀ number < keptCount,
      Location.ofPath other ≠ (Location.ofPath path).numbered (number + 1)
  free : ∀ path ∈ paths.all, timesPutAside start path (recordsFor paths calls path) ≠ 0 →
    ∀ number < keptCount,
      opened.output.disk.isDirectory ((Location.ofPath path).numbered (number + 1)) = false

theorem FilePaths.AreSeparate.isApart {paths : FilePaths} {start opened : World Surroundings}
    {calls : List Call} (h : paths.AreSeparate start opened calls) :
    ((found start).after paths calls).IsApart paths.all opened.output.disk := by
  have htimes {path : String} (hclosed : ((found start).after paths calls path).closed ≠ []) :
      timesPutAside start path (recordsFor paths calls path) ≠ 0 :=
    fun hzero ↦ hclosed (List.length_eq_zero_iff.mp hzero)
  refine ⟨fun path hpath other hother hne location hlocation hsame ↦ ?_,
    fun path hpath location hne hlocation ↦ ?_⟩
  · rcases hlocation with rfl | ⟨hclosed, number, hnumber, rfl⟩ <;>
      rcases hsame with heq | ⟨hclosedToo, second, hsecond, heq⟩
    · exact ofPath_ne_of_nodup h.distinct hpath hother hne heq
    · exact h.alone other hother (htimes hclosedToo) path hpath second hsecond heq
    · exact h.alone path hpath (htimes hclosed) other hother number hnumber heq.symm
    · exact ofPath_ne_of_nodup h.distinct hpath hother hne
        (Location.numbered_inj (Location.ofPath_ne_nil path) (Location.ofPath_ne_nil other) heq).1
  · obtain ⟨hclosed, number, hnumber, rfl⟩ := hlocation.resolve_left hne
    exact h.free path hpath (htimes hclosed) number hnumber

/-! ### Large records -/

theorem length_le_length_intercalate (separator : String) {text : String} {texts : List String}
    (h : text ∈ texts) : text.length ≤ (separator.intercalate texts).length := by
  rw [← String.length_toList, ← String.length_toList, String.toList_intercalate]
  induction texts with
  | nil => exact absurd h (by simp)
  | cons first texts ih =>
    rw [List.map_cons]
    cases texts with
    | nil =>
      obtain rfl := List.mem_singleton.mp h
      exact Nat.le_of_eq (by rw [List.map_nil, List.intercalate_singleton])
    | cons second texts =>
      rw [List.map_cons, List.intercalate_cons_cons, ← List.map_cons, List.length_append,
        List.length_append]
      rcases List.mem_cons.mp h with rfl | h
      · omega
      · have := ih h
        omega

theorem writtenChar_ne_nil (c : Char) : Json.writtenChar c ≠ [] := by
  unfold Json.writtenChar Json.codeUnit
  split_ifs <;> exact List.cons_ne_nil _ _

/-- A text gets no shorter when it is written. -/
theorem length_le_length_writtenText (text : String) :
    text.length ≤ (Json.writtenText text).length := by
  have hchars (chars : List Char) : chars.length ≤ (chars.flatMap Json.writtenChar).length := by
    induction chars with
    | nil => exact Nat.le_refl 0
    | cons c chars ih =>
      have hpositive := List.length_pos_of_ne_nil (writtenChar_ne_nil c)
      rw [List.flatMap_cons, List.length_append, List.length_cons]
      omega
  have hlength := hchars text.toList
  rw [String.length_toList] at hlength
  rw [Json.writtenText, String.length_ofList, List.length_append, List.length_cons]
  omega

/-- The counts of a host with the given name. -/
def countsOf (hostname : String) : Record :=
  .descriptors ⟨hostname, 1, 2, 3⟩

theorem length_le_length_lineOf (hostname : String) :
    hostname.length ≤ (lineOf (countsOf hostname)).length := by
  obtain ⟨entries, hjson, hname⟩ : ∃ entries, (countsOf hostname).json = .object entries ∧
      (Json.writtenText "hostname" ++ ":" ++ Json.spaced.afterColon ++
        Json.writtenText hostname) ∈ Json.writeEntries Json.spaced entries := ⟨_, rfl, .head _⟩
  have hentry := length_le_length_intercalate ("," ++ Json.spaced.afterComma) hname
  have hwritten := length_le_length_writtenText hostname
  rw [lineOf, hjson, Json.write]
  simp only [String.length_append] at hentry ⊢
  omega

/-- Two small records, and one whose text alone reaches the limit of a file. -/
def firstUsage : Record := .usage ⟨1, 10⟩

def secondUsage : Record := .usage ⟨2, 10⟩

def largeCounts : Record := countsOf (String.ofList (List.replicate (1024 * 1024) 'a'))

theorem sizeLimit_le_largeCounts : sizeLimit ≤ ((lineOf largeCounts).length : Int) := by
  have hline := length_le_length_lineOf (String.ofList (List.replicate (1024 * 1024) 'a'))
  rw [String.length_ofList, List.length_replicate] at hline
  rw [largeCounts, sizeLimit]
  omega

theorem addAll_large {limit : Int} {first large : String} (hpositive : 0 < limit)
    (hfirst : (first.length : Int) < limit) (hlarge : limit ≤ (large.length : Int)) :
    Log.Segments.addAll limit ⟨[], ""⟩ [first, large] = ⟨[first], large⟩ := by
  have hadd : Log.Segments.add limit ⟨[], ""⟩ first = ⟨[], first⟩ := by
    rw [Log.Segments.add_of_lt (by simpa using hfirst), String.empty_append]
  rw [Log.Segments.addAll_cons, hadd, Log.Segments.addAll_cons,
    Log.Segments.add_of_le hpositive (by omega)]
  rfl

/-- When every second line is as long as the limit, each line after the first begins a segment. -/
theorem addAll_alternating {limit : Int} {first second large : String} (hpositive : 0 < limit)
    (hfirst : (first.length : Int) < limit) (hlarge : limit ≤ (large.length : Int)) :
    Log.Segments.addAll limit ⟨[], ""⟩ [first, large, second, large] =
      ⟨[second, large, first], large⟩ := by
  have hbytes := Log.Segments.length_le_utf8ByteSize large
  have hsplit : [first, large, second, large] = [first, large] ++ [second, large] := rfl
  rw [hsplit, Log.Segments.addAll_append, addAll_large hpositive hfirst hlarge,
    Log.Segments.addAll_cons, Log.Segments.add_of_le hpositive (by dsimp only; omega),
    Log.Segments.addAll_cons, Log.Segments.add_of_le hpositive (by omega)]
  rfl

/-- One file, and no file on the disk. -/
def lonePath : FilePaths where
  general := some "out"

def emptyWorld : World Unit where
  surroundings := ()

/-- Small and large records in turn. -/
def alternatingCall : Call :=
  ⟨⟨0, [firstUsage, largeCounts, secondUsage, largeCounts]⟩, {}⟩

theorem textAt_emptyWorld : textAt emptyWorld "out" = "" := by
  decide +kernel

theorem length_lineOf_firstUsage : ((lineOf firstUsage).length : Int) < sizeLimit := by
  decide +kernel

theorem segmentsOf_alternating :
    segmentsOf emptyWorld "out" alternatingCall.batch.records =
      ⟨[lineOf secondUsage, lineOf largeCounts, lineOf firstUsage], lineOf largeCounts⟩ := by
  rw [segmentsOf, textAt_emptyWorld]
  exact addAll_alternating (by decide) length_lineOf_firstUsage sizeLimit_le_largeCounts

theorem hasShortIntegers_countsOf (hostname : String) : (countsOf hostname).HasShortIntegers := by
  intro key n hmem
  have hvalue : n = 1 ∨ n = 2 ∨ n = 3 := by
    simp only [countsOf, Record.fields, List.mem_cons, Prod.mk.injEq, reduceCtorEq, and_false,
      Record.Field.int.injEq, List.not_mem_nil, or_false, false_or] at hmem
    exact hmem.imp And.right (Or.imp And.right And.right)
  rcases hvalue with rfl | rfl | rfl <;> decide

theorem hasShortIntegers_alternating :
    ∀ record ∈ alternatingCall.batch.records, record.HasShortIntegers := by
  have hfirst : firstUsage.HasShortIntegers := firstUsage.isWritable_iff.mp (by decide +kernel)
  have hsecond : secondUsage.HasShortIntegers := secondUsage.isWritable_iff.mp (by decide +kernel)
  have hlarge : largeCounts.HasShortIntegers := hasShortIntegers_countsOf _
  intro record hrecord
  rcases List.mem_cons.mp hrecord with rfl | hrecord
  · exact hfirst
  rcases List.mem_cons.mp hrecord with rfl | hrecord
  · exact hlarge
  rcases List.mem_cons.mp hrecord with rfl | hrecord
  · exact hsecond
  · rwa [List.mem_singleton.mp hrecord]

theorem eq_of_openFiles {paths : FilePaths} {sink : Sink Unit} {opened : World Unit}
    (h : (openFiles paths).outcome emptyWorld = (.ok sink, opened)) :
    opened = ((openFiles paths).outcome emptyWorld).2 := by
  rw [h]

theorem nodup_lonePath : (lonePath.all.map Location.ofPath).Nodup := by
  decide +kernel

theorem lonePath_areSeparate {start opened : World Surroundings} (hfree : ∀ number < keptCount,
    opened.output.disk.isDirectory ((Location.ofPath "out").numbered (number + 1)) = false)
    (calls : List Call) : lonePath.AreSeparate start opened calls where
  distinct := nodup_lonePath
  alone path hpath _ := by
    have hall : ∀ path ∈ lonePath.all, ∀ other ∈ lonePath.all, ∀ number < keptCount,
        Location.ofPath other ≠ (Location.ofPath path).numbered (number + 1) := by
      decide +kernel
    exact hall path hpath
  free path hpath _ := by
    obtain rfl := List.mem_singleton.mp hpath
    exact hfree

theorem exists_lonePath_opened :
    ∃ sink opened, (openFiles lonePath).outcome emptyWorld = (.ok sink, opened) ∧
      ∀ number < keptCount,
        opened.output.disk.isDirectory ((Location.ofPath "out").numbered (number + 1)) = false := by
  obtain ⟨sink, opened, hopening⟩ := Act.exists_outcome_eq_ok
    (show ((openFiles lonePath).outcome emptyWorld).1.isOk by decide +kernel)
  refine ⟨sink, opened, hopening, ?_⟩
  rw [eq_of_openFiles hopening]
  decide +kernel

/-! ### What is kept and what is lost -/

/-- The last three segments of a path are in its file and the two companions, and no line is left
out of the segments. So a record is a line of one of the three until its file has been put aside for
the third time since it was written. Only the first record may share its line with what the file
ended with before. -/
theorem files_keep_last_segments {paths : FilePaths} {start opened : World Surroundings}
    {sink : Sink Surroundings} (hsound : start.output.disk.IsSound)
    (hfresh : ∀ path ∈ paths.all, (start.loggers.get (fileLogger path)).handlers = [])
    (hopening : (openFiles paths).outcome start = (.ok sink, opened)) {calls : List Call}
    (hseparate : paths.AreSeparate start opened calls)
    (hshort : ∀ call ∈ calls, ∀ record ∈ call.batch.records, record.HasShortIntegers) :
    ∃ final, callAll sink calls opened = (calls.map (·.answer paths), final) ∧
      ∀ path ∈ paths.all,
        (segmentsOf start path (recordsFor paths calls path)).text =
          textAt start path ++ linesFor paths calls path ∧
        (∀ (number : Nat) (text : String) (location : Location),
          (segmentsOf start path (recordsFor paths calls path)).texts[number]? = some text →
          (kept path)[number]? = some location →
          final.output.disk.read? location = some text) ∧
        ∀ earlier record later, recordsFor paths calls path = earlier ++ record :: later →
          (earlier ≠ [] ∨ IsEnded (textAt start path)) →
          timesPutAside start path (recordsFor paths calls path) ≤
            timesPutAside start path (earlier ++ [record]) + 2 →
          ∃ location ∈ kept path, ∃ text, final.output.disk.read? location = some text ∧
            HasLine text (record.json.write Json.spaced) := by
  obtain ⟨rfl, hopened⟩ := journaled_openFiles hsound hfresh hseparate.distinct hopening
  obtain ⟨final, hcalls, hfinal⟩ :=
    journaled_calls hopened (isWritable_of_hasShortIntegers hshort) hseparate.isApart
  refine ⟨final, hcalls, fun path hpath ↦ ?_⟩
  have hthree (number : Nat) (text : String) (location : Location)
      (htext : (segmentsOf start path (recordsFor paths calls path)).texts[number]? = some text)
      (hlocation : (kept path)[number]? = some location) :
      final.output.disk.read? location = some text :=
    hfinal.read?_kept hpath htext hlocation
  refine ⟨?_, hthree, fun earlier record later hrecords hended htimes ↦ ?_⟩
  · rw [segmentsOf, Log.Segments.text_addAll]
    simp [Log.Segments.text, linesFor]
  · obtain ⟨closings, text, hlength, htext, hline⟩ :=
      exists_hasLine_segmentsOf hended record later
    rw [hrecords, hlength] at htimes
    have hplace : closings < (kept path).length := show closings < 3 by omega
    refine ⟨(kept path)[closings], List.getElem_mem hplace, text, ?_, hline⟩
    exact hthree closings text _ (hrecords ▸ htext) (List.getElem?_eq_getElem hplace)

/-- A large record is kept when two more segments have been begun after its own. -/
theorem files_keep_last_segments_of_alternating :
    ∃ sink opened final, (openFiles lonePath).outcome emptyWorld = (.ok sink, opened) ∧
      callAll sink [alternatingCall] opened = ([.ok ()], final) ∧
      ∃ location ∈ kept "out", ∃ text, final.output.disk.read? location = some text ∧
        HasLine text (largeCounts.json.write Json.spaced) := by
  obtain ⟨sink, opened, hopening, hfree⟩ := exists_lonePath_opened
  obtain ⟨final, hcalls, hkept⟩ := files_keep_last_segments Disk.isSound_empty
    (by decide +kernel) hopening (lonePath_areSeparate hfree _)
    (List.forall_mem_singleton.mpr hasShortIntegers_alternating)
  refine ⟨sink, opened, final, hopening, hcalls, ?_⟩
  have hall : recordsFor lonePath [alternatingCall] "out" = alternatingCall.batch.records :=
    List.append_nil _
  have htimes : timesPutAside emptyWorld "out" [firstUsage, largeCounts] = 1 := by
    rw [timesPutAside, segmentsOf, textAt_emptyWorld]
    exact congrArg (·.closed.length)
      (addAll_large (by decide) length_lineOf_firstUsage sizeLimit_le_largeCounts)
  refine (hkept "out" (by decide)).2.2 [firstUsage] largeCounts [secondUsage, largeCounts] hall
    (.inl (List.cons_ne_nil _ _)) ?_
  rw [hall, timesPutAside, segmentsOf_alternating, List.singleton_append, htimes]
  decide

theorem firstUsage_json_ne_countsOf (hostname : String) :
    firstUsage.json ≠ (countsOf hostname).json := by
  simp [firstUsage, countsOf, Record.json, Record.fields]

theorem firstUsage_json_ne_secondUsage : firstUsage.json ≠ secondUsage.json := by
  simp [firstUsage, secondUsage, Record.json, Record.fields, Record.Field.json]

theorem newline_not_mem_write (record : Record) :
    '\n' ∉ (record.json.write Json.spaced).toList := fun hmem ↦
  absurd (Json.isPlainText_write Json.spaced_isSpacing record.json _ hmem) (by decide)

/-- A line of another record is not this record's line. -/
theorem not_hasLine_lineOf {record other : Record} (hne : record.json ≠ other.json) :
    ¬ HasLine (lineOf other) (record.json.write Json.spaced) :=
  not_hasLine_of_unbroken (newline_not_mem_write other) fun heq ↦
    hne (Json.write_injective Json.spaced_isSpacing heq.symm)

/-- A record that has been written, and no write has failed, but it is a line neither of its file
nor of a companion. -/
def IsMissing (start : World Unit) (paths : FilePaths) (calls : List Call) (record : Record) :
    Prop :=
  ∃ sink opened final path, (openFiles paths).outcome start = (.ok sink, opened) ∧
    callAll sink calls opened = (calls.map fun _ ↦ .ok (), final) ∧
    record ∈ recordsFor paths calls path ∧
    ∀ location ∈ kept path, ∀ text, final.output.disk.read? location = some text →
      ¬ HasLine text (record.json.write Json.spaced)

theorem isMissing_of_put_aside_thrice :
    IsMissing emptyWorld lonePath [alternatingCall] firstUsage := by
  obtain ⟨sink, opened, hopening, hfree⟩ := exists_lonePath_opened
  obtain ⟨rfl, hopened⟩ := journaled_openFiles Disk.isSound_empty (by decide +kernel)
    nodup_lonePath hopening
  obtain ⟨final, hcalls, hfinal⟩ := journaled_calls hopened
    (isWritable_of_hasShortIntegers (List.forall_mem_singleton.mpr hasShortIntegers_alternating))
    (lonePath_areSeparate hfree _).isApart
  refine ⟨_, opened, final, "out", hopening, hcalls, by decide +kernel, ?_⟩
  intro location hlocation text htext
  have hlarge := not_hasLine_lineOf (firstUsage_json_ne_countsOf
    (String.ofList (List.replicate (1024 * 1024) 'a')))
  have hsecond := not_hasLine_lineOf firstUsage_json_ne_secondUsage
  have hsegments : (found emptyWorld).after lonePath [alternatingCall] "out" =
      ⟨[lineOf secondUsage, lineOf largeCounts, lineOf firstUsage], lineOf largeCounts⟩ :=
    segmentsOf_alternating
  obtain ⟨number, hnumber⟩ := List.mem_iff_getElem?.mp hlocation
  have hread {line : String} (h : [lineOf largeCounts, lineOf secondUsage, lineOf largeCounts,
      lineOf firstUsage][number]? = some line) : text = line := by
    have hplace : ((found emptyWorld).after lonePath [alternatingCall] "out").texts[number]? =
        some line := by
      rw [hsegments]
      exact h
    have hfound := hfinal.read?_kept (by decide) hplace hnumber
    rw [htext] at hfound
    exact Option.some.inj hfound
  match number, hnumber with
  | 0, _ => exact hread rfl ▸ hlarge
  | 1, _ => exact hread rfl ▸ hsecond
  | 2, _ => exact hread rfl ▸ hlarge

/-- Two paths, the second of them the first companion of the first. -/
def companionPaths : FilePaths where
  general := some "out"
  stores := some "out.1"

def storesCall : Call :=
  ⟨⟨0, [secondUsage]⟩, { identifier := some .fileStore }⟩

/-- Enough for a file to be put aside behind the first record. -/
def growingCall : Call :=
  ⟨⟨0, [firstUsage, largeCounts]⟩, {}⟩

/-- What is open now may be the start of a journal of its own. -/
theorem Journaled.restart {start world : World Surroundings} {paths fewer : List String}
    {journal : Journal} (h : Journaled start paths journal world)
    (hfewer : ∀ path ∈ fewer, path ∈ paths) : Journaled world fewer journal world where
  sound := h.sound
  held path hpath := h.held path (hfewer path hpath)
  elsewhere _ _ := rfl
  printed := rfl
  surroundings := rfl

/-- The journal after the record for the companion. -/
def companionJournal : Journal :=
  (found emptyWorld).addAll "out.1" ([secondUsage].map lineOf)

theorem companionJournal_addAll :
    companionJournal.addAll "out" ([firstUsage, largeCounts].map lineOf) "out" =
      ⟨[lineOf firstUsage], lineOf largeCounts⟩ := by
  have hempty : companionJournal "out" = ⟨[], ""⟩ := by
    rw [companionJournal, Journal.addAll_of_ne _ (by decide)]
    exact congrArg (Log.Segments.mk []) textAt_emptyWorld
  rw [Journal.addAll_self, hempty]
  exact addAll_large (by decide) length_lineOf_firstUsage sizeLimit_le_largeCounts

theorem isMissing_of_companion :
    IsMissing emptyWorld companionPaths [storesCall, growingCall] secondUsage := by
  obtain ⟨sink, opened, hopening⟩ : ∃ sink opened,
      (openFiles companionPaths).outcome emptyWorld = (.ok sink, opened) :=
    Act.exists_outcome_eq_ok (by decide +kernel)
  have hfree : ∀ location ∈ kept "out", opened.output.disk.isDirectory location = false := by
    rw [eq_of_openFiles hopening]
    decide +kernel
  have hdistinct : (companionPaths.all.map Location.ofPath).Nodup := by decide +kernel
  obtain ⟨rfl, hopened⟩ := journaled_openFiles Disk.isSound_empty (by decide +kernel) hdistinct
    hopening
  have hunclosed : ∀ path ∈ companionPaths.all, (companionJournal path).closed = [] := by
    decide +kernel
  have hsmall : ∀ record ∈ [secondUsage], record.isWritable := by decide +kernel
  have hlarge : ∀ record ∈ [firstUsage, largeCounts], record.isWritable :=
    List.forall_mem_cons.mpr ⟨by decide +kernel, List.forall_mem_singleton.mpr
      (largeCounts.isWritable_iff.mpr (hasShortIntegers_countsOf _))⟩
  obtain ⟨middle, hfirst, hsame, hmiddle⟩ := hopened.writeLines (show "out.1" ∈ _ by decide)
    hsmall (Journal.isApart_of_closed_nil hdistinct hunclosed _)
  -- From here on only the file that is put aside matters.
  have hlone := hmiddle.restart (List.forall_mem_singleton.mpr
    (show "out" ∈ companionPaths.all by decide))
  have hapart : (companionJournal.addAll "out" ([firstUsage, largeCounts].map lineOf)).IsApart
      ["out"] opened.output.disk := by
    refine ⟨fun path hpath other hother hne ↦ absurd
      ((List.mem_singleton.mp hpath).trans (List.mem_singleton.mp hother).symm) hne,
      fun path hpath location _ hlocation ↦ hfree location ?_⟩
    rw [← List.mem_singleton.mp hpath]
    exact mem_kept_of_covers hlocation
  obtain ⟨final, hsecond, -, hfinal⟩ := hlone.writeLines (List.mem_singleton.mpr rfl) hlarge
    (hapart.of_directories_eq hsame)
  refine ⟨_, opened, final, "out.1", hopening, ?_, by decide +kernel, ?_⟩
  · have hstores : Call.path? companionPaths storesCall = some "out.1" := rfl
    have hgeneral : Call.path? companionPaths growingCall = some "out" := rfl
    rw [callAll_cons_of_path? hstores hfirst, callAll_cons_of_path? hgeneral hsecond]
    rfl
  intro location hlocation text htext
  rcases List.mem_cons.mp hlocation with rfl | hcompanion
  · have hplace : (companionJournal.addAll "out"
        ([firstUsage, largeCounts].map lineOf) "out").texts[1]? = some (lineOf firstUsage) := by
      rw [companionJournal_addAll]
      rfl
    have hname : (kept "out")[1]? = some (.ofPath "out.1") := by decide +kernel
    have hread := hfinal.read?_kept (List.mem_singleton.mpr rfl) hplace hname
    rw [htext] at hread
    exact Option.some.inj hread ▸ not_hasLine_lineOf firstUsage_json_ne_secondUsage.symm
  · have hnames : ∀ location ∈ (kept "out.1").tail,
        location ∉ kept "out" ∧ ∀ path ∈ companionPaths.all, location ≠ .ofPath path := by
      decide +kernel
    obtain ⟨hout, hother⟩ := hnames location hcompanion
    rw [hfinal.elsewhere location (List.forall_mem_singleton.mpr fun hcovers ↦
        hout (mem_kept_of_covers hcovers)),
      hmiddle.elsewhere location fun path hpath hcovers ↦ hother path hpath
        ((Log.Segments.covers_iff_of_closed_nil (hunclosed path hpath)).mp hcovers)] at htext
    exact absurd htext (by simp [emptyWorld, Disk.read?, Disk.file?])

/-- Two paths, the second of them in a directory with the name of the first companion. -/
def housedPaths : FilePaths where
  general := some "out"
  stores := some "out.1/stores"

/-- A record large enough for its file to be put aside before it. -/
def largeCall : Call :=
  ⟨⟨0, [largeCounts]⟩, {}⟩

/-- The world in which the record lies in the directory. -/
def housedWorld : World Unit :=
  ((writeLines "out.1/stores" [secondUsage]).outcome
    ((openFiles housedPaths).outcome emptyWorld).2).2

def outRotation : Log.Rotation :=
  ⟨.ofPath "out", some 0, sizeLimit, keptCount⟩

theorem isOpen_housedWorld : IsOpen housedWorld.loggers "out" outRotation where
  logger := by decide +kernel
  location := rfl
  limit := rfl
  kept := rfl

/-- A line as long as the limit is never added to a file. -/
theorem isDue_of_limit_le {rotation : Log.Rotation} {disk : Disk} {file length : Nat}
    (hopen : rotation.file = some file) (hfree : disk.isDirectory rotation.location = false)
    (hpositive : 0 < rotation.limit) (hlimit : rotation.limit ≤ (length : Int)) :
    rotation.isDue disk length := by
  simp only [Log.Rotation.isDue, hopen, hfree, hpositive, decide_true, Bool.not_false,
    Bool.true_and, decide_eq_true_eq]
  omega

/-- Before such a line the file is put aside, whatever is in the way. -/
theorem writeLines_of_isDue {world : World Surroundings} {path : String} {rotation : Log.Rotation}
    {record : Record} (hopen : IsOpen world.loggers path rotation) (hwritable : record.isWritable)
    (hdue : rotation.isDue world.output.disk (lineOf record).length) :
    ∃ after, (writeLines path [record]).outcome world = (.ok (), after) ∧
      after.output.disk.file? = (rotation.rotate world.output.disk).2.file? := by
  refine ⟨_, by
    rw [writeLines_cons hwritable, Act.outcome_bind_ok (log_of_isOpen hopen _)]
    rfl, ?_⟩
  have hfile : rotation.file.isNone = false := by
    cases hfile : rotation.file with
    | none => simp [Log.Rotation.isDue, hfile] at hdue
    | some _ => rfl
  have hready : rotation.ready world.output.disk (lineOf record).length =
      rotation.rotate world.output.disk := by
    rw [Log.Rotation.ready, hfile]
    exact if_pos hdue
  change (rotation.write world.output.disk (lineOf record)).2.file? = _
  rw [Log.Rotation.write_eq, hready, Log.Rotation.append]
  split <;> rfl

/-- The directory is moved out of the way, and what lies in it is no longer where it was. -/
theorem isMissing_of_directory :
    IsMissing emptyWorld housedPaths [storesCall, largeCall] secondUsage := by
  obtain ⟨sink, opened, hopening⟩ : ∃ sink opened,
      (openFiles housedPaths).outcome emptyWorld = (.ok sink, opened) :=
    Act.exists_outcome_eq_ok (by decide +kernel)
  obtain ⟨rfl, -⟩ := openFiles_ok hopening
  have hopened := eq_of_openFiles hopening
  obtain ⟨_, middle, hfirst⟩ : ∃ done middle,
      (writeLines "out.1/stores" storesCall.batch.records).outcome opened = (.ok done, middle) :=
    Act.exists_outcome_eq_ok (by rw [hopened]; decide +kernel)
  have hmiddle : middle = housedWorld := by
    rw [housedWorld, ← hopened]
    exact (congrArg Prod.snd hfirst).symm
  rw [hmiddle] at hfirst
  have hdue : outRotation.isDue housedWorld.output.disk (lineOf largeCounts).length :=
    isDue_of_limit_le rfl (by decide +kernel) (by decide) sizeLimit_le_largeCounts
  obtain ⟨final, hsecond, hfinal⟩ := writeLines_of_isDue isOpen_housedWorld
    (largeCounts.isWritable_iff.mpr (hasShortIntegers_countsOf _)) hdue
  have hnone : ∀ location ∈ kept "out.1/stores",
      (outRotation.rotate housedWorld.output.disk).2.file? location = none := by
    decide +kernel
  have hstores : Call.path? housedPaths storesCall = some "out.1/stores" := rfl
  have hgeneral : Call.path? housedPaths largeCall = some "out" := rfl
  refine ⟨_, opened, final, "out.1/stores", hopening, ?_, by decide +kernel, ?_⟩
  · rw [callAll_cons_of_path? hstores hfirst, callAll_cons_of_path? hgeneral hsecond]
    rfl
  · intro location hlocation text htext
    rw [Disk.read?, hfinal, hnone location hlocation] at htext
    cases htext

/-- A world in which the file ends within a line. -/
def unendedWorld : World Unit where
  output := { disk := ({} : Disk).withFile "out" "former" }
  surroundings := ()

def smallCall : Call :=
  ⟨⟨0, [firstUsage]⟩, {}⟩

theorem isMissing_of_unended : IsMissing unendedWorld lonePath [smallCall] firstUsage := by
  obtain ⟨sink, opened, hopening⟩ : ∃ sink opened,
      (openFiles lonePath).outcome unendedWorld = (.ok sink, opened) :=
    Act.exists_outcome_eq_ok (by decide +kernel)
  obtain ⟨rfl, hopened⟩ := journaled_openFiles (Disk.isSound_empty.withFile "out" "former")
    (by decide +kernel) nodup_lonePath hopening
  have hwritable : ∀ call ∈ [smallCall], ∀ record ∈ call.batch.records, record.isWritable := by
    decide +kernel
  have hsegments : (found unendedWorld).after lonePath [smallCall] "out" =
      ⟨[], "former" ++ firstUsage.json.write Json.spaced ++ "\n"⟩ := by
    decide +kernel
  have hunclosed : ∀ path ∈ lonePath.all,
      ((found unendedWorld).after lonePath [smallCall] path).closed = [] :=
    List.forall_mem_singleton.mpr (by rw [hsegments])
  obtain ⟨final, hcalls, hfinal⟩ := journaled_calls hopened hwritable
    (Journal.isApart_of_closed_nil nodup_lonePath hunclosed _)
  refine ⟨_, opened, final, "out", hopening, hcalls, by decide +kernel, ?_⟩
  intro location hlocation text htext
  rcases List.mem_cons.mp hlocation with rfl | hcompanion
  · have hplace : ((found unendedWorld).after lonePath [smallCall] "out").texts[0]? =
        some ("former" ++ firstUsage.json.write Json.spaced ++ "\n") := by
      rw [hsegments]
      rfl
    have hread := hfinal.read?_kept (by decide) hplace rfl
    rw [htext] at hread
    exact Option.some.inj hread ▸ not_hasLine_of_unbroken (by decide +kernel) (by decide +kernel)
  · have hnames : ∀ location ∈ (kept "out").tail, location ≠ .ofPath "out" ∧
        unendedWorld.output.disk.read? location = none := by
      decide +kernel
    obtain ⟨hother, hnone⟩ := hnames location hcompanion
    rw [hfinal.elsewhere location (List.forall_mem_singleton.mpr fun hcovers ↦
      hother ((Log.Segments.covers_iff_of_closed_nil (by rw [hsegments])).mp hcovers)),
      hnone] at htext
    cases htext

/-- A record is not kept when its file is put aside three times, when the file of which its own is
a companion is put aside, when its file lies in a directory with the name of such a companion, or
when it is added to a line that has not been ended. -/
theorem written_records_missing :
    IsMissing emptyWorld lonePath [alternatingCall] firstUsage ∧
      IsMissing emptyWorld companionPaths [storesCall, growingCall] secondUsage ∧
      IsMissing emptyWorld housedPaths [storesCall, largeCall] secondUsage ∧
      IsMissing unendedWorld lonePath [smallCall] firstUsage :=
  ⟨isMissing_of_put_aside_thrice, isMissing_of_companion, isMissing_of_directory,
    isMissing_of_unended⟩

end MountCensus.Sink
