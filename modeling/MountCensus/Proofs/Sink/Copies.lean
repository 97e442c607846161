import MountCensus.Proofs.Sink.JsonLines

/-!
How often a file sink writes each record. The logger of a path is shared by all sinks of the program
and goes by the text of the path, and whenever a path is opened it gets one more handler. So a path
that several options give, or that a sink before has opened, is written to by several handlers, one
after the other: each record gives as many equal lines as the path has been opened
(`files_gain_copies`), and one line if it has been opened once. A file sink with one path for two
kinds of records writes each of them twice (`shared_path_ne`).
-/

set_option autoImplicit false

namespace MountCensus.Sink

open Log

variable {Surroundings : Type}

/-! ### Handlers of a path -/

/-- The logger of a path has got so many handlers, all of them at the file under the path, as long
as that has not been put aside. -/
inductive Serves (world : World Surroundings) (path : String) : Nat → Prop where
  | unopened : (world.loggers.get (fileLogger path)).handlers = [] → Serves world path 0
  | opened {count number : Nat} : world.output.disk.file? (.ofPath path) = some number →
      world.loggers.get (fileLogger path) =
        ⟨some .info, List.replicate (count + 1) (fileHandler path number), true⟩ →
      Serves world path (count + 1)

/-- A path stays as it is if its logger does, and if its file keeps its name. -/
theorem Serves.congr {world after : World Surroundings} {path : String} {count : Nat}
    (h : Serves world path count)
    (hlogger : after.loggers.get (fileLogger path) = world.loggers.get (fileLogger path))
    (hfile : ∀ number, world.output.disk.file? (.ofPath path) = some number →
      after.output.disk.file? (.ofPath path) = some number) : Serves after path count := by
  cases h with
  | unopened hhandlers => exact .unopened (hlogger ▸ hhandlers)
  | opened hnumber hget => exact .opened (hfile _ hnumber) (hlogger.trans hget)

/-- A path that has been opened has a file, and its handlers write to that. -/
theorem Serves.exists_file {world : World Surroundings} {path : String} {count : Nat}
    (h : Serves world path count) (hcount : count ≠ 0) :
    ∃ number, world.output.disk.file? (.ofPath path) = some number ∧
      world.loggers.get (fileLogger path) =
        ⟨some .info, List.replicate count (fileHandler path number), true⟩ := by
  cases h with
  | unopened _ => exact absurd rfl hcount
  | opened hnumber hlogger => exact ⟨_, hnumber, hlogger⟩

/-! ### Opening -/

/-- What opening some paths does: a file under each of them if there was none, and one more handler
for each time that a path is opened. -/
structure OpensAll (openings : List String) (start world : World Surroundings) : Prop where
  sound : world.output.disk.IsSound
  serves : ∀ {path count}, Serves start path count →
    Serves world path (count + openings.count path)
  texts : ∀ location, world.output.disk.read? location =
    if location ∈ openings.map Location.ofPath then
      some ((start.output.disk.read? location).getD "")
    else start.output.disk.read? location
  printed : world.output.printed = start.output.printed
  surroundings : world.surroundings = start.surroundings

section Opening

variable {start world after : World Surroundings} {path : String} {openings : List String}

theorem opensAll_nil (hsound : start.output.disk.IsSound) : OpensAll [] start start :=
  ⟨hsound, id, fun _ ↦ rfl, rfl, rfl⟩

theorem OpensAll.append {more : List String} (h : OpensAll openings start world)
    (hmore : OpensAll more world after) : OpensAll (openings ++ more) start after where
  sound := hmore.sound
  serves hserves := by
    rw [List.count_append, ← Nat.add_assoc]
    exact hmore.serves (h.serves hserves)
  texts location := by
    rw [hmore.texts, h.texts, List.map_append]
    by_cases hfirst : location ∈ openings.map Location.ofPath <;>
      by_cases hsecond : location ∈ more.map Location.ofPath <;>
      simp [hfirst, hsecond]
  printed := hmore.printed.trans h.printed
  surroundings := hmore.surroundings.trans h.surroundings

theorem opensAll_openFile (hsound : world.output.disk.IsSound)
    (h : (openFile path).outcome world = (.ok (), after)) : OpensAll [path] world after := by
  obtain ⟨made, hsame, -, rfl⟩ := openFile_ok h
  have hkept (location : Location) (number : Nat)
      (hnumber : world.output.disk.file? location = some number) :
      (made.open' (.ofPath path)).1.file? location = some number := by
    rw [← hsame.file?_eq] at hnumber
    rw [Disk.file?_open']
    split_ifs with heq
    · subst heq
      rw [Disk.open'_of_file? hnumber]
    · exact hnumber
  refine ⟨(hsame.isSound hsound).open' _, fun {other count} hserves ↦ ?_, fun location ↦ ?_,
    rfl, rfl⟩
  · by_cases hother : other = path
    · subst hother
      rw [List.count_singleton_self]
      have hnumber : (made.open' (.ofPath other)).1.file? (.ofPath other) =
          some (made.open' (.ofPath other)).2 := by
        rw [Disk.file?_open', if_pos rfl]
      have hget := get_setUp world.loggers (fileLogger other)
        (fileHandler other (made.open' (.ofPath other)).2)
      have hhandlers : (world.loggers.get (fileLogger other)).handlers =
          List.replicate count (fileHandler other (made.open' (.ofPath other)).2) := by
        cases hserves with
        | unopened hhandlers => exact hhandlers
        | opened hformer hlogger =>
          -- the file was there, so the new handler is like the ones before
          rw [hlogger, Option.some.inj (hnumber.symm.trans (hkept _ _ hformer))]
      rw [hhandlers, ← List.replicate_succ'] at hget
      exact .opened hnumber hget
    · -- another path may lead to the same file, but it has a logger of its own
      rw [List.count_singleton, if_neg (by simpa using Ne.symm hother), Nat.add_zero]
      refine hserves.congr ?_ (hkept _)
      have hname := properName_fileLogger_ne hother
      rw [Loggers.get_update_of_ne hname, Loggers.get_update_of_ne hname,
        Loggers.get_update_of_ne hname]
  · rw [Disk.read?_open', hsame.read?_eq]
    simp only [List.map_cons, List.map_nil, List.mem_singleton]
    split_ifs with heq
    · rw [heq]
    · rfl

theorem opensAll_forM_openFile (hsound : start.output.disk.IsSound)
    (h : (openings.forM openFile).outcome start = (.ok (), after)) :
    OpensAll openings start after := by
  induction openings generalizing start with
  | nil =>
    obtain rfl : start = after := congrArg Prod.snd h
    exact opensAll_nil hsound
  | cons path openings ih =>
    rw [forM_openFile_cons, Act.outcome_bind_eq_ok_iff] at h
    obtain ⟨_, middle, hopen, hrest⟩ := h
    have hfirst := opensAll_openFile hsound hopen
    exact hfirst.append (ih hfirst.sound hrest)

end Opening

/-! ### Writing -/

/-- A text for one location and nothing for all others. -/
def only (location : Location) (text : String) : Location → String :=
  fun other ↦ if other = location then text else ""

theorem only_self (location : Location) (text : String) : only location text location = text :=
  if_pos rfl

theorem only_append (location : Location) (text more : String) :
    (fun other ↦ only location text other ++ only location more other) =
      only location (text ++ more) := by
  funext other
  unfold only
  split_ifs <;> simp

/-- What is gained stands behind what was there, in the files that there are. -/
structure Extends (gained : Location → String) (disk later : Disk) : Prop where
  sound : later.IsSound
  names : later.file? = disk.file?
  texts : ∀ location, later.read? location = (disk.read? location).map (· ++ gained location)

section Extends

variable {gained more : Location → String} {disk middle later : Disk} {location : Location}
  {number : Nat}

theorem extends_nothing (hsound : disk.IsSound) (h : ∀ location, gained location = "") :
    Extends gained disk disk :=
  ⟨hsound, rfl, fun location ↦ by simp [h]⟩

theorem Extends.trans (h : Extends gained disk middle) (hmore : Extends more middle later) :
    Extends (fun location ↦ gained location ++ more location) disk later where
  sound := hmore.sound
  names := hmore.names.trans h.names
  texts location := by
    rw [hmore.texts, h.texts, Option.map_map]
    congr 1
    funext text
    exact String.append_assoc

theorem extends_append (hsound : disk.IsSound) (hnumber : disk.file? location = some number)
    (text : String) : Extends (only location text) disk (disk.append number text) where
  sound := hsound.append number text
  names := funext (disk.file?_append number text)
  texts other := by
    rw [Disk.read?_append hsound hnumber]
    split_ifs with hother
    · subst hother
      rw [Disk.read?_of_file? hnumber, only_self]
      rfl
    · simp [only, hother]

theorem Extends.getD_read? (h : Extends gained disk later)
    (hnumber : disk.file? location = some number) :
    (later.read? location).getD "" = (disk.read? location).getD "" ++ gained location := by
  rw [h.texts, Disk.read?_of_file? hnumber]
  rfl

end Extends

/-! ### Entries -/

section Entry

variable {path : String} {number : Nat}

theorem size_lt_of_append {text more : String} {bound : Nat}
    (h : (text ++ more).utf8ByteSize < bound) : text.utf8ByteSize < bound := by
  rw [String.utf8ByteSize_append] at h
  omega

/-- Below the limit, a handler appends its line. -/
theorem write_fileHandler {output : Output} {line : String}
    (hnumber : output.disk.file? (.ofPath path) = some number)
    (hsize : ((output.disk.read? (.ofPath path)).getD "" ++ line).utf8ByteSize < 1024 * 1024) :
    (fileHandler path number).write output line =
      (fileHandler path number, { output with disk := output.disk.append number line }) := by
  have hdue : (Rotation.mk (.ofPath path) (some number) sizeLimit keptCount).isDue output.disk
      line.length = false := by
    have hlength := Segments.length_le_utf8ByteSize line
    rw [Disk.read?_of_file? hnumber, Option.getD_some, String.utf8ByteSize_append] at hsize
    have hbelow : ¬ sizeLimit ≤ ((output.disk.size number + line.length : Nat) : Int) := by
      rw [sizeLimit, Disk.size]
      omega
    simp only [Rotation.isDue, decide_eq_false hbelow, Bool.and_false]
  simp only [fileHandler, Handler.write, Rotation.write, Rotation.ready, Rotation.append, hdue,
    Option.isNone_some, Bool.false_eq_true, if_false]

/-- The handlers of a path append the same line, one after the other. -/
theorem writeAll_fileHandlers {name line : String} {entry : Entry}
    (hline : (fileHandler path number).line name entry = line) (count : Nat) {output : Output}
    (hsound : output.disk.IsSound) (hnumber : output.disk.file? (.ofPath path) = some number)
    (hsize : ((output.disk.read? (.ofPath path)).getD "" ++
      String.join (List.replicate count line)).utf8ByteSize < 1024 * 1024) :
    ∃ disk, Loggers.writeAll name entry (List.replicate count (fileHandler path number)) output =
        (List.replicate count (fileHandler path number), { output with disk }) ∧
      Extends (only (.ofPath path) (String.join (List.replicate count line))) output.disk disk := by
  induction count generalizing output with
  | zero =>
    refine ⟨output.disk, rfl, extends_nothing hsound fun location ↦ ?_⟩
    rw [List.replicate_zero, String.join_nil, only, ite_self]
  | succ count ih =>
    -- the handlers behind the first find the text longer by its line
    rw [List.replicate_succ, String.join_cons, ← String.append_assoc] at hsize
    have hfirst := extends_append hsound hnumber line
    have hwrite := write_fileHandler hnumber (size_lt_of_append hsize)
    obtain ⟨disk, hwritten, hrest⟩ :=
      @ih { output with disk := output.disk.append number line } hfirst.sound hnumber (by
        rw [hfirst.getD_read? hnumber, only_self]
        exact hsize)
    refine ⟨disk, ?_, ?_⟩
    · rw [List.replicate_succ, Loggers.writeAll, hline, hwrite]
      simp only [hwritten]
    · rw [List.replicate_succ, String.join_cons, ← only_append]
      exact hfirst.trans hrest

end Entry

/-! ### Records -/

/-- What writing at the end of files does: what is gained stands behind what was there, and all
paths are served as before. -/
structure Gains (gained : Location → String) (world after : World Surroundings) : Prop where
  disk : Extends gained world.output.disk after.output.disk
  serves : ∀ {path count}, Serves world path count → Serves after path count
  printed : after.output.printed = world.output.printed
  surroundings : after.surroundings = world.surroundings

/-- The lines that a list of records makes when each is written by so many handlers. -/
def copiesOf (count : Nat) (records : List Record) : List String :=
  records.flatMap fun record ↦ List.replicate count (lineOf record)

section Records

variable {world middle after : World Surroundings} {gained more : Location → String}
  {path : String} {count : Nat}

theorem gains_nothing (hsound : world.output.disk.IsSound)
    (h : ∀ location, gained location = "") : Gains gained world world :=
  ⟨extends_nothing hsound h, id, rfl, rfl⟩

theorem Gains.trans (h : Gains gained world middle) (hmore : Gains more middle after) :
    Gains (fun location ↦ gained location ++ more location) world after where
  disk := h.disk.trans hmore.disk
  serves hserves := hmore.serves (h.serves hserves)
  printed := hmore.printed.trans h.printed
  surroundings := hmore.surroundings.trans h.surroundings

theorem Gains.textAt_eq (h : Gains gained world after) (hserves : Serves world path count)
    (hcount : count ≠ 0) :
    textAt after path = textAt world path ++ gained (.ofPath path) := by
  obtain ⟨number, hnumber, -⟩ := hserves.exists_file hcount
  exact h.disk.getD_read? hnumber

/-- An entry for a path is written by each of its handlers. -/
theorem log_of_serves (hsound : world.output.disk.IsSound) (h : Serves world path count)
    (hcount : count ≠ 0) {text : String} (hsize : (textAt world path ++
      String.join (List.replicate count (text ++ "\n"))).utf8ByteSize < 1024 * 1024) :
    ∃ after, (Program.log (fileLogger path) { level := .info, text }).outcome world =
        (.ok (), after) ∧
      Gains (only (.ofPath path) (String.join (List.replicate count (text ++ "\n"))))
        world after := by
  obtain ⟨number, hnumber, hlogger⟩ := h.exists_file hcount
  have hline : (fileHandler path number).line (fileLogger path) { level := .info, text } =
      text ++ "\n" := by
    simp [Handler.line, fileHandler]
  obtain ⟨disk, hwritten, hextends⟩ := writeAll_fileHandlers hline count hsound hnumber hsize
  refine ⟨{ world with
    loggers := world.loggers.update (fileLogger path)
      ({ · with handlers := List.replicate count (fileHandler path number) })
    output := { world.output with disk } }, ?_, hextends, fun {other _} hother ↦ ?_, rfl, rfl⟩
  · rw [log_fileLogger hlogger]
    simp only [hwritten]
  · -- nothing has been put aside, so the handlers are what they were
    refine hother.congr ?_ fun number hnumber ↦ ?_
    · by_cases heq : other = path
      · subst heq
        rw [Loggers.get_update_self, hlogger]
      · rw [Loggers.get_update_of_ne (properName_fileLogger_ne heq)]
    · rw [hextends.names]
      exact hnumber

/-- Each record of a list gives so many equal lines. -/
theorem writeLines_of_serves (hsound : world.output.disk.IsSound) (h : Serves world path count)
    (hcount : count ≠ 0) {records : List Record}
    (hwritable : ∀ record ∈ records, record.isWritable)
    (hsize : (textAt world path ++
      String.join (copiesOf count records)).utf8ByteSize < 1024 * 1024) :
    ∃ after, (writeLines path records).outcome world = (.ok (), after) ∧
      Gains (only (.ofPath path) (String.join (copiesOf count records))) world after := by
  induction records generalizing world with
  | nil =>
    refine ⟨world, rfl, gains_nothing hsound fun location ↦ ?_⟩
    rw [copiesOf, List.flatMap_nil, String.join_nil, only, ite_self]
  | cons record records ih =>
    obtain ⟨hrecord, hmore⟩ := List.forall_mem_cons.mp hwritable
    rw [copiesOf, List.flatMap_cons, String.join_append] at hsize ⊢
    rw [← String.append_assoc] at hsize
    obtain ⟨middle, hlog, hfirst⟩ := log_of_serves hsound h hcount (size_lt_of_append hsize)
    obtain ⟨after, hrest, hgains⟩ := ih hfirst.disk.sound (hfirst.serves h) hmore (by
      rw [hfirst.textAt_eq h hcount, only_self]
      exact hsize)
    refine ⟨after, ?_, ?_⟩
    · rw [writeLines_cons hrecord, Act.outcome_bind_ok hlog, hrest]
    · rw [← only_append]
      exact hfirst.trans hgains

end Records

/-! ### Calls -/

/-- The lines that a write adds to the file at a location when the path it goes to has so many
handlers. -/
def Call.copiesAt (counts : String → Nat) (paths : FilePaths) (location : Location) (call : Call) :
    List String :=
  match call.path? paths with
  | some path => if location = .ofPath path then copiesOf (counts path) call.batch.records else []
  | none => []

/-- The text that some writes add to the file at a location. -/
def copiesAt (counts : String → Nat) (paths : FilePaths) (calls : List Call) (location : Location) :
    String :=
  String.join (calls.flatMap (·.copiesAt counts paths location))

section Calls

variable {world : World Surroundings} {counts : String → Nat} {paths : FilePaths}

theorem copiesAt_cons (call : Call) (calls : List Call) (location : Location) :
    copiesAt counts paths (call :: calls) location =
      String.join (call.copiesAt counts paths location) ++
        copiesAt counts paths calls location := by
  rw [copiesAt, List.flatMap_cons, String.join_append]
  rfl

theorem join_copiesAt_of_path? {call : Call} {path : String} (h : call.path? paths = some path) :
    (fun location ↦ String.join (call.copiesAt counts paths location)) =
      only (.ofPath path) (String.join (copiesOf (counts path) call.batch.records)) := by
  funext location
  simp only [Call.copiesAt, h, only]
  split_ifs <;> rfl

/-- Where none of the paths leads, nothing is added. -/
theorem copiesAt_of_notMem {location : Location} (h : location ∉ paths.all.map Location.ofPath)
    (calls : List Call) : copiesAt counts paths calls location = "" := by
  have hcalls : ∀ call ∈ calls, call.copiesAt counts paths location = [] := fun call _ ↦ by
    cases hpath : call.path? paths with
    | none => simp only [Call.copiesAt, hpath]
    | some path =>
      have hne : location ≠ .ofPath path := by
        rintro rfl
        exact h (List.mem_map_of_mem (mem_all_of_path? hpath))
      simp only [Call.copiesAt, hpath, if_neg hne]
  rw [copiesAt, List.flatMap_eq_nil_iff.mpr hcalls, String.join_nil]

/-- One write gives its lines to the file of its path, or fails and changes nothing. -/
theorem gains_call (hsound : world.output.disk.IsSound)
    (hserves : ∀ path ∈ paths.all, Serves world path (counts path))
    (hcounts : ∀ path ∈ paths.all, counts path ≠ 0)
    {call : Call} (hwritable : ∀ record ∈ call.batch.records, record.isWritable)
    (hsize : ∀ path ∈ paths.all, (textAt world path ++
      String.join (call.copiesAt counts paths (.ofPath path))).utf8ByteSize < 1024 * 1024) :
    ∃ after, (file paths call.batch call.label).outcome world = (call.answer paths, after) ∧
      Gains (fun location ↦ String.join (call.copiesAt counts paths location)) world after := by
  cases hpath : call.path? paths with
  | none =>
    refine ⟨world, ?_, gains_nothing hsound fun location ↦ ?_⟩
    · rw [outcome_file_of_none hpath]
      simp [Call.answer, hpath]
    · simp [Call.copiesAt, hpath]
  | some path =>
    have hmem := mem_all_of_path? hpath
    have hcopies := @join_copiesAt_of_path? counts _ _ _ hpath
    have hroom := hsize path hmem
    rw [congrFun hcopies (.ofPath path), only_self] at hroom
    obtain ⟨after, hwrite, hgains⟩ :=
      writeLines_of_serves hsound (hserves path hmem) (hcounts path hmem) hwritable hroom
    refine ⟨after, ?_, hcopies ▸ hgains⟩
    rw [file_of_path? hpath, hwrite]
    simp [Call.answer, hpath]

theorem gains_calls (hsound : world.output.disk.IsSound)
    (hserves : ∀ path ∈ paths.all, Serves world path (counts path))
    (hcounts : ∀ path ∈ paths.all, counts path ≠ 0)
    {calls : List Call}
    (hwritable : ∀ call ∈ calls, ∀ record ∈ call.batch.records, record.isWritable)
    (hsize : ∀ path ∈ paths.all, (textAt world path ++
      copiesAt counts paths calls (.ofPath path)).utf8ByteSize < 1024 * 1024) :
    ∃ final, callAll (file paths) calls world = (calls.map (·.answer paths), final) ∧
      Gains (copiesAt counts paths calls) world final := by
  induction calls generalizing world with
  | nil => exact ⟨world, rfl, gains_nothing hsound fun _ ↦ String.join_nil⟩
  | cons call calls ih =>
    obtain ⟨hcall, hmore⟩ := List.forall_mem_cons.mp hwritable
    simp only [copiesAt_cons, ← String.append_assoc] at hsize
    obtain ⟨middle, hwrite, hfirst⟩ := gains_call hsound hserves hcounts hcall fun path hpath ↦
      size_lt_of_append (hsize path hpath)
    have hstill : ∀ path ∈ paths.all, Serves middle path (counts path) := fun path hpath ↦
      hfirst.serves (hserves path hpath)
    obtain ⟨final, hrest, hgains⟩ := ih hfirst.disk.sound hstill hmore fun path hpath ↦ by
      rw [hfirst.textAt_eq (hserves path hpath) (hcounts path hpath)]
      exact hsize path hpath
    refine ⟨final, ?_, ?_⟩
    · rw [callAll, hwrite]
      simp [hrest]
    · rw [funext (copiesAt_cons call calls)]
      exact hfirst.trans hgains

end Calls

/-! ### One line for each record -/

section Once

variable {counts : String → Nat} {paths : FilePaths}

theorem length_join_replicate (count : Nat) (text : String) :
    (String.join (List.replicate count text)).length = count * text.length := by
  rw [String.length_join, List.map_replicate, List.sum_replicate_nat]

theorem length_copiesOf (count : Nat) (records : List Record) :
    (String.join (copiesOf count records)).length =
      count * (String.join (copiesOf 1 records)).length := by
  induction records with
  | nil => simp [copiesOf]
  | cons record records ih =>
    simp only [copiesOf, List.flatMap_cons, String.join_append, String.length_append,
      length_join_replicate] at ih ⊢
    rw [ih, Nat.mul_add, Nat.one_mul]

theorem length_copiesOf_one_pos {records : List Record} (h : records ≠ []) :
    0 < (String.join (copiesOf 1 records)).length := by
  obtain ⟨record, more, rfl⟩ := List.exists_cons_of_ne_nil h
  have hline : (lineOf record).length = (record.json.write Json.spaced).length + 1 := by
    rw [lineOf, String.length_append]
    rfl
  rw [copiesOf, List.flatMap_cons, String.join_append, String.length_append, length_join_replicate,
    hline]
  omega

theorem length_copiesAt_call_le (hcounts : ∀ path ∈ paths.all, counts path ≠ 0) (call : Call)
    (location : Location) :
    (String.join (call.copiesAt (fun _ ↦ 1) paths location)).length ≤
      (String.join (call.copiesAt counts paths location)).length := by
  cases hpath : call.path? paths with
  | none => simp [Call.copiesAt, hpath]
  | some path =>
    simp only [Call.copiesAt, hpath]
    split_ifs
    · rw [length_copiesOf (counts path)]
      exact Nat.le_mul_of_pos_left _ (Nat.pos_of_ne_zero (hcounts path (mem_all_of_path? hpath)))
    · exact Nat.le_refl _

theorem length_copiesAt_le (hcounts : ∀ path ∈ paths.all, counts path ≠ 0) (calls : List Call)
    (location : Location) :
    (copiesAt (fun _ ↦ 1) paths calls location).length ≤
      (copiesAt counts paths calls location).length := by
  induction calls with
  | nil => exact Nat.le_refl _
  | cons call calls ih =>
    simp only [copiesAt_cons, String.length_append]
    exact Nat.add_le_add (length_copiesAt_call_le hcounts call location) ih

/-- If the writes together add no more than one line for each record, each of them does. -/
theorem length_copiesAt_call_eq (hcounts : ∀ path ∈ paths.all, counts path ≠ 0) {calls : List Call}
    {location : Location}
    (h : copiesAt counts paths calls location = copiesAt (fun _ ↦ 1) paths calls location) :
    ∀ call ∈ calls, (String.join (call.copiesAt counts paths location)).length =
      (String.join (call.copiesAt (fun _ ↦ 1) paths location)).length := by
  replace h := congrArg String.length h
  induction calls with
  | nil => simp
  | cons call calls ih =>
    have hcall := length_copiesAt_call_le hcounts call location
    have hmore := length_copiesAt_le hcounts calls location
    simp only [copiesAt_cons, String.length_append] at h
    exact List.forall_mem_cons.mpr ⟨by omega, ih (by omega)⟩

/-- The files gain one line for each record exactly if each path that is written to has one
handler. -/
theorem copiesAt_eq_once_iff (hcounts : ∀ path ∈ paths.all, counts path ≠ 0) {calls : List Call} :
    (∀ path ∈ paths.all, copiesAt counts paths calls (.ofPath path) =
        copiesAt (fun _ ↦ 1) paths calls (.ofPath path)) ↔
      ∀ call ∈ calls, ∀ path, call.path? paths = some path → call.batch.records ≠ [] →
        counts path = 1 := by
  constructor
  · -- no write can make up for the copies of another one
    intro h call hcall path hpath hrecords
    have hlength := length_copiesAt_call_eq hcounts (h path (mem_all_of_path? hpath)) call hcall
    simp only [Call.copiesAt, hpath, if_true] at hlength
    rw [length_copiesOf (counts path)] at hlength
    exact Nat.eq_of_mul_eq_mul_right (length_copiesOf_one_pos hrecords)
      (hlength.trans (Nat.one_mul _).symm)
  · intro h path _
    have hcalls : ∀ call ∈ calls, call.copiesAt counts paths (.ofPath path) =
        call.copiesAt (fun _ ↦ 1) paths (.ofPath path) := fun call hcall ↦ by
      cases hroute : call.path? paths with
      | none => simp only [Call.copiesAt, hroute]
      | some route =>
        by_cases hrecords : call.batch.records = []
        · simp only [Call.copiesAt, hroute, hrecords, copiesOf, List.flatMap_nil]
        · simp only [Call.copiesAt, hroute, h call hcall route hroute hrecords]
    rw [copiesAt, copiesAt, List.flatMap_congr hcalls]

end Once

/-! ### Main result -/

/-- How often the paths have been opened once a file sink has been made. -/
def timesOpened (former : String → Nat) (paths : FilePaths) (path : String) : Nat :=
  former path + paths.all.count path

/-- Below the limit, a file sink writes each record as many times as the path it goes to has been
opened, by this sink and by those before it: the copies stand one behind the other, in the order of
the writes, and no other file changes. So the files gain one line for each record exactly if each
path that is written to has been opened once. -/
theorem files_gain_copies {paths : FilePaths} {start opened : World Surroundings}
    {sink : Sink Surroundings} {former : String → Nat} (hsound : start.output.disk.IsSound)
    (hserves : ∀ path ∈ paths.all, Serves start path (former path))
    (hopening : (openFiles paths).outcome start = (.ok sink, opened)) {calls : List Call}
    (hshort : ∀ call ∈ calls, ∀ record ∈ call.batch.records, record.HasShortIntegers)
    (hsize : ∀ path ∈ paths.all, (textAt start path ++
      copiesAt (timesOpened former paths) paths calls (.ofPath path)).utf8ByteSize <
        1024 * 1024) :
    (∃ final, callAll sink calls opened = (calls.map (·.answer paths), final) ∧
      (∀ path ∈ paths.all, final.output.disk.read? (.ofPath path) = some (textAt start path ++
        copiesAt (timesOpened former paths) paths calls (.ofPath path))) ∧
      (∀ location ∉ paths.all.map Location.ofPath,
        final.output.disk.read? location = start.output.disk.read? location) ∧
      final.output.printed = start.output.printed ∧
      ∀ path count, Serves start path count → Serves final path (count + paths.all.count path)) ∧
    ((∀ path ∈ paths.all,
        copiesAt (timesOpened former paths) paths calls (.ofPath path) =
          copiesAt (fun _ ↦ 1) paths calls (.ofPath path)) ↔
      ∀ call ∈ calls, ∀ path, call.path? paths = some path → call.batch.records ≠ [] →
        timesOpened former paths path = 1) ∧
    ∀ record, ∃ line, lineOf record = line ++ "\n" ∧ IsLineOf record line := by
  obtain ⟨rfl, hall⟩ := openFiles_ok hopening
  have hopens := opensAll_forM_openFile hsound hall
  have hcounts : ∀ path ∈ paths.all, timesOpened former paths path ≠ 0 := fun path hpath ↦ by
    have hpositive := List.count_pos_iff.mpr hpath
    rw [timesOpened]
    omega
  have hopened : ∀ path ∈ paths.all, Serves opened path (timesOpened former paths path) :=
    fun path hpath ↦ hopens.serves (hserves path hpath)
  have htext : ∀ path ∈ paths.all, opened.output.disk.read? (.ofPath path) =
      some (textAt start path) := fun path hpath ↦ by
    rw [hopens.texts, if_pos (List.mem_map_of_mem hpath)]
    rfl
  refine ⟨?_, copiesAt_eq_once_iff hcounts, fun record ↦ ⟨_, rfl, isLineOf_write record⟩⟩
  obtain ⟨final, hcalls, hgains⟩ := gains_calls hopens.sound hopened hcounts
    (isWritable_of_hasShortIntegers hshort) fun path hpath ↦ by
      rw [textAt, htext path hpath]
      exact hsize path hpath
  refine ⟨final, hcalls, fun path hpath ↦ ?_, fun location hlocation ↦ ?_,
    hgains.printed.trans hopens.printed, fun path count h ↦ hgains.serves (hopens.serves h)⟩
  · rw [hgains.disk.texts, htext path hpath]
    rfl
  · rw [hgains.disk.texts, hopens.texts, if_neg hlocation, copiesAt_of_notMem hlocation]
    simp

/-- A path for two kinds of records, and another text that leads to the same file. -/
def sharedPaths : FilePaths where
  general := some "out"
  stores := some "out"
  descriptors := some "./out"

/-- A write of one record. -/
def usageCall : Call := ⟨⟨0, [.usage ⟨1, 10⟩]⟩, {}⟩

/-- A write for each of the three. -/
def sharedCalls : List Call := [
  usageCall,
  ⟨⟨0, [.usage ⟨2, 20⟩]⟩, { identifier := some .fileStore }⟩,
  ⟨⟨0, [.usage ⟨3, 30⟩]⟩, { identifier := some .fileDescriptors }⟩]

theorem exists_sharedPaths_opened :
    ∃ sink opened, (openFiles sharedPaths).outcome formerWorld = (.ok sink, opened) :=
  Act.exists_outcome_eq_ok (by decide +kernel)

theorem files_gain_copies_of_shared :
    ∃ sink opened final, (openFiles sharedPaths).outcome formerWorld = (.ok sink, opened) ∧
      callAll sink sharedCalls opened = ([.ok (), .ok (), .ok ()], final) ∧
      final.output.disk.read? [".", "out"] = some ("former\n" ++
        "\x7b\"inodes_free\": 1, \"inodes_total\": 10\x7d\n" ++
        "\x7b\"inodes_free\": 1, \"inodes_total\": 10\x7d\n" ++
        "\x7b\"inodes_free\": 2, \"inodes_total\": 20\x7d\n" ++
        "\x7b\"inodes_free\": 2, \"inodes_total\": 20\x7d\n" ++
        "\x7b\"inodes_free\": 3, \"inodes_total\": 30\x7d\n") := by
  obtain ⟨sink, opened, hopening⟩ := exists_sharedPaths_opened
  have hwritable : ∀ call ∈ sharedCalls, ∀ record ∈ call.batch.records, record.isWritable := by
    decide +kernel
  have hunopened : ∀ path ∈ sharedPaths.all, Serves formerWorld path ((fun _ ↦ 0) path) :=
    fun path _ ↦ .unopened rfl
  obtain ⟨⟨final, hcalls, hfiles, -⟩, -⟩ := files_gain_copies
    (Disk.isSound_empty.withFile "out" "former\n") hunopened hopening
    (fun call hcall record hrecord ↦ record.isWritable_iff.mp (hwritable call hcall record hrecord))
    (by decide +kernel)
  refine ⟨sink, opened, final, hopening, hcalls, ?_⟩
  refine (hfiles "out" (by decide)).trans (congrArg some ?_)
  decide +kernel

/-- The same path for two kinds of records. -/
def twoKinds : FilePaths where
  general := some "out"
  stores := some "out"

theorem exists_twoKinds_opened :
    ∃ sink opened, (openFiles twoKinds).outcome ({ surroundings := () } : World Unit) =
      (.ok sink, opened) :=
  Act.exists_outcome_eq_ok (by decide +kernel)

/-- With one path for two kinds of records, the file does not gain one line for each record. -/
theorem shared_path_ne :
    ∃ sink opened, (openFiles twoKinds).outcome ({ surroundings := () } : World Unit) =
        (.ok sink, opened) ∧
      (callAll sink [usageCall] opened).2.output.disk.read? (.ofPath "out") =
        some (lineOf (.usage ⟨1, 10⟩) ++ lineOf (.usage ⟨1, 10⟩)) ∧
      (callAll sink [usageCall] opened).2.output.disk.read? (.ofPath "out") ≠
        some (linesFor twoKinds [usageCall] "out") := by
  obtain ⟨sink, opened, hopening⟩ := exists_twoKinds_opened
  obtain ⟨rfl, -⟩ := openFiles_ok hopening
  have hopened : opened =
      ((openFiles twoKinds).outcome ({ surroundings := () } : World Unit)).2 := by
    rw [hopening]
  refine ⟨_, opened, hopening, ?_⟩
  rw [hopened]
  decide +kernel

end MountCensus.Sink
