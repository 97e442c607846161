import Mathlib.Logic.Function.Basic
import Mathlib.Tactic.SplitIfs
import MountCensus.Proofs.Act
import MountCensus.Proofs.Json.Plain
import MountCensus.Proofs.Log.Isolated
import MountCensus.Proofs.Log.Rotation
import MountCensus.Sink.Shipped

/-!
What the files of a file sink hold. A journal gives for each path the segments of what has been
written there. Opening the files begins a journal with the texts found in them
(`journaled_openFiles`), and a write adds the lines of its records to the segments of the path they
are routed to and touches nothing else (`journaled_calls`): not the files of the sink's other paths,
whatever their names, not what has been printed, and no other name on the disk.
-/

set_option autoImplicit false

namespace MountCensus.Sink

open Log

variable {Surroundings : Type}

/-- The size to which a file may grow. -/
def sizeLimit : Int := 1048576

/-- How many numbered companions of a file are kept. -/
def keptCount : Nat := 2

/-! ### Journals -/

/-- The logger of a path writes to the path's file alone, and nothing but the text of an entry. -/
structure IsOpen (loggers : Loggers) (path : String) (rotation : Rotation) : Prop where
  logger : loggers.get (fileLogger path) = ⟨some .info, [⟨.file rotation, false⟩], true⟩
  location : rotation.location = .ofPath path
  limit : rotation.limit = sizeLimit
  kept : rotation.kept = keptCount

abbrev Journal := String → Segments

/-- The names under which the texts of a path may be found. -/
def Journal.Covers (journal : Journal) (path : String) (location : Location) : Prop :=
  (journal path).Covers (.ofPath path) keptCount location

/-- No name belongs to two paths, and none of a companion to a directory. -/
structure Journal.IsApart (journal : Journal) (paths : List String) (disk : Disk) : Prop where
  names : ∀ path ∈ paths, ∀ other ∈ paths, path ≠ other →
    ∀ location, journal.Covers path location → ¬ journal.Covers other location
  free : ∀ path ∈ paths, ∀ location ≠ Location.ofPath path, journal.Covers path location →
    disk.isDirectory location = false

/-- The world at the start of a journal and the world now: the paths are open and hold what the
journal says, and nothing else has changed. -/
structure Journaled (start : World Surroundings) (paths : List String) (journal : Journal)
    (world : World Surroundings) : Prop where
  sound : world.output.disk.IsSound
  held : ∀ path ∈ paths, ∃ rotation,
    IsOpen world.loggers path rotation ∧ rotation.Keeps world.output.disk (journal path)
  elsewhere : ∀ location, (∀ path ∈ paths, ¬ journal.Covers path location) →
    world.output.disk.read? location = start.output.disk.read? location
  printed : world.output.printed = start.output.printed
  surroundings : world.surroundings = start.surroundings

/-- The journal that begins with what is found in the files. -/
def found (start : World Surroundings) : Journal :=
  fun path ↦ ⟨[], (start.output.disk.read? (.ofPath path)).getD ""⟩

theorem properName_fileLogger (path : String) : properName (fileLogger path) = fileLogger path := by
  have hname : (fileLogger path).isEmpty = false := by
    simp [fileLogger]
  rw [properName, hname]
  rfl

theorem properName_fileLogger_ne {path other : String} (h : path ≠ other) :
    properName (fileLogger path) ≠ properName (fileLogger other) := by
  rw [properName_fileLogger, properName_fileLogger, fileLogger, fileLogger]
  intro heq
  have hchars : (home ++ ".file").toList ++ path.toList =
      (home ++ ".file").toList ++ other.toList := by
    rw [← String.toList_append, ← String.toList_append, heq]
  exact h (String.toList_inj.mp (List.append_cancel_left hchars))

/-! ### Opening a file -/

/-- The directory of a file is made, the file is opened, and nothing else happens to the disk. -/
theorem handler_ok {setup : Setup} {output after : Output} {handler : Handler}
    (hfile : setup.onConsole = false) (h : setup.handler output = (.ok handler, after)) :
    ∃ made, output.disk.SameFiles made ∧ made.hasRoom (.ofPath setup.path) ∧
      handler = ⟨.file ⟨.ofPath setup.path, some (made.open' (.ofPath setup.path)).2, setup.limit,
        setup.kept.toNat⟩, setup.detailed⟩ ∧
      after = { output with disk := (made.open' (.ofPath setup.path)).1 } := by
  rw [Setup.handler, hfile] at h
  simp only [Bool.false_eq_true, if_false] at h
  cases hmade : output.disk.makeDirectories
      (if (directoryOf setup.path).isEmpty then "." else directoryOf setup.path) with
  | error failure =>
    rw [hmade] at h
    exact absurd (congrArg Prod.fst h) (by simp)
  | ok made =>
    rw [hmade] at h
    refine ⟨made, Disk.sameFiles_makeDirectories hmade, ?_⟩
    simp only [Disk.openAtEnd] at h
    split_ifs at h with _ hroom <;>
      simp only [Prod.mk.injEq, Except.ok.injEq, reduceCtorEq, false_and] at h
    exact ⟨hroom, h.1.symm, h.2.symm⟩

/-- A logger that could be set up has the level asked for and one more handler. -/
theorem apply_ok {setup : Setup} {loggers later : Loggers} {output after : Output}
    (h : setup.apply loggers output = (.ok (), later, after)) :
    ∃ handler, setup.handler output = (.ok handler, after) ∧
      later = (loggers.update setup.name ({ · with level := some setup.level })).update setup.name
        fun logger ↦ { logger with handlers := logger.handlers ++ [handler] } := by
  rw [Setup.apply] at h
  rcases hhandler : setup.handler output with ⟨failure | handler, final⟩
  · rw [hhandler] at h
    exact absurd (congrArg Prod.fst h) (by simp)
  · rw [hhandler] at h
    simp only [Prod.mk.injEq, true_and] at h
    obtain ⟨rfl, rfl⟩ := h
    exact ⟨handler, rfl, rfl⟩

/-- What opening the file at a path does to a world. -/
structure Opens (path : String) (world after : World Surroundings) : Prop where
  opened : ∃ rotation, IsOpen after.loggers path rotation ∧
    rotation.Keeps after.output.disk (found world path)
  files : ∀ location ≠ .ofPath path,
    after.output.disk.file? location = world.output.disk.file? location
  texts : ∀ location ≠ .ofPath path,
    after.output.disk.read? location = world.output.disk.read? location
  rooms : ∀ {location}, world.output.disk.isFile location → world.output.disk.hasRoom location →
    after.output.disk.hasRoom location
  loggers : ∀ name, properName name ≠ fileLogger path →
    after.loggers.get name = world.loggers.get name
  printed : after.output.printed = world.output.printed
  surroundings : after.surroundings = world.surroundings

/-- How the logger of a path is set up. -/
def fileSetup (path : String) : Setup where
  name := fileLogger path
  directory := directoryOf path
  fileName := baseName path
  detailed := false

theorem openFile_eq (path : String) :
    (openFile path : Program Surroundings Unit) =
      Program.setUpLogger (fileSetup path) >>= fun _ ↦
        Program.isolateLogger (fileLogger path) := rfl

/-- The handler that a logger gets when its path is opened. -/
def fileHandler (path : String) (number : Nat) : Handler :=
  ⟨.file ⟨.ofPath path, some number, sizeLimit, keptCount⟩, false⟩

/-- A logger after it has been set up and isolated. -/
theorem get_setUp (loggers : Loggers) (name : String) (handler : Handler) :
    (((loggers.update name ({ · with level := some .info })).update name
      fun logger ↦ { logger with handlers := logger.handlers ++ [handler] }).update name
      ({ · with isolated := true })).get name =
      ⟨some .info, (loggers.get name).handlers ++ [handler], true⟩ := by
  rw [Loggers.get_update_self, Loggers.get_update_self, Loggers.get_update_self]

/-- A path that could be opened has a file, and one more handler that writes to it. -/
theorem openFile_ok {path : String} {world after : World Surroundings}
    (h : (openFile path).outcome world = (.ok (), after)) :
    ∃ made, world.output.disk.SameFiles made ∧ made.hasRoom (.ofPath path) ∧
      after = { world with
        output := { world.output with disk := (made.open' (.ofPath path)).1 }
        loggers := ((world.loggers.update (fileLogger path) ({ · with level := some .info })).update
          (fileLogger path)
          fun logger ↦ { logger with
            handlers := logger.handlers ++ [fileHandler path (made.open' (.ofPath path)).2] }).update
          (fileLogger path) ({ · with isolated := true }) } := by
  have hpath : Location.ofPath (fileSetup path).path = .ofPath path := ofPath_joinPath path
  rw [openFile_eq, Act.outcome_bind_eq_ok_iff] at h
  obtain ⟨_, middle, hset, hisolate⟩ := h
  rw [Program.setUpLogger, Act.outcome_ofOutcome] at hset
  rcases happly : (fileSetup path).apply world.loggers world.output with
    ⟨result, loggers, output⟩
  rw [happly] at hset
  obtain ⟨rfl, rfl⟩ := Prod.mk.inj hset
  obtain ⟨handler, hhandler, rfl⟩ := apply_ok happly
  obtain ⟨made, hsame, hroom, rfl, rfl⟩ := handler_ok rfl hhandler
  rw [hpath] at hisolate hroom
  exact ⟨made, hsame, hroom, (congrArg Prod.snd hisolate).symm⟩

theorem opens_openFile {path : String} {world after : World Surroundings}
    (hsound : world.output.disk.IsSound)
    (hfresh : (world.loggers.get (fileLogger path)).handlers = [])
    (h : (openFile path).outcome world = (.ok (), after)) : Opens path world after := by
  obtain ⟨made, hsame, hroom, rfl⟩ := openFile_ok h
  have hmade := hsame.isSound hsound
  have hdirectories := Disk.hasRoom_of_directories_eq (made.directories_open' (.ofPath path))
  refine ⟨⟨⟨.ofPath path, some (made.open' (.ofPath path)).2, sizeLimit, keptCount⟩,
    ⟨?_, rfl, rfl, rfl⟩, ⟨?_, ?_, ?_, ?_, ?_, ?_⟩⟩, ?_, ?_, ?_, ?_, rfl, rfl⟩
  · exact (get_setUp _ _ _).trans (by rw [hfresh]; rfl)
  · exact Location.ofPath_ne_nil path
  · exact hmade.open' _
  · exact (congrFun hdirectories _).trans hroom
  · rw [Disk.file?_open', if_pos rfl]
  · rw [Disk.read?_open', if_pos rfl, hsame.read?_eq]
    rfl
  · intro number text _ htext
    exact absurd htext (by simp [found])
  · intro location hlocation
    rw [Disk.file?_open', if_neg hlocation, hsame.file?_eq]
  · intro location hlocation
    rw [Disk.read?_open', if_neg hlocation, hsame.read?_eq]
  · intro location hfile hlocated
    exact (congrFun hdirectories _).trans (hsame.hasRoom hfile hlocated)
  · intro name hname
    rw [← properName_fileLogger path] at hname
    rw [Loggers.get_update_of_ne hname, Loggers.get_update_of_ne hname,
      Loggers.get_update_of_ne hname]

/-! ### Opening all files -/

theorem covers_found_iff {start : World Surroundings} {path : String} {location : Location} :
    (found start).Covers path location ↔ location = .ofPath path :=
  Segments.covers_iff_of_closed_nil rfl

theorem Journaled.begin {start : World Surroundings} (hsound : start.output.disk.IsSound)
    (journal : Journal) : Journaled start [] journal start where
  sound := hsound
  held _ h := absurd h (by simp)
  elsewhere _ _ := rfl
  printed := rfl
  surroundings := rfl

/-- One more path is opened. -/
theorem Journaled.opened {start world after : World Surroundings} {paths : List String}
    {path : String} (h : Journaled start paths (found start) world)
    (hother : ∀ other ∈ paths, Location.ofPath other ≠ .ofPath path)
    (hopens : Opens path world after) :
    Journaled start (paths ++ [path]) (found start) after := by
  have hfound : found world path = found start path := by
    have hread := h.elsewhere (.ofPath path) fun other hmem hcovers ↦
      hother other hmem (covers_found_iff.mp hcovers).symm
    rw [found, found, hread]
  obtain ⟨rotation, hopen, hkeeps⟩ := hopens.opened
  refine ⟨hkeeps.sound, fun other hmem ↦ ?_, fun location hlocation ↦ ?_, ?_, ?_⟩
  · rcases List.mem_append.mp hmem with hmem | hmem
    · obtain ⟨former, hformer, hkept⟩ := h.held other hmem
      have hne : other ≠ path := fun heq ↦ hother other hmem (by rw [heq])
      have hname := properName_fileLogger_ne hne
      rw [properName_fileLogger path] at hname
      obtain ⟨_, -, hfile, -⟩ := hkept.exists_file
      refine ⟨former, ⟨?_, hformer.location, hformer.limit, hformer.kept⟩,
        hkept.of_untouched hkeeps.sound
          (hopens.rooms (by rw [Disk.isFile, hfile]; rfl) hkept.room) fun place hplace ↦ ?_⟩
      · rw [hopens.loggers _ hname]
        exact hformer.logger
      · rw [Segments.covers_iff_of_closed_nil rfl, hformer.location] at hplace
        have hplace' : place ≠ .ofPath path := hplace ▸ hother other hmem
        exact ⟨hopens.files place hplace', hopens.texts place hplace'⟩
    · obtain rfl := List.mem_singleton.mp hmem
      exact ⟨rotation, hopen, hfound ▸ hkeeps⟩
  · have hplace : location ≠ .ofPath path := fun heq ↦
      hlocation path (by simp) (covers_found_iff.mpr heq)
    rw [hopens.texts location hplace]
    exact h.elsewhere location fun other hmem ↦ hlocation other (List.mem_append_left _ hmem)
  · rw [hopens.printed, h.printed]
  · rw [hopens.surroundings, h.surroundings]

theorem forM_openFile_cons (path : String) (remaining : List String) :
    (path :: remaining).forM (openFile : String → Program Surroundings Unit) =
      openFile path >>= fun _ ↦ remaining.forM openFile := rfl

theorem journaled_forM_openFile {start world after : World Surroundings}
    {opened remaining : List String} (h : Journaled start opened (found start) world)
    (hfresh : ∀ path ∈ remaining, (world.loggers.get (fileLogger path)).handlers = [])
    (hdistinct : ((opened ++ remaining).map Location.ofPath).Nodup)
    (hopening : (remaining.forM openFile).outcome world = (.ok (), after)) :
    Journaled start (opened ++ remaining) (found start) after := by
  induction remaining generalizing opened world with
  | nil =>
    obtain rfl : world = after := congrArg Prod.snd hopening
    rwa [List.append_nil]
  | cons path remaining ih =>
    obtain ⟨hpath, hmore⟩ := List.forall_mem_cons.mp hfresh
    rw [forM_openFile_cons, Act.outcome_bind_eq_ok_iff] at hopening
    obtain ⟨_, middle, hopen, hrest⟩ := hopening
    have hopens := opens_openFile h.sound hpath hopen
    have hlist : opened ++ path :: remaining = (opened ++ [path]) ++ remaining := by simp
    rw [hlist] at hdistinct ⊢
    obtain ⟨hfirst, -, hapart⟩ := List.nodup_append.mp (List.map_append ▸ hdistinct)
    have hother : ∀ other ∈ opened, Location.ofPath other ≠ .ofPath path := fun other hmem ↦ by
      rw [List.map_append] at hfirst
      exact (List.nodup_append.mp hfirst).2.2 _ (List.mem_map_of_mem hmem) _ (by simp)
    refine ih (h.opened hother hopens) (fun other hmem ↦ ?_) hdistinct hrest
    have hne : path ≠ other := fun heq ↦
      hapart _ (List.mem_map_of_mem (List.mem_append_right _ (List.mem_singleton.mpr rfl))) _
        (List.mem_map_of_mem hmem) (congrArg Location.ofPath heq)
    rw [hopens.loggers _ (by
      rw [← properName_fileLogger path]
      exact (properName_fileLogger_ne hne).symm)]
    exact hmore other hmem

/-- A file sink is made by opening its files, one after the other. -/
theorem openFiles_ok {paths : FilePaths} {start opened : World Surroundings}
    {sink : Sink Surroundings} (h : (openFiles paths).outcome start = (.ok sink, opened)) :
    sink = file paths ∧ (paths.all.forM openFile).outcome start = (.ok (), opened) := by
  rw [openFiles] at h
  split_ifs at h
  · obtain ⟨_, _, hthrow, -⟩ := Act.outcome_bind_eq_ok_iff.mp h
    cases hthrow
  · obtain ⟨_, after, hforM, hmade⟩ := Act.outcome_bind_eq_ok_iff.mp h
    rw [Act.outcome_pure] at hmade
    obtain ⟨hsink, rfl⟩ := Prod.mk.inj hmade
    exact ⟨(Except.ok.inj hsink).symm, hforM⟩

/-- A file sink whose files could be opened begins its journal with what is found in them. -/
theorem journaled_openFiles {paths : FilePaths} {start opened : World Surroundings}
    {sink : Sink Surroundings} (hsound : start.output.disk.IsSound)
    (hfresh : ∀ path ∈ paths.all, (start.loggers.get (fileLogger path)).handlers = [])
    (hdistinct : (paths.all.map Location.ofPath).Nodup)
    (hopening : (openFiles paths).outcome start = (.ok sink, opened)) :
    sink = file paths ∧ Journaled start paths.all (found start) opened := by
  obtain ⟨hsink, hall⟩ := openFiles_ok hopening
  exact ⟨hsink, by simpa using
    journaled_forM_openFile (.begin hsound (found start)) hfresh hdistinct hall⟩

/-! ### Lines -/

/-- The journal with some more lines for one path. -/
def Journal.addAll (journal : Journal) (path : String) (lines : List String) : Journal :=
  Function.update journal path ((journal path).addAll sizeLimit lines)

theorem Journal.addAll_self (journal : Journal) (path : String) (lines : List String) :
    journal.addAll path lines path = (journal path).addAll sizeLimit lines :=
  Function.update_self ..

theorem Journal.addAll_of_ne (journal : Journal) {path other : String} (h : other ≠ path)
    (lines : List String) : journal.addAll path lines other = journal other :=
  Function.update_of_ne h ..

theorem Journal.addAll_nil (journal : Journal) (path : String) :
    journal.addAll path [] = journal :=
  Function.update_eq_self ..

theorem Journal.addAll_addAll (journal : Journal) (path : String) (lines more : List String) :
    (journal.addAll path lines).addAll path more = journal.addAll path (lines ++ more) := by
  simp [addAll, Segments.addAll_append]

/-- What a journal covers, a longer one covers too. -/
theorem Journal.Covers.addAll {journal : Journal} {path : String} {location : Location}
    (h : journal.Covers path location) (other : String) (lines : List String) :
    (journal.addAll other lines).Covers path location := by
  by_cases heq : path = other
  · subst heq
    rw [Journal.Covers, addAll_self]
    exact Segments.Covers.addAll h sizeLimit lines
  · rw [Journal.Covers, addAll_of_ne _ heq]
    exact h

theorem Journal.IsApart.of_covers {journal longer : Journal} {paths : List String} {disk : Disk}
    (h : longer.IsApart paths disk)
    (hcovers : ∀ {path location}, journal.Covers path location → longer.Covers path location) :
    journal.IsApart paths disk where
  names first hfirst second hsecond hne location hlocation hsame :=
    h.names first hfirst second hsecond hne location (hcovers hlocation) (hcovers hsame)
  free path hpath location hne hlocation := h.free path hpath location hne (hcovers hlocation)

theorem Journal.IsApart.of_directories_eq {journal : Journal} {paths : List String}
    {disk later : Disk} (h : journal.IsApart paths disk)
    (hsame : later.directories = disk.directories) : journal.IsApart paths later where
  names := h.names
  free := by
    rw [Disk.isDirectory_of_directories_eq hsame]
    exact h.free

/-- Rotating finds no directory in the way. -/
theorem Journal.IsApart.isClear {journal : Journal} {paths : List String} {disk : Disk}
    (h : journal.IsApart paths disk) {path : String} (hpath : path ∈ paths)
    {loggers : Loggers} {rotation : Rotation} (hopen : IsOpen loggers path rotation)
    (hclosed : (journal path).closed ≠ []) : rotation.IsClear disk := by
  intro number hnumber
  rw [hopen.kept] at hnumber
  rw [Rotation.aside_eq, hopen.location]
  exact h.free path hpath _ (Location.numbered_ne (Location.ofPath_ne_nil path) _)
    (.inr ⟨hclosed, number, hnumber, rfl⟩)

/-- An entry for a path goes to the handlers that its logger has got, and to no others. -/
theorem log_fileLogger {world : World Surroundings} {path : String} {handlers : List Handler}
    (h : world.loggers.get (fileLogger path) = ⟨some .info, handlers, true⟩) (text : String) :
    (Program.log (fileLogger path) { level := .info, text }).outcome world =
      let written := Loggers.writeAll (fileLogger path) { level := .info, text } handlers
        world.output
      (.ok (), { world with
        loggers := world.loggers.update (fileLogger path) ({ · with handlers := written.1 })
        output := written.2 }) := by
  have hlevel : (world.loggers.get (fileLogger path)).level = some .info := by rw [h]
  have hisolated : (world.loggers.get (fileLogger path)).isolated = true := by rw [h]
  have hlog := Loggers.log_isolated { level := .info, text } hlevel (Nat.le_refl _) hisolated
    world.output
  simp only [properName_fileLogger, h] at hlog
  calc (Program.log (fileLogger path) { level := .info, text }).outcome world
      = (.ok (), { world with
          loggers := (world.loggers.log world.output (fileLogger path) { level := .info, text }).1
          output := (world.loggers.log world.output (fileLogger path)
            { level := .info, text }).2 }) := rfl
    _ = _ := by rw [hlog]

/-- An entry for an open path is a line of its file. -/
theorem log_of_isOpen {world : World Surroundings} {path : String} {rotation : Rotation}
    (hopen : IsOpen world.loggers path rotation) (text : String) :
    (Program.log (fileLogger path) { level := .info, text }).outcome world =
      (.ok (), { world with
        loggers := world.loggers.update (fileLogger path)
          ({ · with handlers :=
            [⟨.file (rotation.write world.output.disk (text ++ "\n")).1, false⟩] })
        output := { world.output with
          disk := (rotation.write world.output.disk (text ++ "\n")).2 } }) := by
  have hline : (Handler.mk (.file rotation) false).line (fileLogger path)
      { level := .info, text } = text ++ "\n" := by
    simp [Handler.line]
  rw [log_fileLogger hopen.logger]
  simp only [Loggers.writeAll, hline, Handler.write]

theorem IsOpen.kept_ne_zero {loggers : Loggers} {path : String} {rotation : Rotation}
    (h : IsOpen loggers path rotation) : rotation.kept ≠ 0 := by
  rw [h.kept]
  decide

/-- A path whose file has been put aside and begun again is still open. -/
theorem IsOpen.update_self {loggers : Loggers} {path : String} {rotation later : Rotation}
    (h : IsOpen loggers path rotation) (hsame : later = { rotation with file := later.file }) :
    IsOpen (loggers.update (fileLogger path) ({ · with handlers := [⟨.file later, false⟩] })) path
      later where
  logger := by rw [Loggers.get_update_self, h.logger]
  location := by
    rw [hsame]
    exact h.location
  limit := by
    rw [hsame]
    exact h.limit
  kept := by
    rw [hsame]
    exact h.kept

theorem IsOpen.update_of_ne {loggers : Loggers} {path other : String} {rotation : Rotation}
    (h : IsOpen loggers other rotation) (hne : other ≠ path) (change : Logger → Logger) :
    IsOpen (loggers.update (fileLogger path) change) other rotation where
  logger := by
    rw [Loggers.get_update_of_ne (properName_fileLogger_ne hne)]
    exact h.logger
  location := h.location
  limit := h.limit
  kept := h.kept

/-- One line more for one of the paths. -/
theorem Journaled.line {start world : World Surroundings} {paths : List String}
    {journal : Journal} (h : Journaled start paths journal world) {path : String}
    (hpath : path ∈ paths) (text : String)
    (hapart : (journal.addAll path [text ++ "\n"]).IsApart paths world.output.disk) :
    ∃ after, (Program.log (fileLogger path) { level := .info, text }).outcome world =
      (.ok (), after) ∧ after.output.disk.directories = world.output.disk.directories ∧
      Journaled start paths (journal.addAll path [text ++ "\n"]) after := by
  obtain ⟨rotation, hopen, hkeeps⟩ := h.held path hpath
  have hkept := hopen.kept_ne_zero
  have hsegments : journal.addAll path [text ++ "\n"] path =
      (journal path).add rotation.limit (text ++ "\n") := by
    rw [Journal.addAll_self, hopen.limit]
    rfl
  have hclear (hclosed : ((journal path).add rotation.limit (text ++ "\n")).closed ≠ []) :
      rotation.IsClear world.output.disk :=
    hapart.isClear hpath hopen (by rwa [hsegments])
  have hwritten := hkeeps.write hkept hclear
  have hdirectories := hkeeps.directories_write hkept hclear
  have huntouched {place : Location}
      (hplace : ¬ (journal.addAll path [text ++ "\n"]).Covers path place) :
      (rotation.write world.output.disk (text ++ "\n")).2.file? place =
          world.output.disk.file? place ∧
        (rotation.write world.output.disk (text ++ "\n")).2.read? place =
          world.output.disk.read? place := by
    rw [Journal.Covers, hsegments, ← hopen.location, ← hopen.kept] at hplace
    exact hkeeps.untouched hkept hclear hplace
  refine ⟨_, log_of_isOpen hopen text, hdirectories, hwritten.sound, fun other hother ↦ ?_,
    fun place hplace ↦ ?_, h.printed, h.surroundings⟩
  · by_cases heq : other = path
    · subst heq
      refine ⟨_, hopen.update_self (hkeeps.write_fst hkept hclear), ?_⟩
      rw [hsegments]
      exact hwritten
    · obtain ⟨former, hformer, hkeptThere⟩ := h.held other hother
      have hroom : (rotation.write world.output.disk (text ++ "\n")).2.hasRoom
          former.location := by
        rw [Disk.hasRoom_of_directories_eq hdirectories]
        exact hkeptThere.room
      refine ⟨former, hformer.update_of_ne heq _, ?_⟩
      rw [Journal.addAll_of_ne _ heq]
      refine hkeptThere.of_untouched hwritten.sound hroom fun place hplace ↦ huntouched ?_
      rw [hformer.location, hformer.kept] at hplace
      have hcovers : (journal.addAll path [text ++ "\n"]).Covers other place :=
        Journal.Covers.addAll hplace path _
      exact hapart.names other hother path hpath heq place hcovers
  · rw [(huntouched (hplace path hpath)).2]
    exact h.elsewhere place fun other hother hcovers ↦
      hplace other hother (hcovers.addAll path _)

/-- The line of a record. -/
def lineOf (record : Record) : String :=
  record.json.write Json.spaced ++ "\n"

theorem writeLines_cons {record : Record} (h : record.isWritable) (path : String)
    (rest : List Record) :
    (writeLines path (record :: rest) : Program Surroundings Unit) =
      Program.log (fileLogger path) { level := .info, text := record.json.write Json.spaced } >>=
        fun _ ↦ writeLines path rest := by
  rw [writeLines, Record.write_of_isWritable h]
  rfl

theorem Journaled.writeLines {start world : World Surroundings} {paths : List String}
    {journal : Journal} (h : Journaled start paths journal world) {path : String}
    (hpath : path ∈ paths) {records : List Record}
    (hwritable : ∀ record ∈ records, record.isWritable)
    (hapart : (journal.addAll path (records.map lineOf)).IsApart paths world.output.disk) :
    ∃ after, (Sink.writeLines path records).outcome world = (.ok (), after) ∧
      after.output.disk.directories = world.output.disk.directories ∧
      Journaled start paths (journal.addAll path (records.map lineOf)) after := by
  induction records generalizing journal world with
  | nil => exact ⟨world, rfl, rfl, by rwa [List.map_nil, Journal.addAll_nil]⟩
  | cons record records ih =>
    obtain ⟨hrecord, hmore⟩ := List.forall_mem_cons.mp hwritable
    have hsplit : journal.addAll path ((record :: records).map lineOf) =
        (journal.addAll path [lineOf record]).addAll path (records.map lineOf) := by
      rw [Journal.addAll_addAll]
      rfl
    rw [hsplit] at hapart ⊢
    obtain ⟨middle, hlog, hdirectories, hmiddle⟩ := h.line hpath _
      (hapart.of_covers fun hcovers ↦ hcovers.addAll path _)
    obtain ⟨after, hrest, hsame, hafter⟩ :=
      ih hmiddle hmore (hapart.of_directories_eq hdirectories)
    refine ⟨after, ?_, hsame.trans hdirectories, hafter⟩
    rw [writeLines_cons hrecord, Act.outcome_bind_ok hlog, hrest]

/-! ### Calls -/

/-- One write: a batch and what the sink is told about it. -/
structure Call where
  batch : Batch
  label : Label

/-- The path that the records of a write belong to. A kind of records without a path of its own
belongs to the general one, and so do records of no kind. -/
def Call.path? (paths : FilePaths) (call : Call) : Option String :=
  match call.label.identifier with
  | some .fileStore => paths.stores.or paths.general
  | some .fileDescriptors => paths.descriptors.or paths.general
  | some .generic => paths.general
  | none => paths.general

/-- The records of some writes that belong to a path. -/
def recordsFor (paths : FilePaths) (calls : List Call) (path : String) : List Record :=
  (calls.filter (·.path? paths = some path)).flatMap (·.batch.records)

/-- How a write ends. -/
def Call.answer (paths : FilePaths) (call : Call) : Except Failure Unit :=
  if (call.path? paths).isSome then .ok ()
  else .error (noRoute (call.label.identifier.getD .generic))

/-- Writes one after the other, whether they fail or not. -/
def callAll (sink : Sink Surroundings) :
    List Call → World Surroundings → List (Except Failure Unit) × World Surroundings
  | [], world => ([], world)
  | call :: rest, world =>
    let (answer, after) := (sink call.batch call.label).outcome world
    let (answers, final) := callAll sink rest after
    (answer :: answers, final)

/-- The journal after some writes. -/
def Journal.after (journal : Journal) (paths : FilePaths) (calls : List Call) : Journal :=
  fun path ↦ (journal path).addAll sizeLimit ((recordsFor paths calls path).map lineOf)

theorem route?_eq_path? (paths : FilePaths) (call : Call) :
    paths.route? (call.label.identifier.getD .generic) = call.path? paths := by
  rw [Call.path?]
  rcases call.label.identifier with _ | (_ | _ | _) <;> simp [FilePaths.route?, FilePaths.own?]

theorem mem_all_of_path? {paths : FilePaths} {call : Call} {path : String}
    (h : call.path? paths = some path) : path ∈ paths.all := by
  simp only [FilePaths.all, List.mem_append, Option.mem_toList]
  unfold Call.path? at h
  split at h
  · rcases Option.or_eq_some_iff.mp h with hown | ⟨-, hgeneral⟩
    · exact .inl (.inr hown)
    · exact .inl (.inl hgeneral)
  · rcases Option.or_eq_some_iff.mp h with hown | ⟨-, hgeneral⟩
    · exact .inr hown
    · exact .inl (.inl hgeneral)
  · exact .inl (.inl h)
  · exact .inl (.inl h)

theorem Journal.after_cons_of_path? (journal : Journal) {paths : FilePaths} {call : Call}
    {path : String} (h : call.path? paths = some path) (rest : List Call) :
    journal.after paths (call :: rest) =
      (journal.addAll path (call.batch.records.map lineOf)).after paths rest := by
  funext other
  by_cases heq : other = path
  · subst heq
    have hrecords : recordsFor paths (call :: rest) other =
        call.batch.records ++ recordsFor paths rest other := by
      simp [recordsFor, h]
    rw [after, after, addAll_self, hrecords, List.map_append, Segments.addAll_append]
  · have hne : ¬ call.path? paths = some other := fun hsome ↦
      heq (Option.some.inj (hsome.symm.trans h))
    have hrecords : recordsFor paths (call :: rest) other = recordsFor paths rest other := by
      simp [recordsFor, hne]
    rw [after, after, addAll_of_ne _ heq, hrecords]

theorem Journal.after_cons_of_none (journal : Journal) {paths : FilePaths} {call : Call}
    (h : call.path? paths = none) (rest : List Call) :
    journal.after paths (call :: rest) = journal.after paths rest := by
  funext other
  have hrecords : recordsFor paths (call :: rest) other = recordsFor paths rest other := by
    simp [recordsFor, h]
  rw [after, after, hrecords]

/-- A write without a path fails and does nothing. -/
theorem outcome_file_of_none {paths : FilePaths} {call : Call} (h : call.path? paths = none)
    (world : World Surroundings) :
    (file paths call.batch call.label).outcome world =
      (.error (noRoute (call.label.identifier.getD .generic)), world) := by
  simp only [file]
  rw [route?_eq_path?, h]
  rfl

theorem file_of_path? {paths : FilePaths} {call : Call} {path : String}
    (h : call.path? paths = some path) :
    (file paths call.batch call.label : Program Surroundings Unit) =
      writeLines path call.batch.records := by
  simp only [file]
  rw [route?_eq_path?, h]

/-- A write to a path, and the writes after it. -/
theorem callAll_cons_of_path? {paths : FilePaths} {call : Call} {path : String}
    {world after : World Surroundings} (hpath : call.path? paths = some path)
    (h : (writeLines path call.batch.records).outcome world = (.ok (), after)) (rest : List Call) :
    callAll (file paths) (call :: rest) world =
      (.ok () :: (callAll (file paths) rest after).1, (callAll (file paths) rest after).2) := by
  rw [callAll, file_of_path? hpath, h]

theorem Journal.Covers.after {journal : Journal} {path : String} {location : Location}
    (h : journal.Covers path location) (paths : FilePaths) (calls : List Call) :
    (journal.after paths calls).Covers path location :=
  Segments.Covers.addAll h sizeLimit _

/-- Each write adds its lines to the journal of its path; one without a path fails. -/
theorem journaled_calls {start world : World Surroundings} {paths : FilePaths} {journal : Journal}
    (h : Journaled start paths.all journal world) {calls : List Call}
    (hwritable : ∀ call ∈ calls, ∀ record ∈ call.batch.records, record.isWritable)
    (hapart : (journal.after paths calls).IsApart paths.all world.output.disk) :
    ∃ final, callAll (file paths) calls world = (calls.map (·.answer paths), final) ∧
      Journaled start paths.all (journal.after paths calls) final := by
  induction calls generalizing journal world with
  | nil => exact ⟨world, rfl, h⟩
  | cons call calls ih =>
    obtain ⟨hcall, hmore⟩ := List.forall_mem_cons.mp hwritable
    cases hpath : call.path? paths with
    | none =>
      rw [Journal.after_cons_of_none journal hpath] at hapart ⊢
      obtain ⟨final, hrest, hfinal⟩ := ih h hmore hapart
      refine ⟨final, ?_, hfinal⟩
      rw [callAll, outcome_file_of_none hpath]
      simp [hrest, Call.answer, hpath]
    | some path =>
      rw [Journal.after_cons_of_path? journal hpath] at hapart ⊢
      obtain ⟨middle, hwrite, hdirectories, hmiddle⟩ :=
        h.writeLines (mem_all_of_path? hpath) hcall
          (hapart.of_covers fun hcovers ↦ hcovers.after paths calls)
      obtain ⟨final, hrest, hfinal⟩ :=
        ih hmiddle hmore (hapart.of_directories_eq hdirectories)
      refine ⟨final, ?_, hfinal⟩
      rw [callAll_cons_of_path? hpath hwrite, hrest]
      simp [Call.answer, hpath]

end MountCensus.Sink
