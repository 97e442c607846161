import MountCensus.Collector.FileDescriptors
import MountCensus.Collector.FileStores
import MountCensus.Proofs.Log.Unseen
import MountCensus.Proofs.Loop.Delivery
import MountCensus.Proofs.Sink.Refusal

/-!
A dry run prints what would have been delivered. The loop takes no notice of its logs
(`isBlind_rounds`), so that the one remark a dry run makes more than others cannot show in what is
printed. But the sink that prints is offered the options of the sink it stands in for, and it takes
none: the run prints as it should if there are no options, and it fails at once if there are any
(`run_dry`).
-/

set_option autoImplicit false

namespace MountCensus

variable {Surroundings α : Type}

open Program

/-! ### The loop takes no notice of its logs -/

theorem Retry.isBlind_attempts {pauseFor : Int → Program Surroundings Unit}
    (hpause : ∀ seconds, (pauseFor seconds).IsBlind) (pause : Nat → Int)
    {act : Program Surroundings α} (h : act.IsBlind) (left : Nat) :
    ∀ k, IsBlind (attempts pauseFor pause act left k) := by
  induction left with
  | zero => exact fun k ↦ h.onFailure fun _ ↦ isBlind_throw _
  | succ left ih =>
    refine fun k ↦ h.onFailure fun failure ↦ ?_
    split_ifs
    · exact (hpause _).bind fun _ ↦ ih (k + 1)
    · exact isBlind_throw _

namespace Delivery

variable {write : Batch → Program Surroundings Unit} {pauseFor : Int → Program Surroundings Unit}

theorem isBlind_deliverAll (hwrite : ∀ batch, (write batch).IsBlind)
    (hpause : ∀ seconds, (pauseFor seconds).IsBlind) (retries time : Int)
    (failure : Option Failure) (chunks : List (List Record)) :
    IsBlind (deliverAll write pauseFor retries time failure chunks) := by
  induction chunks with
  | nil => cases failure with
    | none => exact isBlind_pure ()
    | some failure => exact isBlind_throw failure
  | cons records rest ih =>
    refine IsBlind.bind ?_ fun _ ↦ ih
    exact (isBlind_liftM _).bind fun schedule ↦
      Retry.isBlind_attempts hpause _ (hwrite _) schedule.size 0

theorem isBlind_deliver (hwrite : ∀ batch, (write batch).IsBlind)
    (hpause : ∀ seconds, (pauseFor seconds).IsBlind) (sink : String)
    (chunkSize retries time : Int) (records : List Record) :
    IsBlind (deliver write pauseFor sink chunkSize retries time records) :=
  (isBlind_deliverAll hwrite hpause ..).onFailure fun _ ↦ isBlind_throw _

end Delivery

namespace Sink

theorem isBlind_warnUntyped (label : Label) :
    (warnUntyped label : Program Surroundings Unit).IsBlind := by
  unfold warnUntyped
  split_ifs
  · exact isBlind_pure ()
  · exact isBlind_log ..

theorem isBlind_printed (batch : Batch) (label : Label) :
    (printed batch label : Program Surroundings Unit).IsBlind :=
  (isBlind_warnUntyped label).bind fun _ ↦ (isBlind_liftM _).bind fun _ ↦ isBlind_print _

end Sink

/-! ### The collectors take no notice of the logs either -/

theorem isBlind_ask (environment : Environment Surroundings) (question : Host → Answer α) :
    (environment.ask question).IsBlind :=
  (isBlind_ofSurroundings _).bind fun _ ↦ (isBlind_ofSurroundings _).bind fun _ ↦ isBlind_liftM _

namespace Collector

theorem FileStores.isBlind_collect (environment : Environment Surroundings) (options : Options)
    (policy : Policy) : (collect environment options policy).IsBlind :=
  (isBlind_ask environment _).bind fun _ ↦ (isBlind_log ..).bind fun _ ↦ isBlind_pure _

theorem FileDescriptors.isBlind_collect (environment : Environment Surroundings) :
    (collect environment).IsBlind :=
  (isBlind_ask environment _).bind fun _ ↦ isBlind_pure _

end Collector

namespace Loop

variable {sink : Sink Surroundings} {tasks : List (Task Surroundings)}

theorem isBlind_attempt (hsink : ∀ batch label, (sink batch label).IsBlind) (settings : Settings)
    (label : Label) (batch : Batch) : (attempt settings sink label batch).IsBlind :=
  ((hsink batch label).logged _).bind fun _ ↦ isBlind_pure ()

theorem isBlind_note (settings : Settings) (level : Log.Level) (text : String) :
    (note settings level text : Program Surroundings Unit).IsBlind :=
  isBlind_log ..

theorem isBlind_runTask (hsink : ∀ batch label, (sink batch label).IsBlind) (settings : Settings)
    (pauseFor : Int → Act Surroundings Unit) (time : Int) {task : Task Surroundings}
    (htask : task.collect.IsBlind) : (runTask settings pauseFor sink time task).IsBlind := by
  refine (htask.logged _).bind fun answer ↦ ?_
  split
  · exact isBlind_note ..
  · refine (isBlind_note ..).bind fun _ ↦ (Delivery.isBlind_deliver ?_ ?_ ..).bind fun _ ↦
      isBlind_note ..
    · exact isBlind_attempt hsink settings task.label
    · exact fun _ ↦ isBlind_ofSurroundings _

theorem isBlind_runTasks (hsink : ∀ batch label, (sink batch label).IsBlind) (settings : Settings)
    (pauseFor : Int → Act Surroundings Unit) (time : Int)
    (htasks : ∀ task ∈ tasks, task.collect.IsBlind) :
    (runTasks settings pauseFor sink time tasks).IsBlind := by
  induction tasks with
  | nil => exact isBlind_pure ()
  | cons task tasks ih =>
    obtain ⟨htask, hmore⟩ := List.forall_mem_cons.mp htasks
    exact (isBlind_runTask hsink settings pauseFor time htask).bind fun _ ↦ ih hmore

theorem isBlind_rounds (hsink : ∀ batch label, (sink batch label).IsBlind) (settings : Settings)
    (clock : Clock Surroundings) (pauseFor : Int → Act Surroundings Unit)
    (htasks : ∀ task ∈ tasks, task.collect.IsBlind) (limit : Nat) :
    (rounds settings clock pauseFor sink tasks limit).IsBlind := by
  induction limit with
  | zero => exact isBlind_pure Ending.cutOff
  | succ limit ih =>
    refine (isBlind_note ..).bind fun _ ↦ (isBlind_ofSurroundings _).bind fun started ↦
      (isBlind_ofSurroundings _).bind fun time ↦
        (isBlind_runTasks hsink settings pauseFor time htasks).bind fun _ ↦ ?_
    split_ifs
    · exact (isBlind_note ..).bind fun _ ↦ isBlind_pure _
    · exact (isBlind_ofSurroundings _).bind fun ended ↦ (isBlind_note ..).bind fun _ ↦
        (isBlind_note ..).bind fun _ ↦ (isBlind_ofSurroundings _).bind fun _ ↦ ih

/-! ### Settings that make no difference -/

/-- Settings that agree in all that a round depends on. -/
structure Settings.Agree (settings other : Settings) : Prop where
  logger : settings.logger = other.logger
  once : settings.once = other.once
  interval : settings.interval = other.interval
  sinkName : settings.sinkName = other.sinkName
  chunkSize : settings.chunkSize = other.chunkSize
  retries : settings.retries = other.retries

theorem runTasks_congr {settings other : Settings} (h : settings.Agree other)
    (pauseFor : Int → Act Surroundings Unit) (sink : Sink Surroundings) (time : Int)
    (tasks : List (Task Surroundings)) :
    runTasks settings pauseFor sink time tasks = runTasks other pauseFor sink time tasks := by
  have hattempt (label : Label) : attempt settings sink label = attempt other sink label := by
    funext batch
    simp only [attempt, h.logger]
  induction tasks with
  | nil => rfl
  | cons task tasks ih =>
    rw [runTasks, runTasks, ih]
    simp only [runTask, debug, note, hattempt, h.logger, h.sinkName, h.chunkSize, h.retries]

theorem rounds_congr {settings other : Settings} (h : settings.Agree other)
    (clock : Clock Surroundings) (pauseFor : Int → Act Surroundings Unit)
    (sink : Sink Surroundings) (tasks : List (Task Surroundings)) (limit : Nat) :
    rounds settings clock pauseFor sink tasks limit =
      rounds other clock pauseFor sink tasks limit := by
  induction limit with
  | zero => rfl
  | succ limit ih =>
    rw [rounds, rounds, ih]
    simp only [debug, note, runTasks_congr h, h.logger, h.once, h.interval]

theorem Settings.sinkName_of_dry {settings : Settings} (hdry : settings.dryRun = true) :
    settings.sinkName = "stdout" := by
  rw [sinkName, hdry, if_pos rfl]

/-- The same loop, but to the sink that prints, and not as a dry run. -/
def Settings.printing (settings : Settings) : Settings :=
  { settings with sink := "stdout", sinkSettings := [], dryRun := false }

theorem Settings.agree_printing {settings : Settings} (hdry : settings.dryRun = true) :
    settings.printing.Agree settings := by
  refine ⟨rfl, rfl, rfl, ?_, rfl, rfl⟩
  rw [sinkName, sinkName, hdry]
  rfl

/-! ### Dry runs -/

/-- What a dry run says about itself. -/
def remark (settings : Settings) : Program Surroundings Unit :=
  if settings.dryRun then debug settings "this is a `--dry-run`, will print data to stdout"
  else pure ()

/-- What a loop does once its log and the sink that prints are there. -/
def printRounds (settings : Settings) (clock : Clock Surroundings)
    (pauseFor : Int → Act Surroundings Unit) (tasks : List (Task Surroundings)) (limit : Nat) :
    Program Surroundings Ending := do
  debug settings ("will log data to " ++ settings.sinkName)
  rounds settings clock pauseFor Sink.printed tasks limit

section Runs

variable {settings : Settings} {registry : Sink.Registry Surroundings}
  {options : List (String × Value)}

/-- A loop to the sink that prints. -/
theorem run_to_printed (hname : settings.sinkName = "stdout")
    (hprinted : registry.lookup "stdout" = some Sink.printedKind)
    (hoptions : Settings.ofDotList settings.sinkSettings = .ok options) (clock : Clock Surroundings)
    (pauseFor : Int → Act Surroundings Unit) (tasks : List (Task Surroundings)) (limit : Nat) :
    run settings registry clock pauseFor tasks limit = (do
      Program.setUpLogger (loggerSetup settings)
      remark settings
      if options = [] then printRounds settings clock pauseFor tasks limit
      else throw ⟨.type, "Stdout() takes no arguments"⟩) := by
  rw [run, hname, Sink.open_printed hprinted hoptions]
  by_cases hnone : options = [] <;> by_cases hdry : settings.dryRun = true
  · simp only [if_pos, hnone, hdry, remark, pure_bind, printRounds, hname]
  · simp only [if_pos, if_neg hdry, hnone, remark, pure_bind, printRounds, hname]
  · simp only [if_neg hnone, if_pos hdry, remark]
    rfl
  · simp only [if_neg hnone, if_neg hdry, remark]
    rfl

/-- The loop that a dry run is compared with. -/
theorem run_printing (hdry : settings.dryRun = true)
    (hprinted : registry.lookup "stdout" = some Sink.printedKind) (clock : Clock Surroundings)
    (pauseFor : Int → Act Surroundings Unit) (tasks : List (Task Surroundings)) (limit : Nat) :
    run settings.printing registry clock pauseFor tasks limit = (do
      Program.setUpLogger (loggerSetup settings)
      printRounds settings clock pauseFor tasks limit) := by
  have hagree := Settings.agree_printing hdry
  have hoptions : Settings.ofDotList settings.printing.sinkSettings = .ok [] := rfl
  rw [run_to_printed rfl hprinted hoptions, if_pos rfl, printRounds, printRounds,
    rounds_congr hagree, hagree.sinkName]
  rfl

variable {start : World Surroundings}

theorem isBlind_printRounds (settings : Settings) (clock : Clock Surroundings)
    (pauseFor : Int → Act Surroundings Unit) {tasks : List (Task Surroundings)}
    (htasks : ∀ task ∈ tasks, task.collect.IsBlind) (limit : Nat) :
    (printRounds settings clock pauseFor tasks limit).IsBlind :=
  (isBlind_note ..).bind fun _ ↦
    isBlind_rounds Sink.isBlind_printed settings clock pauseFor htasks limit

theorem outcome_remark {opened : World Surroundings}
    (hquiet : opened.loggers.IsQuiet settings.logger) :
    ∃ noted, (remark settings).outcome opened = (.ok (), noted) ∧ noted.Alike opened := by
  unfold remark
  split_ifs
  · exact ⟨_, rfl, alike_after_log hquiet _⟩
  · exact ⟨opened, rfl, .rfl⟩

/-- The remark of a dry run is too light for most logs. -/
theorem outcome_remark_of_light {opened : World Surroundings}
    (hlevel : (opened.loggers.get settings.logger).level = some settings.level)
    (hlight : settings.level ≠ .debug) : (remark settings).outcome opened = (.ok (), opened) := by
  have hweight : Log.Level.debug.weight < settings.level.weight := by
    revert hlight
    cases settings.level <;> decide
  unfold remark
  split_ifs
  · exact outcome_log_of_light hlevel hweight
  · rfl

/-- A remark that is not heavy enough for the log, or that only the log takes notice of, changes
nothing that is printed afterwards. -/
theorem printRounds_after_remark {opened : World Surroundings}
    (hlevel : (opened.loggers.get settings.logger).level = some settings.level)
    (hquiet : opened.loggers.IsQuiet settings.logger) (clock : Clock Surroundings)
    (pauseFor : Int → Act Surroundings Unit) {tasks : List (Task Surroundings)}
    (hunseen : settings.level ≠ .debug ∨ ∀ task ∈ tasks, task.collect.IsBlind) (limit : Nat) :
    ∃ ending noted plain,
      (remark settings >>= fun _ ↦ printRounds settings clock pauseFor tasks limit).outcome
          opened = (ending, noted) ∧
        (printRounds settings clock pauseFor tasks limit).outcome opened = (ending, plain) ∧
          noted.Alike plain := by
  obtain hlight | hblind := hunseen
  · rw [Act.outcome_bind_ok (outcome_remark_of_light hlevel hlight)]
    exact ⟨_, _, _, rfl, rfl, .rfl⟩
  · obtain ⟨noted, hnoted, halike⟩ := outcome_remark hquiet
    rw [Act.outcome_bind_ok hnoted]
    exact (isBlind_printRounds settings clock pauseFor hblind limit).alike _ _ halike

/-- The sink that prints is offered the options that were meant for the other one. -/
theorem run_dry_of_options (hdry : settings.dryRun = true) (hfile : settings.onConsole = false)
    (hprinted : registry.lookup "stdout" = some Sink.printedKind)
    (hoptions : Settings.ofDotList settings.sinkSettings = .ok options) (hsome : options ≠ [])
    (clock : Clock Surroundings) (pauseFor : Int → Act Surroundings Unit)
    (tasks : List (Task Surroundings)) (limit : Nat)
    (hquiet : start.loggers.IsQuiet settings.logger) :
    ∃ failure dried,
      (run settings registry clock pauseFor tasks limit).outcome start = (.error failure, dried) ∧
      dried.output.printed = start.output.printed ∧ dried.surroundings = start.surroundings ∧
      (((Program.setUpLogger (loggerSetup settings)).outcome start).1 = .ok () →
        failure = ⟨.type, "Stdout() takes no arguments"⟩) := by
  rw [run_to_printed (Settings.sinkName_of_dry hdry) hprinted hoptions, if_neg hsome]
  rcases hsetUp : (Program.setUpLogger (loggerSetup settings)).outcome start with
    ⟨failure | ⟨⟩, opened⟩
  · obtain ⟨hsilent, hsame, -⟩ := setUpLogger_of_file hfile hsetUp
    rw [Act.outcome_bind_error hsetUp]
    exact ⟨_, _, rfl, hsilent, hsame, fun h ↦ nomatch h⟩
  · obtain ⟨hsilent, hsame, -, hstays⟩ := setUpLogger_of_file hfile hsetUp
    obtain ⟨noted, hnoted, halike⟩ := outcome_remark (hstays settings.logger hquiet)
    rw [Act.outcome_bind_ok hsetUp, Act.outcome_bind_ok hnoted]
    exact ⟨_, noted, rfl, halike.printed.trans hsilent, halike.surroundings.trans hsame,
      fun _ ↦ rfl⟩

/-- Nothing of a dry run depends on the sink that is named or on any other than the one that prints:
the registry may be without them. With no options at all it prints what the loop prints that is told
to print, and ends like it, with the surroundings in the same state. With any option it does nothing
but fail, since the sink that prints is offered the options that were meant for the other one. -/
theorem run_dry {settings : Settings} (hdry : settings.dryRun = true)
    (hfile : settings.onConsole = false) {registry : Sink.Registry Surroundings}
    (hprinted : registry.lookup "stdout" = some Sink.printedKind)
    {options : List (String × Value)}
    (hoptions : Settings.ofDotList settings.sinkSettings = .ok options) (clock : Clock Surroundings)
    (pauseFor : Int → Act Surroundings Unit) {tasks : List (Task Surroundings)}
    (hunseen : settings.level ≠ .debug ∨ ∀ task ∈ tasks, task.collect.IsBlind) (limit : Nat)
    {start : World Surroundings} (hquiet : start.loggers.IsQuiet settings.logger) :
    (∀ (name : String) (other : Sink.Registry Surroundings),
      other.lookup "stdout" = some Sink.printedKind →
        run { settings with sink := name } other clock pauseFor tasks limit =
          run settings registry clock pauseFor tasks limit) ∧
    (options = [] → ∃ ending dried printed,
      (run settings registry clock pauseFor tasks limit).outcome start = (ending, dried) ∧
      (run settings.printing registry clock pauseFor tasks limit).outcome start =
        (ending, printed) ∧
      dried.output.printed = printed.output.printed ∧
      dried.surroundings = printed.surroundings) ∧
    (options ≠ [] → ∃ failure dried,
      (run settings registry clock pauseFor tasks limit).outcome start = (.error failure, dried) ∧
      dried.output.printed = start.output.printed ∧ dried.surroundings = start.surroundings ∧
      (((Program.setUpLogger (loggerSetup settings)).outcome start).1 = .ok () →
        failure = ⟨.type, "Stdout() takes no arguments"⟩)) := by
  have hname := Settings.sinkName_of_dry hdry
  refine ⟨fun name other hother ↦ ?_, fun hnone ↦ ?_, fun hsome ↦ ?_⟩
  · have hnamed : ({ settings with sink := name } : Settings).sinkName = "stdout" :=
      Settings.sinkName_of_dry hdry
    have hagree : Settings.Agree { settings with sink := name } settings :=
      ⟨rfl, rfl, rfl, hnamed.trans hname.symm, rfl, rfl⟩
    rw [run_to_printed hname hprinted hoptions, run_to_printed hnamed hother hoptions, printRounds,
      printRounds, rounds_congr hagree, hagree.sinkName]
    rfl
  · rw [run_to_printed hname hprinted hoptions, run_printing hdry hprinted, if_pos hnone]
    rcases hsetUp : (Program.setUpLogger (loggerSetup settings)).outcome start with
      ⟨failure | ⟨⟩, opened⟩
    · rw [Act.outcome_bind_error hsetUp, Act.outcome_bind_error hsetUp]
      exact ⟨_, _, _, rfl, rfl, rfl, rfl⟩
    · obtain ⟨-, -, hlevel, hstays⟩ := setUpLogger_of_file hfile hsetUp
      obtain ⟨ending, dried, printed, hdried, hplain, halike⟩ := printRounds_after_remark hlevel
        (hstays _ hquiet) clock pauseFor hunseen limit
      rw [Act.outcome_bind_ok hsetUp, Act.outcome_bind_ok hsetUp]
      exact ⟨ending, dried, printed, hdried, hplain, halike.printed, halike.surroundings⟩
  · exact run_dry_of_options hdry hfile hprinted hoptions hsome clock pauseFor tasks limit hquiet

/-! ### A dry run in place of a file -/

/-- A dry run of a loop that delivers to a file. -/
def dryFile : Settings :=
  { onceWithRetries with sink := "file", sinkSettings := ["file_path=out"], dryRun := true }

/-- A dry run of a loop that delivers to a sink without options. -/
def dryNothing : Settings :=
  { onceWithRetries with sink := "do_nothing", dryRun := true }

theorem ofDotList_path :
    Settings.ofDotList dryFile.sinkSettings = .ok [("file_path", .text "out")] :=
  have hvalue : Settings.ofText "out" = .ok (.text "out") :=
    Sink.ofText_of_scalar rfl (by decide) (by decide) (by decide) (by decide +kernel) rfl
  Sink.ofDotList_singleton (by decide +kernel) (by decide +kernel) hvalue

theorem run_dry_of_nothing_and_file :
    (run { dryNothing with sink := "syslog" } [("stdout", Sink.printedKind)] stillClock
        scriptedPause [usageTask] 1 =
      run dryNothing Sink.shipped stillClock scriptedPause [usageTask] 1) ∧
    (∃ ending dried printed,
      (run dryNothing Sink.shipped stillClock scriptedPause [usageTask] 1).outcome askingWorld =
        (ending, dried) ∧
      (run dryNothing.printing Sink.shipped stillClock scriptedPause [usageTask] 1).outcome
        askingWorld = (ending, printed) ∧
      dried.output.printed = printed.output.printed) ∧
    ∃ failure dried,
      (run dryFile Sink.shipped stillClock scriptedPause [usageTask] 1).outcome askingWorld =
        (.error failure, dried) ∧
      dried.output.printed = "" := by
  have hquiet : askingWorld.loggers.IsQuiet "loop" := by decide +kernel
  have hregistered : Sink.shipped.lookup "stdout" =
      some (Sink.printedKind : Sink.Kind Scripted) := rfl
  have hdry : dryNothing.dryRun = true ∧ dryFile.dryRun = true := ⟨rfl, rfl⟩
  have hnone : Settings.ofDotList dryNothing.sinkSettings = .ok [] := rfl
  have hblind : ∀ task ∈ [usageTask], task.collect.IsBlind := by
    simpa [usageTask] using isBlind_pure _
  obtain ⟨hregistry, hprints, -⟩ := run_dry hdry.1 rfl hregistered hnone stillClock scriptedPause
    (.inr hblind) 1 hquiet
  obtain ⟨-, -, hfails⟩ := run_dry hdry.2 rfl hregistered ofDotList_path stillClock scriptedPause
    (.inr hblind) 1 hquiet
  obtain ⟨ending, dried, printed, hdried, hprinted, hsame, -⟩ := hprints rfl
  obtain ⟨failure, failed, hfailed, hnothing, -⟩ := hfails (by simp)
  exact ⟨hregistry "syslog" _ rfl, ⟨ending, dried, printed, hdried, hprinted, hsame⟩,
    failure, failed, hfailed, hnothing⟩

theorem run_dry_of_file :
    ((Sink.shipped.open' dryFile.sink dryFile.sinkSettings).outcome askingWorld).1.isOk = true ∧
    ∃ dried,
      (run dryFile Sink.shipped stillClock scriptedPause [usageTask] 1).outcome askingWorld =
        (.error ⟨.type, "Stdout() takes no arguments"⟩, dried) ∧
      dried.output.printed = "" ∧
      ((run dryFile.printing Sink.shipped stillClock scriptedPause [usageTask] 1).outcome
        askingWorld).2.output.printed = "[\x7b\"inodes_free\": 1, \"inodes_total\": 10\x7d]\n" := by
  have hquiet : askingWorld.loggers.IsQuiet dryFile.logger := by decide +kernel
  have hregistered : Sink.shipped.lookup "stdout" =
      some (Sink.printedKind : Sink.Kind Scripted) := rfl
  have hdry : dryFile.dryRun = true := rfl
  obtain ⟨failure, dried, hrun, hprinted, -, hfailure⟩ := run_dry_of_options hdry rfl hregistered
    ofDotList_path (by simp) stillClock scriptedPause [usageTask] 1 hquiet
  obtain rfl := hfailure (by decide +kernel)
  refine ⟨?_, dried, hrun, hprinted, by decide +kernel⟩
  rw [Sink.open_of_registered rfl ofDotList_path]
  decide +kernel

end Runs

end Loop

end MountCensus
