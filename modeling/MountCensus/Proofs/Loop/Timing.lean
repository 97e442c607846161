import MountCensus.Proofs.Log.Unseen
import MountCensus.Proofs.Loop.Isolation

/-!
What a loop asks of its clock. In timed surroundings the readings that the clock gives to the loop
and the sleeps that it is asked for are noted, in the order in which they happen. Collectors, sinks
and pauses may do anything with the surroundings behind that, but their programs call no clock of
the loop: lifting them to timed surroundings respects every way in which programs are put together
(`timed_bind`, `timed_onFailure`), and so does all that a loop does with a task (`timed_runTasks`).
A loop in timed surroundings is then the loop itself, and the calls that it leaves behind are those
of its rounds (`notes_rounds`): one reading at the start of a round, one at its end, and a sleep for
what is left of the interval.
-/

set_option autoImplicit false

namespace MountCensus

/-- What a clock has told a loop, or has been told by it. -/
inductive ClockCall where
  | read (reading : Reading)
  | sleep (pause : Reading)
deriving DecidableEq

/-- The calls of a clock so far, and the surroundings behind them. -/
structure Timed (Surroundings : Type) where
  calls : List ClockCall
  rest : Surroundings

variable {Surroundings α β : Type}

def World.timed (world : World Surroundings) (calls : List ClockCall) :
    World (Timed Surroundings) :=
  { world with surroundings := ⟨calls, world.surroundings⟩ }

/-! ### Programs in timed surroundings -/

/-- What the surroundings do, with a note of the calls that it makes. -/
def Act.noting (note : Except Failure α → List ClockCall) (act : Act Surroundings α) :
    Act (Timed Surroundings) α :=
  .ofOutcome fun world ↦
    let (result, after) := act.outcome world.rest
    (result, ⟨world.calls ++ note result, after⟩)

namespace Program

/-- A program behind the calls of a clock. -/
def timed (program : Program Surroundings α) : Program (Timed Surroundings) α :=
  .ofOutcome fun world ↦
    let (result, after) := program.outcome
      { world with surroundings := world.surroundings.rest }
    (result, after.timed world.surroundings.calls)

theorem outcome_timed (program : Program Surroundings α) (world : World Surroundings)
    (calls : List ClockCall) :
    program.timed.outcome (world.timed calls) =
      ((program.outcome world).1, (program.outcome world).2.timed calls) := rfl

theorem ext_timed {program other : Program (Timed Surroundings) α}
    (h : ∀ (world : World Surroundings) calls,
      program.outcome (world.timed calls) = other.outcome (world.timed calls)) :
    program = other :=
  Act.ext fun world ↦
    h { world with surroundings := world.surroundings.rest } world.surroundings.calls

theorem timed_liftM (result : Except Failure α) :
    timed (liftM result : Program Surroundings α) = liftM result := by
  cases result <;> rfl

theorem timed_bind (program : Program Surroundings α) (next : α → Program Surroundings β) :
    (program >>= next).timed = program.timed >>= fun a ↦ (next a).timed := by
  refine ext_timed fun world calls ↦ ?_
  rw [outcome_timed, Act.outcome_bind, Act.outcome_bind, outcome_timed]
  rcases program.outcome world with ⟨_ | _, _⟩ <;> rfl

theorem timed_map (f : α → β) (program : Program Surroundings α) :
    (f <$> program).timed = f <$> program.timed := by
  rw [map_eq_pure_bind, map_eq_pure_bind, timed_bind]
  rfl

theorem timed_onFailure (program : Program Surroundings α)
    (handler : Failure → Program Surroundings α) :
    timed (Act.onFailure program handler) =
      Act.onFailure program.timed fun failure ↦ (handler failure).timed := by
  refine ext_timed fun world calls ↦ ?_
  rw [outcome_timed, Act.outcome_onFailure, Act.outcome_onFailure, outcome_timed]
  rcases program.outcome world with ⟨_ | _, _⟩ <;> rfl

theorem timed_log (logger : String) (entry : Log.Entry) :
    (log logger entry : Program Surroundings Unit).timed = log logger entry :=
  ext_timed fun _ _ ↦ rfl

theorem timed_setUpLogger (setup : Log.Setup) :
    (setUpLogger setup : Program Surroundings Unit).timed = setUpLogger setup :=
  ext_timed fun _ _ ↦ rfl

theorem timed_logged (logger : String) (program : Program Surroundings α) :
    (logged logger program).timed = logged logger program.timed := by
  rw [logged, timed_onFailure, timed_map]
  rfl

theorem timed_ofSurroundings (act : Act Surroundings α) :
    (ofSurroundings act).timed = ofSurroundings (act.noting fun _ ↦ []) := by
  refine ext_timed fun world calls ↦ ?_
  rw [outcome_timed, outcome_ofSurroundings, outcome_ofSurroundings, Act.noting,
    Act.outcome_ofOutcome]
  simp only [World.timed, List.append_nil]

end Program

/-! ### Clocks, sinks and tasks in timed surroundings -/

/-- A clock whose readings and sleeps are noted; a sleep also if it fails. -/
def Clock.timed (clock : Clock Surroundings) : Clock (Timed Surroundings) where
  monotonic := clock.monotonic.noting fun
    | .ok reading => [.read reading]
    | .error _ => []
  unixTime := clock.unixTime.noting fun _ ↦ []
  sleep pause := (clock.sleep pause).noting fun _ ↦ [.sleep pause]

def Task.timed (task : Task Surroundings) : Task (Timed Surroundings) where
  collect := task.collect.timed
  label := task.label

/-- Whatever the task answers with, each of its records fits into a batch, if their size is
limited. -/
def Task.IsPublishable (chunkSize : Int) (task : Task Surroundings) : Prop :=
  0 < chunkSize → ∀ world records after, task.collect.outcome world = (.ok (some records), after) →
    ∀ record ∈ records, Chunked.Fits Delivery.recordSize chunkSize record

namespace Sink

def timed (sink : Sink Surroundings) : Sink (Timed Surroundings) :=
  fun batch label ↦ (sink batch label).timed

def Kind.timed (kind : Kind Surroundings) : Kind (Timed Surroundings) where
  className := kind.className
  home := kind.home
  signature := kind.signature
  make arguments := Option.map Sink.timed <$> (kind.make arguments).timed

def Registry.timed (registry : Registry Surroundings) : Registry (Timed Surroundings) :=
  registry.map fun (name, kind) ↦ (name, kind.timed)

theorem Registry.lookup_timed (registry : Registry Surroundings) (name : String) :
    registry.timed.lookup name = (registry.lookup name).map Kind.timed := by
  unfold timed
  induction registry with
  | nil => rfl
  | cons entry registry ih =>
    rw [List.map_cons, List.lookup_cons, List.lookup_cons, ih]
    cases name == entry.1 <;> rfl

theorem notFound_timed (name : String) (registry : Registry Surroundings) :
    notFound name registry.timed = notFound name registry := by
  rw [notFound, notFound, Registry.timed, List.map_map]
  rfl

theorem Kind.refusal?_timed (kind : Kind Surroundings) (given : List String) :
    kind.timed.refusal? given = kind.refusal? given := rfl

/-- In timed surroundings, what is opened is the same sink. -/
theorem Registry.open_timed (registry : Registry Surroundings) (name : String)
    (settings : List String) :
    registry.timed.open' name settings = Sink.timed <$> (registry.open' name settings).timed := by
  unfold Registry.open'
  rw [Registry.lookup_timed, notFound_timed]
  cases registry.lookup name with
  | none => rfl
  | some kind =>
    simp only [Option.map_some, Program.timed_bind, Program.timed_liftM, map_bind,
      Kind.refusal?_timed]
    refine bind_congr fun options ↦ ?_
    cases kind.refusal? (options.map (·.1)) with
    | some refusal => rfl
    | none =>
      simp only [Program.timed_bind, Program.timed_liftM, map_bind]
      refine bind_congr fun arguments ↦ ?_
      rw [Kind.timed, bind_map_left]
      refine bind_congr fun made ↦ ?_
      cases made <;> rfl

end Sink

namespace Loop

/-! ### What a loop does with a task -/

section Tasks

variable (settings : Settings) (pauseFor : Int → Program Surroundings Unit)

theorem timed_note (level : Log.Level) (text : String) :
    (note settings level text : Program Surroundings Unit).timed = note settings level text :=
  Program.timed_log _ _

theorem timed_attempt (sink : Sink Surroundings) (label : Label) (batch : Batch) :
    (attempt settings sink label batch).timed = attempt settings sink.timed label batch := by
  rw [attempt, Program.timed_bind, Program.timed_logged]
  rfl

theorem timed_attempts (pause : Nat → Int) (act : Program Surroundings α) (left : Nat) :
    ∀ k, Program.timed (Retry.attempts pauseFor pause act left k) =
      Retry.attempts (fun seconds ↦ (pauseFor seconds).timed) pause act.timed left k := by
  induction left with
  | zero =>
    intro k
    rw [Retry.attempts, Retry.attempts, Program.timed_onFailure]
    rfl
  | succ left ih =>
    intro k
    rw [Retry.attempts, Retry.attempts, Program.timed_onFailure]
    refine congrArg _ (funext fun failure ↦ ?_)
    split
    · rw [Program.timed_bind]
      exact bind_congr fun _ ↦ ih (k + 1)
    · rfl

theorem timed_deliverBatch (write : Batch → Program Surroundings Unit) (retries : Int)
    (batch : Batch) :
    Program.timed (Delivery.deliverBatch write pauseFor retries batch) =
      Delivery.deliverBatch (fun batch ↦ (write batch).timed)
        (fun seconds ↦ (pauseFor seconds).timed) retries batch := by
  rw [Delivery.deliverBatch, Program.timed_bind, Program.timed_liftM]
  exact bind_congr fun schedule ↦ timed_attempts pauseFor schedule.pause (write batch) _ 0

theorem timed_deliverAll (write : Batch → Program Surroundings Unit) (retries time : Int)
    (failure : Option Failure) (chunks : List (List Record)) :
    Program.timed (Delivery.deliverAll write pauseFor retries time failure chunks) =
      Delivery.deliverAll (fun batch ↦ (write batch).timed)
        (fun seconds ↦ (pauseFor seconds).timed) retries time failure chunks := by
  induction chunks with
  | nil => cases failure <;> rfl
  | cons records chunks ih =>
    rw [Delivery.deliverAll, Program.timed_bind, timed_deliverBatch, ih]
    rfl

theorem timed_deliver (write : Batch → Program Surroundings Unit) (sink : String)
    (chunkSize retries time : Int) (records : List Record) :
    Program.timed (Delivery.deliver write pauseFor sink chunkSize retries time records) =
      Delivery.deliver (fun batch ↦ (write batch).timed)
        (fun seconds ↦ (pauseFor seconds).timed) sink chunkSize retries time records := by
  rw [Delivery.deliver, Program.timed_onFailure, timed_deliverAll]
  rfl

end Tasks

/-- Pauses between attempts are no calls of the loop. -/
def timedPause (pauseFor : Int → Act Surroundings Unit) : Int → Act (Timed Surroundings) Unit :=
  fun seconds ↦ (pauseFor seconds).noting fun _ ↦ []

variable (settings : Settings) (pauseFor : Int → Act Surroundings Unit)
  (sink : Sink Surroundings)

theorem timed_runTask (time : Int) (task : Task Surroundings) :
    (runTask settings pauseFor sink time task).timed =
      runTask settings (timedPause pauseFor) sink.timed time task.timed := by
  rw [runTask, runTask, Program.timed_bind, Program.timed_logged]
  refine bind_congr fun answer ↦ ?_
  cases answer.join with
  | none => rfl
  | some records =>
    simp only [debug, Program.timed_bind, timed_note, timed_deliver, Program.timed_ofSurroundings,
      timed_attempt]
    rfl

theorem timed_runTasks (time : Int) (tasks : List (Task Surroundings)) :
    (runTasks settings pauseFor sink time tasks).timed =
      runTasks settings (timedPause pauseFor) sink.timed time (tasks.map Task.timed) := by
  induction tasks with
  | nil => rfl
  | cons task tasks ih =>
    rw [List.map_cons, runTasks, runTasks, Program.timed_bind, timed_runTask, ih]

theorem opening_timed (registry : Sink.Registry Surroundings) :
    opening settings registry.timed = Sink.timed <$> (opening settings registry).timed := by
  unfold opening
  cases settings.dryRun <;>
    simp only [Bool.false_eq_true, if_false, if_true, Program.timed_bind, Sink.Registry.open_timed,
      map_bind, debug, timed_note, Program.timed_setUpLogger]

/-! ### The calls of a program -/

/-- In timed surroundings the one program does what the other one does. The calls that it leaves
behind are as they should be for the result. -/
def Notes (program : Program (Timed Surroundings) α) (plain : Program Surroundings α)
    (P : Except Failure α → List ClockCall → Prop) : Prop :=
  ∀ (world : World Surroundings) calls, ∃ more,
    program.outcome (world.timed calls) =
      ((plain.outcome world).1, (plain.outcome world).2.timed (calls ++ more)) ∧
    P (plain.outcome world).1 more

section Notes

variable {P : Except Failure β → List ClockCall → Prop}

theorem notes_pure {b : β} (h : P (.ok b) []) :
    Notes (pure b) (pure b : Program Surroundings β) P :=
  fun world calls ↦ ⟨[], by rw [List.append_nil]; rfl, h⟩

/-- A program that calls no clock comes first. -/
theorem notes_timed_bind {program : Program Surroundings α}
    {next : α → Program (Timed Surroundings) β} {plain : α → Program Surroundings β}
    (herror : ∀ world failure, (program.outcome world).1 = .error failure → P (.error failure) [])
    (hok : ∀ a, Notes (next a) (plain a) P) :
    Notes (program.timed >>= next) (program >>= plain) P := by
  intro world calls
  have htimed := Program.outcome_timed program world calls
  rcases houtcome : program.outcome world with ⟨failure | a, after⟩
  · rw [houtcome] at htimed
    refine ⟨[], ?_, ?_⟩
    · rw [Act.outcome_bind_error htimed, Act.outcome_bind_error houtcome, List.append_nil]
    · rw [Act.outcome_bind_error houtcome]
      exact herror world failure (by rw [houtcome])
  · rw [houtcome] at htimed
    rw [Act.outcome_bind_ok htimed, Act.outcome_bind_ok houtcome]
    exact hok a after calls

/-- A call of the clock comes first. -/
theorem notes_noting_bind {note : Except Failure α → List ClockCall} {act : Act Surroundings α}
    {next : α → Program (Timed Surroundings) β} {plain : α → Program Surroundings β}
    (herror : ∀ now failure, (act.outcome now).1 = .error failure →
      P (.error failure) (note (.error failure)))
    (hok : ∀ a, Notes (next a) (plain a) fun result more ↦ P result (note (.ok a) ++ more)) :
    Notes (Program.ofSurroundings (act.noting note) >>= next)
      (Program.ofSurroundings act >>= plain) P := by
  intro world calls
  have hplain := Program.outcome_ofSurroundings act world
  have hnoting : (Program.ofSurroundings (act.noting note)).outcome (world.timed calls) =
      ((act.outcome world.surroundings).1,
        World.timed { world with surroundings := (act.outcome world.surroundings).2 }
          (calls ++ note (act.outcome world.surroundings).1)) := rfl
  rcases houtcome : act.outcome world.surroundings with ⟨failure | a, later⟩
  · rw [houtcome] at hplain hnoting
    refine ⟨note (.error failure), ?_, ?_⟩
    · rw [Act.outcome_bind_error hnoting, Act.outcome_bind_error hplain]
    · rw [Act.outcome_bind_error hplain]
      exact herror world.surroundings failure (by rw [houtcome])
  · rw [houtcome] at hplain hnoting
    rw [Act.outcome_bind_ok hnoting, Act.outcome_bind_ok hplain]
    obtain ⟨more, hmore, hP⟩ := hok a { world with surroundings := later }
      (calls ++ note (.ok a))
    exact ⟨note (.ok a) ++ more, by rw [hmore, List.append_assoc], hP⟩

section Clock

variable {clock : Clock Surroundings}

theorem notes_monotonic {next : Reading → Program (Timed Surroundings) β}
    {plain : Reading → Program Surroundings β}
    (herror : ∀ failure, clock.Fails failure → P (.error failure) [])
    (hok : ∀ reading, Notes (next reading) (plain reading) fun result more ↦
      P result (.read reading :: more)) :
    Notes (Program.ofSurroundings clock.timed.monotonic >>= next)
      (Program.ofSurroundings clock.monotonic >>= plain) P := by
  simp only [Clock.timed]
  exact notes_noting_bind (fun now failure h ↦ herror failure (.inl ⟨now, h⟩)) hok

theorem notes_unixTime {next : Int → Program (Timed Surroundings) β}
    {plain : Int → Program Surroundings β}
    (herror : ∀ failure, clock.Fails failure → P (.error failure) [])
    (hok : ∀ time, Notes (next time) (plain time) P) :
    Notes (Program.ofSurroundings clock.timed.unixTime >>= next)
      (Program.ofSurroundings clock.unixTime >>= plain) P := by
  simp only [Clock.timed]
  exact notes_noting_bind (fun now failure h ↦ herror failure (.inr (.inl ⟨now, h⟩))) hok

theorem notes_sleep {pause : Reading} {next : Unit → Program (Timed Surroundings) β}
    {plain : Unit → Program Surroundings β}
    (herror : ∀ failure, clock.Fails failure → P (.error failure) [.sleep pause])
    (hok : Notes (next ()) (plain ()) fun result more ↦ P result (.sleep pause :: more)) :
    Notes (Program.ofSurroundings (clock.timed.sleep pause) >>= next)
      (Program.ofSurroundings (clock.sleep pause) >>= plain) P := by
  simp only [Clock.timed]
  exact notes_noting_bind (fun now failure h ↦ herror failure (.inr (.inr ⟨pause, now, h⟩)))
    fun _ ↦ hok

end Clock

theorem Notes.note {program : Program (Timed Surroundings) β} {plain : Program Surroundings β}
    (h : Notes program plain P) (settings : Settings) (level : Log.Level) (text : String) :
    Notes (Loop.note settings level text >>= fun _ ↦ program)
      (Loop.note settings level text >>= fun _ ↦ plain) P :=
  fun world calls ↦ h ((Loop.note settings level text).outcome world).2 calls

end Notes

/-! ### The calls of the rounds -/

/-- A round that has come to its end, by the readings at its start and at its end. -/
structure Lap where
  started : Reading
  ended : Reading

/-- The sleep after a round. -/
def Lap.pause (interval : Int) (lap : Lap) : Reading :=
  remaining interval (lap.ended.sub lap.started)

def Lap.calls (interval : Int) (lap : Lap) : List ClockCall :=
  [.read lap.started, .read lap.ended, .sleep (lap.pause interval)]

/-- The rounds that have come to their end, and the start of one more if it has not. -/
structure Timeline where
  laps : List Lap
  begun : Option Reading

namespace Timeline

def starts (timeline : Timeline) : List Reading :=
  timeline.laps.map Lap.started ++ timeline.begun.toList

def calls (interval : Int) (timeline : Timeline) : List ClockCall :=
  timeline.laps.flatMap (Lap.calls interval) ++ timeline.begun.toList.map .read

/-- The timeline with one more round before all others. -/
def cons (lap : Lap) (timeline : Timeline) : Timeline :=
  { timeline with laps := lap :: timeline.laps }

/-- As many rounds as are asked for, unless there is a failure before. -/
def IsFull (limit : Nat) (Fails : Failure → Prop) (result : Except Failure Ending)
    (timeline : Timeline) : Prop :=
  (result = .ok .cutOff ∧ timeline.laps.length = limit ∧ timeline.begun = none) ∨
    (timeline.starts.length ≤ limit ∧ ∃ failure, result = .error failure ∧ Fails failure)

theorem calls_cons (interval : Int) (lap : Lap) (timeline : Timeline) :
    (cons lap timeline).calls interval = lap.calls interval ++ timeline.calls interval :=
  List.append_assoc _ _ _

theorem IsFull.mono {limit : Nat} {Fails Fails' : Failure → Prop} {result : Except Failure Ending}
    {timeline : Timeline} (h : timeline.IsFull limit Fails result)
    (hfails : ∀ failure, Fails failure → Fails' failure) : timeline.IsFull limit Fails' result :=
  Or.imp_right (And.imp_right (Exists.imp fun failure ↦ And.imp_right (hfails failure))) h

/-- The calls of rounds that end with the given result. -/
def Accounts (interval : Int) (limit : Nat) (Fails : Failure → Prop)
    (result : Except Failure Ending) (calls : List ClockCall) : Prop :=
  ∃ timeline : Timeline, calls = timeline.calls interval ∧ timeline.IsFull limit Fails result

section Accounts

variable {interval : Int} {limit : Nat} {Fails : Failure → Prop} {failure : Failure}

theorem accounts_of_none (h : Fails failure) :
    Accounts interval limit Fails (.error failure) [] :=
  ⟨⟨[], none⟩, rfl, .inr ⟨Nat.zero_le limit, failure, rfl, h⟩⟩

theorem accounts_of_begun (h : Fails failure) (started : Reading) :
    Accounts interval (limit + 1) Fails (.error failure) [.read started] :=
  ⟨⟨[], some started⟩, rfl, .inr ⟨Nat.succ_le_succ (Nat.zero_le limit), failure, rfl, h⟩⟩

theorem accounts_of_lap (h : Fails failure) (lap : Lap) :
    Accounts interval (limit + 1) Fails (.error failure) (lap.calls interval) :=
  ⟨⟨[lap], none⟩, rfl, .inr ⟨Nat.succ_le_succ (Nat.zero_le limit), failure, rfl, h⟩⟩

theorem Accounts.cons {result : Except Failure Ending} {calls : List ClockCall}
    (h : Accounts interval limit Fails result calls) (lap : Lap) :
    Accounts interval (limit + 1) Fails result (lap.calls interval ++ calls) := by
  obtain ⟨timeline, rfl, hfull⟩ := h
  refine ⟨timeline.cons lap, (calls_cons interval lap timeline).symm, ?_⟩
  exact hfull.imp (And.imp_right (And.imp_left (congrArg Nat.succ)))
    (And.imp_left Nat.succ_le_succ)

end Accounts

end Timeline

/-- What may end rounds before they are over: the clock, or the records of a task. -/
def Interrupts (settings : Settings) (clock : Clock Surroundings)
    (pauseFor : Int → Act Surroundings Unit) (sink : Sink Surroundings)
    (tasks : List (Task Surroundings)) (failure : Failure) : Prop :=
  clock.Fails failure ∨
    ∃ time world, ((runTasks settings pauseFor sink time tasks).outcome world).1 = .error failure

/-- Rounds in timed surroundings are the same rounds, and the calls are all in their timeline. -/
theorem notes_rounds {settings : Settings} (honce : settings.once = false)
    (clock : Clock Surroundings) (pauseFor : Int → Act Surroundings Unit)
    (sink : Sink Surroundings) (tasks : List (Task Surroundings)) (limit : Nat) :
    Notes
      (rounds settings clock.timed (timedPause pauseFor) sink.timed (tasks.map Task.timed) limit)
      (rounds settings clock pauseFor sink tasks limit)
      (Timeline.Accounts settings.interval limit
        (Interrupts settings clock pauseFor sink tasks)) := by
  induction limit with
  | zero => exact notes_pure ⟨⟨[], none⟩, rfl, .inl ⟨rfl, rfl, rfl⟩⟩
  | succ limit ih =>
    simp only [rounds, honce, ← timed_runTasks, Bool.false_eq_true, if_false]
    refine Notes.note ?_ settings _ _
    refine notes_monotonic (fun _ h ↦ Timeline.accounts_of_none (.inl h)) fun started ↦ ?_
    refine notes_unixTime (fun _ h ↦ Timeline.accounts_of_begun (.inl h) started) fun time ↦ ?_
    refine notes_timed_bind
      (fun world _ h ↦ Timeline.accounts_of_begun (.inr ⟨time, world, h⟩) started) fun _ ↦ ?_
    refine notes_monotonic (fun _ h ↦ Timeline.accounts_of_begun (.inl h) started) fun ended ↦ ?_
    refine Notes.note (Notes.note ?_ settings _ _) settings _ _
    refine notes_sleep (fun _ h ↦ Timeline.accounts_of_lap (.inl h) ⟨started, ended⟩) ?_
    intro world calls
    obtain ⟨more, houtcome, hmore⟩ := ih world calls
    exact ⟨more, houtcome, hmore.cons ⟨started, ended⟩⟩

/-! ### Records that can be published -/

section Publishable

variable {settings : Settings} {tasks : List (Task Surroundings)}

theorem deliverOnce_ok (sink : Sink Surroundings) (label : Label) (time : Int)
    {records : List Record}
    (hfailure : (Delivery.batches settings.chunkSize records).failure = none) :
    Act.NeverFails (deliverOnce settings sink label time records) := by
  rw [deliverOnce, hfailure]
  exact (attemptAll_ok settings sink label time _).bind fun _ ↦ Act.neverFails_pure ()

theorem runTask_ok (hnonneg : 0 ≤ settings.retries) (hlimit : settings.retries ≤ Schedule.sizeLimit)
    (pauseFor : Int → Act Surroundings Unit) (sink : Sink Surroundings) (time : Int)
    {task : Task Surroundings} (htask : task.IsPublishable settings.chunkSize) :
    Act.NeverFails (runTask settings pauseFor sink time task) := by
  intro world
  have hlogged := Program.outcome_logged settings.logger task.collect world
  rw [runTask]
  rcases hcollect : task.collect.outcome world with ⟨_ | _ | records, middle⟩
  · rw [hcollect] at hlogged
    exact ⟨(), _, Act.outcome_bind_ok hlogged⟩
  · rw [hcollect] at hlogged
    exact ⟨(), _, Act.outcome_bind_ok hlogged⟩
  · rw [hcollect] at hlogged
    have hfailure := Delivery.failure_batches fun hpos ↦ htask hpos world records middle hcollect
    rw [Act.outcome_bind_ok hlogged]
    simp only [Option.join_some, deliver_attempt hnonneg hlimit]
    have hrest : Act.NeverFails (deliverOnce settings sink task.label time records >>= fun _ ↦
        debug settings ("succeeded writing " ++ settings.logger ++ " data to sink " ++
          settings.sinkName)) :=
      (deliverOnce_ok sink task.label time hfailure).bind fun _ world ↦ ⟨(), _, rfl⟩
    exact hrest _

theorem runTasks_ok (hnonneg : 0 ≤ settings.retries)
    (hlimit : settings.retries ≤ Schedule.sizeLimit) (pauseFor : Int → Act Surroundings Unit)
    (sink : Sink Surroundings) (time : Int)
    (htasks : ∀ task ∈ tasks, task.IsPublishable settings.chunkSize) :
    Act.NeverFails (runTasks settings pauseFor sink time tasks) := by
  induction tasks with
  | nil => exact Act.neverFails_pure ()
  | cons task tasks ih =>
    obtain ⟨htask, hmore⟩ := List.forall_mem_cons.mp htasks
    exact (runTask_ok hnonneg hlimit pauseFor sink time htask).bind fun _ ↦ ih hmore

/-- Records that can be published do not end the rounds. -/
theorem Interrupts.clock_fails {clock : Clock Surroundings}
    {pauseFor : Int → Act Surroundings Unit} {sink : Sink Surroundings} {failure : Failure}
    (h : Interrupts settings clock pauseFor sink tasks failure) (hnonneg : 0 ≤ settings.retries)
    (hlimit : settings.retries ≤ Schedule.sizeLimit)
    (htasks : ∀ task ∈ tasks, task.IsPublishable settings.chunkSize) : clock.Fails failure := by
  obtain hclock | ⟨time, world, hfailure⟩ := h
  · exact hclock
  · obtain ⟨_, after, hok⟩ := runTasks_ok hnonneg hlimit pauseFor sink time htasks world
    rw [hok] at hfailure
    cases hfailure

end Publishable

end Loop

end MountCensus
