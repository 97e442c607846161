import MountCensus.Loop
import MountCensus.Proofs.Delivery.Blocks

/-!
What becomes of a batch in the loop. An attempt of the loop never fails, since its failure goes to
the log (`outcome_attempt`); what asks for another attempt is a failure, so it is passed over too
(`deliverBatch_attempt`), and every batch is written exactly once whatever the retries
(`deliver_attempt`). An attempt that let such a failure through (`askingAttempt`) would have the
batch written again; the two agree on a batch exactly when the sink does not ask.
-/

set_option autoImplicit false

namespace MountCensus

/-! ### Attempts that cannot fail -/

namespace Program

variable {Surroundings α : Type}

/-- The world after the entry of a failure in a log. -/
def afterEntry (logger : String) (failure : Failure) (world : World Surroundings) :
    World Surroundings :=
  ((log logger ⟨.error, "An exception occurred", some failure⟩).outcome world).2

theorem outcome_logged (logger : String) (act : Program Surroundings α)
    (world : World Surroundings) :
    (logged logger act).outcome world =
      match act.outcome world with
      | (.ok a, after) => (.ok (some a), after)
      | (.error failure, after) => (.ok none, afterEntry logger failure after) := by
  rw [logged, Act.outcome_onFailure, Act.outcome_map]
  rcases act.outcome world with ⟨_ | _, _⟩ <;> rfl

end Program

namespace Retry

variable {World α : Type}

/-- What never fails is done once, whatever the schedule. -/
theorem withSchedule_eq_self {act : Act World α} (hok : act.NeverFails) (schedule : Schedule)
    (pauseFor : Int → Act World Unit) : withSchedule schedule pauseFor act = act := by
  refine Act.ext fun world ↦ ?_
  obtain ⟨a, after, h⟩ := hok world
  rw [withSchedule, h]
  cases schedule.size with
  | zero => rw [outcome_attempts_zero, h]
  | succ left => rw [outcome_attempts_succ, h]

end Retry

namespace Loop

open Retry

variable {Surroundings : Type}

theorem outcome_attempt (settings : Settings) (sink : Sink Surroundings) (label : Label)
    (batch : Batch) (world : World Surroundings) :
    (attempt settings sink label batch).outcome world =
      match (sink batch label).outcome world with
      | (.ok (), after) => (.ok (), after)
      | (.error failure, after) =>
        (.ok (), Program.afterEntry settings.logger failure after) := by
  rw [attempt, Act.outcome_bind, Program.outcome_logged]
  rcases (sink batch label).outcome world with ⟨_ | _, _⟩ <;> rfl

theorem attempt_ok (settings : Settings) (sink : Sink Surroundings) (label : Label)
    (batch : Batch) : Act.NeverFails (attempt settings sink label batch) := by
  intro world
  rw [outcome_attempt]
  rcases (sink batch label).outcome world with ⟨_ | _, after⟩ <;> exact ⟨(), _, rfl⟩

/-! ### What the loop does with its batches -/

section Once

variable {settings : Settings}

/-- Batches attempted one after the other, each of them once. -/
def attemptAll (settings : Settings) (sink : Sink Surroundings) (label : Label) (time : Int) :
    List (List Record) → Program Surroundings Unit
  | [] => pure ()
  | records :: rest => do
    attempt settings sink label ⟨time, records⟩
    attemptAll settings sink label time rest

/-- The delivery of some records when every batch is attempted once. Only batches that cannot be
made keep it from succeeding. -/
def deliverOnce (settings : Settings) (sink : Sink Surroundings) (label : Label) (time : Int)
    (records : List Record) : Program Surroundings Unit := do
  let chunked := Delivery.batches settings.chunkSize records
  attemptAll settings sink label time chunked.chunks
  match chunked.failure with
  | none => pure ()
  | some failure => throw (Delivery.explain settings.sinkName settings.retries failure)

theorem deliverBatch_attempt (hnonneg : 0 ≤ settings.retries)
    (hlimit : settings.retries ≤ Schedule.sizeLimit) (sink : Sink Surroundings) (label : Label)
    (pauseFor : Int → Program Surroundings Unit) (batch : Batch) :
    Delivery.deliverBatch (attempt settings sink label) pauseFor settings.retries batch =
      attempt settings sink label batch := by
  rw [Delivery.deliverBatch_eq hnonneg hlimit]
  exact withSchedule_eq_self (attempt_ok settings sink label batch) _ _

theorem deliverAll_attempt (hnonneg : 0 ≤ settings.retries)
    (hlimit : settings.retries ≤ Schedule.sizeLimit) (sink : Sink Surroundings) (label : Label)
    (pauseFor : Int → Program Surroundings Unit) (time : Int) (failure : Option Failure)
    (chunks : List (List Record)) :
    Delivery.deliverAll (attempt settings sink label) pauseFor settings.retries time failure
        chunks =
      attemptAll settings sink label time chunks >>= fun _ ↦ failure.elim (pure ()) throw := by
  induction chunks with
  | nil => cases failure <;> rfl
  | cons records chunks ih =>
    rw [Delivery.deliverAll, deliverBatch_attempt hnonneg hlimit, ih, attemptAll, bind_assoc]

theorem attemptAll_ok (settings : Settings) (sink : Sink Surroundings) (label : Label) (time : Int)
    (chunks : List (List Record)) :
    Act.NeverFails (attemptAll settings sink label time chunks) := by
  induction chunks with
  | nil => exact Act.neverFails_pure ()
  | cons records chunks ih => exact (attempt_ok settings sink label ⟨time, records⟩).bind fun _ ↦ ih

/-- Every batch is attempted exactly once, whatever the sink answers and whatever the retries. -/
theorem deliver_attempt (hnonneg : 0 ≤ settings.retries)
    (hlimit : settings.retries ≤ Schedule.sizeLimit) (sink : Sink Surroundings) (label : Label)
    (pauseFor : Int → Program Surroundings Unit) (time : Int) (records : List Record) :
    Delivery.deliver (attempt settings sink label) pauseFor settings.sinkName settings.chunkSize
        settings.retries time records =
      deliverOnce settings sink label time records := by
  refine Act.ext fun world ↦ ?_
  obtain ⟨_, after, hall⟩ := attemptAll_ok settings sink label time
    (Delivery.batches settings.chunkSize records).chunks world
  rw [Delivery.deliver, deliverAll_attempt hnonneg hlimit, Act.outcome_onFailure,
    Act.outcome_bind_ok hall, deliverOnce, Act.outcome_bind_ok hall]
  cases (Delivery.batches settings.chunkSize records).failure <;> rfl

end Once

/-! ### Rounds by what delivers their records -/

section Rounds

variable (settings : Settings) (deliver : Label → Int → List Record → Program Surroundings Unit)

/-- A task of a round whose records are handed to `deliver`. -/
def runTaskBy (time : Int) (task : Task Surroundings) : Program Surroundings Unit := do
  match (← Program.logged settings.logger task.collect).join with
  | none => note settings .warning ("could not collect " ++ settings.logger ++ " data")
  | some records =>
    debug settings ("will write " ++ settings.logger ++ " data to sink " ++ settings.sinkName)
    deliver task.label time records
    debug settings
      ("succeeded writing " ++ settings.logger ++ " data to sink " ++ settings.sinkName)

def runTasksBy (time : Int) : List (Task Surroundings) → Program Surroundings Unit
  | [] => pure ()
  | task :: rest => do
    runTaskBy settings deliver time task
    runTasksBy time rest

/-- At most the given number of rounds, all of whose records are handed to `deliver`. -/
def roundsBy (clock : Clock Surroundings) (tasks : List (Task Surroundings)) :
    Nat → Program Surroundings Ending
  | 0 => return .cutOff
  | more + 1 => do
    debug settings ("starting new data collection for " ++ settings.logger)
    let started ← Program.ofSurroundings clock.monotonic
    let time ← Program.ofSurroundings clock.unixTime
    runTasksBy settings deliver time tasks
    if settings.once then
      debug settings "stopping data collection due to `--once`"
      return .finished
    let taken := (← Program.ofSurroundings clock.monotonic).sub started
    let rest := remaining settings.interval taken
    debug settings ("last data collection took " ++ toString taken.truncate ++ " seconds")
    debug settings
      ("will sleep " ++ toString rest.truncate ++ " seconds before starting next collection")
    Program.ofSurroundings (clock.sleep rest)
    roundsBy clock tasks more

end Rounds

/-- The delivery of some records by attempts of a given kind. -/
def deliverBy (settings : Settings) (pauseFor : Int → Act Surroundings Unit)
    (attempt : Label → Batch → Program Surroundings Unit) (label : Label) (time : Int)
    (records : List Record) : Program Surroundings Unit :=
  Delivery.deliver (attempt label) (fun seconds ↦ Program.ofSurroundings (pauseFor seconds))
    settings.sinkName settings.chunkSize settings.retries time records

theorem runTasks_eq_by (settings : Settings) (pauseFor : Int → Act Surroundings Unit)
    (sink : Sink Surroundings) (time : Int) (tasks : List (Task Surroundings)) :
    runTasks settings pauseFor sink time tasks =
      runTasksBy settings (deliverBy settings pauseFor (attempt settings sink)) time tasks := by
  induction tasks with
  | nil => rfl
  | cons task tasks ih =>
    rw [runTasks, runTasksBy, ih]
    rfl

theorem rounds_eq_by (settings : Settings) (clock : Clock Surroundings)
    (pauseFor : Int → Act Surroundings Unit) (sink : Sink Surroundings)
    (tasks : List (Task Surroundings)) (limit : Nat) :
    rounds settings clock pauseFor sink tasks limit =
      roundsBy settings (deliverBy settings pauseFor (attempt settings sink)) clock tasks
        limit := by
  induction limit with
  | zero => rfl
  | succ limit ih =>
    rw [rounds, roundsBy, ih]
    simp only [runTasks_eq_by]

/-! ### Batches that are asked for again -/

/-- An attempt that lets those through who ask for another one. -/
def askingAttempt (settings : Settings) (sink : Sink Surroundings) (label : Label)
    (batch : Batch) : Program Surroundings Unit :=
  (sink batch label).onFailure fun failure ↦
    if failure.kind = .retry then throw failure
    else Program.log settings.logger ⟨.error, "An exception occurred", some failure⟩

theorem askingAttempt_eq (settings : Settings) {sink : Sink Surroundings}
    (hsink : ∀ batch label world failure, ((sink batch label).outcome world).1 = .error failure →
      failure.kind ≠ .retry) :
    askingAttempt settings sink = attempt settings sink := by
  funext label batch
  refine Act.ext fun world ↦ ?_
  rw [askingAttempt, Act.outcome_onFailure, outcome_attempt]
  rcases hanswer : (sink batch label).outcome world with ⟨failure | _, after⟩
  · have hkind : failure.kind ≠ .retry := hsink batch label world failure (by rw [hanswer])
    simp only [hkind, if_false]
    rfl
  · rfl

/-- A sink in recorded surroundings. -/
def recordedSink {State : Type} (answer : Batch → Label → Act State Unit) :
    Sink (Recorded State Batch Unit) :=
  fun batch label ↦ Program.ofSurroundings (recorded batch (answer batch label))

/-- The delivery of one batch in the loop leaves a single call behind, and succeeds. -/
theorem deliverBatch_attempt_recorded {State : Type} {settings : Settings}
    (hnonneg : 0 ≤ settings.retries) (hlimit : settings.retries ≤ Schedule.sizeLimit)
    (answer : Batch → Label → Act State Unit) (label : Label) (batch : Batch)
    (pauseFor : Int → Program (Recorded State Batch Unit) Unit)
    (world : World (Recorded State Batch Unit)) :
    ∃ after : World (Recorded State Batch Unit),
      (Delivery.deliverBatch (attempt settings (recordedSink answer) label) pauseFor
          settings.retries batch).outcome world = (.ok (), after) ∧
      after.surroundings.events = world.surroundings.events ++
        [.call batch ((answer batch label).outcome world.surroundings.state).1] := by
  have hsink : (recordedSink answer batch label).outcome world =
      (((answer batch label).outcome world.surroundings.state).1,
        { world with surroundings :=
          ⟨((answer batch label).outcome world.surroundings.state).2,
            world.surroundings.events ++
              [.call batch ((answer batch label).outcome world.surroundings.state).1]⟩ }) := rfl
  rw [deliverBatch_attempt hnonneg hlimit, outcome_attempt, hsink]
  rcases (answer batch label).outcome world.surroundings.state with ⟨failure | _, state⟩
  · exact ⟨_, rfl, rfl⟩
  · exact ⟨_, rfl, rfl⟩

theorem length_eventsFrom {Call Answer : Type} (pause : Nat → Int) (what : Call)
    (final : Except Failure Answer) (asks : List Failure) :
    ∀ k, (eventsFrom pause what final k asks).length = 2 * asks.length + 1 := by
  induction asks with
  | nil => exact fun _ ↦ rfl
  | cons ask asks ih =>
    intro k
    simp only [eventsFrom, List.length_cons, ih]
    omega

/-- The loop writes every batch once: it is the loop in which no batch is ever written again, and
the loop that lets sinks ask for another attempt only for those that never do. A batch that is asked
for again some number of times and then accepted gets the calls and pauses that the schedule has for
it only if that number is zero, and one that is asked for again without end does not end the
loop. -/
theorem rounds_never_retry {settings : Settings} (hnonneg : 0 ≤ settings.retries)
    (hlimit : settings.retries ≤ Schedule.sizeLimit) :
    (∀ (clock : Clock Surroundings) (pauseFor : Int → Act Surroundings Unit)
      (sink : Sink Surroundings) (tasks : List (Task Surroundings)) (limit : Nat),
      rounds settings clock pauseFor sink tasks limit =
        roundsBy settings (deliverOnce settings sink) clock tasks limit ∧
      ((∀ batch label world failure, ((sink batch label).outcome world).1 = .error failure →
          failure.kind ≠ .retry) →
        rounds settings clock pauseFor sink tasks limit =
          roundsBy settings (deliverBy settings pauseFor (askingAttempt settings sink)) clock tasks
            limit)) ∧
    ∀ {State : Type} (answer : Batch → Label → Act State Unit) (wait : Int → State → State)
      (label : Label) (batch : Batch) (asks : List Failure)
      (world : World (Recorded State Batch Unit)),
      ((answer batch label).outcome world.surroundings.state).1 =
          asks.head?.elim (.ok ()) .error →
        ∃ after : World (Recorded State Batch Unit),
          (Delivery.deliverBatch (attempt settings (recordedSink answer) label)
              (fun seconds ↦ Program.ofSurroundings (recordedPause wait seconds)) settings.retries
              batch).outcome world = (.ok (), after) ∧
          (after.surroundings.events = world.surroundings.events ++
              eventsFrom Delivery.doublingPause batch (.ok ()) 0 asks ↔
            asks = []) := by
  constructor
  · intro clock pauseFor sink tasks limit
    rw [rounds_eq_by]
    constructor
    · have honce : deliverBy settings pauseFor (attempt settings sink) =
          deliverOnce settings sink := by
        funext label time records
        exact deliver_attempt hnonneg hlimit sink label _ time records
      rw [honce]
    · intro hsink
      rw [askingAttempt_eq settings hsink]
  · intro State answer wait label batch asks world hanswer
    obtain ⟨after, houtcome, hevents⟩ := deliverBatch_attempt_recorded hnonneg hlimit answer label
      batch (fun seconds ↦ Program.ofSurroundings (recordedPause wait seconds)) world
    refine ⟨after, houtcome, ?_⟩
    rw [hevents, hanswer, List.append_cancel_left_eq]
    constructor
    · intro heq
      have hlength := congrArg List.length heq
      rw [length_eventsFrom, List.length_singleton] at hlength
      exact List.eq_nil_of_length_eq_zero (by omega)
    · rintro rfl
      rfl

/-! ### A batch that is asked for again once -/

/-- Surroundings of a sink that answers by a script. -/
abbrev Scripted : Type :=
  Recorded (List (Except Failure Unit)) Batch Unit

def scriptedSink : Sink Scripted :=
  recordedSink fun batch _ ↦ Delivery.scripted batch

/-- A sink that accepts everything. -/
def acceptingSink : Sink Scripted :=
  fun _ _ ↦ pure ()

def scriptedPause : Int → Act Scripted Unit :=
  recordedPause fun _ answers ↦ answers

def stillClock : Clock Scripted where
  monotonic := pure (.whole 0)
  unixTime := pure 1668197951
  sleep _ := pure ()

/-- A task that collects the usage of one volume. -/
def usageTask : Task Scripted where
  collect := pure (some [.usage ⟨1, 10⟩])
  label := {}

def usageBatch : Batch :=
  ⟨1668197951, [.usage ⟨1, 10⟩]⟩

def onceWithRetries : Settings where
  logger := "loop"
  logFolder := "logs"
  onConsole := false
  level := .info
  once := true
  interval := 60
  sink := "record"
  sinkSettings := []
  chunkSize := 0
  retries := 2
  dryRun := false

/-- A world whose sink asks for another attempt and then accepts everything. -/
def askingWorld : World Scripted :=
  { surroundings := ⟨[.error ⟨.retry, ""⟩], []⟩ }

theorem rounds_never_retry_of_two :
    rounds onceWithRetries stillClock scriptedPause scriptedSink [usageTask] 1 =
      roundsBy onceWithRetries (deliverOnce onceWithRetries scriptedSink) stillClock
        [usageTask] 1 ∧
    rounds onceWithRetries stillClock scriptedPause acceptingSink [usageTask] 1 =
      roundsBy onceWithRetries
        (deliverBy onceWithRetries scriptedPause (askingAttempt onceWithRetries acceptingSink))
        stillClock [usageTask] 1 ∧
    ∃ after : World Scripted,
      (Delivery.deliverBatch (attempt onceWithRetries scriptedSink {})
          (fun seconds ↦ Program.ofSurroundings (scriptedPause seconds)) 2 usageBatch).outcome
        askingWorld = (.ok (), after) ∧
      after.surroundings.events ≠
        eventsFrom Delivery.doublingPause usageBatch (.ok ()) 0 [⟨.retry, ""⟩] := by
  have hnonneg : 0 ≤ onceWithRetries.retries := by decide
  have hlimit : onceWithRetries.retries ≤ Schedule.sizeLimit := by decide
  obtain ⟨hrounds, hbatch⟩ := rounds_never_retry hnonneg hlimit
  have haccepting : ∀ batch label world failure,
      ((acceptingSink batch label).outcome world).1 = .error failure → failure.kind ≠ .retry := by
    intro batch label world failure hfailure
    exact absurd hfailure (by simp [acceptingSink, Act.outcome_pure])
  obtain ⟨after, houtcome, hevents⟩ := hbatch (fun batch _ ↦ Delivery.scripted batch)
    (fun _ answers ↦ answers) {} usageBatch [⟨.retry, ""⟩] askingWorld rfl
  refine ⟨(hrounds _ _ _ _ _).1, (hrounds _ _ _ _ _).2 haccepting, after, houtcome, fun heq ↦ ?_⟩
  exact absurd (hevents.mp heq) (by simp)

theorem rounds_pass_over_ask :
    let run := (rounds onceWithRetries stillClock scriptedPause scriptedSink [usageTask] 1).outcome
      askingWorld
    run.1 = .ok .finished ∧
    run.2.surroundings.events = [.call usageBatch (.error ⟨.retry, ""⟩)] ∧
    run.2.surroundings.events ≠
      eventsFrom Delivery.doublingPause usageBatch (.ok ()) 0 [⟨.retry, ""⟩] := by
  refine ⟨rfl, rfl, fun heq ↦ ?_⟩
  have hlength := congrArg List.length heq
  rw [length_eventsFrom] at hlength
  exact absurd hlength (by decide)

end Loop

end MountCensus
