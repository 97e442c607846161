import Mathlib.Data.List.Basic
import MountCensus.Proofs.Loop.Delivery

/-!
A loop on a stage. The clock, the collectors and the sink of a staged loop act on states of their
own, and what they are asked is noted in the order in which it happens: the times at which rounds
begin, the answers of the collectors, the batches that are written, and a failure of the clock.
A program on a stage is described by the stage before it and the stage after it, whatever the log
and the sink are like (`Ends`).
-/

set_option autoImplicit false

namespace MountCensus.Loop

/-! ### Stages -/

inductive Event where
  | time (seconds : Int)
  | collected (label : Label) (answer : Except Failure (Option (List Record)))
  | written (batch : Batch) (label : Label)
  | clockFailed (failure : Failure)
deriving DecidableEq

/-- The state of a clock, and the events so far. -/
structure Stage (Time : Type) where
  clock : Time
  events : List Event

def Stage.add {Time : Type} (stage : Stage Time) (events : List Event) : Stage Time :=
  { stage with events := stage.events ++ events }

/-- A stage and, behind it, the state of a sink. -/
structure Staged (Time State : Type) where
  stage : Stage Time
  sink : State

variable {Time State α β : Type}

theorem Stage.add_nil (stage : Stage Time) : stage.add [] = stage := by
  rw [add, List.append_nil]

theorem Stage.add_add (stage : Stage Time) (first second : List Event) :
    (stage.add first).add second = stage.add (first ++ second) := by
  simp only [add, List.append_assoc]

/-- What a clock does on a stage. Its answer may be noted, and its failure always is. -/
def onClock (note : α → List Event) (act : Act Time α) : Act (Staged Time State) α :=
  .ofOutcome fun world ↦
    match act.outcome world.stage.clock with
    | (.ok a, clock) => (.ok a, { world with stage := ⟨clock, world.stage.events ++ note a⟩ })
    | (.error failure, clock) =>
      (.error failure,
        { world with stage := ⟨clock, world.stage.events ++ [.clockFailed failure]⟩ })

def stagedClock (clock : Clock Time) : Clock (Staged Time State) where
  monotonic := onClock (fun _ ↦ []) clock.monotonic
  unixTime := onClock (fun seconds ↦ [.time seconds]) clock.unixTime
  sleep rest := onClock (fun _ ↦ []) (clock.sleep rest)

/-- A sink behind a stage, to which every batch is noted that it is given. -/
def stagedSink (sink : Sink State) : Sink (Staged Time State) := fun batch label ↦
  .ofOutcome fun world ↦
    let (answer, after) := (sink batch label).outcome
      { world with surroundings := world.surroundings.sink }
    (answer, { after with
      surroundings := ⟨world.surroundings.stage.add [.written batch label], after.surroundings⟩ })

/-- The round that the events have come to; the first one has number one. -/
def roundOf (events : List Event) : Nat :=
  events.countP fun
    | .time _ => true
    | _ => false

theorem roundOf_append (first second : List Event) :
    roundOf (first ++ second) = roundOf first + roundOf second :=
  List.countP_append

/-- What a task answers in each round, and what it enters in the log before. -/
structure Script where
  label : Label
  answer : Nat → Except Failure (Option (List Record))
  remarks : Nat → List Log.Entry

/-- The task that answers by a script. -/
def Script.task (logger : String) (script : Script) : Task (Staged Time State) where
  label := script.label
  collect := do
    let round := roundOf (← get).surroundings.stage.events
    (script.remarks round).forM (Program.log logger)
    Program.ofSurroundings (.ofOutcome fun world ↦
      (script.answer round,
        { world with stage := world.stage.add [.collected script.label (script.answer round)] }))

/-! ### Programs by the stage before and after them -/

/-- A program that, begun on the one stage, ends with the given result on the other stage, whatever
else there is in the world. -/
def Ends (program : Program (Staged Time State) α) (result : Except Failure α)
    (before after : Stage Time) : Prop :=
  ∀ world, world.surroundings.stage = before →
    ∃ final, program.outcome world = (result, final) ∧ final.surroundings.stage = after

variable {before middle after : Stage Time}

theorem ends_pure (a : α) (stage : Stage Time) :
    Ends (pure a : Program (Staged Time State) α) (.ok a) stage stage :=
  fun world hworld ↦ ⟨world, rfl, hworld⟩

theorem ends_throw (failure : Failure) (stage : Stage Time) :
    Ends (throw failure : Program (Staged Time State) α) (.error failure) stage stage :=
  fun world hworld ↦ ⟨world, rfl, hworld⟩

theorem Ends.bind {program : Program (Staged Time State) α} {a : α}
    {next : α → Program (Staged Time State) β} {result : Except Failure β}
    (h : Ends program (.ok a) before middle) (hnext : Ends (next a) result middle after) :
    Ends (program >>= next) result before after := by
  intro world hworld
  obtain ⟨between, houtcome, hbetween⟩ := h world hworld
  obtain ⟨final, hfinal, hafter⟩ := hnext between hbetween
  exact ⟨final, by rw [Act.outcome_bind_ok houtcome, hfinal], hafter⟩

theorem Ends.bind_error {program : Program (Staged Time State) α} {failure : Failure}
    (h : Ends program (.error failure) before after) (next : α → Program (Staged Time State) β) :
    Ends (program >>= next) (.error failure) before after := by
  intro world hworld
  obtain ⟨final, houtcome, hafter⟩ := h world hworld
  exact ⟨final, Act.outcome_bind_error houtcome, hafter⟩

theorem ends_log (logger : String) (entry : Log.Entry) (stage : Stage Time) :
    Ends (Program.log logger entry : Program (Staged Time State) Unit) (.ok ()) stage stage :=
  fun _ hworld ↦ ⟨_, rfl, hworld⟩

theorem ends_logs (logger : String) (entries : List Log.Entry) (stage : Stage Time) :
    Ends (entries.forM (Program.log logger) : Program (Staged Time State) Unit) (.ok ()) stage
      stage := by
  induction entries with
  | nil => exact ends_pure () stage
  | cons entry entries ih => exact (ends_log logger entry stage).bind ih

theorem ends_note (settings : Settings) (level : Log.Level) (text : String) (stage : Stage Time) :
    Ends (note settings level text : Program (Staged Time State) Unit) (.ok ()) stage stage :=
  ends_log _ _ stage

/-- A failure that is entered in the log is passed over. -/
theorem ends_logged {program : Program (Staged Time State) α} {result : Except Failure α}
    (h : Ends program result before after) (logger : String) :
    Ends (Program.logged logger program) (.ok result.toOption) before after := by
  intro world hworld
  obtain ⟨final, houtcome, hafter⟩ := h world hworld
  rw [Program.outcome_logged, houtcome]
  cases result with
  | ok a => exact ⟨final, rfl, hafter⟩
  | error failure => exact ⟨_, rfl, hafter⟩

/-! ### The clock, the collectors and the sink -/

theorem ends_onClock_ok {note : α → List Event} {act : Act Time α} {clock later : Time} {a : α}
    (h : act.outcome clock = (.ok a, later)) (events : List Event) :
    Ends (Program.ofSurroundings (onClock note act) : Program (Staged Time State) α) (.ok a)
      ⟨clock, events⟩ ⟨later, events ++ note a⟩ := by
  rintro ⟨output, loggers, stage, sink⟩ rfl
  refine ⟨⟨output, loggers, ⟨later, events ++ note a⟩, sink⟩, ?_, rfl⟩
  simp only [Program.ofSurroundings, onClock, Act.outcome_ofOutcome, h]

theorem ends_onClock_error {note : α → List Event} {act : Act Time α} {clock later : Time}
    {failure : Failure} (h : act.outcome clock = (.error failure, later)) (events : List Event) :
    Ends (Program.ofSurroundings (onClock note act) : Program (Staged Time State) α)
      (.error failure) ⟨clock, events⟩ ⟨later, events ++ [.clockFailed failure]⟩ := by
  rintro ⟨output, loggers, stage, sink⟩ rfl
  refine ⟨⟨output, loggers, ⟨later, events ++ [.clockFailed failure]⟩, sink⟩, ?_, rfl⟩
  simp only [Program.ofSurroundings, onClock, Act.outcome_ofOutcome, h]

theorem ends_collect (logger : String) (script : Script) (stage : Stage Time) :
    Ends (script.task logger : Task (Staged Time State)).collect
      (script.answer (roundOf stage.events)) stage
      (stage.add [.collected script.label (script.answer (roundOf stage.events))]) := by
  rintro world rfl
  obtain ⟨⟨output, loggers, stage, sink⟩, hlogs, rfl⟩ :=
    ends_logs logger (script.remarks (roundOf world.surroundings.stage.events)) _ world rfl
  exact ⟨⟨output, loggers, ⟨_, sink⟩⟩, Act.outcome_bind_ok hlogs, rfl⟩

/-- Whatever the sink does, an attempt leaves the batch behind and succeeds. -/
theorem ends_attempt (settings : Settings) (sink : Sink State) (label : Label) (batch : Batch)
    (stage : Stage Time) :
    Ends (attempt settings (stagedSink sink) label batch) (.ok ()) stage
      (stage.add [.written batch label]) := by
  rintro world rfl
  rcases hanswer : (sink batch label).outcome
      { world with surroundings := world.surroundings.sink } with ⟨answer, after⟩
  have hsink : (stagedSink sink batch label).outcome world =
      (answer, { after with
        surroundings := ⟨world.surroundings.stage.add [.written batch label],
          after.surroundings⟩ }) := by
    simp only [stagedSink, Act.outcome_ofOutcome, hanswer]
  rw [outcome_attempt, hsink]
  cases answer with
  | ok _ => exact ⟨_, rfl, rfl⟩
  | error _ => exact ⟨_, rfl, rfl⟩

end MountCensus.Loop
