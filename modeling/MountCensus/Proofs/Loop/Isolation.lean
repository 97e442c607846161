import MountCensus.Proofs.Chunk
import MountCensus.Proofs.Loop.Stage

/-!
What a loop does, round by round, when its collectors and its sink may fail at any time. The history
of a run is that of its rounds: the time is read, then every task is collected in order, and the
records of those that answer are written batch by batch with that time (`ends_runTasks`). Which
rounds there are, and how the run ends, is the course of the run. It is up to the clock alone, and
the run follows it (`run_history`).
-/

set_option autoImplicit false

namespace MountCensus

theorem Delivery.failure_batches {chunkSize : Int} {records : List Record}
    (hfits : 0 < chunkSize → ∀ record ∈ records, Chunked.Fits recordSize chunkSize record) :
    (batches chunkSize records).failure = none := by
  unfold batches
  split
  · rename_i hpos
    exact Chunked.failure_ofItems_of_fits hpos (hfits hpos)
  · rfl

/-- Whether a clock fails in the given way at some time. -/
def Clock.Fails {Time : Type} (clock : Clock Time) (failure : Failure) : Prop :=
  (∃ now, (clock.monotonic.outcome now).1 = .error failure) ∨
    (∃ now, (clock.unixTime.outcome now).1 = .error failure) ∨
    ∃ rest now, ((clock.sleep rest).outcome now).1 = .error failure

namespace Loop

variable {Time State : Type}

/-! ### Histories -/

/-- What a task leaves behind in a round: its answer, and the batches of the records in it. -/
def Script.events (chunkSize time : Int) (round : Nat) (script : Script) : List Event :=
  .collected script.label (script.answer round) ::
    match script.answer round with
    | .ok (some records) =>
      (Delivery.batches chunkSize records).chunks.map fun chunk ↦
        .written ⟨time, chunk⟩ script.label
    | _ => []

def roundEvents (chunkSize : Int) (scripts : List Script) (time : Int) (round : Nat) :
    List Event :=
  .time time :: scripts.flatMap (Script.events chunkSize time round)

/-- Rounds that begin at the given times, numbered from `first` on. -/
def history (chunkSize : Int) (scripts : List Script) (first : Nat) (times : List Int) :
    List Event :=
  (times.zipIdx first).flatMap fun (time, round) ↦ roundEvents chunkSize scripts time round

/-- What a run leaves behind at its end. -/
def closing : Except Failure Ending → List Event
  | .error failure => [.clockFailed failure]
  | .ok _ => []

/-- What keeps the records that a task answers with in a round from being delivered in full. -/
def Script.obstacle? (chunkSize : Int) (round : Nat) (script : Script) : Option Failure :=
  match script.answer round with
  | .ok (some records) => (Delivery.batches chunkSize records).failure
  | _ => none

/-- Every record that the task ever answers with fits into a batch, if their size is limited. -/
def Script.Fits (chunkSize : Int) (script : Script) : Prop :=
  0 < chunkSize → ∀ round records, script.answer round = .ok (some records) →
    ∀ record ∈ records, Chunked.Fits Delivery.recordSize chunkSize record

theorem Script.Fits.obstacle?_eq_none {chunkSize : Int} {script : Script}
    (h : script.Fits chunkSize) (round : Nat) : script.obstacle? chunkSize round = none := by
  unfold obstacle?
  split
  · rename_i records hanswer
    exact Delivery.failure_batches fun hpos ↦ h hpos round records hanswer
  · rfl

theorem history_nil (chunkSize : Int) (scripts : List Script) (first : Nat) :
    history chunkSize scripts first [] = [] := rfl

theorem history_cons (chunkSize : Int) (scripts : List Script) (first : Nat) (time : Int)
    (times : List Int) :
    history chunkSize scripts first (time :: times) =
      roundEvents chunkSize scripts time first ++ history chunkSize scripts (first + 1) times := by
  rw [history, List.zipIdx_cons, List.flatMap_cons]
  rfl

theorem roundOf_scriptEvents (chunkSize time : Int) (round : Nat) (script : Script) :
    roundOf (script.events chunkSize time round) = 0 := by
  unfold Script.events roundOf
  split <;> simp [List.countP_map, Function.comp_def]

theorem roundOf_flatMap_events (chunkSize time : Int) (round : Nat) (scripts : List Script) :
    roundOf (scripts.flatMap (Script.events chunkSize time round)) = 0 := by
  induction scripts with
  | nil => rfl
  | cons script scripts ih => rw [List.flatMap_cons, roundOf_append, roundOf_scriptEvents, ih]

theorem roundOf_roundEvents (chunkSize : Int) (scripts : List Script) (time : Int) (round : Nat) :
    roundOf (roundEvents chunkSize scripts time round) = 1 := by
  rw [roundEvents, ← List.singleton_append, roundOf_append, roundOf_flatMap_events]
  rfl

/-! ### The tasks of a round -/

section Tasks

variable {settings : Settings}

theorem ends_attemptAll (settings : Settings) (sink : Sink State) (label : Label) (time : Int)
    (chunks : List (List Record)) :
    ∀ stage : Stage Time,
      Ends (attemptAll settings (stagedSink sink) label time chunks) (.ok ()) stage
        (stage.add (chunks.map fun chunk ↦ .written ⟨time, chunk⟩ label)) := by
  induction chunks with
  | nil =>
    intro stage
    rw [List.map_nil, Stage.add_nil]
    exact ends_pure () stage
  | cons records chunks ih =>
    intro stage
    have hmore := ih (stage.add [.written ⟨time, records⟩ label])
    rw [Stage.add_add] at hmore
    exact (ends_attempt settings sink label ⟨time, records⟩ stage).bind hmore

/-- A delivery fails when its batches end with a failure, and then only. -/
theorem ends_deliver (hnonneg : 0 ≤ settings.retries)
    (hlimit : settings.retries ≤ Schedule.sizeLimit) (sink : Sink State) (label : Label)
    (pauseFor : Int → Program (Staged Time State) Unit) (time : Int) (records : List Record)
    (stage : Stage Time) :
    Ends (Delivery.deliver (attempt settings (stagedSink sink) label) pauseFor settings.sinkName
        settings.chunkSize settings.retries time records)
      ((Delivery.batches settings.chunkSize records).failure.elim (.ok ()) fun failure ↦
        .error (Delivery.explain settings.sinkName settings.retries failure)) stage
      (stage.add ((Delivery.batches settings.chunkSize records).chunks.map fun chunk ↦
        .written ⟨time, chunk⟩ label)) := by
  rw [deliver_attempt hnonneg hlimit, deliverOnce]
  refine (ends_attemptAll settings sink label time _ stage).bind ?_
  cases (Delivery.batches settings.chunkSize records).failure with
  | none => exact ends_pure () _
  | some failure => exact ends_throw _ _

theorem ends_runTask (hnonneg : 0 ≤ settings.retries)
    (hlimit : settings.retries ≤ Schedule.sizeLimit) (sink : Sink State)
    (pauseFor : Int → Act (Staged Time State) Unit) (time : Int) (script : Script)
    (stage : Stage Time) :
    Ends (runTask settings pauseFor (stagedSink sink) time (script.task settings.logger))
      ((script.obstacle? settings.chunkSize (roundOf stage.events)).elim (.ok ()) fun failure ↦
        .error (Delivery.explain settings.sinkName settings.retries failure))
      stage (stage.add (script.events settings.chunkSize time (roundOf stage.events))) := by
  unfold runTask
  refine (ends_logged (ends_collect settings.logger script stage) settings.logger).bind ?_
  unfold Script.events Script.obstacle?
  cases hanswer : script.answer (roundOf stage.events) with
  | error failure => exact ends_note settings _ _ _
  | ok answer =>
    cases answer with
    | none => exact ends_note settings _ _ _
    | some records =>
      have hdeliver := ends_deliver hnonneg hlimit sink script.label
        (fun seconds ↦ Program.ofSurroundings (pauseFor seconds)) time records
        (stage.add [.collected script.label (.ok (some records))])
      rw [Stage.add_add] at hdeliver
      refine (ends_note settings _ _ _).bind ?_
      dsimp only
      cases hfailure : (Delivery.batches settings.chunkSize records).failure with
      | none =>
        rw [hfailure] at hdeliver
        exact hdeliver.bind (ends_note settings _ _ _)
      | some failure =>
        rw [hfailure] at hdeliver
        exact hdeliver.bind_error _

theorem ends_runTasks (hnonneg : 0 ≤ settings.retries)
    (hlimit : settings.retries ≤ Schedule.sizeLimit) (sink : Sink State)
    (pauseFor : Int → Act (Staged Time State) Unit) (time : Int) (round : Nat)
    (scripts : List Script)
    (hclear : ∀ script ∈ scripts, script.obstacle? settings.chunkSize round = none) :
    ∀ stage : Stage Time, roundOf stage.events = round →
      Ends (runTasks settings pauseFor (stagedSink sink) time
          (scripts.map (Script.task settings.logger))) (.ok ()) stage
        (stage.add (scripts.flatMap (Script.events settings.chunkSize time round))) := by
  induction scripts with
  | nil =>
    intro stage _
    rw [List.flatMap_nil, Stage.add_nil]
    exact ends_pure () stage
  | cons script scripts ih =>
    rintro stage rfl
    obtain ⟨hscript, hmore⟩ := List.forall_mem_cons.mp hclear
    have hround : roundOf (stage.add
        (script.events settings.chunkSize time (roundOf stage.events))).events =
          roundOf stage.events := by
      rw [Stage.add, roundOf_append, roundOf_scriptEvents, Nat.add_zero]
    have hrest := ih hmore _ hround
    rw [Stage.add_add] at hrest
    have htask := ends_runTask hnonneg hlimit sink pauseFor time script stage
    rw [hscript] at htask
    exact htask.bind hrest

end Tasks

/-! ### The course of a run -/

/-- The times at which the rounds of a run begin, how it ends, and the clock at its end. -/
structure Course (Time : Type) where
  times : List Int
  result : Except Failure Ending
  later : Time

/-- The course when a clock has been asked for something: its failure ends the run. -/
def Course.asked {α : Type} (answer : Except Failure α × Time) (next : α → Time → Course Time) :
    Course Time :=
  match answer with
  | (.ok a, later) => next a later
  | (.error failure, later) => ⟨[], .error failure, later⟩

def Course.after (time : Int) (course : Course Time) : Course Time :=
  { course with times := time :: course.times }

theorem Course.asked_cases {α : Type} {P : Course Time → Prop} {act : Act Time α} {now : Time}
    {next : α → Time → Course Time}
    (herror : ∀ failure later, act.outcome now = (.error failure, later) →
      P ⟨[], .error failure, later⟩)
    (hok : ∀ a later, act.outcome now = (.ok a, later) → P (next a later)) :
    P (.asked (act.outcome now) next) := by
  rcases hanswer : act.outcome now with ⟨failure | a, later⟩
  · exact herror failure later hanswer
  · exact hok a later hanswer

/-- The course of at most the given number of rounds. It is up to the clock alone. -/
def course (settings : Settings) (clock : Clock Time) : Nat → Time → Course Time
  | 0, now => ⟨[], .ok .cutOff, now⟩
  | more + 1, now =>
    .asked (clock.monotonic.outcome now) fun started now ↦
    .asked (clock.unixTime.outcome now) fun time now ↦
    .after time <|
    if settings.once then ⟨[], .ok .finished, now⟩ else
    .asked (clock.monotonic.outcome now) fun ended now ↦
    .asked ((clock.sleep (remaining settings.interval (ended.sub started))).outcome now) fun _ now ↦
    course settings clock more now

/-- A program that follows a course: it leaves the history of the rounds behind, after the events
so far, and ends as the course does. -/
def Follows (chunkSize : Int) (scripts : List Script) (program : Program (Staged Time State) Ending)
    (course : Course Time) (now : Time) (events : List Event) : Prop :=
  Ends program course.result ⟨now, events⟩
    ⟨course.later, events ++ history chunkSize scripts (roundOf events + 1) course.times ++
      closing course.result⟩

section Course

variable {α : Type} {chunkSize : Int} {scripts : List Script} {act : Act Time α} {now : Time}
  {events : List Event}

theorem follows_pure (ending : Ending) (now : Time) (events : List Event) :
    Follows chunkSize scripts (pure ending : Program (Staged Time State) Ending)
      ⟨[], .ok ending, now⟩ now events := by
  rw [Follows, history_nil, closing, List.append_nil, List.append_nil]
  exact ends_pure ending _

theorem Follows.note {program : Program (Staged Time State) Ending} {course : Course Time}
    (h : Follows chunkSize scripts program course now events) (settings : Settings)
    (level : Log.Level) (text : String) :
    Follows chunkSize scripts (Loop.note settings level text >>= fun _ ↦ program) course now
      events :=
  (ends_note settings level text _).bind h

theorem follows_of_error {note : α → List Event} {failure : Failure} {later : Time}
    (h : act.outcome now = (.error failure, later))
    (next : α → Program (Staged Time State) Ending) :
    Follows chunkSize scripts (Program.ofSurroundings (onClock note act) >>= next)
      ⟨[], .error failure, later⟩ now events := by
  rw [Follows, history_nil, List.append_nil]
  exact (ends_onClock_error h events).bind_error next

theorem follows_asked {next : α → Program (Staged Time State) Ending}
    {more : α → Time → Course Time}
    (h : ∀ a later, act.outcome now = (.ok a, later) →
      Follows chunkSize scripts (next a) (more a later) later events) :
    Follows chunkSize scripts (Program.ofSurroundings (onClock (fun _ ↦ []) act) >>= next)
      (.asked (act.outcome now) more) now events := by
  refine Course.asked_cases (P := fun course ↦ Follows _ _ _ course now events)
    (fun failure later hanswer ↦ follows_of_error hanswer next) fun a later hanswer ↦ ?_
  have hclock : Ends (Program.ofSurroundings (onClock (fun _ ↦ []) act) :
      Program (Staged Time State) α) (.ok a) ⟨now, events⟩ ⟨later, events ++ []⟩ :=
    ends_onClock_ok hanswer events
  rw [List.append_nil] at hclock
  exact hclock.bind (h a later hanswer)

theorem follows_timed {act : Act Time Int} {next : Int → Program (Staged Time State) Ending}
    {more : Int → Time → Course Time}
    (h : ∀ time later, act.outcome now = (.ok time, later) →
      Ends (next time) (more time later).result ⟨later, events ++ [.time time]⟩
        ⟨(more time later).later,
          events ++ history chunkSize scripts (roundOf events + 1) (time :: (more time later).times)
            ++ closing (more time later).result⟩) :
    Follows chunkSize scripts
      (Program.ofSurroundings (onClock (fun seconds ↦ [.time seconds]) act) >>= next)
      (.asked (act.outcome now) fun time later ↦ .after time (more time later)) now events :=
  Course.asked_cases (P := fun course ↦ Follows _ _ _ course now events)
    (fun _ _ hanswer ↦ follows_of_error hanswer next)
    fun time later hanswer ↦ (ends_onClock_ok hanswer events).bind (h time later hanswer)

/-- After the tasks of a round, the rest of the run goes on as the history does. -/
theorem ends_round {tasks : Program (Staged Time State) Unit}
    {next : Unit → Program (Staged Time State) Ending} {time : Int} {later : Time}
    {rest : Course Time}
    (htasks : Ends tasks (.ok ()) ⟨later, events ++ [.time time]⟩
      ((Stage.mk later (events ++ [.time time])).add
        (scripts.flatMap (Script.events chunkSize time (roundOf events + 1)))))
    (hnext : ∀ events, Follows chunkSize scripts (next ()) rest later events) :
    Ends (tasks >>= next) rest.result ⟨later, events ++ [.time time]⟩
      ⟨rest.later, events ++ history chunkSize scripts (roundOf events + 1) (time :: rest.times) ++
        closing rest.result⟩ := by
  have hevents : events ++ [.time time] ++
      scripts.flatMap (Script.events chunkSize time (roundOf events + 1)) =
        events ++ roundEvents chunkSize scripts time (roundOf events + 1) := by
    rw [List.append_assoc, List.singleton_append, roundEvents]
  have hround : roundOf (events ++ roundEvents chunkSize scripts time (roundOf events + 1)) =
      roundOf events + 1 := by
    rw [roundOf_append, roundOf_roundEvents]
  rw [Stage.add, hevents] at htasks
  have hrest := hnext (events ++ roundEvents chunkSize scripts time (roundOf events + 1))
  rw [Follows, hround, List.append_assoc events, ← history_cons] at hrest
  exact htasks.bind hrest

end Course

theorem follows_rounds {settings : Settings} (hnonneg : 0 ≤ settings.retries)
    (hlimit : settings.retries ≤ Schedule.sizeLimit) (clock : Clock Time)
    (pauseFor : Int → Act (Staged Time State) Unit) (sink : Sink State) (scripts : List Script)
    (hfits : ∀ script ∈ scripts, script.Fits settings.chunkSize) (limit : Nat) :
    ∀ now events,
      Follows settings.chunkSize scripts
        (rounds settings (stagedClock clock) pauseFor (stagedSink sink)
          (scripts.map (Script.task settings.logger)) limit)
        (course settings clock limit now) now events := by
  induction limit with
  | zero => exact fun now events ↦ follows_pure .cutOff now events
  | succ limit ih =>
    intro now events
    rw [rounds, course]
    refine Follows.note ?_ settings _ _
    refine follows_asked fun started now _ ↦ follows_timed fun time now _ ↦ ends_round ?_ ?_
    · -- The tasks learn the number of their round from the time that has just been noted.
      have hround : roundOf (events ++ [.time time]) = roundOf events + 1 := by
        rw [roundOf_append]
        rfl
      exact ends_runTasks hnonneg hlimit sink pauseFor time _ scripts
        (fun script hscript ↦ (hfits script hscript).obstacle?_eq_none _)
        (Stage.mk now (events ++ [.time time])) hround
    · intro events
      by_cases honce : settings.once = true
      · rw [if_pos honce, if_pos honce]
        exact (follows_pure .finished now events).note settings _ _
      · rw [if_neg honce, if_neg honce]
        refine follows_asked fun ended now _ ↦
          Follows.note (Follows.note ?_ settings _ _) settings _ _
        exact follows_asked fun _ now _ ↦ ih now events

/-! ### How a course ends -/

/-- One round and no more, unless the clock fails before it begins. -/
def Course.IsSingle (clock : Clock Time) (course : Course Time) : Prop :=
  (course.times.length = 1 ∧ course.result = .ok .finished) ∨
    (course.times = [] ∧ ∃ failure, course.result = .error failure ∧ clock.Fails failure)

/-- As many rounds as are asked for, unless the clock fails before. -/
def Course.IsFull (clock : Clock Time) (limit : Nat) (course : Course Time) : Prop :=
  (course.times.length = limit ∧ course.result = .ok .cutOff) ∨
    (course.times.length ≤ limit ∧ ∃ failure, course.result = .error failure ∧ clock.Fails failure)

theorem Course.IsFull.after {clock : Clock Time} {limit : Nat} {course : Course Time}
    (h : course.IsFull clock limit) (time : Int) : (course.after time).IsFull clock (limit + 1) :=
  h.imp (And.imp_left (congrArg Nat.succ)) (And.imp_left Nat.succ_le_succ)

theorem Course.isFull_of_error {clock : Clock Time} {failure : Failure}
    (h : clock.Fails failure) (limit : Nat) (later : Time) :
    (Course.mk [] (.error failure) later).IsFull clock limit :=
  .inr ⟨Nat.zero_le limit, failure, rfl, h⟩

theorem course_isSingle {settings : Settings} (honce : settings.once = true) (clock : Clock Time)
    {limit : Nat} (hlimit : 0 < limit) (now : Time) :
    (course settings clock limit now).IsSingle clock := by
  obtain ⟨limit, rfl⟩ := Nat.exists_eq_succ_of_ne_zero (Nat.ne_of_gt hlimit)
  rw [course]
  refine Course.asked_cases (fun failure _ h ↦ .inr ⟨rfl, failure, rfl, .inl ⟨now, by rw [h]⟩⟩)
    fun started now _ ↦ ?_
  refine Course.asked_cases
    (fun failure _ h ↦ .inr ⟨rfl, failure, rfl, .inr (.inl ⟨now, by rw [h]⟩)⟩) fun time now _ ↦ ?_
  rw [if_pos honce]
  exact .inl ⟨rfl, rfl⟩

theorem course_isFull {settings : Settings} (honce : settings.once = false) (clock : Clock Time)
    (limit : Nat) : ∀ now, (course settings clock limit now).IsFull clock limit := by
  induction limit with
  | zero => exact fun _ ↦ .inl ⟨rfl, rfl⟩
  | succ limit ih =>
    intro now
    have hmonotonic {failure : Failure} {now later : Time}
        (h : clock.monotonic.outcome now = (.error failure, later)) : clock.Fails failure :=
      .inl ⟨now, by rw [h]⟩
    rw [course]
    refine Course.asked_cases (fun failure _ h ↦ Course.isFull_of_error (hmonotonic h) _ _)
      fun started now _ ↦ ?_
    refine Course.asked_cases
      (fun failure _ h ↦ Course.isFull_of_error (.inr (.inl ⟨now, by rw [h]⟩)) _ _)
      fun time now _ ↦ Course.IsFull.after ?_ time
    rw [if_neg (Bool.eq_false_iff.mp honce)]
    refine Course.asked_cases (fun failure _ h ↦ Course.isFull_of_error (hmonotonic h) _ _)
      fun ended now _ ↦ ?_
    exact Course.asked_cases
      (fun failure _ h ↦ Course.isFull_of_error (.inr (.inr ⟨_, now, by rw [h]⟩)) _ _)
      fun _ now _ ↦ ih now

/-! ### Whole runs -/

section Opening

variable {Surroundings : Type}

/-- What a run does up to the making of its sink. -/
def opening (settings : Settings) (registry : Sink.Registry Surroundings) :
    Program Surroundings (Sink Surroundings) := do
  Program.setUpLogger (loggerSetup settings)
  if settings.dryRun then debug settings "this is a `--dry-run`, will print data to stdout"
  registry.open' settings.sinkName settings.sinkSettings

theorem run_eq_opening (settings : Settings) (registry : Sink.Registry Surroundings)
    (clock : Clock Surroundings) (pauseFor : Int → Act Surroundings Unit)
    (tasks : List (Task Surroundings)) (limit : Nat) :
    run settings registry clock pauseFor tasks limit =
      opening settings registry >>= fun sink ↦
        debug settings ("will log data to " ++ settings.sinkName) >>= fun _ ↦
          rounds settings clock pauseFor sink tasks limit := by
  rw [run, opening, bind_assoc]
  cases settings.dryRun <;> simp only [Bool.false_eq_true, if_false, if_true, bind_assoc]

end Opening

/-- Once its sink is made, a run goes round by round, and in a round task by task: the batches of
every task that answers are written, each of them once, with the label of the task and the time at
which the round began. Neither the answers of the sink nor those of the collectors have a part in
which rounds there are and in how the run ends: a run that is to go round once does so and finishes,
any other one goes on, unless the clock fails. -/
theorem run_history {settings : Settings} (hnonneg : 0 ≤ settings.retries)
    (hlimit : settings.retries ≤ Schedule.sizeLimit) (clock : Clock Time)
    (pauseFor : Int → Act (Staged Time State) Unit) (sink : Sink State) {scripts : List Script}
    (hfits : ∀ script ∈ scripts, script.Fits settings.chunkSize)
    {registry : Sink.Registry (Staged Time State)} {start opened : World (Staged Time State)}
    (hopening : (opening settings registry).outcome start = (.ok (stagedSink sink), opened))
    {now : Time} (hstage : opened.surroundings.stage = ⟨now, []⟩) (limit : Nat) :
    (∃ final : World (Staged Time State),
      (run settings registry (stagedClock clock) pauseFor
          (scripts.map (Script.task settings.logger)) limit).outcome start =
        ((course settings clock limit now).result, final) ∧
      final.surroundings.stage.events =
        history settings.chunkSize scripts 1 (course settings clock limit now).times ++
          closing (course settings clock limit now).result) ∧
    (settings.once = true → 0 < limit → (course settings clock limit now).IsSingle clock) ∧
    (settings.once = false → (course settings clock limit now).IsFull clock limit) := by
  refine ⟨?_, fun honce hpos ↦ course_isSingle honce clock hpos now,
    fun honce ↦ course_isFull honce clock limit now⟩
  have hrounds := follows_rounds hnonneg hlimit clock pauseFor sink scripts hfits limit now []
  obtain ⟨final, houtcome, hfinal⟩ := hrounds.note settings .debug _ opened hstage
  refine ⟨final, ?_, ?_⟩
  · rw [run_eq_opening, Act.outcome_bind_ok hopening]
    exact houtcome
  · rw [hfinal, List.nil_append]
    rfl

/-! ### A run with a task that fails at first -/

/-- A clock whose state is the number of sleeps so far; the second sleep fails. -/
def twoRoundClock : Clock Nat where
  monotonic := pure (.whole 0)
  unixTime := do return 1668197951 + 60 * (← get)
  sleep _ := do
    if (← get) = 0 then set 1 else throw ⟨.stopped, "stopped"⟩

def smallUsage : Record :=
  .usage ⟨1, 10⟩

def lateScript : Script where
  label := ⟨some .log, none⟩
  answer round := if round = 1 then .error ⟨.runtime, "not yet"⟩ else .ok (some [smallUsage])
  remarks _ := []

def steadyScript : Script where
  label := ⟨some .metric, none⟩
  answer _ := .ok (some [smallUsage, smallUsage])
  remarks _ := [⟨.info, "collecting", none⟩]

/-- A sink that refuses everything. -/
def refusingSink : Sink Unit :=
  fun _ _ ↦ throw ⟨.runtime, "refused"⟩

def refusingRegistry : Sink.Registry (Staged Nat Unit) :=
  [("record", ⟨"RecordSink", "sinks", none, fun _ ↦ pure (some (stagedSink refusingSink))⟩)]

/-- Rounds without end, whose batches have room for one small record only. -/
def endlessSettings : Settings :=
  { onceWithRetries with onConsole := true, once := false, chunkSize := 50 }

def freshWorld : World (Staged Nat Unit) :=
  { surroundings := ⟨⟨0, []⟩, ()⟩ }

theorem run_history_of_two_rounds :
    ∃ final : World (Staged Nat Unit),
      (run endlessSettings refusingRegistry (stagedClock twoRoundClock) (fun _ ↦ pure ())
          ([lateScript, steadyScript].map (Script.task endlessSettings.logger)) 5).outcome
        freshWorld = (.error ⟨.stopped, "stopped"⟩, final) ∧
      final.surroundings.stage.events = [
        .time 1668197951,
        .collected lateScript.label (.error ⟨.runtime, "not yet"⟩),
        .collected steadyScript.label (.ok (some [smallUsage, smallUsage])),
        .written ⟨1668197951, [smallUsage]⟩ steadyScript.label,
        .written ⟨1668197951, [smallUsage]⟩ steadyScript.label,
        .time 1668198011,
        .collected lateScript.label (.ok (some [smallUsage])),
        .written ⟨1668198011, [smallUsage]⟩ lateScript.label,
        .collected steadyScript.label (.ok (some [smallUsage, smallUsage])),
        .written ⟨1668198011, [smallUsage]⟩ steadyScript.label,
        .written ⟨1668198011, [smallUsage]⟩ steadyScript.label,
        .clockFailed ⟨.stopped, "stopped"⟩] := by
  have hsmall : Chunked.Fits Delivery.recordSize endlessSettings.chunkSize smallUsage :=
    ⟨35, by decide +kernel, by decide⟩
  have hlate : lateScript.Fits endlessSettings.chunkSize := by
    intro _ round records hanswer record hrecord
    simp only [lateScript] at hanswer
    split_ifs at hanswer
    cases hanswer
    obtain rfl := List.mem_singleton.mp hrecord
    exact hsmall
  have hsteady : steadyScript.Fits endlessSettings.chunkSize := by
    intro _ round records hanswer record hrecord
    cases hanswer
    obtain rfl := List.eq_of_mem_replicate (n := 2) hrecord
    exact hsmall
  have hfits : ∀ script ∈ [lateScript, steadyScript], script.Fits endlessSettings.chunkSize := by
    simp only [List.forall_mem_cons, hlate, hsteady, List.not_mem_nil, false_implies,
      implies_true, and_self]
  have hopening : (opening endlessSettings refusingRegistry).outcome freshWorld =
      (.ok (stagedSink refusingSink),
        ((opening endlessSettings refusingRegistry).outcome freshWorld).2) := rfl
  have hnonneg : 0 ≤ endlessSettings.retries := by decide
  have hlimit : endlessSettings.retries ≤ Schedule.sizeLimit := by decide
  obtain ⟨final, houtcome, hevents⟩ := (run_history hnonneg hlimit twoRoundClock (fun _ ↦ pure ())
    refusingSink hfits hopening rfl 5).1
  refine ⟨final, houtcome, ?_⟩
  rw [hevents]
  decide +kernel

end Loop

end MountCensus
