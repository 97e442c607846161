import Mathlib.Tactic.Linarith
import MountCensus.Proofs.Loop.Timing
import MountCensus.Proofs.Number.Exact

/-!
The period of a loop. What a clock is like shows in the calls that it has answered: it is steady if
its readings never decrease and a sleep takes no less than it should (`IsSteady`), and punctual if
nothing but rounds and sleeps takes any time (`IsPunctual`). By a steady clock the sleep after a
round is never negative nor longer than the interval (`Lap.pause_within`), and rounds begin no
less than the interval apart (`Timeline.Leads.apart`); by a punctual one they begin as far apart as
the longer of the interval and the round (`Timeline.Leads.gap_eq`), so that nothing adds up while
rounds take no longer than the interval (`Timeline.start_eq`).
-/

set_option autoImplicit false

namespace MountCensus.Loop

/-! ### Steady clocks -/

/-- The readings never decrease, and a sleep takes at least the time that it is asked for. -/
structure IsSteady (calls : List ClockCall) : Prop where
  rises : ∀ earlier later, [.read earlier, .read later] <:+: calls → earlier.value ≤ later.value
  sleeps : ∀ earlier pause later, [.read earlier, .sleep pause, .read later] <:+: calls →
    earlier.value + pause.value ≤ later.value

/-- From the reading before a sleep to the one after it, only the time of the sleep passes. -/
def IsPunctual (calls : List ClockCall) : Prop :=
  ∀ earlier pause later, [.read earlier, .sleep pause, .read later] <:+: calls →
    later.value = earlier.value + pause.value

/-- Nothing is rounded when the time that a round has taken is taken from the interval. -/
def IsExact (interval : Int) (calls : List ClockCall) : Prop :=
  ∀ earlier later, [.read earlier, .read later] <:+: calls →
    later.SubIsExact earlier ∧ (Reading.whole interval).SubIsExact (later.sub earlier)

/-- Whole seconds are never rounded. -/
theorem isExact_of_whole {calls : List ClockCall}
    (h : ∀ reading, .read reading ∈ calls → ∃ n, reading = .whole n) (interval : Int) :
    IsExact interval calls := by
  intro earlier later hreads
  obtain ⟨m, rfl⟩ := h earlier (hreads.subset (by simp))
  obtain ⟨n, rfl⟩ := h later (hreads.subset (by simp))
  exact ⟨Reading.subIsExact_whole n m, Reading.subIsExact_whole interval (n - m)⟩

/-! ### One round -/

def Lap.duration (lap : Lap) : ℚ :=
  lap.ended.value - lap.started.value

section Lap

variable {interval : Int} {lap : Lap} {calls : List ClockCall}

theorem Lap.reads_isInfix (h : lap.calls interval <:+: calls) :
    [.read lap.started, .read lap.ended] <:+: calls := by
  have hreads : [.read lap.started, .read lap.ended] <+: lap.calls interval :=
    List.prefix_append _ [ClockCall.sleep (lap.pause interval)]
  exact hreads.isInfix.trans h

theorem Lap.value_pause (hexact : IsExact interval calls) (h : lap.calls interval <:+: calls) :
    (lap.pause interval).IsFinite ∧
      (lap.pause interval).value = max 0 (interval - lap.duration) := by
  obtain ⟨htaken, hrest⟩ := hexact _ _ (Lap.reads_isInfix h)
  obtain ⟨hfinite, hvalue⟩ := Reading.value_positivePart hrest.finite
  refine ⟨hfinite, ?_⟩
  rw [Lap.pause, remaining, hvalue, hrest.value_sub, htaken.value_sub]
  rfl

/-- A sleep is never negative, and never longer than the interval. -/
theorem Lap.pause_within (hinterval : 0 ≤ interval) (hexact : IsExact interval calls)
    (hsteady : IsSteady calls) (h : lap.calls interval <:+: calls) :
    0 ≤ (lap.pause interval).value ∧ (lap.pause interval).value ≤ interval := by
  have hrises : lap.started.value ≤ lap.ended.value := hsteady.rises _ _ (Lap.reads_isInfix h)
  have hpos : (0 : ℚ) ≤ interval := Int.cast_nonneg hinterval
  rw [(Lap.value_pause hexact h).2, Lap.duration]
  exact ⟨le_max_left _ _, max_le hpos (by linarith)⟩

end Lap

/-! ### Rounds that follow each other -/

namespace Timeline

/-- The round is followed by one that begins at the given reading. -/
def Leads (timeline : Timeline) (lap : Lap) (next : Reading) : Prop :=
  ∃ k, timeline.laps[k]? = some lap ∧ timeline.starts[k + 1]? = some next

/-- Sleeps are neither negative nor longer than the interval, and rounds begin no less than the
interval apart. -/
structure KeepsPeriod (interval : Int) (timeline : Timeline) : Prop where
  pauses : ∀ pause : Reading, .sleep pause ∈ timeline.calls interval →
    pause.IsFinite ∧ 0 ≤ pause.value ∧ pause.value ≤ interval
  apart : ∀ lap next, timeline.Leads lap next → lap.started.value + interval ≤ next.value

/-- Rounds begin as far apart as the longer of the interval and the earlier round, so that nothing
adds up while rounds take no longer than the interval. -/
structure KeepsTime (interval : Int) (timeline : Timeline) : Prop where
  gaps : ∀ lap next, timeline.Leads lap next →
    next.value - lap.started.value = max (interval : ℚ) lap.duration
  noDrift : ∀ (first start : Reading) (k : Nat),
    timeline.starts[0]? = some first → timeline.starts[k]? = some start →
    (∀ lap ∈ timeline.laps.take k, lap.duration ≤ interval) →
    start.value = first.value + k * interval

variable {interval : Int} {timeline : Timeline} {lap : Lap} {next : Reading}

theorem sleep_mem_calls_iff {pause : Reading} :
    .sleep pause ∈ timeline.calls interval ↔ ∃ lap ∈ timeline.laps, lap.pause interval = pause := by
  simp [calls, Lap.calls, eq_comm]

theorem lap_isInfix (h : lap ∈ timeline.laps) :
    lap.calls interval <:+: timeline.calls interval :=
  (List.infix_of_mem_flatten (List.mem_map_of_mem h)).trans (List.prefix_append _ _).isInfix

theorem calls_of_start {start : Reading} (h : timeline.starts[0]? = some start) :
    ∃ more, timeline.calls interval = .read start :: more := by
  obtain ⟨_ | ⟨lap, laps⟩, begun⟩ := timeline
  · cases begun <;> cases h
    exact ⟨[], rfl⟩
  · cases h
    exact ⟨_, rfl⟩

/-- The calls from the start of a round to the start of the next one follow each other. -/
theorem Leads.calls_isInfix (h : timeline.Leads lap next) :
    lap.calls interval ++ [.read next] <:+: timeline.calls interval := by
  obtain ⟨k, hlap, hnext⟩ := h
  obtain ⟨laps, begun⟩ := timeline
  induction laps generalizing k with
  | nil => cases hlap
  | cons first laps ih =>
    change _ <:+: (cons first ⟨laps, begun⟩).calls interval
    rw [calls_cons]
    cases k with
    | zero =>
      cases hlap
      obtain ⟨more, hcalls⟩ : ∃ more, calls interval ⟨laps, begun⟩ = .read next :: more :=
        calls_of_start hnext
      rw [hcalls, ← List.singleton_append, ← List.append_assoc]
      exact (List.prefix_append _ _).isInfix
    | succ k => exact (ih k hlap hnext).trans (List.suffix_append _ _).isInfix

theorem Leads.lap_isInfix (h : timeline.Leads lap next) :
    lap.calls interval <:+: timeline.calls interval :=
  (List.prefix_append _ _).isInfix.trans h.calls_isInfix

theorem Leads.sleep_isInfix (h : timeline.Leads lap next) :
    [.read lap.ended, .sleep (lap.pause interval), .read next] <:+: timeline.calls interval := by
  have hsleep : [.read lap.ended, .sleep (lap.pause interval), .read next] <:+
      lap.calls interval ++ [.read next] :=
    List.suffix_append [ClockCall.read lap.started] _
  exact hsleep.isInfix.trans h.calls_isInfix

/-- Rounds begin no less than the interval apart. -/
theorem Leads.apart (h : timeline.Leads lap next)
    (hexact : IsExact interval (timeline.calls interval))
    (hsteady : IsSteady (timeline.calls interval)) :
    lap.started.value + interval ≤ next.value := by
  have hsleep : lap.ended.value + (lap.pause interval).value ≤ next.value :=
    hsteady.sleeps _ _ _ h.sleep_isInfix
  have hpause : interval - lap.duration ≤ (lap.pause interval).value := by
    rw [(Lap.value_pause hexact h.lap_isInfix).2]
    exact le_max_right _ _
  rw [Lap.duration] at hpause
  linarith

/-- By a punctual clock, rounds begin as far apart as the longer of the interval and the round. -/
theorem Leads.gap_eq (h : timeline.Leads lap next)
    (hexact : IsExact interval (timeline.calls interval))
    (hpunctual : IsPunctual (timeline.calls interval)) :
    next.value - lap.started.value = max (interval : ℚ) lap.duration := by
  have hended : lap.ended.value - lap.started.value = lap.duration := rfl
  calc next.value - lap.started.value
      = lap.duration + (lap.pause interval).value := by
        rw [hpunctual _ _ _ h.sleep_isInfix, ← hended, add_sub_right_comm]
    _ = lap.duration + max 0 (interval - lap.duration) := by
        rw [(Lap.value_pause hexact h.lap_isInfix).2]
    _ = max (interval : ℚ) lap.duration := by
        rw [← max_add_add_left, add_zero, add_sub_cancel, max_comm]

/-- Before every round but the first there is one that has come to its end. -/
theorem exists_leads {k : Nat} (h : timeline.starts[k + 1]? = some next) :
    ∃ lap, timeline.laps[k]? = some lap ∧ timeline.starts[k]? = some lap.started := by
  have hlength : timeline.starts.length ≤ timeline.laps.length + 1 := by
    rw [starts, List.length_append, List.length_map]
    exact Nat.add_le_add_left Option.length_toList_le _
  have hk : k < timeline.laps.length := by
    have := (List.getElem?_eq_some_iff.mp h).1
    omega
  refine ⟨timeline.laps[k], List.getElem?_eq_getElem hk, ?_⟩
  rw [starts, List.getElem?_append_left (by rwa [List.length_map]), List.getElem?_map,
    List.getElem?_eq_getElem hk]
  rfl

/-- No drift: while rounds take no longer than the interval, each begins on time. -/
theorem start_eq (hexact : IsExact interval (timeline.calls interval))
    (hpunctual : IsPunctual (timeline.calls interval)) {first : Reading}
    (hfirst : timeline.starts[0]? = some first) (k : Nat) :
    ∀ start, timeline.starts[k]? = some start →
      (∀ lap ∈ timeline.laps.take k, lap.duration ≤ interval) →
      start.value = first.value + k * interval := by
  induction k with
  | zero =>
    intro start hstart _
    rw [hfirst] at hstart
    cases hstart
    simp
  | succ k ih =>
    intro next hnext hshort
    obtain ⟨lap, hlap, hstart⟩ := exists_leads hnext
    rw [List.take_add_one, hlap] at hshort
    have hgap : next.value - lap.started.value = interval := by
      rw [Leads.gap_eq ⟨k, hlap, hnext⟩ hexact hpunctual]
      exact max_eq_left (hshort lap (by simp))
    have hprevious := ih lap.started hstart fun lap hlap ↦
      hshort lap (List.mem_append_left _ hlap)
    rw [eq_add_of_sub_eq' hgap, hprevious, Nat.cast_succ, add_one_mul, add_assoc]

theorem keepsPeriod (hinterval : 0 ≤ interval) (hexact : IsExact interval (timeline.calls interval))
    (hsteady : IsSteady (timeline.calls interval)) : timeline.KeepsPeriod interval where
  pauses := by
    intro pause hpause
    obtain ⟨lap, hlap, rfl⟩ := sleep_mem_calls_iff.mp hpause
    exact ⟨(Lap.value_pause hexact (lap_isInfix hlap)).1,
      Lap.pause_within hinterval hexact hsteady (lap_isInfix hlap)⟩
  apart _ _ h := h.apart hexact hsteady

theorem keepsTime (hexact : IsExact interval (timeline.calls interval))
    (hpunctual : IsPunctual (timeline.calls interval)) : timeline.KeepsTime interval where
  gaps _ _ h := h.gap_eq hexact hpunctual
  noDrift _ start k hfirst := start_eq hexact hpunctual hfirst k start

end Timeline

/-! ### Whole runs -/

section Run

variable {Surroundings : Type}

/-- A run in timed surroundings. -/
def timedRun (settings : Settings) (registry : Sink.Registry Surroundings)
    (clock : Clock Surroundings) (pauseFor : Int → Act Surroundings Unit)
    (tasks : List (Task Surroundings)) (limit : Nat) : Program (Timed Surroundings) Ending :=
  run settings registry.timed clock.timed (timedPause pauseFor) (tasks.map Task.timed) limit

variable {settings : Settings}

/-- A run in timed surroundings is the run itself, and its calls are those of its rounds. -/
theorem exists_timeline (honce : settings.once = false) (registry : Sink.Registry Surroundings)
    (clock : Clock Surroundings) (pauseFor : Int → Act Surroundings Unit)
    (tasks : List (Task Surroundings)) (limit : Nat) (start : World Surroundings) :
    ∃ (timeline : Timeline) (result : Except Failure Ending) (final : World Surroundings),
      (run settings registry clock pauseFor tasks limit).outcome start = (result, final) ∧
      (timedRun settings registry clock pauseFor tasks limit).outcome (start.timed []) =
        (result, final.timed (timeline.calls settings.interval)) ∧
      ∀ sink opened, (opening settings registry).outcome start = (.ok sink, opened) →
        timeline.IsFull limit (Interrupts settings clock pauseFor sink tasks) result := by
  have hnote := Act.outcome_map Sink.timed (opening settings registry).timed (start.timed [])
  rw [Program.outcome_timed] at hnote
  rw [timedRun, run_eq_opening, run_eq_opening, opening_timed]
  rcases hopening : (opening settings registry).outcome start with ⟨failure | sink, opened⟩
  · rw [hopening] at hnote
    refine ⟨⟨[], none⟩, .error failure, opened, Act.outcome_bind_error hopening,
      Act.outcome_bind_error hnote, fun sink opened hok ↦ ?_⟩
    cases hok
  · rw [hopening] at hnote
    have hrounds := notes_rounds honce clock pauseFor sink tasks limit
    obtain ⟨_, houtcome, timeline, rfl, hfull⟩ :=
      hrounds.note settings .debug ("will log data to " ++ settings.sinkName) opened []
    refine ⟨timeline, _, _, Act.outcome_bind_ok hopening,
      (Act.outcome_bind_ok hnote).trans houtcome, fun sink opened hok ↦ ?_⟩
    cases hok
    exact hfull

/-- A loop keeps its period, whatever its tasks, its sink and its clock do. It is run with its calls
of the clock noted, which does not change what it does. They are the calls of a timeline of as many
rounds as are asked for, unless the clock fails before, if a sink is made and all records can be
published. By a steady clock, the sleeps lie between zero and the interval and rounds begin no less
than the interval apart; by one that is punctual too, rounds that take no longer than the interval
begin exactly the interval apart, and none of them drifts. -/
theorem run_keeps_period (honce : settings.once = false)
    (hinterval : 0 ≤ settings.interval) (registry : Sink.Registry Surroundings)
    (clock : Clock Surroundings) (pauseFor : Int → Act Surroundings Unit)
    (tasks : List (Task Surroundings)) (limit : Nat) (start : World Surroundings) :
    ∃ timeline : Timeline, ∃ result final,
      (run settings registry clock pauseFor tasks limit).outcome start = (result, final) ∧
      (timedRun settings registry clock pauseFor tasks limit).outcome (start.timed []) =
        (result, final.timed (timeline.calls settings.interval)) ∧
      (∀ sink opened, (opening settings registry).outcome start = (.ok sink, opened) →
        0 ≤ settings.retries → settings.retries ≤ Schedule.sizeLimit →
        (∀ task ∈ tasks, task.IsPublishable settings.chunkSize) →
        timeline.IsFull limit clock.Fails result) ∧
      (IsExact settings.interval (timeline.calls settings.interval) →
        (IsSteady (timeline.calls settings.interval) → timeline.KeepsPeriod settings.interval) ∧
        (IsPunctual (timeline.calls settings.interval) →
          timeline.KeepsTime settings.interval)) := by
  obtain ⟨timeline, result, final, hrun, htimed, hfull⟩ :=
    exists_timeline honce registry clock pauseFor tasks limit start
  refine ⟨timeline, result, final, hrun, htimed, ?_, fun hexact ↦ ⟨?_, ?_⟩⟩
  · intro sink opened hopening hnonneg hretries htasks
    exact (hfull sink opened hopening).mono fun _ h ↦ h.clock_fails hnonneg hretries htasks
  · exact Timeline.keepsPeriod hinterval hexact
  · exact Timeline.keepsTime hexact

end Run

/-! ### A run with a round that takes too long -/

/-- The time, and how long the coming rounds take. -/
structure Agenda where
  now : Reading
  work : List Reading

def agendaClock : Clock Agenda where
  monotonic := return (← get).now
  unixTime := pure 1668197951
  sleep pause := modify fun agenda ↦ { agenda with now := agenda.now.add pause }

/-- A task that takes as long as is planned for the round. -/
def plannedTask : Task Agenda where
  collect := do
    Program.ofSurroundings (modify fun agenda ↦
      ⟨agenda.now.add (agenda.work.headD (.whole 0)), agenda.work.tail⟩)
    return some [smallUsage]
  label := {}

def agendaRegistry : Sink.Registry Agenda :=
  [("record", ⟨"RecordSink", "sinks", none, fun _ ↦ pure (some fun _ _ ↦ pure ())⟩)]

/-- Quarters of a second. -/
def quarters (n : Nat) : Reading :=
  .fraction (.ofRatio false n 4)

/-- Three rounds, the second of which takes half a minute longer than a minute. -/
def plannedWorld : World Agenda :=
  { surroundings := ⟨quarters 2, [quarters 80, quarters 362, quarters 1]⟩ }

/-- The rounds begin at half a second, at a minute and a half second, and at the end of the second
round, which is late. -/
def plannedCalls : List ClockCall :=
  [.read (quarters 2), .read (quarters 82), .sleep (quarters 160),
    .read (quarters 242), .read (quarters 604), .sleep (.whole 0),
    .read (quarters 604), .read (quarters 605), .sleep (quarters 239)]

/-- The readings at the start and at the end of each round. -/
def plannedReads : List (Reading × Reading) :=
  [(quarters 2, quarters 82), (quarters 242, quarters 604), (quarters 604, quarters 605)]

/-- The sleeps between two rounds, and the readings around them. -/
def plannedSleeps : List (Reading × Reading × Reading) :=
  [(quarters 82, quarters 160, quarters 242), (quarters 604, .whole 0, quarters 604)]

theorem mem_plannedReads {earlier later : Reading}
    (h : [.read earlier, .read later] <:+: plannedCalls) : (earlier, later) ∈ plannedReads := by
  simpa [plannedCalls, plannedReads, List.infix_cons_iff, List.cons_prefix_cons] using h

theorem mem_plannedSleeps {earlier pause later : Reading}
    (h : [.read earlier, .sleep pause, .read later] <:+: plannedCalls) :
    (earlier, pause, later) ∈ plannedSleeps := by
  simpa [plannedCalls, plannedSleeps, List.infix_cons_iff, List.cons_prefix_cons] using h

theorem isExact_plannedCalls : IsExact 60 plannedCalls := by
  have hreads : ∀ pair ∈ plannedReads, pair.2.SubIsExact pair.1 ∧
      (Reading.whole 60).SubIsExact (pair.2.sub pair.1) := by
    decide +kernel
  exact fun _ _ h ↦ hreads _ (mem_plannedReads h)

theorem isPunctual_plannedCalls : IsPunctual plannedCalls := by
  have hsleeps : ∀ triple ∈ plannedSleeps,
      triple.2.2.value = triple.1.value + triple.2.1.value := by
    decide +kernel
  exact fun _ _ _ h ↦ hsleeps _ (mem_plannedSleeps h)

theorem isSteady_plannedCalls : IsSteady plannedCalls where
  rises _ _ h := by
    have hreads : ∀ pair ∈ plannedReads, pair.1.value ≤ pair.2.value := by decide +kernel
    exact hreads _ (mem_plannedReads h)
  sleeps _ _ _ h := (isPunctual_plannedCalls _ _ _ h).ge

def plannedRun : Except Failure Ending × World (Timed Agenda) :=
  (timedRun endlessSettings agendaRegistry agendaClock (fun _ ↦ pure ()) [plannedTask] 3).outcome
    (plannedWorld.timed [])

theorem run_keeps_period_of_overrun :
    ∃ (timeline : Timeline) (final : World Agenda),
      plannedRun = (.ok .cutOff, final.timed plannedCalls) ∧
      timeline.calls 60 = plannedCalls ∧ timeline.laps.length = 3 ∧
      timeline.KeepsPeriod 60 ∧ timeline.KeepsTime 60 := by
  have honce : endlessSettings.once = false := rfl
  have hinterval : 0 ≤ endlessSettings.interval := by decide
  have hpublish : ∀ task ∈ [plannedTask], task.IsPublishable endlessSettings.chunkSize := by
    intro task htask _ world records after hcollect record hrecord
    obtain rfl := List.mem_singleton.mp htask
    cases hcollect
    obtain rfl := List.mem_singleton.mp hrecord
    exact ⟨35, by decide +kernel, by decide⟩
  obtain ⟨timeline, result, final, -, htimed, hfull, hkeeps⟩ :=
    run_keeps_period honce hinterval agendaRegistry agendaClock (fun _ ↦ pure ()) [plannedTask] 3
      plannedWorld
  have hcalls : timeline.calls 60 = plannedCalls := by
    have hplanned : plannedRun.2.surroundings.calls = plannedCalls := by decide +kernel
    rw [plannedRun, htimed] at hplanned
    exact hplanned
  obtain ⟨hperiod, htime⟩ := hkeeps (hcalls ▸ isExact_plannedCalls)
  obtain ⟨rfl, hlength, -⟩ | ⟨-, failure, -, hfails⟩ :=
    hfull _ _ rfl (by decide) (by decide) hpublish
  · refine ⟨timeline, final, ?_, hcalls, hlength, hperiod (hcalls ▸ isSteady_plannedCalls),
      htime (hcalls ▸ isPunctual_plannedCalls)⟩
    rw [plannedRun, htimed, ← hcalls]
    rfl
  · -- The clock never fails.
    obtain ⟨_, h⟩ | ⟨_, h⟩ | ⟨_, _, h⟩ := hfails <;> cases h

end MountCensus.Loop
