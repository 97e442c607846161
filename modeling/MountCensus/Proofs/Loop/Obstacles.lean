import MountCensus.Proofs.Loop.Isolation

/-!
Where a loop without end does end. A record that does not fit into a batch keeps the records of its
task from being delivered in full (`obstacle?_eq_none_iff`). Neither the log nor the sink stands
between such an obstacle and the loop: the round is made up to that task and the run fails with it
(`ends_runTasks_of_obstacle`). So a run goes on for as long as no task meets an obstacle and the
clock does not fail (`run_goes_until_obstacle`), and one record can end it
(`run_ends_for_large_record`).
-/

set_option autoImplicit false

namespace MountCensus

theorem Delivery.failure_batches_eq_none_iff {chunkSize : Int} {records : List Record} :
    (batches chunkSize records).failure = none ↔
      (0 < chunkSize → ∀ record ∈ records, Chunked.Fits recordSize chunkSize record) := by
  constructor
  · intro hnone hpos
    rw [batches, if_pos hpos] at hnone
    exact (Chunked.failure_ofItems_eq_none_iff hpos).mp hnone
  · exact failure_batches

/-- Batches end with a failure about a value only. -/
theorem Delivery.kind_of_failure_batches {chunkSize : Int} {records : List Record}
    {failure : Failure} (h : (batches chunkSize records).failure = some failure) :
    failure.kind = .value := by
  unfold batches at h
  split at h
  · rename_i hpos
    rw [Chunked.ofItems, if_neg (Int.not_le.mpr hpos)] at h
    rcases Chunked.failure_chunksFrom_cases records [] _ h with ⟨record, -, hsize⟩ | ⟨size, rfl⟩
    · rw [recordSize, Record.write] at hsize
      split at hsize
      · cases hsize
      · cases hsize
        rfl
    · rfl
  · cases h

namespace Loop

variable {Time State : Type}

/-! ### Obstacles -/

theorem Script.obstacle?_eq_none_iff {chunkSize : Int} {round : Nat} {script : Script} :
    script.obstacle? chunkSize round = none ↔
      ∀ records, script.answer round = .ok (some records) →
        0 < chunkSize → ∀ record ∈ records, Chunked.Fits Delivery.recordSize chunkSize record := by
  unfold obstacle?
  split
  · rename_i records hanswer
    rw [Delivery.failure_batches_eq_none_iff]
    constructor
    · intro hfits other hother
      rw [hanswer] at hother
      cases hother
      exact hfits
    · exact fun hfits ↦ hfits records hanswer
  · rename_i hother
    simp only [true_iff]
    exact fun records hanswer ↦ absurd hanswer (hother records)

/-- A round in which every task that answers can deliver its records. -/
def IsClear (chunkSize : Int) (scripts : List Script) (round : Nat) : Prop :=
  ∀ script ∈ scripts, script.obstacle? chunkSize round = none

theorem isClear_of_no_rounds {chunkSize : Int} {scripts : List Script} {first : Nat} :
    ∀ k < ([] : List Int).length, IsClear chunkSize scripts (first + k) :=
  fun k hk ↦ absurd hk (Nat.not_lt_zero k)

/-- The first task of a round that meets an obstacle, with the tasks before it and behind it. -/
structure Meets (chunkSize : Int) (scripts : List Script) (round : Nat) (failure : Failure)
    (before : List Script) (script : Script) (after : List Script) : Prop where
  scripts_eq : scripts = before ++ script :: after
  clear : IsClear chunkSize before round
  obstacle : script.obstacle? chunkSize round = some failure

theorem isClear_or_meets (chunkSize : Int) (scripts : List Script) (round : Nat) :
    IsClear chunkSize scripts round ∨
      ∃ failure before script after, Meets chunkSize scripts round failure before script after := by
  induction scripts with
  | nil => exact .inl fun script hscript ↦ absurd hscript List.not_mem_nil
  | cons script scripts ih =>
    cases hscript : script.obstacle? chunkSize round with
    | some failure =>
      refine .inr ⟨failure, [], script, scripts, rfl, ?_, hscript⟩
      exact fun script hscript ↦ absurd hscript List.not_mem_nil
    | none =>
      rcases ih with hclear | ⟨failure, before, other, after, hmeets⟩
      · exact .inl (List.forall_mem_cons.mpr ⟨hscript, hclear⟩)
      · refine .inr ⟨failure, script :: before, other, after, ?_, ?_, hmeets.obstacle⟩
        · rw [hmeets.scripts_eq, List.cons_append]
        · exact List.forall_mem_cons.mpr ⟨hscript, hmeets.clear⟩

section Tasks

variable {settings : Settings}

theorem runTasks_append (settings : Settings) (pauseFor : Int → Act (Staged Time State) Unit)
    (sink : Sink (Staged Time State)) (time : Int)
    (first second : List (Task (Staged Time State))) :
    runTasks settings pauseFor sink time (first ++ second) =
      runTasks settings pauseFor sink time first >>= fun _ ↦
        runTasks settings pauseFor sink time second := by
  induction first with
  | nil => rw [List.nil_append, runTasks, pure_bind]
  | cons task first ih => rw [List.cons_append, runTasks, runTasks, ih, bind_assoc]

/-- A round ends with the first task that meets an obstacle; those behind it are not collected. -/
theorem ends_runTasks_of_obstacle (hnonneg : 0 ≤ settings.retries)
    (hlimit : settings.retries ≤ Schedule.sizeLimit) (sink : Sink State)
    (pauseFor : Int → Act (Staged Time State) Unit) (time : Int) {round : Nat}
    {scripts before after : List Script} {script : Script} {failure : Failure}
    (hmeets : Meets settings.chunkSize scripts round failure before script after)
    (stage : Stage Time) (hround : roundOf stage.events = round) :
    Ends (runTasks settings pauseFor (stagedSink sink) time
        (scripts.map (Script.task settings.logger)))
      (.error (Delivery.explain settings.sinkName settings.retries failure)) stage
      (stage.add ((before ++ [script]).flatMap
        (Script.events settings.chunkSize time round))) := by
  rw [hmeets.scripts_eq, List.map_append, List.map_cons, runTasks_append, List.flatMap_append,
    List.flatMap_singleton, ← Stage.add_add]
  have hbefore := ends_runTasks hnonneg hlimit sink pauseFor time round before hmeets.clear stage
    hround
  refine hbefore.bind ?_
  have hlater : roundOf (stage.add
      (before.flatMap (Script.events settings.chunkSize time round))).events = round := by
    rw [Stage.add, roundOf_append, hround, roundOf_flatMap_events, Nat.add_zero]
  have htask := ends_runTask hnonneg hlimit sink pauseFor time script
    (stage.add (before.flatMap (Script.events settings.chunkSize time round)))
  rw [hlater, hmeets.obstacle] at htask
  rw [runTasks]
  exact htask.bind_error _

end Tasks

/-! ### Runs -/

/-- How a run without end goes: `limit` rounds from the given one on are asked for, and events and a
result are what comes of it. -/
inductive Goes (settings : Settings) (clock : Clock Time) (scripts : List Script)
    (first limit : Nat) : List Event → Except Failure Ending → Prop
  | cutOff {times : List Int} :
    times.length = limit →
    (∀ k < times.length, IsClear settings.chunkSize scripts (first + k)) →
    Goes settings clock scripts first limit
      (history settings.chunkSize scripts first times) (.ok .cutOff)
  | clockFailed {times : List Int} {failure : Failure} :
    times.length ≤ limit →
    (∀ k < times.length, IsClear settings.chunkSize scripts (first + k)) →
    clock.Fails failure →
    Goes settings clock scripts first limit
      (history settings.chunkSize scripts first times ++ [.clockFailed failure]) (.error failure)
  | obstructed {times : List Int} {time : Int} {failure : Failure} {before after : List Script}
      {script : Script} :
    times.length < limit →
    (∀ k < times.length, IsClear settings.chunkSize scripts (first + k)) →
    Meets settings.chunkSize scripts (first + times.length) failure before script after →
    Goes settings clock scripts first limit
      (history settings.chunkSize scripts first times ++
        roundEvents settings.chunkSize (before ++ [script]) time (first + times.length))
      (.error (Delivery.explain settings.sinkName settings.retries failure))

namespace Goes

variable {settings : Settings} {clock : Clock Time} {scripts : List Script} {first limit : Nat}
  {events : List Event} {result : Except Failure Ending}

/-- A clear round in front. -/
theorem after (h : Goes settings clock scripts (first + 1) limit events result) (time : Int)
    (hclear : IsClear settings.chunkSize scripts first) :
    Goes settings clock scripts first (limit + 1)
      (roundEvents settings.chunkSize scripts time first ++ events) result := by
  have hcons {times : List Int}
      (hmore : ∀ k < times.length, IsClear settings.chunkSize scripts (first + 1 + k)) :
      ∀ k < (time :: times).length, IsClear settings.chunkSize scripts (first + k) := by
    intro k hk
    cases k with
    | zero => exact hclear
    | succ k =>
      rw [Nat.add_comm k, ← Nat.add_assoc]
      exact hmore k (Nat.lt_of_succ_lt_succ hk)
  cases h with
  | cutOff hlength hmore =>
    rw [← history_cons]
    exact .cutOff (congrArg Nat.succ hlength) (hcons hmore)
  | clockFailed hlength hmore hfails =>
    rw [← List.append_assoc, ← history_cons]
    exact .clockFailed (Nat.succ_le_succ hlength) (hcons hmore) hfails
  | @obstructed times _ _ _ _ _ hlength hmore hmeets =>
    have hround : first + 1 + times.length = first + (time :: times).length := by
      rw [List.length_cons]
      omega
    rw [← List.append_assoc, ← history_cons, hround]
    rw [hround] at hmeets
    exact .obstructed (Nat.succ_lt_succ hlength) (hcons hmore) hmeets

end Goes

/-- A program that, begun on a stage, goes on with a run behind the events so far, for at most
`limit` rounds. -/
def Leads (settings : Settings) (clock : Clock Time) (scripts : List Script) (limit : Nat)
    (program : Program (Staged Time State) Ending) (stage : Stage Time) (events : List Event) :
    Prop :=
  ∃ more result later,
    Ends program result stage ⟨later, events ++ more⟩ ∧
    Goes settings clock scripts (roundOf events + 1) limit more result

section Leading

variable {α : Type} {settings : Settings} {clock : Clock Time} {scripts : List Script}
  {limit : Nat} {now : Time} {events : List Event}

theorem Leads.after_ok {program : Program (Staged Time State) α} {a : α}
    {next : α → Program (Staged Time State) Ending} {before middle : Stage Time}
    (h : Leads settings clock scripts limit (next a) middle events)
    (hprogram : Ends program (.ok a) before middle) :
    Leads settings clock scripts limit (program >>= next) before events := by
  obtain ⟨more, result, later, hends, hgoes⟩ := h
  exact ⟨more, result, later, hprogram.bind hends, hgoes⟩

theorem leads_asked {note : α → List Event} {act : Act Time α}
    {next : α → Program (Staged Time State) Ending}
    (hfails : ∀ failure, (act.outcome now).1 = .error failure → clock.Fails failure)
    (h : ∀ a later, Leads settings clock scripts limit (next a) ⟨later, events ++ note a⟩ events) :
    Leads settings clock scripts limit (Program.ofSurroundings (onClock note act) >>= next)
      ⟨now, events⟩ events := by
  rcases hanswer : act.outcome now with ⟨failure | a, later⟩
  · exact ⟨[.clockFailed failure], .error failure, later,
      (ends_onClock_error hanswer events).bind_error next,
      .clockFailed (Nat.zero_le limit) isClear_of_no_rounds (hfails failure (by rw [hanswer]))⟩
  · exact (h a later).after_ok (ends_onClock_ok hanswer events)

/-- Asking for a reading leaves nothing behind. -/
theorem leads_read {act : Act Time α} {next : α → Program (Staged Time State) Ending}
    (hfails : ∀ failure, (act.outcome now).1 = .error failure → clock.Fails failure)
    (h : ∀ a later, Leads settings clock scripts limit (next a) ⟨later, events⟩ events) :
    Leads settings clock scripts limit
      (Program.ofSurroundings (onClock (fun _ ↦ []) act) >>= next) ⟨now, events⟩ events := by
  refine leads_asked hfails fun a later ↦ ?_
  rw [List.append_nil]
  exact h a later

/-- The tasks of a round, and what comes after them if none of them meets an obstacle. -/
theorem leads_tasks (hnonneg : 0 ≤ settings.retries)
    (hlimit : settings.retries ≤ Schedule.sizeLimit) (sink : Sink State)
    (pauseFor : Int → Act (Staged Time State) Unit) (time : Int)
    {next : Unit → Program (Staged Time State) Ending}
    (hnext : ∀ events, Leads settings clock scripts limit (next ()) ⟨now, events⟩ events) :
    Leads settings clock scripts (limit + 1)
      (runTasks settings pauseFor (stagedSink sink) time
        (scripts.map (Script.task settings.logger)) >>= next)
      ⟨now, events ++ [.time time]⟩ events := by
  have hround : roundOf (events ++ [.time time]) = roundOf events + 1 := by
    rw [roundOf_append]
    rfl
  have hevents (reached : List Script) :
      (Stage.mk now (events ++ [.time time])).add
          (reached.flatMap (Script.events settings.chunkSize time (roundOf events + 1))) =
        ⟨now, events ++ roundEvents settings.chunkSize reached time (roundOf events + 1)⟩ := by
    rw [Stage.add, List.append_assoc, List.singleton_append, roundEvents]
  rcases isClear_or_meets settings.chunkSize scripts (roundOf events + 1) with
    hclear | ⟨failure, before, script, after, hmeets⟩
  · have htasks := ends_runTasks hnonneg hlimit sink pauseFor time _ scripts hclear
      (Stage.mk now (events ++ [.time time])) hround
    obtain ⟨more, result, later, hends, hgoes⟩ := hnext
      (events ++ roundEvents settings.chunkSize scripts time (roundOf events + 1))
    rw [roundOf_append, roundOf_roundEvents] at hgoes
    rw [hevents] at htasks
    rw [List.append_assoc] at hends
    exact ⟨_, result, later, htasks.bind hends, hgoes.after time hclear⟩
  · have htasks := ends_runTasks_of_obstacle hnonneg hlimit sink pauseFor time hmeets
      (Stage.mk now (events ++ [.time time])) hround
    rw [hevents] at htasks
    exact ⟨_, _, now, htasks.bind_error next,
      .obstructed (Nat.succ_pos limit) isClear_of_no_rounds hmeets⟩

end Leading

/-- The rounds of a loop without end, from any stage on. -/
theorem leads_rounds {settings : Settings} (hnonneg : 0 ≤ settings.retries)
    (hlimit : settings.retries ≤ Schedule.sizeLimit) (honce : settings.once = false)
    (clock : Clock Time) (pauseFor : Int → Act (Staged Time State) Unit) (sink : Sink State)
    (scripts : List Script) (limit : Nat) :
    ∀ now events,
      Leads settings clock scripts limit
        (rounds settings (stagedClock clock) pauseFor (stagedSink sink)
          (scripts.map (Script.task settings.logger)) limit) ⟨now, events⟩ events := by
  induction limit with
  | zero =>
    intro now events
    refine ⟨[], .ok .cutOff, now, ?_, .cutOff rfl isClear_of_no_rounds⟩
    rw [List.append_nil]
    exact ends_pure _ _
  | succ limit ih =>
    intro now events
    rw [rounds, honce]
    refine Leads.after_ok ?_ (ends_note settings _ _ _)
    refine leads_read (fun failure h ↦ .inl ⟨now, h⟩) fun started begun ↦ ?_
    refine leads_asked (fun failure h ↦ .inr (.inl ⟨begun, h⟩)) fun time timed ↦ ?_
    refine leads_tasks hnonneg hlimit sink pauseFor time fun events ↦ ?_
    rw [if_neg Bool.false_ne_true]
    refine leads_read (fun failure h ↦ .inl ⟨timed, h⟩) fun ended later ↦ ?_
    refine Leads.after_ok (Leads.after_ok ?_ (ends_note settings _ _ _)) (ends_note settings _ _ _)
    exact leads_read (fun failure h ↦ .inr (.inr ⟨_, later, h⟩)) fun _ last ↦ ih last events

/-- Once its sink is made, a run without end goes round by round, each round made in full as long as
all records that its tasks answer with fit into batches. It ends when the clock fails, and it ends
as a misuse at the first task of which a record does not fit: what this task has delivered before
stays delivered, but neither the tasks behind it nor any later round is made. -/
theorem run_goes_until_obstacle {settings : Settings} (hnonneg : 0 ≤ settings.retries)
    (hlimit : settings.retries ≤ Schedule.sizeLimit) (honce : settings.once = false)
    (clock : Clock Time) (pauseFor : Int → Act (Staged Time State) Unit) (sink : Sink State)
    (scripts : List Script) {registry : Sink.Registry (Staged Time State)}
    {start opened : World (Staged Time State)}
    (hopening : (opening settings registry).outcome start = (.ok (stagedSink sink), opened))
    {now : Time} (hstage : opened.surroundings.stage = ⟨now, []⟩) (limit : Nat) :
    (∃ (result : Except Failure Ending) (final : World (Staged Time State)),
      (run settings registry (stagedClock clock) pauseFor
          (scripts.map (Script.task settings.logger)) limit).outcome start = (result, final) ∧
      Goes settings clock scripts 1 limit final.surroundings.stage.events result) ∧
    ∀ (script : Script) (round : Nat),
      (script.obstacle? settings.chunkSize round = none ↔
        ∀ records, script.answer round = .ok (some records) → 0 < settings.chunkSize →
          ∀ record ∈ records,
            Chunked.Fits Delivery.recordSize settings.chunkSize record) ∧
      ∀ failure, script.obstacle? settings.chunkSize round = some failure →
        Delivery.explain settings.sinkName settings.retries failure = ⟨.usage, failure.text⟩ := by
  refine ⟨?_, fun script round ↦ ⟨Script.obstacle?_eq_none_iff, fun failure hobstacle ↦ ?_⟩⟩
  · have hrounds : Leads settings clock scripts limit
        (debug settings ("will log data to " ++ settings.sinkName) >>= fun _ ↦
          rounds settings (stagedClock clock) pauseFor (stagedSink sink)
            (scripts.map (Script.task settings.logger)) limit) ⟨now, []⟩ [] :=
      Leads.after_ok (leads_rounds hnonneg hlimit honce clock pauseFor sink scripts limit now [])
        (ends_note settings _ _ _)
    obtain ⟨events, result, later, hends, hgoes⟩ := hrounds
    obtain ⟨final, houtcome, hfinal⟩ := hends opened hstage
    refine ⟨result, final, ?_, ?_⟩
    · rw [run_eq_opening, Act.outcome_bind_ok hopening]
      exact houtcome
    · rw [hfinal]
      exact hgoes
  · unfold Script.obstacle? at hobstacle
    split at hobstacle
    · rw [Delivery.explain, Delivery.kind_of_failure_batches hobstacle]
      rfl
    · cases hobstacle

/-! ### A record that is too large -/

/-- A clock that never fails. -/
def steadyClock : Clock Nat where
  monotonic := pure (.whole 0)
  unixTime := pure 1668197951
  sleep _ := pure ()

/-- A task that comes upon a large record in its second round. -/
def growingScript : Script where
  label := ⟨some .log, none⟩
  answer round :=
    .ok (some (if round = 1 then [smallUsage] else [smallUsage, .usage ⟨10 ^ 20, 10⟩]))
  remarks _ := []

/-- A sink that takes everything. -/
def yieldingSink : Sink Unit :=
  fun _ _ ↦ pure ()

def yieldingRegistry : Sink.Registry (Staged Nat Unit) :=
  [("record", ⟨"RecordSink", "sinks", none, fun _ ↦ pure (some (stagedSink yieldingSink))⟩)]

/-- Up to five rounds of a growing task and a steady one. -/
def growingRun : Program (Staged Nat Unit) Ending :=
  run endlessSettings yieldingRegistry (stagedClock steadyClock) (fun _ ↦ pure ())
    ([growingScript, steadyScript].map (Script.task endlessSettings.logger)) 5

theorem run_goes_until_obstacle_of_growing :
    ∃ final : World (Staged Nat Unit),
      growingRun.outcome freshWorld =
        (.error ⟨.usage, "Got item of size 55 which is not less than 50 - 2 bytes"⟩, final) ∧
      Goes endlessSettings steadyClock [growingScript, steadyScript] 1 5
        final.surroundings.stage.events
        (.error ⟨.usage, "Got item of size 55 which is not less than 50 - 2 bytes"⟩) := by
  have hnonneg : 0 ≤ endlessSettings.retries := by decide
  have hlimit : endlessSettings.retries ≤ Schedule.sizeLimit := by decide
  have hopening : (opening endlessSettings yieldingRegistry).outcome freshWorld =
      (.ok (stagedSink yieldingSink),
        ((opening endlessSettings yieldingRegistry).outcome freshWorld).2) := rfl
  obtain ⟨result, final, houtcome, hgoes⟩ := (run_goes_until_obstacle hnonneg hlimit rfl steadyClock
    (fun _ ↦ pure ()) yieldingSink [growingScript, steadyScript] hopening rfl 5).1
  have hresult : (growingRun.outcome freshWorld).1 =
      .error ⟨.usage, "Got item of size 55 which is not less than 50 - 2 bytes"⟩ := by
    decide +kernel
  rw [growingRun, houtcome] at hresult
  obtain rfl : result = _ := hresult
  exact ⟨final, houtcome, hgoes⟩

/-- With a sink that takes everything and a clock that never fails, one large record ends the run:
the steady task is collected in the first round only. -/
theorem run_ends_for_large_record :
    (∀ batch label world, ((yieldingSink batch label).outcome world).1 = .ok ()) ∧
    (∀ failure, ¬ steadyClock.Fails failure) ∧
    (growingRun.outcome freshWorld).1 =
      .error ⟨.usage, "Got item of size 55 which is not less than 50 - 2 bytes"⟩ ∧
    (growingRun.outcome freshWorld).2.surroundings.stage.events = [
      .time 1668197951,
      .collected growingScript.label (.ok (some [smallUsage])),
      .written ⟨1668197951, [smallUsage]⟩ growingScript.label,
      .collected steadyScript.label (.ok (some [smallUsage, smallUsage])),
      .written ⟨1668197951, [smallUsage]⟩ steadyScript.label,
      .written ⟨1668197951, [smallUsage]⟩ steadyScript.label,
      .time 1668197951,
      .collected growingScript.label (.ok (some [smallUsage, .usage ⟨10 ^ 20, 10⟩]))] := by
  refine ⟨fun _ _ _ ↦ rfl, fun failure hfails ↦ ?_, by decide +kernel, by decide +kernel⟩
  rcases hfails with ⟨now, h⟩ | ⟨now, h⟩ | ⟨rest, now, h⟩ <;> cases h

end Loop

end MountCensus
