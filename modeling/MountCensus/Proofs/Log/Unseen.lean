import MountCensus.Proofs.Act
import MountCensus.Proofs.Log.Console

/-!
Programs that take no notice of log files. Two worlds are alike if the same has been printed in
them, their loggers print alike and their surroundings are the same, whatever their files. A program
that is blind ends alike in them (`Program.IsBlind`); it may log, print, and do anything with the
surroundings, in any order and with its failures answered.
-/

set_option autoImplicit false

namespace MountCensus

variable {Surroundings α β : Type}

structure World.Alike (world other : World Surroundings) : Prop where
  printed : world.output.printed = other.output.printed
  loggers : world.loggers.SameFaces other.loggers
  surroundings : world.surroundings = other.surroundings

theorem World.Alike.rfl {world : World Surroundings} : world.Alike world :=
  ⟨Eq.refl _, .rfl, Eq.refl _⟩

namespace Program

/-- Begun in worlds that are alike, the program has the same result and leaves worlds that are
alike. -/
structure IsBlind (program : Program Surroundings α) : Prop where
  alike : ∀ world other : World Surroundings, world.Alike other → ∃ result after otherAfter,
    program.outcome world = (result, after) ∧ program.outcome other = (result, otherAfter) ∧
      after.Alike otherAfter

theorem isBlind_pure (a : α) : IsBlind (pure a : Program Surroundings α) :=
  ⟨fun world other halike ↦ ⟨.ok a, world, other, rfl, rfl, halike⟩⟩

theorem isBlind_throw (failure : Failure) : IsBlind (throw failure : Program Surroundings α) :=
  ⟨fun world other halike ↦ ⟨.error failure, world, other, rfl, rfl, halike⟩⟩

theorem isBlind_liftM (result : Except Failure α) :
    IsBlind (liftM result : Program Surroundings α) := by
  cases result with
  | ok a => exact isBlind_pure a
  | error failure => exact isBlind_throw failure

theorem IsBlind.bind {program : Program Surroundings α} {next : α → Program Surroundings β}
    (h : program.IsBlind) (hnext : ∀ a, (next a).IsBlind) : (program >>= next).IsBlind := by
  refine ⟨fun world other halike ↦ ?_⟩
  obtain ⟨result, after, otherAfter, hworld, hother, hafter⟩ := h.alike world other halike
  cases result with
  | error failure =>
    exact ⟨_, _, _, Act.outcome_bind_error hworld, Act.outcome_bind_error hother, hafter⟩
  | ok a =>
    rw [Act.outcome_bind_ok hworld, Act.outcome_bind_ok hother]
    exact (hnext a).alike after otherAfter hafter

theorem IsBlind.map {program : Program Surroundings α} (h : program.IsBlind) (f : α → β) :
    (f <$> program).IsBlind := by
  rw [map_eq_pure_bind]
  exact h.bind fun a ↦ isBlind_pure (f a)

theorem IsBlind.onFailure {program : Program Surroundings α}
    {handler : Failure → Program Surroundings α} (h : program.IsBlind)
    (hhandler : ∀ failure, (handler failure).IsBlind) :
    IsBlind (Act.onFailure program handler) := by
  refine ⟨fun world other halike ↦ ?_⟩
  obtain ⟨result, after, otherAfter, hworld, hother, hafter⟩ := h.alike world other halike
  rw [Act.outcome_onFailure, Act.outcome_onFailure, hworld, hother]
  cases result with
  | ok a => exact ⟨_, _, _, rfl, rfl, hafter⟩
  | error failure => exact (hhandler failure).alike after otherAfter hafter

theorem outcome_ofSurroundings (act : Act Surroundings α) (world : World Surroundings) :
    (ofSurroundings act).outcome world =
      ((act.outcome world.surroundings).1,
        { world with surroundings := (act.outcome world.surroundings).2 }) := rfl

theorem isBlind_ofSurroundings (act : Act Surroundings α) : (ofSurroundings act).IsBlind := by
  refine ⟨fun world other halike ↦ ?_⟩
  have hother := outcome_ofSurroundings act other
  rw [← halike.surroundings] at hother
  exact ⟨_, _, _, outcome_ofSurroundings act world, hother, halike.printed, halike.loggers, rfl⟩

theorem isBlind_print (text : String) : (print text : Program Surroundings Unit).IsBlind :=
  ⟨fun _ _ halike ↦ ⟨_, _, _, rfl, rfl,
    ⟨congrArg (· ++ text) halike.printed, halike.loggers, halike.surroundings⟩⟩⟩

theorem outcome_log (logger : String) (entry : Log.Entry) (world : World Surroundings) :
    (log logger entry).outcome world =
      (.ok (), { world with
        loggers := (world.loggers.log world.output logger entry).1
        output := (world.loggers.log world.output logger entry).2 }) := rfl

theorem isBlind_log (logger : String) (entry : Log.Entry) :
    (log logger entry : Program Surroundings Unit).IsBlind := by
  refine ⟨fun world other halike ↦ ?_⟩
  refine ⟨_, _, _, outcome_log .., outcome_log .., ?_, ?_, halike.surroundings⟩
  · simp only
    rw [Log.Loggers.printed_log, Log.Loggers.printed_log, halike.printed, halike.loggers.shown_eq]
  · exact ((Log.Loggers.log_faces _ _ _ _).trans halike.loggers).trans
      (Log.Loggers.log_faces _ _ _ _).symm

theorem IsBlind.logged {program : Program Surroundings α} (h : program.IsBlind) (logger : String) :
    (Program.logged logger program).IsBlind :=
  (h.map some).onFailure fun _ ↦ (isBlind_log logger _).bind fun _ ↦ isBlind_pure none

/-- Setting up a logger that writes to a file touches nothing but files and loggers, and makes no
logger print more. -/
theorem setUpLogger_of_file {setup : Log.Setup} (hfile : setup.onConsole = false)
    {result : Except Failure Unit} {start opened : World Surroundings}
    (h : (setUpLogger setup).outcome start = (result, opened)) :
    opened.output.printed = start.output.printed ∧ opened.surroundings = start.surroundings ∧
      (opened.loggers.get setup.name).level = some setup.level ∧
      ∀ name, start.loggers.IsQuiet name → opened.loggers.IsQuiet name := by
  obtain ⟨hprinted, hquiet⟩ := setup.apply_of_file hfile start.loggers start.output
  obtain rfl := congrArg Prod.snd h
  exact ⟨hprinted, rfl, setup.level_apply start.loggers start.output, hquiet⟩

/-- An entry that is too light for its logger leaves everything as it was. -/
theorem outcome_log_of_light {logger : String} {level : Log.Level} {entry : Log.Entry}
    {world : World Surroundings} (hlevel : (world.loggers.get logger).level = some level)
    (hlight : entry.level.weight < level.weight) :
    (log logger entry).outcome world = (.ok (), world) := by
  rw [outcome_log, Log.Loggers.log, Log.Loggers.level_eq hlevel,
    if_neg (Nat.not_le.mpr hlight)]

/-- What a quiet logger is told changes nothing that matters. -/
theorem alike_after_log {logger : String} {world : World Surroundings}
    (hquiet : world.loggers.IsQuiet logger) (entry : Log.Entry) :
    ((log logger entry).outcome world).2.Alike world :=
  ⟨hquiet.printed_log world.output entry, Log.Loggers.log_faces _ _ _ _, rfl⟩

end Program

end MountCensus
