import MountCensus.Program
import MountCensus.Proofs.Log.Isolated

/-!
What a program prints through its loggers, apart from what it writes to files. This is up to the
levels of the loggers, their console handlers and whether they are isolated, which an entry never
changes (`log_faces`): it adds the same text to what has been printed wherever these are the same
(`printed_log`), and none if the logger is quiet (`IsQuiet.printed_log`).
-/

set_option autoImplicit false

namespace MountCensus.Log

/-- Whether a handler prints its lines with details; nothing for one that writes to a file. -/
def Handler.form? (handler : Handler) : Option Bool :=
  match handler.target with
  | .console => some handler.detailed
  | .file _ => none

def Logger.forms (logger : Logger) : List Bool :=
  logger.handlers.filterMap Handler.form?

/-- What matters of a logger for what is printed. -/
structure Face where
  level : Option Level
  forms : List Bool
  isolated : Bool

def Logger.face (logger : Logger) : Face :=
  ⟨logger.level, logger.forms, logger.isolated⟩

/-- The lines that handlers of the given forms print for an entry. -/
def linesIn (logger : String) (entry : Entry) (forms : List Bool) : String :=
  String.join (forms.map fun detailed ↦ Handler.line ⟨.console, detailed⟩ logger entry)

theorem Handler.form?_write (handler : Handler) (output : Output) (line : String) :
    (handler.write output line).1.form? = handler.form? := by
  obtain ⟨target, detailed⟩ := handler
  cases target <;> rfl

theorem Handler.printed_write (handler : Handler) (output : Output) (logger : String)
    (entry : Entry) :
    (handler.write output (handler.line logger entry)).2.printed =
      output.printed ++ linesIn logger entry handler.form?.toList := by
  obtain ⟨target, detailed⟩ := handler
  cases target with
  | console => exact congrArg (output.printed ++ ·) (String.empty_append).symm
  | file rotation => exact String.append_empty.symm

theorem linesIn_append (logger : String) (entry : Entry) (forms more : List Bool) :
    linesIn logger entry (forms ++ more) =
      linesIn logger entry forms ++ linesIn logger entry more := by
  rw [linesIn, List.map_append, String.join_append]
  rfl

namespace Loggers

variable {loggers others : Loggers} {name : String}

/-! ### Loggers that print alike -/

/-- Loggers under the same names that differ in their files only. -/
def SameFaces (loggers others : Loggers) : Prop :=
  ∀ name, (loggers.get name).face = (others.get name).face

theorem SameFaces.rfl : SameFaces loggers loggers := fun _ ↦ Eq.refl _

theorem SameFaces.symm (h : SameFaces loggers others) : SameFaces others loggers :=
  fun name ↦ Eq.symm (h name)

theorem SameFaces.trans {more : Loggers} (h : SameFaces loggers others)
    (hmore : SameFaces others more) : SameFaces loggers more :=
  fun name ↦ Eq.trans (h name) (hmore name)

/-- What a change leaves as it is at one logger is the same for all of them. -/
theorem get_update_congr {β : Type} (f : Logger → β) {change : Logger → Logger}
    (h : f (change (loggers.get name)) = f (loggers.get name)) (other : String) :
    f ((loggers.update name change).get other) = f (loggers.get other) := by
  rw [get_update]
  split_ifs with hother
  · rw [h, ← get_properName, ← hother, get_properName]
  · rfl

theorem sameFaces_update {change : Logger → Logger}
    (h : (change (loggers.get name)).face = (loggers.get name).face) :
    SameFaces (loggers.update name change) loggers :=
  get_update_congr Logger.face h

theorem SameFaces.forms_eq (h : SameFaces loggers others) (name : String) :
    (loggers.get name).forms = (others.get name).forms :=
  congrArg Face.forms (h name)

theorem SameFaces.level_eq (h : SameFaces loggers others) (name : String) :
    loggers.level name = others.level name := by
  have hlevel (above : String) : (loggers.get above).level = (others.get above).level :=
    congrArg Face.level (h above)
  simp only [level, hlevel]

theorem reached_congr
    (h : ∀ name, (loggers.get name).isolated = (others.get name).isolated) (names : List String) :
    loggers.reached names = others.reached names := by
  induction names with
  | nil => rfl
  | cons name above ih => rw [reached, reached, h, ih]

theorem SameFaces.reached_eq (h : SameFaces loggers others) (names : List String) :
    loggers.reached names = others.reached names :=
  reached_congr (fun name ↦ congrArg Face.isolated (h name)) names

/-! ### What an entry prints -/

/-- What the handlers of the named loggers print for an entry. -/
def printedBy (loggers : Loggers) (logger : String) (entry : Entry) (names : List String) :
    String :=
  linesIn logger entry (names.flatMap fun name ↦ (loggers.get name).forms)

/-- What is printed for an entry of a logger. -/
def shown (loggers : Loggers) (name : String) (entry : Entry) : String :=
  if (loggers.level name).weight ≤ entry.level.weight then
    loggers.printedBy (properName name) entry (loggers.reached (chain name))
  else ""

theorem SameFaces.printedBy_eq (h : SameFaces loggers others) (logger : String) (entry : Entry)
    (names : List String) :
    loggers.printedBy logger entry names = others.printedBy logger entry names := by
  simp only [printedBy, h.forms_eq]

theorem SameFaces.shown_eq (h : SameFaces loggers others) (name : String) (entry : Entry) :
    loggers.shown name entry = others.shown name entry := by
  simp only [shown, h.level_eq, h.reached_eq, h.printedBy_eq]

theorem forms_writeAll (logger : String) (entry : Entry) (handlers : List Handler) :
    ∀ output : Output, (writeAll logger entry handlers output).1.filterMap Handler.form? =
      handlers.filterMap Handler.form? := by
  induction handlers with
  | nil => exact fun _ ↦ rfl
  | cons handler rest ih =>
    intro output
    simp only [writeAll, List.filterMap_cons, Handler.form?_write, ih]

theorem printed_writeAll (logger : String) (entry : Entry) (handlers : List Handler) :
    ∀ output : Output, (writeAll logger entry handlers output).2.printed =
      output.printed ++ linesIn logger entry (handlers.filterMap Handler.form?) := by
  induction handlers with
  | nil => exact fun _ ↦ String.append_empty.symm
  | cons handler rest ih =>
    intro output
    have hforms : (handler :: rest).filterMap Handler.form? =
        handler.form?.toList ++ rest.filterMap Handler.form? := by
      cases h : handler.form? <;> simp [h]
    rw [hforms, linesIn_append, ← String.append_assoc, ← Handler.printed_write, ← ih]
    rfl

theorem writeReached_faces (logger : String) (entry : Entry) (names : List String) :
    ∀ (loggers : Loggers) (output : Output),
      SameFaces (writeReached logger entry names loggers output).1 loggers := by
  induction names with
  | nil => exact fun _ _ ↦ SameFaces.rfl
  | cons name more ih =>
    intro loggers output
    refine (ih _ _).trans (sameFaces_update ?_)
    simp only [Logger.face, Logger.forms, forms_writeAll]

theorem printed_writeReached (logger : String) (entry : Entry) (names : List String) :
    ∀ (loggers : Loggers) (output : Output),
      (writeReached logger entry names loggers output).2.printed =
        output.printed ++ loggers.printedBy logger entry names := by
  induction names with
  | nil => exact fun _ _ ↦ String.append_empty.symm
  | cons name more ih =>
    intro loggers output
    have hsame : SameFaces (loggers.update name fun former ↦ { former with
        handlers := (writeAll logger entry (loggers.get name).handlers output).1 }) loggers :=
      sameFaces_update (by simp only [Logger.face, Logger.forms, forms_writeAll])
    rw [writeReached]
    simp only
    rw [ih, hsame.printedBy_eq, printed_writeAll, printedBy, printedBy, List.flatMap_cons,
      linesIn_append, String.append_assoc]
    rfl

/-- An entry changes no more of the loggers than their files. -/
theorem log_faces (loggers : Loggers) (output : Output) (name : String) (entry : Entry) :
    SameFaces (loggers.log output name entry).1 loggers := by
  unfold log
  split_ifs
  · exact writeReached_faces _ _ _ loggers output
  · exact SameFaces.rfl

theorem printed_log (loggers : Loggers) (output : Output) (name : String) (entry : Entry) :
    (loggers.log output name entry).2.printed = output.printed ++ loggers.shown name entry := by
  unfold log shown
  split_ifs
  · exact printed_writeReached _ _ _ loggers output
  · exact String.append_empty.symm

/-! ### Quiet loggers -/

/-- No handler that gets the entries of the logger prints them. -/
def IsQuiet (loggers : Loggers) (name : String) : Prop :=
  ∀ above ∈ loggers.reached (chain name), (loggers.get above).forms = []

instance (loggers : Loggers) (name : String) : Decidable (loggers.IsQuiet name) :=
  inferInstanceAs (Decidable (∀ above ∈ loggers.reached (chain name), _))

/-- Levels and files have no part in whether a logger is quiet. -/
theorem IsQuiet.of_forms (h : IsQuiet loggers name)
    (hforms : ∀ above, (others.get above).forms = (loggers.get above).forms)
    (hisolated : ∀ above, (others.get above).isolated = (loggers.get above).isolated) :
    IsQuiet others name := by
  intro above habove
  rw [reached_congr hisolated] at habove
  rw [hforms]
  exact h above habove

theorem IsQuiet.update {above : String} (h : IsQuiet loggers above) {change : Logger → Logger}
    (hforms : (change (loggers.get name)).forms = (loggers.get name).forms)
    (hisolated : (change (loggers.get name)).isolated = (loggers.get name).isolated) :
    IsQuiet (loggers.update name change) above :=
  h.of_forms (get_update_congr Logger.forms hforms) (get_update_congr Logger.isolated hisolated)

theorem IsQuiet.shown_eq (h : IsQuiet loggers name) (entry : Entry) :
    loggers.shown name entry = "" := by
  have hforms : (loggers.reached (chain name)).flatMap
      (fun above ↦ (loggers.get above).forms) = [] := List.flatMap_eq_nil_iff.mpr h
  rw [shown, printedBy, hforms]
  split_ifs <;> rfl

theorem IsQuiet.printed_log (h : IsQuiet loggers name) (output : Output) (entry : Entry) :
    (loggers.log output name entry).2.printed = output.printed := by
  rw [Loggers.printed_log, h.shown_eq, String.append_empty]

end Loggers

/-! ### Setting up a logger that writes to a file -/

theorem Setup.handler_of_file {setup : Setup} (hfile : setup.onConsole = false) (output : Output) :
    (setup.handler output).2.printed = output.printed ∧
      ∀ handler, (setup.handler output).1 = .ok handler → handler.form? = none := by
  unfold handler
  rw [hfile]
  simp only [Bool.false_eq_true, if_false]
  split
  · exact ⟨rfl, fun _ h ↦ nomatch h⟩
  · split
    · exact ⟨rfl, fun _ h ↦ nomatch h⟩
    · refine ⟨rfl, fun handler h ↦ ?_⟩
      rw [← Except.ok.inj h]
      rfl

/-- Whether or not a file can be opened, nothing is printed, and no logger prints what it did not
print before. -/
theorem Setup.apply_of_file {setup : Setup} (hfile : setup.onConsole = false) (loggers : Loggers)
    (output : Output) :
    (setup.apply loggers output).2.2.printed = output.printed ∧
      ∀ name, loggers.IsQuiet name → (setup.apply loggers output).2.1.IsQuiet name := by
  obtain ⟨hprinted, hhandler⟩ := setup.handler_of_file hfile output
  have hleveled (name : String) (h : loggers.IsQuiet name) :
      (loggers.update setup.name ({ · with level := some setup.level })).IsQuiet name :=
    h.update rfl rfl
  unfold apply
  rcases hopened : setup.handler output with ⟨failure | handler, after⟩
  · rw [hopened] at hprinted
    exact ⟨hprinted, hleveled⟩
  · rw [hopened] at hprinted hhandler
    refine ⟨hprinted, fun name h ↦ (hleveled name h).update ?_ rfl⟩
    rw [Logger.forms, List.filterMap_append, List.filterMap_cons_none (hhandler handler rfl),
      List.filterMap_nil, List.append_nil, Logger.forms]

theorem Setup.level_apply (setup : Setup) (loggers : Loggers) (output : Output) :
    ((setup.apply loggers output).2.1.get setup.name).level = some setup.level := by
  have hlevel : ((loggers.update setup.name ({ · with level := some setup.level })).get
      setup.name).level = some setup.level := by
    rw [Loggers.get_update_self]
  unfold apply
  rcases setup.handler output with ⟨failure | handler, after⟩
  · exact hlevel
  · exact (Loggers.get_update_congr Logger.level rfl setup.name).trans hlevel

end MountCensus.Log
