import Mathlib.Tactic.SplitIfs
import MountCensus.Log.Logger

/-!
A logger that keeps its entries to itself. Changing one logger changes no other (`get_update`), and
an entry of an isolated logger is written by the handlers of that logger alone, whatever loggers
there are above it (`log_isolated`).
-/

set_option autoImplicit false

namespace MountCensus.Log

theorem properName_properName (name : String) : properName (properName name) = properName name := by
  by_cases hname : name.isEmpty = true
  · simp [properName, hname, rootName]
  · simp [properName, hname]

/-- A logger comes first among those whose handlers may get its entries. -/
theorem exists_chain_eq_cons (name : String) : ∃ above, chain name = properName name :: above := by
  simp only [chain]
  split_ifs with hroot
  · exact ⟨[], by rw [eq_of_beq hroot]⟩
  · exact ⟨_, List.cons_append⟩

namespace Loggers

variable {loggers : Loggers} {name : String}

theorem get_properName (loggers : Loggers) (name : String) :
    loggers.get (properName name) = loggers.get name := by
  rw [get, get, properName_properName]

theorem update_properName (loggers : Loggers) (name : String) (change : Logger → Logger) :
    loggers.update (properName name) change = loggers.update name change := by
  cases loggers <;> rw [update, update, properName_properName]

theorem update_nil (name : String) (change : Logger → Logger) :
    update [] name change = [(properName name, change {})] := rfl

theorem update_cons (name : String) (change : Logger → Logger) (former : String) (logger : Logger)
    (rest : Loggers) :
    update ((former, logger) :: rest) name change =
      if former = properName name then (properName name, change logger) :: rest
      else (former, logger) :: update rest name change := by
  rw [← update_properName rest]
  rfl

theorem get_cons (former : String) (logger : Logger) (rest : Loggers) (name : String) :
    get ((former, logger) :: rest) name =
      if properName name = former then logger else rest.get name := by
  rw [get, List.lookup_cons, get]
  split_ifs with h
  · rw [beq_iff_eq.mpr h, Option.getD_some]
  · rw [beq_false_of_ne h]

theorem get_update (loggers : Loggers) (name : String) (change : Logger → Logger)
    (other : String) :
    (loggers.update name change).get other =
      if properName other = properName name then change (loggers.get name)
      else loggers.get other := by
  induction loggers with
  | nil => rw [update_nil, get_cons]; rfl
  | cons entry rest ih =>
    obtain ⟨former, logger⟩ := entry
    rw [update_cons, get_cons, get_cons]
    by_cases hformer : former = properName name
    · rw [if_pos hformer, get_cons, if_pos hformer.symm, hformer]
      split_ifs <;> rfl
    · rw [if_neg hformer, get_cons, ih, if_neg (c := properName name = former)
        fun h ↦ hformer h.symm]
      by_cases hother : properName other = former
      · rw [if_pos hother, if_pos hother, if_neg fun h ↦ hformer (hother.symm.trans h)]
      · rw [if_neg hother, if_neg hother]

theorem get_update_self (loggers : Loggers) (name : String) (change : Logger → Logger) :
    (loggers.update name change).get name = change (loggers.get name) := by
  rw [get_update, if_pos rfl]

theorem get_update_of_ne {other : String} (h : properName other ≠ properName name)
    (loggers : Loggers) (change : Logger → Logger) :
    (loggers.update name change).get other = loggers.get other := by
  rw [get_update, if_neg h]

theorem level_eq {level : Level} (h : (loggers.get name).level = some level) :
    loggers.level name = level := by
  obtain ⟨above, hchain⟩ := exists_chain_eq_cons name
  rw [Loggers.level, hchain, List.findSome?_cons, get_properName, h]
  rfl

/-- An entry of an isolated logger goes to its own handlers and to no others. -/
theorem log_isolated {level : Level} (entry : Entry)
    (hlevel : (loggers.get name).level = some level) (hweight : level.weight ≤ entry.level.weight)
    (hisolated : (loggers.get name).isolated = true) (output : Output) :
    loggers.log output name entry =
      let written := writeAll (properName name) entry (loggers.get name).handlers output
      (loggers.update (properName name) ({ · with handlers := written.1 }), written.2) := by
  obtain ⟨above, hchain⟩ := exists_chain_eq_cons name
  have hreached : loggers.reached (properName name :: above) = [properName name] :=
    reached_of_isolated (by rw [get_properName, hisolated])
  rw [log, level_eq hlevel, if_pos hweight, hchain, hreached]
  simp only [writeReached, get_properName]

end Loggers

end MountCensus.Log
