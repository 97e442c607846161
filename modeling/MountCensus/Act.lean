import MountCensus.Failure

/-!
Actions on a world: they may change it and may fail. What an action did before it failed stays done.
-/

set_option autoImplicit false

namespace MountCensus

abbrev Act (World α : Type) := ExceptT Failure (StateM World) α

namespace Act

variable {World α : Type}

/-- The outcome of an action and the world after it. -/
def outcome (act : Act World α) (world : World) : Except Failure α × World :=
  act.run.run world

/-- An action by its outcome. -/
def ofOutcome (f : World → Except Failure α × World) : Act World α :=
  ExceptT.mk f

/-- An action whose failure is answered by another one. -/
def onFailure (act : Act World α) (handler : Failure → Act World α) : Act World α :=
  tryCatch act handler

theorem outcome_pure (a : α) (world : World) :
    (pure a : Act World α).outcome world = (.ok a, world) := rfl

theorem outcome_throw (failure : Failure) (world : World) :
    (throw failure : Act World α).outcome world = (.error failure, world) := rfl

theorem outcome_onFailure (act : Act World α) (handler : Failure → Act World α) (world : World) :
    (act.onFailure handler).outcome world =
      match act.outcome world with
      | (.ok a, after) => (.ok a, after)
      | (.error failure, after) => (handler failure).outcome after := by
  simp only [onFailure, outcome, tryCatch, tryCatchThe, MonadExceptOf.tryCatch, ExceptT.tryCatch,
    ExceptT.run, ExceptT.mk, StateT.run, bind, StateT.bind]
  rcases act world with ⟨_ | _, _⟩ <;> rfl

end Act

end MountCensus
