import MountCensus.Act

/-!
Actions by what they do to each world: two actions that have the same outcome everywhere are one
(`Act.ext`), and the outcome of a sequence is that of its parts (`outcome_bind_eq_ok_iff` for one
that succeeds, `NeverFails.bind` for one that always does).
-/

set_option autoImplicit false

namespace MountCensus.Act

variable {World α β : Type}

theorem ext {act act' : Act World α} (h : ∀ world, act.outcome world = act'.outcome world) :
    act = act' :=
  funext h

theorem outcome_liftM (result : Except Failure α) (world : World) :
    (liftM result : Act World α).outcome world = (result, world) := by
  cases result <;> rfl

theorem outcome_ofOutcome (f : World → Except Failure α × World) (world : World) :
    (ofOutcome f).outcome world = f world := rfl

theorem outcome_bind (act : Act World α) (f : α → Act World β) (world : World) :
    (act >>= f).outcome world =
      match act.outcome world with
      | (.ok a, after) => (f a).outcome after
      | (.error failure, after) => (.error failure, after) := by
  simp only [outcome, bind, ExceptT.bind, ExceptT.bindCont, ExceptT.run, ExceptT.mk, StateT.run,
    StateT.bind]
  rcases act world with ⟨_ | _, _⟩ <;> rfl

theorem outcome_map (f : α → β) (act : Act World α) (world : World) :
    (f <$> act).outcome world =
      match act.outcome world with
      | (.ok a, after) => (.ok (f a), after)
      | (.error failure, after) => (.error failure, after) := by
  simp only [outcome, Functor.map, ExceptT.map, ExceptT.run, ExceptT.mk, StateT.run, bind,
    StateT.bind]
  rcases act world with ⟨_ | _, _⟩ <;> rfl

theorem outcome_bind_ok {act : Act World α} {f : α → Act World β} {world after : World} {a : α}
    (h : act.outcome world = (.ok a, after)) :
    (act >>= f).outcome world = (f a).outcome after := by
  rw [outcome_bind, h]

theorem outcome_bind_error {act : Act World α} {f : α → Act World β} {world after : World}
    {failure : Failure} (h : act.outcome world = (.error failure, after)) :
    (act >>= f).outcome world = (.error failure, after) := by
  rw [outcome_bind, h]

/-- A sequence succeeds through both of its parts. -/
theorem outcome_bind_eq_ok_iff {act : Act World α} {f : α → Act World β} {world final : World}
    {b : β} :
    (act >>= f).outcome world = (.ok b, final) ↔
      ∃ a after, act.outcome world = (.ok a, after) ∧ (f a).outcome after = (.ok b, final) := by
  rw [outcome_bind]
  rcases act.outcome world with ⟨failure | a, after⟩
  · simp
  · constructor
    · exact fun h ↦ ⟨a, after, rfl, h⟩
    · rintro ⟨_, _, hact, h⟩
      cases hact
      exact h

theorem exists_outcome_eq_ok {act : Act World α} {world : World}
    (h : (act.outcome world).1.isOk = true) :
    ∃ a after, act.outcome world = (.ok a, after) := by
  rcases houtcome : act.outcome world with ⟨failure | a, after⟩
  · rw [houtcome] at h
    cases h
  · exact ⟨a, after, rfl⟩

/-- Whatever the world, the action succeeds. -/
def NeverFails (act : Act World α) : Prop :=
  ∀ world, ∃ a after, act.outcome world = (.ok a, after)

theorem neverFails_pure (a : α) : NeverFails (pure a : Act World α) :=
  fun world ↦ ⟨a, world, rfl⟩

theorem NeverFails.bind {act : Act World α} {next : α → Act World β} (h : act.NeverFails)
    (hnext : ∀ a, (next a).NeverFails) : (act >>= next).NeverFails := by
  intro world
  obtain ⟨a, middle, hact⟩ := h world
  obtain ⟨b, after, hrest⟩ := hnext a middle
  exact ⟨b, after, (outcome_bind_ok hact).trans hrest⟩

end MountCensus.Act
