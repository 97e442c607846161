import Mathlib.Control.Monad.Basic
import MountCensus.Proofs.Act
import MountCensus.Retry

/-!
What is tried, and when. A recorded world keeps the calls made in it with their answers, and the
pauses between them; trying an action again and again leaves one block of calls there
(`attempts_recorded`): all calls of a block but the last ask for another one, and each of them is
followed by the pause that the schedule has for it.
-/

set_option autoImplicit false

namespace MountCensus.Retry

variable {State Call Answer : Type}

/-! ### Recorded worlds -/

inductive Event (Call Answer : Type) where
  | call (what : Call) (answer : Except Failure Answer)
  | pause (seconds : Int)
deriving DecidableEq

/-- A world of which the calls and pauses so far are known. -/
structure Recorded (State Call Answer : Type) where
  state : State
  events : List (Event Call Answer)

/-- An action that leaves its answer behind. -/
def recorded (what : Call) (act : Act State Answer) : Act (Recorded State Call Answer) Answer :=
  Act.ofOutcome fun world ↦
    let (answer, state) := act.outcome world.state
    (answer, ⟨state, world.events ++ [.call what answer]⟩)

/-- A pause during which the state may change. -/
def recordedPause (wait : Int → State → State) (seconds : Int) :
    Act (Recorded State Call Answer) Unit :=
  Act.ofOutcome fun world ↦
    (.ok (), ⟨wait seconds world.state, world.events ++ [.pause seconds]⟩)

theorem outcome_recorded (what : Call) (act : Act State Answer)
    (world : Recorded State Call Answer) :
    (recorded what act).outcome world = ((act.outcome world.state).1,
      ⟨(act.outcome world.state).2, world.events ++ [.call what (act.outcome world.state).1]⟩) :=
  rfl

theorem outcome_recordedPause (wait : Int → State → State) (seconds : Int)
    (world : Recorded State Call Answer) :
    (recordedPause wait seconds).outcome world =
      (.ok (), ⟨wait seconds world.state, world.events ++ [.pause seconds]⟩) := rfl

/-! ### Blocks of calls -/

/-- Consecutive calls with the same argument: those that asked for another one, and the last one. -/
structure Block (Call Answer : Type) where
  what : Call
  asks : List Failure
  final : Except Failure Answer

/-- The calls of a block and the pauses between them, from a place in the schedule on. -/
def eventsFrom (pause : Nat → Int) (what : Call) (final : Except Failure Answer) :
    Nat → List Failure → List (Event Call Answer)
  | _, [] => [.call what final]
  | k, ask :: asks =>
    .call what (.error ask) :: .pause (pause k) :: eventsFrom pause what final (k + 1) asks

def Block.events (pause : Nat → Int) (block : Block Call Answer) : List (Event Call Answer) :=
  eventsFrom pause block.what block.final 0 block.asks

/-- A block that a number of retries admits: its calls ask for another one as long as there is a
retry left, and only the one that has none left may do so in vain. -/
structure Block.Admitted (block : Block Call Answer) (retries : Nat) : Prop where
  asking : ∀ ask ∈ block.asks, ask.kind = .retry
  bounded : block.asks.length ≤ retries
  exhausting : ∀ failure, block.final = .error failure → failure.kind = .retry →
    block.asks.length = retries

/-- How a block ends for the one who asked for its calls. -/
def Block.result (block : Block Call Answer) : Except Failure Answer :=
  match block.final with
  | .ok answer => .ok answer
  | .error failure => .error (if failure.kind = .retry then outOfRetries else failure)

theorem outcome_attempts_zero (pauseFor : Int → Act State Unit) (pause : Nat → Int)
    (act : Act State Answer) (k : Nat) (state : State) :
    (attempts pauseFor pause act 0 k).outcome state =
      match act.outcome state with
      | (.ok answer, after) => (.ok answer, after)
      | (.error failure, after) =>
        (.error (if failure.kind = .retry then outOfRetries else failure), after) := by
  rw [attempts, Act.outcome_onFailure]
  rcases act.outcome state with ⟨_ | _, _⟩ <;> rfl

theorem outcome_attempts_succ (pauseFor : Int → Act State Unit) (pause : Nat → Int)
    (act : Act State Answer) (left k : Nat) (state : State) :
    (attempts pauseFor pause act (left + 1) k).outcome state =
      match act.outcome state with
      | (.ok answer, after) => (.ok answer, after)
      | (.error failure, after) =>
        if failure.kind = .retry then
          (pauseFor (pause k) >>= fun _ ↦ attempts pauseFor pause act left (k + 1)).outcome after
        else (.error failure, after) := by
  rw [attempts, Act.outcome_onFailure]
  rcases act.outcome state with ⟨failure | _, _⟩
  · by_cases hretry : failure.kind = .retry
    · simp [hretry]
    · simp [hretry, Act.outcome_throw]
  · rfl

end MountCensus.Retry
