import MountCensus.Chunk
import MountCensus.Record
import MountCensus.Retry
import MountCensus.Text.Search

/-!
Delivering records to a sink: in batches that stay within a size, each of them tried again when the
sink asks for it. Every failure is told in words meant for the one who runs the program.
-/

set_option autoImplicit false

namespace MountCensus

inductive DataType where
  | log
  | metric
deriving DecidableEq, Repr

/-- What the records of a batch are about. -/
inductive DataIdentifier where
  | fileStore
  | fileDescriptors
  | generic
deriving DecidableEq, Repr

/-- What a sink is told about a batch besides its records. -/
structure Label where
  type : Option DataType := none
  identifier : Option DataIdentifier := none
deriving DecidableEq, Repr

structure Batch where
  time : Int
  records : List Record
deriving DecidableEq, Repr

namespace Delivery

/-- The size of a record in a batch, in bytes. -/
def recordSize (record : Record) : Except Failure Nat :=
  (record.write Json.compact).map (·.utf8ByteSize)

/-- The batches of some records; all of them make one batch if there is no limit to its size. -/
def batches (chunkSize : Int) (records : List Record) : Chunked Record :=
  if 0 < chunkSize then Chunked.ofItems recordSize chunkSize records else ⟨[records], none⟩

/-- How a failure to deliver is told. -/
def explain (sink : String) (retries : Int) (failure : Failure) : Failure :=
  if failure.kind = .outOfRetries then
    ⟨.delivery, "Failed even after retrying " ++ toString retries ++
      " times. Please try again later."⟩
  else if failure.kind.isValue then ⟨.usage, failure.text⟩
  else
    ⟨.delivery, "An error occurred writing logs to 'sink=" ++ Text.quoted sink ++ "': " ++
      failure.text ++ ". Please try again later"⟩

variable {World : Type}

/-- One batch, tried again as often as `retries` admits. -/
def deliverBatch (write : Batch → Act World Unit) (pauseFor : Int → Act World Unit) (retries : Int)
    (batch : Batch) : Act World Unit := do
  let schedule ← Schedule.doubling retries
  Retry.withSchedule schedule pauseFor (write batch)

/-- One batch after the other, then the failure that ended the batches, if any. -/
def deliverAll (write : Batch → Act World Unit) (pauseFor : Int → Act World Unit) (retries : Int)
    (time : Int) (failure : Option Failure) : List (List Record) → Act World Unit
  | [] => match failure with
    | some failure => throw failure
    | none => pure ()
  | records :: rest => do
    deliverBatch write pauseFor retries ⟨time, records⟩
    deliverAll write pauseFor retries time failure rest

def deliver (write : Batch → Act World Unit) (pauseFor : Int → Act World Unit) (sink : String)
    (chunkSize retries time : Int) (records : List Record) : Act World Unit :=
  let chunked := batches chunkSize records
  (deliverAll write pauseFor retries time chunked.failure chunked.chunks).onFailure fun failure =>
    throw (explain sink retries failure)

theorem batches_of_nonpos {chunkSize : Int} (h : chunkSize ≤ 0) (records : List Record) :
    batches chunkSize records = ⟨[records], none⟩ := by
  simp [batches, Int.not_lt.mpr h]

end Delivery

end MountCensus
