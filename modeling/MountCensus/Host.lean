import MountCensus.Failure
import MountCensus.Store

/-!
What a host is asked, and what it answers. Commands and files may fail to be read; a path that
cannot be probed is an answer too.
-/

set_option autoImplicit false

namespace MountCensus

inductive HostCall where
  | command (words : List String)
  | firstLine (command : String)
  | readLines (path : String)
  | probe (path : String)
deriving DecidableEq, Repr

structure Host where
  run : List String → Except Failure (List String)
  firstLine : String → Except Failure String
  readLines : String → Except Failure (List String)
  probe : String → Capacity

/-- The answer to a question about a host, and the calls that were made to find it. -/
structure Answer (α : Type) where
  calls : List HostCall
  result : Except Failure α

def Answer.map {α β : Type} (f : α → β) (answer : Answer α) : Answer β :=
  ⟨answer.calls, answer.result.map f⟩

theorem Answer.calls_map {α β : Type} (f : α → β) (answer : Answer α) :
    (answer.map f).calls = answer.calls := rfl

end MountCensus
