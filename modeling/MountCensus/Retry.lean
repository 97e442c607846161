import MountCensus.Act

/-!
Trying again. An action that asks for another attempt gets one after a pause, as long as its
schedule has one left; any other outcome is final.
-/

set_option autoImplicit false

namespace MountCensus

/-- The pauses before the retries, in seconds. -/
structure Schedule where
  size : Nat
  pause : Nat → Int

namespace Schedule

def ofList (pauses : List Int) : Schedule :=
  ⟨pauses.length, fun k => pauses.getD k 0⟩

/-- Pauses that start at `first` and grow by a constant factor. -/
def growing (first factor : Int) (size : Nat) : Schedule :=
  ⟨size, fun k => first * Int.pow factor k⟩

def toList (schedule : Schedule) : List Int :=
  (List.range schedule.size).map schedule.pause

/-- The largest number of retries that a schedule may have. -/
def sizeLimit : Int := 9223372036854775807

/-- Ten seconds, and twice as long from each retry to the next. -/
def doubling (retries : Int) : Except Failure Schedule :=
  if 0 ≤ retries ∧ retries ≤ sizeLimit then .ok (growing 10 2 retries.toNat)
  else if retries < -1 then
    .error ⟨.value, "Indices for islice() must be None or an integer: 0 <= x <= sys.maxsize."⟩
  else
    .error ⟨.value,
      "Stop argument for islice() must be None or an integer: 0 <= x <= sys.maxsize."⟩

theorem doubling_ofNat {retries : Nat} (h : (retries : Int) ≤ sizeLimit) :
    doubling retries = .ok (growing 10 2 retries) := by
  simp [doubling, h]

end Schedule

namespace Retry

variable {World α : Type}

def outOfRetries : Failure := ⟨.outOfRetries, ""⟩

/-- Attempts until one of them does not ask for another, with `left` pauses still in the schedule.
-/
def attempts (pauseFor : Int → Act World Unit) (pause : Nat → Int) (act : Act World α) :
    Nat → Nat → Act World α
  | 0, _ => act.onFailure fun failure =>
      throw (if failure.kind = .retry then outOfRetries else failure)
  | left + 1, k => act.onFailure fun failure =>
      if failure.kind = .retry then do
        pauseFor (pause k)
        attempts pauseFor pause act left (k + 1)
      else throw failure

/-- The action, tried again after each pause of the schedule for as long as it asks for it. -/
def withSchedule (schedule : Schedule) (pauseFor : Int → Act World Unit) (act : Act World α) :
    Act World α :=
  attempts pauseFor schedule.pause act schedule.size 0

end Retry

end MountCensus
