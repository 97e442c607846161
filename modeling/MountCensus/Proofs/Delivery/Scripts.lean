import Mathlib.Data.Nat.Find
import Mathlib.Data.Stream.Init
import MountCensus.Proofs.Delivery.History

/-!
Calls that are answered by a script. A function is tried again up to the first answer of the script
that does not ask for it, with the pauses of the schedule in between, or until the schedule has none
left (`retrying_of_answered`, `retrying_of_exhausted`). The next call goes on behind the answers
that have been given, with the whole schedule before it, and so does every later one
(`callEach_follows_script`). A schedule read to its end, with a mark for the attempt that is the
last, gives the same attempts, and nothing behind that mark is ever done
(`attemptMarked_eq_withSchedule`).
-/

set_option autoImplicit false

namespace MountCensus.Retry

variable {World Call Answer : Type}

/-! ### Schedules that are read to their end -/

/-- Attempts with a pause behind each but the last one, which has a mark in place of it. What stands
behind the mark is done only if no attempt comes to an end before. -/
def attemptMarked (behind : Act World Answer) (pauseFor : Int → Act World Unit)
    (act : Act World Answer) : List (Option Int) → Act World Answer
  | [] => behind
  | none :: _ => act.onFailure fun failure ↦
      throw (if failure.kind = .retry then outOfRetries else failure)
  | some seconds :: rest => act.onFailure fun failure ↦
      if failure.kind = .retry then do
        pauseFor seconds
        attemptMarked behind pauseFor act rest
      else throw failure

/-- The pauses of a schedule, and the mark of the last attempt. -/
def marked (pauses : List Int) : List (Option Int) :=
  pauses.map some ++ [none]

theorem attemptMarked_eq_attempts (behind : Act World Answer) (pauseFor : Int → Act World Unit)
    (pause : Nat → Int) (act : Act World Answer) (pauses : List Int) :
    ∀ k, (∀ i (h : i < pauses.length), pause (k + i) = pauses[i]) →
      attemptMarked behind pauseFor act (marked pauses) =
        attempts pauseFor pause act pauses.length k := by
  induction pauses with
  | nil => exact fun k _ ↦ rfl
  | cons seconds rest ih =>
    intro k hpause
    have hfirst : pause k = seconds := hpause 0 (Nat.zero_lt_succ _)
    have hrest : ∀ i (h : i < rest.length), pause (k + 1 + i) = rest[i] := by
      intro i hi
      rw [Nat.add_assoc, Nat.add_comm 1 i]
      exact hpause (i + 1) (Nat.succ_lt_succ hi)
    rw [List.length_cons, attempts, hfirst, ← ih (k + 1) hrest]
    rfl

/-- Whatever stands behind the last attempt, it is not done. -/
theorem attemptMarked_eq_withSchedule (behind : Act World Answer)
    (pauseFor : Int → Act World Unit) (act : Act World Answer) (pauses : List Int) :
    attemptMarked behind pauseFor act (marked pauses) =
      withSchedule (.ofList pauses) pauseFor act := by
  refine attemptMarked_eq_attempts behind pauseFor _ act pauses 0 fun i hi ↦ ?_
  simp [Schedule.ofList, hi]

/-! ### One call -/

/-- The answers that a function gives one after the other, whatever it is called with. -/
abbrev Script (Answer : Type) := Stream' (Except Failure Answer)

/-- Whether an answer asks for another attempt. -/
def Asks (answer : Except Failure Answer) : Prop :=
  ∃ failure, answer = .error failure ∧ failure.kind = .retry

def nextAnswer : Act (Script Answer) Answer :=
  .ofOutcome fun script ↦ (script.head, script.tail)

/-- A function with the answers of a script, tried again by a schedule. -/
def retrying (pauses : List Int) (what : Call) :
    Act (Recorded (Script Answer) Call Answer) Answer :=
  withSchedule (.ofList pauses) (recordedPause fun _ script ↦ script) (recorded what nextAnswer)

/-- The calls that get the answers of a script up to the given place, all with the same argument,
and the first pauses between them. -/
def tries (pauses : List Int) (what : Call) (script : Script Answer) (last : Nat) :
    List (Event Call Answer) :=
  ((script.take last).zip pauses).flatMap (fun (ask, seconds) ↦ [.call what ask, .pause seconds]) ++
    [.call what (script.get last)]

theorem tries_succ (seconds : Int) (pauses : List Int) (what : Call) (script : Script Answer)
    (last : Nat) :
    tries (seconds :: pauses) what script (last + 1) =
      .call what script.head :: .pause seconds :: tries pauses what script.tail last := rfl

section OneCall

variable {pauses : List Int} {script : Script Answer}
variable {behind : Act (Recorded (Script Answer) Call Answer) Answer}

/-- The attempts of a call that are left when some pauses are. -/
def attemptsLeft (behind : Act (Recorded (Script Answer) Call Answer) Answer) (what : Call)
    (pauses : List Int) : Act (Recorded (Script Answer) Call Answer) Answer :=
  attemptMarked behind (recordedPause fun _ script ↦ script) (recorded what nextAnswer)
    (marked pauses)

theorem outcome_attempt_onFailure (what : Call) (script : Script Answer)
    (past : List (Event Call Answer))
    (handler : Failure → Act (Recorded (Script Answer) Call Answer) Answer) :
    ((recorded what nextAnswer).onFailure handler).outcome ⟨script, past⟩ =
      match script.head with
      | .ok answer => (.ok answer, ⟨script.tail, past ++ [.call what (.ok answer)]⟩)
      | .error failure =>
        (handler failure).outcome ⟨script.tail, past ++ [.call what (.error failure)]⟩ := by
  rw [Act.outcome_onFailure, outcome_recorded, nextAnswer, Act.outcome_ofOutcome]
  rcases script.head with _ | _ <;> rfl

/-- However many pauses are left, a failure that does not ask for another attempt is passed on. -/
theorem exists_attemptsLeft_eq (behind : Act (Recorded (Script Answer) Call Answer) Answer)
    (what : Call) (pauses : List Int) :
    ∃ handler, attemptsLeft behind what pauses = (recorded what nextAnswer).onFailure handler ∧
      ∀ failure : Failure, failure.kind ≠ .retry → handler failure = throw failure := by
  cases pauses with
  | nil => exact ⟨_, rfl, fun failure h ↦ by rw [if_neg h]⟩
  | cons seconds rest => exact ⟨_, rfl, fun failure h ↦ if_neg h⟩

theorem attemptsLeft_of_final (hfinal : ¬ Asks script.head) (what : Call) (pauses : List Int)
    (past : List (Event Call Answer)) :
    (attemptsLeft behind what pauses).outcome ⟨script, past⟩ =
      (script.head, ⟨script.tail, past ++ [.call what script.head]⟩) := by
  obtain ⟨handler, hattempts, hhandler⟩ := exists_attemptsLeft_eq behind what pauses
  rw [hattempts, outcome_attempt_onFailure]
  cases hhead : script.head with
  | ok answer => rfl
  | error failure =>
    have hkind : failure.kind ≠ .retry := fun h ↦ hfinal ⟨failure, hhead, h⟩
    simp only [hhandler failure hkind]
    rfl

theorem attemptsLeft_of_ask (hask : Asks script.head) (what : Call) (seconds : Int)
    (pauses : List Int) (past : List (Event Call Answer)) :
    (attemptsLeft behind what (seconds :: pauses)).outcome ⟨script, past⟩ =
      (attemptsLeft behind what pauses).outcome
        ⟨script.tail, past ++ [.call what script.head, .pause seconds]⟩ := by
  obtain ⟨failure, hhead, hkind⟩ := hask
  refine (outcome_attempt_onFailure ..).trans ?_
  simp only [hhead, if_pos hkind]
  rw [Act.outcome_bind_ok (outcome_recordedPause _ _ _), List.append_assoc]
  rfl

theorem attemptsLeft_of_last_ask (hask : Asks script.head) (what : Call)
    (past : List (Event Call Answer)) :
    (attemptsLeft behind what []).outcome ⟨script, past⟩ =
      (.error outOfRetries, ⟨script.tail, past ++ [.call what script.head]⟩) := by
  obtain ⟨failure, hhead, hkind⟩ := hask
  refine (outcome_attempt_onFailure ..).trans ?_
  simp only [hhead, if_pos hkind]
  rfl

theorem attemptsLeft_of_answered (what : Call) (pauses : List Int) :
    ∀ (last : Nat) (script : Script Answer) (past : List (Event Call Answer)),
      last ≤ pauses.length → (∀ i < last, Asks (script.get i)) → ¬ Asks (script.get last) →
        (attemptsLeft behind what pauses).outcome ⟨script, past⟩ =
          (script.get last,
            ⟨script.drop (last + 1), past ++ tries pauses what script last⟩) := by
  induction pauses with
  | nil =>
    intro last script past hlast _ hfinal
    obtain rfl := Nat.le_zero.mp hlast
    exact attemptsLeft_of_final hfinal what [] past
  | cons seconds pauses ih =>
    intro last script past hlast hasks hfinal
    cases last with
    | zero => exact attemptsLeft_of_final hfinal what _ past
    | succ last =>
      have hmore : ∀ i < last, Asks (script.tail.get i) :=
        fun i hi ↦ hasks (i + 1) (Nat.succ_lt_succ hi)
      rw [attemptsLeft_of_ask (hasks 0 (Nat.zero_lt_succ last)),
        ih last script.tail _ (Nat.le_of_succ_le_succ hlast) hmore hfinal, tries_succ,
        List.append_assoc]
      rfl

theorem attemptsLeft_of_exhausted (what : Call) (pauses : List Int) :
    ∀ (script : Script Answer) (past : List (Event Call Answer)),
      (∀ i ≤ pauses.length, Asks (script.get i)) →
        (attemptsLeft behind what pauses).outcome ⟨script, past⟩ =
          (.error outOfRetries, ⟨script.drop (pauses.length + 1),
            past ++ tries pauses what script pauses.length⟩) := by
  induction pauses with
  | nil => exact fun script past hasks ↦ attemptsLeft_of_last_ask (hasks 0 (Nat.zero_le _)) what past
  | cons seconds pauses ih =>
    intro script past hasks
    have hmore : ∀ i ≤ pauses.length, Asks (script.tail.get i) :=
      fun i hi ↦ hasks (i + 1) (Nat.succ_le_succ hi)
    rw [attemptsLeft_of_ask (hasks 0 (Nat.zero_le _)), ih script.tail _ hmore, List.length_cons,
      tries_succ, List.append_assoc]
    rfl

/-- The first answer that does not ask for another attempt ends the call, if the schedule reaches
it. -/
theorem retrying_of_answered {last : Nat} (hlast : last ≤ pauses.length)
    (hasks : ∀ i < last, Asks (script.get i)) (hfinal : ¬ Asks (script.get last)) (what : Call)
    (past : List (Event Call Answer)) :
    (retrying pauses what).outcome ⟨script, past⟩ =
      (script.get last, ⟨script.drop (last + 1), past ++ tries pauses what script last⟩) := by
  rw [retrying, ← attemptMarked_eq_withSchedule (throw outOfRetries)]
  exact attemptsLeft_of_answered what pauses last script past hlast hasks hfinal

theorem retrying_of_exhausted (hasks : ∀ i ≤ pauses.length, Asks (script.get i)) (what : Call)
    (past : List (Event Call Answer)) :
    (retrying pauses what).outcome ⟨script, past⟩ =
      (.error outOfRetries, ⟨script.drop (pauses.length + 1),
        past ++ tries pauses what script pauses.length⟩) := by
  rw [retrying, ← attemptMarked_eq_withSchedule (throw outOfRetries)]
  exact attemptsLeft_of_exhausted what pauses script past hasks

/-- A script has an answer that ends the call within the reach of the schedule, or all of those
answers ask for another attempt. -/
theorem exists_final_or_all_ask (script : Script Answer) (reach : Nat) :
    (∃ last ≤ reach, (∀ i < last, Asks (script.get i)) ∧ ¬ Asks (script.get last)) ∨
      ∀ i ≤ reach, Asks (script.get i) := by
  classical
  by_cases hfinal : ∃ last, last ≤ reach ∧ ¬ Asks (script.get last)
  · obtain ⟨hreach, hlast⟩ := Nat.find_spec hfinal
    refine .inl ⟨Nat.find hfinal, hreach, fun i hi ↦ ?_, hlast⟩
    have hearlier := Nat.find_min hfinal hi
    rw [not_and, not_not] at hearlier
    exact hearlier (Nat.le_trans (Nat.le_of_lt hi) hreach)
  · exact .inr (by simpa using hfinal)

end OneCall

/-! ### Calls that share a script -/

/-- Calls of a function one after the other, whatever each of them comes to. -/
def callEach (act : Call → Act World Answer) :
    List Call → World → List (Except Failure Answer) × World
  | [], world => ([], world)
  | what :: rest, world =>
    let (ending, after) := (act what).outcome world
    let (endings, final) := callEach act rest after
    (ending :: endings, final)

/-- How calls that are tried again by a schedule use up a script: what each of them comes to, what
they leave behind together, and the answers that are left. -/
inductive UsesUp (pauses : List Int) : Script Answer → List Call →
    List (Except Failure Answer) → List (Event Call Answer) → Script Answer → Prop where
  | nothing (script : Script Answer) : UsesUp pauses script [] [] [] script
  | answered {script left : Script Answer} {what : Call} {rest : List Call}
      {endings : List (Except Failure Answer)} {events : List (Event Call Answer)} {last : Nat} :
      last ≤ pauses.length → (∀ i < last, Asks (script.get i)) → ¬ Asks (script.get last) →
      UsesUp pauses (script.drop (last + 1)) rest endings events left →
      UsesUp pauses script (what :: rest) (script.get last :: endings)
        (tries pauses what script last ++ events) left
  | exhausted {script left : Script Answer} {what : Call} {rest : List Call}
      {endings : List (Except Failure Answer)} {events : List (Event Call Answer)} :
      (∀ i ≤ pauses.length, Asks (script.get i)) →
      UsesUp pauses (script.drop (pauses.length + 1)) rest endings events left →
      UsesUp pauses script (what :: rest) (.error outOfRetries :: endings)
        (tries pauses what script pauses.length ++ events) left

theorem callEach_usesUp (pauses : List Int) (calls : List Call) :
    ∀ (script : Script Answer) (past : List (Event Call Answer)),
      ∃ endings events left, UsesUp pauses script calls endings events left ∧
        callEach (retrying pauses) calls ⟨script, past⟩ = (endings, ⟨left, past ++ events⟩) := by
  induction calls with
  | nil => exact fun script past ↦ ⟨[], [], script, .nothing script, by rw [List.append_nil]; rfl⟩
  | cons what rest ih =>
    intro script past
    rcases exists_final_or_all_ask script pauses.length with
      ⟨last, hlast, hasks, hfinal⟩ | hasks
    · obtain ⟨endings, events, left, huses, hrest⟩ := ih (script.drop (last + 1))
        (past ++ tries pauses what script last)
      refine ⟨_, _, left, .answered hlast hasks hfinal huses, ?_⟩
      simp only [callEach, retrying_of_answered hlast hasks hfinal, hrest, List.append_assoc]
    · obtain ⟨endings, events, left, huses, hrest⟩ := ih (script.drop (pauses.length + 1))
        (past ++ tries pauses what script pauses.length)
      refine ⟨_, _, left, .exhausted hasks huses, ?_⟩
      simp only [callEach, retrying_of_exhausted hasks, hrest, List.append_assoc]

/-- Calls of a function that is tried again by a schedule use up its script one after the other:
each of them gets the answers up to the first that does not ask for another attempt and comes to
that one, or as many as the schedule reaches if all of these ask, and is then out of retries. This
is all that a schedule read to its end can do: what stands behind its last attempt is not done. -/
theorem callEach_follows_script (pauses : List Int) :
    (∀ (calls : List Call) (script : Script Answer) (past : List (Event Call Answer)),
      ∃ endings events left, UsesUp pauses script calls endings events left ∧
        callEach (retrying pauses) calls ⟨script, past⟩ = (endings, ⟨left, past ++ events⟩)) ∧
    ∀ (behind act : Act World Answer) (pauseFor : Int → Act World Unit),
      attemptMarked behind pauseFor act (marked pauses) =
        withSchedule (.ofList pauses) pauseFor act :=
  ⟨callEach_usesUp pauses, fun behind act pauseFor ↦
    attemptMarked_eq_withSchedule behind pauseFor act pauses⟩

/-- Two answers that ask leave the first call without retries, and the second call gets the third. -/
example :
    let answers : Script Nat := fun n ↦ if n < 2 then .error ⟨.retry, ""⟩ else .ok n
    (callEach (retrying [10]) ["a", "b"] ⟨answers, []⟩).1 = [.error outOfRetries, .ok 2] := rfl

end MountCensus.Retry
