import Courier.Delivery.Channel
/-!
One batch on its way.

A delivery waits for the answer of the transport or for the end of a pause, until it has a final
outcome or the transport panics.
-/
namespace Courier

/-- What one call of the transport comes to. -/
inductive Answer where
  | outcome (outcome : Outcome)
  | failure (cause : TransportFailure)
  | panic (panic : Panic)
  deriving DecidableEq, Repr, Inhabited

/-- Where the sending of one batch stands. -/
inductive Stage where
  /-- No attempt was made yet. -/
  | ready
  /-- An attempt is under way. -/
  | sending (attempt : Nat)
  /-- The pause after an attempt. -/
  | resting (attempt : Nat) (pause : Duration)
  | settled (attempts : Nat) (outcome : Outcome)
  | panicked (panic : Panic)
  deriving DecidableEq, Repr, Inhabited

namespace Stage

/-- Nothing more happens. -/
def finished : Stage → Bool
  | .settled _ _ | .panicked _ => true
  | .ready | .sending _ | .resting _ _ => false

/-- The batch was accepted in full. -/
def succeeded : Stage → Bool
  | .settled _ outcome => outcome.isSuccess
  | _ => false

end Stage

namespace Backoff

/-- The stage after an attempt came to an outcome. -/
def afterOutcome (b : Backoff) (draw : Draw) (attempt : Nat) (outcome : Outcome) : Stage :=
  if !outcome.retryable || decide (b.attempts ≤ attempt) then .settled attempt outcome
  else
    match b.delayFor draw attempt with
    | .error panic => .panicked panic
    | .ok pause => .resting attempt pause

/-- The outcome of an answer that is no panic. -/
def outcomeOf : Answer → Except Panic Outcome
  | .outcome outcome => .ok outcome
  | .failure cause => .ok (.transportFailure cause)
  | .panic panic => .error panic

/-- The stage after an attempt got its answer. -/
def after (b : Backoff) (draw : Draw) (attempt : Nat) (answer : Answer) : Stage :=
  match outcomeOf answer with
  | .error panic => .panicked panic
  | .ok outcome => b.afterOutcome draw attempt outcome

def retryRecord (b : Backoff) (attempt : Nat) (pause : Duration) (answer : Answer) : Log.Record :=
  let label :=
    match outcomeOf answer with
    | .ok outcome => outcome.label
    | .error _ => ""
  ⟨.warn, "send failed, retrying",
    [("attempt", .number attempt), ("max_attempts", .number b.attempts),
      ("delay_ms", .number pause.loggedMillis), ("outcome", .text label)]⟩

end Backoff

/-- A batch on its way. -/
structure Delivery where
  batch : List Event
  stage : Stage
  deriving Repr, Inhabited

namespace Delivery

/-- The effects of handing the batch to the transport. -/
def send (batch : List Event) : List Effect := [.counted .attempt, .sent batch]

def start (batch : List Event) : Delivery := ⟨batch, .ready⟩

/-- The attempt under way gets its answer. -/
def receive (d : Delivery) (channel : Channel) (draw : Draw) (answer : Answer) :
    Option (Delivery × List Effect) :=
  match d.stage with
  | .sending attempt =>
    let stage := channel.backoff.after draw attempt answer
    let effects :=
      match stage with
      | .resting attempt pause =>
        [.logged (channel.backoff.retryRecord attempt pause answer)]
      | .settled attempts outcome => channel.conclude d.batch attempts outcome
      | _ => []
    some (⟨d.batch, stage⟩, effects)
  | _ => none

/-- Begin the first attempt, or the next one after a pause. -/
def resume (d : Delivery) : Option (Delivery × List Effect) :=
  match d.stage with
  | .ready => some (⟨d.batch, .sending 1⟩, send d.batch)
  | .resting attempt _ => some (⟨d.batch, .sending (attempt + 1)⟩, send d.batch)
  | _ => none

end Delivery

end Courier
