import Courier.Event
import Courier.Log
import Courier.Outcome
/-!
Reports on batches that were not delivered.
-/
namespace Courier

/-- What is said about one batch that was not delivered in full. -/
structure Report where
  message : String
  cause : Option String
  /-- The batch, in the order in which it was sent. -/
  events : List Event
  deriving Repr, Inhabited

namespace Report

def failureText (failure : EventFailure) : String :=
  let errors := ", ".intercalate failure.errors
  s!"event {failure.index}: {errors}"

/-- What is said about refused events, if there are any. -/
def failuresText (failed : List EventFailure) : Option String :=
  if failed.isEmpty then none else some ("; ".intercalate (failed.map failureText))

/-- The report on a batch with its final outcome; a success needs none. -/
def ofOutcome (outcome : Outcome) (attempts : Nat) (events : List Event) : Option Report :=
  let size := events.length
  match outcome with
  | .success => none
  | .partialFailure failed total =>
    some {
      message := s!"{failed.length} of {total} events failed"
      cause := failuresText failed
      events }
  | .totalFailure status message false =>
    some {
      message := s!"batch of {size} events rejected with status {status}"
      cause := some message
      events }
  | .totalFailure status message true =>
    some {
      message := s!"batch of {size} events not delivered after {attempts} attempts"
        ++ s!" (status {status})"
      cause := some message
      events }
  | .transportFailure cause =>
    some {
      message := s!"batch of {size} events not delivered after {attempts} attempts"
      cause := some cause.message
      events }

/-- The log record of a batch whose attempts ran out. -/
def exhausted (outcome : Outcome) (attempts : Nat) : List Log.Record :=
  match outcome with
  | .totalFailure status _ true =>
    [⟨.error, "retries exhausted", [("status", .number status), ("attempts", .number attempts)]⟩]
  | .transportFailure cause =>
    [⟨.error, "retries exhausted",
      [("error", .text cause.message), ("attempts", .number attempts)]⟩]
  | _ => []

/-- There is a report exactly on what is no success. -/
theorem ofOutcome_eq_none_iff (outcome : Outcome) (attempts : Nat) (events : List Event) :
    ofOutcome outcome attempts events = none ↔ outcome = .success := by
  cases outcome with
  | totalFailure status message retryable => cases retryable <;> simp [ofOutcome]
  | _ => simp [ofOutcome]

theorem events_of_ofOutcome {outcome : Outcome} {attempts : Nat} {events : List Event}
    {report : Report} (h : ofOutcome outcome attempts events = some report) :
    report.events = events := by
  cases outcome with
  | success => cases h
  | totalFailure status message retryable => cases retryable <;> (cases h; rfl)
  | _ => cases h; rfl

end Report

end Courier
