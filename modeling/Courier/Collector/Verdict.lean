import Courier.Collector.Status
import Courier.Json.Reading
import Courier.Outcome
/-!
The collector's verdict on a batch: what a status and a body mean for its events.

A body is a list of results, one for each event, and an error text; either may be missing.  A body
that cannot be read as a whole counts as an empty one.
-/
namespace Courier.Collector

open Json (Source)

/-- The collector's word on one event. -/
structure Result where
  status : String
  errors : List String := []
  deriving DecidableEq, Repr, Inhabited

/-- The body of a response. -/
structure Reply where
  results : List Result := []
  error : Option String := none
  deriving DecidableEq, Repr, Inhabited

def Result.record (ι : Type) [Source ι] : Json.Record ι Result where
  name := "BatchResult"
  blank := { status := "" }
  members := [
    { name := "status", required := true
      fill := fun _ x result => do pure { result with status := ← Source.readString x } },
    { name := "errors", required := false
      fill := fun room x result => do
        let read := fun _ item => Source.readString item
        pure { result with errors := ← Source.readList read room x } }]

def Reply.record (ι : Type) [Source ι] : Json.Record ι Reply where
  name := "BatchResponse"
  blank := {}
  members := [
    { name := "results", required := false
      fill := fun room x reply => do
        let read := Source.readRecord (Result.record ι)
        pure { reply with results := ← Source.readList read room x } },
    { name := "error", required := false
      fill := fun _ x reply => do
        pure { reply with error := ← Source.readOption Source.readString x } }]

def Reply.parse (text : String) : Except Json.Problem Reply :=
  Json.readText (Source.readRecord (Reply.record Json.Outline)) text

/-- The reply in a body; a body that cannot be read is an empty reply. -/
def Reply.ofBody (body : String) : Reply :=
  match Reply.parse body with
  | .ok reply => reply
  | .error _ => {}

/-- The events that a reply refuses, in order. -/
def Reply.failures (reply : Reply) : List EventFailure :=
  (reply.results.zipIdx.filter fun (result, _) => result.status == "error").map
    fun (result, index) => ⟨index, result.errors⟩

/-- What a reply says about a refused batch: its error, else the errors of its results, else the
reason of the status. -/
def Reply.explanation (reply : Reply) (status : Status) : String :=
  match reply.error with
  | some error => error
  | none =>
    match reply.results.flatMap Result.errors with
    | [] => status.reason
    | errors => "; ".intercalate errors

/-- The outcome of a batch of `size` events that got this status and reply. -/
def Reply.outcome (reply : Reply) (status : Status) (size : Nat) : Outcome :=
  if status.code = Status.multi then
    match reply.failures with
    | [] => .success
    | failed => .partialFailure failed size
  else if status.isSuccess then .success
  else .totalFailure status.code (reply.explanation status) status.retryable

/-- The verdict on a batch of `size` events that got this status and body. -/
def verdict (status : Status) (body : String) (size : Nat) : Outcome :=
  (Reply.ofBody body).outcome status size

/-- A success other than the one with results accepts the batch whatever the body holds. -/
theorem verdict_of_isSuccess {status : Status} (h : status.isSuccess = true)
    (hm : status.code ≠ Status.multi) (body : String) (size : Nat) :
    verdict status body size = .success := by
  simp [verdict, Reply.outcome, h, hm]

end Courier.Collector
