import Courier.Collector.Request
import Courier.Collector.Verdict
import Courier.Delivery.Basic
/-!
Exchanges with the collector: a request, and what comes back.

Recorded runs cover the verdict on a status and a body, and exchanges without an answer.  None of them
reached a collector, so the rest of an answered exchange is not tested.
-/
namespace Courier.Collector

/-- Why no status came back. -/
inductive Silence where
  | unreachable
  | timeout
  /-- The connection broke off. -/
  | broken
  deriving DecidableEq, Repr, Inhabited

/-- What comes back for one request. -/
inductive Exchange where
  | unanswered (silence : Silence)
  /-- A status, and the body if it could be read. -/
  | answered (status : Status) (body : Option String)
  deriving DecidableEq, Repr, Inhabited

namespace Client

def silenceText (request : Request) : String :=
  s!"error sending request for url ({request.address.text})"

def silenceFailure (client : Client) (request : Request) : Silence → TransportFailure
  | .unreachable => .connection s!"Failed to connect to {client.url}: {silenceText request}"
  | .timeout => .timeout (silenceText request)
  | .broken => .exchange (silenceText request)

def failedRecord (client : Client) (error : String) : Log.Record :=
  ⟨.warn, "Collector request failed", [("url", .text client.url), ("error", .text error)]⟩

/-- What an exchange means for a batch of `size` events. -/
def judge (client : Client) (request : Request) (size : Nat) :
    Exchange → Answer × List Log.Record
  | .unanswered silence =>
    (.failure (client.silenceFailure request silence),
      [client.failedRecord (silenceText request)])
  | .answered _ none =>
    (.failure (.exchange "Failed to read response body: error decoding response body"), [])
  | .answered status (some body) => (.outcome (verdict status body size), [])

/-- Send a batch.  Without events there is nothing to send. -/
def send (client : Client) (collector : Request → Exchange) (batch : List Event) :
    Answer × List Log.Record :=
  if batch.isEmpty then (.outcome .success, [])
  else
    match client.request batch with
    | .error fault =>
      (.failure (.exchange fault.message), [client.failedRecord fault.message])
    | .ok request => client.judge request batch.length (collector request)

end Client

end Courier.Collector
