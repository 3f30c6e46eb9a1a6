import Courier.Collector.Exchange
/-!
What the far end does, call by call, on a clock that counts milliseconds.
-/
namespace Courier.Timeline

/-- One turn of the far end: a delay in milliseconds, then an answer, with what the transport logs
about it. -/
structure Turn where
  delay : Nat := 0
  respond : List Event → Answer × List Log.Record := fun _ => (.outcome .success, [])
  deriving Inhabited

namespace Turn

def always (delay : Nat) (answer : Answer) : Turn := ⟨delay, fun _ => (answer, [])⟩

/-- A response of the collector. -/
def reply (delay : Nat) (status : Collector.Status) (body : String) : Turn :=
  ⟨delay, fun batch => (.outcome (Collector.verdict status body batch.length), [])⟩

end Turn

/-- The turns of the far end in the order of the calls, and the turn for every later call. -/
structure FarEnd where
  turns : List Turn := []
  otherwise : Turn := {}
  deriving Inhabited

/-- The turn for a call; calls are counted from zero. -/
def FarEnd.turn (farEnd : FarEnd) (call : Nat) : Turn := farEnd.turns.getD call farEnd.otherwise

/-- A collector with which every exchange goes the same way. -/
def FarEnd.ofExchange (client : Collector.Client) (exchange : Collector.Exchange) : FarEnd :=
  { otherwise := ⟨0, client.send fun _ => exchange⟩ }

/-- Thirty years in milliseconds, the length of a pause that the clock cannot express. -/
def farAhead : Nat := 86400 * 365 * 30 * 1000

/-- The time at which a pause that begins now is over; a started millisecond counts in full. -/
def wakeAfter (now : Nat) (pause : Duration) : Nat :=
  if pause.fitsClock then now + pause.ceilMillis else now + farAhead

end Courier.Timeline
