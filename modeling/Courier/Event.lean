import Courier.Payload
import Courier.Json.Printer
/-!
Events on their way to the collector.

An event is a JSON object that nobody looks into any more.  It is made of a payload by filling in
what the collector requires: a token, a type and a time.
-/
namespace Courier

/-- An object waiting to be shipped. -/
structure Event where
  members : Json.Members
  deriving Repr, Inhabited

/-- What a payload gets when it does not say itself: a fresh token and the time of the call. -/
structure Fresh where
  token : String
  time : String
  deriving DecidableEq, Repr, Inhabited

namespace Payload

/-- The payload with its token, type and time filled in. -/
def complete (p : Payload) (fresh : Fresh) (defaultType : String) : Payload :=
  { p with
    requestToken := some (p.requestToken.getD fresh.token)
    eventType := some (p.eventType.getD defaultType)
    occurredAt := some (p.occurredAt.getD fresh.time) }

end Payload

namespace Event

def toJson (e : Event) : Json := .object e.members

/-- The event that a value is, if it is an object. -/
def ofJson? : Json → Option Event
  | .object members => some ⟨members⟩
  | _ => none

def get? (e : Event) (name : String) : Option Json := Json.Members.get? name e.members

def ofPayload (p : Payload) (fresh : Fresh) (defaultType : String) : Event :=
  ⟨Json.Members.ofList (p.complete fresh defaultType).toMembers⟩

def line (e : Event) : String := e.toJson.compact

end Event

end Courier
