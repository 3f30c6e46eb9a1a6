import Courier.Collector.Request
import Courier.Scheduler.Step
/-!
Clients: schedulers that send to the collector and take payloads.
-/
namespace Courier.Client

/-- The name of the transport that sends to the collector. -/
def transport : String := "http"

/-- Open a client that sends to the collector.  The timer starts at once if there is something to run
it on. -/
def «open» (config : Config) (reporter : Reporter) (runtime : Bool) (now : Nat) :
    Except Failure (Scheduler.Settings × Scheduler.State × List Effect) := do
  let _ ← Collector.Client.ofConfig config
  match Scheduler.create config transport reporter with
  | .error problem => throw problem.failure
  | .ok (settings, state, effects) =>
    let (state, later) := state.start settings runtime now
    pure (settings, state, effects ++ later)

/-- The event that a client with some settings makes of a payload. -/
def event (config : Config) (payload : Payload) (fresh : Fresh) : Event :=
  .ofPayload payload fresh config.defaultEventType

end Courier.Client
