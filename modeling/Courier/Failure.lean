/-!
What can go wrong, and how it is said.

A transport failure belongs to one attempt to send a batch; a failure of the library ends an
operation.
-/
namespace Courier

/-- Why one attempt to send a batch came to nothing.  The far end gave no verdict on any event. -/
inductive TransportFailure where
  /-- The transport could not be set up. -/
  | setup (detail : String)
  /-- The far end could not be reached. -/
  | connection (detail : String)
  | timeout (detail : String)
  /-- The exchange began and broke off. -/
  | exchange (detail : String)
  /-- The transport is shutting down. -/
  | closing (detail : String)
  deriving DecidableEq, Repr, Inhabited

def TransportFailure.message : TransportFailure → String
  | .setup detail => s!"initialization failed: {detail}"
  | .connection detail => s!"connection error: {detail}"
  | .timeout detail => s!"request timed out: {detail}"
  | .exchange detail => s!"send failed: {detail}"
  | .closing detail => s!"shutdown error: {detail}"

/-- Why an operation of the library fails. -/
inductive Failure where
  | config (detail : String)
  /-- A component could not be built. -/
  | setup (detail : String)
  | io (detail : String)
  | metrics (detail : String)
  /-- The operation came after shutdown. -/
  | closed
  deriving DecidableEq, Repr, Inhabited

namespace Failure

def message : Failure → String
  | .config detail => s!"configuration error: {detail}"
  | .setup detail => s!"initialization failed: {detail}"
  | .io detail => s!"IO error: {detail}"
  | .metrics detail => s!"metrics error: {detail}"
  | .closed => "shipper is shut down"

/-- A transport that fails while a component is built fails the component. -/
def ofTransport : TransportFailure → Failure
  | .setup detail => .setup detail
  | .closing _ => .closed
  | failure => .setup failure.message

end Failure

end Courier
