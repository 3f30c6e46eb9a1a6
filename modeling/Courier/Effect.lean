import Courier.Metrics.Ledger
import Courier.Report
/-!
What a step of the library does to the world around it.
-/
namespace Courier

/-- One thing that is done or seen outside. -/
inductive Effect where
  /-- A batch is handed to the transport. -/
  | sent (batch : List Event)
  /-- A report reaches a reporter that keeps it. -/
  | reported (report : Report)
  | logged (record : Log.Record)
  | counted (update : Metrics.Update)
  /-- The transport is told to shut down. -/
  | transportClosed
  deriving Repr, Inhabited

namespace Effect

def logs (effects : List Effect) : List Log.Record :=
  effects.filterMap fun
    | .logged record => some record
    | _ => none

def reports (effects : List Effect) : List Report :=
  effects.filterMap fun
    | .reported report => some report
    | _ => none

def updates (effects : List Effect) : List Metrics.Update :=
  effects.filterMap fun
    | .counted update => some update
    | _ => none

/-- How often the transport is told to shut down by some effects. -/
def closings (effects : List Effect) : Nat :=
  effects.countP fun
    | .transportClosed => true
    | _ => false

end Effect

end Courier
