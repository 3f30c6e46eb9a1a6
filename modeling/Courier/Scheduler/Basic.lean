import Courier.Buffer
import Courier.Delivery.Basic
/-!
The state of a scheduler.

Events wait in a buffer.  A cycle takes everything that waits and sends it in batches; the flush
timer, calls to flush and the call to shut down ask for cycles and stand in one line, so that cycles
never overlap.  The head of the line holds the right to run a cycle.
-/
namespace Courier.Scheduler

/-- The life of a scheduler. -/
inductive Phase where
  /-- Takes events, the timer does not run. -/
  | idle
  /-- Takes events, the timer runs. -/
  | running
  /-- Shutting down: takes no more events. -/
  | draining
  /-- The final cycle is done and the transport is shut down. -/
  | stopped
  deriving DecidableEq, Repr, Inhabited

def Phase.name : Phase → String
  | .idle => "Idle"
  | .running => "Running"
  | .draining => "Draining"
  | .stopped => "Stopped"

/-- New events are taken. -/
def Phase.accepts : Phase → Bool
  | .idle | .running => true
  | .draining | .stopped => false

/-- What made a cycle run. -/
inductive Trigger where
  | timer
  | manual
  | shutdown
  deriving DecidableEq, Repr, Inhabited

def Trigger.name : Trigger → String
  | .timer => "timer"
  | .manual => "manual"
  | .shutdown => "shutdown"

/-- The totals of one cycle. -/
structure CycleStats where
  batches : Nat := 0
  events : Nat := 0
  /-- Batches that ended in anything but a success. -/
  failedBatches : Nat := 0
  deriving DecidableEq, Repr, Inhabited

/-- What stands in line for a cycle.  Calls are numbered in the order in which they were made. -/
inductive Claimant where
  | timer
  | flush (call : Nat)
  | shutdown (call : Nat)
  deriving DecidableEq, Repr, Inhabited

def Claimant.trigger : Claimant → Trigger
  | .timer => .timer
  | .flush _ => .manual
  | .shutdown _ => .shutdown

/-- The batches that the head of the line took, each on its way. -/
structure Cycle where
  /-- The time at which the cycle began, in nanoseconds. -/
  started : Nat
  deliveries : List Delivery
  deriving Repr, Inhabited

namespace Cycle

def ofBatches (now : Nat) (batches : List (List Event)) : Cycle := ⟨now, batches.map Delivery.start⟩

/-- Every batch has its final outcome. -/
def finished (c : Cycle) : Bool := c.deliveries.all fun d => d.stage.finished

/-- The totals once every batch has its final outcome. -/
def stats (c : Cycle) : CycleStats where
  batches := c.deliveries.length
  events := c.deliveries.foldr (fun d n => d.batch.length + n) 0
  failedBatches := c.deliveries.countP fun d => !d.stage.succeeded

end Cycle

/-- The flush timer. -/
inductive Timer where
  | absent
  /-- The next tick is due at a time in nanoseconds. -/
  | armed (due : Nat)
  /-- In line for a cycle or in its cycle; the tick after that is due at a time. -/
  | busy (due : Nat)
  | ended
  /-- The clock could not express the first tick. -/
  | crashed
  deriving DecidableEq, Repr, Inhabited

/-- The timer task is not there any more, or was never there. -/
def Timer.isGone : Timer → Bool
  | .absent | .ended | .crashed => true
  | .armed _ | .busy _ => false

/-- Where a call of flush or shutdown stands. -/
inductive Call where
  /-- In line for a cycle or in its cycle. -/
  | inLine
  /-- A flush that returned. -/
  | flushed (stats : CycleStats)
  /-- The shutdown waits for the timer to end. -/
  | awaitingTimer
  /-- After the final cycle, while the transport shuts down. -/
  | closing (stats : CycleStats)
  /-- A later shutdown waits for the first one. -/
  | awaitingStop
  /-- A shutdown that returned. -/
  | finished
  /-- Given up by its caller. -/
  | abandoned
  deriving DecidableEq, Repr, Inhabited

/-- What a scheduler is set up with. -/
structure Settings where
  batchSize : Nat
  period : Duration
  channel : Channel
  deriving Inhabited

/-- A scheduler at one moment. -/
structure State where
  phase : Phase := .idle
  buffer : Buffer Event
  /-- Who asks for a cycle, in the order of asking. -/
  line : List Claimant := []
  /-- The cycle of the head of the line, once it began. -/
  cycle : Option Cycle := none
  timer : Timer := .absent
  /-- All calls ever made, the first one first. -/
  calls : List Call := []
  deriving Repr, Inhabited

/-- Why the timer cannot start where there is nothing to run it on. -/
def noRuntime : Failure :=
  .setup ("flush timer needs a Tokio runtime: there is no reactor running, "
    ++ "must be called from the context of a Tokio 1.x runtime")

/-- The settings of a scheduler, and its state at the beginning, with the effects of building it. -/
def create (config : Config) (transport : String) (reporter : Reporter) :
    Except ConfigProblem (Settings × State × List Effect) := do
  config.validate
  let settings : Settings := {
    batchSize := max config.batchSize 1
    period := config.flushInterval
    channel := ⟨transport, Backoff.ofConfig config, reporter⟩ }
  pure (settings, { buffer := Buffer.empty config.maxQueueSize },
    config.warnings.map .logged ++ [.counted (.bufferCapacity config.maxQueueSize)])

end Courier.Scheduler
