import Courier.Scheduler.Basic
/-!
The steps of a scheduler.

Everything that happens to a scheduler is one of a few actions: an event comes in, the timer ticks, a
call is made, a batch gets an answer, a cycle begins or ends.  An action that is not possible in a
state has no result.  Times are given from outside, in nanoseconds.
-/
namespace Courier.Scheduler

/-- What can happen to a scheduler. -/
inductive Action where
  | enqueue (event : Event)
  /-- Start the timer; `runtime` tells whether there is something to run it on. -/
  | start (runtime : Bool) (now : Nat)
  | beginFlush
  | beginShutdown
  /-- The timer ticks. -/
  | tick (now : Nat)
  /-- The timer sees that the scheduler does not run any more. -/
  | leaveTimer
  /-- The head of the line begins its cycle. -/
  | beginCycle (now : Nat)
  /-- A batch of the cycle is sent, for the first time or after a pause. -/
  | resume (position : Nat)
  /-- The transport answers for a batch of the cycle. -/
  | receive (position : Nat) (answer : Answer) (draw : Draw)
  /-- Every batch of the cycle has its final outcome. -/
  | endCycle (now : Nat)
  /-- A shutdown sees that the timer is gone. -/
  | timerGone (call : Nat)
  /-- The transport is shut down, or failed to. -/
  | transportClosed (call : Nat) (failure : Option TransportFailure)
  /-- A later shutdown sees the end of the first one. -/
  | stopSeen (call : Nat)
  /-- The caller of a call does not wait for it any longer. -/
  | abandon (call : Nat)
  /-- Somebody takes events out of the buffer. -/
  | takeOut (count : Nat)
  /-- The scheduler itself is given up. -/
  | discard

namespace Timer

/-- Slack within which a late tick does not count as missed, in nanoseconds. -/
def slack : Nat := 5 * Duration.milli

/-- The timer when it starts: the first tick is due after one period. -/
def start (period : Duration) (now : Nat) : Timer :=
  if period.fitsClock then .armed (now + period.nanos) else .crashed

/-- When the tick after the one that was due is due.  Missed ticks are skipped, and later ticks keep
to whole periods. -/
def nextDue (period : Duration) (due now : Nat) : Nat :=
  if due + slack < now then now + period.nanos - (now - due) % period.nanos
  else due + period.nanos

/-- The tick has its cycle behind it. -/
def rearm : Timer → Timer
  | .busy due => .armed due
  | timer => timer

/-- The timer is given up while the scheduler runs. -/
def cancel : Timer → Timer
  | .armed _ | .busy _ => .ended
  | timer => timer

end Timer

namespace State

def setCall (s : State) (call : Nat) (stage : Call) : State :=
  { s with calls := s.calls.set call stage }

def nextCall (s : State) : Nat := s.calls.length

/-- Somebody leaves the line; a cycle that was under way goes with its owner. -/
def leave (s : State) (claimant : Claimant) : State :=
  { s with
    line := s.line.filter (· != claimant)
    cycle := if s.line.head? = some claimant then none else s.cycle }

/-- The head of the line is done with its cycle. -/
def finishCycle (s : State) (claimant : Claimant) (rest : List Claimant) (stats : CycleStats) :
    State × List Effect :=
  let s := { s with line := rest, cycle := none }
  match claimant with
  | .timer => ({ s with timer := s.timer.rearm }, [])
  | .flush call => (s.setCall call (.flushed stats), [])
  | .shutdown call => (s.setCall call (.closing stats), [.transportClosed])

def enqueue (s : State) (event : Event) : State × List Effect :=
  let (admission, buffer) := s.buffer.enqueue event
  let stored : List Effect := [.counted .enqueued, .counted (.bufferSize buffer.size)]
  let effects : List Effect :=
    match admission with
    | .refused => []
    | .stored => stored
    | .evictedOldest =>
      .counted (.dropped "overflow" 1)
      :: .logged ⟨.warn, "buffer full, oldest event dropped",
        [("capacity", .number buffer.capacity), ("dropped_total", .number buffer.dropped)]⟩
      :: stored
  ({ s with buffer }, effects)

end State

def startedRecord (settings : Settings) (capacity : Nat) : Log.Record :=
  ⟨.info, "flush scheduler started",
    [("flush_interval_ms", .number settings.period.loggedMillis),
      ("batch_size", .number settings.batchSize), ("capacity", .number capacity),
      ("transport", .text settings.channel.transport)]⟩

/-- Why a timer whose first tick lies beyond the clock breaks down. -/
def timerPanic : String :=
  "task 1 panicked with message \"overflow when adding duration to instant\""

/-- What is done about the batches of a cycle whose sending panicked. -/
def panicEffects (transport : String) (deliveries : List Delivery) : List Effect :=
  deliveries.flatMap fun d =>
    match d.stage with
    | .panicked _ => [
      .counted (.dropped "panicked" d.batch.length),
      .logged ⟨.error, "batch delivery panicked",
        [("transport", .text transport), ("count", .number d.batch.length)]⟩]
    | _ => []

namespace State

/-- The timer starts, if the scheduler is idle and there is something to run it on. -/
def start (s : State) (settings : Settings) (runtime : Bool) (now : Nat) : State × List Effect :=
  if runtime ∧ s.phase = .idle then
    ({ s with phase := .running, timer := Timer.start settings.period now },
      [.logged (startedRecord settings s.buffer.capacity)])
  else (s, [])

/-- A call to flush gets in line; once the scheduler is stopped it returns at once. -/
def beginFlush (s : State) : State :=
  if s.phase = .stopped then { s with calls := s.calls ++ [.flushed {}] }
  else { s with calls := s.calls ++ [.inLine], line := s.line ++ [.flush s.nextCall] }

/-- The first call to shut down closes the buffer and waits for the timer; every later one waits for
the first. -/
def beginShutdown (s : State) : State × List Effect :=
  if s.phase.accepts then
    ({ s with
        phase := .draining
        buffer := s.buffer.close
        calls := s.calls ++ [.awaitingTimer] },
      [.logged ⟨.info, "flush scheduler shutting down", [("pending", .number s.buffer.size)]⟩])
  else ({ s with calls := s.calls ++ [.awaitingStop] }, [])

/-- A tick that is due gets in line, as long as the scheduler runs. -/
def tick (s : State) (settings : Settings) (now : Nat) : Option State :=
  match s.timer with
  | .armed due =>
    if s.phase = .running ∧ due ≤ now then
      some { s with
        timer := .busy (Timer.nextDue settings.period due now)
        line := s.line ++ [.timer] }
    else none
  | _ => none

/-- Between two ticks the timer ends once the scheduler does not run any more. -/
def leaveTimer (s : State) : Option State :=
  match s.timer with
  | .armed _ => if s.phase = .running then none else some { s with timer := .ended }
  | _ => none

/-- The head of the line takes everything that is buffered.  With nothing to take, its cycle is over
at once. -/
def beginCycle (s : State) (settings : Settings) (now : Nat) : Option (State × List Effect) :=
  match s.line, s.cycle with
  | claimant :: rest, none =>
    let (batches, buffer) := s.buffer.batches settings.batchSize
    let s := { s with buffer }
    let gauge : Effect := .counted (.bufferSize buffer.size)
    if batches.isEmpty then
      let (s, effects) := s.finishCycle claimant rest {}
      some (s, gauge :: effects)
    else some ({ s with cycle := some (.ofBatches now batches) }, [gauge])
  | _, _ => none

/-- Something happens to one batch of the cycle. -/
def advance (s : State) (position : Nat) (change : Delivery → Option (Delivery × List Effect)) :
    Option (State × List Effect) := do
  let cycle ← s.cycle
  let delivery ← cycle.deliveries[position]?
  let (delivery, effects) ← change delivery
  let deliveries := cycle.deliveries.set position delivery
  some ({ s with cycle := some { cycle with deliveries } }, effects)

/-- The cycle ends once every batch has its final outcome. -/
def endCycle (s : State) (settings : Settings) (now : Nat) : Option (State × List Effect) :=
  match s.line, s.cycle with
  | claimant :: rest, some cycle =>
    if cycle.finished then
      let elapsed := Duration.ofNanos (now - cycle.started)
      let (s, effects) := s.finishCycle claimant rest cycle.stats
      some (s, panicEffects settings.channel.transport cycle.deliveries
        ++ .counted (.flush claimant.trigger.name elapsed.asSeconds) :: effects)
    else none
  | _, _ => none

/-- The first call to shut down gets in line for the final cycle once the timer is gone. -/
def timerGone (s : State) (call : Nat) : Option (State × List Effect) :=
  match s.calls[call]? with
  | some .awaitingTimer =>
    if s.timer.isGone then
      let effects : List Effect :=
        if s.timer = .crashed then
          [.logged ⟨.error, "flush timer task failed", [("error", .text timerPanic)]⟩]
        else []
      some ({ s.setCall call .inLine with line := s.line ++ [.shutdown call] }, effects)
    else none
  | _ => none

/-- Once the transport is done the scheduler is stopped. -/
def transportClosed (s : State) (settings : Settings) (call : Nat)
    (failure : Option TransportFailure) : Option (State × List Effect) :=
  match s.calls[call]? with
  | some (.closing stats) =>
    let failed := failure.toList.map fun cause => Effect.logged
      ⟨.warn, "transport shutdown failed",
        [("transport", .text settings.channel.transport), ("error", .text cause.message)]⟩
    some ({ s.setCall call .finished with phase := .stopped },
      failed ++ [.logged ⟨.info, "flush scheduler stopped",
        [("events", .number stats.events), ("batches", .number stats.batches),
          ("dropped_total", .number s.buffer.dropped)]⟩])
  | _ => none

/-- A later call to shut down returns once the scheduler is stopped. -/
def stopSeen (s : State) (call : Nat) : Option State :=
  match s.calls[call]? with
  | some .awaitingStop => if s.phase = .stopped then some (s.setCall call .finished) else none
  | _ => none

/-- A call is given up; it leaves the line, and the batches of its cycle are lost. -/
def abandon (s : State) (call : Nat) : Option State :=
  match s.calls[call]? with
  | none => none
  | some _ => some (((s.leave (.flush call)).leave (.shutdown call)).setCall call .abandoned)

/-- The scheduler is given up: a timer that was not handed over to a shutdown ends at once. -/
def discard (s : State) : State :=
  if s.phase = .running then { s.leave .timer with timer := s.timer.cancel } else s

end State

/-- The state after an action and its effects, if the action is possible. -/
def step (settings : Settings) (s : State) : Action → Option (State × List Effect)
  | .enqueue event => some (s.enqueue event)
  | .start runtime now => some (s.start settings runtime now)
  | .beginFlush => some (s.beginFlush, [])
  | .beginShutdown => some s.beginShutdown
  | .tick now => (s.tick settings now).map (·, [])
  | .leaveTimer => s.leaveTimer.map (·, [])
  | .beginCycle now => s.beginCycle settings now
  | .resume position => s.advance position Delivery.resume
  | .receive position answer draw =>
    s.advance position fun d => d.receive settings.channel draw answer
  | .endCycle now => s.endCycle settings now
  | .timerGone call => s.timerGone call
  | .transportClosed call failure => s.transportClosed settings call failure
  | .stopSeen call => (s.stopSeen call).map (·, [])
  | .abandon call => (s.abandon call).map (·, [])
  | .takeOut count => some ({ s with buffer := (s.buffer.drain count).2 }, [])
  | .discard => some (s.discard, [])

end Courier.Scheduler
