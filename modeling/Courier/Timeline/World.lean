import Courier.Scheduler.Step
import Courier.Timeline.FarEnd
/-!
A scheduler on the clock, and the far end.

The scheduler moves by its own steps alone.  The world around it says which step is due at the
present time for whoever is given a turn: the timer or a call.
-/
namespace Courier.Timeline

open Scheduler (Action Claimant Settings)

/-- What a batch of the cycle waits for: a time, and the answer that arrives then, if it waits for
one, with what the transport logs about it. -/
structure Wait where
  due : Nat
  answer : Option Answer := none
  records : List Log.Record := []
  deriving Repr, Inhabited

/-- A scheduler and what surrounds it.  Times are in milliseconds. -/
structure World where
  settings : Settings
  scheduler : Scheduler.State
  now : Nat := 0
  farEnd : FarEnd := {}
  /-- The number of calls of the far end so far. -/
  calls : Nat := 0
  /-- How long the transport takes to shut down, and whether it fails. -/
  closing : Nat × Option TransportFailure := (0, none)
  /-- What the batches of the cycle wait for, in their order. -/
  waits : List Wait := []
  /-- When the transport has shut down. -/
  closesAt : Nat := 0
  /-- What was done since the trace was last cleared, with times. -/
  trace : List (Nat × Effect) := []
  /-- The number of steps of the scheduler so far. -/
  moves : Nat := 0
  /-- The scheduler was given up. -/
  dropped : Bool := false
  deriving Inhabited

namespace World

def nanos (w : World) : Nat := w.now * Duration.milli

def stageAt (w : World) (position : Nat) : Option Delivery :=
  w.scheduler.cycle.bind fun cycle => cycle.deliveries[position]?

/-- A batch was handed to the far end: its next turn begins. -/
def call (w : World) (position : Nat) : World :=
  match w.stageAt position with
  | some delivery =>
    let turn := w.farEnd.turn w.calls
    let (answer, records) := turn.respond delivery.batch
    { w with
      calls := w.calls + 1
      waits := w.waits.set position ⟨w.now + turn.delay, some answer, records⟩ }
  | none => w

/-- A batch got its answer: a pause may begin. -/
def pause (w : World) (position : Nat) : World :=
  match w.stageAt position with
  | some ⟨_, .resting _ pause⟩ =>
    { w with waits := w.waits.set position ⟨wakeAfter w.now pause, none, []⟩ }
  | _ => w

/-- What the batches of the cycle wait for, after one step of the scheduler. -/
def follow (w : World) : Action → World
  | .beginCycle _ =>
    { w with
      waits := (w.scheduler.cycle.elim [] Scheduler.Cycle.deliveries).map fun _ => ⟨w.now, none, []⟩ }
  | .resume position => w.call position
  | .receive position _ _ => w.pause position
  | _ => w

def does (w : World) (effects : List Effect) : World :=
  { w with trace := w.trace ++ effects.map fun effect => (w.now, effect) }

def say (w : World) (record : Log.Record) : World := w.does [.logged record]

/-- What the transport logs before a step. -/
def said (w : World) : Action → List Effect
  | .receive position _ _ => (w.waits[position]?.elim [] Wait.records).map .logged
  | _ => []

/-- The scheduler makes a step, if it is possible. -/
def perform (w : World) (action : Action) : World :=
  match Scheduler.step w.settings w.scheduler action with
  | none => w
  | some (scheduler, effects) =>
    follow { w.does (w.said action ++ effects) with
      scheduler
      closesAt := if Effect.closings effects = 0 then w.closesAt else w.now + w.closing.1
      moves := w.moves + 1 } action

/-- The first batch of the cycle whose time has come, and what is due for it. -/
def dueBatch? (w : World) (deliveries : List Delivery) : Option Action :=
  (deliveries.zip w.waits).zipIdx.findSome? fun ((delivery, wait), position) =>
    if delivery.stage.finished ∨ w.now < wait.due then none
    else
      match wait.answer with
      | some answer => some (.receive position answer some)
      | none => some (.resume position)

/-- What is due for the head of the line. -/
def dueCycle? (w : World) : Option Action :=
  match w.scheduler.cycle with
  | none => some (.beginCycle w.nanos)
  | some cycle =>
    match w.dueBatch? cycle.deliveries with
    | some action => some action
    | none => if cycle.finished then some (.endCycle w.nanos) else none

/-- What is due for the timer outside the line. -/
def dueTimer? (w : World) : Option Action :=
  match w.scheduler.timer with
  | .armed due =>
    if w.scheduler.phase ≠ .running then some .leaveTimer
    else if due ≤ w.nanos then some (.tick w.nanos)
    else none
  | _ => none

/-- What is due for a call outside the line. -/
def dueCall? (w : World) (call : Nat) : Option Action :=
  match w.scheduler.calls[call]? with
  | some .awaitingTimer => if w.scheduler.timer.isGone then some (.timerGone call) else none
  | some (.closing _) =>
    if w.closesAt ≤ w.now then some (.transportClosed call w.closing.2) else none
  | some .awaitingStop =>
    if w.scheduler.phase = .stopped then some (.stopSeen call) else none
  | _ => none

/-- The step that is due now for the timer or a call. -/
def due? (w : World) (claimant : Claimant) : Option Action :=
  if w.scheduler.line.head? = some claimant then w.dueCycle?
  else
    match claimant with
    | .timer => w.dueTimer?
    | .flush call | .shutdown call => w.dueCall? call

/-- Batches that can still come up before time passes. -/
def pending (w : World) : Nat :=
  w.scheduler.buffer.size + (w.scheduler.cycle.elim 0 fun cycle => cycle.deliveries.length)

/-- Ticks that can be due at one time: those of a period that is shorter than the slack of the timer,
and the millisecond in which they are noticed. -/
def ticks (w : World) : Nat :=
  (Scheduler.Timer.slack + Duration.milli) / max w.settings.period.nanos 1 + 1

/-- More steps than can be due at one time: each attempt for each batch allows two, and so does each
tick. -/
def patience (w : World) : Nat :=
  2 * ((w.pending + 1) * (w.settings.channel.backoff.attempts + 8) + w.ticks)

/-- Give the timer or a call its turn until nothing is due for it. -/
def turnOf (claimant : Claimant) : (fuel : Nat) → World → World
  | 0, w => w
  | fuel + 1, w =>
    match w.due? claimant with
    | none => w
    | some action => turnOf claimant fuel (w.perform action)

/-- Give the timer or a call its turn. -/
def give (w : World) (claimant : Claimant) : World := turnOf claimant w.patience w

/-- The times at which something may be due for the scheduler. -/
def wakes (w : World) : List Nat :=
  let batches :=
    match w.scheduler.cycle with
    | none => []
    | some cycle =>
      ((cycle.deliveries.zip w.waits).filter fun (d, _) => !d.stage.finished).map
        fun (_, wait) => wait.due
  let timer :=
    match w.scheduler.timer with
    | .armed due => [(due + (Duration.milli - 1)) / Duration.milli]
    | _ => []
  w.closesAt :: (timer ++ batches)

/-- A world at rest around a new scheduler. -/
def create (settings : Settings) (scheduler : Scheduler.State) (farEnd : FarEnd)
    (closing : Nat × Option TransportFailure) : World :=
  { settings, scheduler, farEnd, closing }

end World

end Courier.Timeline
