import Courier.Timeline.World
/-!
What the owner of a scheduler does with it, on the clock.

An agenda is a list of operations.  Operations may be limited in time or run side by side in
strands.  Whenever several things are due at one time, the agenda goes before the timer and strands
go in their order.
-/
namespace Courier.Timeline

open Scheduler (CycleStats Claimant Call)

/-- One operation of the owner.  Times are in milliseconds. -/
inductive Op where
  | start (runtime : Bool)
  | enqueue (events : List Event)
  | flush
  | shutdown
  | sleep (span : Nat)
  /-- Take events out of the buffer. -/
  | takeOut (count : Nat)
  /-- Give up the scheduler. -/
  | drop
  /-- Give up the operation when it takes too long. -/
  | limit (span : Nat) (op : Op)
  /-- Go through several lists of operations side by side. -/
  | join (strands : List (List Op))
  deriving Inhabited

/-- What an operation comes to. -/
inductive Result where
  /-- It is over, and nothing is said about it. -/
  | over
  | started (failure : Option Failure)
  | flushed (stats : CycleStats)
  | taken (events : List Event)
  | inTime (result : Result)
  | late
  /-- The results of every strand with their times. -/
  | joined (strands : List (List (Result × Nat)))
  deriving Inhabited

mutual

/-- An operation that has begun. -/
inductive Task where
  | finished (result : Result)
  | asleep (wake : Nat)
  | calling (claimant : Claimant)
  | limited (deadline : Nat) (task : Task)
  | joint (strands : List Strand)

/-- A list of operations in the middle of one: what the earlier ones came to, the present one and
those still to come. -/
inductive Strand where
  | mk (earlier : List (Result × Nat)) (present : Task) (later : List Op)

end

instance : Inhabited Task := ⟨.finished .over⟩

def Task.result? : Task → Option Result
  | .finished result => some result
  | _ => none

def Strand.results? : Strand → Option (List (Result × Nat))
  | .mk earlier (.finished _) [] => some earlier
  | _ => none

/-- A task of strands; it is over once all of them are. -/
def Task.ofStrands (strands : List Strand) : Task :=
  match strands.mapM Strand.results? with
  | some results => .finished (.joined results)
  | none => .joint strands

namespace World

/-- The task of a call, after it got its turn. -/
def attend (w : World) (claimant : Claimant) (call : Nat) : World × Task :=
  let w := w.give claimant
  match w.scheduler.calls[call]? with
  | some (.flushed stats) => (w, .finished (.flushed stats))
  | some .finished => (w, .finished .over)
  | _ => (w, .calling claimant)

def attendClaimant (w : World) (claimant : Claimant) : World × Task :=
  match claimant with
  | .flush call | .shutdown call => w.attend claimant call
  | .timer => (w, .finished .over)

mutual

/-- The callers of a task do not wait any longer. -/
def abandon (w : World) : Task → World
  | .calling (.flush call) | .calling (.shutdown call) => w.perform (.abandon call)
  | .limited _ task => w.abandon task
  | .joint strands => w.abandonAll strands
  | _ => w
termination_by structural x => x

def abandonAll (w : World) : List Strand → World
  | [] => w
  | strand :: rest => (w.abandonStrand strand).abandonAll rest
termination_by structural x => x

def abandonStrand (w : World) : Strand → World
  | .mk _ present _ => w.abandon present
termination_by structural x => x

end

/-- A task under a limit: it is over in time, or given up at the deadline. -/
def enforce (w : World) (deadline : Nat) (task : Task) : World × Task :=
  match task.result? with
  | some result => (w, .finished (.inTime result))
  | none =>
    if deadline ≤ w.now then (w.abandon task, .finished .late) else (w, .limited deadline task)

mutual

/-- Begin an operation, and go on with it as far as it goes. -/
def launch (w : World) : Op → World × Task
  | .start runtime =>
    (w.perform (.start runtime w.nanos),
      .finished (.started (if runtime then none else some Scheduler.noRuntime)))
  | .enqueue events =>
    (events.foldl (fun w event => w.perform (.enqueue event)) w, .finished .over)
  | .flush =>
    let call := w.scheduler.nextCall
    (w.perform .beginFlush).attend (.flush call) call
  | .shutdown =>
    let call := w.scheduler.nextCall
    (w.perform .beginShutdown).attend (.shutdown call) call
  | .sleep span => (w, if span = 0 then .finished .over else .asleep (w.now + span))
  | .takeOut count =>
    (w.perform (.takeOut count), .finished (.taken (w.scheduler.buffer.drain count).1))
  | .drop => ({ w.perform .discard with dropped := true }, .finished .over)
  | .limit span op =>
    let deadline := w.now + span
    let (w, task) := w.launch op
    w.enforce deadline task
  | .join strands =>
    let (w, strands) := w.launchAll strands
    (w, .ofStrands strands)
termination_by structural x => x

def launchAll (w : World) : List (List Op) → World × List Strand
  | [] => (w, [])
  | ops :: rest =>
    let (w, strand) := w.launchStrand [] ops
    let (w, strands) := w.launchAll rest
    (w, strand :: strands)
termination_by structural x => x

/-- Go through a list of operations as far as it goes. -/
def launchStrand (w : World) (earlier : List (Result × Nat)) : List Op → World × Strand
  | [] => (w, .mk earlier (.finished .over) [])
  | op :: later =>
    let (w, task) := w.launch op
    match task.result? with
    | some result => w.launchStrand (earlier ++ [(result, w.now)]) later
    | none => (w, .mk earlier task later)
termination_by structural x => x

end

mutual

/-- Give a task its turn. -/
def poll (w : World) : Task → World × Task
  | .finished result => (w, .finished result)
  | .asleep wake => (w, if wake ≤ w.now then .finished .over else .asleep wake)
  | .calling claimant => w.attendClaimant claimant
  | .limited deadline task =>
    let (w, task) := w.poll task
    w.enforce deadline task
  | .joint strands =>
    let (w, strands) := w.pollAll strands
    (w, .ofStrands strands)
termination_by structural x => x

def pollAll (w : World) : List Strand → World × List Strand
  | [] => (w, [])
  | strand :: rest =>
    let (w, strand) := w.pollStrand strand
    let (w, strands) := w.pollAll rest
    (w, strand :: strands)
termination_by structural x => x

def pollStrand (w : World) : Strand → World × Strand
  | .mk earlier present later =>
    let (w, task) := w.poll present
    match present, task.result? with
    | .finished _, _ => (w, .mk earlier task later)
    | _, some result => w.launchStrand (earlier ++ [(result, w.now)]) later
    | _, none => (w, .mk earlier task later)
termination_by structural x => x

end

end World

mutual

/-- The times for which a task waits. -/
def Task.wakes : Task → List Nat
  | .asleep wake => [wake]
  | .limited deadline task => deadline :: task.wakes
  | .joint strands => Strand.wakesAll strands
  | _ => []
termination_by structural x => x

def Strand.wakesAll : List Strand → List Nat
  | [] => []
  | strand :: rest => strand.wakes ++ Strand.wakesAll rest
termination_by structural x => x

def Strand.wakes : Strand → List Nat
  | .mk _ present _ => present.wakes
termination_by structural x => x

end

namespace World

/-- The earliest time after the present at which something may be due. -/
def nextWake? (w : World) (task : Task) : Option Nat :=
  ((task.wakes ++ w.wakes).filter (w.now < ·)).min?

/-- Let time pass until the task is over.  The timer gets its turn whenever the task has to wait; both
go on at the same time as long as the scheduler moves, `seen` being the steps it had made when the
task got its last turn.  Once nothing moves, time jumps. -/
def await : (fuel seen : Nat) → World → Task → World × Result
  | 0, _, w, task => (w, task.result?.getD .over)
  | fuel + 1, seen, w, task =>
    match task.result? with
    | some result => (w, result)
    | none =>
      let w := w.give .timer
      if w.moves ≠ seen then
        let (later, task) := w.poll task
        await fuel w.moves later task
      else
        match w.nextWake? task with
        | none => (w, .over)
        | some time =>
          let (later, task) := { w with now := time }.poll task
          await fuel w.moves later task

/-- Begin an operation and let time pass until it is over. -/
def complete (fuel : Nat) (w : World) (op : Op) : World × Result :=
  let (later, task) := w.launch op
  await fuel w.moves later task

end World

mutual

/-- How much time an operation can spend by itself, plus one for each operation and each event. -/
def Op.span : Op → Nat
  | .sleep span => span + 1
  | .limit span op => span + op.span + 1
  | .join strands => Op.spanAll strands + 1
  | _ => 1
termination_by structural x => x

def Op.spanAll : List (List Op) → Nat
  | [] => 0
  | ops :: rest => Op.spanList ops + Op.spanAll rest
termination_by structural x => x

def Op.spanList : List Op → Nat
  | [] => 0
  | op :: rest => op.span + Op.spanList rest
termination_by structural x => x

end

mutual

/-- How many events an operation brings in. -/
def Op.supply : Op → Nat
  | .enqueue events => events.length
  | .limit _ op => op.supply
  | .join strands => Op.supplyAll strands
  | _ => 0
termination_by structural x => x

def Op.supplyAll : List (List Op) → Nat
  | [] => 0
  | ops :: rest => Op.supplyList ops + Op.supplyAll rest
termination_by structural x => x

def Op.supplyList : List Op → Nat
  | [] => 0
  | op :: rest => op.supply + Op.supplyList rest
termination_by structural x => x

end

/-- What one operation of an agenda came to, and what was seen after it. -/
structure Entry where
  result : Result
  time : Nat
  scheduler : Scheduler.State
  dropped : Bool
  /-- What was done since the operation before, with times. -/
  effects : List (Nat × Effect)
  deriving Inhabited

namespace World

/-- More rounds than an agenda can need.  Time moves by at least one millisecond in each of a few, and
it can only be spent by the operations, the far end and the pauses between attempts. -/
def rounds (w : World) (ops : List Op) : Nat :=
  let events := w.scheduler.buffer.size + Op.supplyList ops
  let attempts := w.settings.channel.backoff.attempts * (events + 1)
  let delays := w.farEnd.turns.foldr (fun turn n => turn.delay + n) 0 + attempts * w.farEnd.otherwise.delay
  let pauses := attempts * wakeAfter 0 w.settings.channel.backoff.longest
  8 * (Op.spanList ops + delays + pauses + w.closing.1 + 16)

def finish (w : World) (op : Op) : World × Result := w.complete (w.rounds [op]) op

def go (fuel : Nat) (w : World) : List Op → List Entry
  | [] => []
  | op :: rest =>
    let (w, result) := w.complete fuel op
    ⟨result, w.now, w.scheduler, w.dropped, w.trace⟩ :: go fuel { w with trace := [] } rest

/-- What an agenda comes to, operation by operation. -/
def run (w : World) (ops : List Op) : List Entry := go (w.rounds ops) w ops

end World

end Courier.Timeline
