import Courier.Timeline.FarEnd
/-!
One batch on the clock, alone with the far end.
-/
namespace Courier.Timeline

/-- What became of a batch that was sent until its end. -/
structure Attempts where
  /-- The stage that was reached. -/
  stage : Stage
  /-- The time of the end. -/
  time : Nat
  /-- The times of the calls. -/
  calls : List Nat
  /-- What was logged. -/
  records : List Log.Record
  deriving Repr, Inhabited

namespace Attempts

/-- Send a batch from an attempt on, with `left` more attempts after it.  The far end was called
`call` times before. -/
def go (backoff : Backoff) (draw : Draw) (farEnd : FarEnd) (batch : List Event) :
    (left call now attempt : Nat) → Attempts
  | left, call, now, attempt =>
    let turn := farEnd.turn call
    let (answer, said) := turn.respond batch
    let time := now + turn.delay
    match backoff.after draw attempt answer, left with
    | .resting attempt pause, left + 1 =>
      let later := go backoff draw farEnd batch left (call + 1) (wakeAfter time pause) (attempt + 1)
      { later with
        calls := now :: later.calls
        records := said ++ backoff.retryRecord attempt pause answer :: later.records }
    | stage, _ => ⟨stage, time, [now], said⟩
termination_by structural left => left

/-- Send a batch until it has its final outcome. -/
def run (backoff : Backoff) (draw : Draw) (farEnd : FarEnd) (batch : List Event) (call now : Nat) :
    Attempts :=
  go backoff draw farEnd batch (backoff.attempts - 1) call now 1

/-- The final outcome and the number of attempts, or the panic that ended them.  No batch is sent to
any other stage: see `outcome?_run`. -/
def outcome? (a : Attempts) : Except Panic (Outcome × Nat) :=
  match a.stage with
  | .settled attempts outcome => .ok (outcome, attempts)
  | .panicked panic => .error panic
  | _ => .ok (.success, a.calls.length)

def conclusion (a : Attempts) (channel : Channel) (batch : List Event) : List Effect :=
  match a.stage with
  | .settled attempts outcome => channel.conclude batch attempts outcome
  | _ => []

end Attempts

/-- A batch that was sent until its end, with what was done about it. -/
structure Dispatch where
  attempts : Nat
  outcome : Outcome
  time : Nat
  /-- The times of the calls. -/
  calls : List Nat
  effects : List Effect
  deriving Repr, Inhabited

namespace Dispatch

def reported (d : Dispatch) : Bool := !d.outcome.isSuccess

/-- Send batches one after the other, up to the first panic. -/
def run (channel : Channel) (draw : Draw) (farEnd : FarEnd) (call now : Nat) :
    List (List Event) → List Effect × Except Panic (List Dispatch)
  | [] => ([], .ok [])
  | batch :: rest =>
    let a := Attempts.run channel.backoff draw farEnd batch call now
    let effects := a.records.map .logged ++ a.conclusion channel batch
    match a.outcome? with
    | .error panic => (effects, .error panic)
    | .ok (outcome, attempts) =>
      let (later, others) :=
        run channel draw farEnd (call + a.calls.length) a.time rest
      (effects ++ later, others.map (⟨attempts, outcome, a.time, a.calls, effects⟩ :: ·))

end Dispatch

end Courier.Timeline
