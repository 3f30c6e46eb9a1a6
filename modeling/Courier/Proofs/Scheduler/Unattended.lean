import Courier.Proofs.Scheduler.Lifecycle
/-!
A scheduler that nobody calls.

As long as nobody calls for a flush or a shutdown, a running scheduler goes on by itself, and none of its
own steps ends that.  Given up in this condition it does nothing any more: the timer ends, and with it
the only one who could have asked for a cycle.
-/
namespace Courier.Scheduler

/-- The scheduler, its timer and the transport make the step among themselves. -/
def Action.inner : Action → Bool
  | .enqueue _ | .start _ _ | .beginFlush | .beginShutdown => false
  | .abandon _ | .takeOut _ | .discard => false
  | _ => true

theorem Action.ordinary_of_inner {action : Action} (hinner : action.inner = true) :
    action.ordinary = true := by
  cases action <;> first | rfl | cases hinner

/-- The scheduler runs, and nobody has called for a flush or a shutdown. -/
structure State.Unattended (s : State) : Prop where
  running : s.phase = .running
  calls : s.calls = []

/-- A scheduler comes to be called by others only. -/
theorem Turn.unattended {settings : Settings} {s s' : State} {action : Action}
    {effects : List Effect} (hturn : Turn settings s action s' effects)
    (hinner : action.inner = true) (h : s.Unattended) : s'.Unattended := by
  have hnobody (call : Nat) (stage : Call) : s.calls[call]? ≠ some stage := by
    simp [h.calls]
  have hanswer (claimant : Claimant) (stats : CycleStats) : claimant.answer stats s.calls = [] := by
    rw [h.calls]
    cases claimant <;> rfl
  cases hturn with
  | emptyCycle claimant rest now hline hcycle hnone =>
      exact ⟨(State.phase_finishCycle ..).trans h.running,
        (State.calls_finishCycle ..).trans (hanswer claimant {})⟩
  | endCycle claimant rest cycle now hline hcycle hfinished =>
      exact ⟨(State.phase_finishCycle ..).trans h.running,
        (State.calls_finishCycle ..).trans (hanswer claimant cycle.stats)⟩
  | timerGone call hcall htimer => exact absurd hcall (hnobody call _)
  | transportClosed call stats failure hcall => exact absurd hcall (hnobody call _)
  | stopSeen call hcall hphase => exact absurd hcall (hnobody call _)
  | enqueue | start | startIgnored | flushQueued | flushSkipped | shutdownBegun | shutdownJoined =>
      cases hinner
  | _ => exact ⟨h.running, h.calls⟩

/-- Nothing is accepted by the way. -/
theorem Moment.accepted_of_inner {settings : Settings} {m m' : Moment} {action : Action}
    (hinner : action.inner = true) (hnext : m.next? settings action = some m') :
    m'.history.accepted = m.history.accepted := by
  obtain ⟨⟨s', effects⟩, _, rfl⟩ := Option.map_eq_some_iff.mp hnext
  cases action with
  | beginCycle now =>
      simp only [History.record, History.book]
      split <;> rfl
  | enqueue | start | beginFlush | beginShutdown | abandon | takeOut | discard => cases hinner
  | _ => rfl

/-- Giving up the scheduler takes nothing out of the buffer. -/
theorem State.buffer_discard (s : State) : s.discard.buffer = s.buffer := by
  unfold State.discard
  split <;> rfl

def Moment.givenUp (m : Moment) : Moment := { m with state := m.state.discard }

namespace Sound

variable {settings : Settings} {m m' : Moment}

/-- As long as events are taken, an event that comes in is accepted. -/
theorem accepted_of_enqueue (hm : Sound settings m) (haccepts : m.state.phase.accepts = true)
    {event : Event} (hnext : m.next? settings (.enqueue event) = some m') :
    m'.history.accepted = m.history.accepted ++ [event] := by
  have hopen : m.state.buffer.closed = false := by rw [hm.closed, haccepts]; rfl
  cases hnext
  show (m.history.takeIn (m.state.buffer.enqueue event).1 event).accepted = _
  rcases m.state.buffer.enqueue_cases event with ⟨hclosed, _⟩ | ⟨_, _, heq⟩ | ⟨_, _, heq⟩
  · rw [hopen] at hclosed
    cases hclosed
  · rw [heq]
    rfl
  · rw [heq]
    rfl

/-- With nobody calling, nobody but the timer stands in line. -/
theorem eq_timer_of_unattended (hm : Sound settings m) (h : m.state.Unattended) {x : Claimant}
    (hx : x ∈ m.state.line) : x = .timer := by
  have hnobody (call : Nat) : x.call? ≠ some call := fun hcall => by
    have hwaiting := hm.queued.waiting x hx call hcall
    rw [h.calls] at hwaiting
    cases hwaiting
  cases x with
  | timer => rfl
  | flush call | shutdown call => exact absurd rfl (hnobody call)

/-- Given up with nobody calling, the scheduler loses its timer and the cycle that was under way, and
keeps the rest. -/
theorem discard_of_unattended (hm : Sound settings m) (h : m.state.Unattended) :
    m.state.discard =
      { m.state with line := [], cycle := none, timer := m.state.timer.cancel } := by
  have hline : m.state.line.filter (· != .timer) = [] := by
    apply List.filter_eq_nil_iff.mpr
    intro x hx
    simp [hm.eq_timer_of_unattended h hx]
  have hcycle : (if m.state.line.head? = some .timer then none else m.state.cycle) = none := by
    cases hunderway : m.state.cycle with
    | none => exact ite_self _
    | some cycle =>
        obtain ⟨_, r, rest, hhead, _⟩ := hm.paced.underway_of_cycle hunderway
        have htimer := hm.eq_timer_of_unattended h (hhead ▸ List.mem_cons_self)
        rw [hhead, htimer]
        rfl
  rw [State.discard, if_pos h.running, State.leave, hline, hcycle]

/-- Given up with nobody calling, the scheduler does nothing any more. -/
theorem next?_givenUp (hm : Sound settings m) (h : m.state.Unattended) {action : Action}
    (hinner : action.inner = true) : m.givenUp.next? settings action = none := by
  have hcalls := h.calls
  rw [Moment.next?, Option.map_eq_none_iff, Moment.givenUp, hm.discard_of_unattended h]
  cases action with
  | tick now | leaveTimer =>
      cases htimer : m.state.timer <;> simp [Scheduler.step, State.tick, State.leaveTimer, Timer.cancel]
  | beginCycle now | endCycle now => rfl
  | resume place | receive place answer draw => rfl
  | timerGone call | transportClosed call failure | stopSeen call =>
      simp [Scheduler.step, State.timerGone, State.transportClosed, State.stopSeen, hcalls]
  | enqueue | start | beginFlush | beginShutdown | abandon | takeOut | discard => cases hinner

/-- With nobody calling, the transport is not told to shut down. -/
theorem closings_of_unattended (hm : Sound settings m) (h : m.state.Unattended) :
    Effect.closings m.history.trace = 0 := by
  have hle := hm.led.closings_le
  rw [h.running] at hle
  exact Nat.le_zero.mp hle

end Sound

end Courier.Scheduler
