import Courier.Scheduler.Step
/-!
What a step of a scheduler can be.

`Turn` lists every way in which an ordinary action is possible, with its guard, the state after it and
its effects.  Whatever is proved about steps is proved by going through this list.
-/
namespace Courier.Scheduler

/-- Nobody gives up a call or the scheduler, and nobody reaches around the scheduler into its
buffer. -/
def Action.ordinary : Action → Bool
  | .abandon _ | .takeOut _ | .discard => false
  | _ => true

def drainingRecord (pending : Nat) : Log.Record :=
  ⟨.info, "flush scheduler shutting down", [("pending", .number pending)]⟩

/-- What is done when the first call to shut down sees that the timer is gone. -/
def timerGoneEffects (timer : Timer) : List Effect :=
  if timer = .crashed then
    [.logged ⟨.error, "flush timer task failed", [("error", .text timerPanic)]⟩]
  else []

/-- What the log says when the transport is shut down. -/
def stoppedEffects (transport : String) (failure : Option TransportFailure)
    (stats : CycleStats) (dropped : Nat) : List Effect :=
  (failure.toList.map fun cause => Effect.logged
    ⟨.warn, "transport shutdown failed",
      [("transport", .text transport), ("error", .text cause.message)]⟩)
  ++ [.logged ⟨.info, "flush scheduler stopped",
      [("events", .number stats.events), ("batches", .number stats.batches),
        ("dropped_total", .number dropped)]⟩]

/-- The ways in which a scheduler can go from one state to the next. -/
inductive Turn (settings : Settings) (s : State) :
    Action → State → List Effect → Prop
  | enqueue (event : Event) :
      Turn settings s (.enqueue event) (s.enqueue event).1 (s.enqueue event).2
  | start (now : Nat) (hphase : s.phase = .idle) :
      Turn settings s (.start true now)
        { s with phase := .running, timer := Timer.start settings.period now }
        [.logged (startedRecord settings s.buffer.capacity)]
  | startIgnored (runtime : Bool) (now : Nat)
      (hignored : ¬(runtime = true ∧ s.phase = .idle)) :
      Turn settings s (.start runtime now) s []
  | flushQueued (hphase : s.phase ≠ .stopped) :
      Turn settings s .beginFlush
        { s with
          calls := s.calls ++ [.inLine]
          line := s.line ++ [.flush s.nextCall] } []
  | flushSkipped (hphase : s.phase = .stopped) :
      Turn settings s .beginFlush { s with calls := s.calls ++ [.flushed {}] } []
  | shutdownBegun (hphase : s.phase.accepts = true) :
      Turn settings s .beginShutdown
        { s with
          phase := .draining
          buffer := s.buffer.close
          calls := s.calls ++ [.awaitingTimer] }
        [.logged (drainingRecord s.buffer.size)]
  | shutdownJoined (hphase : s.phase.accepts = false) :
      Turn settings s .beginShutdown { s with calls := s.calls ++ [.awaitingStop] } []
  | tick (due now : Nat) (htimer : s.timer = .armed due)
      (hphase : s.phase = .running) (hdue : due ≤ now) :
      Turn settings s (.tick now)
        { s with
          timer := .busy (Timer.nextDue settings.period due now)
          line := s.line ++ [.timer] } []
  | leaveTimer (due : Nat) (htimer : s.timer = .armed due)
      (hphase : s.phase ≠ .running) :
      Turn settings s .leaveTimer { s with timer := .ended } []
  | beginCycle (claimant : Claimant) (rest : List Claimant) (now : Nat)
      (hline : s.line = claimant :: rest) (hcycle : s.cycle = none)
      (hsome : (s.buffer.batches settings.batchSize).1 ≠ []) :
      Turn settings s (.beginCycle now)
        { s with
          buffer := (s.buffer.batches settings.batchSize).2
          cycle := some (.ofBatches now (s.buffer.batches settings.batchSize).1) }
        [.counted (.bufferSize (s.buffer.batches settings.batchSize).2.size)]
  | emptyCycle (claimant : Claimant) (rest : List Claimant) (now : Nat)
      (hline : s.line = claimant :: rest) (hcycle : s.cycle = none)
      (hnone : (s.buffer.batches settings.batchSize).1 = []) :
      Turn settings s (.beginCycle now)
        ({ s with buffer := (s.buffer.batches settings.batchSize).2 }.finishCycle
          claimant rest {}).1
        (.counted (.bufferSize (s.buffer.batches settings.batchSize).2.size)
          :: ({ s with buffer := (s.buffer.batches settings.batchSize).2 }.finishCycle
            claimant rest {}).2)
  | resume (cycle : Cycle) (place : Nat) (d d' : Delivery) (effects : List Effect)
      (hcycle : s.cycle = some cycle) (hd : cycle.deliveries[place]? = some d)
      (hresume : d.resume = some (d', effects)) :
      Turn settings s (.resume place)
        { s with
          cycle := some { cycle with deliveries := cycle.deliveries.set place d' } }
        effects
  | receive (cycle : Cycle) (place : Nat) (answer : Answer) (draw : Draw)
      (d d' : Delivery) (effects : List Effect)
      (hcycle : s.cycle = some cycle) (hd : cycle.deliveries[place]? = some d)
      (hreceive : d.receive settings.channel draw answer = some (d', effects)) :
      Turn settings s (.receive place answer draw)
        { s with
          cycle := some { cycle with deliveries := cycle.deliveries.set place d' } }
        effects
  | endCycle (claimant : Claimant) (rest : List Claimant) (cycle : Cycle) (now : Nat)
      (hline : s.line = claimant :: rest) (hcycle : s.cycle = some cycle)
      (hfinished : cycle.finished = true) :
      Turn settings s (.endCycle now) (s.finishCycle claimant rest cycle.stats).1
        (panicEffects settings.channel.transport cycle.deliveries
          ++ .counted (.flush claimant.trigger.name
              (Duration.ofNanos (now - cycle.started)).asSeconds)
          :: (s.finishCycle claimant rest cycle.stats).2)
  | timerGone (call : Nat) (hcall : s.calls[call]? = some .awaitingTimer)
      (htimer : s.timer.isGone = true) :
      Turn settings s (.timerGone call)
        { s.setCall call .inLine with line := s.line ++ [.shutdown call] }
        (timerGoneEffects s.timer)
  | transportClosed (call : Nat) (stats : CycleStats) (failure : Option TransportFailure)
      (hcall : s.calls[call]? = some (.closing stats)) :
      Turn settings s (.transportClosed call failure)
        { s.setCall call .finished with phase := .stopped }
        (stoppedEffects settings.channel.transport failure stats s.buffer.dropped)
  | stopSeen (call : Nat) (hcall : s.calls[call]? = some .awaitingStop)
      (hphase : s.phase = .stopped) :
      Turn settings s (.stopSeen call) (s.setCall call .finished) []

/-- What happens to one batch of the cycle happens to a batch that is there. -/
theorem State.advance_eq_some {s s' : State} {place : Nat} {effects : List Effect}
    {change : Delivery → Option (Delivery × List Effect)}
    (h : s.advance place change = some (s', effects)) :
    ∃ cycle d d', s.cycle = some cycle ∧ cycle.deliveries[place]? = some d ∧
      change d = some (d', effects) ∧
      s' = { s with
        cycle := some { cycle with deliveries := cycle.deliveries.set place d' } } := by
  simp only [State.advance, bind, Option.bind_eq_some_iff, Option.some.injEq,
    Prod.mk.injEq, Prod.exists] at h
  obtain ⟨cycle, hcycle, d, hd, d', later, hchange, hstate, rfl⟩ := h
  exact ⟨cycle, d, d', hcycle, hd, hchange, hstate.symm⟩

theorem State.turn_of_start (settings : Settings) (s : State) (runtime : Bool)
    (now : Nat) :
    Turn settings s (.start runtime now) (s.start settings runtime now).1
      (s.start settings runtime now).2 := by
  by_cases h : runtime = true ∧ s.phase = .idle
  · rw [State.start, if_pos h, h.1]
    exact .start now h.2
  · rw [State.start, if_neg h]
    exact .startIgnored runtime now h

theorem State.turn_of_beginFlush (settings : Settings) (s : State) :
    Turn settings s .beginFlush s.beginFlush [] := by
  unfold State.beginFlush
  split
  · exact .flushSkipped ‹_›
  · exact .flushQueued ‹_›

theorem State.turn_of_beginShutdown (settings : Settings) (s : State) :
    Turn settings s .beginShutdown s.beginShutdown.1 s.beginShutdown.2 := by
  unfold State.beginShutdown
  split
  · exact .shutdownBegun ‹_›
  · exact .shutdownJoined (Bool.eq_false_iff.mpr ‹_›)

theorem State.turn_of_tick {settings : Settings} {s s' : State} {now : Nat}
    (h : s.tick settings now = some s') : Turn settings s (.tick now) s' [] := by
  unfold State.tick at h
  split at h
  case h_1 due htimer =>
    split at h
    case isTrue hguard =>
      cases h
      exact .tick due now htimer hguard.1 hguard.2
    case isFalse => cases h
  case h_2 => cases h

theorem State.turn_of_leaveTimer {settings : Settings} {s s' : State}
    (h : s.leaveTimer = some s') : Turn settings s .leaveTimer s' [] := by
  unfold State.leaveTimer at h
  split at h
  case h_1 due htimer =>
    split at h
    case isTrue => cases h
    case isFalse hphase =>
      cases h
      exact .leaveTimer due htimer hphase
  case h_2 => cases h

theorem State.turn_of_beginCycle {settings : Settings} {s s' : State} {now : Nat}
    {effects : List Effect} (h : s.beginCycle settings now = some (s', effects)) :
    Turn settings s (.beginCycle now) s' effects := by
  unfold State.beginCycle at h
  split at h
  case h_1 claimant rest hline hcycle =>
    simp only at h
    split at h
    case isTrue hnone =>
      cases h
      exact .emptyCycle claimant rest now hline hcycle (List.isEmpty_iff.mp hnone)
    case isFalse hsome =>
      cases h
      exact .beginCycle claimant rest now hline hcycle
        (fun hnil => hsome (List.isEmpty_iff.mpr hnil))
  case h_2 => cases h

theorem State.turn_of_endCycle {settings : Settings} {s s' : State} {now : Nat}
    {effects : List Effect} (h : s.endCycle settings now = some (s', effects)) :
    Turn settings s (.endCycle now) s' effects := by
  unfold State.endCycle at h
  split at h
  case h_1 claimant rest cycle hline hcycle =>
    split at h
    case isTrue hfinished =>
      cases h
      exact .endCycle claimant rest cycle now hline hcycle hfinished
    case isFalse => cases h
  case h_2 => cases h

theorem State.turn_of_timerGone {settings : Settings} {s s' : State} {call : Nat}
    {effects : List Effect} (h : s.timerGone call = some (s', effects)) :
    Turn settings s (.timerGone call) s' effects := by
  unfold State.timerGone at h
  split at h
  case h_1 hcall =>
    split at h
    case isTrue htimer =>
      cases h
      exact .timerGone call hcall htimer
    case isFalse => cases h
  case h_2 => cases h

theorem State.turn_of_transportClosed {settings : Settings} {s s' : State}
    {call : Nat} {failure : Option TransportFailure} {effects : List Effect}
    (h : s.transportClosed settings call failure = some (s', effects)) :
    Turn settings s (.transportClosed call failure) s' effects := by
  unfold State.transportClosed at h
  split at h
  case h_1 stats hcall =>
    cases h
    exact .transportClosed call stats failure hcall
  case h_2 => cases h

theorem State.turn_of_stopSeen {settings : Settings} {s s' : State} {call : Nat}
    (h : s.stopSeen call = some s') : Turn settings s (.stopSeen call) s' [] := by
  unfold State.stopSeen at h
  split at h
  case h_1 hcall =>
    split at h
    case isTrue hphase =>
      cases h
      exact .stopSeen call hcall hphase
    case isFalse => cases h
  case h_2 => cases h

theorem turn_of_step {settings : Settings} {s s' : State} {action : Action}
    {effects : List Effect} (hordinary : action.ordinary = true)
    (hstep : step settings s action = some (s', effects)) :
    Turn settings s action s' effects := by
  cases action with
  | enqueue event =>
      cases hstep
      exact .enqueue event
  | start runtime now =>
      have hturn := State.turn_of_start settings s runtime now
      rwa [Option.some.inj hstep] at hturn
  | beginFlush =>
      cases hstep
      exact State.turn_of_beginFlush settings s
  | beginShutdown =>
      have hturn := State.turn_of_beginShutdown settings s
      rwa [Option.some.inj hstep] at hturn
  | tick now =>
      obtain ⟨later, hlater, heq⟩ := Option.map_eq_some_iff.mp hstep
      cases heq
      exact State.turn_of_tick hlater
  | leaveTimer =>
      obtain ⟨later, hlater, heq⟩ := Option.map_eq_some_iff.mp hstep
      cases heq
      exact State.turn_of_leaveTimer hlater
  | beginCycle now => exact State.turn_of_beginCycle hstep
  | resume place =>
      obtain ⟨cycle, d, d', hcycle, hd, hresume, rfl⟩ := State.advance_eq_some hstep
      exact .resume cycle place d d' effects hcycle hd hresume
  | receive place answer draw =>
      obtain ⟨cycle, d, d', hcycle, hd, hreceive, rfl⟩ := State.advance_eq_some hstep
      exact .receive cycle place answer draw d d' effects hcycle hd hreceive
  | endCycle now => exact State.turn_of_endCycle hstep
  | timerGone call => exact State.turn_of_timerGone hstep
  | transportClosed call failure => exact State.turn_of_transportClosed hstep
  | stopSeen call =>
      obtain ⟨later, hlater, heq⟩ := Option.map_eq_some_iff.mp hstep
      cases heq
      exact State.turn_of_stopSeen hlater
  | abandon call => cases hordinary
  | takeOut count => cases hordinary
  | discard => cases hordinary

end Courier.Scheduler
