import Courier.Proofs.Scheduler.History
/-!
What a step does to the buffer, to the cycle and to the record.

Seen from there most turns are alike: they change the phase, the timer, the calls or the end of the
line.  `Move` keeps the others apart, so that statements about events and cycles have to be checked
for eight kinds of steps only.
-/
namespace Courier.Scheduler

open Effect (Quiet)

def Claimant.isShutdown : Claimant → Bool
  | .shutdown _ => true
  | .timer | .flush _ => false

namespace State

theorem quiet_enqueue (s : State) (event : Event) : Quiet (s.enqueue event).2 := by
  unfold State.enqueue
  obtain ⟨admission, buffer⟩ := s.buffer.enqueue event
  cases admission with
  | refused => exact Effect.quiet_nil
  | stored => simp [Effect.callsTransport]
  | evictedOldest => simp [Effect.callsTransport]

section FinishCycle

variable (s : State) (claimant : Claimant) (rest : List Claimant) (stats : CycleStats)

@[simp] theorem line_finishCycle : (s.finishCycle claimant rest stats).1.line = rest := by
  cases claimant <;> rfl

@[simp] theorem cycle_finishCycle : (s.finishCycle claimant rest stats).1.cycle = none := by
  cases claimant <;> rfl

@[simp] theorem buffer_finishCycle :
    (s.finishCycle claimant rest stats).1.buffer = s.buffer := by
  cases claimant <;> rfl

@[simp] theorem phase_finishCycle :
    (s.finishCycle claimant rest stats).1.phase = s.phase := by
  cases claimant <;> rfl

@[simp] theorem sends_finishCycle :
    Effect.sends (s.finishCycle claimant rest stats).2 = [] := by
  cases claimant <;> rfl

/-- The transport is told to shut down at the end of the final cycle, and only then. -/
@[simp] theorem closings_finishCycle :
    Effect.closings (s.finishCycle claimant rest stats).2 =
      if claimant.isShutdown then 1 else 0 := by
  cases claimant <;> rfl

end FinishCycle

end State

/-- A batch whose sending panicked is counted and logged. -/
theorem forall_mem_panicEffects {P : Effect → Prop} (hlogged : ∀ record, P (.logged record))
    (hdropped : ∀ count, P (.counted (.dropped "panicked" count))) (transport : String)
    (deliveries : List Delivery) : ∀ effect ∈ panicEffects transport deliveries, P effect := by
  intro effect heffect
  obtain ⟨d, _, hmem⟩ := List.mem_flatMap.mp heffect
  split at hmem
  · simp only [List.mem_cons, List.not_mem_nil, or_false] at hmem
    rcases hmem with rfl | rfl
    · exact hdropped _
    · exact hlogged _
  · cases hmem

theorem quiet_panicEffects (transport : String) (deliveries : List Delivery) :
    Quiet (panicEffects transport deliveries) := by
  apply forall_mem_panicEffects
  case hlogged => exact fun _ => rfl
  case hdropped => exact fun _ => rfl

theorem quiet_timerGoneEffects (timer : Timer) : Quiet (timerGoneEffects timer) := by
  unfold timerGoneEffects
  split <;> simp [Effect.callsTransport]

theorem quiet_stoppedEffects (transport : String) (failure : Option TransportFailure)
    (stats : CycleStats) (dropped : Nat) :
    Quiet (stoppedEffects transport failure stats dropped) := by
  cases failure <;> simp [stoppedEffects, Effect.callsTransport]

/-- The kinds of steps, by what they do to the buffer, to the cycle and to the record. -/
inductive Move (settings : Settings) (m m' : Moment) : Prop
  | aside (effects : List Effect) (more : List Claimant) (hquiet : Quiet effects)
      (hbuffer : m'.state.buffer = m.state.buffer)
      (hcycle : m'.state.cycle = m.state.cycle)
      (hline : m'.state.line = m.state.line ++ more)
      (hhistory : m'.history =
        { m.history with trace := m.history.trace ++ effects })
  | enqueue (event : Event) (effects : List Effect) (hquiet : Quiet effects)
      (hstate : m'.state = { m.state with buffer := (m.state.buffer.enqueue event).2 })
      (hhistory : m'.history =
        { m.history.takeIn (m.state.buffer.enqueue event).1 event with
          trace := m.history.trace ++ effects })
  | close (effects : List Effect) (hquiet : Quiet effects)
      (hbuffer : m'.state.buffer = m.state.buffer.close)
      (hcycle : m'.state.cycle = m.state.cycle)
      (hline : m'.state.line = m.state.line)
      (hhistory : m'.history =
        { m.history with
          numbered := m.history.numbered.close
          trace := m.history.trace ++ effects })
  | beginCycle (claimant : Claimant) (rest : List Claimant) (now : Nat)
      (effects : List Effect) (hquiet : Quiet effects)
      (hline : m.state.line = claimant :: rest) (hcycle : m.state.cycle = none)
      (hsome : (m.state.buffer.batches settings.batchSize).1 ≠ [])
      (hstate : m'.state =
        { m.state with
          buffer := (m.state.buffer.batches settings.batchSize).2
          cycle := some (.ofBatches now (m.state.buffer.batches settings.batchSize).1) })
      (hhistory : m'.history =
        { m.history.beginRound settings.batchSize claimant none with
          trace := m.history.trace ++ effects })
  | emptyCycle (claimant : Claimant) (rest : List Claimant) (effects : List Effect)
      (hsends : Effect.sends effects = [])
      (hclosings : Effect.closings effects = if claimant.isShutdown then 1 else 0)
      (hline : m.state.line = claimant :: rest) (hcycle : m.state.cycle = none)
      (hnone : (m.state.buffer.batches settings.batchSize).1 = [])
      (hstate : m'.state =
        ({ m.state with buffer := (m.state.buffer.batches settings.batchSize).2 }.finishCycle
          claimant rest {}).1)
      (hhistory : m'.history =
        { m.history.beginRound settings.batchSize claimant (some {}) with
          trace := m.history.trace ++ effects })
  | resume (cycle : Cycle) (place : Nat) (d d' : Delivery)
      (hcycle : m.state.cycle = some cycle) (hd : cycle.deliveries[place]? = some d)
      (hresume : d.resume = some (d', Delivery.send d.batch))
      (hstate : m'.state =
        { m.state with
          cycle := some { cycle with deliveries := cycle.deliveries.set place d' } })
      (hhistory : m'.history =
        { (m.history.send place (Delivery.send d.batch)).advance place (some d')
            (Delivery.send d.batch) with
          trace := m.history.trace ++ Delivery.send d.batch })
  | receive (cycle : Cycle) (place : Nat) (answer : Answer) (draw : Draw)
      (d d' : Delivery) (effects : List Effect)
      (hcycle : m.state.cycle = some cycle) (hd : cycle.deliveries[place]? = some d)
      (hreceive : d.receive settings.channel draw answer = some (d', effects))
      (hstate : m'.state =
        { m.state with
          cycle := some { cycle with deliveries := cycle.deliveries.set place d' } })
      (hhistory : m'.history =
        { m.history.advance place (some d') effects with
          trace := m.history.trace ++ effects })
  | endCycle (claimant : Claimant) (rest : List Claimant) (cycle : Cycle)
      (effects : List Effect) (hsends : Effect.sends effects = [])
      (hclosings : Effect.closings effects = if claimant.isShutdown then 1 else 0)
      (hline : m.state.line = claimant :: rest) (hcycle : m.state.cycle = some cycle)
      (hfinished : cycle.finished = true)
      (hstate : m'.state = (m.state.finishCycle claimant rest cycle.stats).1)
      (hhistory : m'.history =
        { m.history.endRound (some cycle.stats) with
          trace := m.history.trace ++ effects })

/-- One moment comes after another one by one of the turns, and the history says so. -/
theorem Moment.Follows.turn {settings : Settings} {m m' : Moment}
    (h : m.Follows settings m') :
    ∃ action effects, Turn settings m.state action m'.state effects ∧
      m'.history = m.history.record settings m.state m'.state action effects := by
  obtain ⟨action, hordinary, hnext⟩ := h
  obtain ⟨⟨state, effects⟩, hstep, rfl⟩ := Option.map_eq_some_iff.mp hnext
  exact ⟨action, effects, turn_of_step hordinary hstep, rfl⟩

theorem Moment.turn_of_next? {settings : Settings} {m m' : Moment} {action : Action}
    (hordinary : action.ordinary = true) (hnext : m.next? settings action = some m') :
    ∃ effects, Turn settings m.state action m'.state effects := by
  obtain ⟨⟨s', effects⟩, hstep, rfl⟩ := Option.map_eq_some_iff.mp hnext
  exact ⟨effects, turn_of_step hordinary hstep⟩

theorem State.delivery?_set {s : State} {cycle : Cycle} {place : Nat} {d d' : Delivery}
    (hd : cycle.deliveries[place]? = some d) :
    { s with
      cycle := some { cycle with deliveries := cycle.deliveries.set place d' } }.delivery?
        place = some d' := by
  have hplace : place < cycle.deliveries.length := (List.getElem?_eq_some_iff.mp hd).1
  exact List.getElem?_set_self hplace

theorem Moment.Follows.move {settings : Settings} {m m' : Moment}
    (h : m.Follows settings m') : Move settings m m' := by
  obtain ⟨action, effects, hturn, hhistory⟩ := h.turn
  obtain ⟨s, h₀⟩ := m
  obtain ⟨s', h'⟩ := m'
  simp only at hturn hhistory
  subst hhistory
  cases hturn with
  | enqueue event => exact .enqueue event _ (s.quiet_enqueue event) rfl rfl
  | start now hphase =>
      exact .aside _ [] (by simp [Effect.callsTransport]) rfl rfl (by simp) rfl
  | startIgnored runtime now hignored =>
      exact .aside [] [] Effect.quiet_nil rfl rfl (by simp) rfl
  | flushQueued hphase => exact .aside [] [.flush _] Effect.quiet_nil rfl rfl rfl rfl
  | flushSkipped hphase => exact .aside [] [] Effect.quiet_nil rfl rfl (by simp) rfl
  | shutdownBegun hphase =>
      refine .close [.logged (drainingRecord s.buffer.size)]
        (by simp [Effect.callsTransport]) rfl rfl rfl ?_
      simp [History.record, History.book, hphase]
  | shutdownJoined hphase =>
      refine .aside [] [] Effect.quiet_nil rfl rfl (by simp) ?_
      simp [History.record, History.book, hphase]
  | tick due now htimer hphase hdue =>
      exact .aside [] [.timer] Effect.quiet_nil rfl rfl rfl rfl
  | leaveTimer due htimer hphase =>
      exact .aside [] [] Effect.quiet_nil rfl rfl (by simp) rfl
  | beginCycle claimant rest now hline hcycle hsome =>
      refine .beginCycle claimant rest now
        [.counted (.bufferSize (s.buffer.batches settings.batchSize).2.size)]
        (by simp [Effect.callsTransport]) hline hcycle hsome rfl ?_
      simp [History.record, History.book, hline]
  | emptyCycle claimant rest now hline hcycle hnone =>
      refine .emptyCycle claimant rest
        (.counted (.bufferSize (s.buffer.batches settings.batchSize).2.size)
          :: ({ s with buffer := (s.buffer.batches settings.batchSize).2 }.finishCycle
            claimant rest {}).2) ?_ ?_ hline hcycle hnone rfl ?_
      · exact State.sends_finishCycle _ claimant rest {}
      · exact State.closings_finishCycle _ claimant rest {}
      · simp [History.record, History.book, hline]
  | resume cycle place d d' effects hcycle hd hresume =>
      obtain ⟨rfl, _⟩ := Delivery.resume_eq_some hresume
      refine .resume cycle place d d' hcycle hd hresume rfl ?_
      rw [History.record, History.book, State.delivery?_set hd]
  | receive cycle place answer draw d d' effects hcycle hd hreceive =>
      refine .receive cycle place answer draw d d' effects hcycle hd hreceive rfl ?_
      rw [History.record, History.book, State.delivery?_set hd]
  | endCycle claimant rest cycle now hline hcycle hfinished =>
      have hquiet := quiet_panicEffects settings.channel.transport cycle.deliveries
      refine .endCycle claimant rest cycle
        (panicEffects settings.channel.transport cycle.deliveries
          ++ .counted (.flush claimant.trigger.name
              (Duration.ofNanos (now - cycle.started)).asSeconds)
          :: (s.finishCycle claimant rest cycle.stats).2) ?_ ?_ hline hcycle hfinished rfl ?_
      · rw [Effect.sends_append, hquiet.sends_eq]
        exact State.sends_finishCycle s claimant rest cycle.stats
      · rw [Effect.closings_append, hquiet.closings_eq, Nat.zero_add]
        exact State.closings_finishCycle s claimant rest cycle.stats
      · simp [History.record, History.book, hcycle]
  | timerGone call hcall htimer =>
      exact .aside _ [.shutdown call] (quiet_timerGoneEffects s.timer) rfl rfl rfl rfl
  | transportClosed call stats failure hcall =>
      exact .aside _ [] (quiet_stoppedEffects _ failure stats _) rfl rfl
        (by simp [State.setCall]) rfl
  | stopSeen call hcall hphase =>
      exact .aside [] [] Effect.quiet_nil rfl rfl (by simp [State.setCall]) rfl

/-- A step that begins a cycle takes everything from the buffer, and no other step touches what was
taken. -/
theorem Move.plans_cases {settings : Settings} {m m' : Moment}
    (hsize : settings.batchSize ≠ 0) (hmove : Move settings m m') :
    m'.history.plans = m.history.plans ∨
      m'.history.numbered.contents = [] ∧
        ∃ claimant, m'.history.plans =
          m.history.plans ++ [(claimant, (m.history.numbered.batches settings.batchSize).1)] := by
  cases hmove with
  | aside effects more hquiet hbuffer hcycle hline hhistory =>
      rw [hhistory]
      exact Or.inl rfl
  | enqueue event effects hquiet hstate hhistory =>
      rw [hhistory]
      exact Or.inl (congrArg (List.map Round.plan) (History.rounds_takeIn ..))
  | close effects hquiet hbuffer hcycle hline hhistory =>
      rw [hhistory]
      exact Or.inl rfl
  | beginCycle claimant rest now effects hquiet hline hcycle hsome hstate hhistory =>
      rw [hhistory]
      exact Or.inr ⟨congrArg Buffer.contents (Buffer.batches_snd hsize _), _,
        History.plans_beginRound ..⟩
  | emptyCycle claimant rest effects hsends hclosings hline hcycle hnone hstate
      hhistory =>
      rw [hhistory]
      exact Or.inr ⟨congrArg Buffer.contents (Buffer.batches_snd hsize _), _,
        History.plans_beginRound ..⟩
  | resume cycle place d d' hcycle hd hresume hstate hhistory =>
      rw [hhistory]
      exact Or.inl (History.plans_advance ..)
  | receive cycle place answer draw d d' effects hcycle hd hreceive hstate hhistory =>
      rw [hhistory]
      exact Or.inl (History.plans_advance ..)
  | endCycle claimant rest cycle effects hsends hclosings hline hcycle hfinished hstate
      hhistory =>
      rw [hhistory]
      exact Or.inl (History.plans_endRound ..)

/-- Only a delivery of the present cycle calls the transport to send. -/
theorem Move.sends_cases {settings : Settings} {m m' : Moment} (hmove : Move settings m m') :
    (m'.history.sendings = m.history.sendings ∧
      Effect.sends m'.history.trace = Effect.sends m.history.trace) ∨
    ∃ cycle place d, m.state.cycle = some cycle ∧ cycle.deliveries[place]? = some d ∧
      m'.history.sendings =
        m.history.sendings ++ [⟨m.history.rounds.length - 1, place, d.batch⟩] ∧
      Effect.sends m'.history.trace = Effect.sends m.history.trace ++ [d.batch] := by
  have hnone : ∀ {effects : List Effect}, Effect.sends effects = [] →
      Effect.sends (m.history.trace ++ effects) = Effect.sends m.history.trace := by
    intro effects hsends
    rw [Effect.sends_append, hsends, List.append_nil]
  cases hmove with
  | aside effects more hquiet hbuffer hcycle hline hhistory =>
      rw [hhistory]
      exact Or.inl ⟨rfl, hnone hquiet.sends_eq⟩
  | enqueue event effects hquiet hstate hhistory =>
      rw [hhistory]
      exact Or.inl ⟨History.sendings_takeIn .., hnone hquiet.sends_eq⟩
  | close effects hquiet hbuffer hcycle hline hhistory =>
      rw [hhistory]
      exact Or.inl ⟨rfl, hnone hquiet.sends_eq⟩
  | beginCycle claimant rest now effects hquiet hline hcycle hsome hstate hhistory =>
      rw [hhistory]
      exact Or.inl ⟨rfl, hnone hquiet.sends_eq⟩
  | emptyCycle claimant rest effects hsends hclosings hline hcycle hnone' hstate
      hhistory =>
      rw [hhistory]
      exact Or.inl ⟨rfl, hnone hsends⟩
  | resume cycle place d d' hcycle hd hresume hstate hhistory =>
      rw [hhistory]
      exact Or.inr ⟨cycle, place, d, hcycle, hd, rfl, Effect.sends_append ..⟩
  | receive cycle place answer draw d d' effects hcycle hd hreceive hstate hhistory =>
      rw [hhistory]
      exact Or.inl ⟨rfl, hnone (Delivery.receive_eq_some hreceive).2.1.sends_eq⟩
  | endCycle claimant rest cycle effects hsends hclosings hline hcycle hfinished hstate
      hhistory =>
      rw [hhistory]
      exact Or.inl ⟨rfl, hnone hsends⟩

end Courier.Scheduler
