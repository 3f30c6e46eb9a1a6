import Courier.Proofs.Scheduler.Barrier
import Courier.Proofs.Scheduler.Timer
/-!
The life of a scheduler.

Its phase moves forward only, from idle through running or at once to draining, and then to stopped.
The buffer, the timer and the line agree with the phase at every moment: one timer at most is ever put
in place, it does not tick after the shutdown has begun and is gone before the final cycle, and a
scheduler that is stopped has nothing left.
-/
namespace Courier.Scheduler

/-- The ways from one phase to the next. -/
inductive Phase.Next : Phase → Phase → Prop
  | start : Next .idle .running
  | drain {phase : Phase} (haccepts : phase.accepts = true) : Next phase .draining
  | stop : Next .draining .stopped

/-- How far a scheduler is in its life. -/
def Phase.age : Phase → Nat
  | .idle => 0
  | .running => 1
  | .draining => 2
  | .stopped => 3

theorem Phase.ne_running_of_shut {phase : Phase} (hshut : phase.accepts = false) :
    phase ≠ .running := by
  rintro rfl
  cases hshut

theorem Phase.Next.age_lt {phase phase' : Phase} (h : phase.Next phase') :
    phase.age < phase'.age := by
  cases h with
  | start => decide
  | drain haccepts => cases phase <;> first | decide | cases haccepts
  | stop => decide

theorem Phase.Next.ne_idle {phase phase' : Phase} (h : phase.Next phase') : phase' ≠ .idle := by
  cases h <;> exact Phase.noConfusion

theorem Phase.Next.eq_idle {phase : Phase} (h : phase.Next .running) : phase = .idle := by
  cases h
  rfl

theorem Phase.eq_of_age_eq {phase phase' : Phase} (h : phase.age = phase'.age) :
    phase = phase' := by
  cases phase <;> cases phase' <;> first | rfl | cases h

/-- A new timer is put in place: the one before could not become this one by itself. -/
def Timer.replaced : Timer → Timer → Bool
  | .armed _, .busy _ | .armed _, .ended => false
  | .busy due, .armed due' => due != due'
  | before, after => before != after

theorem Timer.replaced_self (timer : Timer) : timer.replaced timer = false := by
  cases timer <;> simp [replaced]

/-- How often a timer is put in place by a list of actions. -/
def Moment.spawns (settings : Settings) (m : Moment) : List Action → Nat
  | [] => 0
  | action :: rest =>
    match m.next? settings action with
    | none => 0
    | some m' =>
      (if m.state.timer.replaced m'.state.timer then 1 else 0) + m'.spawns settings rest

namespace Turn

variable {settings : Settings} {s s' : State} {action : Action} {effects : List Effect}

/-- A scheduler stops when the transport of the shutdown is done. -/
theorem closing_of_stopped (hturn : Turn settings s action s' effects)
    (hstopped : s'.phase = .stopped) :
    s.phase = .stopped ∨
      ∃ (call : Nat) (stats : CycleStats), s.calls[call]? = some (.closing stats) := by
  cases hturn with
  | start now hphase => cases hstopped
  | shutdownBegun hphase => cases hstopped
  | emptyCycle claimant rest now hline hcycle hnone =>
      rw [State.phase_finishCycle] at hstopped
      exact Or.inl hstopped
  | endCycle claimant rest cycle now hline hcycle hfinished =>
      rw [State.phase_finishCycle] at hstopped
      exact Or.inl hstopped
  | transportClosed call stats failure hcall => exact Or.inr ⟨call, stats, hcall⟩
  | _ => exact Or.inl hstopped

/-- A scheduler comes to run by its start, which puts a timer in place. -/
theorem started_of_running (hturn : Turn settings s action s' effects)
    (hrunning : s'.phase = .running) :
    s.phase = .running ∨
      ∃ now, action = .start true now ∧ s'.timer = Timer.start settings.period now := by
  cases hturn with
  | start now hphase => exact Or.inr ⟨now, rfl, rfl⟩
  | shutdownBegun hphase => cases hrunning
  | emptyCycle claimant rest now hline hcycle hnone =>
      rw [State.phase_finishCycle] at hrunning
      exact Or.inl hrunning
  | endCycle claimant rest cycle now hline hcycle hfinished =>
      rw [State.phase_finishCycle] at hrunning
      exact Or.inl hrunning
  | transportClosed call stats failure hcall => cases hrunning
  | _ => exact Or.inl hrunning

end Turn

/-- A timer is put in place by the step from idle to running, and by no other. -/
theorem Timed.replaced_iff {settings : Settings} {m m' : Moment} (ht : Timed m)
    (h : m.Follows settings m') :
    m.state.timer.replaced m'.state.timer = true ↔
      m.state.phase = .idle ∧ m'.state.phase = .running := by
  obtain ⟨action, effects, hturn, _⟩ := h.turn
  constructor
  · intro hreplaced
    cases hturn.timerStep with
    | still _ htimer hcount hlined => simp [htimer, Timer.replaced_self] at hreplaced
    | started now hphase hphase' htimer hline => exact ⟨hphase, hphase'⟩
    | ticked due now hphase htimer htimer' hline =>
        simp [htimer, htimer', Timer.replaced] at hreplaced
    | rested _ rest hline hline' htimer =>
        obtain ⟨due, hbusy, _⟩ := ht.busy_of_line hline
        simp [htimer, hbusy, Timer.rearm, Timer.replaced] at hreplaced
    | left due hphase htimer htimer' hline =>
        simp [htimer, htimer', Timer.replaced] at hreplaced
  · rintro ⟨hidle, hrunning⟩
    rcases hturn.started_of_running hrunning with hphase | ⟨now, _, htimer⟩
    · rw [hidle] at hphase
      cases hphase
    · rw [ht.absent hidle, htimer, Timer.start]
      split <;> rfl

namespace Sound

variable {settings : Settings} {m m' : Moment}

/-- Every step keeps the phase or leads to the next one. -/
theorem next_phase (hm : Sound settings m) (h : m.Follows settings m') :
    m'.state.phase = m.state.phase ∨ m.state.phase.Next m'.state.phase := by
  rcases (h.callStep hm.paced).phase_cases with heq | ⟨hidle, hrunning⟩ | ⟨haccepts, hdraining⟩ |
    hstopped
  · exact Or.inl heq
  · rw [hidle, hrunning]
    exact Or.inr .start
  · rw [hdraining]
    exact Or.inr (.drain haccepts)
  · obtain ⟨action, effects, hturn, _⟩ := h.turn
    rcases hturn.closing_of_stopped hstopped with heq | ⟨call, stats, hcall⟩
    · exact Or.inl (hstopped.trans heq.symm)
    · have hshut := hm.led.not_accepts_of_closings (hm.led.closings_of_closing hcall)
      rw [hstopped]
      cases hphase : m.state.phase with
      | idle | running => rw [hphase] at hshut; cases hshut
      | draining => exact Or.inr .stop
      | stopped => exact Or.inl rfl

/-- No run leads back in life. -/
theorem age_le_of_run (hsize : settings.batchSize ≠ 0) (hm : Sound settings m)
    (hrun : Run settings m m') : m.state.phase.age ≤ m'.state.phase.age := by
  induction hrun with
  | refl => exact Nat.le_refl _
  | tail hrun hstep ih =>
      rcases (hm.run hsize hrun).1.next_phase hstep with heq | hnext
      · rw [heq]
        exact ih
      · exact Nat.le_trans ih (Nat.le_of_lt hnext.age_lt)

/-- A scheduler that is stopped has nothing left. -/
theorem contents_of_stopped (hm : Sound settings m) (hstopped : m.state.phase = .stopped) :
    m.state.buffer.contents = [] := by
  have hempty := (hm.resting_of_closings (hm.closings_of_stopped hstopped)).2
  rw [← hm.tallied.buffered, Buffer.contents_map, hempty]
  rfl

/-- Once a shutdown asks for the final cycle, no cycle of the timer is under way. -/
theorem over_of_timer (hm : Sound settings m) (ht : Timed m) {call : Nat}
    (hclaim : .shutdown call ∈ m.claims) {r : Round} (hr : r ∈ m.history.rounds)
    (htimer : r.claimant = .timer) : r.Over settings.channel := by
  cases hm.paced with
  | resting hcycle hover => exact hover r hr
  | underway past last rest cycle hcycle hline hrounds hpast hunderway =>
      rw [hrounds, List.mem_append, List.mem_singleton] at hr
      rcases hr with hr | rfl
      · exact hpast r hr
      · rw [htimer] at hline
        obtain ⟨due, hbusy, _⟩ := ht.busy_of_line hline
        simpa [hbusy, Timer.isGone] using ht.gone call hclaim

/-- The cycles of the timer come before the final one. -/
theorem timer_lt_final (hm : Sound settings m) (ht : Timed m) {i j : Nat} {r r' : Round}
    (hr : m.history.rounds[i]? = some r) (hfinal : r.claimant.isShutdown = true)
    (hr' : m.history.rounds[j]? = some r') (htimer : r'.claimant = .timer) : j < i := by
  have hlast : (m.history.rounds.map Round.claimant).Pairwise
      fun x y => x.isShutdown = true → y ≠ .timer :=
    ht.last.sublist hm.paced.claimants_initial.sublist
  rcases Nat.lt_trichotomy j i with hlt | rfl | hgt
  · exact hlt
  · rw [hr, Option.some.injEq] at hr'
    subst hr'
    rw [htimer] at hfinal
    cases hfinal
  · exact absurd htimer (related_of_lt (List.pairwise_map.mp hlast) hr hr' hgt hfinal)

end Sound

theorem Moment.next?_start_of_ignored (settings : Settings) (m : Moment) {runtime : Bool}
    (hignored : ¬(runtime = true ∧ m.state.phase = .idle)) (now : Nat) :
    m.next? settings (.start runtime now) = some m := by
  simp [Moment.next?, Scheduler.step, State.start, hignored, History.record, History.book]

/-- A tick is possible only while the scheduler runs. -/
theorem Moment.next?_tick_of_shut (settings : Settings) {m : Moment}
    (hshut : m.state.phase.accepts = false) (now : Nat) :
    m.next? settings (.tick now) = none := by
  have hphase := Phase.ne_running_of_shut hshut
  cases htimer : m.state.timer <;>
    simp [Moment.next?, Scheduler.step, State.tick, htimer, hphase]

theorem Moment.spawns_cons {settings : Settings} {m m' : Moment} {action : Action}
    (hnext : m.next? settings action = some m') (rest : List Action) :
    m.spawns settings (action :: rest) =
      (if m.state.timer.replaced m'.state.timer then 1 else 0) + m'.spawns settings rest := by
  rw [spawns, hnext]

/-- However a scheduler goes on, at most one timer is put in place. -/
theorem Reached.spawns_le {settings : Settings} {m : Moment} (h : Reached settings m)
    {actions : List Action} (hordinary : actions.all Action.ordinary = true) :
    m.spawns settings actions ≤ if m.state.phase = .idle then 1 else 0 := by
  induction actions generalizing m with
  | nil => exact Nat.zero_le _
  | cons action rest ih =>
      rw [List.all_cons, Bool.and_eq_true] at hordinary
      cases hnext : m.next? settings action with
      | none => simp [Moment.spawns, hnext]
      | some m' =>
          have hfollows : m.Follows settings m' := ⟨action, hordinary.1, hnext⟩
          have hlater := ih (h.run (.single hfollows)) hordinary.2
          rw [Moment.spawns_cons hnext]
          by_cases hreplaced : m.state.timer.replaced m'.state.timer = true
          · obtain ⟨hidle, hrunning⟩ := (h.timed.replaced_iff hfollows).mp hreplaced
            rw [hrunning, if_neg (by decide)] at hlater
            rw [if_pos hreplaced, if_pos hidle]
            omega
          · have hidle : m'.state.phase = .idle → m.state.phase = .idle := by
              intro hidle'
              rcases h.sound.2.next_phase hfollows with heq | hforward
              · rw [← heq, hidle']
              · have hage := hforward.age_lt
                rw [hidle'] at hage
                exact absurd hage (Nat.not_lt_zero _)
            rw [if_neg hreplaced, Nat.zero_add]
            refine Nat.le_trans hlater ?_
            by_cases hidle' : m'.state.phase = .idle
            · simp only [if_pos hidle', if_pos (hidle hidle'), Nat.le_refl]
            · rw [if_neg hidle']
              exact Nat.zero_le _

/-- What holds over the life of a scheduler. -/
structure Lifecycle (settings : Settings) (m : Moment) : Prop where
  /-- A step keeps the phase or leads to the next one. -/
  forward : ∀ m', m.Follows settings m' →
    m'.state.phase = m.state.phase ∨ m.state.phase.Next m'.state.phase
  /-- A phase that was left does not come back. -/
  forgone : ∀ m₁ m₂, Run settings m m₁ → Run settings m₁ m₂ →
    m₁.state.phase ≠ m.state.phase → m₂.state.phase ≠ m.state.phase
  closed : m.state.buffer.closed = true ↔
    m.state.phase = .draining ∨ m.state.phase = .stopped
  /-- A timer is put in place by the step from idle to running, and by no other. -/
  spawned : ∀ m', m.Follows settings m' →
    (m.state.timer.replaced m'.state.timer = true ↔
      m.state.phase = .idle ∧ m'.state.phase = .running)
  once : ∀ actions : List Action, actions.all Action.ordinary = true →
    m.spawns settings actions ≤ if m.state.phase = .idle then 1 else 0
  /-- A start of a scheduler that is not idle, or with nothing to run it on, changes nothing. -/
  ignored : ∀ (runtime : Bool) (now : Nat), ¬(runtime = true ∧ m.state.phase = .idle) →
    m.next? settings (.start runtime now) = some m
  /-- Once the scheduler has left the running phase there are no more ticks. -/
  unticked : m.state.phase.accepts = false → ∀ m', Run settings m m' → ∀ now,
    m'.next? settings (.tick now) = none
  /-- A timer that is due by then ends instead. -/
  leaving : ∀ due, m.state.timer = .armed due → m.state.phase.accepts = false →
    ∃ m', m.next? settings .leaveTimer = some m' ∧ m'.state.timer = .ended
  /-- When the final cycle is asked for, the timer is gone with all its cycles. -/
  gone : ∀ call, .shutdown call ∈ m.claims →
    m.state.timer.isGone = true ∧ .timer ∉ m.state.line ∧
      ∀ r ∈ m.history.rounds, r.claimant = .timer → r.Over settings.channel
  /-- No cycle of the timer comes after the final one. -/
  before : ∀ (i j : Nat) (r r' : Round), m.history.rounds[i]? = some r →
    r.claimant.isShutdown = true → m.history.rounds[j]? = some r' → r'.claimant = .timer → j < i
  /-- Once the scheduler is stopped, it stays so and its buffer is empty. -/
  drained : m.state.phase = .stopped → ∀ m', Run settings m m' →
    m'.state.phase = .stopped ∧ m'.state.buffer.contents = []

/-- A scheduler keeps to its lifecycle at every moment of every run. -/
theorem lifecycle_kept {settings : Settings} {m : Moment} (h : Reached settings m) :
    Lifecycle settings m := by
  obtain ⟨hsize, hm⟩ := h.sound
  have ht := h.timed
  constructor
  case forward => exact fun m' hfollows => hm.next_phase hfollows
  case forgone =>
    intro m₁ m₂ hrun₁ hrun₂ hleft hback
    have hage₁ := hm.age_le_of_run hsize hrun₁
    have hage₂ := (hm.run hsize hrun₁).1.age_le_of_run hsize hrun₂
    rw [hback] at hage₂
    exact hleft (Phase.eq_of_age_eq (Nat.le_antisymm hage₂ hage₁))
  case closed =>
    rw [hm.closed]
    cases m.state.phase <;> decide
  case spawned => exact fun m' hfollows => ht.replaced_iff hfollows
  case once => exact fun actions hordinary => h.spawns_le hordinary
  case ignored => exact fun runtime now hignored => m.next?_start_of_ignored settings hignored now
  case unticked =>
    intro hshut m' hrun now
    exact Moment.next?_tick_of_shut settings (hm.shut_run hsize hshut hrun).shut now
  case leaving =>
    intro due htimer hshut
    exact Moment.exists_leaveTimer settings htimer (Phase.ne_running_of_shut hshut)
  case gone =>
    intro call hclaim
    have hgone := ht.gone call hclaim
    refine ⟨hgone, fun hmem => ?_, fun r hr htimer => hm.over_of_timer ht hclaim hr htimer⟩
    have hbusy := Timer.isGone_of_isBusy (ht.mem_line_iff.mp hmem)
    rw [hgone] at hbusy
    cases hbusy
  case before =>
    exact fun i j r r' hr hfinal hr' htimer => hm.timer_lt_final ht hr hfinal hr' htimer
  case drained =>
    intro hstopped m' hrun
    have hlater := hm.stopped_run hsize hstopped hrun
    exact ⟨hlater, (hm.run hsize hrun).1.contents_of_stopped hlater⟩

/-- A shutdown begins while a tick is in line: the tick has its cycle, then the timer ends, and the
final cycle comes after that. -/
theorem lifecycle_kept_with_queued_tick :
    ∃ settings m m', Reached settings m ∧ Run settings m m' ∧
      m.state.phase = .draining ∧ m.state.line = [.flush 0, .timer] ∧
      m'.state.phase = .stopped ∧ m'.state.timer = .ended ∧
      m'.history.rounds.map Round.claimant = [.flush 0, .timer, .shutdown 1] ∧
      Lifecycle settings m ∧ Lifecycle settings m' := by
  let config : Config := { maxQueueSize := 2, batchSize := 1, flushInterval := .ofSeconds 1 }
  let earlier : List Action :=
    [.start true 0, .enqueue ⟨[]⟩, .beginFlush, .beginCycle 0, .tick 1000000000, .beginShutdown]
  let later : List Action :=
    [.resume 0, .receive 0 (.outcome .success) some, .endCycle 0, .beginCycle 0, .leaveTimer,
      .timerGone 1, .beginCycle 0, .transportClosed 1 none]
  have hcheck : ((Moment.first { buffer := Buffer.empty config.maxQueueSize }).after?
      (.ofConfig config "memory" .keep) earlier).any (fun m =>
        (m.after? (.ofConfig config "memory" .keep) later).any fun m' =>
          decide (m.state.phase = .draining ∧ m.state.line = [.flush 0, .timer] ∧
            m'.state.phase = .stopped ∧ m'.state.timer = .ended ∧
            m'.history.rounds.map Round.claimant = [.flush 0, .timer, .shutdown 1])) = true := by
    decide +kernel
  obtain ⟨m, hm, hrest⟩ := (Option.any_eq_true _ _).mp hcheck
  obtain ⟨m', hm', hfacts⟩ := (Option.any_eq_true _ _).mp hrest
  obtain ⟨hphase, hline, hphase', htimer, hclaimants⟩ := of_decide_eq_true hfacts
  have hreached := Reached.of_after? (by decide +kernel) (by decide) hm
  have hrun := Reached.run_of_after? (by decide) hm'
  exact ⟨_, m, m', hreached, hrun, hphase, hline, hphase', htimer, hclaimants,
    lifecycle_kept hreached, lifecycle_kept (hreached.run hrun)⟩

end Courier.Scheduler
