import Courier.Proofs.Scheduler.Shutdown
/-!
The flush timer and the line.

The timer is there once the scheduler has started.  It stands in line exactly while it is busy, and it
is gone, never to come back, before a shutdown asks for the final cycle.
-/
namespace Courier.Scheduler

/-- The timer is in line for a cycle, or in its cycle. -/
def Timer.isBusy : Timer → Bool
  | .busy _ => true
  | .absent | .armed _ | .ended | .crashed => false

theorem Timer.isGone_of_isBusy {timer : Timer} (hbusy : timer.isBusy = true) :
    timer.isGone = false := by
  cases timer <;> first | rfl | cases hbusy

theorem Timer.isBusy_start (period : Duration) (now : Nat) :
    (Timer.start period now).isBusy = false := by
  unfold Timer.start
  split <;> rfl

/-- A timer that is between two ticks ends once the scheduler does not run any more. -/
theorem Moment.exists_leaveTimer (settings : Settings) {m : Moment} {due : Nat}
    (htimer : m.state.timer = .armed due) (hphase : m.state.phase ≠ .running) :
    ∃ m', m.next? settings .leaveTimer = some m' ∧ m'.state.timer = .ended := by
  have hleave : m.state.leaveTimer = some { m.state with timer := .ended } := by
    rw [State.leaveTimer, htimer]
    exact if_neg hphase
  exact ⟨_, next?_of_step (congrArg (Option.map (·, [])) hleave), rfl⟩

/-- A list does not grow by losing its head. -/
theorem ne_cons_concat {α : Type} (a b : α) (l : List α) : l ≠ a :: l ++ [b] := by
  intro heq
  have hlength := congrArg List.length heq
  rw [List.length_append, List.length_cons, List.length_singleton] at hlength
  omega

/-- What a step does to the timer. -/
inductive TimerStep (settings : Settings) (s s' : State) : Action → Prop
  | still (action : Action) (htimer : s'.timer = s.timer)
      (hcount : s'.line.count .timer = s.line.count .timer)
      (hlined : ∀ call, s'.line = s.line ++ [.shutdown call] → s.timer.isGone = true) :
      TimerStep settings s s' action
  | started (now : Nat) (hphase : s.phase = .idle) (hphase' : s'.phase = .running)
      (htimer : s'.timer = Timer.start settings.period now) (hline : s'.line = s.line) :
      TimerStep settings s s' (.start true now)
  | ticked (due now : Nat) (hphase : s.phase = .running) (htimer : s.timer = .armed due)
      (htimer' : s'.timer = .busy (Timer.nextDue settings.period due now))
      (hline : s'.line = s.line ++ [.timer]) : TimerStep settings s s' (.tick now)
  | rested (action : Action) (rest : List Claimant) (hline : s.line = .timer :: rest)
      (hline' : s'.line = rest) (htimer : s'.timer = s.timer.rearm) :
      TimerStep settings s s' action
  | left (due : Nat) (hphase : s.phase ≠ .running) (htimer : s.timer = .armed due)
      (htimer' : s'.timer = .ended) (hline : s'.line = s.line) :
      TimerStep settings s s' .leaveTimer

section Steps

variable {settings : Settings} {s s' : State} {action : Action}

/-- The head of the line is done with its cycle. -/
theorem State.timerStep_finishCycle {later : State} {claimant : Claimant} {rest : List Claimant}
    (stats : CycleStats) (hline : s.line = claimant :: rest) (htimer : later.timer = s.timer) :
    TimerStep settings s (later.finishCycle claimant rest stats).1 action := by
  cases claimant with
  | timer =>
      refine .rested action rest hline (State.line_finishCycle ..) ?_
      exact congrArg Timer.rearm htimer
  | flush call =>
      refine .still action htimer ?_ fun own heq => ?_
      · rw [hline]
        exact (List.count_cons_of_ne Claimant.noConfusion).symm
      · rw [State.line_finishCycle, hline] at heq
        exact absurd heq (ne_cons_concat _ _ rest)
  | shutdown call =>
      refine .still action htimer ?_ fun own heq => ?_
      · rw [hline]
        exact (List.count_cons_of_ne Claimant.noConfusion).symm
      · rw [State.line_finishCycle, hline] at heq
        exact absurd heq (ne_cons_concat _ _ rest)

theorem Turn.timerStep {effects : List Effect} (hturn : Turn settings s action s' effects) :
    TimerStep settings s s' action := by
  have hstill : ∀ {s' : State} {action : Action}, s'.timer = s.timer → s'.line = s.line →
      TimerStep settings s s' action := by
    intro s' action htimer hline
    refine .still action htimer (by rw [hline]) fun call heq => ?_
    simpa [hline] using congrArg List.length heq
  cases hturn with
  | start now hphase => exact .started now hphase rfl rfl rfl
  | flushQueued hphase => exact .still _ rfl (by simp) fun call heq => by simp at heq
  | tick due now htimer hphase hdue => exact .ticked due now hphase htimer rfl rfl
  | leaveTimer due htimer hphase => exact .left due hphase htimer rfl rfl
  | emptyCycle claimant rest now hline hcycle hnone =>
      exact State.timerStep_finishCycle {} hline rfl
  | endCycle claimant rest cycle now hline hcycle hfinished =>
      exact State.timerStep_finishCycle cycle.stats hline rfl
  | timerGone call hcall htimer => exact .still _ rfl (by simp) fun _ _ => htimer
  | _ => exact hstill rfl rfl

/-- A timer that is gone does not come back, unless the scheduler is yet to start. -/
theorem TimerStep.gone (h : TimerStep settings s s' action) (hphase : s.phase ≠ .idle)
    (hgone : s.timer.isGone = true) : s'.timer.isGone = true := by
  cases h with
  | still _ htimer hcount hlined => rw [htimer, hgone]
  | started now hidle hphase' htimer hline => exact absurd hidle hphase
  | ticked due now hrunning htimer htimer' hline => simp [htimer, Timer.isGone] at hgone
  | rested _ rest hline hline' htimer =>
      rw [htimer]
      cases htimer₀ : s.timer with
      | armed due | busy due => simp [htimer₀, Timer.isGone] at hgone
      | absent | ended | crashed => rfl
  | left due hleft htimer htimer' hline => rw [htimer']; rfl

/-- Only a tick brings the timer into line. -/
theorem TimerStep.armed_of_line (h : TimerStep settings s s' action)
    (hline : s'.line = s.line ++ [.timer]) : ∃ due, s.timer = .armed due := by
  cases h with
  | still _ htimer hcount hlined => simp [hline] at hcount
  | ticked due now hphase htimer htimer' hline' => exact ⟨due, htimer⟩
  | started now hphase hphase' htimer hsame => simp [hsame] at hline
  | rested _ rest hhead hrest htimer =>
      rw [hhead, hrest] at hline
      exact absurd hline (ne_cons_concat _ _ rest)
  | left due hphase htimer htimer' hsame => simp [hsame] at hline

/-- A shutdown gets in line once the timer is gone. -/
theorem TimerStep.gone_of_line (h : TimerStep settings s s' action) {call : Nat}
    (hline : s'.line = s.line ++ [.shutdown call]) : s'.timer.isGone = true := by
  cases h with
  | still _ htimer hcount hlined => rw [htimer, hlined call hline]
  | ticked due now hphase htimer htimer' hline' => simp [hline] at hline'
  | started now hphase hphase' htimer hsame => simp [hsame] at hline
  | rested _ rest hhead hrest htimer =>
      rw [hhead, hrest] at hline
      exact absurd hline (ne_cons_concat _ _ rest)
  | left due hphase htimer htimer' hsame => simp [hsame] at hline

end Steps

/-- A step lets at most one claimant more ask for a cycle, and that one gets in line. -/
theorem CallStep.claims_cases {m m' : Moment} (h : CallStep m m') :
    m'.claims = m.claims ∨
      ∃ x, m'.claims = m.claims ++ [x] ∧ m'.state.line = m.state.line ++ [x] := by
  have hsame : m.Still m' → m'.state.line = m.state.line → m'.claims = m.claims := by
    intro hstill hline
    rw [hstill.claims (hline.trans (List.append_nil _).symm), List.append_nil]
  cases h with
  | aside hstill hphase hline hcalls => exact Or.inl (hsame hstill hline)
  | tick hstill hphase hline hcalls => exact Or.inr ⟨_, hstill.claims hline, hline⟩
  | flushQueued hstill hphase hstate =>
      have hline := congrArg State.line hstate
      exact Or.inr ⟨_, hstill.claims hline, hline⟩
  | flushSkipped hstill hphase hstate => exact Or.inl (hsame hstill (by rw [hstate]))
  | shutdownBegun hstill hphase hstate => exact Or.inl (hsame hstill (by rw [hstate]))
  | shutdownJoined hstill hphase hstate => exact Or.inl (hsame hstill (by rw [hstate]))
  | cycleReturned claimant rest stats hreturned hclosings hphase hline hline' hcalls =>
      exact Or.inl (claims_of_returned hreturned hline hline')
  | timerGone call hstill hcall hstate =>
      have hline := congrArg State.line hstate
      exact Or.inr ⟨_, hstill.claims hline, hline⟩
  | transportClosed call stats hstill hcall hstate =>
      exact Or.inl (hsame hstill (by rw [hstate]; rfl))
  | stopSeen call hstill hcall hphase hstate =>
      exact Or.inl (hsame hstill (by rw [hstate]; rfl))

/-- The final cycle is not asked for as long as events are taken. -/
theorem Led.not_accepts_of_claim {m : Moment} (hl : Led m) {call : Nat}
    (hclaim : .shutdown call ∈ m.claims) : m.state.phase.accepts = false := by
  have hpos : 0 < m.claims.countP Claimant.isShutdown :=
    List.countP_pos_iff.mpr ⟨_, hclaim, rfl⟩
  have honce := hl.once
  cases haccepts : m.state.phase.accepts with
  | false => rfl
  | true =>
      rw [if_pos haccepts] at honce
      omega

/-- The timer is where the phase and the line say. -/
structure Timed (m : Moment) : Prop where
  absent : m.state.phase = .idle → m.state.timer = .absent
  inLine : m.state.line.count .timer = if m.state.timer.isBusy then 1 else 0
  gone : ∀ call, .shutdown call ∈ m.claims → m.state.timer.isGone = true
  /-- The timer does not ask for a cycle after the final one was asked for. -/
  last : m.claims.Pairwise fun x y => x.isShutdown = true → y ≠ .timer

namespace Timed

variable {settings : Settings} {m m' : Moment} {action : Action}

/-- The timer is in line exactly while it is busy. -/
theorem mem_line_iff (ht : Timed m) : .timer ∈ m.state.line ↔ m.state.timer.isBusy = true := by
  rw [← List.count_pos_iff, ht.inLine]
  cases m.state.timer.isBusy <;> decide

theorem busy_of_line (ht : Timed m) {rest : List Claimant} (hline : m.state.line = .timer :: rest) :
    ∃ due, m.state.timer = .busy due ∧ rest.count .timer = 0 := by
  have hcount := ht.inLine
  rw [hline, List.count_cons_self] at hcount
  cases htimer : m.state.timer with
  | busy due =>
      rw [htimer, Timer.isBusy, if_pos rfl] at hcount
      exact ⟨due, rfl, by omega⟩
  | absent | armed due | ended | crashed => simp [htimer, Timer.isBusy] at hcount

theorem count_step (ht : Timed m) (h : TimerStep settings m.state m'.state action) :
    m'.state.line.count .timer = if m'.state.timer.isBusy then 1 else 0 := by
  have hcount := ht.inLine
  cases h with
  | still _ htimer hsame hlined => rw [hsame, htimer, hcount]
  | started now hphase hphase' htimer hline =>
      rw [hline, htimer, Timer.isBusy_start, hcount, ht.absent hphase]
      rfl
  | ticked due now hphase htimer htimer' hline =>
      rw [htimer, Timer.isBusy, if_neg Bool.false_ne_true] at hcount
      simp [hline, htimer', Timer.isBusy, hcount]
  | rested _ rest hline hline' htimer =>
      obtain ⟨due, hbusy, hrest⟩ := ht.busy_of_line hline
      rw [hline', htimer, hbusy, hrest]
      rfl
  | left due hphase htimer htimer' hline =>
      rw [htimer, Timer.isBusy, if_neg Bool.false_ne_true] at hcount
      rw [hline, htimer', hcount]
      rfl

/-- Where the timer is there, the scheduler has started. -/
theorem absent_step (ht : Timed m) (hcall : CallStep m m')
    (h : TimerStep settings m.state m'.state action) (hidle' : m'.state.phase = .idle) :
    m'.state.timer = .absent := by
  have hidle : m.state.phase = .idle := by
    rcases hcall.phase_cases with heq | ⟨hidle, _⟩ | ⟨_, hdraining⟩ | hstopped
    · rw [← heq, hidle']
    · exact hidle
    · simp [hdraining] at hidle'
    · simp [hstopped] at hidle'
  have habsent := ht.absent hidle
  cases h with
  | still _ htimer hcount hlined => rw [htimer, habsent]
  | started now hphase hphase' htimer hline => simp [hphase'] at hidle'
  | ticked due now hphase htimer htimer' hline => simp [habsent] at htimer
  | rested _ rest hline hline' htimer =>
      obtain ⟨due, hbusy, _⟩ := ht.busy_of_line hline
      simp [habsent] at hbusy
  | left due hphase htimer htimer' hline => simp [habsent] at htimer

theorem step (hm : Sound settings m) (ht : Timed m) (h : m.Follows settings m') : Timed m' := by
  obtain ⟨action, effects, hturn, _⟩ := h.turn
  have hstep := hturn.timerStep
  have hcall := h.callStep hm.paced
  have hgone : ∀ call, .shutdown call ∈ m.claims → m'.state.timer.isGone = true := by
    intro call hclaim
    refine hstep.gone (fun hidle => ?_) (ht.gone call hclaim)
    have hshut := hm.led.not_accepts_of_claim hclaim
    rw [hidle] at hshut
    cases hshut
  constructor
  case absent => exact ht.absent_step hcall hstep
  case inLine => exact ht.count_step hstep
  case gone =>
    intro call hclaim
    rcases hcall.claims_cases with hclaims | ⟨x, hclaims, hline⟩
    · exact hgone call (hclaims ▸ hclaim)
    · rw [hclaims, List.mem_append, List.mem_singleton] at hclaim
      rcases hclaim with hclaim | rfl
      · exact hgone call hclaim
      · exact hstep.gone_of_line hline
  case last =>
    rcases hcall.claims_cases with hclaims | ⟨x, hclaims, hline⟩
    · rw [hclaims]
      exact ht.last
    · rw [hclaims]
      refine List.pairwise_append.mpr ⟨ht.last, List.pairwise_singleton _ _, ?_⟩
      intro y hy z hz hshutdown htimer
      rw [List.mem_singleton.mp hz] at htimer
      subst htimer
      obtain ⟨due, harmed⟩ := hstep.armed_of_line hline
      cases y with
      | timer | flush call => cases hshutdown
      | shutdown call => simpa [harmed, Timer.isGone] using ht.gone call hy

/-- Before anything happened there is no timer and nobody in line. -/
theorem first (capacity : Nat) : Timed (.first { buffer := Buffer.empty capacity }) :=
  ⟨fun _ => rfl, rfl, fun _ hclaim => absurd hclaim List.not_mem_nil, List.Pairwise.nil⟩

end Timed

theorem Reached.timed {settings : Settings} {m : Moment} (h : Reached settings m) : Timed m :=
  h.induct Timed.first fun _ _ hm hnext ht => ht.step hm hnext

end Courier.Scheduler
