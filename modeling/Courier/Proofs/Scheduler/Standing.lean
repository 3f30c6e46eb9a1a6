import Courier.Proofs.Scheduler.Timer
/-!
Where the calls stand.

A call that waits for a cycle is behind somebody in line, and a shutdown that waits for another one
came after it.  Until the scheduler is stopped, one shutdown leads all others.
-/
namespace Courier.Scheduler

variable {m m' : Moment}

/-- Where a call stands after a step: where it stood before, or the step put it there. -/
theorem CallStep.stage_cases (h : CallStep m m') {call : Nat} {stage : Call}
    (hcall : m'.state.calls[call]? = some stage) :
    m.state.calls[call]? = some stage ∨
      stage = .inLine ∧ (∃ x ∈ m'.state.line, x.call? = some call) ∨
      stage = .awaitingStop ∧ m.state.phase.accepts = false ∨
      stage ≠ .inLine ∧ stage ≠ .awaitingStop := by
  have hset : ∀ {own : Nat} {stage' : Call}, m'.state.calls = m.state.calls.set own stage' →
      m.state.calls[call]? = some stage ∨ stage = stage' := by
    intro own stage' hcalls
    rw [hcalls] at hcall
    exact (getElem?_set_cases hcall).imp_right Eq.symm
  have hconcat : ∀ {stage' : Call}, m'.state.calls = m.state.calls ++ [stage'] →
      m.state.calls[call]? = some stage ∨ call = m.state.calls.length ∧ stage = stage' := by
    intro stage' hcalls
    rw [hcalls] at hcall
    exact (getElem?_concat_cases hcall).imp_left And.right
  cases h with
  | aside hstill hphase hline hcalls => exact Or.inl (hcalls ▸ hcall)
  | tick hstill hphase hline hcalls => exact Or.inl (hcalls ▸ hcall)
  | flushQueued hstill hphase hstate =>
      rcases hconcat (by rw [hstate]) with hbefore | ⟨hnew, hstage⟩
      · exact Or.inl hbefore
      · refine Or.inr (Or.inl ⟨hstage, .flush m.state.nextCall, ?_, congrArg some hnew.symm⟩)
        rw [hstate]
        exact List.mem_append_right _ (List.mem_singleton_self _)
  | flushSkipped hstill hphase hstate =>
      rcases hconcat (by rw [hstate]) with hbefore | ⟨_, rfl⟩
      · exact Or.inl hbefore
      · exact Or.inr (Or.inr (Or.inr ⟨Call.noConfusion, Call.noConfusion⟩))
  | shutdownBegun hstill hphase hstate =>
      rcases hconcat (by rw [hstate]) with hbefore | ⟨_, rfl⟩
      · exact Or.inl hbefore
      · exact Or.inr (Or.inr (Or.inr ⟨Call.noConfusion, Call.noConfusion⟩))
  | shutdownJoined hstill hphase hstate =>
      rcases hconcat (by rw [hstate]) with hbefore | ⟨_, hstage⟩
      · exact Or.inl hbefore
      · exact Or.inr (Or.inr (Or.inl ⟨hstage, hphase⟩))
  | cycleReturned claimant rest stats hreturned hclosings hphase hline hline' hcalls =>
      rcases Claimant.getElem?_answer_cases (hcalls ▸ hcall) with hbefore | rfl | rfl
      · exact Or.inl hbefore
      · exact Or.inr (Or.inr (Or.inr ⟨Call.noConfusion, Call.noConfusion⟩))
      · exact Or.inr (Or.inr (Or.inr ⟨Call.noConfusion, Call.noConfusion⟩))
  | timerGone own hstill hown hstate =>
      have hcalls : m'.state.calls = m.state.calls.set own .inLine := by rw [hstate]; rfl
      by_cases hsame : own = call
      · subst hsame
        rw [hcalls, List.getElem?_set_self (List.getElem?_eq_some_iff.mp hown).1,
          Option.some.injEq] at hcall
        refine Or.inr (Or.inl ⟨hcall.symm, .shutdown own, ?_, rfl⟩)
        rw [hstate]
        exact List.mem_append_right _ (List.mem_singleton_self _)
      · rw [hcalls, List.getElem?_set_ne hsame] at hcall
        exact Or.inl hcall
  | transportClosed own stats hstill hown hstate =>
      rcases hset (by rw [hstate]; rfl) with hbefore | rfl
      · exact Or.inl hbefore
      · exact Or.inr (Or.inr (Or.inr ⟨Call.noConfusion, Call.noConfusion⟩))
  | stopSeen own hstill hown hphase hstate =>
      rcases hset (by rw [hstate]; rfl) with hbefore | rfl
      · exact Or.inl hbefore
      · exact Or.inr (Or.inr (Or.inr ⟨Call.noConfusion, Call.noConfusion⟩))

/-- Whoever is in line stays there, or its cycle returns. -/
theorem CallStep.line_cases (h : CallStep m m') {x : Claimant} (hx : x ∈ m.state.line) :
    x ∈ m'.state.line ∨ ∃ stats, m'.state.calls = x.answer stats m.state.calls := by
  have hgrown : ∀ {more : List Claimant}, m'.state.line = m.state.line ++ more →
      x ∈ m'.state.line := fun hline => hline ▸ List.mem_append_left _ hx
  cases h with
  | aside hstill hphase hline hcalls => exact Or.inl (hline ▸ hx)
  | tick hstill hphase hline hcalls => exact Or.inl (hgrown hline)
  | flushQueued hstill hphase hstate => exact Or.inl (hgrown (congrArg State.line hstate))
  | flushSkipped hstill hphase hstate => exact Or.inl (by rwa [hstate])
  | shutdownBegun hstill hphase hstate => exact Or.inl (by rwa [hstate])
  | shutdownJoined hstill hphase hstate => exact Or.inl (by rwa [hstate])
  | cycleReturned claimant rest stats hreturned hclosings hphase hline hline' hcalls =>
      rw [hline, List.mem_cons] at hx
      rcases hx with rfl | hx
      · exact Or.inr ⟨stats, hcalls⟩
      · exact Or.inl (hline' ▸ hx)
  | timerGone call hstill hcall hstate => exact Or.inl (hgrown (congrArg State.line hstate))
  | transportClosed call stats hstill hcall hstate => exact Or.inl (by rw [hstate]; exact hx)
  | stopSeen call hstill hcall hphase hstate => exact Or.inl (by rw [hstate]; exact hx)

/-- Whoever waits has something to wait for. -/
structure Placed (m : Moment) : Prop where
  inLine : ∀ call : Nat, m.state.calls[call]? = some .inLine →
    ∃ x ∈ m.state.line, x.call? = some call
  joined : ∀ call : Nat, m.state.calls[call]? = some .awaitingStop →
    m.state.phase.accepts = false

theorem Placed.step (hq : Queued m) (hp : Placed m) (h : CallStep m m') : Placed m' := by
  constructor
  case inLine =>
    intro call hcall
    rcases h.stage_cases hcall with hbefore | ⟨_, hmem⟩ | ⟨hstage, _⟩ | ⟨hstage, _⟩
    · obtain ⟨x, hx, hown⟩ := hp.inLine call hbefore
      rcases h.line_cases hx with hx' | ⟨stats, hcalls⟩
      · exact ⟨x, hx', hown⟩
      · -- The one whose cycle returned has its answer.
        have hanswered : x.Answered stats (x.answer stats m.state.calls) := by
          apply Claimant.answered_answer
          intro own hown
          exact (List.getElem?_eq_some_iff.mp (hq.waiting x hx own hown)).1
        obtain ⟨stage, hstage, _, hne⟩ := hanswered.claims hown
        rw [← hcalls, hcall, Option.some.injEq] at hstage
        exact absurd hstage.symm hne
    · exact hmem
    · cases hstage
    · exact absurd rfl hstage
  case joined =>
    intro call hcall
    apply h.shut
    rcases h.stage_cases hcall with hbefore | ⟨hstage, _⟩ | ⟨_, hshut⟩ | ⟨_, hstage⟩
    · exact hp.joined call hbefore
    · cases hstage
    · exact hshut
    · exact absurd rfl hstage

/-- Before anything happened nobody has called. -/
theorem Placed.first (capacity : Nat) : Placed (.first { buffer := Buffer.empty capacity }) where
  inLine call hcall := by simp [Moment.first] at hcall
  joined call hcall := by simp [Moment.first] at hcall

theorem Reached.placed {settings : Settings} (h : Reached settings m) : Placed m :=
  h.induct Placed.first fun _ _ hm hnext hp => hp.step hm.queued (hnext.callStep hm.paced)

/-- What holds at every moment about who waits. -/
structure Standing (settings : Settings) (m : Moment) : Prop where
  sound : Sound settings m
  timed : Timed m
  placed : Placed m

theorem Reached.standing {settings : Settings} (h : Reached settings m) : Standing settings m :=
  ⟨h.sound.2, h.timed, h.placed⟩

/-- A shutdown that has what the others wait for yet to do: it waits for the timer, is in line for the
final cycle, or waits for the transport. -/
def State.Leads (s : State) (call : Nat) : Prop :=
  s.calls[call]? = some .awaitingTimer ∨ .shutdown call ∈ s.line ∨
    ∃ stats, s.calls[call]? = some (.closing stats)

/-- Between the beginning of the shutdown and its end there is one that leads. -/
theorem Sound.exists_leads {settings : Settings} (hm : Sound settings m)
    (hshut : m.state.phase.accepts = false) (hphase : m.state.phase ≠ .stopped) :
    ∃ call, m.state.Leads call := by
  have honce := hm.led.once
  rw [hshut, if_neg Bool.false_ne_true] at honce
  rcases Nat.eq_zero_or_pos (m.state.calls.countP Call.awaitsTimer) with hnone | hsome
  · -- Nobody waits for the timer, so the one that leads has asked for the final cycle.
    have hpos : 0 < m.claims.countP Claimant.isShutdown := by omega
    obtain ⟨x, hx, hfinal⟩ := List.countP_pos_iff.mp hpos
    obtain ⟨call, rfl⟩ : ∃ call, x = .shutdown call := by
      cases x with
      | shutdown call => exact ⟨call, rfl⟩
      | timer | flush call => cases hfinal
    rcases List.mem_append.mp hx with hreturned | hline
    · obtain ⟨y, hy, howner⟩ := List.mem_map.mp hreturned
      have hanswered := hm.queued.answered y hy
      rw [howner] at hanswered
      rcases hanswered with hclosing | hfinished
      · exact ⟨call, Or.inr (Or.inr ⟨_, hclosing⟩)⟩
      · exact absurd (hm.led.finished call hfinished) hphase
    · exact ⟨call, Or.inr (Or.inl hline)⟩
  · obtain ⟨stage, hstage, hawaits⟩ := List.countP_pos_iff.mp hsome
    obtain ⟨call, hcall⟩ := List.mem_iff_getElem?.mp hstage
    have htimer : stage = .awaitingTimer := by
      cases stage <;> first | rfl | cases hawaits
    exact ⟨call, Or.inl (htimer ▸ hcall)⟩

end Courier.Scheduler
