import Courier.Proofs.Scheduler.Settlement
/-!
The contract of a shutdown.

From the moment it begins nothing is accepted any more; the transport is told to shut down once,
after everything is settled, and is not called again; and no shutdown returns before.
-/
namespace Courier.Scheduler

open Effect (closings)

/-- A shutdown leads: it waits for the timer, or it has asked for the final cycle. -/
def Moment.Leader (m : Moment) (call : Nat) : Prop :=
  .shutdown call ∈ m.claims ∨ m.state.calls[call]? = some .awaitingTimer

/-- What a shutdown that has begun keeps up. -/
structure Shut (m m' : Moment) : Prop where
  shut : m'.state.phase.accepts = false
  accepted : m'.history.accepted = m.history.accepted
  evicted : m'.history.evicted = m.history.evicted
  leader : ∀ call, m'.Leader call → m.Leader call

theorem Claimant.getElem?_answer_cases {claimant : Claimant} {stats : CycleStats}
    {calls : List Call} {call : Nat} {stage : Call}
    (hcall : (claimant.answer stats calls)[call]? = some stage) :
    calls[call]? = some stage ∨ stage = .flushed stats ∨ stage = .closing stats := by
  cases claimant with
  | timer => exact Or.inl hcall
  | flush own =>
      exact (getElem?_set_cases hcall).imp_right fun heq => Or.inl heq.symm
  | shutdown own =>
      exact (getElem?_set_cases hcall).imp_right fun heq => Or.inr heq.symm

namespace CallStep

variable {m m' : Moment}

/-- Nobody comes to lead but by beginning the first shutdown. -/
theorem leader_of_leader (h : CallStep m m') (hshut : m.state.phase.accepts = false)
    {call : Nat} (hcall : m'.Leader call) : m.Leader call := by
  have hnil : ∀ {line line' : List Claimant}, line' = line → line' = line ++ [] :=
    fun heq => heq.trans (List.append_nil _).symm
  -- Nobody but a flush or the timer gets in line, or nobody at all.
  have hgrown : ∀ {more : List Claimant}, m.Still m' →
      m'.state.line = m.state.line ++ more → .shutdown call ∉ more →
      (m'.state.calls[call]? = some .awaitingTimer →
        m.state.calls[call]? = some .awaitingTimer) → m.Leader call := by
    intro more hstill hline hmore hstage
    refine hcall.imp (fun hclaim => ?_) hstage
    rw [hstill.claims hline] at hclaim
    exact (List.mem_append.mp hclaim).resolve_right hmore
  have happended : ∀ {stage : Call}, stage ≠ .awaitingTimer →
      m'.state.calls = m.state.calls ++ [stage] →
      m'.state.calls[call]? = some .awaitingTimer →
      m.state.calls[call]? = some .awaitingTimer := by
    intro stage hstage hcalls hcall
    rw [hcalls] at hcall
    rcases getElem?_concat_cases hcall with ⟨_, hcall⟩ | ⟨_, heq⟩
    · exact hcall
    · exact absurd heq.symm hstage
  cases h with
  | aside hstill hphase hline hcalls =>
      exact hgrown hstill (hnil hline) List.not_mem_nil (hcalls ▸ id)
  | tick hstill hphase hline hcalls => exact hgrown hstill hline (by simp) (hcalls ▸ id)
  | flushQueued hstill hphase hstate =>
      have hline : m'.state.line = m.state.line ++ [.flush m.state.nextCall] := by
        rw [hstate]
      exact hgrown hstill hline (by simp)
        (happended Call.noConfusion (congrArg State.calls hstate))
  | flushSkipped hstill hphase hstate =>
      exact hgrown hstill (hnil (by rw [hstate])) List.not_mem_nil
        (happended Call.noConfusion (congrArg State.calls hstate))
  | shutdownBegun hstill hphase hstate =>
      rw [hshut] at hphase
      cases hphase
  | shutdownJoined hstill hphase hstate =>
      exact hgrown hstill (hnil (by rw [hstate])) List.not_mem_nil
        (happended Call.noConfusion (congrArg State.calls hstate))
  | cycleReturned claimant rest stats hreturned hclosings hphase hline hline' hcalls =>
      refine hcall.imp (fun hclaim => ?_) (fun hstage => ?_)
      · rwa [claims_of_returned hreturned hline hline'] at hclaim
      · rw [hcalls] at hstage
        rcases Claimant.getElem?_answer_cases hstage with hstage | heq | heq
        · exact hstage
        · cases heq
        · cases heq
  | timerGone call' hstill hcall' hstate =>
      have hline : m'.state.line = m.state.line ++ [.shutdown call'] := by rw [hstate]
      have hcalls : m'.state.calls = m.state.calls.set call' .inLine := by rw [hstate]; rfl
      rcases hcall with hclaim | hstage
      · rw [hstill.claims hline, List.mem_append, List.mem_singleton] at hclaim
        rcases hclaim with hclaim | heq
        · exact Or.inl hclaim
        · cases heq
          exact Or.inr hcall'
      · rw [hcalls] at hstage
        exact Or.inr ((getElem?_set_cases hstage).resolve_right Call.noConfusion)
  | transportClosed call' stats hstill hcall' hstate =>
      have hcalls : m'.state.calls = m.state.calls.set call' .finished := by rw [hstate]; rfl
      refine hgrown hstill (hnil (by rw [hstate]; rfl)) List.not_mem_nil fun hstage => ?_
      rw [hcalls] at hstage
      exact (getElem?_set_cases hstage).resolve_right Call.noConfusion
  | stopSeen call' hstill hcall' hphase hstate =>
      have hcalls : m'.state.calls = m.state.calls.set call' .finished := by rw [hstate]; rfl
      refine hgrown hstill (hnil (by rw [hstate]; rfl)) List.not_mem_nil fun hstage => ?_
      rw [hcalls] at hstage
      exact (getElem?_set_cases hstage).resolve_right Call.noConfusion

/-- The phase stays, or moves forward. -/
theorem phase_cases (h : CallStep m m') :
    m'.state.phase = m.state.phase ∨
      m.state.phase = .idle ∧ m'.state.phase = .running ∨
      m.state.phase.accepts = true ∧ m'.state.phase = .draining ∨
      m'.state.phase = .stopped := by
  cases h with
  | aside hstill hphase hline hcalls =>
      exact hphase.imp_right Or.inl
  | tick hstill hphase hline hcalls => exact Or.inl hphase
  | flushQueued hstill hphase hstate => exact Or.inl (by rw [hstate])
  | flushSkipped hstill hphase hstate => exact Or.inl (by rw [hstate])
  | shutdownBegun hstill hphase hstate =>
      exact Or.inr (Or.inr (Or.inl ⟨hphase, by rw [hstate]⟩))
  | shutdownJoined hstill hphase hstate => exact Or.inl (by rw [hstate])
  | cycleReturned claimant rest stats hreturned hclosings hphase hline hline' hcalls =>
      exact Or.inl hphase
  | timerGone call hstill hcall hstate => exact Or.inl (by rw [hstate]; rfl)
  | transportClosed call stats hstill hcall hstate =>
      exact Or.inr (Or.inr (Or.inr (by rw [hstate])))
  | stopSeen call hstill hcall hphase hstate => exact Or.inl (by rw [hstate]; rfl)

/-- A scheduler that shuts down does not take events again. -/
theorem shut (h : CallStep m m') (hshut : m.state.phase.accepts = false) :
    m'.state.phase.accepts = false := by
  rcases h.phase_cases with heq | ⟨hidle, _⟩ | ⟨_, heq⟩ | heq
  · rw [heq, hshut]
  · rw [hidle] at hshut
    cases hshut
  · rw [heq]
    rfl
  · rw [heq]
    rfl

theorem stopped (h : CallStep m m') (hstopped : m.state.phase = .stopped) :
    m'.state.phase = .stopped := by
  rcases h.phase_cases with heq | ⟨hidle, _⟩ | ⟨haccepts, _⟩ | heq
  · rw [heq, hstopped]
  · rw [hstopped] at hidle
    cases hidle
  · rw [hstopped] at haccepts
    cases haccepts
  · exact heq

end CallStep

namespace Sound

variable {settings : Settings} {m m' : Moment}

/-- A scheduler that shuts down leaves an event outside, and does nothing about it. -/
theorem enqueue_of_shut (hm : Sound settings m) (hshut : m.state.phase.accepts = false)
    (event : Event) :
    Scheduler.step settings m.state (.enqueue event) = some (m.state, []) := by
  have hclosed : m.state.buffer.closed = true := by rw [hm.closed, hshut]; rfl
  simp only [Scheduler.step, State.enqueue, Buffer.enqueue_of_closed hclosed]

theorem shut_step (hm : Sound settings m) (hshut : m.state.phase.accepts = false)
    (h : m.Follows settings m') : Shut m m' := by
  have hcall := h.callStep hm.paced
  have hclosed : m.state.buffer.closed = true := by rw [hm.closed, hshut]; rfl
  have hhistory : m'.history.accepted = m.history.accepted ∧
      m'.history.evicted = m.history.evicted := by
    cases h.move with
    | enqueue event effects hquiet hstate hhistory =>
        rw [hhistory, Buffer.enqueue_of_closed hclosed]
        exact ⟨rfl, rfl⟩
    | aside effects more hquiet hbuffer hcycle hline hhistory =>
        rw [hhistory]
        exact ⟨rfl, rfl⟩
    | close effects hquiet hbuffer hcycle hline hhistory =>
        rw [hhistory]
        exact ⟨rfl, rfl⟩
    | beginCycle claimant rest now effects hquiet hline hcycle hsome hstate hhistory =>
        rw [hhistory]
        exact ⟨rfl, rfl⟩
    | emptyCycle claimant rest effects hsends hclosings hline hcycle hnone hstate
        hhistory =>
        rw [hhistory]
        exact ⟨rfl, rfl⟩
    | resume cycle place d d' hcycle hd hresume hstate hhistory =>
        rw [hhistory]
        exact ⟨rfl, rfl⟩
    | receive cycle place answer draw d d' effects hcycle hd hreceive hstate hhistory =>
        rw [hhistory]
        exact ⟨rfl, rfl⟩
    | endCycle claimant rest cycle effects hsends hclosings hline hcycle hfinished hstate
        hhistory =>
        rw [hhistory]
        exact ⟨rfl, rfl⟩
  exact ⟨hcall.shut hshut, hhistory.1, hhistory.2,
    fun _ => hcall.leader_of_leader hshut⟩

/-- Whatever happens after a shutdown has begun, nothing is accepted or evicted. -/
theorem shut_run (hsize : settings.batchSize ≠ 0) (hm : Sound settings m)
    (hshut : m.state.phase.accepts = false) (hrun : Run settings m m') : Shut m m' := by
  induction hrun with
  | refl => exact ⟨hshut, rfl, rfl, fun _ => id⟩
  | tail hrun hstep ih =>
      have hnext := (hm.run hsize hrun).1.shut_step ih.shut hstep
      exact ⟨hnext.shut, hnext.accepted.trans ih.accepted, hnext.evicted.trans ih.evicted,
        fun call hcall => ih.leader call (hnext.leader call hcall)⟩

theorem stopped_run (hsize : settings.batchSize ≠ 0) (hm : Sound settings m)
    (hstopped : m.state.phase = .stopped) (hrun : Run settings m m') :
    m'.state.phase = .stopped := by
  induction hrun with
  | refl => exact hstopped
  | tail hrun hstep ih =>
      exact (hstep.callStep (hm.run hsize hrun).1.paced).stopped ih

end Sound

theorem History.Extends.closings_le {h h' : History} (hext : h.Extends h') :
    closings h.trace ≤ closings h'.trace := by
  obtain ⟨more, hmore⟩ := hext.trace
  rw [← hmore, Effect.closings_append]
  exact Nat.le_add_right _ _

/-- The transport is not called any more once it is told to shut down. -/
theorem Sound.silent_run {settings : Settings} {m m' : Moment}
    (hsize : settings.batchSize ≠ 0) (hm : Sound settings m)
    (hclosings : 0 < closings m.history.trace) (hrun : Run settings m m') :
    Effect.sends m'.history.trace = Effect.sends m.history.trace := by
  induction hrun with
  | refl => rfl
  | tail hrun hstep ih =>
      obtain ⟨hsound, hext⟩ := hm.run hsize hrun
      have hresting := hsound.resting_of_closings
        (Nat.lt_of_lt_of_le hclosings hext.closings_le)
      rcases hstep.move.sends_cases with ⟨_, hsends⟩ | ⟨cycle, _, _, hcycle, _⟩
      · exact hsends.trans ih
      · rw [hresting.1] at hcycle
        cases hcycle

/-- The first shutdown is the one that leads. -/
theorem Sound.leader_of_begun {settings : Settings} {m m₁ : Moment} (hm : Sound settings m)
    (haccepts : m.state.phase.accepts = true)
    (hbegin : m.next? settings .beginShutdown = some m₁) {call : Nat}
    (hleader : m₁.Leader call) : call = m.state.nextCall := by
  have hbegun : m₁.state.line = m.state.line ∧
      m₁.state.calls = m.state.calls ++ [.awaitingTimer] ∧
      m₁.history.rounds = m.history.rounds := by
    cases hbegin
    simp [State.beginShutdown, haccepts, History.record, History.book]
  obtain ⟨hline, hcalls, hrounds⟩ := hbegun
  have hnobody := hm.led.once
  rw [if_pos haccepts, Nat.add_eq_zero_iff, List.countP_eq_zero, List.countP_eq_zero] at hnobody
  rcases hleader with hclaim | hstage
  · rw [Moment.claims, History.returned, hrounds, hline] at hclaim
    exact absurd rfl (hnobody.1 _ hclaim)
  · rw [hcalls] at hstage
    rcases getElem?_concat_cases hstage with ⟨_, hstage⟩ | ⟨hlast, _⟩
    · exact absurd rfl (hnobody.2 _ (List.mem_of_getElem? hstage))
    · exact hlast

theorem Moment.shut_of_begun {settings : Settings} {m m₁ : Moment}
    (hbegin : m.next? settings .beginShutdown = some m₁) :
    m₁.state.phase.accepts = false := by
  cases hbegin
  change (m.state.beginShutdown.1).phase.accepts = false
  unfold State.beginShutdown
  split
  · rfl
  · exact Bool.eq_false_iff.mpr ‹_›

/-- The final cycle is the one of the first shutdown, and it comes after all events. -/
theorem Sound.final_of_begun {settings : Settings} {m m₁ m₂ : Moment}
    (hsize : settings.batchSize ≠ 0) (hm : Sound settings m)
    (haccepts : m.state.phase.accepts = true)
    (hbegin : m.next? settings .beginShutdown = some m₁) (hrun : Run settings m₁ m₂)
    (hclosings : 0 < closings m₂.history.trace) :
    ∃ (last : Nat) (r : Round), m₂.history.rounds[last]? = some r ∧
      r.claimant = .shutdown m.state.nextCall ∧ r.Over settings.channel ∧
      (∀ x ∈ m.history.numbered.contents, ∃ (i : Nat) (r' : Round), i ≤ last ∧
        m₂.history.rounds[i]? = some r' ∧ x ∈ r'.members) ∧
      ∀ (i : Nat) (r' : Round), last < i → m₂.history.rounds[i]? = some r' →
        r'.parcels = [] := by
  have hfollows : m.Follows settings m₁ := ⟨.beginShutdown, rfl, hbegin⟩
  have hm₁ := hm.step hsize hfollows
  have hshut := hm₁.shut_run hsize (Moment.shut_of_begun hbegin) hrun
  obtain ⟨hm₂, hext⟩ := hm.run hsize (.head hfollows hrun)
  obtain ⟨last, r, hr, hshutdown, hover⟩ := hm₂.final_of_closings hclosings
  have hclaim := hm₂.paced.claimant_mem_claims (List.mem_of_getElem? hr)
  refine ⟨last, r, hr, ?_, hover, ?_, ?_⟩
  · cases hclaimant : r.claimant with
    | timer => simp [hclaimant, Claimant.isShutdown] at hshutdown
    | flush call => simp [hclaimant, Claimant.isShutdown] at hshutdown
    | shutdown call =>
        have hleader := hshut.leader call (Or.inl (hclaimant ▸ hclaim))
        rw [hm.leader_of_begun haccepts hbegin hleader]
  · intro x hx
    -- The final cycle cannot be on record before the shutdown begins.
    have hlater : m.history.rounds.length ≤ last := by
      rcases Nat.lt_or_ge last m.history.rounds.length with hlt | hge
      · obtain ⟨r', hr', hrext⟩ := hext.rounds last _ (List.getElem?_eq_getElem hlt)
        rw [hr, Option.some.injEq] at hr'
        subst hr'
        rw [hrext.claimant] at hshutdown
        have hnot := hm.not_accepts_of_final (List.getElem_mem hlt) hshutdown
        rw [haccepts] at hnot
        cases hnot
      · exact hge
    obtain ⟨haccepted, hkept⟩ := hm.tallied.mem_kept_of_buffered hx
    have hevicted : m₂.history.evicted = m.history.evicted := by
      rw [hshut.evicted]
      cases hbegin
      simp [History.record, History.book, haccepts]
    have hcovered := hm.covered_of_begun_later hsize (.head hfollows hrun) hlater
      (List.getElem?_eq_some_iff.mp hr).1 haccepted
    exact hcovered.resolve_left fun hmem => hkept (hevicted ▸ hmem)
  · intro i r' hlt hr'
    have hplan : m₂.history.plans[last]? = some r.plan := by
      rw [History.plans, List.getElem?_map, hr, Option.map_some]
    have hplan' : m₂.history.plans[i]? = some r'.plan := by
      rw [History.plans, List.getElem?_map, hr', Option.map_some]
    exact List.map_eq_nil_iff.mp (related_of_lt hm₂.sealed.last hplan hplan' hlt hshutdown)

/-- The contract of a shutdown. -/
structure ShutdownContract (settings : Settings) (m : Moment) : Prop where
  /-- The transport is told to shut down at most once. -/
  once : closings m.history.trace ≤ 1
  /-- When it is told so, the buffer is empty and every event that was ever accepted is settled. -/
  settled : 0 < closings m.history.trace →
    m.state.buffer.contents = [] ∧
      ∀ x ∈ m.history.accepted.zipIdx, m.history.Settled settings.channel x
  /-- From then on nothing is sent. -/
  silent : 0 < closings m.history.trace → ∀ m', Run settings m m' →
    Effect.sends m'.history.trace = Effect.sends m.history.trace
  /-- A flush that begins after the scheduler is stopped returns at once and does nothing. -/
  skipped : m.state.phase = .stopped → ∀ m', Run settings m m' →
    step settings m'.state .beginFlush =
      some ({ m'.state with calls := m'.state.calls ++ [.flushed {}] }, [])
  /-- A shutdown returns only once the scheduler is stopped. -/
  returned : ∀ call : Nat, m.state.calls[call]? = some .finished →
    m.state.phase = .stopped ∧ 0 < closings m.history.trace
  /-- After a shutdown has begun an event that comes in changes nothing. -/
  refused : ∀ m₁ m₂, m.next? settings .beginShutdown = some m₁ → Run settings m₁ m₂ →
    ∀ event, step settings m₂.state (.enqueue event) = some (m₂.state, [])
  /-- The first shutdown runs the final cycle, and what was buffered when it began is in that cycle
  or in one before it. -/
  final : ∀ m₁ m₂, m.state.phase.accepts = true →
    m.next? settings .beginShutdown = some m₁ → Run settings m₁ m₂ →
    0 < closings m₂.history.trace →
    ∃ (last : Nat) (r : Round), m₂.history.rounds[last]? = some r ∧
      r.claimant = .shutdown m.state.nextCall ∧ r.Over settings.channel ∧
      (∀ x ∈ m.history.numbered.contents, ∃ (i : Nat) (r' : Round), i ≤ last ∧
        m₂.history.rounds[i]? = some r' ∧ x ∈ r'.members) ∧
      ∀ (i : Nat) (r' : Round), last < i → m₂.history.rounds[i]? = some r' →
        r'.parcels = []

/-- At every moment of every run the contract of a shutdown holds. -/
theorem shutdown_contract {settings : Settings} {m : Moment} (h : Reached settings m) :
    ShutdownContract settings m := by
  obtain ⟨hsize, hm⟩ := h.sound
  constructor
  case once => exact Nat.le_trans hm.led.closings_le (by split <;> decide)
  case settled =>
    intro hclosings
    refine ⟨?_, fun x => hm.settled_of_closings hclosings⟩
    rw [← hm.tallied.buffered, Buffer.contents_map, (hm.resting_of_closings hclosings).2]
    rfl
  case silent => exact fun hclosings m' hrun => hm.silent_run hsize hclosings hrun
  case skipped =>
    intro hstopped m' hrun
    have hphase := hm.stopped_run hsize hstopped hrun
    simp only [step, State.beginFlush, if_pos hphase]
  case returned =>
    intro call hcall
    have hstopped := hm.led.finished call hcall
    have hclosing := hm.led.closing
    rw [if_pos hstopped] at hclosing
    exact ⟨hstopped, by omega⟩
  case refused =>
    intro m₁ m₂ hbegin hrun event
    have hm₁ := hm.step hsize ⟨.beginShutdown, rfl, hbegin⟩
    have hshut := hm₁.shut_run hsize (Moment.shut_of_begun hbegin) hrun
    exact (hm₁.run hsize hrun).1.enqueue_of_shut hshut.shut event
  case final =>
    exact fun m₁ m₂ haccepts hbegin hrun hclosings =>
      hm.final_of_begun hsize haccepts hbegin hrun hclosings

/-- A shutdown sends what is buffered, and a flush that stands behind its cycle finds nothing. -/
theorem shutdown_contract_with_late_flush :
    ∃ settings m m', Reached settings m ∧ Run settings m m' ∧
      m.history.numbered.contents.map Prod.snd = [0] ∧ closings m'.history.trace = 1 ∧
      m'.state.calls = [.finished, .flushed {}] ∧ m'.history.sendings.length = 1 ∧
      ShutdownContract settings m ∧ ShutdownContract settings m' := by
  let config : Config := { maxQueueSize := 2, batchSize := 1 }
  let later : List Action :=
    [.beginShutdown, .timerGone 0, .beginFlush, .beginCycle 0, .resume 0,
      .receive 0 (.outcome .success) some, .endCycle 0, .beginCycle 0, .transportClosed 0 none]
  have hcheck : ((Moment.first { buffer := Buffer.empty config.maxQueueSize }).after?
      (.ofConfig config "memory" .keep) [.enqueue ⟨[]⟩]).any (fun m =>
        (m.after? (.ofConfig config "memory" .keep) later).any fun m' =>
          decide (m.history.numbered.contents.map Prod.snd = [0] ∧
            closings m'.history.trace = 1 ∧ m'.state.calls = [.finished, .flushed {}] ∧
            m'.history.sendings.length = 1)) = true := by
    decide +kernel
  obtain ⟨m, hm, hrest⟩ := (Option.any_eq_true _ _).mp hcheck
  obtain ⟨m', hm', hfacts⟩ := (Option.any_eq_true _ _).mp hrest
  obtain ⟨hcontents, hclosings, hcalls, hsent⟩ := of_decide_eq_true hfacts
  have hreached := Reached.of_after? (by decide +kernel) (by decide) hm
  have hrun := Reached.run_of_after? (by decide) hm'
  exact ⟨_, m, m', hreached, hrun, hcontents, hclosings, hcalls, hsent,
    shutdown_contract hreached, shutdown_contract (hreached.run hrun)⟩

end Courier.Scheduler
