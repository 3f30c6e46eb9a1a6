import Mathlib.Algebra.GroupWithZero.Nat
import Courier.Proofs.Scheduler.Shutdown
/-!
A flush is a barrier.

The cycle of a flush begins after the call was made, so it and the cycles before it took whatever was
accepted before, and they are over when it returns.  A flush of a stopped scheduler has no cycle, but
then everything was settled before.
-/
namespace Courier.Scheduler

open Effect (closings)

/-- What a flush was answered does not change. -/
theorem CallStep.flushed {m m' : Moment} (hq : Queued m) (h : CallStep m m') {call : Nat}
    {stats : CycleStats} (hcall : m.state.calls[call]? = some (.flushed stats)) :
    m'.state.calls[call]? = some (.flushed stats) := by
  cases h with
  | aside hstill hphase hline hcalls => rw [hcalls, hcall]
  | tick hstill hphase hline hcalls => rw [hcalls, hcall]
  | flushQueued hstill hphase hstate => rw [hstate]; exact keep_append _ _ _ _ rfl hcall
  | flushSkipped hstill hphase hstate => rw [hstate]; exact keep_append _ _ _ _ rfl hcall
  | shutdownBegun hstill hphase hstate => rw [hstate]; exact keep_append _ _ _ _ rfl hcall
  | shutdownJoined hstill hphase hstate => rw [hstate]; exact keep_append _ _ _ _ rfl hcall
  | cycleReturned claimant rest stats' hreturned hclosings hphase hline hline' hcalls =>
      have hne : claimant.call? ≠ some call := fun heq => by
        have hinLine := hq.waiting claimant (hline ▸ List.mem_cons_self) call heq
        rw [hcall] at hinLine
        cases hinLine
      rw [hcalls, Claimant.getElem?_answer_of_ne stats' _ hne, hcall]
  | timerGone other hstill hother hstate =>
      rw [hstate]
      exact getElem?_set_of_ne hother hcall Call.noConfusion _
  | transportClosed other stats' hstill hother hstate =>
      rw [hstate]
      exact getElem?_set_of_ne hother hcall Call.noConfusion _
  | stopSeen other hstill hother hphase hstate =>
      rw [hstate]
      exact getElem?_set_of_ne hother hcall Call.noConfusion _

namespace History

variable {h : History} {channel : Channel}

/-- Cycles that are all over returned as many events as they took. -/
theorem sum_events_of_over (hover : ∀ r ∈ h.rounds, r.Over channel) :
    (h.returned.map fun x => x.2.events).sum = h.drained.length := by
  rw [returned, filterMap_returned?_of_over hover, List.map_map, drained,
    List.length_flatMap]
  rfl

end History

namespace Sound

variable {settings : Settings} {m m' : Moment}

theorem claims_grow_of_run (hsize : settings.batchSize ≠ 0) (hm : Sound settings m)
    (hrun : Run settings m m') : m.claims <+: m'.claims := by
  induction hrun with
  | refl => exact List.prefix_rfl
  | tail hrun hstep ih =>
      exact ih.trans (hstep.callStep (hm.run hsize hrun).1.paced).claims_grow

theorem flushed_of_run (hsize : settings.batchSize ≠ 0) (hm : Sound settings m)
    (hrun : Run settings m m') {call : Nat} {stats : CycleStats}
    (hcall : m.state.calls[call]? = some (.flushed stats)) :
    m'.state.calls[call]? = some (.flushed stats) := by
  induction hrun with
  | refl => exact hcall
  | tail hrun hstep ih =>
      have hsound := (hm.run hsize hrun).1
      exact (hstep.callStep hsound.paced).flushed hsound.queued ih

/-- A flush that asked for a cycle and was answered had a cycle that is over, and was answered with
what this cycle took. -/
theorem round_of_flushed (hm : Sound settings m) {call : Nat} {stats : CycleStats}
    (hclaim : .flush call ∈ m.claims)
    (hcall : m.state.calls[call]? = some (.flushed stats)) :
    ∃ (i : Nat) (r : Round), m.history.rounds[i]? = some r ∧ r.claimant = .flush call ∧
      r.Over settings.channel ∧ stats = r.totals := by
  rcases List.mem_append.mp hclaim with hreturned | hline
  · obtain ⟨⟨claimant, stats'⟩, hmem, rfl⟩ := List.mem_map.mp hreturned
    have hanswered : m.state.calls[call]? = some (.flushed stats') :=
      hm.queued.answered _ hmem
    rw [hcall, Option.some.injEq, Call.flushed.injEq] at hanswered
    subst hanswered
    obtain ⟨r, hr, hclaimant, hstats⟩ := History.mem_returned.mp hmem
    obtain ⟨i, hi⟩ := List.mem_iff_getElem?.mp hr
    have hover := hm.paced.over_of_returned hi (by simp [hstats]) (Nat.le_refl i) hi
    refine ⟨i, r, hi, hclaimant, hover, ?_⟩
    rw [hover.1, Option.some.injEq] at hstats
    exact hstats.symm
  · have hinLine := hm.queued.waiting _ hline call rfl
    rw [hcall] at hinLine
    cases hinLine

/-- A call has one cycle only. -/
theorem round_unique (hm : Sound settings m) {call i j : Nat} {r r' : Round}
    (hr : m.history.rounds[i]? = some r) (hr' : m.history.rounds[j]? = some r')
    (hcall : r.claimant.call? = some call) (hcall' : r'.claimant.call? = some call) :
    i = j := by
  have hdistinct := hm.queued.distinct
  obtain ⟨rest, hclaims⟩ := hm.paced.claimants_initial
  rw [← hclaims, List.filterMap_append, List.nodup_append] at hdistinct
  have hrounds := hdistinct.1
  rw [List.filterMap_map, List.Nodup, List.pairwise_filterMap] at hrounds
  rcases Nat.lt_trichotomy i j with hlt | heq | hgt
  · exact absurd rfl (related_of_lt hrounds hr hr' hlt call hcall call hcall')
  · exact heq
  · exact absurd rfl (related_of_lt hrounds hr' hr hgt call hcall' call hcall)

/-- Once the scheduler is stopped the transport has been told to shut down. -/
theorem closings_of_stopped (hm : Sound settings m) (hstopped : m.state.phase = .stopped) :
    0 < closings m.history.trace := by
  have hclosing := hm.led.closing
  rw [if_pos hstopped] at hclosing
  omega

/-- A flush that gets in line has a cycle when it returns, and this cycle began after the call. -/
theorem round_of_queued {m₁ m₂ : Moment} (hsize : settings.batchSize ≠ 0)
    (hm : Sound settings m) (hphase : m.state.phase ≠ .stopped)
    (hbegin : m.next? settings .beginFlush = some m₁) (hrun : Run settings m₁ m₂)
    {stats : CycleStats}
    (hreturned : m₂.state.calls[m.state.nextCall]? = some (.flushed stats)) :
    ∃ (i : Nat) (r : Round), m.history.rounds.length ≤ i ∧ m₂.history.rounds[i]? = some r ∧
      r.claimant = .flush m.state.nextCall ∧ r.Over settings.channel ∧ stats = r.totals := by
  have hfollows : m.Follows settings m₁ := ⟨.beginFlush, rfl, hbegin⟩
  have hm₁ := hm.step hsize hfollows
  obtain ⟨hm₂, hext⟩ := hm.run hsize (.head hfollows hrun)
  have hline : m₁.state.line = m.state.line ++ [.flush m.state.nextCall] := by
    cases hbegin
    simp [State.beginFlush, hphase]
  have hasked : .flush m.state.nextCall ∈ m₁.claims := by
    rw [Moment.claims, hline]
    simp
  have hclaim := (hm₁.claims_grow_of_run hsize hrun).subset hasked
  obtain ⟨i, r, hr, hclaimant, hover, hstats⟩ := hm₂.round_of_flushed hclaim hreturned
  refine ⟨i, r, ?_, hr, hclaimant, hover, hstats⟩
  -- A cycle on record before the call belongs to a call that was made before.
  rcases Nat.lt_or_ge i m.history.rounds.length with hlt | hge
  · obtain ⟨r', hr', hrext⟩ := hext.rounds i _ (List.getElem?_eq_getElem hlt)
    rw [hr, Option.some.injEq] at hr'
    subst hr'
    rw [hrext.claimant] at hclaimant
    have hold := hm.paced.claimant_mem_claims (List.getElem_mem hlt)
    rw [hclaimant] at hold
    obtain ⟨stage, hstage, _⟩ := hm.queued.claims_of_mem
      (List.mem_filterMap.mpr ⟨_, hold, rfl⟩)
    exact absurd (List.getElem?_eq_some_iff.mp hstage).1 (Nat.lt_irrefl _)
  · exact hge

end Sound

/-- What a flush and the cycles promise. -/
structure FlushBarrier (settings : Settings) (m : Moment) : Prop where
  /-- When a flush returns, every event that was accepted before it was called is settled. -/
  settled : ∀ m₁ m₂ stats, m.next? settings .beginFlush = some m₁ → Run settings m₁ m₂ →
    m₂.state.calls[m.state.nextCall]? = some (.flushed stats) →
    ∀ x ∈ m.history.accepted.zipIdx, m₂.history.Settled settings.channel x
  /-- It returns the totals of its own cycle, the only one of the call. -/
  own : ∀ m₁ m₂ stats, m.state.phase ≠ .stopped → m.next? settings .beginFlush = some m₁ →
    Run settings m₁ m₂ → m₂.state.calls[m.state.nextCall]? = some (.flushed stats) →
    ∃ (i : Nat) (r : Round), m₂.history.rounds[i]? = some r ∧
      r.claimant = .flush m.state.nextCall ∧ r.Over settings.channel ∧ stats = r.totals ∧
      ∀ (j : Nat) (r' : Round), m₂.history.rounds[j]? = some r' →
        r'.claimant = .flush m.state.nextCall → j = i
  /-- With the scheduler stopped there is no cycle, and nothing to count. -/
  skipped : ∀ m₁ m₂ stats, m.state.phase = .stopped → m.next? settings .beginFlush = some m₁ →
    Run settings m₁ m₂ → m₂.state.calls[m.state.nextCall]? = some (.flushed stats) →
    stats = {}
  /-- Between two cycles, all cycles together returned as many events as were drained. -/
  total : m.state.cycle = none →
    (m.history.returned.map fun x => x.2.events).sum = m.state.buffer.drained

/-- At every moment of every run a flush is a barrier. -/
theorem flush_barrier {settings : Settings} {m : Moment} (h : Reached settings m) :
    FlushBarrier settings m := by
  obtain ⟨hsize, hm⟩ := h.sound
  have hrunning : ∀ {m₁ m₂ : Moment}, m.next? settings .beginFlush = some m₁ →
      Run settings m₁ m₂ → Run settings m m₂ :=
    fun hbegin hrun => .head ⟨.beginFlush, rfl, hbegin⟩ hrun
  constructor
  case settled =>
    intro m₁ m₂ stats hbegin hrun hreturned x hx
    obtain ⟨hm₂, hext⟩ := hm.run hsize (hrunning hbegin hrun)
    by_cases hphase : m.state.phase = .stopped
    · have hclosings := Nat.lt_of_lt_of_le (hm.closings_of_stopped hphase) hext.closings_le
      exact hm₂.settled_of_closings hclosings (hext.mem_accepted hx)
    · obtain ⟨i, r, hlater, hr, _, hover, _⟩ :=
        hm.round_of_queued hsize hphase hbegin hrun hreturned
      have hcovered := hm.covered_of_begun_later hsize (hrunning hbegin hrun) hlater
        (List.getElem?_eq_some_iff.mp hr).1 hx
      exact hm₂.settled_of_covered hr (by simp [hover.1]) hcovered
  case own =>
    intro m₁ m₂ stats hphase hbegin hrun hreturned
    have hm₂ := (hm.run hsize (hrunning hbegin hrun)).1
    obtain ⟨i, r, _, hr, hclaimant, hover, hstats⟩ :=
      hm.round_of_queued hsize hphase hbegin hrun hreturned
    refine ⟨i, r, hr, hclaimant, hover, hstats, ?_⟩
    intro j r' hr' hclaimant'
    exact hm₂.round_unique hr' hr (congrArg Claimant.call? hclaimant')
      (congrArg Claimant.call? hclaimant)
  case skipped =>
    intro m₁ m₂ stats hphase hbegin hrun hreturned
    have hm₁ := hm.step hsize ⟨.beginFlush, rfl, hbegin⟩
    have hcall : m₁.state.calls[m.state.nextCall]? = some (.flushed {}) := by
      cases hbegin
      simp [State.beginFlush, hphase, State.nextCall]
    have hkept := hm₁.flushed_of_run hsize hrun hcall
    rw [hreturned, Option.some.injEq, Call.flushed.injEq] at hkept
    exact hkept
  case total =>
    intro hcycle
    rw [History.sum_events_of_over (hm.paced.over_of_resting hcycle), hm.tallied.drained]

/-- A flush that is called while the timer's cycle has the only event returns after this cycle, from
an empty one. -/
theorem flush_barrier_behind_timer :
    ∃ settings m m₁ m₂, Reached settings m ∧ m.next? settings .beginFlush = some m₁ ∧
      Run settings m₁ m₂ ∧ m.state.line = [.timer] ∧ m.history.drained.map Prod.snd = [0] ∧
      m₂.state.calls = [.flushed {}] ∧ m₂.state.buffer.drained = 1 ∧ m₂.state.cycle = none ∧
      FlushBarrier settings m ∧ FlushBarrier settings m₂ := by
  let config : Config := { maxQueueSize := 2, batchSize := 1 }
  let before : List Action :=
    [.start true 0, .enqueue ⟨[]⟩, .tick 5000000000, .beginCycle 5000000000, .resume 0]
  let later : List Action :=
    [.receive 0 (.outcome .success) some, .endCycle 5000000000, .beginCycle 5000000000]
  have hcheck : ((Moment.first { buffer := Buffer.empty config.maxQueueSize }).after?
      (.ofConfig config "memory" .keep) before).any (fun m =>
        (m.next? (.ofConfig config "memory" .keep) .beginFlush).any fun m₁ =>
          (m₁.after? (.ofConfig config "memory" .keep) later).any fun m₂ =>
            decide (m.state.line = [.timer] ∧ m.history.drained.map Prod.snd = [0] ∧
              m₂.state.calls = [.flushed {}] ∧ m₂.state.buffer.drained = 1 ∧
              m₂.state.cycle.isNone = true)) = true := by
    decide +kernel
  obtain ⟨m, hm, hcheck⟩ := (Option.any_eq_true _ _).mp hcheck
  obtain ⟨m₁, hm₁, hcheck⟩ := (Option.any_eq_true _ _).mp hcheck
  obtain ⟨m₂, hm₂, hfacts⟩ := (Option.any_eq_true _ _).mp hcheck
  obtain ⟨hline, hdrained, hcalls, hcount, hcycle⟩ := of_decide_eq_true hfacts
  have hreached := Reached.of_after? (by decide +kernel) (by decide) hm
  have hrun := Reached.run_of_after? (by decide) hm₂
  exact ⟨_, m, m₁, m₂, hreached, hm₁, hrun, hline, hdrained, hcalls, hcount,
    Option.isNone_iff_eq_none.mp hcycle, flush_barrier hreached,
    flush_barrier (hreached.run (.head ⟨.beginFlush, rfl, hm₁⟩ hrun))⟩

end Courier.Scheduler
