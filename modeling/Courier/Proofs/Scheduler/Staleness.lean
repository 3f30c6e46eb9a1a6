import Courier.Proofs.Scheduler.Instants
/-!
How long an event may wait.

While the scheduler runs, an event waits for the first tick after it came in, and for the cycle that
is under way then: when that cycle has ended, the next one begins at once, and it takes the event.  A
tick may be swallowed by a long cycle of the timer itself, or stand in line behind calls to flush; in
both cases the timer still has a cycle to come, or somebody before it in line has.
-/
namespace Courier.Scheduler

namespace Move

variable {settings : Settings} {m m' : Moment}

/-- A step that leaves something in the buffer begins no cycle: if one is under way then it was so
before, and nobody else came to the head of the line. -/
theorem head_of_cycle (hsize : settings.batchSize ≠ 0)
    (hp : Paced settings.channel m.state m.history.rounds) (hmove : Move settings m m')
    (hleft : m'.history.numbered.contents ≠ []) (hcycle' : m'.state.cycle ≠ none) :
    m.state.cycle ≠ none ∧ m'.state.line.head? = m.state.line.head? := by
  cases hmove with
  | aside effects more hquiet hbuffer hcycle hline hhistory =>
      rw [hcycle] at hcycle'
      obtain ⟨cycle, hsome⟩ := Option.ne_none_iff_exists'.mp hcycle'
      obtain ⟨_, r, rest, hhead, _⟩ := hp.underway_of_cycle hsome
      rw [hline, hhead]
      exact ⟨hcycle', rfl⟩
  | enqueue event effects hquiet hstate hhistory =>
      rw [hstate] at hcycle' ⊢
      exact ⟨hcycle', rfl⟩
  | close effects hquiet hbuffer hcycle hline hhistory =>
      rw [hcycle] at hcycle'
      rw [hline]
      exact ⟨hcycle', rfl⟩
  | beginCycle claimant rest now effects hquiet hline hcycle hsome hstate hhistory =>
      have hempty := Buffer.batches_snd hsize m.history.numbered
      rw [hhistory] at hleft
      exact absurd (congrArg Buffer.contents hempty) hleft
  | emptyCycle claimant rest effects hsends hclosings hline hcycle hnone hstate hhistory =>
      rw [hstate] at hcycle'
      exact absurd (State.cycle_finishCycle ..) hcycle'
  | resume cycle place d d' hcycle hd hresume hstate hhistory =>
      rw [hstate, hcycle]
      exact ⟨Option.some_ne_none _, rfl⟩
  | receive cycle place answer draw d d' effects hcycle hd hreceive hstate hhistory =>
      rw [hstate, hcycle]
      exact ⟨Option.some_ne_none _, rfl⟩
  | endCycle claimant rest cycle effects hsends hclosings hline hcycle hfinished hstate
      hhistory =>
      rw [hstate] at hcycle'
      exact absurd (State.cycle_finishCycle ..) hcycle'

/-- Between two cycles nobody leaves the line by a step that leaves something in the buffer. -/
theorem length_line_le (hsize : settings.batchSize ≠ 0) (hmove : Move settings m m')
    (hleft : m'.history.numbered.contents ≠ []) (hcycle : m.state.cycle = none) :
    m.state.line.length ≤ m'.state.line.length := by
  cases hmove with
  | aside effects more hquiet hbuffer hsame hline hhistory =>
      rw [hline, List.length_append]
      exact Nat.le_add_right _ _
  | enqueue event effects hquiet hstate hhistory => rw [hstate]
  | close effects hquiet hbuffer hsame hline hhistory => rw [hline]
  | beginCycle claimant rest now effects hquiet hline hnone hsome hstate hhistory => rw [hstate]
  | emptyCycle claimant rest effects hsends hclosings hline hnone hnothing hstate hhistory =>
      have hempty := Buffer.batches_snd hsize m.history.numbered
      rw [hhistory] at hleft
      exact absurd (congrArg Buffer.contents hempty) hleft
  | resume cycle place d d' hsome hd hresume hstate hhistory =>
      rw [hcycle] at hsome
      cases hsome
  | receive cycle place answer draw d d' effects hsome hd hreceive hstate hhistory =>
      rw [hcycle] at hsome
      cases hsome
  | endCycle claimant rest cycle effects hsends hclosings hline hsome hfinished hstate
      hhistory =>
      rw [hcycle] at hsome
      cases hsome

end Move

namespace Sound

variable {settings : Settings} {m m' : Moment} {x : Numbered}

/-- What is still buffered was buffered ever since it was accepted. -/
theorem buffered_before (hsize : settings.batchSize ≠ 0) (hm : Sound settings m)
    (hrun : Run settings m m') (hx : x ∈ m.history.accepted.zipIdx)
    (hbuffered : x ∈ m'.history.numbered.contents) : x ∈ m.history.numbered.contents := by
  obtain ⟨hm', hext⟩ := hm.run hsize hrun
  rcases hm.taken_or_buffered hx with hevicted | hdrained | hbuffered'
  · exact absurd (Or.inl (hext.evicted.subset hevicted)) (hm'.not_covered hbuffered 0)
  · exact absurd ((covered_of_drained hdrained).extend hext) (hm'.not_covered hbuffered _)
  · exact hbuffered'

/-- No cycle has begun since what is still buffered was accepted. -/
theorem length_rounds_le (hsize : settings.batchSize ≠ 0) (hm : Sound settings m)
    (hrun : Run settings m m') (hx : x ∈ m.history.accepted.zipIdx)
    (hbuffered : x ∈ m'.history.numbered.contents) :
    m'.history.rounds.length ≤ m.history.rounds.length := by
  by_contra hlt
  have hcovered := hm.covered_of_begun_later hsize hrun (Nat.le_refl _) (Nat.lt_of_not_le hlt) hx
  exact (hm.run hsize hrun).1.not_covered hbuffered _ hcovered

/-- A cycle under way began after every moment at which there was none. -/
theorem length_rounds_lt (hsize : settings.batchSize ≠ 0) (hm : Sound settings m)
    (hrun : Run settings m m') (hcycle : m.state.cycle = none)
    (hcycle' : m'.state.cycle ≠ none) :
    m.history.rounds.length < m'.history.rounds.length := by
  obtain ⟨hm', hext⟩ := hm.run hsize hrun
  obtain ⟨cycle, hsome⟩ := Option.ne_none_iff_exists'.mp hcycle'
  obtain ⟨past, r, _, _, hrounds, _, hunderway⟩ := hm'.paced.underway_of_cycle hsome
  have hlast : m'.history.rounds[past.length]? = some r := by
    rw [hrounds]
    exact List.getElem?_concat_length
  rw [hrounds, List.length_append, List.length_singleton]
  by_contra hge
  have hplace : past.length < m.history.rounds.length := by omega
  obtain ⟨r', hr', hrext⟩ := hext.rounds past.length _ (List.getElem?_eq_getElem hplace)
  obtain rfl : r = r' := Option.some.inj (hlast.symm.trans hr')
  -- the cycle would be over already
  have hover := hm.paced.over_of_resting hcycle _ (List.getElem_mem hplace)
  have hstats := hunderway.unreturned
  rw [hrext.returned (by simp [hover.1]), hover.1] at hstats
  cases hstats

end Sound

/-- The timer will ask for a cycle by a bound, or has asked and its cycle is yet to begin. -/
inductive Awaited (bound : Nat) (s : State) : Prop
  | armed (due : Nat) (htimer : s.timer = .armed due) (hdue : due ≤ bound)
  | again (due : Nat) (htimer : s.timer = .busy due) (hdue : due ≤ bound)
  | inLine (due : Nat) (htimer : s.timer = .busy due)
      (hbegin : s.line.head? = some .timer → s.cycle = none)

/-- As long as something stays buffered, a step of a running scheduler keeps the timer's cycle to
come. -/
theorem Awaited.step {settings : Settings} {m m' : Moment} {bound : Nat}
    (hsize : settings.batchSize ≠ 0) (hm : Sound settings m) (ht : Timed m)
    (h : m.Follows settings m') (hphase : m.state.phase = .running)
    (hleft : m'.history.numbered.contents ≠ []) (ha : Awaited bound m.state) :
    Awaited bound m'.state := by
  obtain ⟨action, effects, hturn, _⟩ := h.turn
  have hhead := h.move.head_of_cycle hsize hm.paced hleft
  cases hturn.timerStep with
  | still _ htimer hcount hlined =>
      cases ha with
      | armed due harmed hdue => exact .armed due (htimer.trans harmed) hdue
      | again due hbusy hdue => exact .again due (htimer.trans hbusy) hdue
      | inLine due hbusy hbegin =>
          refine .inLine due (htimer.trans hbusy) fun hfirst => ?_
          by_contra hcycle
          obtain ⟨hbefore, hsame⟩ := hhead hcycle
          exact hbefore (hbegin (hsame ▸ hfirst))
  | started now hidle hphase' htimer hline =>
      rw [hphase] at hidle
      cases hidle
  | ticked due now hrunning htimer htimer' hline =>
      refine .inLine _ htimer' fun hfirst => ?_
      by_contra hcycle
      -- a cycle under way belongs to somebody who was in line before the tick
      have hmem : .timer ∈ m.state.line := List.mem_of_mem_head? (by
        rw [← (hhead hcycle).2, hfirst]
        rfl)
      have hbusy := ht.mem_line_iff.mp hmem
      rw [htimer] at hbusy
      cases hbusy
  | rested _ rest hline hline' htimer =>
      obtain ⟨due, hbusy, _⟩ := ht.busy_of_line hline
      have harmed : m'.state.timer = .armed due := by
        rw [htimer, hbusy]
        rfl
      have hshorter : m'.state.line.length < m.state.line.length := by
        rw [hline, hline', List.length_cons]
        exact Nat.lt_succ_self _
      have hcycle : m.state.cycle ≠ none := fun hnone =>
        absurd hshorter (Nat.not_lt_of_le (h.move.length_line_le hsize hleft hnone))
      cases ha with
      | armed due' harmed' hdue => simp [hbusy] at harmed'
      | again due' hbusy' hdue =>
          obtain rfl : due = due' := by simpa [hbusy] using hbusy'
          exact .armed due harmed hdue
      | inLine due' hbusy' hbegin => exact absurd (hbegin (by rw [hline]; rfl)) hcycle
  | left due hphase' htimer htimer' hline => exact absurd hphase hphase'

theorem Turn.cycle_of_endCycle {settings : Settings} {s s' : State} {now : Nat}
    {effects : List Effect} (hturn : Turn settings s (.endCycle now) s' effects) :
    s'.cycle = none := by
  cases hturn with
  | endCycle claimant rest cycle _ hline hcycle hfinished => exact State.cycle_finishCycle ..

/-- The end of the cycle that is under way at an instant; with none under way, the instant itself. -/
inductive CycleEnds (settings : Settings) (q : Instant) : Instant → Prop
  | resting (hcycle : q.moment.state.cycle = none) : CycleEnds settings q q
  | ended (last z : Instant) (hcycle : q.moment.state.cycle ≠ none)
      (hrun : Clocked settings q last)
      (hsame : last.moment.history.rounds.length = q.moment.history.rounds.length)
      (hend : last.next? settings (.act (.endCycle last.now)) = some z) : CycleEnds settings q z

namespace CycleEnds

variable {settings : Settings} {q z : Instant}

theorem clocked (h : CycleEnds settings q z) : Clocked settings q z := by
  cases h with
  | resting hcycle => exact .refl
  | ended last _ hcycle hrun hsame hend => exact hrun.tail ⟨_, hend⟩

theorem cycle_eq_none (h : CycleEnds settings q z) : z.moment.state.cycle = none := by
  cases h with
  | resting hcycle => exact hcycle
  | ended last _ hcycle hrun hsame hend =>
      obtain ⟨hordinary, _, hnext, _⟩ := Instant.of_act hend
      obtain ⟨effects, hturn⟩ := Moment.turn_of_next? hordinary hnext
      exact hturn.cycle_of_endCycle

end CycleEnds

section

variable {settings : Settings} {i j : Instant} {x : Numbered}

/-- From the time at which an event was accepted until it is evicted or taken, the timer's cycle is to
come, as long as the scheduler does not shut down. -/
theorem awaited_of_clocked (hi : i.Reached settings) (hfits : settings.period.fitsClock = true)
    (hrun : Clocked settings i j) (hx : x ∈ i.moment.history.accepted.zipIdx)
    (haccepts : j.moment.state.phase.accepts = true)
    (hbuffered : x ∈ j.moment.history.numbered.contents) :
    j.moment.state.phase = .idle ∨
      Awaited (settings.period.tickAfter i.now) j.moment.state := by
  have hsize := hi.moment.sound.1
  induction hrun with
  | refl =>
      cases hphase : i.moment.state.phase with
      | idle => exact Or.inl rfl
      | running =>
          obtain ⟨due, harmed | hbusy, _, hdue⟩ := hi.aligned.due hphase hfits
          · exact Or.inr (.armed due harmed hdue)
          · exact Or.inr (.again due hbusy hdue)
      | draining | stopped =>
          rw [hphase] at haccepts
          cases haccepts
  | @tail j j' hrun hstep ih =>
      have hj := hi.trans hrun
      have hsound := hj.moment.sound.2
      rcases hstep.cases with ⟨action, hact⟩ | ⟨later, hpass⟩
      · obtain ⟨hordinary, htime, hnext, hnow⟩ := Instant.of_act hact
        have hfollows : j.moment.Follows settings j'.moment := ⟨action, hordinary, hnext⟩
        have haccepted := ((hi.moment.sound.2.run hsize
          (Instant.run_of_clocked hrun).1).2.mem_accepted hx)
        have hbefore := hsound.buffered_before hsize (.single hfollows) haccepted hbuffered
        have hleft := List.ne_nil_of_mem hbuffered
        have hphase := hsound.next_phase hfollows
        cases hphase' : j'.moment.state.phase with
        | idle => exact Or.inl rfl
        | running =>
            refine Or.inr ?_
            rcases hphase with hsame | hnextPhase
            · have hrunning := hsame.symm.trans hphase'
              rcases ih (hsame ▸ haccepts) hbefore with hidle | hawaited
              · rw [hrunning] at hidle
                cases hidle
              · exact hawaited.step hsize hsound hj.moment.timed hfollows hrunning hleft
            · have hidle := (hphase' ▸ hnextPhase).eq_idle
              exact .armed _ (hj.aligned.armed_of_start hact hidle hphase' hfits)
                (settings.period.nanos_le_tickAfter _)
        | draining | stopped =>
            rw [hphase'] at haccepts
            cases haccepts
      · obtain ⟨hsame, _⟩ := Instant.of_pass hpass
        rw [hsame] at haccepts hbuffered ⊢
        exact ih haccepts hbuffered

/-- Once no cycle is under way, and the clock goes on, nothing is left of what came in before the last
tick. -/
theorem not_buffered_of_passes {q z k k' : Instant} (hi : i.Reached settings)
    (hx : x ∈ i.moment.history.accepted.zipIdx) (hq : Clocked settings i q)
    (htick : q.now = settings.period.tickAfter i.now) (hz : CycleEnds settings q z)
    (hk : Clocked settings z k) (hnow : k.now = z.now)
    (hrunning : k.moment.state.phase = .running) (hpasses : k.Passes settings k') :
    x ∉ k.moment.history.numbered.contents := by
  intro hbuffered
  have hsize := hi.moment.sound.1
  have hiz := hq.trans hz.clocked
  have hik := hiz.trans hk
  have hfits : settings.period.fitsClock = true :=
    Duration.fitsClock_of_le (htick ▸ settings.period.nanos_le_tickAfter i.now)
      (hi.trans hq).aligned.fits
  have hlate : settings.period.tickAfter i.now ≤ k.now := by
    rw [← htick, hnow]
    exact (Instant.run_of_clocked hz.clocked).2
  obtain ⟨later, hpass⟩ := hpasses
  obtain ⟨_, hlt, _, hcalm⟩ := Instant.of_pass hpass
  obtain ⟨_, hwaits, hdue⟩ := State.calm_iff.mp hcalm
  -- the timer is not about to tick, so it is in line behind a cycle or in its own one
  have hbusy : k.moment.state.timer.isBusy = true := by
    have hawaited := awaited_of_clocked hi hfits hik hx (by rw [hrunning]; rfl) hbuffered
    rcases hawaited with hidle | hawaited
    · rw [hrunning] at hidle
      cases hidle
    · cases hawaited with
      | armed due harmed hle =>
          have hnext := hdue due harmed hrunning
          omega
      | again due hbusy _ | inLine due hbusy _ => rw [hbusy]; rfl
  have hline := List.ne_nil_of_mem (((hi.trans hik).moment.timed.mem_line_iff).mpr hbusy)
  obtain ⟨cycle, hcycle⟩ := Option.ne_none_iff_exists'.mp (hwaits.resolve_left hline)
  -- that cycle began after the event came in, so it would have taken it
  have hrecent := (hi.trans hiz).moment.sound.2.length_rounds_lt hsize
    (Instant.run_of_clocked hk).1 hz.cycle_eq_none (by simp [hcycle])
  have hgrown := (hi.moment.sound.2.run hsize
    (Instant.run_of_clocked hiz).1).2.rounds.length_le
  have hsame := hi.moment.sound.2.length_rounds_le hsize (Instant.run_of_clocked hik).1 hx hbuffered
  omega

end

/-- How long the events may wait that came in up to an instant. -/
structure Punctual (settings : Settings) (i : Instant) : Prop where
  /-- The tick that they wait for is at the first multiple of the period to come. -/
  tick : settings.period.nanos ∣ settings.period.tickAfter i.now ∧
    i.now < settings.period.tickAfter i.now ∧
    ∀ later, settings.period.nanos ∣ later → i.now < later →
      settings.period.tickAfter i.now ≤ later
  /-- At the end of the cycle that is under way then, if the scheduler still runs, they are evicted or
  taken before the clock goes on. -/
  taken : ∀ q z k k', Clocked settings i q → q.now = settings.period.tickAfter i.now →
    CycleEnds settings q z → Clocked settings z k → k.now = z.now →
    k.moment.state.phase = .running → k.Passes settings k' →
    ∀ x ∈ i.moment.history.accepted.zipIdx,
      x.2 ∈ k.moment.history.evicted ∨ x ∈ k.moment.history.drained
  /-- The clock goes on, unless a tick or a cycle is due and can begin. -/
  unhindered : i.moment.state.phase ≠ .idle → (Duration.ofNanos (i.now + 1)).fitsClock = true →
    (∃ j, i.Passes settings j) ∨
      (∃ j, i.next? settings (.act (.tick i.now)) = some j) ∨
      ∃ j, i.next? settings (.act (.beginCycle i.now)) = some j

/-- At every instant the events that came in are taken in time. -/
theorem events_taken_in_time {settings : Settings} {i : Instant} (hi : i.Reached settings) :
    Punctual settings i := by
  constructor
  case tick =>
    exact ⟨settings.period.dvd_tickAfter _, Duration.lt_tickAfter hi.moment.period_pos _,
      fun _ => Duration.tickAfter_le⟩
  case taken =>
    intro q z k k' hq htick hz hk hnow hrunning hpasses x hx
    have hik := (hq.trans hz.clocked).trans hk
    have hext := (hi.moment.sound.2.run hi.moment.sound.1 (Instant.run_of_clocked hik).1).2
    have hleft := not_buffered_of_passes hi hx hq htick hz hk hnow hrunning hpasses
    have hplaces := (hi.trans hik).moment.sound.2.taken_or_buffered (hext.mem_accepted hx)
    exact hplaces.imp_right fun htaken => htaken.resolve_right hleft
  case unhindered => exact fun hphase hfits => Instant.exists_next settings hphase hfits

/-- A flush takes the first event, and its cycle lasts from the start until 150 ms.  The second event
comes in at 30 ms, the tick at 100 ms stands in line behind the flush, and the timer takes the event
as soon as the flush has ended. -/
theorem events_taken_in_time_behind_flush :
    ∃ (settings : Settings) (i q z k k' : Instant), i.Reached settings ∧
      i.now = 30 * Duration.milli ∧ i.moment.history.accepted.length = 2 ∧
      Clocked settings i q ∧ q.now = settings.period.tickAfter i.now ∧
      CycleEnds settings q z ∧ z.now = 150 * Duration.milli ∧
      z.moment.history.drained.map Prod.snd = [0] ∧
      Clocked settings z k ∧ k.now = z.now ∧ k.moment.state.phase = .running ∧
      k.Passes settings k' ∧ k.moment.history.drained.map Prod.snd = [0, 1] ∧
      Punctual settings i := by
  let config : Config :=
    { flushInterval := Duration.ofMillis 100, maxQueueSize := 4, batchSize := 2 }
  let settings := Settings.ofConfig config "memory" .keep
  let start : State := { buffer := Buffer.empty config.maxQueueSize }
  let before : List Happening :=
    [.act (.start true 0), .act (.enqueue ⟨[]⟩), .act .beginFlush, .act (.beginCycle 0),
      .act (.resume 0), .pass (30 * Duration.milli), .act (.enqueue ⟨[]⟩)]
  let behind : List Happening :=
    [.act (.tick (100 * Duration.milli)), .pass (150 * Duration.milli),
      .act (.receive 0 (.outcome .success) some)]
  have hcheck : ((Instant.first start).after? settings before).any (fun i =>
      (i.after? settings [.pass (100 * Duration.milli)]).any fun q =>
        (q.after? settings behind).any fun last =>
          (last.next? settings (.act (.endCycle last.now))).any fun z =>
            (z.after? settings [.act (.beginCycle z.now)]).any fun k =>
              (k.next? settings (.pass (200 * Duration.milli))).any fun _ =>
                decide (i.now = 30 * Duration.milli ∧ i.moment.history.accepted.length = 2 ∧
                  q.now = settings.period.tickAfter i.now ∧
                  q.moment.state.cycle.isSome = true ∧
                  last.moment.history.rounds.length = q.moment.history.rounds.length ∧
                  z.now = 150 * Duration.milli ∧
                  z.moment.history.drained.map Prod.snd = [0] ∧ k.now = z.now ∧
                  k.moment.state.phase = .running ∧
                  k.moment.history.drained.map Prod.snd = [0, 1])) = true := by
    decide +kernel
  obtain ⟨i, hi, hcheck⟩ := (Option.any_eq_true _ _).mp hcheck
  obtain ⟨q, hq, hcheck⟩ := (Option.any_eq_true _ _).mp hcheck
  obtain ⟨last, hlast, hcheck⟩ := (Option.any_eq_true _ _).mp hcheck
  obtain ⟨z, hz, hcheck⟩ := (Option.any_eq_true _ _).mp hcheck
  obtain ⟨k, hk, hcheck⟩ := (Option.any_eq_true _ _).mp hcheck
  obtain ⟨k', hk', hfacts⟩ := (Option.any_eq_true _ _).mp hcheck
  obtain ⟨hnow, haccepted, htick, hcycle, hsame, hend, hleft, hlater, hrunning, htaken⟩ :=
    of_decide_eq_true hfacts
  have hreached : i.Reached settings := Instant.Reached.of_after? (by decide +kernel) hi
  have hends : CycleEnds settings q z :=
    .ended last z (Option.isSome_iff_ne_none.mp hcycle) (Instant.clocked_of_after? hlast) hsame hz
  exact ⟨settings, i, q, z, k, k', hreached, hnow, haccepted, Instant.clocked_of_after? hq, htick,
    hends, hend, hleft, Instant.clocked_of_after? hk, hlater, hrunning, ⟨_, hk'⟩, htaken,
    events_taken_in_time hreached⟩

end Courier.Scheduler
