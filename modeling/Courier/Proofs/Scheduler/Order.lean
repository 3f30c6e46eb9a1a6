import Courier.Proofs.Scheduler.Settlement
/-!
Cycles keep the order of the events.

Cycles do not overlap, and what was accepted first is taken first.  So when a batch of some cycle is
sent, nothing is left to be done for any batch of a cycle that took earlier events.
-/
namespace Courier.Scheduler

/-- At most one cycle has begun and not returned. -/
theorem Paced.countP_unreturned_le {channel : Channel} {s : State} {rounds : List Round}
    (hp : Paced channel s rounds) : rounds.countP (fun r => r.stats.isNone) ≤ 1 := by
  have hreturned : ∀ {rounds : List Round}, (∀ r ∈ rounds, r.Over channel) →
      rounds.countP (fun r => r.stats.isNone) = 0 := by
    intro rounds hover
    apply List.countP_eq_zero.mpr
    intro r hr
    simp [(hover r hr).1]
  cases hp with
  | resting hcycle hover =>
      rw [hreturned hover]
      decide
  | underway past r rest cycle hcycle hline hrounds hpast hunderway =>
      rw [hrounds, List.countP_append, hreturned hpast, Nat.zero_add]
      exact List.countP_le_length

/-- Only a batch of the present cycle is sent. -/
theorem Moment.Follows.underway_of_sent {settings : Settings} {m m' : Moment}
    (h : m.Follows settings m') (hp : Paced settings.channel m.state m.history.rounds)
    {s : Sending} (hsent : m'.history.sendings = m.history.sendings ++ [s]) :
    ∃ past r, m.history.rounds = past ++ [r] ∧ s.round = past.length ∧
      ∀ r ∈ past, r.Over settings.channel := by
  rcases h.move.sends_cases with
    ⟨hsendings, _⟩ | ⟨cycle, place, d, hcycle, _, hsendings, _⟩
  · rw [hsent] at hsendings
    simp at hsendings
  · obtain ⟨past, r, _, _, hrounds, hpast, _⟩ := hp.underway_of_cycle hcycle
    rw [hsent, List.append_cancel_left_eq, List.cons.injEq] at hsendings
    refine ⟨past, r, hrounds, ?_, hpast⟩
    rw [hsendings.1, hrounds, List.length_append]
    rfl

/-- Sendings come in the order of their cycles. -/
theorem Sent.le_of_later {h : History} (hsent : Sent h) {before later : List Sending}
    {s : Sending} (hsendings : h.sendings = before ++ s :: later) :
    ∀ s' ∈ h.sendings.drop before.length, s.round ≤ s'.round := by
  have hsorted := hsent.sorted
  rw [hsendings, List.pairwise_append, List.pairwise_cons] at hsorted
  rw [hsendings, List.drop_left]
  intro s' hs'
  rcases List.mem_cons.mp hs' with rfl | hs'
  · exact Nat.le_refl _
  · exact hsorted.2.1.1 s' hs'

/-- What holds of the order of cycles. -/
structure CycleOrder (settings : Settings) (m : Moment) : Prop where
  /-- At most one cycle is between taking its events and its end. -/
  single : m.history.rounds.countP (fun r => r.stats.isNone) ≤ 1
  /-- When the batch of one event is sent, the delivery of every earlier event that another cycle
  took, or will ever take, is over already: it stays as it is, and nothing more is sent for its
  cycle. -/
  order : ∀ m' m'' (s : Sending) (p p' : Parcel) (x y : Numbered) (round place : Nat),
    m.Follows settings m' → m'.history.sendings = m.history.sendings ++ [s] →
    Run settings m' m'' →
    m''.history.parcel? s.round s.place = some p' → y ∈ p'.members →
    m''.history.parcel? round place = some p → x ∈ p.members →
    x.2 < y.2 → round ≠ s.round →
    m.history.parcel? round place = some p ∧ p.Over settings.channel ∧
      ∀ s' ∈ m''.history.sendings.drop m.history.sendings.length, s'.round ≠ round

/-- At every moment of every run cycles follow each other in the order of the events. -/
theorem cycles_ordered {settings : Settings} {m : Moment} (h : Reached settings m) :
    CycleOrder settings m := by
  obtain ⟨hsize, hm⟩ := h.sound
  constructor
  case single => exact hm.paced.countP_unreturned_le
  case order =>
    intro m' m'' s p p' x y round place hfollows hsent hrun hp' hy hp hx hlt hne
    obtain ⟨hm'', hext⟩ := hm.run hsize (.head hfollows hrun)
    obtain ⟨past, r, hrounds, hround, hpast⟩ := hfollows.underway_of_sent hm.paced hsent
    have hbefore : round < s.round := by
      rcases Nat.lt_or_gt_of_ne hne with hbefore | hafter
      · exact hbefore
      · have hgt := History.number_lt_of_round_lt hm''.tallied.drained_sorted hp' hp hy hx hafter
        omega
    obtain ⟨r', hr'⟩ : ∃ r', past[round]? = some r' :=
      ⟨_, List.getElem?_eq_getElem (hround ▸ hbefore)⟩
    have hr : m.history.rounds[round]? = some r' := by
      rw [hrounds, List.getElem?_append_left (hround ▸ hbefore), hr']
    have hover := hpast r' (List.mem_of_getElem? hr')
    have hsame := hext.parcel?_of_returned hr (by simp [hover.1]) place
    rw [hp] at hsame
    refine ⟨hsame.symm, ?_, ?_⟩
    · obtain ⟨_, hround', hplace, _⟩ := History.mem_members_of_parcel? hsame.symm hx
      rw [hr, Option.some.injEq] at hround'
      subst hround'
      exact hover.2 p (List.mem_of_getElem? hplace)
    · obtain ⟨later, hlater⟩ := ((hm.step hsize hfollows).run hsize hrun).2.sendings
      rw [hsent, List.append_assoc] at hlater
      intro s' hs'
      have hle := hm''.sent.le_of_later hlater.symm s' hs'
      omega

/-- Two flushes take one event each; the first event is sent twice, and then the second one. -/
theorem cycles_ordered_after_retry :
    ∃ settings m m', Reached settings m ∧ m.Follows settings m' ∧
      m.history.drained.map Prod.snd = [0, 1] ∧ m.history.rounds.length = 2 ∧
      m.history.sendings.map (fun s => (s.round, s.place)) = [(0, 0), (0, 0)] ∧
      m'.history.sendings.map (fun s => (s.round, s.place)) = [(0, 0), (0, 0), (1, 0)] ∧
      CycleOrder settings m := by
  let config : Config := { maxQueueSize := 2, batchSize := 1 }
  let busy : Answer := .outcome (.totalFailure 503 "busy" true)
  let before : List Action :=
    [.enqueue ⟨[]⟩, .beginFlush, .beginCycle 0, .beginFlush, .resume 0, .receive 0 busy some,
      .enqueue ⟨[]⟩, .resume 0, .receive 0 (.outcome .success) some, .endCycle 0,
      .beginCycle 0]
  have hcheck : ((Moment.first { buffer := Buffer.empty config.maxQueueSize }).after?
      (.ofConfig config "memory" .keep) before).any (fun m =>
        (m.next? (.ofConfig config "memory" .keep) (.resume 0)).any fun m' =>
          decide (m.history.drained.map Prod.snd = [0, 1] ∧ m.history.rounds.length = 2 ∧
            m.history.sendings.map (fun s => (s.round, s.place)) = [(0, 0), (0, 0)] ∧
            m'.history.sendings.map (fun s => (s.round, s.place)) =
              [(0, 0), (0, 0), (1, 0)])) = true := by
    decide +kernel
  obtain ⟨m, hm, hcheck⟩ := (Option.any_eq_true _ _).mp hcheck
  obtain ⟨m', hm', hfacts⟩ := (Option.any_eq_true _ _).mp hcheck
  obtain ⟨hdrained, hrounds, hsent, hsent'⟩ := of_decide_eq_true hfacts
  have hreached := Reached.of_after? (by decide +kernel) (by decide) hm
  exact ⟨_, m, m', hreached, ⟨.resume 0, rfl, hm'⟩, hdrained, hrounds, hsent, hsent',
    cycles_ordered hreached⟩

end Courier.Scheduler
