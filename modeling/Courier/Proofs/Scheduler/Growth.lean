import Courier.Proofs.Scheduler.Cycles
/-!
A history only grows.

What was accepted, evicted, sent or done stays on record, a cycle keeps its batches, and nothing
happens to a cycle that has returned.  So a call of the transport can be traced to the one delivery
that made it for good.
-/
namespace Courier.Scheduler

/-- What can become of a cycle on record. -/
structure Round.Extends (r r' : Round) : Prop where
  plan : r'.plan = r.plan
  returned : r.stats ≠ none → r' = r

namespace Round.Extends

theorem refl (r : Round) : r.Extends r := ⟨rfl, fun _ => rfl⟩

theorem trans {r r' r'' : Round} (h : r.Extends r') (h' : r'.Extends r'') :
    r.Extends r'' where
  plan := h'.plan.trans h.plan
  returned hstats := by
    have heq := h.returned hstats
    subst heq
    exact h'.returned hstats

theorem claimant {r r' : Round} (h : r.Extends r') : r'.claimant = r.claimant :=
  congrArg Prod.fst h.plan

theorem members {r r' : Round} (h : r.Extends r') : r'.members = r.members := by
  rw [r'.members_eq, r.members_eq, h.plan]

end Round.Extends

/-- What can become of the cycles on record: more cycles come after them. -/
def Onward (rounds rounds' : List Round) : Prop :=
  ∀ (i : Nat) (r : Round), rounds[i]? = some r → ∃ r', rounds'[i]? = some r' ∧ r.Extends r'

namespace Onward

theorem refl (rounds : List Round) : Onward rounds rounds :=
  fun _ r hr => ⟨r, hr, .refl r⟩

theorem trans {rounds rounds' rounds'' : List Round} (h : Onward rounds rounds')
    (h' : Onward rounds' rounds'') : Onward rounds rounds'' := by
  intro i r hr
  obtain ⟨r', hr', hext⟩ := h i r hr
  obtain ⟨r'', hr'', hext'⟩ := h' i r' hr'
  exact ⟨r'', hr'', hext.trans hext'⟩

theorem concat (rounds : List Round) (r : Round) : Onward rounds (rounds ++ [r]) := by
  intro i x hx
  have hi : i < rounds.length := (List.getElem?_eq_some_iff.mp hx).1
  exact ⟨x, by rw [List.getElem?_append_left hi, hx], .refl x⟩

theorem length_le {rounds rounds' : List Round} (h : Onward rounds rounds') :
    rounds.length ≤ rounds'.length := by
  apply Nat.le_of_not_lt
  intro hlt
  obtain ⟨r, hr, _⟩ := h rounds'.length _ (List.getElem?_eq_getElem hlt)
  exact Nat.lt_irrefl _ (List.getElem?_eq_some_iff.mp hr).1

theorem last {past : List Round} {r r' : Round} (hext : r.Extends r') :
    Onward (past ++ [r]) (past ++ [r']) := by
  intro i x hx
  rcases getElem?_concat_cases hx with ⟨hi, hx⟩ | ⟨rfl, rfl⟩
  · exact ⟨x, by rw [List.getElem?_append_left hi, hx], .refl x⟩
  · exact ⟨r', List.getElem?_concat_length, hext⟩

end Onward

/-- What can become of a history. -/
structure History.Extends (h h' : History) : Prop where
  accepted : h.accepted <+: h'.accepted
  evicted : h.evicted <+: h'.evicted
  rounds : Onward h.rounds h'.rounds
  sendings : h.sendings <+: h'.sendings
  trace : h.trace <+: h'.trace

namespace History.Extends

variable {settings : Settings} {h h' h'' : History}

theorem refl (h : History) : h.Extends h :=
  ⟨List.prefix_rfl, List.prefix_rfl, .refl _, List.prefix_rfl, List.prefix_rfl⟩

theorem trans (hext : h.Extends h') (hext' : h'.Extends h'') : h.Extends h'' :=
  ⟨hext.accepted.trans hext'.accepted, hext.evicted.trans hext'.evicted,
    hext.rounds.trans hext'.rounds, hext.sendings.trans hext'.sendings,
    hext.trace.trans hext'.trace⟩

theorem parcel? (hext : h.Extends h') {round place : Nat} {p : Parcel}
    (hp : h.parcel? round place = some p) :
    ∃ p', h'.parcel? round place = some p' ∧ p'.members = p.members := by
  obtain ⟨r, hr, hplace⟩ := Option.bind_eq_some_iff.mp hp
  obtain ⟨r', hr', hrext⟩ := hext.rounds round r hr
  have hmembers := congrArg (fun plan => plan.2[place]?) hrext.plan
  simp only [Round.plan, List.getElem?_map, hplace, Option.map_some] at hmembers
  obtain ⟨p', hp', heq⟩ := Option.map_eq_some_iff.mp hmembers
  exact ⟨p', by rw [History.parcel?, hr', Option.bind_some, hp'], heq⟩

/-- Nothing happens to a batch once its cycle has returned. -/
theorem parcel?_of_returned (hext : h.Extends h') {round : Nat} {r : Round}
    (hr : h.rounds[round]? = some r) (hreturned : r.stats ≠ none) (place : Nat) :
    h'.parcel? round place = h.parcel? round place := by
  obtain ⟨r', hr', hrext⟩ := hext.rounds round r hr
  rw [History.parcel?, History.parcel?, hr', hr, hrext.returned hreturned]

theorem takeIn (h : History) (admission : Admission) (event : Event)
    (effects : List Effect) :
    h.Extends { h.takeIn admission event with trace := h.trace ++ effects } := by
  cases admission with
  | refused => exact ⟨List.prefix_rfl, List.prefix_rfl, .refl _, List.prefix_rfl,
      List.prefix_append _ _⟩
  | stored => exact ⟨List.prefix_append _ _, List.prefix_rfl, .refl _, List.prefix_rfl,
      List.prefix_append _ _⟩
  | evictedOldest => exact ⟨List.prefix_append _ _, List.prefix_append _ _, .refl _,
      List.prefix_rfl, List.prefix_append _ _⟩

theorem step {m m' : Moment}
    (hp : Paced settings.channel m.state m.history.rounds) (hmove : Move settings m m') :
    m.history.Extends m'.history := by
  -- Only the last cycle is touched, and not after it has returned.
  have hadvance : ∀ {cycle : Cycle} (place : Nat) (d : Option Delivery)
      (effects : List Effect), m.state.cycle = some cycle →
      Onward m.history.rounds (m.history.advance place d effects).rounds := by
    intro cycle place d effects hcycle
    obtain ⟨past, r, _, _, hlast, _, hunderway⟩ := hp.underway_of_cycle hcycle
    rw [History.advance, hlast, List.modifyLast_concat]
    exact .last ⟨r.plan_advance place d effects,
      fun hstats => absurd hunderway.unreturned hstats⟩
  cases hmove with
  | aside effects more hquiet hbuffer hcycle hline hhistory =>
      rw [hhistory]
      exact ⟨List.prefix_rfl, List.prefix_rfl, .refl _, List.prefix_rfl,
        List.prefix_append _ _⟩
  | enqueue event effects hquiet hstate hhistory =>
      rw [hhistory]
      exact .takeIn _ _ _ _
  | close effects hquiet hbuffer hcycle hline hhistory =>
      rw [hhistory]
      exact ⟨List.prefix_rfl, List.prefix_rfl, .refl _, List.prefix_rfl,
        List.prefix_append _ _⟩
  | beginCycle claimant rest now effects hquiet hline hcycle hsome hstate hhistory =>
      rw [hhistory]
      exact ⟨List.prefix_rfl, List.prefix_rfl, .concat _ _, List.prefix_rfl,
        List.prefix_append _ _⟩
  | emptyCycle claimant rest effects hsends hclosings hline hcycle hnone hstate
      hhistory =>
      rw [hhistory]
      exact ⟨List.prefix_rfl, List.prefix_rfl, .concat _ _, List.prefix_rfl,
        List.prefix_append _ _⟩
  | resume cycle place d d' hcycle hd hresume hstate hhistory =>
      rw [hhistory]
      exact ⟨List.prefix_rfl, List.prefix_rfl, hadvance place _ _ hcycle,
        List.prefix_append _ _, List.prefix_append _ _⟩
  | receive cycle place answer draw d d' effects hcycle hd hreceive hstate hhistory =>
      rw [hhistory]
      exact ⟨List.prefix_rfl, List.prefix_rfl, hadvance place _ _ hcycle,
        List.prefix_rfl, List.prefix_append _ _⟩
  | endCycle claimant rest cycle effects hsends hclosings hline hcycle hfinished hstate
      hhistory =>
      obtain ⟨past, r, _, _, hlast, _, hunderway⟩ := hp.underway_of_cycle hcycle
      have honward : Onward m.history.rounds
          (m.history.endRound (some cycle.stats)).rounds := by
        rw [History.endRound, hlast, List.modifyLast_concat]
        exact .last ⟨rfl, fun hstats => absurd hunderway.unreturned hstats⟩
      rw [hhistory]
      exact ⟨List.prefix_rfl, List.prefix_rfl, honward, List.prefix_rfl,
        List.prefix_append _ _⟩

end History.Extends

/-- Every call of the transport is on record, with the delivery that made it. -/
structure Sent (h : History) : Prop where
  faithful : ∀ s ∈ h.sendings, ∃ p, h.parcel? s.round s.place = some p ∧ s.batch = p.events
  sorted : h.sendings.Pairwise fun s s' => s.round ≤ s'.round
  traced : h.sendings.map Sending.batch = Effect.sends h.trace

namespace Sent

variable {settings : Settings} {h h' : History}

theorem faithful_of_extends (hsent : Sent h) (hext : h.Extends h') :
    ∀ s ∈ h.sendings, ∃ p, h'.parcel? s.round s.place = some p ∧ s.batch = p.events := by
  intro s hs
  obtain ⟨p, hp, hbatch⟩ := hsent.faithful s hs
  obtain ⟨p', hp', hmembers⟩ := hext.parcel? hp
  exact ⟨p', hp', by rw [hbatch, Parcel.events, Parcel.events, hmembers]⟩

theorem of_eq (hsent : Sent h) (hext : h.Extends h')
    (hsendings : h'.sendings = h.sendings)
    (hsends : Effect.sends h'.trace = Effect.sends h.trace) : Sent h' where
  faithful := by
    rw [hsendings]
    exact hsent.faithful_of_extends hext
  sorted := by
    rw [hsendings]
    exact hsent.sorted
  traced := by rw [hsendings, hsends, hsent.traced]

theorem round_lt (hsent : Sent h) {s : Sending} (hs : s ∈ h.sendings) :
    s.round < h.rounds.length := by
  obtain ⟨p, hp, _⟩ := hsent.faithful s hs
  obtain ⟨r, hr, _⟩ := Option.bind_eq_some_iff.mp hp
  exact (List.getElem?_eq_some_iff.mp hr).1

theorem send (hsent : Sent h) (hext : h.Extends h') {place : Nat} {p : Parcel}
    (hp : h.parcel? (h.rounds.length - 1) place = some p)
    (hsendings : h'.sendings = h.sendings ++ [⟨h.rounds.length - 1, place, p.events⟩])
    (hsends : Effect.sends h'.trace = Effect.sends h.trace ++ [p.events]) : Sent h' where
  faithful := by
    intro s hs
    rw [hsendings, List.mem_append, List.mem_singleton] at hs
    rcases hs with hs | rfl
    · exact hsent.faithful_of_extends hext s hs
    · obtain ⟨p', hp', hmembers⟩ := hext.parcel? hp
      exact ⟨p', hp', by rw [Parcel.events, Parcel.events, hmembers]⟩
  sorted := by
    rw [hsendings]
    apply List.pairwise_append.mpr
    refine ⟨hsent.sorted, List.pairwise_singleton _ _, ?_⟩
    intro s hs s' hs'
    rw [List.mem_singleton.mp hs']
    exact Nat.le_sub_one_of_lt (hsent.round_lt hs)
  traced := by
    rw [hsendings, hsends, List.map_append, hsent.traced]
    rfl

theorem step {m m' : Moment} (hp : Paced settings.channel m.state m.history.rounds)
    (hsent : Sent m.history) (hmove : Move settings m m') : Sent m'.history := by
  have hext := History.Extends.step hp hmove
  rcases hmove.sends_cases with
    ⟨hsendings, hsends⟩ | ⟨cycle, place, d, hcycle, hd, hsendings, hsends⟩
  · exact hsent.of_eq hext hsendings hsends
  · obtain ⟨past, r, _, _, hlast, _, hunderway⟩ := hp.underway_of_cycle hcycle
    obtain ⟨p, hplace, rfl⟩ := hunderway.exists_parcel hd
    have hparcel : m.history.parcel? (m.history.rounds.length - 1) place = some p := by
      simp [History.parcel?, hlast, hplace]
    exact hsent.send hext hparcel hsendings hsends

end Sent

end Courier.Scheduler
