import Mathlib.Data.Set.Basic
import Mathlib.Order.WellFounded
import Courier.Proofs.Scheduler.Nearer
/-!
Nobody waits in a circle.

Whoever is not done waits in the end for somebody that goes on at once, with an answer of the
transport, or with the clock.  Each of its steps takes a call that waits for it closer to its return.
-/
namespace Courier.Scheduler

/-- The action is possible, and gets somebody on. -/
def Moment.Advances (settings : Settings) (m : Moment) (action : Action) (p : Party) : Prop :=
  ∃ m', m.next? settings action = some m' ∧
    m.state.Forward settings.channel.backoff.attempts m'.state p

/-- Somebody goes on without anybody else. -/
inductive Free (settings : Settings) (m : Moment) : Party → Prop
  /-- At once, whatever time it is. -/
  | acts (p : Party) (action : Nat → Action)
      (hown : ∀ now, (action now).party? m.state = some p ∧ (action now).prompt now = true)
      (hadvances : ∀ now, m.Advances settings (action now) p) : Free settings m p
  /-- At once, by sending a batch for the first time. -/
  | sends (place : Nat) (d : Delivery) (hd : m.state.delivery? place = some d)
      (hstage : d.stage = .ready)
      (hadvances : m.Advances settings (.resume place) (.batch place)) :
      Free settings m (.batch place)
  /-- With the answer of the transport to a batch, whatever it is. -/
  | answered (place attempt : Nat) (d : Delivery) (hd : m.state.delivery? place = some d)
      (hstage : d.stage = .sending attempt)
      (hadvances : ∀ answer draw,
        m.Advances settings (.receive place answer draw) (.batch place)) :
      Free settings m (.batch place)
  /-- Once the transport is shut down, or has failed to. -/
  | closes (call : Nat) (stats : CycleStats) (hcall : m.state.calls[call]? = some (.closing stats))
      (hadvances : ∀ failure,
        m.Advances settings (.transportClosed call failure) (.call call)) :
      Free settings m (.call call)
  /-- With the clock, after a pause between two attempts. -/
  | rests (place attempt : Nat) (pause : Duration) (d : Delivery)
      (hd : m.state.delivery? place = some d) (hstage : d.stage = .resting attempt pause)
      (hadvances : m.Advances settings (.resume place) (.batch place)) :
      Free settings m (.batch place)
  /-- With the clock, when the next tick is due. -/
  | ticks (due : Nat) (htimer : m.state.timer = .armed due)
      (hadvances : ∀ now, due ≤ now → m.Advances settings (.tick now) .timer) :
      Free settings m .timer

theorem Free.exists_action {settings : Settings} {m : Moment} {p : Party}
    (h : Free settings m p) :
    ∃ action m', action.party? m.state = some p ∧ m.next? settings action = some m' := by
  cases h with
  | acts _ action hown hadvances =>
      obtain ⟨m', hnext, _⟩ := hadvances 0
      exact ⟨_, m', (hown 0).1, hnext⟩
  | sends place d hd hstage hadvances =>
      obtain ⟨m', hnext, _⟩ := hadvances
      exact ⟨_, m', rfl, hnext⟩
  | answered place attempt d hd hstage hadvances =>
      obtain ⟨m', hnext, _⟩ := hadvances (.outcome .success) some
      exact ⟨_, m', rfl, hnext⟩
  | closes call stats hcall hadvances =>
      obtain ⟨m', hnext, _⟩ := hadvances none
      exact ⟨_, m', rfl, hnext⟩
  | rests place attempt pause d hd hstage hadvances =>
      obtain ⟨m', hnext, _⟩ := hadvances
      exact ⟨_, m', rfl, hnext⟩
  | ticks due htimer hadvances =>
      obtain ⟨m', hnext, _⟩ := hadvances due (Nat.le_refl _)
      exact ⟨_, m', rfl, hnext⟩

theorem State.exists_unfinished_of_cycle {s : State} {cycle : Cycle} (hcycle : s.cycle = some cycle)
    (hfinished : cycle.finished = false) :
    ∃ place d, s.delivery? place = some d ∧ d.stage.finished = false := by
  obtain ⟨d, hd, hunfinished⟩ := List.all_eq_false.mp hfinished
  obtain ⟨place, hplace⟩ := List.mem_iff_getElem?.mp hd
  refine ⟨place, d, ?_, Bool.eq_false_iff.mpr hunfinished⟩
  rw [State.delivery?, hcycle]
  exact hplace

/-- A batch is over with the panic of its sending. -/
theorem Moment.released {settings : Settings} {m m' : Moment} {place : Nat} {panic : Panic}
    {draw : Draw} (hnext : m.next? settings (.receive place (.panic panic) draw) = some m') :
    m'.state.unfinished (.batch place) = false := by
  obtain ⟨⟨s', effects⟩, hstep, rfl⟩ := Option.map_eq_some_iff.mp hnext
  cases turn_of_step rfl hstep with
  | receive cycle place answer draw d d' effects hcycle hd hreceive =>
      have hover : d'.stage = .panicked panic := by
        obtain ⟨batch, stage⟩ := d
        cases stage with
        | sending attempt =>
            rw [Delivery.receive_sending] at hreceive
            cases hreceive
            rfl
        | _ => cases hreceive
      simp [State.unfinished, State.delivery?_set hd, hover, Stage.finished]

namespace Standing

variable {settings : Settings} {m m' : Moment} {p q : Party}

theorem advances (hs : Standing settings m) {action : Action}
    (hparty : action.party? m.state = some p)
    (hpossible : ∃ m', m.next? settings action = some m') : m.Advances settings action p := by
  obtain ⟨m', hnext⟩ := hpossible
  exact ⟨m', hnext, hs.forward hparty hnext⟩

theorem free_of_batch (hs : Standing settings m) {place : Nat}
    (hunfinished : m.state.unfinished (.batch place) = true) : Free settings m (.batch place) := by
  obtain ⟨d, hd, hfinished⟩ := (Option.any_eq_true _ _).mp hunfinished
  cases hstage : d.stage with
  | ready =>
      exact .sends place d hd hstage
        (hs.advances rfl (Moment.exists_resume hd (Or.inl hstage)))
  | sending attempt =>
      exact .answered place attempt d hd hstage fun answer draw =>
        hs.advances rfl (Moment.exists_receive hd hstage answer draw)
  | resting attempt pause =>
      exact .rests place attempt pause d hd hstage
        (hs.advances rfl (Moment.exists_resume hd (Or.inr ⟨attempt, pause, hstage⟩)))
  | settled attempts outcome => simp [hstage, Stage.finished] at hfinished
  | panicked panic => simp [hstage, Stage.finished] at hfinished

/-- The head of the line begins its cycle, ends it, or waits for a batch. -/
theorem free_or_waits_of_owner (hs : Standing settings m) {owner : Claimant}
    {rest : List Claimant} (hline : m.state.line = owner :: rest) :
    Free settings m owner.party ∨ ∃ q, m.state.Waits owner.party q := by
  have hhead : m.state.line.head?.map Claimant.party = some owner.party := by rw [hline]; rfl
  cases hcycle : m.state.cycle with
  | none =>
      refine Or.inl (.acts _ .beginCycle (fun now => ⟨hhead, beq_self_eq_true now⟩) fun now => ?_)
      exact hs.advances hhead (Moment.exists_beginCycle hline hcycle now)
  | some cycle =>
      cases hfinished : cycle.finished with
      | true =>
          refine Or.inl (.acts _ .endCycle (fun now => ⟨hhead, beq_self_eq_true now⟩) fun now => ?_)
          exact hs.advances hhead (Moment.exists_endCycle hline hcycle hfinished now)
      | false =>
          obtain ⟨place, d, hd, hunfinished⟩ := State.exists_unfinished_of_cycle hcycle hfinished
          exact Or.inr ⟨_, .batch owner rest place d hline hd hunfinished⟩

theorem free_or_waits_of_mem (hs : Standing settings m) {x : Claimant} (hx : x ∈ m.state.line) :
    Free settings m x.party ∨ ∃ q, m.state.Waits x.party q := by
  cases hline : m.state.line with
  | nil => simp [hline] at hx
  | cons owner rest =>
      rw [hline, List.mem_cons] at hx
      rcases hx with rfl | hx
      · exact hs.free_or_waits_of_owner hline
      · exact Or.inr ⟨_, .line owner rest x hline hx⟩

theorem free_or_waits_of_timer (hs : Standing settings m)
    (hunfinished : m.state.unfinished .timer = true) :
    Free settings m .timer ∨ ∃ q, m.state.Waits .timer q := by
  cases htimer : m.state.timer with
  | armed due =>
      by_cases hphase : m.state.phase = .running
      · exact Or.inl (.ticks due htimer fun now hdue =>
          hs.advances rfl (Moment.exists_tick hphase htimer hdue))
      · refine Or.inl (.acts _ (fun _ => .leaveTimer) (fun _ => ⟨rfl, rfl⟩) fun _ => ?_)
        obtain ⟨m', hm', _⟩ := Moment.exists_leaveTimer settings htimer hphase
        exact hs.advances rfl ⟨m', hm'⟩
  | busy due => exact hs.free_or_waits_of_mem (hs.timed.mem_line_iff.mpr (by rw [htimer]; rfl))
  | absent | ended | crashed => simp [State.unfinished, htimer, Timer.isGone] at hunfinished

theorem free_or_waits_of_call (hs : Standing settings m) {call : Nat}
    (hunfinished : m.state.unfinished (.call call) = true) :
    Free settings m (.call call) ∨ ∃ q, m.state.Waits (.call call) q := by
  obtain ⟨stage, hcall, hpending⟩ := (Option.any_eq_true _ _).mp hunfinished
  cases stage with
  | inLine =>
      obtain ⟨x, hx, hown⟩ := hs.placed.inLine call hcall
      exact Claimant.party_eq_call.mpr hown ▸ hs.free_or_waits_of_mem hx
  | awaitingTimer =>
      cases htimer : m.state.timer.isGone with
      | false => exact Or.inr ⟨_, .timer call hcall htimer⟩
      | true =>
          refine Or.inl (.acts _ (fun _ => .timerGone call) (fun _ => ⟨rfl, rfl⟩) fun _ => ?_)
          refine hs.advances rfl (Moment.exists_next ?_)
          simp only [step, State.timerGone, hcall, htimer, if_true]
          exact ⟨_, rfl⟩
  | closing stats =>
      refine Or.inl (.closes call stats hcall fun failure => ?_)
      refine hs.advances rfl (Moment.exists_next ?_)
      simp only [step, State.transportClosed, hcall]
      exact ⟨_, rfl⟩
  | awaitingStop =>
      by_cases hphase : m.state.phase = .stopped
      · refine Or.inl (.acts _ (fun _ => .stopSeen call) (fun _ => ⟨rfl, rfl⟩) fun _ => ?_)
        refine hs.advances rfl (Moment.exists_next ?_)
        simp only [step, State.stopSeen, hcall, hphase, if_true, Option.map_some]
        exact ⟨_, rfl⟩
      · obtain ⟨leader, hleader⟩ := hs.sound.exists_leads (hs.placed.joined call hcall) hphase
        exact Or.inr ⟨_, .stop call leader hcall hphase hleader⟩
  | flushed stats | finished | abandoned => cases hpending

/-- Whoever is not done goes on, or waits for somebody. -/
theorem free_or_waits (hs : Standing settings m) (hunfinished : m.state.unfinished p = true) :
    Free settings m p ∨ ∃ q, m.state.Waits p q := by
  cases p with
  | timer => exact hs.free_or_waits_of_timer hunfinished
  | call number => exact hs.free_or_waits_of_call hunfinished
  | batch place => exact Or.inl (hs.free_of_batch hunfinished)

theorem exists_free (hs : Standing settings m) (hunfinished : m.state.unfinished p = true) :
    ∃ q, Relation.ReflTransGen m.state.Waits p q ∧ Free settings m q := by
  induction hrank : m.state.rank p using Nat.strongRecOn generalizing p with
  | ind rank ih =>
      rcases hs.free_or_waits hunfinished with hfree | ⟨q, hwaits⟩
      · exact ⟨p, .refl, hfree⟩
      · obtain ⟨r, hlater, hfree⟩ := ih _ (hrank ▸ hs.rank_lt_of_waits hwaits)
          (hs.unfinished_of_waits hwaits).2 rfl
        exact ⟨r, .head hwaits hlater, hfree⟩

/-- The end of a cycle takes its owner out of the line. -/
theorem ends (hs : Standing settings m) {owner : Claimant} {rest : List Claimant} {cycle : Cycle}
    (hline : m.state.line = owner :: rest) (hcycle : m.state.cycle = some cycle)
    (hfinished : cycle.finished = true) (now : Nat) :
    ∃ m', m.next? settings (.endCycle now) = some m' ∧ m'.state.line = rest ∧
      m'.state.cycle = none ∧
      m.state.Forward settings.channel.backoff.attempts m'.state owner.party := by
  obtain ⟨m', hnext⟩ := Moment.exists_endCycle hline hcycle hfinished now
  have hparty : (Action.endCycle now).party? m.state = some owner.party := by
    rw [Action.party?, hline]
    rfl
  obtain ⟨effects, hturn⟩ := Moment.turn_of_next? rfl hnext
  have hleft : m'.state.line = rest ∧ m'.state.cycle = none := by
    generalize m'.state = s' at hturn ⊢
    cases hturn with
    | endCycle owner' rest' cycle' _ hline' _ _ =>
        rw [hline, List.cons.injEq] at hline'
        exact ⟨hline'.2 ▸ State.line_finishCycle .., State.cycle_finishCycle ..⟩
  exact ⟨m', hnext, hleft.1, hleft.2, hs.forward hparty hnext⟩

/-- A timer that somebody waits for does not tick. -/
theorem busy_or_shut_of_waits (hs : Standing settings m) (hwaits : m.state.Waits p .timer) :
    m.state.timer.isBusy = true ∨ m.state.phase ≠ .running := by
  generalize htimer : Party.timer = q at hwaits
  cases hwaits with
  | line owner rest x hline hx =>
      obtain rfl := Claimant.party_eq_timer.mp htimer.symm
      exact Or.inl (hs.timed.mem_line_iff.mp (hline ▸ List.mem_cons_self))
  | batch owner rest place d hline hd hunfinished => cases htimer
  | timer call hcall hgone =>
      have hshut := hs.shut_of_leads (Or.inl hcall)
      refine Or.inr fun hphase => ?_
      rw [hphase] at hshut
      cases hshut
  | stop call leader hcall hphase hleads => cases htimer

/-- A call comes closer to its return with every step of those it waits for. -/
theorem closer_of_chain (hs : Standing settings m) (hs' : Standing settings m') {call : Nat}
    (hchain : Relation.ReflTransGen m.state.Waits (.call call) q) {action : Action}
    (hparty : action.party? m.state = some q) (hnext : m.next? settings action = some m') :
    m'.state.callDistance settings.channel.backoff.attempts call <
      m.state.callDistance settings.channel.backoff.attempts call := by
  have hfollows : m.Follows settings m' := ⟨action, Action.ordinary_of_party hparty, hnext⟩
  have hawaited : q = .timer → m.state.timer.isBusy = true ∨ m.state.phase ≠ .running := by
    rintro rfl
    rcases hchain.cases_tail with heq | ⟨p, _, hwaits⟩
    · cases heq
    · exact hs.busy_or_shut_of_waits hwaits
  -- From the one that acts back to the call.
  show m'.state.distance _ (.call call) < m.state.distance _ (.call call)
  generalize Party.call call = p at hchain ⊢
  induction hchain using Relation.ReflTransGen.head_induction_on with
  | refl => exact hs.closer_of_act hs' hparty hnext hawaited
  | head hwaits _ ih => exact hs.closer_of_waits hs' hfollows hwaits ih

end Standing

theorem Reached.exists_return {settings : Settings} {m : Moment} (h : Reached settings m)
    {call : Nat} (hunfinished : m.state.unfinished (.call call) = true) :
    ∃ m', Run settings m m' ∧ m'.state.unfinished (.call call) = false := by
  induction hdistance : m.state.callDistance settings.channel.backoff.attempts call using
    WellFoundedLT.induction generalizing m with
  | ind distance ih =>
      obtain ⟨q, hchain, hfree⟩ := h.standing.exists_free hunfinished
      obtain ⟨action, m', hparty, hnext⟩ := hfree.exists_action
      have hfollows : m.Follows settings m' := ⟨action, Action.ordinary_of_party hparty, hnext⟩
      have h' : Reached settings m' := h.run (.single hfollows)
      cases hdone : m'.state.unfinished (.call call) with
      | false => exact ⟨m', .single hfollows, hdone⟩
      | true =>
          have hcloser := h.standing.closer_of_chain h'.standing hchain hparty hnext
          obtain ⟨last, hrun, hreturned⟩ := ih _ (hdistance ▸ hcloser) h' hdone rfl
          exact ⟨last, .head hfollows hrun, hreturned⟩

/-- No deadlock at a moment. -/
structure DeadlockFree (settings : Settings) (m : Moment) : Prop where
  /-- A call that has not returned waits, directly or through others, for somebody that goes on at
  once, with the transport, or with the clock. -/
  progress : ∀ call, m.state.unfinished (.call call) = true →
    ∃ q, Relation.ReflTransGen m.state.Waits (.call call) q ∧ Free settings m q
  /-- The same holds of the timer and of every batch: nobody else holds them up for good. -/
  others : ∀ p, m.state.unfinished p = true → Free settings m p ∨ ∃ q, m.state.Waits p q
  /-- Among any parties there is one that waits for none of them. -/
  unlocked : ∀ parties : Set Party, parties.Nonempty →
    ∃ p ∈ parties, ∀ q ∈ parties, ¬m.state.Waits p q
  /-- Nobody waits for somebody who is done. -/
  needed : ∀ p q, m.state.Waits p q → m.state.unfinished q = true
  /-- Whoever waits cannot act until then. -/
  blocked : ∀ p q, m.state.Waits p q → ∀ action, action.party? m.state = some p →
    m.next? settings action = none
  /-- A batch whose sending panics is over: its cycle does not wait for it any more. -/
  released : ∀ place panic draw m',
    m.next? settings (.receive place (.panic panic) draw) = some m' →
    m'.state.unfinished (.batch place) = false
  /-- A cycle whose batches are over, by a panic or otherwise, ends.  Its owner leaves the line and
  has its answer. -/
  ends : ∀ owner rest cycle, m.state.line = owner :: rest → m.state.cycle = some cycle →
    cycle.finished = true → ∀ now, ∃ m', m.next? settings (.endCycle now) = some m' ∧
      m'.state.line = rest ∧ m'.state.cycle = none ∧
      m.state.Forward settings.channel.backoff.attempts m'.state owner.party
  /-- Whoever acts gets on: no step of the parties is idle. -/
  forward : ∀ p action m', action.party? m.state = some p → m.next? settings action = some m' →
    m.state.Forward settings.channel.backoff.attempts m'.state p
  /-- Each step of somebody a call waits for, or of the call itself, takes it closer to its return. -/
  closer : ∀ call q action m', Relation.ReflTransGen m.state.Waits (.call call) q →
    action.party? m.state = some q → m.next? settings action = some m' →
    m'.state.callDistance settings.channel.backoff.attempts call <
      m.state.callDistance settings.channel.backoff.attempts call
  /-- No step of anybody takes a call that has not returned farther from its return. -/
  kept : ∀ call action m', m.state.unfinished (.call call) = true → action.ordinary = true →
    m.next? settings action = some m' →
    m'.state.callDistance settings.channel.backoff.attempts call ≤
      m.state.callDistance settings.channel.backoff.attempts call
  /-- A call that has not returned can return. -/
  returns : ∀ call, m.state.unfinished (.call call) = true →
    ∃ m', Run settings m m' ∧ m'.state.unfinished (.call call) = false

/-- No moment of any run is a deadlock. -/
theorem deadlock_free {settings : Settings} {m : Moment} (h : Reached settings m) :
    DeadlockFree settings m := by
  have hs := h.standing
  constructor
  case progress => exact fun call hunfinished => hs.exists_free hunfinished
  case others => exact fun p hunfinished => hs.free_or_waits hunfinished
  case unlocked =>
    intro parties hsome
    obtain ⟨p, hp, hlowest⟩ := (measure m.state.rank).wf.has_min parties hsome
    exact ⟨p, hp, fun q hq hwaits => hlowest q hq (hs.rank_lt_of_waits hwaits)⟩
  case needed => exact fun p q hwaits => (hs.unfinished_of_waits hwaits).2
  case blocked => exact fun p q hwaits action hparty => hs.blocked_of_waits hwaits hparty
  case ends =>
    exact fun owner rest cycle hline hcycle hfinished => hs.ends hline hcycle hfinished
  case forward => exact fun p action m' => hs.forward
  case closer =>
    intro call q action m' hchain hparty hnext
    have h' : Reached settings m' := h.run (.single ⟨action, Action.ordinary_of_party hparty, hnext⟩)
    exact hs.closer_of_chain h'.standing hchain hparty hnext
  case kept =>
    intro call action m' hunfinished hordinary hnext
    have h' : Reached settings m' := h.run (.single ⟨action, hordinary, hnext⟩)
    exact hs.callDistance_le h'.standing ⟨action, hordinary, hnext⟩ hunfinished
  case returns => exact fun call hunfinished => h.exists_return hunfinished
  case released => exact fun place panic draw m' hnext => Moment.released hnext

/-- Of the batches of the timer one has panicked, one was rejected to a reporter that panics, and one is
being sent.  A flush waits in line, a shutdown for the timer, and another shutdown for that one. -/
theorem deadlock_free_behind_panic :
    ∃ settings m, Reached settings m ∧ m.state.phase = .draining ∧
      m.state.line = [.timer, .flush 0] ∧
      m.state.calls = [.inLine, .awaitingTimer, .awaitingStop] ∧
      (m.state.cycle.map fun c => c.deliveries.map Delivery.stage) =
        some [.panicked ⟨"broken"⟩, .settled 1 (.totalFailure 400 "bad request" false),
          .sending 1] ∧
      DeadlockFree settings m := by
  let config : Config := { batchSize := 1, flushInterval := .ofSeconds 1 }
  let actions : List Action := [
    .start true 0, .enqueue ⟨[]⟩, .enqueue ⟨[]⟩, .enqueue ⟨[]⟩, .tick 1000000000,
    .beginCycle 1000000000, .beginFlush, .resume 0, .resume 1, .beginShutdown, .resume 2,
    .receive 0 (.panic ⟨"broken"⟩) some, .beginShutdown,
    .receive 1 (.outcome (.totalFailure 400 "bad request" false)) some]
  have hcheck : ((Moment.first { buffer := Buffer.empty config.maxQueueSize }).after?
      (.ofConfig config "http" (.panic none)) actions).any (fun m =>
        decide (m.state.phase = .draining ∧ m.state.line = [.timer, .flush 0] ∧
          m.state.calls = [.inLine, .awaitingTimer, .awaitingStop] ∧
          (m.state.cycle.map fun c => c.deliveries.map Delivery.stage) =
            some [.panicked ⟨"broken"⟩, .settled 1 (.totalFailure 400 "bad request" false),
              .sending 1])) = true := by
    decide +kernel
  obtain ⟨m, hm, hfacts⟩ := (Option.any_eq_true _ _).mp hcheck
  obtain ⟨hphase, hline, hcalls, hstages⟩ := of_decide_eq_true hfacts
  have hreached := Reached.of_after? (by decide +kernel) (by decide) hm
  exact ⟨_, m, hreached, hphase, hline, hcalls, hstages, deadlock_free hreached⟩

end Courier.Scheduler
