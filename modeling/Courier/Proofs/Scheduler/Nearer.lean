import Mathlib.Data.List.Count
import Courier.Proofs.Scheduler.Distance
/-!
Every step of the others brings a call closer to its return, or leaves it where it is.

Whoever acts gets closer to its end, and whoever waits gets closer with the one it waits for.
-/
namespace Courier.Scheduler

/-- What a step does to a call. -/
inductive Call.Moves (m m' : Moment) (call : Nat) : Call → Call → Prop
  | stays (stage : Call) : Moves m m' call stage stage
  | flushed (stats : CycleStats) : Moves m m' call .inLine (.flushed stats)
  | final (stats : CycleStats) : Moves m m' call .inLine (.closing stats)
  | lined (hline' : m'.state.line = m.state.line ++ [.shutdown call]) :
      Moves m m' call .awaitingTimer .inLine
  | closed (stats : CycleStats) (hphase' : m'.state.phase = .stopped) :
      Moves m m' call (.closing stats) .finished
  | joined (hphase : m.state.phase = .stopped) : Moves m m' call .awaitingStop .finished

theorem CallStep.moves {m m' : Moment} (hq : Queued m) (h : CallStep m m') {call : Nat}
    {stage : Call} (hcall : m.state.calls[call]? = some stage) :
    ∃ stage', m'.state.calls[call]? = some stage' ∧ stage.Moves m m' call stage' := by
  have hlt : call < m.state.calls.length := (List.getElem?_eq_some_iff.mp hcall).1
  have hsame : m'.state.calls = m.state.calls →
      ∃ stage', m'.state.calls[call]? = some stage' ∧ stage.Moves m m' call stage' :=
    fun hcalls => ⟨stage, hcalls ▸ hcall, .stays stage⟩
  have hconcat : ∀ {new : Call}, m'.state.calls = m.state.calls ++ [new] →
      ∃ stage', m'.state.calls[call]? = some stage' ∧ stage.Moves m m' call stage' := by
    intro new hcalls
    exact ⟨stage, by rw [hcalls, List.getElem?_append_left hlt, hcall], .stays stage⟩
  have hset : ∀ {own : Nat} {before after : Call}, m.state.calls[own]? = some before →
      m'.state.calls = m.state.calls.set own after → before.Moves m m' own after →
      ∃ stage', m'.state.calls[call]? = some stage' ∧ stage.Moves m m' call stage' := by
    intro own before after hbefore hcalls hmoves
    by_cases hown : own = call
    · subst hown
      rw [hcall, Option.some.injEq] at hbefore
      subst hbefore
      exact ⟨after, by rw [hcalls, List.getElem?_set_self hlt], hmoves⟩
    · exact ⟨stage, by rw [hcalls, List.getElem?_set_ne hown, hcall], .stays stage⟩
  cases h with
  | aside hstill hphase hline hcalls => exact hsame hcalls
  | tick hstill hphase hline hcalls => exact hsame hcalls
  | flushQueued hstill hphase hstate => exact hconcat (by rw [hstate])
  | flushSkipped hstill hphase hstate => exact hconcat (by rw [hstate])
  | shutdownBegun hstill hphase hstate => exact hconcat (by rw [hstate])
  | shutdownJoined hstill hphase hstate => exact hconcat (by rw [hstate])
  | cycleReturned claimant rest stats hreturned hclosings hphase hline hline' hcalls =>
      have hwaiting := hq.waiting claimant (hline ▸ List.mem_cons_self)
      cases claimant with
      | timer => exact hsame hcalls
      | flush own => exact hset (hwaiting own rfl) hcalls (.flushed stats)
      | shutdown own => exact hset (hwaiting own rfl) hcalls (.final stats)
  | timerGone own hstill hown hstate =>
      exact hset hown (by rw [hstate]; rfl) (.lined (by rw [hstate]))
  | transportClosed own stats hstill hown hstate =>
      exact hset hown (by rw [hstate]; rfl) (.closed stats (by rw [hstate]))
  | stopSeen own hstill hown hphase hstate =>
      exact hset hown (by rw [hstate]; rfl) (.joined hphase)

/-- One shutdown leads: it waits for the timer, is in line, or waits for the transport. -/
theorem Led.leads_once {m : Moment} (hl : Led m) :
    m.state.line.countP Claimant.isShutdown + m.state.calls.countP Call.awaitsTimer +
        m.state.calls.countP Call.isClosing + (if m.state.phase = .stopped then 1 else 0) =
      if m.state.phase.accepts then 0 else 1 := by
  have honce := hl.once
  have hclosing := hl.closing
  have htold := hl.told
  rw [Led.countP_claims] at honce
  omega

/-- On which rung somebody in line stands. -/
def Claimant.level : Claimant → Nat
  | .timer => 6
  | .flush _ | .shutdown _ => 3

namespace State

variable {attempts : Nat} {s : State}

theorem callDistance_of {call : Nat} {stage : Call} (hcall : s.calls[call]? = some stage) :
    s.callDistance attempts call =
      match stage with
      | .inLine => rung 3 (s.ahead attempts (·.party == .call call))
      | .awaitingTimer => s.timerDistance attempts
      | .closing _ => rung 2
      | .awaitingStop => s.stopDistance attempts
      | .flushed _ | .finished | .abandoned => rung 0 := by
  cases stage <;> simp only [callDistance, hcall]

/-- The shutdown that leads is counted where it is. -/
theorem Leads.countP_pos {call : Nat} (h : s.Leads call) :
    s.calls[call]? = some .awaitingTimer ∧ 0 < s.calls.countP Call.awaitsTimer ∨
      .shutdown call ∈ s.line ∧ 0 < s.line.countP Claimant.isShutdown ∨
      ∃ stats, s.calls[call]? = some (.closing stats) ∧ 0 < s.calls.countP Call.isClosing := by
  rcases h with hcall | hline | ⟨stats, hcall⟩
  · exact Or.inl ⟨hcall, List.countP_pos_iff.mpr ⟨_, List.mem_of_getElem? hcall, rfl⟩⟩
  · exact Or.inr (Or.inl ⟨hline, List.countP_pos_iff.mpr ⟨_, hline, rfl⟩⟩)
  · have hpos : 0 < s.calls.countP Call.isClosing :=
      List.countP_pos_iff.mpr ⟨_, List.mem_of_getElem? hcall, rfl⟩
    exact Or.inr (Or.inr ⟨stats, hcall, hpos⟩)

theorem rung_lt_timerDistance {level : Nat} (hlt : level < 4) (place : ℕ ×ₗ ℕ) :
    rung level place < s.timerDistance attempts := by
  unfold timerDistance
  split <;> exact rung_lt_of_level (by omega) _ _

theorem stopDistance_of_stopped (hphase : s.phase = .stopped) :
    s.stopDistance attempts = rung 1 := if_pos hphase

theorem rung_lt_stopDistance (hphase : s.phase ≠ .stopped) :
    rung 1 < s.stopDistance attempts := by
  unfold stopDistance
  rw [if_neg hphase]
  split
  · exact rung_lt_of_level (by omega) _ _
  · split
    · exact rung_lt_of_level (by omega) _ _
    · exact rung_lt_timerDistance (by omega) _

end State

namespace Standing

variable {settings : Settings} {m m' : Moment} {p q : Party} {attempts : Nat}

theorem distance_of_mem (hs : Standing settings m) {x : Claimant} (hx : x ∈ m.state.line) :
    m.state.distance attempts x.party =
      rung x.level (m.state.ahead attempts (·.party == x.party)) := by
  cases x with
  | timer =>
      have hbusy := hs.timed.mem_line_iff.mp hx
      show m.state.timerDistance attempts = _
      cases htimer : m.state.timer with
      | busy due => simp only [State.timerDistance, htimer]; rfl
      | absent | armed due | ended | crashed => simp [htimer, Timer.isBusy] at hbusy
  | flush call => exact State.callDistance_of (hs.inLine_of_mem hx rfl)
  | shutdown call => exact State.callDistance_of (hs.inLine_of_mem hx rfl)

/-- A call that a step moves comes closer to its return. -/
theorem stays_or_closer (hs : Standing settings m) (h : m.Follows settings m') {call : Nat}
    {stage : Call} (hcall : m.state.calls[call]? = some stage) :
    m'.state.calls[call]? = some stage ∨
      m'.state.callDistance attempts call < m.state.callDistance attempts call := by
  obtain ⟨stage', hcall', hmoves⟩ := (h.callStep hs.sound.paced).moves hs.sound.queued hcall
  rw [State.callDistance_of hcall, State.callDistance_of hcall']
  cases hmoves with
  | stays => exact Or.inl hcall'
  | flushed stats | final stats => exact Or.inr (rung_lt_of_level (by decide) _ _)
  | lined hline' => exact Or.inr (State.rung_lt_timerDistance (by decide) _)
  | closed stats hphase' => exact Or.inr (rung_lt_of_level (by decide) _ _)
  | joined hphase =>
      rw [State.stopDistance_of_stopped hphase]
      exact Or.inr (rung_lt_of_level (by decide) _ _)

/-- Whoever leaves the line has what it stood there for. -/
theorem closer_of_left (hs : Standing settings m) (hs' : Standing settings m')
    (h : m.Follows settings m') {x : Claimant} (hx : x ∈ m.state.line)
    (hx' : x ∉ m'.state.line) :
    m'.state.distance attempts x.party < m.state.distance attempts x.party := by
  obtain ⟨stats, hcalls⟩ := ((h.callStep hs.sound.paced).line_cases hx).resolve_left hx'
  have hleft : ∀ (call : Nat) (stage : Call), m.state.calls[call]? = some .inLine →
      stage ≠ .inLine → m'.state.calls = m.state.calls.set call stage →
      m'.state.callDistance attempts call < m.state.callDistance attempts call := by
    intro call stage hcall hstage hset
    refine (hs.stays_or_closer h hcall).resolve_left ?_
    rw [hset, List.getElem?_set_self (List.getElem?_eq_some_iff.mp hcall).1]
    exact fun heq => hstage (Option.some.inj heq)
  cases x with
  | timer =>
      rw [hs'.timed.mem_line_iff, Bool.not_eq_true] at hx'
      rw [hs.distance_of_mem hx]
      show m'.state.timerDistance attempts < _
      cases htimer : m'.state.timer with
      | busy due => simp [htimer, Timer.isBusy] at hx'
      | absent | armed due | ended | crashed =>
          simp only [State.timerDistance, htimer]
          exact rung_lt_of_level (by decide) _ _
  | flush call => exact hleft call (.flushed stats) (hs.inLine_of_mem hx rfl) (by simp) hcalls
  | shutdown call => exact hleft call (.closing stats) (hs.inLine_of_mem hx rfl) (by simp) hcalls

/-- Somebody in line comes closer, or the step only let others in. -/
theorem closer_or_grown (hs : Standing settings m) (hs' : Standing settings m')
    (h : m.Follows settings m') {x : Claimant} (hx : x ∈ m.state.line) :
    m'.state.distance settings.channel.backoff.attempts x.party <
        m.state.distance settings.channel.backoff.attempts x.party ∨
      ∃ more, m'.state.line = m.state.line ++ more ∧ m'.state.cycle = m.state.cycle := by
  by_cases hx' : x ∈ m'.state.line
  · obtain ⟨action, effects, hturn, _⟩ := h.turn
    rw [hs.distance_of_mem hx, hs'.distance_of_mem hx']
    refine (hturn.lineStep.grown_or_lt fun owner hline => ?_).symm.imp_left (rung_lt_of_place _)
    exact beq_false_of_ne (hs.party_ne_of_mem hline hx').symm
  · exact Or.inl (hs.closer_of_left hs' h hx hx')

/-- A step that only lets others in leaves those in line where they are. -/
theorem distance_of_grown (hs : Standing settings m) (hs' : Standing settings m') {x : Claimant}
    (hx : x ∈ m.state.line) {more : List Claimant}
    (hline : m'.state.line = m.state.line ++ more) (hcycle : m'.state.cycle = m.state.cycle) :
    m'.state.distance attempts x.party = m.state.distance attempts x.party := by
  have hx' : x ∈ m'.state.line := hline ▸ List.mem_append_left _ hx
  rw [hs.distance_of_mem hx, hs'.distance_of_mem hx']
  exact congrArg _ (State.ahead_of_grown ⟨x, hx, beq_self_eq_true _⟩ hline hcycle)

theorem distance_le_of_mem (hs : Standing settings m) (hs' : Standing settings m')
    (h : m.Follows settings m') {x : Claimant} (hx : x ∈ m.state.line) :
    m'.state.distance settings.channel.backoff.attempts x.party ≤
      m.state.distance settings.channel.backoff.attempts x.party := by
  rcases hs.closer_or_grown hs' h hx with hlt | ⟨more, hline, hcycle⟩
  · exact hlt.le
  · exact (hs.distance_of_grown hs' hx hline hcycle).le

/-- Once a shutdown has begun the timer does not start over. -/
theorem timerDistance_le (hs : Standing settings m) (hs' : Standing settings m')
    (h : m.Follows settings m') (hshut : m.state.phase.accepts = false) :
    m'.state.timerDistance settings.channel.backoff.attempts ≤
      m.state.timerDistance settings.channel.backoff.attempts := by
  obtain ⟨action, effects, hturn, _⟩ := h.turn
  by_cases hmem : .timer ∈ m.state.line
  · exact hs.distance_le_of_mem hs' h hmem
  · cases hturn.timerStep with
    | still _ htimer hcount hlined =>
        rw [hs.timed.mem_line_iff, Bool.not_eq_true] at hmem
        cases hbefore : m.state.timer with
        | busy due => simp [hbefore, Timer.isBusy] at hmem
        | absent | armed due | ended | crashed => simp [State.timerDistance, htimer, hbefore]
    | started now hphase hphase' htimer hline =>
        rw [hphase] at hshut
        cases hshut
    | ticked due now hphase htimer htimer' hline =>
        rw [hphase] at hshut
        cases hshut
    | rested _ rest hline hline' htimer => exact absurd (hline ▸ List.mem_cons_self) hmem
    | left due hphase htimer htimer' hline =>
        simp only [State.timerDistance, htimer, htimer']
        exact (rung_lt_of_level (by decide) _ _).le

/-- The shutdown in line is the only one there. -/
theorem isShutdown_eq (hs : Standing settings m) {call : Nat}
    (hline : .shutdown call ∈ m.state.line) {x : Claimant} (hx : x ∈ m.state.line) :
    x.isShutdown = (x.party == .call call) := by
  rw [Bool.eq_iff_iff, beq_iff_eq]
  constructor
  · intro hfinal
    by_contra hne
    have honce := hs.sound.led.leads_once
    have hle : (if m.state.phase.accepts then 0 else 1) ≤ 1 := by split <;> omega
    have hother : x ∈ m.state.line.erase (.shutdown call) :=
      (List.mem_erase_of_ne fun heq => hne (congrArg Claimant.party heq)).mpr hx
    have hpos := List.countP_pos_iff.mpr ⟨x, hother, hfinal⟩
    rw [List.countP_erase, if_pos ⟨hline, rfl⟩] at hpos
    omega
  · intro hparty
    rw [hs.eq_of_party hx hline hparty]
    rfl

/-- A shutdown leads only once no more events are taken. -/
theorem shut_of_leads (hs : Standing settings m) {call : Nat} (hleads : m.state.Leads call) :
    m.state.phase.accepts = false := by
  have honce := hs.sound.led.leads_once
  rw [Bool.eq_false_iff]
  intro haccepts
  rw [if_pos haccepts] at honce
  rcases hleads.countP_pos with ⟨_, hpos⟩ | ⟨_, hpos⟩ | ⟨_, _, hpos⟩ <;> omega

/-- The scheduler is as far from being stopped as the shutdown that leads from its return. -/
theorem stopDistance_eq (hs : Standing settings m) {call : Nat} (hleads : m.state.Leads call)
    (hphase : m.state.phase ≠ .stopped) :
    m.state.stopDistance attempts = m.state.callDistance attempts call := by
  have honce := hs.sound.led.leads_once
  have hle : (if m.state.phase.accepts then 0 else 1) ≤ 1 := by split <;> omega
  unfold State.stopDistance
  simp only [List.any_eq_true, ← List.countP_pos_iff]
  rw [if_neg hphase]
  rcases hleads.countP_pos with ⟨hcall, hpos⟩ | ⟨hline, hpos⟩ | ⟨stats, hcall, hpos⟩
  · rw [State.callDistance_of hcall, if_neg (by omega), if_neg (by omega)]
  · rw [State.callDistance_of (hs.inLine_of_mem hline rfl), if_neg (by omega), if_pos hpos]
    exact congrArg _ (State.ahead_congr fun x hx => hs.isShutdown_eq hline hx)
  · rw [State.callDistance_of hcall, if_pos hpos]

/-- The shutdown that leads goes on to lead until the scheduler is stopped. -/
theorem leads_step (hs : Standing settings m) (h : CallStep m m') {call : Nat}
    (hleads : m.state.Leads call) : m'.state.phase = .stopped ∨ m'.state.Leads call := by
  rcases hleads with hcall | hline | ⟨stats, hcall⟩
  · obtain ⟨stage, hcall', hmoves⟩ := h.moves hs.sound.queued hcall
    cases hmoves with
    | stays => exact Or.inr (Or.inl hcall')
    | lined hline' =>
        exact Or.inr (Or.inr (Or.inl (hline' ▸ List.mem_append_right _ List.mem_cons_self)))
  · rcases h.line_cases hline with hline' | ⟨stats, hcalls⟩
    · exact Or.inr (Or.inr (Or.inl hline'))
    · have hlt := (List.getElem?_eq_some_iff.mp (hs.inLine_of_mem hline rfl)).1
      refine Or.inr (Or.inr (Or.inr ⟨stats, ?_⟩))
      rw [hcalls]
      exact List.getElem?_set_self hlt
  · obtain ⟨stage, hcall', hmoves⟩ := h.moves hs.sound.queued hcall
    cases hmoves with
    | stays => exact Or.inr (Or.inr (Or.inr ⟨stats, hcall'⟩))
    | closed stats hphase' => exact Or.inl hphase'

theorem callDistance_le_of_leads (hs : Standing settings m) (hs' : Standing settings m')
    (h : m.Follows settings m') {call : Nat} (hleads : m.state.Leads call) :
    m'.state.callDistance settings.channel.backoff.attempts call ≤
      m.state.callDistance settings.channel.backoff.attempts call := by
  have hshut := hs.shut_of_leads hleads
  rcases hleads with hcall | hline | ⟨stats, hcall⟩
  · rcases hs.stays_or_closer h hcall with hcall' | hlt
    · rw [State.callDistance_of hcall, State.callDistance_of hcall']
      exact hs.timerDistance_le hs' h hshut
    · exact hlt.le
  · exact hs.distance_le_of_mem hs' h hline
  · rcases hs.stays_or_closer h hcall with hcall' | hlt
    · rw [State.callDistance_of hcall, State.callDistance_of hcall']
    · exact hlt.le

/-- After a step the scheduler is stopped, or as far from it as the shutdown that leads. -/
theorem stopDistance_step (hs : Standing settings m) (hs' : Standing settings m')
    (h : CallStep m m') {leader : Nat} (hleads : m.state.Leads leader)
    (hphase : m.state.phase ≠ .stopped) :
    m'.state.stopDistance attempts < m.state.stopDistance attempts ∨
      m'.state.stopDistance attempts = m'.state.callDistance attempts leader := by
  by_cases hphase' : m'.state.phase = .stopped
  · rw [State.stopDistance_of_stopped hphase']
    exact Or.inl (State.rung_lt_stopDistance hphase)
  · have hleads' := (hs.leads_step h hleads).resolve_left hphase'
    exact Or.inr (hs'.stopDistance_eq hleads' hphase')

theorem stopDistance_le (hs : Standing settings m) (hs' : Standing settings m')
    (h : m.Follows settings m') (hshut : m.state.phase.accepts = false) :
    m'.state.stopDistance settings.channel.backoff.attempts ≤
      m.state.stopDistance settings.channel.backoff.attempts := by
  have hcallStep := h.callStep hs.sound.paced
  by_cases hphase : m.state.phase = .stopped
  · have hphase' : m'.state.phase = .stopped := by
      rcases hcallStep.phase_cases with heq | ⟨hidle, _⟩ | ⟨haccepts, _⟩ | hstopped
      · rw [heq, hphase]
      · simp [hphase] at hidle
      · simp [hshut] at haccepts
      · exact hstopped
    rw [State.stopDistance_of_stopped hphase, State.stopDistance_of_stopped hphase']
  · obtain ⟨leader, hleads⟩ := hs.sound.exists_leads hshut hphase
    rcases hs.stopDistance_step hs' hcallStep hleads hphase with hlt | heq
    · exact hlt.le
    · rw [heq, hs.stopDistance_eq hleads hphase]
      exact hs.callDistance_le_of_leads hs' h hleads

theorem callDistance_le (hs : Standing settings m) (hs' : Standing settings m')
    (h : m.Follows settings m') {call : Nat}
    (hunfinished : m.state.unfinished (.call call) = true) :
    m'.state.callDistance settings.channel.backoff.attempts call ≤
      m.state.callDistance settings.channel.backoff.attempts call := by
  obtain ⟨stage, hcall, hpending⟩ := (Option.any_eq_true _ _).mp hunfinished
  cases stage with
  | inLine =>
      obtain ⟨x, hx, hown⟩ := hs.placed.inLine call hcall
      have hle := hs.distance_le_of_mem hs' h hx
      rwa [Claimant.party_eq_call.mpr hown] at hle
  | awaitingTimer => exact hs.callDistance_le_of_leads hs' h (Or.inl hcall)
  | closing stats => exact hs.callDistance_le_of_leads hs' h (Or.inr (Or.inr ⟨stats, hcall⟩))
  | awaitingStop =>
      rcases hs.stays_or_closer h hcall with hcall' | hlt
      · rw [State.callDistance_of hcall, State.callDistance_of hcall']
        exact hs.stopDistance_le hs' h (hs.placed.joined call hcall)
      · exact hlt.le
  | flushed stats | finished | abandoned => cases hpending

/-- Whoever acts comes closer to its end, but for the timer that ticks while nobody waits for it. -/
theorem closer_of_act (hs : Standing settings m) (hs' : Standing settings m') {action : Action}
    (hparty : action.party? m.state = some p) (hnext : m.next? settings action = some m')
    (hawaited : p = .timer → m.state.timer.isBusy = true ∨ m.state.phase ≠ .running) :
    m'.state.distance settings.channel.backoff.attempts p <
      m.state.distance settings.channel.backoff.attempts p := by
  have hfollows : m.Follows settings m' := ⟨action, Action.ordinary_of_party hparty, hnext⟩
  cases hs.forward hparty hnext with
  | began owner rest cycle hline hcycle hline' hcycle' hsome hready =>
      refine (hs.closer_or_grown hs' hfollows (hline ▸ List.mem_cons_self)).resolve_right ?_
      rintro ⟨_, _, hsame⟩
      simp [hcycle, hcycle'] at hsame
  | rearmed rest due hline htimer hline' hcycle' htimer' =>
      simp only [State.distance, State.timerDistance, htimer, htimer']
      exact rung_lt_of_level (by decide) _ _
  | flushed call rest stats hline hcall hline' hcycle' hcall' =>
      exact (hs.stays_or_closer hfollows hcall).resolve_left (by simp [hcall'])
  | closing call rest stats hline hcall hline' hcycle' hcall' =>
      exact (hs.stays_or_closer hfollows hcall).resolve_left (by simp [hcall'])
  | advanced cycle place d d' hcycle hd hnext hline' hcycle' =>
      have hplace : m.state.delivery? place = some d := by rw [State.delivery?, hcycle]; exact hd
      have hplace' : m'.state.delivery? place = some d' := by
        rw [State.delivery?, hcycle']
        exact List.getElem?_set_self (List.getElem?_eq_some_iff.mp hd).1
      simp only [State.distance, hplace, hplace', Option.map_some, Option.getD_some]
      refine rung_lt_of_place 0 (Prod.Lex.toLex_lt_toLex.mpr (Or.inr ⟨rfl, ?_⟩))
      exact hnext.remaining_lt settings.channel.backoff.attempts_pos
  | ticked due due' hphase htimer htimer' hline' =>
      rcases hawaited rfl with hbusy | hshut
      · simp [htimer, Timer.isBusy] at hbusy
      · exact absurd hphase hshut
  | ended due hphase htimer htimer' =>
      simp only [State.distance, State.timerDistance, htimer, htimer']
      exact rung_lt_of_level (by decide) _ _
  | lined call hcall hcall' hline' =>
      exact (hs.stays_or_closer hfollows hcall).resolve_left (by simp [hcall'])
  | closed call stats hcall hcall' hphase' =>
      exact (hs.stays_or_closer hfollows hcall).resolve_left (by simp [hcall'])
  | joined call hcall hphase hcall' =>
      exact (hs.stays_or_closer hfollows hcall).resolve_left (by simp [hcall'])

/-- Whoever waits comes closer with the one it waits for. -/
theorem closer_of_waits (hs : Standing settings m) (hs' : Standing settings m')
    (h : m.Follows settings m') (hwaits : m.state.Waits p q)
    (hlt : m'.state.distance settings.channel.backoff.attempts q <
      m.state.distance settings.channel.backoff.attempts q) :
    m'.state.distance settings.channel.backoff.attempts p <
      m.state.distance settings.channel.backoff.attempts p := by
  have hcallStep := h.callStep hs.sound.paced
  cases hwaits with
  | line owner rest x hline hx =>
      have howner : owner ∈ m.state.line := hline ▸ List.mem_cons_self
      have hmem : x ∈ m.state.line := hline ▸ List.mem_cons_of_mem _ hx
      refine (hs.closer_or_grown hs' h hmem).resolve_right ?_
      rintro ⟨more, hgrown, hcycle⟩
      exact hlt.ne (hs.distance_of_grown hs' howner hgrown hcycle)
  | batch owner rest place d hline hd hunfinished =>
      refine (hs.closer_or_grown hs' h (hline ▸ List.mem_cons_self)).resolve_right ?_
      rintro ⟨more, hgrown, hcycle⟩
      refine hlt.ne ?_
      simp only [State.distance, State.delivery?, hcycle]
  | timer call hcall htimer =>
      refine (hs.stays_or_closer h hcall).elim (fun hcall' => ?_) id
      simpa only [State.distance, State.callDistance_of hcall, State.callDistance_of hcall'] using hlt
  | stop call leader hcall hphase hleads =>
      refine (hs.stays_or_closer h hcall).elim (fun hcall' => ?_) id
      simp only [State.distance, State.callDistance_of hcall, State.callDistance_of hcall'] at hlt ⊢
      rcases hs.stopDistance_step hs' hcallStep hleads hphase with hcloser | heq
      · exact hcloser
      · rwa [heq, hs.stopDistance_eq hleads hphase]

end Standing

end Courier.Scheduler
