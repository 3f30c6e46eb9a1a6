import Mathlib.Data.List.Basic
import Courier.Proofs.Scheduler.Growth
/-!
What a step does to the calls and to the line.

Whoever asks for a cycle stays in line until the cycle has returned, so those that have returned and
those in line are together everybody who ever asked.
-/
namespace Courier.Scheduler

open Effect (Quiet closings)

/-- The call on behalf of which a cycle runs. -/
def Claimant.call? : Claimant → Option Nat
  | .timer => none
  | .flush call | .shutdown call => some call

/-- The calls once a cycle has returned to its claimant. -/
def Claimant.answer (claimant : Claimant) (stats : CycleStats) (calls : List Call) :
    List Call :=
  match claimant with
  | .timer => calls
  | .flush call => calls.set call (.flushed stats)
  | .shutdown call => calls.set call (.closing stats)

theorem State.calls_finishCycle (s : State) (claimant : Claimant) (rest : List Claimant)
    (stats : CycleStats) :
    (s.finishCycle claimant rest stats).1.calls = claimant.answer stats s.calls := by
  cases claimant <;> rfl

/-- What a cycle returned, and to whom. -/
def Round.returned? (r : Round) : Option (Claimant × CycleStats) :=
  r.stats.map (r.claimant, ·)

namespace History

/-- The cycles that have returned, in their order. -/
def returned (h : History) : List (Claimant × CycleStats) :=
  h.rounds.filterMap Round.returned?

theorem returned_congr {h h' : History}
    (hreturned : h'.rounds.map Round.returned? = h.rounds.map Round.returned?) :
    h'.returned = h.returned := by
  have hid : ∀ rounds : List Round, rounds.filterMap Round.returned? =
      (rounds.map Round.returned?).filterMap id := fun rounds => by
    rw [List.filterMap_map]
    rfl
  rw [returned, returned, hid, hid, hreturned]

theorem returned_advance (h : History) (place : Nat) (delivery : Option Delivery)
    (effects : List Effect) : (h.advance place delivery effects).returned = h.returned := by
  apply returned_congr
  apply map_modifyLast_of_eq
  intro r
  rfl

theorem returned_concat {h h' : History} {past : List Round} {r r' : Round}
    (hrounds : h.rounds = past ++ [r]) (hrounds' : h'.rounds = past ++ [r'])
    (hstats : r.stats = none) :
    h'.returned = h.returned ++ r'.returned?.toList := by
  have hnone : r.returned? = none := by rw [Round.returned?, hstats, Option.map_none]
  rw [returned, returned, hrounds, hrounds', List.filterMap_append, List.filterMap_append]
  cases hr' : r'.returned? <;> simp [hnone, hr']

theorem mem_returned {h : History} {claimant : Claimant} {stats : CycleStats} :
    (claimant, stats) ∈ h.returned ↔
      ∃ r ∈ h.rounds, r.claimant = claimant ∧ r.stats = some stats := by
  simp only [returned, List.mem_filterMap, Round.returned?, Option.map_eq_some_iff,
    Prod.mk.injEq]
  constructor
  · rintro ⟨r, hr, stats', hstats, hclaimant, rfl⟩
    exact ⟨r, hr, hclaimant, hstats⟩
  · rintro ⟨r, hr, hclaimant, hstats⟩
    exact ⟨r, hr, stats, hstats, hclaimant, rfl⟩

end History

theorem filterMap_returned?_of_over {channel : Channel} {rounds : List Round}
    (hover : ∀ r ∈ rounds, r.Over channel) :
    rounds.filterMap Round.returned? = rounds.map fun r => (r.claimant, r.totals) := by
  apply List.filterMap_eq_map_iff_forall_eq_some.mpr
  intro r hr
  rw [Round.returned?, (hover r hr).1, Option.map_some]

/-- Everybody who ever asked for a cycle, in the order of asking. -/
def Moment.claims (m : Moment) : List Claimant :=
  m.history.returned.map Prod.fst ++ m.state.line

/-- Cycles begin in the order of asking. -/
theorem Paced.claimants_initial {channel : Channel} {m : Moment}
    (hp : Paced channel m.state m.history.rounds) :
    m.history.rounds.map Round.claimant <+: m.claims := by
  have hclaimants : ∀ {rounds : List Round}, (∀ r ∈ rounds, r.Over channel) →
      (rounds.filterMap Round.returned?).map Prod.fst = rounds.map Round.claimant := by
    intro rounds hover
    rw [filterMap_returned?_of_over hover, List.map_map]
    rfl
  rw [Moment.claims, History.returned]
  cases hp with
  | resting hcycle hover =>
      rw [hclaimants hover]
      exact List.prefix_append _ _
  | underway past r rest cycle hcycle hline hrounds hpast hunderway =>
      have hnone : r.returned? = none := by rw [Round.returned?, hunderway.unreturned]; rfl
      refine ⟨rest, ?_⟩
      rw [hrounds, hline, List.filterMap_append, List.map_append, List.map_append,
        hclaimants hpast, List.filterMap_cons_none hnone]
      simp

/-- No cycle returns from one moment to another. -/
structure Moment.Still (m m' : Moment) : Prop where
  returned : m'.history.returned = m.history.returned
  closings : closings m'.history.trace = closings m.history.trace

theorem Moment.Still.claims {m m' : Moment} (hstill : m.Still m') {more : List Claimant}
    (hline : m'.state.line = m.state.line ++ more) : m'.claims = m.claims ++ more := by
  rw [Moment.claims, Moment.claims, hstill.returned, hline, List.append_assoc]

/-- What a step does to the calls and to the line. -/
inductive CallStep (m m' : Moment) : Prop
  | aside (hstill : m.Still m')
      (hphase : m'.state.phase = m.state.phase ∨
        m.state.phase = .idle ∧ m'.state.phase = .running)
      (hline : m'.state.line = m.state.line) (hcalls : m'.state.calls = m.state.calls)
  | tick (hstill : m.Still m') (hphase : m'.state.phase = m.state.phase)
      (hline : m'.state.line = m.state.line ++ [.timer])
      (hcalls : m'.state.calls = m.state.calls)
  | flushQueued (hstill : m.Still m') (hphase : m.state.phase ≠ .stopped)
      (hstate : m'.state =
        { m.state with
          calls := m.state.calls ++ [.inLine]
          line := m.state.line ++ [.flush m.state.nextCall] })
  | flushSkipped (hstill : m.Still m') (hphase : m.state.phase = .stopped)
      (hstate : m'.state = { m.state with calls := m.state.calls ++ [.flushed {}] })
  | shutdownBegun (hstill : m.Still m') (hphase : m.state.phase.accepts = true)
      (hstate : m'.state =
        { m.state with
          phase := .draining
          buffer := m.state.buffer.close
          calls := m.state.calls ++ [.awaitingTimer] })
  | shutdownJoined (hstill : m.Still m') (hphase : m.state.phase.accepts = false)
      (hstate : m'.state = { m.state with calls := m.state.calls ++ [.awaitingStop] })
  | cycleReturned (claimant : Claimant) (rest : List Claimant) (stats : CycleStats)
      (hreturned : m'.history.returned = m.history.returned ++ [(claimant, stats)])
      (hclosings : closings m'.history.trace =
        closings m.history.trace + if claimant.isShutdown then 1 else 0)
      (hphase : m'.state.phase = m.state.phase) (hline : m.state.line = claimant :: rest)
      (hline' : m'.state.line = rest)
      (hcalls : m'.state.calls = claimant.answer stats m.state.calls)
  | timerGone (call : Nat) (hstill : m.Still m')
      (hcall : m.state.calls[call]? = some .awaitingTimer)
      (hstate : m'.state =
        { m.state.setCall call .inLine with line := m.state.line ++ [.shutdown call] })
  | transportClosed (call : Nat) (stats : CycleStats) (hstill : m.Still m')
      (hcall : m.state.calls[call]? = some (.closing stats))
      (hstate : m'.state = { m.state.setCall call .finished with phase := .stopped })
  | stopSeen (call : Nat) (hstill : m.Still m')
      (hcall : m.state.calls[call]? = some .awaitingStop)
      (hphase : m.state.phase = .stopped)
      (hstate : m'.state = m.state.setCall call .finished)

theorem Moment.Still.of_quiet {m m' : Moment} {effects : List Effect}
    (hquiet : Quiet effects) (hreturned : m'.history.returned = m.history.returned)
    (htrace : m'.history.trace = m.history.trace ++ effects) : m.Still m' :=
  ⟨hreturned, by rw [htrace, Effect.closings_append, hquiet.closings_eq, Nat.add_zero]⟩

/-- The head of the line keeps its place among those who asked. -/
theorem claims_of_returned {m m' : Moment} {claimant : Claimant} {rest : List Claimant}
    {stats : CycleStats}
    (hreturned : m'.history.returned = m.history.returned ++ [(claimant, stats)])
    (hline : m.state.line = claimant :: rest) (hline' : m'.state.line = rest) :
    m'.claims = m.claims := by
  simp [Moment.claims, hreturned, hline, hline']

/-- Those who asked stay in the order of asking. -/
theorem CallStep.claims_grow {m m' : Moment} (h : CallStep m m') : m.claims <+: m'.claims := by
  have hgrown : ∀ {more : List Claimant}, m.Still m' → m'.state.line = m.state.line ++ more →
      m.claims <+: m'.claims := fun hstill hline => ⟨_, (hstill.claims hline).symm⟩
  have hsame : m.Still m' → m'.state.line = m.state.line → m.claims <+: m'.claims :=
    fun hstill hline => hgrown hstill (hline.trans (List.append_nil _).symm)
  cases h with
  | aside hstill hphase hline hcalls => exact hsame hstill hline
  | tick hstill hphase hline hcalls => exact hgrown hstill hline
  | flushQueued hstill hphase hstate => exact hgrown hstill (congrArg State.line hstate)
  | flushSkipped hstill hphase hstate => exact hsame hstill (by rw [hstate])
  | shutdownBegun hstill hphase hstate => exact hsame hstill (by rw [hstate])
  | shutdownJoined hstill hphase hstate => exact hsame hstill (by rw [hstate])
  | cycleReturned claimant rest stats hreturned hclosings hphase hline hline' hcalls =>
      exact ⟨[], by rw [List.append_nil, claims_of_returned hreturned hline hline']⟩
  | timerGone call hstill hcall hstate => exact hgrown hstill (congrArg State.line hstate)
  | transportClosed call stats hstill hcall hstate =>
      exact hsame hstill (by rw [hstate]; rfl)
  | stopSeen call hstill hcall hphase hstate => exact hsame hstill (by rw [hstate]; rfl)

theorem Moment.Follows.callStep {settings : Settings} {m m' : Moment}
    (hp : Paced settings.channel m.state m.history.rounds) (h : m.Follows settings m') :
    CallStep m m' := by
  obtain ⟨action, effects, hturn, hhistory⟩ := h.turn
  obtain ⟨s, h₀⟩ := m
  obtain ⟨s', h'⟩ := m'
  simp only at hturn hhistory hp
  subst hhistory
  -- Only a cycle that returns makes a difference to what has returned.
  have hstill : Quiet effects →
      (h₀.book settings s s' action effects).returned = h₀.returned →
      Moment.Still ⟨s, h₀⟩ ⟨s', h₀.record settings s s' action effects⟩ :=
    fun hquiet hreturned => .of_quiet hquiet hreturned rfl
  cases hturn with
  | enqueue event =>
      refine .aside (hstill (s.quiet_enqueue event) ?_) (Or.inl rfl) rfl rfl
      exact History.returned_congr (by rw [History.book, History.rounds_takeIn])
  | start now hphase =>
      exact .aside (hstill (by simp [Effect.callsTransport]) rfl) (Or.inr ⟨hphase, rfl⟩) rfl rfl
  | startIgnored runtime now hignored =>
      exact .aside (hstill Effect.quiet_nil rfl) (Or.inl rfl) rfl rfl
  | flushQueued hphase => exact .flushQueued (hstill Effect.quiet_nil rfl) hphase rfl
  | flushSkipped hphase => exact .flushSkipped (hstill Effect.quiet_nil rfl) hphase rfl
  | shutdownBegun hphase =>
      refine .shutdownBegun (hstill (by simp [Effect.callsTransport]) ?_) hphase rfl
      rw [History.book, if_pos hphase]
      rfl
  | shutdownJoined hphase =>
      refine .shutdownJoined (hstill Effect.quiet_nil ?_) hphase rfl
      simp [History.book, hphase]
  | tick due now htimer hphase hdue => exact .tick (hstill Effect.quiet_nil rfl) rfl rfl rfl
  | leaveTimer due htimer hphase =>
      exact .aside (hstill Effect.quiet_nil rfl) (Or.inl rfl) rfl rfl
  | beginCycle claimant rest now hline hcycle hsome =>
      refine .aside (hstill (by simp [Effect.callsTransport]) ?_) (Or.inl rfl) rfl rfl
      simp [History.book, hline, History.beginRound, History.returned, Round.returned?]
  | emptyCycle claimant rest now hline hcycle hnone =>
      refine .cycleReturned claimant rest {} ?_ ?_ (State.phase_finishCycle ..) hline
        (State.line_finishCycle ..) (State.calls_finishCycle ..)
      · simp [History.record, History.book, hline, History.beginRound, History.returned,
          Round.returned?]
      · rw [History.record, Effect.closings_append, ← State.closings_finishCycle]
        rfl
  | resume cycle place d d' effects hcycle hd hresume =>
      obtain ⟨rfl, _⟩ := Delivery.resume_eq_some hresume
      refine .aside ⟨?_, ?_⟩ (Or.inl rfl) rfl rfl
      · exact History.returned_advance ..
      · rw [History.record, Effect.closings_append, Delivery.closings_send, Nat.add_zero]
  | receive cycle place answer draw d d' effects hcycle hd hreceive =>
      exact .aside (hstill (Delivery.receive_eq_some hreceive).2.1
        (History.returned_advance ..)) (Or.inl rfl) rfl rfl
  | endCycle claimant rest cycle now hline hcycle hfinished =>
      obtain ⟨past, r, _, hhead, hlast, _, hunderway⟩ := hp.underway_of_cycle hcycle
      have hclaimant : r.claimant = claimant := by
        rw [hline] at hhead
        exact (List.cons.inj hhead).1.symm
      refine .cycleReturned claimant rest cycle.stats ?_ ?_ (State.phase_finishCycle ..) hline
        (State.line_finishCycle ..) (State.calls_finishCycle ..)
      · have hrounds : (h₀.endRound (some cycle.stats)).rounds =
            past ++ [{ r with stats := some cycle.stats }] := by
          rw [History.endRound, hlast, List.modifyLast_concat]
        simp only [History.record, History.book, hcycle, Option.map_some]
        refine (History.returned_concat hlast hrounds hunderway.unreturned).trans ?_
        rw [Round.returned?, hclaimant]
        rfl
      · have hquiet := quiet_panicEffects settings.channel.transport cycle.deliveries
        rw [History.record, Effect.closings_append, Effect.closings_append,
          hquiet.closings_eq, Nat.zero_add,
          ← State.closings_finishCycle s claimant rest cycle.stats]
        rfl
  | timerGone call hcall htimer =>
      exact .timerGone call (hstill (quiet_timerGoneEffects s.timer) rfl) hcall rfl
  | transportClosed call stats failure hcall =>
      exact .transportClosed call stats (hstill (quiet_stoppedEffects _ failure stats _) rfl)
        hcall rfl
  | stopSeen call hcall hphase =>
      exact .stopSeen call (hstill Effect.quiet_nil rfl) hcall hphase rfl

end Courier.Scheduler
