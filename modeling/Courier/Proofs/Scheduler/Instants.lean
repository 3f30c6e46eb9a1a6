import Courier.Proofs.Scheduler.Course
import Courier.Proofs.Scheduler.Lifecycle
/-!
A scheduler on the clock.

An instant of a run is a moment with the time of it, in nanoseconds since the scheduler started.
Whatever happens takes no time of its own, and between two things that happen the clock may go on, as
long as nothing waits to be done: a tick that is due is not put off, and a cycle that may begin
begins at once.  How long the transport takes is left open.
-/
namespace Courier.Duration

/-- The first multiple of the period after a time. -/
def tickAfter (period : Duration) (now : Nat) : Nat := (now / period.nanos + 1) * period.nanos

section

variable {period : Duration} {now now' tick : Nat}

theorem lt_tickAfter (hperiod : 0 < period.nanos) (now : Nat) : now < period.tickAfter now := by
  have hlt := Nat.mod_lt now hperiod
  have hsplit := Nat.div_add_mod' now period.nanos
  rw [tickAfter, Nat.add_mul, Nat.one_mul]
  omega

theorem dvd_tickAfter (period : Duration) (now : Nat) : period.nanos ∣ period.tickAfter now :=
  Nat.dvd_mul_left _ _

theorem tickAfter_le (hdvd : period.nanos ∣ tick) (hlt : now < tick) :
    period.tickAfter now ≤ tick := by
  obtain ⟨count, rfl⟩ := hdvd
  rw [tickAfter, Nat.mul_comm]
  exact Nat.mul_le_mul_left _ (Nat.div_lt_of_lt_mul hlt)

theorem tickAfter_mono (period : Duration) (hle : now ≤ now') :
    period.tickAfter now ≤ period.tickAfter now' :=
  Nat.mul_le_mul_right _ (Nat.add_le_add_right (Nat.div_le_div_right hle) 1)

theorem nanos_le_tickAfter (period : Duration) (now : Nat) :
    period.nanos ≤ period.tickAfter now :=
  Nat.le_mul_of_pos_left _ (Nat.succ_pos _)

/-- A period that ends while the clock still runs can be told by the clock. -/
theorem fitsClock_of_le {time : Nat} (hle : period.nanos ≤ time)
    (hfits : (ofNanos time).fitsClock = true) : period.fitsClock = true := by
  have hbounded : period.nanos ≤ (ofNanos time).nanos :=
    Nat.le_min.mpr ⟨hle, Nat.le_pred_of_lt period.bounded⟩
  have hseconds : (ofNanos time).seconds < 0x7FFFFFFFFFFFFFFF := of_decide_eq_true hfits
  exact decide_eq_true (Nat.lt_of_le_of_lt (Nat.div_le_div_right hbounded) hseconds)

end

end Courier.Duration

namespace Courier.Scheduler

/-- A tick keeps to whole periods, and the next one is due after one period at most. -/
theorem Timer.nextDue_spec {period : Duration} {due now : Nat} (hdvd : period.nanos ∣ due)
    (hdue : due ≤ now) :
    period.nanos ∣ Timer.nextDue period due now ∧
      Timer.nextDue period due now ≤ period.tickAfter now := by
  obtain ⟨count, rfl⟩ := hdvd
  obtain ⟨late, rfl⟩ := Nat.exists_eq_add_of_le hdue
  have hrest := Nat.mod_le late period.nanos
  unfold Timer.nextDue
  split
  · have hnext : period.nanos * count + late + period.nanos
        - (period.nanos * count + late - period.nanos * count) % period.nanos =
          period.tickAfter (period.nanos * count + late) := by
      have hsplit := Nat.div_add_mod' late period.nanos
      rw [Duration.tickAfter, Nat.add_sub_cancel_left]
      rcases Nat.eq_zero_or_pos period.nanos with hzero | hpos
      · simp only [hzero, Nat.mod_zero] at hsplit ⊢
        omega
      · rw [Nat.mul_add_div hpos, Nat.add_mul, Nat.add_mul, Nat.one_mul,
          Nat.mul_comm count period.nanos]
        omega
    rw [hnext]
    exact ⟨period.dvd_tickAfter _, Nat.le_refl _⟩
  · have hnext : period.nanos * count + period.nanos = period.nanos * (count + 1) :=
      (Nat.mul_succ ..).symm
    rw [hnext]
    refine ⟨Nat.dvd_mul_right .., ?_⟩
    rw [Duration.tickAfter, Nat.mul_comm]
    rcases Nat.eq_zero_or_pos period.nanos with hzero | hpos
    · rw [hzero, Nat.mul_zero]
      exact Nat.zero_le _
    · rw [Nat.mul_add_div hpos]
      exact Nat.mul_le_mul_right _ (Nat.succ_le_succ (Nat.le_add_right count _))

/-- A moment of a run with its time. -/
structure Instant where
  moment : Moment
  now : Nat

/-- What can happen to a scheduler on the clock. -/
inductive Happening where
  | act (action : Action)
  /-- The clock goes on to a later time. -/
  | pass (later : Nat)

/-- The time of which an action tells. -/
def Action.time? : Action → Option Nat
  | .start _ now | .tick now | .beginCycle now | .endCycle now => some now
  | _ => none

/-- Nothing has to be done before a time: the scheduler has started, nobody in line could begin a
cycle, and no tick is due earlier. -/
def State.calm (s : State) (later : Nat) : Bool :=
  s.phase != .idle && (s.line.isEmpty || s.cycle.isSome) &&
    match s.timer with
    | .armed due => s.phase != .running || decide (later ≤ due)
    | _ => true

namespace Instant

def first (s : State) : Instant := ⟨.first s, 0⟩

/-- The instant after something happened, if it is possible. -/
def next? (settings : Settings) (i : Instant) : Happening → Option Instant
  | .act action =>
    if action.ordinary && action.time?.all (· == i.now) then
      (i.moment.next? settings action).map (⟨·, i.now⟩)
    else none
  | .pass later =>
    if i.now < later && (Duration.ofNanos later).fitsClock && i.moment.state.calm later then
      some { i with now := later }
    else none

/-- The instant after some things happened one after the other, if they are possible. -/
def after? (settings : Settings) (i : Instant) : List Happening → Option Instant
  | [] => some i
  | happening :: rest => (i.next? settings happening).bind fun i => i.after? settings rest

/-- One instant comes right after another one. -/
def Follows (settings : Settings) (i j : Instant) : Prop :=
  ∃ happening, i.next? settings happening = some j

/-- The clock goes on from one instant to another, and nothing else happens. -/
def Passes (settings : Settings) (i j : Instant) : Prop :=
  ∃ later, i.next? settings (.pass later) = some j

end Instant

/-- A run on the clock from one instant to another. -/
abbrev Clocked (settings : Settings) : Instant → Instant → Prop :=
  Relation.ReflTransGen (Instant.Follows settings)

/-- An instant in a run of a scheduler that was built with accepted settings.  The clock stands still
until it has started, so it starts at time zero. -/
def Instant.Reached (settings : Settings) (i : Instant) : Prop :=
  ∃ config transport reporter s effects,
    create config transport reporter = .ok (settings, s, effects) ∧
      Clocked settings (.first s) i

namespace State

variable {s : State} {later : Nat}

theorem calm_iff :
    s.calm later = true ↔ s.phase ≠ .idle ∧ (s.line = [] ∨ s.cycle ≠ none) ∧
      ∀ due, s.timer = .armed due → s.phase = .running → later ≤ due := by
  rw [calm, Bool.and_eq_true, Bool.and_eq_true, bne_iff_ne, Bool.or_eq_true, List.isEmpty_iff,
    Option.isSome_iff_ne_none, and_assoc]
  cases htimer : s.timer with
  | armed due =>
      rw [Bool.or_eq_true, bne_iff_ne, decide_eq_true_eq]
      simp only [Timer.armed.injEq, forall_eq', ne_eq, ← Decidable.imp_iff_not_or]
  | absent | busy due | ended | crashed => simp

end State

namespace Instant

variable {settings : Settings} {i j : Instant}

theorem of_act {action : Action} (hnext : i.next? settings (.act action) = some j) :
    action.ordinary = true ∧ (∀ time, action.time? = some time → time = i.now) ∧
      i.moment.next? settings action = some j.moment ∧ j.now = i.now := by
  rw [next?] at hnext
  split at hnext
  · next hguard =>
      obtain ⟨m, hm, rfl⟩ := Option.map_eq_some_iff.mp hnext
      obtain ⟨hordinary, htimes⟩ := Bool.and_eq_true_iff.mp hguard
      refine ⟨hordinary, fun time htime => ?_, hm, rfl⟩
      rw [htime] at htimes
      exact beq_iff_eq.mp htimes
  · cases hnext

theorem of_pass {later : Nat} (hnext : i.next? settings (.pass later) = some j) :
    j.moment = i.moment ∧ i.now < j.now ∧ (Duration.ofNanos j.now).fitsClock = true ∧
      i.moment.state.calm j.now = true := by
  rw [next?] at hnext
  split at hnext
  · next hguard =>
      cases hnext
      simp only [Bool.and_eq_true, decide_eq_true_eq] at hguard
      exact ⟨rfl, hguard.1.1, hguard.1.2, hguard.2⟩
  · cases hnext

theorem Follows.cases (h : i.Follows settings j) :
    (∃ action, i.next? settings (.act action) = some j) ∨ i.Passes settings j := by
  obtain ⟨happening, hnext⟩ := h
  cases happening with
  | act action => exact Or.inl ⟨action, hnext⟩
  | pass later => exact Or.inr ⟨later, hnext⟩

/-- A run on the clock is a run, and time never goes back. -/
theorem run_of_clocked (h : Clocked settings i j) :
    Run settings i.moment j.moment ∧ i.now ≤ j.now := by
  induction h with
  | refl => exact ⟨.refl, Nat.le_refl _⟩
  | tail _ hstep ih =>
      obtain ⟨hrun, hle⟩ := ih
      rcases hstep.cases with ⟨action, hact⟩ | ⟨later, hpass⟩
      · obtain ⟨hordinary, _, hnext, hnow⟩ := of_act hact
        exact ⟨hrun.tail ⟨action, hordinary, hnext⟩, hnow ▸ hle⟩
      · obtain ⟨hsame, hlt, _⟩ := of_pass hpass
        exact ⟨hsame ▸ hrun, Nat.le_trans hle (Nat.le_of_lt hlt)⟩

theorem clocked_of_after? {happenings : List Happening}
    (hafter : i.after? settings happenings = some j) : Clocked settings i j := by
  induction happenings generalizing i with
  | nil =>
      cases hafter
      exact .refl
  | cons happening rest ih =>
      obtain ⟨next, hnext, hrest⟩ := Option.bind_eq_some_iff.mp hafter
      exact .head ⟨happening, hnext⟩ (ih hrest)

theorem Reached.moment (h : Instant.Reached settings i) :
    Scheduler.Reached settings i.moment := by
  obtain ⟨config, transport, reporter, s, effects, hcreate, hrun⟩ := h
  exact ⟨config, transport, reporter, s, effects, hcreate, (run_of_clocked hrun).1⟩

theorem Reached.of_after? {config : Config} {transport : String} {reporter : Reporter}
    {happenings : List Happening} (hvalid : config.validate.isOk = true)
    (hafter : (first { buffer := Buffer.empty config.maxQueueSize }).after?
      (Settings.ofConfig config transport reporter) happenings = some i) :
    Instant.Reached (Settings.ofConfig config transport reporter) i := by
  obtain ⟨effects, hcreate⟩ := create_of_isOk hvalid transport reporter
  exact ⟨config, transport, reporter, _, effects, hcreate, clocked_of_after? hafter⟩

theorem Reached.trans (h : Instant.Reached settings i) (hrun : Clocked settings i j) :
    Instant.Reached settings j := by
  obtain ⟨config, transport, reporter, s, effects, hcreate, hfirst⟩ := h
  exact ⟨config, transport, reporter, s, effects, hcreate, hfirst.trans hrun⟩

end Instant

/-- The settings of an accepted configuration have a period. -/
theorem Reached.period_pos {settings : Settings} {m : Moment} (h : Reached settings m) :
    0 < settings.period.nanos := by
  obtain ⟨config, transport, reporter, s, effects, hcreate, _⟩ := h
  have hperiod := (Config.validate_eq_ok_iff.mp (validate_of_create hcreate)).1
  obtain ⟨rfl, _, _⟩ := create_eq hcreate
  exact Nat.pos_of_ne_zero (beq_eq_false_iff_ne.mp hperiod)

/-- A tick does not come before it is due. -/
theorem Turn.due_le {settings : Settings} {s s' : State} {now due : Nat} {effects : List Effect}
    (hturn : Turn settings s (.tick now) s' effects) (htimer : s.timer = .armed due) :
    due ≤ now := by
  cases hturn with
  | tick due' now htimer' hphase hdue =>
      rw [htimer', Timer.armed.injEq] at htimer
      exact htimer ▸ hdue

/-- The clock is not stuck: it can go on, or else a tick or the beginning of a cycle is due and
possible. -/
theorem Instant.exists_next (settings : Settings) {i : Instant}
    (hphase : i.moment.state.phase ≠ .idle)
    (hfits : (Duration.ofNanos (i.now + 1)).fitsClock = true) :
    (∃ j, i.Passes settings j) ∨
      (∃ j, i.next? settings (.act (.tick i.now)) = some j) ∨
      ∃ j, i.next? settings (.act (.beginCycle i.now)) = some j := by
  have hact : ∀ {action : Action}, action.ordinary = true → action.time? = some i.now →
      (∃ m', i.moment.next? settings action = some m') →
      ∃ j, i.next? settings (.act action) = some j := by
    intro action hordinary htime hnext
    obtain ⟨m', hm'⟩ := hnext
    exact ⟨⟨m', i.now⟩, by simp [next?, hordinary, htime, hm']⟩
  by_cases hwaits : i.moment.state.line ≠ [] ∧ i.moment.state.cycle = none
  · obtain ⟨claimant, rest, hline⟩ := List.exists_cons_of_ne_nil hwaits.1
    exact Or.inr (Or.inr (hact rfl rfl (Moment.exists_beginCycle hline hwaits.2 i.now)))
  · by_cases hdue : i.moment.state.phase = .running ∧
        ∃ due, i.moment.state.timer = .armed due ∧ due ≤ i.now
    · obtain ⟨hrunning, due, htimer, hle⟩ := hdue
      exact Or.inr (Or.inl (hact rfl rfl (Moment.exists_tick hrunning htimer hle)))
    · have hcalm : i.moment.state.calm (i.now + 1) = true := by
        refine State.calm_iff.mpr ⟨hphase, by tauto, fun due htimer hrunning => ?_⟩
        exact Nat.lt_of_not_le fun hle => hdue ⟨hrunning, due, htimer, hle⟩
      exact Or.inl ⟨{ i with now := i.now + 1 }, i.now + 1, by simp [next?, hfits, hcalm]⟩

/-- The clock and the timer agree: while the scheduler runs, the next tick is due at a whole number of
periods, not later than the first one to come. -/
structure Aligned (settings : Settings) (i : Instant) : Prop where
  fits : (Duration.ofNanos i.now).fitsClock = true
  idle : i.moment.state.phase = .idle → i.now = 0
  due : i.moment.state.phase = .running → settings.period.fitsClock = true →
    ∃ due, (i.moment.state.timer = .armed due ∨ i.moment.state.timer = .busy due) ∧
      settings.period.nanos ∣ due ∧ due ≤ settings.period.tickAfter i.now

namespace Aligned

variable {settings : Settings} {i j : Instant}

/-- A step from a running scheduler to a running one keeps the timer aligned. -/
theorem due_step {s s' : State} {action : Action} {effects : List Effect} {now due : Nat}
    (hturn : Turn settings s action s' effects)
    (htime : ∀ time, action.time? = some time → time = now)
    (hbusy : ∀ rest, s.line = .timer :: rest → ∃ due, s.timer = .busy due)
    (hphase : s.phase = .running)
    (htimer : s.timer = .armed due ∨ s.timer = .busy due)
    (hdvd : settings.period.nanos ∣ due) (hdue : due ≤ settings.period.tickAfter now) :
    ∃ due', (s'.timer = .armed due' ∨ s'.timer = .busy due') ∧ settings.period.nanos ∣ due' ∧
      due' ≤ settings.period.tickAfter now := by
  cases hturn.timerStep with
  | still _ hsame hcount hlined => exact ⟨due, by rwa [hsame], hdvd, hdue⟩
  | started time hidle hrunning htimer' hline =>
      rw [hphase] at hidle
      cases hidle
  | ticked due₁ time hrunning harmed htimer' hline =>
      obtain rfl : time = now := htime time rfl
      obtain rfl : due₁ = due := by simpa [harmed] using htimer
      obtain ⟨hdvd', hle⟩ := Timer.nextDue_spec hdvd (hturn.due_le harmed)
      exact ⟨_, Or.inr htimer', hdvd', hle⟩
  | rested _ rest hline hline' htimer' =>
      obtain ⟨due₁, hbusy⟩ := hbusy rest hline
      obtain rfl : due₁ = due := by simpa [hbusy] using htimer
      exact ⟨due₁, Or.inl (by rw [htimer', hbusy]; rfl), hdvd, hdue⟩
  | left due₁ hleft htimer₁ htimer' hline => exact absurd hphase hleft

/-- The scheduler starts at time zero, with its first tick due after one period. -/
theorem armed_of_start (ha : Aligned settings i) {action : Action}
    (hact : i.next? settings (.act action) = some j) (hidle : i.moment.state.phase = .idle)
    (hrunning : j.moment.state.phase = .running) (hfits : settings.period.fitsClock = true) :
    j.moment.state.timer = .armed settings.period.nanos := by
  obtain ⟨hordinary, htime, hnext, _⟩ := Instant.of_act hact
  obtain ⟨effects, hturn⟩ := Moment.turn_of_next? hordinary hnext
  rcases hturn.started_of_running hrunning with hrunning | ⟨time, rfl, htimer⟩
  · rw [hidle] at hrunning
    cases hrunning
  · obtain rfl : time = i.now := htime time rfl
    rw [htimer, ha.idle hidle, Timer.start, if_pos hfits, Nat.zero_add]

theorem step (hm : Sound settings i.moment) (ht : Timed i.moment) (ha : Aligned settings i)
    (h : i.Follows settings j) : Aligned settings j := by
  rcases h.cases with ⟨action, hact⟩ | ⟨later, hpass⟩
  · obtain ⟨hordinary, htime, hnext, hnow⟩ := Instant.of_act hact
    obtain ⟨effects, hturn⟩ := Moment.turn_of_next? hordinary hnext
    have hphase := hm.next_phase ⟨action, hordinary, hnext⟩
    constructor
    case fits => rw [hnow]; exact ha.fits
    case idle =>
      intro hidle
      rw [hnow]
      rcases hphase with heq | hnext
      · exact ha.idle (heq ▸ hidle)
      · exact absurd hidle hnext.ne_idle
    case due =>
      intro hrunning' hfits
      rw [hnow]
      rcases hphase with heq | hstarted
      · have hrunning : i.moment.state.phase = .running := heq ▸ hrunning'
        obtain ⟨due, htimer, hdvd, hdue⟩ := ha.due hrunning hfits
        refine due_step hturn htime (fun rest hline => ?_) hrunning htimer hdvd hdue
        obtain ⟨due, hbusy, _⟩ := ht.busy_of_line hline
        exact ⟨due, hbusy⟩
      · have hidle : i.moment.state.phase = .idle := (hrunning' ▸ hstarted).eq_idle
        exact ⟨_, Or.inl (ha.armed_of_start hact hidle hrunning' hfits), Nat.dvd_refl _,
          settings.period.nanos_le_tickAfter _⟩
  · obtain ⟨hsame, hlt, hfits, hcalm⟩ := Instant.of_pass hpass
    constructor
    case fits => exact hfits
    case idle =>
      intro hidle
      exact absurd (hsame ▸ hidle) (State.calm_iff.mp hcalm).1
    case due =>
      intro hrunning hperiod
      rw [hsame] at hrunning ⊢
      obtain ⟨due, htimer, hdvd, hdue⟩ := ha.due hrunning hperiod
      exact ⟨due, htimer, hdvd, Nat.le_trans hdue (Duration.tickAfter_mono _ (Nat.le_of_lt hlt))⟩

end Aligned

theorem Instant.Reached.aligned {settings : Settings} {i : Instant}
    (h : Instant.Reached settings i) : Aligned settings i := by
  obtain ⟨config, transport, reporter, s, effects, hcreate, hrun⟩ := h
  induction hrun with
  | refl =>
      obtain ⟨_, rfl⟩ := create_eq_ok hcreate
      have hfits : (Duration.ofNanos 0).fitsClock = true := by decide
      exact ⟨hfits, fun _ => rfl, fun hrunning => by cases hrunning⟩
  | @tail i j hrun hstep ih =>
      have hreached : Instant.Reached settings i :=
        ⟨config, transport, reporter, s, effects, hcreate, hrun⟩
      exact ih.step hreached.moment.sound.2 hreached.moment.timed hstep

end Courier.Scheduler
