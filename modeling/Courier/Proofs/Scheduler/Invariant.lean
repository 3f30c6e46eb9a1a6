import Courier.Proofs.Scheduler.Leader
/-!
What holds at every moment of a run.

A scheduler that was built with accepted settings starts out sound, every step keeps it sound, and
the history grows with every step.
-/
namespace Courier.Scheduler

/-- Once the final cycle has begun there is nothing left to take. -/
structure Sealed (h : History) : Prop where
  empty : (∃ x ∈ h.plans, x.1.isShutdown = true) → h.numbered.contents = []
  last : h.plans.Pairwise fun x y => x.1.isShutdown = true → y.2 = []

namespace Sealed

variable {settings : Settings} {h h' : History}

theorem congr (hs : Sealed h) (hplans : h'.plans = h.plans)
    (hcontents : h'.numbered.contents = h.numbered.contents) : Sealed h' :=
  ⟨by rw [hplans, hcontents]; exact hs.empty, by rw [hplans]; exact hs.last⟩

/-- A cycle behind the final one finds nothing. -/
theorem beginRound (hs : Sealed h) {batchSize : Nat} (hsize : batchSize ≠ 0)
    (claimant : Claimant) (stats : Option CycleStats) :
    Sealed (h.beginRound batchSize claimant stats) := by
  have hempty : (h.numbered.batches batchSize).2.contents = [] := by
    rw [Buffer.batches_snd hsize]
  constructor
  case empty => exact fun _ => hempty
  case last =>
    rw [History.plans_beginRound]
    apply List.pairwise_append.mpr
    refine ⟨hs.last, List.pairwise_singleton _ _, ?_⟩
    intro x hx y hy hshutdown
    rw [List.mem_singleton.mp hy]
    exact (Buffer.batches_eq_nil_iff hsize _).mpr (hs.empty ⟨x, hx, hshutdown⟩)

theorem step {m m' : Moment} (hsize : settings.batchSize ≠ 0) (hs : Sealed m.history)
    (hclosed : (∃ x ∈ m.history.plans, x.1.isShutdown = true) →
      m.state.buffer.closed = true)
    (hmove : Move settings m m') : Sealed m'.history := by
  cases hmove with
  | aside effects more hquiet hbuffer hcycle hline hhistory =>
      rw [hhistory]
      exact hs.congr rfl rfl
  | enqueue event effects hquiet hstate hhistory =>
      rw [hhistory]
      by_cases hshutdown : ∃ x ∈ m.history.plans, x.1.isShutdown = true
      · rw [Buffer.enqueue_of_closed (hclosed hshutdown) event]
        exact hs.congr rfl rfl
      · have hplans : (m.history.takeIn (m.state.buffer.enqueue event).1 event).plans =
            m.history.plans := by
          rw [History.plans, History.rounds_takeIn, History.plans]
        refine ⟨fun hshutdown' => absurd (hplans ▸ hshutdown') hshutdown, ?_⟩
        exact hplans ▸ hs.last
  | close effects hquiet hbuffer hcycle hline hhistory =>
      rw [hhistory]
      exact hs.congr rfl rfl
  | beginCycle claimant rest now effects hquiet hline hcycle hsome hstate hhistory =>
      rw [hhistory]
      exact (hs.beginRound hsize claimant none).congr rfl rfl
  | emptyCycle claimant rest effects hsends hclosings hline hcycle hnone hstate
      hhistory =>
      rw [hhistory]
      exact (hs.beginRound hsize claimant (some {})).congr rfl rfl
  | resume cycle place d d' hcycle hd hresume hstate hhistory =>
      rw [hhistory]
      exact hs.congr (History.plans_advance ..) rfl
  | receive cycle place answer draw d d' effects hcycle hd hreceive hstate hhistory =>
      rw [hhistory]
      exact hs.congr (History.plans_advance ..) rfl
  | endCycle claimant rest cycle effects hsends hclosings hline hcycle hfinished hstate
      hhistory =>
      rw [hhistory]
      exact hs.congr (History.plans_endRound ..) rfl

end Sealed

/-- What holds at every moment. -/
structure Sound (settings : Settings) (m : Moment) : Prop where
  tallied : Tallied m.state.buffer m.history
  paced : Paced settings.channel m.state m.history.rounds
  sent : Sent m.history
  queued : Queued m
  led : Led m
  closed : m.state.buffer.closed = !m.state.phase.accepts
  sealed : Sealed m.history

/-- The buffer is closed when the shutdown begins, and stays closed. -/
theorem closed_step {settings : Settings} {m m' : Moment} (hsize : settings.batchSize ≠ 0)
    (hl : Led m) (hclosed : m.state.buffer.closed = !m.state.phase.accepts)
    (h : m.Follows settings m') : m'.state.buffer.closed = !m'.state.phase.accepts := by
  obtain ⟨action, effects, hturn, _⟩ := h.turn
  obtain ⟨s, h₀⟩ := m
  obtain ⟨s', h'⟩ := m'
  simp only at hturn hclosed ⊢
  cases hturn with
  | enqueue event => exact (s.buffer.closed_enqueue event).trans hclosed
  | start now hphase => rw [hclosed, hphase]; rfl
  | startIgnored runtime now hignored => exact hclosed
  | flushQueued hphase => exact hclosed
  | flushSkipped hphase => exact hclosed
  | shutdownBegun hphase => rfl
  | shutdownJoined hphase => exact hclosed
  | tick due now htimer hphase hdue => exact hclosed
  | leaveTimer due htimer hphase => exact hclosed
  | beginCycle claimant rest now hline hcycle hsome =>
      simp only [Buffer.batches_snd hsize, hclosed]
  | emptyCycle claimant rest now hline hcycle hnone =>
      simp only [State.buffer_finishCycle, State.phase_finishCycle,
        Buffer.batches_snd hsize, hclosed]
  | resume cycle place d d' effects hcycle hd hresume => exact hclosed
  | receive cycle place answer draw d d' effects hcycle hd hreceive => exact hclosed
  | endCycle claimant rest cycle now hline hcycle hfinished =>
      rw [State.buffer_finishCycle, State.phase_finishCycle, hclosed]
  | timerGone call hcall htimer => exact hclosed
  | transportClosed call stats failure hcall =>
      have hphase := hl.not_accepts_of_closings (hl.closings_of_closing hcall)
      exact hclosed.trans (by rw [hphase]; rfl)
  | stopSeen call hcall hphase => exact hclosed

/-- Who runs a cycle asked for it. -/
theorem Paced.claimant_mem_claims {channel : Channel} {m : Moment}
    (hp : Paced channel m.state m.history.rounds) {r : Round}
    (hr : r ∈ m.history.rounds) : r.claimant ∈ m.claims :=
  hp.claimants_initial.subset (List.mem_map_of_mem hr)

namespace Sound

variable {settings : Settings} {m m' : Moment}

/-- The final cycle does not begin before the shutdown. -/
theorem not_accepts_of_final (hm : Sound settings m) {r : Round}
    (hr : r ∈ m.history.rounds) (hshutdown : r.claimant.isShutdown = true) :
    m.state.phase.accepts = false := by
  have hpos : 0 < m.claims.countP Claimant.isShutdown :=
    List.countP_pos_iff.mpr ⟨r.claimant, hm.paced.claimant_mem_claims hr, hshutdown⟩
  have honce := hm.led.once
  cases haccepts : m.state.phase.accepts with
  | false => rfl
  | true =>
      rw [if_pos haccepts] at honce
      omega

theorem step (hsize : settings.batchSize ≠ 0) (hm : Sound settings m)
    (h : m.Follows settings m') : Sound settings m' where
  tallied := hm.tallied.step hsize h.move
  paced := hm.paced.step hm.tallied.buffered h.move
  sent := hm.sent.step hm.paced h.move
  queued := hm.queued.step (h.callStep hm.paced)
  led := hm.led.step hm.queued (h.callStep hm.paced)
  closed := closed_step hsize hm.led hm.closed h
  sealed := by
    refine hm.sealed.step hsize ?_ h.move
    rintro ⟨x, hx, hshutdown⟩
    obtain ⟨r, hr, rfl⟩ := List.mem_map.mp hx
    rw [hm.closed, hm.not_accepts_of_final hr hshutdown]
    rfl

/-- A run keeps a scheduler sound, and its history grows. -/
theorem run (hsize : settings.batchSize ≠ 0) (hm : Sound settings m)
    (hrun : Run settings m m') : Sound settings m' ∧ m.history.Extends m'.history := by
  induction hrun with
  | refl => exact ⟨hm, .refl _⟩
  | tail _ hstep ih =>
      obtain ⟨hsound, hext⟩ := ih
      exact ⟨hsound.step hsize hstep,
        hext.trans (History.Extends.step hsound.paced hstep.move)⟩

/-- Before anything happened there is nothing to account for. -/
theorem first (settings : Settings) (capacity : Nat) :
    Sound settings (.first { buffer := Buffer.empty capacity }) where
  tallied := ⟨rfl, rfl, fun _ hn => absurd hn List.not_mem_nil, List.nodup_nil,
    Nat.le_max_right _ _, rfl, rfl, rfl⟩
  paced := .resting rfl fun _ hr => absurd hr List.not_mem_nil
  sent := ⟨fun _ hs => absurd hs List.not_mem_nil, List.Pairwise.nil, rfl⟩
  queued := ⟨List.nodup_nil, fun _ hx => absurd hx List.not_mem_nil,
    fun _ hx => absurd hx List.not_mem_nil⟩
  led := ⟨rfl, rfl, rfl, fun call hcall => by simp [Moment.first] at hcall⟩
  closed := rfl
  sealed := ⟨fun _ => rfl, List.Pairwise.nil⟩

end Sound

def Settings.ofConfig (config : Config) (transport : String) (reporter : Reporter) :
    Settings where
  batchSize := max config.batchSize 1
  period := config.flushInterval
  channel := ⟨transport, Backoff.ofConfig config, reporter⟩

/-- Nothing is built from settings outside of their ranges. -/
theorem validate_of_create {config : Config} {transport : String} {reporter : Reporter}
    {built : Settings × State × List Effect}
    (h : create config transport reporter = .ok built) : config.validate = .ok () := by
  unfold create at h
  cases hvalid : config.validate with
  | error problem =>
      rw [hvalid] at h
      cases h
  | ok _ => rfl

/-- Building a scheduler with an accepted configuration succeeds. -/
theorem create_of_validate {config : Config} (hvalid : config.validate = .ok ())
    (transport : String) (reporter : Reporter) :
    create config transport reporter =
      .ok (.ofConfig config transport reporter,
        { buffer := Buffer.empty config.maxQueueSize },
        config.warnings.map .logged ++ [.counted (.bufferCapacity config.maxQueueSize)]) := by
  rw [create, hvalid]
  rfl

/-- What building a scheduler comes to: the settings, an empty buffer, the warnings about the
configuration and the capacity. -/
theorem create_eq {config : Config} {transport : String} {reporter : Reporter}
    {settings : Settings} {s : State} {effects : List Effect}
    (h : create config transport reporter = .ok (settings, s, effects)) :
    settings = .ofConfig config transport reporter ∧
      s = { buffer := Buffer.empty config.maxQueueSize } ∧
      effects = config.warnings.map .logged ++
        [.counted (.bufferCapacity config.maxQueueSize)] := by
  rw [create_of_validate (validate_of_create h)] at h
  cases h
  exact ⟨rfl, rfl, rfl⟩

theorem create_of_isOk {config : Config} (hvalid : config.validate.isOk = true)
    (transport : String) (reporter : Reporter) :
    ∃ effects, create config transport reporter =
      .ok (.ofConfig config transport reporter,
        { buffer := Buffer.empty config.maxQueueSize }, effects) := by
  cases hvalidate : config.validate with
  | error problem =>
      rw [hvalidate] at hvalid
      cases hvalid
  | ok _ => exact ⟨_, create_of_validate hvalidate transport reporter⟩

/-- A cycle takes at least one event at a time. -/
theorem create_eq_ok {config : Config} {transport : String} {reporter : Reporter}
    {settings : Settings} {s : State} {effects : List Effect}
    (h : create config transport reporter = .ok (settings, s, effects)) :
    settings.batchSize ≠ 0 ∧ s = { buffer := Buffer.empty config.maxQueueSize } := by
  obtain ⟨rfl, hstate, _⟩ := create_eq h
  exact ⟨Nat.ne_of_gt (Nat.le_max_right _ _), hstate⟩

namespace Reached

variable {settings : Settings} {m m' : Moment}

theorem sound (h : Reached settings m) : settings.batchSize ≠ 0 ∧ Sound settings m := by
  obtain ⟨config, transport, reporter, s, effects, hcreate, hrun⟩ := h
  obtain ⟨hsize, rfl⟩ := create_eq_ok hcreate
  exact ⟨hsize, ((Sound.first settings config.maxQueueSize).run hsize hrun).1⟩

/-- What holds at the beginning and is kept by every step holds at every moment. -/
theorem induct {P : Moment → Prop}
    (hfirst : ∀ capacity, P (.first { buffer := Buffer.empty capacity }))
    (hstep : ∀ m m', Sound settings m → m.Follows settings m' → P m → P m')
    (h : Reached settings m) : P m := by
  obtain ⟨config, transport, reporter, s, effects, hcreate, hrun⟩ := h
  obtain ⟨hsize, rfl⟩ := create_eq_ok hcreate
  have hsound := Sound.first settings config.maxQueueSize
  induction hrun with
  | refl => exact hfirst config.maxQueueSize
  | tail hrun hnext ih => exact hstep _ _ (hsound.run hsize hrun).1 hnext ih

theorem run (h : Reached settings m) (hrun : Run settings m m') : Reached settings m' := by
  obtain ⟨config, transport, reporter, s, effects, hcreate, hfirst⟩ := h
  exact ⟨config, transport, reporter, s, effects, hcreate, hfirst.trans hrun⟩

/-- Possible actions lead from one moment to another. -/
theorem run_of_after? {actions : List Action} (hordinary : actions.all Action.ordinary = true)
    (hafter : m.after? settings actions = some m') : Run settings m m' := by
  induction actions generalizing m with
  | nil =>
      cases hafter
      exact .refl
  | cons action rest ih =>
      rw [List.all_cons, Bool.and_eq_true] at hordinary
      obtain ⟨next, hnext, hrest⟩ := Option.bind_eq_some_iff.mp hafter
      exact .head ⟨action, hordinary.1, hnext⟩ (ih hordinary.2 hrest)

theorem of_after? {config : Config} {transport : String} {reporter : Reporter}
    {actions : List Action} (hvalid : config.validate.isOk = true)
    (hordinary : actions.all Action.ordinary = true)
    (hafter : (Moment.first { buffer := Buffer.empty config.maxQueueSize }).after?
      (Settings.ofConfig config transport reporter) actions = some m) :
    Reached (Settings.ofConfig config transport reporter) m := by
  obtain ⟨effects, hcreate⟩ := create_of_isOk hvalid transport reporter
  exact ⟨config, transport, reporter, _, effects, hcreate, run_of_after? hordinary hafter⟩

end Reached

end Courier.Scheduler
