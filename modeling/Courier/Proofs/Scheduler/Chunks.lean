import Courier.Proofs.Buffer.Chunks
import Courier.Proofs.Scheduler.Invariant
/-!
What a cycle takes, and how large the batches are that the transport sees.

A cycle takes the whole buffer in batches as large as the batch size allows; with nothing to take it
is over at once and nothing is sent or reported.  The batches are not touched on their way, so no call
of the transport ever sees an empty batch or one that is too large, whatever else happens to the
scheduler: calls may be given up, and the buffer may be emptied from outside.
-/
namespace Courier.Scheduler

/-- A batch that may be sent: not empty, and not larger than the batch size. -/
def Portion (size : Nat) (batch : List Event) : Prop := 1 ≤ batch.length ∧ batch.length ≤ size

/-- All batches may be sent: those of the cycle, and those that were handed to the transport. -/
structure Portioned (size : Nat) (m : Moment) : Prop where
  underway : ∀ cycle, m.state.cycle = some cycle → ∀ d ∈ cycle.deliveries, Portion size d.batch
  sent : ∀ batch ∈ Effect.sends m.history.trace, Portion size batch

namespace Portioned

variable {settings : Settings} {size : Nat} {m m' : Moment}

/-- A step that begins no cycle and sends nothing, whatever becomes of the cycle. -/
theorem aside (hm : Portioned size m)
    (hcycle : ∀ cycle, m'.state.cycle = some cycle → m.state.cycle = some cycle)
    {effects : List Effect} (hsends : Effect.sends effects = [])
    (htrace : m'.history.trace = m.history.trace ++ effects) : Portioned size m' where
  underway := fun cycle hsome => hm.underway cycle (hcycle cycle hsome)
  sent := by
    rw [htrace, Effect.sends_append, hsends, List.append_nil]
    exact hm.sent

/-- A step of one batch of the cycle sends nothing but that batch. -/
theorem advance (hm : Portioned size m) {cycle : Cycle} {place : Nat} {d d' : Delivery}
    (hcycle : m.state.cycle = some cycle) (hd : cycle.deliveries[place]? = some d)
    (hbatch : d'.batch = d.batch)
    (hstate : m'.state =
      { m.state with
        cycle := some { cycle with deliveries := cycle.deliveries.set place d' } })
    {effects : List Effect} (hsends : ∀ batch ∈ Effect.sends effects, batch = d.batch)
    (htrace : m'.history.trace = m.history.trace ++ effects) : Portioned size m' := by
  have hportion : Portion size d.batch :=
    hm.underway cycle hcycle d (List.mem_of_getElem? hd)
  constructor
  case underway =>
    intro cycle' hcycle' d₁ hd₁
    rw [hstate] at hcycle'
    cases hcycle'
    rcases List.mem_or_eq_of_mem_set hd₁ with hold | rfl
    · exact hm.underway cycle hcycle d₁ hold
    · exact hbatch ▸ hportion
  case sent =>
    rw [htrace, Effect.sends_append]
    intro batch hmem
    rcases List.mem_append.mp hmem with hold | hnew
    · exact hm.sent batch hold
    · exact hsends batch hnew ▸ hportion

theorem move (hm : Portioned settings.batchSize m) (hmove : Move settings m m') :
    Portioned settings.batchSize m' := by
  cases hmove with
  | aside effects more hquiet hbuffer hcycle hline hhistory =>
      exact hm.aside (fun _ h => hcycle ▸ h) hquiet.sends_eq (by rw [hhistory])
  | enqueue event effects hquiet hstate hhistory =>
      exact hm.aside (fun _ h => by rwa [hstate] at h) hquiet.sends_eq (by rw [hhistory])
  | close effects hquiet hbuffer hcycle hline hhistory =>
      exact hm.aside (fun _ h => hcycle ▸ h) hquiet.sends_eq (by rw [hhistory])
  | beginCycle claimant rest now effects hquiet hline hcycle hsome hstate hhistory =>
      constructor
      case underway =>
        intro cycle hcycle' d hd
        rw [hstate] at hcycle'
        cases hcycle'
        obtain ⟨batch, hbatch, rfl⟩ := List.mem_map.mp hd
        exact ⟨List.length_pos_iff.mpr (Buffer.ne_nil_of_mem_batches hbatch),
          Buffer.length_le_of_mem_batches hbatch⟩
      case sent =>
        have htrace : m'.history.trace = m.history.trace ++ effects := by rw [hhistory]
        rw [htrace, Effect.sends_append, hquiet.sends_eq, List.append_nil]
        exact hm.sent
  | emptyCycle claimant rest effects hsends hclosings hline hcycle hnone hstate hhistory =>
      refine hm.aside (fun _ h => ?_) hsends (by rw [hhistory])
      rw [hstate, State.cycle_finishCycle] at h
      cases h
  | resume cycle place d d' hcycle hd hresume hstate hhistory =>
      obtain ⟨_, hbatch, _⟩ := Delivery.resume_eq_some hresume
      have hsends : ∀ batch ∈ Effect.sends (Delivery.send d.batch), batch = d.batch :=
        fun _ h => List.mem_singleton.mp h
      exact hm.advance hcycle hd hbatch hstate hsends (by rw [hhistory])
  | receive cycle place answer draw d d' effects hcycle hd hreceive hstate hhistory =>
      obtain ⟨hbatch, hquiet, _⟩ := Delivery.receive_eq_some hreceive
      refine hm.advance hcycle hd hbatch hstate (fun _ h => ?_) (by rw [hhistory])
      rw [hquiet.sends_eq] at h
      cases h
  | endCycle claimant rest cycle effects hsends hclosings hline hcycle hfinished hstate
      hhistory =>
      refine hm.aside (fun _ h => ?_) hsends (by rw [hhistory])
      rw [hstate, State.cycle_finishCycle] at h
      cases h

end Portioned

theorem State.cycle_leave {s : State} {claimant : Claimant} {cycle : Cycle}
    (h : (s.leave claimant).cycle = some cycle) : s.cycle = some cycle := by
  unfold State.leave at h
  simp only at h
  split at h
  · cases h
  · exact h

/-- Whoever gives something up, or reaches into the buffer, begins no cycle and sends nothing. -/
theorem cycle_of_not_ordinary {settings : Settings} {s s' : State} {action : Action}
    {effects : List Effect} (haction : action.ordinary = false)
    (hstep : step settings s action = some (s', effects)) :
    effects = [] ∧ ∀ cycle, s'.cycle = some cycle → s.cycle = some cycle := by
  cases action with
  | abandon call =>
      obtain ⟨s₁, habandon, heq⟩ := Option.map_eq_some_iff.mp hstep
      cases heq
      unfold State.abandon at habandon
      split at habandon
      · cases habandon
      · cases habandon
        exact ⟨rfl, fun _ h => State.cycle_leave (State.cycle_leave h)⟩
  | takeOut count =>
      cases hstep
      exact ⟨rfl, fun _ h => h⟩
  | discard =>
      cases hstep
      refine ⟨rfl, fun _ h => ?_⟩
      unfold State.discard at h
      split at h
      · exact State.cycle_leave h
      · exact h
  | _ => cases haction

/-- Any step at all keeps the batches as they should be. -/
theorem Portioned.step {settings : Settings} {m m' : Moment} {action : Action}
    (hm : Portioned settings.batchSize m) (hnext : m.next? settings action = some m') :
    Portioned settings.batchSize m' := by
  cases hordinary : action.ordinary with
  | true => exact hm.move (Moment.Follows.move ⟨action, hordinary, hnext⟩)
  | false =>
      obtain ⟨⟨s', effects⟩, hstep, rfl⟩ := Option.map_eq_some_iff.mp hnext
      obtain ⟨rfl, hcycle⟩ := cycle_of_not_ordinary hordinary hstep
      exact hm.aside hcycle rfl rfl

/-- Whatever happens to a scheduler, its batches stay as they should be. -/
theorem Portioned.after {settings : Settings} {m m' : Moment} {actions : List Action}
    (hm : Portioned settings.batchSize m) (hafter : m.after? settings actions = some m') :
    Portioned settings.batchSize m' := by
  induction actions generalizing m with
  | nil =>
      cases hafter
      exact hm
  | cons action rest ih =>
      obtain ⟨next, hnext, hrest⟩ := Option.bind_eq_some_iff.mp hafter
      exact ih (hm.step hnext) hrest

/-- The settings of an accepted configuration take its batch size, which is not zero. -/
theorem create_batchSize {config : Config} {transport : String} {reporter : Reporter}
    {settings : Settings} {s : State} {effects : List Effect}
    (hcreate : create config transport reporter = .ok (settings, s, effects)) :
    settings.batchSize = config.batchSize ∧ config.batchSize ≠ 0 := by
  have hpos := (Config.validate_eq_ok_iff.mp (validate_of_create hcreate)).2.2.1
  obtain ⟨rfl, _, _⟩ := create_eq hcreate
  exact ⟨Nat.max_eq_left (Nat.one_le_iff_ne_zero.mpr hpos), hpos⟩

/-- What a cycle does that finds something: it takes all of it. -/
structure CycleTakes (settings : Settings) (s : State) (now : Nat) (s' : State)
    (effects : List Effect) : Prop where
  step : Scheduler.step settings s (.beginCycle now) = some (s', effects)
  cycle : s'.cycle = some (.ofBatches now (s.buffer.batches settings.batchSize).1)
  buffer : s'.buffer = { s.buffer with
    contents := [], drained := s.buffer.drained + s.buffer.size }
  /-- The gauge is set, and nothing is sent yet. -/
  effects : effects = [.counted (.bufferSize 0)]

/-- What a cycle does that finds nothing: it is over at once, with empty totals, and its claimant is
out of the line. -/
structure CyclePasses (settings : Settings) (s : State) (claimant : Claimant)
    (rest : List Claimant) (now : Nat) (s' : State) (effects : List Effect) : Prop where
  step : Scheduler.step settings s (.beginCycle now) = some (s', effects)
  state : s' = (s.finishCycle claimant rest {}).1
  /-- The gauge is set; the final cycle also closes the transport. -/
  effects : effects = .counted (.bufferSize 0)
    :: (if claimant.isShutdown then [.transportClosed] else [])

/-- How the cycles of a scheduler cut what is buffered into batches. -/
structure Chunking (config : Config) (settings : Settings) (start : State) : Prop where
  /-- Whatever is buffered is taken in batches of the configured size. -/
  chunked : ∀ b : Buffer Event, b.Chunked config.batchSize (b.batches settings.batchSize)
  /-- In any state in which somebody is in line and no cycle is under way, a cycle takes
  everything there is. -/
  takes : ∀ s claimant rest now, s.line = claimant :: rest → s.cycle = none →
    s.buffer.size ≠ 0 → ∃ s' effects, CycleTakes settings s now s' effects
  /-- With nothing to take nothing is sent or reported, and no batch fails. -/
  passes : ∀ s claimant rest now, s.line = claimant :: rest → s.cycle = none →
    s.buffer.size = 0 → ∃ s' effects, CyclePasses settings s claimant rest now s' effects
  /-- Whatever happened, the transport saw only batches of one event up to the batch size. -/
  sends : ∀ actions m, (Moment.first start).after? settings actions = some m →
    ∀ batch ∈ Effect.sends m.history.trace,
      1 ≤ batch.length ∧ batch.length ≤ config.batchSize

section BeginCycle

variable {settings : Settings} {s : State} {claimant : Claimant} {rest : List Claimant}

theorem exists_cycleTakes (hsize : settings.batchSize ≠ 0) (hline : s.line = claimant :: rest)
    (hcycle : s.cycle = none) (hsome : s.buffer.size ≠ 0) (now : Nat) :
    ∃ s' effects, CycleTakes settings s now s' effects := by
  have hbatches : (s.buffer.batches settings.batchSize).1 ≠ [] :=
    mt (Buffer.batches_eq_nil_iff hsize _).mp (mt List.length_eq_zero_iff.mpr hsome)
  have hleft := Buffer.batches_snd hsize s.buffer
  refine ⟨{ s with
    buffer := (s.buffer.batches settings.batchSize).2
    cycle := some (.ofBatches now (s.buffer.batches settings.batchSize).1) },
    _, ?_, rfl, hleft, rfl⟩
  simp only [Scheduler.step, State.beginCycle, hline, hcycle,
    List.isEmpty_eq_false_iff.mpr hbatches]
  rw [hleft]
  rfl

theorem exists_cyclePasses (hline : s.line = claimant :: rest) (hcycle : s.cycle = none)
    (hnone : s.buffer.size = 0) (now : Nat) :
    ∃ s' effects, CyclePasses settings s claimant rest now s' effects := by
  have hcontents : s.buffer.contents = [] := List.length_eq_zero_iff.mp hnone
  have hbatches : s.buffer.batches settings.batchSize = ([], s.buffer) := by
    rw [Buffer.batches, dif_pos (Or.inl hcontents)]
  refine ⟨_, _, ?step, rfl, rfl⟩
  simp only [Scheduler.step, State.beginCycle, hline, hcycle, hbatches, List.isEmpty_nil, if_true,
    hnone]
  cases claimant <;> rfl

end BeginCycle

/-- With accepted settings every cycle cuts the whole buffer into batches of the configured size, and
no other batch is ever sent. -/
theorem cycles_chunk_buffer {config : Config} {transport : String} {reporter : Reporter}
    {settings : Settings} {start : State} {effects : List Effect}
    (hcreate : create config transport reporter = .ok (settings, start, effects)) :
    Chunking config settings start := by
  obtain ⟨hbatchSize, hpos⟩ := create_batchSize hcreate
  have hsize : settings.batchSize ≠ 0 := hbatchSize ▸ hpos
  obtain ⟨_, rfl⟩ := create_eq_ok hcreate
  have hfirst : Portioned settings.batchSize
      (.first { buffer := Buffer.empty config.maxQueueSize }) :=
    ⟨fun _ h => (by cases h), fun _ h => absurd h List.not_mem_nil⟩
  constructor
  case chunked =>
    intro b
    rw [hbatchSize]
    exact b.chunked_batches hpos
  case takes =>
    intro s claimant rest now hline hcycle hsome
    exact exists_cycleTakes hsize hline hcycle hsome now
  case passes =>
    intro s claimant rest now hline hcycle hnone
    exact exists_cyclePasses hline hcycle hnone now
  case sends =>
    intro actions m hafter
    rw [← hbatchSize]
    exact (hfirst.after hafter).sent

/-- Five events in batches of two: after an attempt of its second batch the first one is sent, and
then the one event that is left over. -/
theorem cycles_chunk_five_events :
    ∃ config settings start effects m,
      create config "memory" .keep = .ok (settings, start, effects) ∧
      (Moment.first start).after? settings
        (List.replicate 5 (.enqueue ⟨[]⟩)
          ++ [.beginFlush, .beginCycle 0, .resume 1, .resume 0, .resume 2]) = some m ∧
      (Effect.sends m.history.trace).map List.length = [2, 2, 1] ∧
      Chunking config settings start := by
  let config : Config := { maxQueueSize := 8, batchSize := 2 }
  let start : State := { buffer := Buffer.empty config.maxQueueSize }
  obtain ⟨effects, hcreate⟩ : ∃ effects, create config "memory" .keep =
      .ok (.ofConfig config "memory" .keep, start, effects) :=
    create_of_isOk (by decide +kernel) "memory" .keep
  have hcheck : ((Moment.first start).after? (.ofConfig config "memory" .keep)
      (List.replicate 5 (.enqueue ⟨[]⟩)
        ++ [.beginFlush, .beginCycle 0, .resume 1, .resume 0, .resume 2])).any (fun m =>
          decide ((Effect.sends m.history.trace).map List.length = [2, 2, 1])) = true := by
    decide +kernel
  obtain ⟨m, hm, hfacts⟩ := (Option.any_eq_true _ _).mp hcheck
  exact ⟨config, _, start, effects, m, hcreate, hm, of_decide_eq_true hfacts,
    cycles_chunk_buffer hcreate⟩

end Courier.Scheduler
