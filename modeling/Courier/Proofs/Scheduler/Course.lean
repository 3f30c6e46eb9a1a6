import Mathlib.Data.List.Induction
import Courier.Proofs.Delivery.Journey
import Courier.Proofs.Scheduler.Deeds
/-!
The course of one cycle.

The batches of a cycle are on their way at the same time, and each step is about one of them or about
none.  However the steps are mixed, where a batch stands depends on its own steps alone.
-/
namespace Courier.Scheduler

/-- If the transport answers for a batch, then as this batch has in prospect. -/
def Action.foreseen (outlooks : Nat → Outlook) (s : State) : Action → Bool
  | .receive place answer _ =>
    match (s.delivery? place).map Delivery.stage with
    | some (.sending attempt) => decide (answer = (outlooks place).answer attempt)
    | _ => true
  | _ => true

namespace Moment

/-- The moment after an action while a cycle is under way. -/
def proceed? (settings : Settings) (outlooks : Nat → Outlook) (m : Moment) (action : Action) :
    Option Moment :=
  if m.state.cycle.isSome ∧ action.ordinary ∧ action.foreseen outlooks m.state then
    m.next? settings action
  else none

/-- The moment after some actions in the course of a cycle. -/
def course? (settings : Settings) (outlooks : Nat → Outlook) (m : Moment)
    (actions : List Action) : Option Moment :=
  actions.foldlM (proceed? settings outlooks) m

variable {settings : Settings} {outlooks : Nat → Outlook} {m m' : Moment}
  {actions : List Action} {action : Action}

theorem proceed?_eq_some (h : m.proceed? settings outlooks action = some m') :
    m.state.cycle ≠ none ∧ action.ordinary = true ∧
      action.foreseen outlooks m.state = true ∧ m.next? settings action = some m' := by
  unfold proceed? at h
  split at h
  case isTrue hguard =>
    obtain ⟨hcycle, hordinary, hforeseen⟩ := hguard
    exact ⟨Option.isSome_iff_ne_none.mp hcycle, hordinary, hforeseen, h⟩
  case isFalse => cases h

theorem course?_snoc (h : m.course? settings outlooks (actions ++ [action]) = some m') :
    ∃ next, m.course? settings outlooks actions = some next ∧
      next.proceed? settings outlooks action = some m' := by
  rw [course?, List.foldlM_append] at h
  obtain ⟨next, hcourse, hlast⟩ := Option.bind_eq_some_iff.mp h
  exact ⟨next, hcourse, by simpa using hlast⟩

/-- The course of a cycle is part of the run. -/
theorem run_of_course? (h : m.course? settings outlooks actions = some m') :
    Run settings m m' := by
  induction actions using List.reverseRecOn generalizing m' with
  | nil =>
      cases h
      exact .refl
  | append_singleton actions action ih =>
      obtain ⟨next, hcourse, hlast⟩ := course?_snoc h
      obtain ⟨_, hordinary, _, hnext⟩ := proceed?_eq_some hlast
      exact .tail (ih hcourse) ⟨action, hordinary, hnext⟩

end Moment

/-- How many of the actions are about the batch at a place. -/
def stepsAt (place : Nat) (actions : List Action) : Nat :=
  (actions.filterMap Action.place?).count place

theorem stepsAt_snoc (place : Nat) (actions : List Action) (action : Action) :
    stepsAt place (actions ++ [action]) =
      stepsAt place actions + if action.place? = some place then 1 else 0 := by
  rw [stepsAt, List.filterMap_append, List.count_append, stepsAt]
  cases haction : action.place? with
  | none => simp [haction]
  | some place' => by_cases hplace : place' = place <;> simp [haction, hplace]

/-- A step about a batch is the next one of its journey. -/
theorem Turn.next_of_place {settings : Settings} {outlooks : Nat → Outlook} {s s' : State}
    {action : Action} {effects : List Effect}
    (hjitter : settings.channel.backoff.jitter.isZero = true)
    (hturn : Turn settings s action s' effects) (hforeseen : action.foreseen outlooks s = true)
    {place : Nat} (hplace : action.place? = some place) :
    ∃ d d', s.delivery? place = some d ∧ s'.delivery? place = some d' ∧
      d.next? settings.channel (outlooks place) = some (d', effects) := by
  cases hturn with
  | resume cycle place' d d' effects hcycle hd hresume =>
      obtain rfl : place' = place := Option.some.inj hplace
      exact ⟨d, d', by rw [State.delivery?, hcycle]; exact hd, State.delivery?_set hd,
        Delivery.next?_of_resume hresume⟩
  | receive cycle place' answer draw d d' effects hcycle hd hreceive =>
      obtain rfl : place' = place := Option.some.inj hplace
      have hdelivery : s.delivery? place' = some d := by
        rw [State.delivery?, hcycle]
        exact hd
      have hanswer : ∀ attempt, d.stage = .sending attempt →
          answer = (outlooks place').answer attempt := by
        intro attempt hstage
        simpa [Action.foreseen, hdelivery, hstage] using hforeseen
      exact ⟨d, d', hdelivery, State.delivery?_set hd,
        Delivery.next?_of_receive hjitter hanswer hreceive⟩
  | _ => cases hplace

/-- A step that does not begin a cycle is on the record of the last one. -/
theorem History.rounds_book (settings : Settings) (s s' : State) {action : Action}
    (effects : List Effect) {h : History} {past : List Round} {r : Round}
    (hrounds : h.rounds = past ++ [r]) (haction : ∀ now, action ≠ .beginCycle now) :
    ∃ r', (h.book settings s s' action effects).rounds = past ++ [r'] ∧
      (action.place? = none ∧ r'.parcels = r.parcels ∨
        ∃ place, action.place? = some place ∧
          r'.parcels = r.parcels.modify place (·.advance (s'.delivery? place) effects)) := by
  cases action with
  | beginCycle now => exact absurd rfl (haction now)
  | resume place =>
      refine ⟨r.advance place (s'.delivery? place) effects, ?_, Or.inr ⟨place, rfl, rfl⟩⟩
      show h.rounds.modifyLast _ = _
      rw [hrounds, List.modifyLast_concat]
  | receive place answer draw =>
      refine ⟨r.advance place (s'.delivery? place) effects, ?_, Or.inr ⟨place, rfl, rfl⟩⟩
      show h.rounds.modifyLast _ = _
      rw [hrounds, List.modifyLast_concat]
  | endCycle now =>
      refine ⟨{ r with stats := s.cycle.map Cycle.stats }, ?_, Or.inl ⟨rfl, rfl⟩⟩
      show h.rounds.modifyLast _ = _
      rw [hrounds, List.modifyLast_concat]
  | enqueue event => exact ⟨r, (h.rounds_takeIn _ event).trans hrounds, Or.inl ⟨rfl, rfl⟩⟩
  | beginShutdown =>
      refine ⟨r, ?_, Or.inl ⟨rfl, rfl⟩⟩
      cases haccepts : s.phase.accepts <;> simp [book, haccepts, hrounds]
  | _ => exact ⟨r, hrounds, Or.inl ⟨rfl, rfl⟩⟩

/-- Where a batch stands is where its own steps have led it. -/
structure Parcel.Alone (channel : Channel) (outlook : Outlook) (steps : Nat) (p : Parcel) :
    Prop where
  delivery : p.delivery = (Journey.after channel outlook p.events steps).delivery
  deeds : p.deeds = (Journey.after channel outlook p.events steps).deeds
  /-- It makes no steps but those to its decisive answer. -/
  bounded : steps ≤ 2 * channel.backoff.decisive outlook

namespace Parcel.Alone

variable {channel : Channel} {outlook : Outlook} {steps : Nat} {p : Parcel}

theorem start (members : List Numbered) :
    ({ members } : Parcel).Alone channel outlook 0 :=
  ⟨rfl, rfl, Nat.zero_le _⟩

theorem advance (hp : p.Alone channel outlook steps) (hjitter : channel.backoff.jitter ≠ .nan)
    {d' : Delivery} {effects : List Effect}
    (hnext : p.delivery.next? channel outlook = some (d', effects)) :
    (p.advance (some d') effects).Alone channel outlook (steps + 1) := by
  have hbatch : d'.batch = p.events := Delivery.batch_of_next? hnext
  have hdelivery := Parcel.delivery_advance hbatch effects
  have hafter : Journey.after channel outlook p.events (steps + 1) =
      ⟨d', (Journey.after channel outlook p.events steps).stages ++ [d'.stage],
        (Journey.after channel outlook p.events steps).deeds ++ effects⟩ := by
    rw [hp.delivery] at hnext
    exact Journey.next_of_some hnext
  constructor
  case delivery =>
    show (p.advance (some d') effects).delivery =
      (Journey.after channel outlook p.events (steps + 1)).delivery
    rw [hdelivery, hafter]
  case deeds =>
    show p.deeds ++ effects = (Journey.after channel outlook p.events (steps + 1)).deeds
    rw [hafter, hp.deeds]
  case bounded =>
    by_contra hpast
    have hfinished := Journey.finished_after hjitter p.events
      (show 2 * channel.backoff.decisive outlook ≤ steps by omega)
    rw [← hp.delivery] at hfinished
    rw [Delivery.next?_of_finished hfinished] at hnext
    cases hnext

/-- Once it is over, it has made its whole journey. -/
theorem whole (hp : p.Alone channel outlook steps) (hfinished : p.stage.finished = true) :
    Journey.after channel outlook p.events (2 * channel.backoff.decisive outlook) =
      Journey.after channel outlook p.events steps := by
  apply Journey.after_of_finished _ hp.bounded
  rw [← hp.delivery]
  exact hfinished

end Parcel.Alone

/-- The last cycle on record is the one under way. -/
theorem Sound.underway {settings : Settings} {m : Moment} (hm : Sound settings m)
    (hcycle : m.state.cycle ≠ none) {past : List Round} {r : Round}
    (hrounds : m.history.rounds = past ++ [r]) :
    ∃ cycle rest, m.state.cycle = some cycle ∧ m.state.line = r.claimant :: rest ∧
      r.Underway settings.channel cycle := by
  obtain ⟨cycle, hcycle⟩ := Option.ne_none_iff_exists'.mp hcycle
  obtain ⟨past', r', rest, hline, hrounds', _, hunderway⟩ := hm.paced.underway_of_cycle hcycle
  obtain ⟨_, hlast⟩ := List.append_inj' (hrounds.symm.trans hrounds') rfl
  obtain rfl : r = r' := List.singleton_inj.mp hlast
  exact ⟨cycle, rest, hcycle, hline, hunderway⟩

/-- The batches of a cycle under way stand where its record has them. -/
theorem Sound.delivery?_eq {settings : Settings} {m : Moment} (hm : Sound settings m)
    (hcycle : m.state.cycle ≠ none) {past : List Round} {r : Round}
    (hrounds : m.history.rounds = past ++ [r]) (place : Nat) :
    m.state.delivery? place = r.parcels[place]?.map Parcel.delivery := by
  obtain ⟨cycle, _, hcycle, _, hunderway⟩ := hm.underway hcycle hrounds
  rw [State.delivery?, hcycle, Option.bind_some, ← hunderway.deliveries, List.getElem?_map]

/-- The last cycle on record took some batches, and each stands where its own steps have led it. -/
structure Abreast (settings : Settings) (outlooks : Nat → Outlook) (past : List Round)
    (batches : List (List Event)) (actions : List Action) (r : Round) (h : History) :
    Prop where
  recorded : h.rounds = past ++ [r]
  batches : r.parcels.map Parcel.events = batches
  alone : ∀ place (p : Parcel), r.parcels[place]? = some p →
    p.Alone settings.channel (outlooks place) (stepsAt place actions)

namespace Abreast

variable {settings : Settings} {outlooks : Nat → Outlook} {past : List Round}
  {batches : List (List Event)} {actions : List Action} {r : Round} {m m' : Moment}

/-- A step moves on one batch, or none. -/
theorem step (hjitter : settings.channel.backoff.jitter.isZero = true) {action : Action}
    (hm : Sound settings m)
    (habreast : Abreast settings outlooks past batches actions r m.history)
    (hcycle : m.state.cycle ≠ none) (hordinary : action.ordinary = true)
    (hforeseen : action.foreseen outlooks m.state = true) (hnext : m.next? settings action = some m') :
    ∃ r', Abreast settings outlooks past batches (actions ++ [action]) r' m'.history := by
  obtain ⟨⟨s', effects⟩, hstep, rfl⟩ := Option.map_eq_some_iff.mp hnext
  have hturn := turn_of_step hordinary hstep
  have hbegin : ∀ now, action ≠ .beginCycle now := by
    rintro now rfl
    cases hturn with
    | beginCycle claimant rest now hline hnone => exact hcycle hnone
    | emptyCycle claimant rest now hline hnone => exact hcycle hnone
  obtain ⟨r', hrounds, haside | ⟨place, hplace, hparcels⟩⟩ :=
    History.rounds_book settings m.state s' effects habreast.recorded hbegin
  · refine ⟨r', hrounds, ?_, ?_⟩
    · rw [haside.2, habreast.batches]
    · intro place p hp
      rw [haside.2] at hp
      rw [stepsAt_snoc, haside.1, if_neg (by simp), Nat.add_zero]
      exact habreast.alone place p hp
  · obtain ⟨d, d', hd, hd', hnext'⟩ := hturn.next_of_place hjitter hforeseen hplace
    refine ⟨r', hrounds, ?_, ?_⟩
    · rw [hparcels, ← habreast.batches]
      apply map_modify_of_eq
      intro p
      rfl
    · intro place' p' hp'
      rw [hparcels, List.getElem?_modify] at hp'
      obtain ⟨p, hp, rfl⟩ := Option.map_eq_some_iff.mp hp'
      have halone := habreast.alone place' p hp
      rw [stepsAt_snoc, hplace]
      by_cases hsame : place = place'
      · subst hsame
        rw [hm.delivery?_eq hcycle habreast.recorded, hp, Option.map_some, Option.some.injEq] at hd
        rw [← hd] at hnext'
        simpa [hd'] using halone.advance (Double.ne_nan_of_isZero hjitter) hnext'
      · simpa [hsame] using halone

/-- A cycle begins with what is buffered, and no batch has made a step. -/
theorem begin {now : Nat} (hm : Sound settings m)
    (hbegin : m.next? settings (.beginCycle now) = some m') :
    ∃ r, Abreast settings outlooks m.history.rounds
      (m.state.buffer.batches settings.batchSize).1 [] r m'.history := by
  obtain ⟨⟨s', effects⟩, hstep, rfl⟩ := Option.map_eq_some_iff.mp hbegin
  obtain ⟨claimant, rest, hline⟩ : ∃ claimant rest, m.state.line = claimant :: rest := by
    cases turn_of_step rfl hstep with
    | beginCycle claimant rest now hline => exact ⟨claimant, rest, hline⟩
    | emptyCycle claimant rest now hline => exact ⟨claimant, rest, hline⟩
  have hmap := Buffer.map_batches Prod.fst settings.batchSize m.history.numbered
  rw [hm.tallied.buffered] at hmap
  refine ⟨_, by simp only [History.record, History.book, hline]; rfl, ?_, ?_⟩
  · rw [hmap, List.map_map]
    rfl
  · intro place p hp
    rw [List.getElem?_map, Option.map_eq_some_iff] at hp
    obtain ⟨members, _, rfl⟩ := hp
    exact .start members

/-- However the steps are mixed, the batches stay abreast. -/
theorem course (hjitter : settings.channel.backoff.jitter.isZero = true)
    (hsize : settings.batchSize ≠ 0) (hm : Sound settings m)
    (habreast : ∃ r, Abreast settings outlooks past batches [] r m.history)
    (hcourse : m.course? settings outlooks actions = some m') :
    ∃ r, Abreast settings outlooks past batches actions r m'.history := by
  induction actions using List.reverseRecOn generalizing m' with
  | nil =>
      cases hcourse
      exact habreast
  | append_singleton actions action ih =>
      obtain ⟨next, hcourse, hlast⟩ := Moment.course?_snoc hcourse
      obtain ⟨hcycle, hordinary, hforeseen, hnext⟩ := Moment.proceed?_eq_some hlast
      obtain ⟨r, hr⟩ := ih hcourse
      have hsound := (hm.run hsize (Moment.run_of_course? hcourse)).1
      exact hr.step hjitter hsound hcycle hordinary hforeseen hnext

end Abreast

/-- What can happen to the batch can happen to the scheduler. -/
theorem State.exists_advance {s : State} {place : Nat} {d : Delivery}
    {next : Delivery × List Effect} {change : Delivery → Option (Delivery × List Effect)}
    (hd : s.delivery? place = some d) (hchange : change d = some next) :
    ∃ later, s.advance place change = some later := by
  obtain ⟨cycle, hcycle, hplace⟩ := Option.bind_eq_some_iff.mp hd
  simp only [State.advance, hcycle, hplace, hchange, bind, Option.bind_some]
  exact ⟨_, rfl⟩

theorem Moment.exists_next {settings : Settings} {m : Moment} {action : Action}
    (hstep : ∃ later, step settings m.state action = some later) :
    ∃ m', m.next? settings action = some m' := by
  obtain ⟨later, hlater⟩ := hstep
  exact ⟨_, congrArg (Option.map _) hlater⟩

/-- With no cycle under way the head of the line can begin one. -/
theorem Moment.exists_beginCycle {settings : Settings} {m : Moment} {claimant : Claimant}
    {rest : List Claimant} (hline : m.state.line = claimant :: rest)
    (hcycle : m.state.cycle = none) (now : Nat) :
    ∃ m', m.next? settings (.beginCycle now) = some m' := by
  apply exists_next
  show ∃ later, m.state.beginCycle settings now = some later
  simp only [State.beginCycle, hline, hcycle]
  split <;> exact ⟨_, rfl⟩

theorem Moment.exists_endCycle {settings : Settings} {m : Moment} {claimant : Claimant}
    {rest : List Claimant} {cycle : Cycle} (hline : m.state.line = claimant :: rest)
    (hcycle : m.state.cycle = some cycle) (hfinished : cycle.finished = true) (now : Nat) :
    ∃ m', m.next? settings (.endCycle now) = some m' := by
  apply exists_next
  show ∃ later, m.state.endCycle settings now = some later
  simp only [State.endCycle, hline, hcycle, hfinished, if_true]
  exact ⟨_, rfl⟩

/-- A tick that is due is possible while the scheduler runs. -/
theorem Moment.exists_tick {settings : Settings} {m : Moment} {due now : Nat}
    (hphase : m.state.phase = .running) (htimer : m.state.timer = .armed due)
    (hdue : due ≤ now) : ∃ m', m.next? settings (.tick now) = some m' := by
  apply exists_next
  simp only [step, State.tick, htimer, hphase, hdue, and_self, if_true, Option.map_some]
  exact ⟨_, rfl⟩

/-- A batch that waits for nothing but its turn, or for the end of a pause, can be sent. -/
theorem Moment.exists_resume {settings : Settings} {m : Moment} {place : Nat} {d : Delivery}
    (hd : m.state.delivery? place = some d)
    (hstage : d.stage = .ready ∨ ∃ attempt pause, d.stage = .resting attempt pause) :
    ∃ m', m.next? settings (.resume place) = some m' := by
  have hresume : ∃ next, d.resume = some next := by
    rcases hstage with hready | ⟨attempt, pause, hresting⟩
    · rw [Delivery.resume, hready]
      exact ⟨_, rfl⟩
    · rw [Delivery.resume, hresting]
      exact ⟨_, rfl⟩
  obtain ⟨next, hnext⟩ := hresume
  exact exists_next (State.exists_advance hd hnext)

/-- A batch that is being sent can get any answer. -/
theorem Moment.exists_receive {settings : Settings} {m : Moment} {place attempt : Nat}
    {d : Delivery} (hd : m.state.delivery? place = some d) (hstage : d.stage = .sending attempt)
    (answer : Answer) (draw : Draw) :
    ∃ m', m.next? settings (.receive place answer draw) = some m' := by
  obtain ⟨batch, stage⟩ := d
  obtain rfl : stage = .sending attempt := hstage
  exact exists_next (State.exists_advance hd
    (Delivery.receive_sending settings.channel batch attempt draw answer))

/-- As long as the delivery of a batch is not over, there is a step about it. -/
theorem Moment.exists_next_of_place {settings : Settings} {m : Moment} (outlooks : Nat → Outlook)
    {place : Nat} {d : Delivery} (hd : m.state.delivery? place = some d)
    (hfinished : d.stage.finished = false) :
    ∃ action m', action.ordinary = true ∧ action.place? = some place ∧
      action.foreseen outlooks m.state = true ∧ m.next? settings action = some m' := by
  cases hstage : d.stage with
  | ready =>
      obtain ⟨m', hm'⟩ := exists_resume hd (Or.inl hstage)
      exact ⟨.resume place, m', rfl, rfl, rfl, hm'⟩
  | resting attempt pause =>
      obtain ⟨m', hm'⟩ := exists_resume hd (Or.inr ⟨attempt, pause, hstage⟩)
      exact ⟨.resume place, m', rfl, rfl, rfl, hm'⟩
  | sending attempt =>
      obtain ⟨m', hm'⟩ := exists_receive hd hstage ((outlooks place).answer attempt) some
      exact ⟨_, m', rfl, rfl, by simp [Action.foreseen, hd, hstage], hm'⟩
  | settled attempts outcome => simp [hstage, Stage.finished] at hfinished
  | panicked panic => simp [hstage, Stage.finished] at hfinished

/-- Once all deliveries are over, the cycle can end. -/
theorem Sound.exists_end {settings : Settings} {m : Moment} (hm : Sound settings m)
    (hcycle : m.state.cycle ≠ none) {past : List Round} {r : Round}
    (hrounds : m.history.rounds = past ++ [r])
    (hfinished : ∀ p ∈ r.parcels, p.stage.finished = true) (now : Nat) :
    ∃ m', m.next? settings (.endCycle now) = some m' ∧ m'.state.cycle = none := by
  obtain ⟨cycle, rest, hcycle, hline, hunderway⟩ := hm.underway hcycle hrounds
  have hover : cycle.finished = true := by
    rw [Cycle.finished, ← hunderway.deliveries, List.all_map, List.all_eq_true]
    exact hfinished
  obtain ⟨m', hm'⟩ := Moment.exists_endCycle hline hcycle hover now
  obtain ⟨⟨s', effects⟩, hend, rfl⟩ := Option.map_eq_some_iff.mp hm'
  cases turn_of_step rfl hend with
  | endCycle claimant rest cycle now hline hcycle hfinished =>
      exact ⟨_, hm', State.cycle_finishCycle ..⟩

end Courier.Scheduler
