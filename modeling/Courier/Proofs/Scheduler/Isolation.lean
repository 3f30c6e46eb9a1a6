import Courier.Proofs.Delivery.Reporting
import Courier.Proofs.Scheduler.Course
import Courier.Proofs.Timeline.Clock
/-!
A batch of a cycle is on its own.

Whatever happens to the other batches of its cycle, panics included, a batch makes the journey that it
would make alone.  The cycle ends, counts what its batches came to, and the reporter acts once for
each batch that came to an outcome other than a success.
-/
namespace Courier

def Stage.isPanicked : Stage → Bool
  | .panicked _ => true
  | _ => false

theorem Reporter.acted_panicEffects (reporter : Reporter) (transport : String)
    (deliveries : List Delivery) :
    reporter.acted (Scheduler.panicEffects transport deliveries) = [] := by
  induction deliveries with
  | nil => rfl
  | cons d rest ih =>
      obtain ⟨batch, stage⟩ := d
      rw [Scheduler.panicEffects, List.flatMap_cons, Reporter.acted_append]
      rw [Scheduler.panicEffects] at ih
      rw [ih, List.append_nil]
      cases stage with
      | panicked panic => cases reporter <;> rfl
      | _ => rfl

namespace Journey

variable {channel : Channel} {outlook : Outlook}

/-- At the end of a journey the reporter has acted once, unless it ended with a success or a panic. -/
theorem length_acted_after (hjitter : channel.backoff.jitter ≠ .nan) (outlook : Outlook)
    (batch : List Event) (j : Journey)
    (hj : j = after channel outlook batch (2 * channel.backoff.decisive outlook)) :
    (channel.reporter.acted j.deeds).length + (if j.delivery.stage.isPanicked then 1 else 0) =
      if j.delivery.stage.succeeded then 0 else 1 := by
  have hpos := (channel.backoff.decisive_spec outlook).1
  have hfinished := channel.backoff.finished_verdict outlook
  rw [hj, after_of_le hjitter batch (Nat.le_refl _), acted_upTo hjitter, upTo,
    if_neg (Nat.ne_of_gt hpos)]
  cases hverdict : channel.backoff.verdict outlook (channel.backoff.decisive outlook) with
  | settled attempts outcome =>
      rw [Channel.echo, Channel.length_acted_conclude]
      rfl
  | panicked panic => rfl
  | ready | sending | resting => simp [hverdict, Stage.finished] at hfinished

end Journey

namespace Scheduler

open Timeline (Attempts FarEnd)

/-- What the scheduler does on its own never involves the reporter. -/
theorem Turn.acted_own {settings : Settings} {s s' : State} {action : Action}
    {effects : List Effect} (hturn : Turn settings s action s' effects) (reporter : Reporter) :
    reporter.acted (action.own effects) = [] := by
  have hfinish : ∀ (s : State) (claimant : Claimant) (rest : List Claimant)
      (stats : CycleStats),
      reporter.acted (s.finishCycle claimant rest stats).2 = [] := by
    intro s claimant rest stats
    cases claimant <;> cases reporter <;> rfl
  cases hturn with
  | enqueue event =>
      show reporter.acted (s.enqueue event).2 = []
      unfold State.enqueue
      obtain ⟨admission, buffer⟩ := s.buffer.enqueue event
      cases admission <;> cases reporter <;> rfl
  | emptyCycle claimant rest now hline hcycle hnone =>
      rw [Action.own, if_neg (by simp [Action.place?]), Reporter.acted_cons, hfinish]
      cases reporter <;> rfl
  | endCycle claimant rest cycle now hline hcycle hfinished =>
      rw [Action.own, if_neg (by simp [Action.place?]), Reporter.acted_append,
        Reporter.acted_panicEffects, Reporter.acted_cons, hfinish]
      cases reporter <;> rfl
  | timerGone call hcall htimer =>
      show reporter.acted (timerGoneEffects s.timer) = []
      unfold timerGoneEffects
      split <;> cases reporter <;> rfl
  | transportClosed call stats failure hcall =>
      cases failure <;> cases reporter <;> rfl
  | _ => cases reporter <;> rfl

/-- The reporter acts for batches only. -/
theorem Reached.length_acted {settings : Settings} {m : Moment} (h : Reached settings m) :
    (settings.channel.reporter.acted m.history.trace).length =
      (settings.channel.reporter.acted m.history.deeds).length := by
  obtain ⟨config, transport, reporter, s, effects, hcreate, hrun⟩ := h
  obtain ⟨hsize, rfl⟩ := create_eq_ok hcreate
  have hown : ∃ own, m.Own own ∧ settings.channel.reporter.acted own = [] := by
    induction hrun with
    | refl => exact ⟨[], List.Perm.refl _, rfl⟩
    | tail hrun hstep ih =>
        obtain ⟨own, hown, hacted⟩ := ih
        obtain ⟨action, effects, hturn, hhistory⟩ := hstep.turn
        have hsound := ((Sound.first settings config.maxQueueSize).run hsize hrun).1
        refine ⟨_, hown.step hsound.paced hturn hhistory, ?_⟩
        rw [Reporter.acted_append, hacted, hturn.acted_own]
        rfl
  obtain ⟨own, hown, hacted⟩ := hown
  have hlength := (hown.filter settings.channel.reporter.acts).length_eq
  rw [List.filter_append, List.length_append] at hlength
  rw [Reporter.acted] at hacted
  rwa [hacted, List.length_nil, Nat.zero_add] at hlength

/-- Since some moment it has acted for what was done about batches since then. -/
theorem Reached.length_acted_drop {settings : Settings} {m m' : Moment} (h : Reached settings m)
    (hrun : Run settings m m') {more : List Effect}
    (hdeeds : m'.history.deeds = m.history.deeds ++ more) :
    (settings.channel.reporter.acted
        (m'.history.trace.drop m.history.trace.length)).length =
      (settings.channel.reporter.acted more).length := by
  obtain ⟨hsize, hsound⟩ := h.sound
  obtain ⟨segment, hsegment⟩ := (hsound.run hsize hrun).2.trace
  have hbefore := h.length_acted
  have hafter := (h.run hrun).length_acted
  rw [← hsegment, hdeeds, Reporter.acted_append, Reporter.acted_append, List.length_append,
    List.length_append] at hafter
  rw [← hsegment, List.drop_left]
  omega

/-- The journeys that the batches of a cycle would make alone, to their ends. -/
def lone (channel : Channel) (outlooks : Nat → Outlook) (batches : List (List Event)) :
    List Journey :=
  batches.mapIdx fun place batch =>
    Journey.after channel (outlooks place) batch (2 * channel.backoff.decisive (outlooks place))

def failures (journeys : List Journey) : Nat :=
  journeys.countP fun j => !j.delivery.stage.succeeded

/-- Once all are over, the batches of a cycle have made the journeys that they would make alone. -/
theorem Abreast.lone {settings : Settings} {outlooks : Nat → Outlook} {past : List Round}
    {batches : List (List Event)} {actions : List Action} {r : Round} {h : History}
    (habreast : Abreast settings outlooks past batches actions r h)
    (hfinished : ∀ p ∈ r.parcels, p.stage.finished = true) :
    r.parcels.map (fun p => (p.delivery, p.deeds)) =
      (lone settings.channel outlooks batches).map fun j => (j.delivery, j.deeds) := by
  apply List.ext_getElem?
  intro place
  rw [Scheduler.lone, List.getElem?_map, List.getElem?_map, List.getElem?_mapIdx,
    ← habreast.batches, List.getElem?_map]
  cases hp : r.parcels[place]? with
  | none => rfl
  | some p =>
      have halone := habreast.alone place p hp
      have hwhole := halone.whole (hfinished p (List.mem_of_getElem? hp))
      simp only [Option.map_some]
      rw [hwhole, halone.delivery, halone.deeds]

/-- The reporter acts once for each failure that is no panic. -/
theorem length_acted_lone {channel : Channel} (hjitter : channel.backoff.jitter ≠ .nan)
    (outlooks : Nat → Outlook) (batches : List (List Event)) :
    (channel.reporter.acted ((lone channel outlooks batches).flatMap Journey.deeds)).length
        + (lone channel outlooks batches).countP (fun j => j.delivery.stage.isPanicked) =
      failures (lone channel outlooks batches) := by
  have hlone : ∀ j ∈ lone channel outlooks batches,
      (channel.reporter.acted j.deeds).length + (if j.delivery.stage.isPanicked then 1 else 0) =
        if j.delivery.stage.succeeded then 0 else 1 := by
    intro j hj
    obtain ⟨place, hplace, hj⟩ := List.mem_mapIdx.mp hj
    exact Journey.length_acted_after hjitter (outlooks place) _ j hj.symm
  generalize lone channel outlooks batches = journeys at hlone ⊢
  induction journeys with
  | nil => rfl
  | cons j rest ih =>
      have hfirst := hlone j List.mem_cons_self
      have hrest := ih fun j hj => hlone j (List.mem_cons_of_mem _ hj)
      rw [failures] at hrest ⊢
      rw [List.flatMap_cons, Reporter.acted_append, List.length_append, List.countP_cons,
        List.countP_cons, ← hrest]
      cases hsucceeded : j.delivery.stage.succeeded <;>
        simp only [hsucceeded, Bool.false_eq_true, if_false, if_true, Bool.not_true,
          Bool.not_false] at hfirst ⊢ <;> omega

theorem Parcel.Over.finished {channel : Channel} {p : Parcel} (hover : p.Over channel) :
    p.stage.finished = true := by
  rcases hover with ⟨panic, hstage⟩ | ⟨attempts, outcome, hstage, _⟩
  · rw [hstage]
    rfl
  · rw [hstage]
    rfl

/-- A batch that is over came to the same stage, by as many calls, as one that is sent alone on the
clock. -/
theorem Parcel.Alone.clock {channel : Channel} {outlook : Outlook} {steps : Nat} {p : Parcel}
    (halone : p.Alone channel outlook steps) (hjitter : channel.backoff.jitter.isZero = true)
    (hfinished : p.stage.finished = true) {farEnd : FarEnd} {draw : Draw} {call : Nat} (now : Nat)
    (houtlook : farEnd.outlook draw p.events call = outlook) :
    p.stage = (Attempts.run channel.backoff draw farEnd p.events call now).stage ∧
      Effect.sends p.deeds = List.replicate
        (Attempts.run channel.backoff draw farEnd p.events call now).calls.length p.events := by
  have hnumber := Double.ne_nan_of_isZero hjitter
  have hjourney := halone.whole hfinished
  rw [Journey.after_of_le hnumber p.events (Nat.le_refl _)] at hjourney
  have hpause := Backoff.delayFor_of_isZero hjitter draw
  obtain ⟨records, hrun⟩ := Attempts.run_eq hnumber hpause now houtlook
  have hpos := (channel.backoff.decisive_spec outlook).1
  rw [hrun]
  constructor
  · have hdelivery := halone.delivery
    rw [← hjourney, Journey.upTo, if_neg (Nat.ne_of_gt hpos)] at hdelivery
    exact congrArg Delivery.stage hdelivery
  · rw [halone.deeds, ← hjourney, Journey.sends_upTo, List.length_map, List.length_range]

/-- A cycle that took some batches treats each of them as if it were alone. -/
structure Isolated (settings : Settings) (outlooks : Nat → Outlook) (m m' : Moment)
    (actions : List Action) (batches : List (List Event)) (r : Round) : Prop where
  /-- The cycle is the next one on record, and took these batches. -/
  recorded : m'.history.rounds = m.history.rounds ++ [r]
  taken : r.parcels.map Parcel.events = batches
  /-- At any time a batch stands where its own steps have led it, and there is an end to them. -/
  alone : ∀ (place : Nat) (p : Parcel), r.parcels[place]? = some p →
    p.Alone settings.channel (outlooks place) (stepsAt place actions)
  /-- As long as a batch is on its way, something can happen to it, whatever the others do. -/
  onward : m'.state.cycle ≠ none → ∀ (place : Nat) (p : Parcel), r.parcels[place]? = some p →
    p.stage.finished = true ∨
      ∃ action m'', action.ordinary = true ∧ action.place? = some place ∧
        action.foreseen outlooks m'.state = true ∧ m'.next? settings action = some m''
  /-- After the last one the cycle can end. -/
  ending : m'.state.cycle ≠ none → (∀ p ∈ r.parcels, p.stage.finished = true) →
    ∀ now, ∃ m'', m'.next? settings (.endCycle now) = some m'' ∧ m''.state.cycle = none
  /-- At the end each batch has made the journey that it would make alone. -/
  whole : m'.state.cycle = none →
    r.parcels.map (fun p => (p.delivery, p.deeds)) =
      (lone settings.channel outlooks batches).map fun j => (j.delivery, j.deeds)
  /-- On the clock, a batch that is sent alone comes to the same stage by as many calls. -/
  clock : m'.state.cycle = none → ∀ (place : Nat) (p : Parcel),
    r.parcels[place]? = some p →
    ∀ (farEnd : FarEnd) (draw : Draw) (call now : Nat),
    farEnd.outlook draw p.events call = outlooks place →
    p.stage = (Attempts.run settings.channel.backoff draw farEnd p.events call now).stage ∧
      Effect.sends p.deeds = List.replicate
        (Attempts.run settings.channel.backoff draw farEnd p.events call now).calls.length p.events
  /-- The cycle counts all its batches and their events, and those that failed. -/
  counted : m'.state.cycle = none → r.stats = some {
    batches := batches.length
    events := batches.flatten.length
    failedBatches := failures (lone settings.channel outlooks batches) }
  /-- The reporter acted once for each failure that was no panic. -/
  reported : m'.state.cycle = none →
    (settings.channel.reporter.acted
        (m'.history.trace.drop m.history.trace.length)).length
      + (lone settings.channel outlooks batches).countP (fun j => j.delivery.stage.isPanicked) =
    failures (lone settings.channel outlooks batches)

/-- In every course of a cycle without jitter, each of its batches is on its own. -/
theorem batches_isolated {settings : Settings} {outlooks : Nat → Outlook} {m m₁ m' : Moment}
    {actions : List Action} {now : Nat} (h : Reached settings m)
    (hjitter : settings.channel.backoff.jitter.isZero = true)
    (hbegin : m.next? settings (.beginCycle now) = some m₁)
    (hcourse : m₁.course? settings outlooks actions = some m') :
    ∃ r, Isolated settings outlooks m m' actions
      (m.state.buffer.batches settings.batchSize).1 r := by
  have hnumber := Double.ne_nan_of_isZero hjitter
  have hfirst : Run settings m m₁ := .single ⟨.beginCycle now, rfl, hbegin⟩
  have hrun := hfirst.trans (Moment.run_of_course? hcourse)
  obtain ⟨hsize, hsound⟩ := h.sound
  obtain ⟨hsound₁, _⟩ := hsound.run hsize hfirst
  obtain ⟨hsound', _⟩ := hsound.run hsize hrun
  obtain ⟨r, habreast⟩ :=
    Abreast.course hjitter hsize hsound₁ (Abreast.begin hsound hbegin) hcourse
  generalize (m.state.buffer.batches settings.batchSize).1 = batches at habreast ⊢
  have hover : m'.state.cycle = none → r.Over settings.channel := by
    intro hcycle
    apply hsound'.paced.over_of_resting hcycle
    rw [habreast.recorded]
    exact List.mem_append_right _ List.mem_cons_self
  have hfinished : m'.state.cycle = none → ∀ p ∈ r.parcels, p.stage.finished = true :=
    fun hcycle p hp => ((hover hcycle).2 p hp).finished
  have hwhole : m'.state.cycle = none → _ := fun hcycle => habreast.lone (hfinished hcycle)
  refine ⟨r, ?_⟩
  constructor
  case recorded => exact habreast.recorded
  case taken => exact habreast.batches
  case alone => exact habreast.alone
  case onward =>
    intro hcycle place p hp
    cases hcase : p.stage.finished with
    | true => exact Or.inl rfl
    | false =>
        have hd : m'.state.delivery? place = some p.delivery := by
          rw [hsound'.delivery?_eq hcycle habreast.recorded, hp, Option.map_some]
        exact Or.inr (Moment.exists_next_of_place outlooks hd hcase)
  case ending =>
    intro hcycle hdone now
    exact hsound'.exists_end hcycle habreast.recorded hdone now
  case whole => exact hwhole
  case clock =>
    intro hcycle place p hp farEnd draw call now houtlook
    exact (habreast.alone place p hp).clock hjitter
      (hfinished hcycle p (List.mem_of_getElem? hp)) now houtlook
  case counted =>
    intro hcycle
    have hlength := congrArg List.length habreast.batches
    have hmembers : r.members.length = batches.flatten.length := by
      rw [← habreast.batches, ← List.flatMap_def]
      simp [Round.members, Parcel.events, List.length_flatMap]
    have hfailed := congrArg
      (List.countP fun x : Delivery × List Effect => !x.1.stage.succeeded) (hwhole hcycle)
    rw [List.countP_map, List.countP_map] at hfailed
    rw [(hover hcycle).1, Round.totals, hmembers, ← hlength, List.length_map]
    exact congrArg (fun n => some (CycleStats.mk _ _ n)) hfailed
  case reported =>
    intro hcycle
    have hdeeds : m'.history.deeds = m.history.deeds ++ r.deeds := by
      rw [History.deeds, habreast.recorded, List.flatMap_append, List.flatMap_singleton]
      rfl
    have hround : r.deeds =
        (lone settings.channel outlooks batches).flatMap Journey.deeds := by
      have hmap := congrArg (List.flatMap Prod.snd) (hwhole hcycle)
      rwa [List.flatMap_map, List.flatMap_map] at hmap
    rw [h.length_acted_drop hrun hdeeds, hround]
    exact length_acted_lone hnumber outlooks batches

/-- Of three batches the first one panics, the second one is rejected and the third one gets through
when it is sent again, and the reporter panics. -/
theorem batches_isolated_from_panic :
    ∃ settings outlooks m m₁ m' actions r, Reached settings m ∧
      settings.channel.backoff.jitter.isZero = true ∧
      m.next? settings (.beginCycle 0) = some m₁ ∧
      m₁.course? settings outlooks actions = some m' ∧
      m'.state.cycle.isNone = true ∧ r.stats = some ⟨3, 3, 2⟩ ∧
      Isolated settings outlooks m m' actions (m.state.buffer.batches settings.batchSize).1 r := by
  let config : Config := { batchSize := 1, maxRetries := 2, jitter := Double.zero }
  let settings := Settings.ofConfig config "http" (.panic none)
  let outlooks : Nat → Outlook := fun place => {
    answer := fun attempt =>
      if place = 0 then .panic ⟨"broken"⟩
      else if place = 1 then .outcome (.totalFailure 400 "bad request" false)
      else if attempt = 1 then .failure (.timeout "slow")
      else .outcome .success
    draw := fun _ => some }
  let setup : List Action := [.enqueue ⟨[]⟩, .enqueue ⟨[]⟩, .enqueue ⟨[]⟩, .beginFlush]
  let actions : List Action := [
    .resume 1, .resume 2, .receive 2 (.failure (.timeout "slow")) some, .resume 0, .resume 2,
    .receive 0 (.panic ⟨"broken"⟩) some, .receive 2 (.outcome .success) some,
    .receive 1 (.outcome (.totalFailure 400 "bad request" false)) some, .endCycle 7]
  have hcheck : ((Moment.first { buffer := Buffer.empty config.maxQueueSize }).after?
      settings setup).any (fun m => (m.next? settings (.beginCycle 0)).any fun m₁ =>
        (m₁.course? settings outlooks actions).any fun m' =>
          decide (m'.state.cycle.isNone = true ∧
            m'.history.rounds.getLast?.bind Round.stats = some ⟨3, 3, 2⟩)) = true := by
    decide +kernel
  obtain ⟨m, hm, hcheck⟩ := (Option.any_eq_true _ _).mp hcheck
  obtain ⟨m₁, hbegin, hcheck⟩ := (Option.any_eq_true _ _).mp hcheck
  obtain ⟨m', hcourse, hfacts⟩ := (Option.any_eq_true _ _).mp hcheck
  obtain ⟨hcycle, hstats⟩ := of_decide_eq_true hfacts
  have hreached : Reached settings m :=
    Reached.of_after? (by decide +kernel) (by decide) hm
  have hjitter : settings.channel.backoff.jitter.isZero = true := by decide +kernel
  obtain ⟨r, hisolated⟩ := batches_isolated hreached hjitter hbegin hcourse
  rw [hisolated.recorded, List.getLast?_concat] at hstats
  exact ⟨settings, outlooks, m, m₁, m', actions, r, hreached, hjitter, hbegin, hcourse, hcycle,
    hstats, hisolated⟩

end Scheduler

end Courier
