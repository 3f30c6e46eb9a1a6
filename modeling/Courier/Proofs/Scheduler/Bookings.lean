import Mathlib.Data.List.Perm.Basic
import Courier.Proofs.Delivery.Journey
import Courier.Proofs.Metrics.Counters
import Courier.Proofs.Scheduler.Deeds
/-!
What is booked in a run.

Every accepted event is booked, every evicted one, every call of the transport, the outcome of every
batch that has one, and, at the end of a cycle, every batch whose sending panicked.  Nothing else is
booked, and nothing is booked twice.
-/
namespace Courier

open scoped List

namespace Effect

@[simp] theorem updates_append (left right : List Effect) :
    updates (left ++ right) = updates left ++ updates right :=
  List.filterMap_append

/-- What is booked by some effects. -/
def bookings (effects : List Effect) : List Metrics.Update :=
  (updates effects).filter Metrics.Update.raises

@[simp] theorem bookings_append (left right : List Effect) :
    bookings (left ++ right) = bookings left ++ bookings right := by
  rw [bookings, updates_append, List.filter_append, bookings, bookings]

theorem bookings_eq_nil {effects : List Effect} (h : ∀ effect ∈ effects, bookings [effect] = []) :
    bookings effects = [] := by
  induction effects with
  | nil => rfl
  | cons effect rest ih =>
      obtain ⟨hfirst, hrest⟩ := List.forall_mem_cons.mp h
      rw [← List.singleton_append, bookings_append, hfirst, ih hrest, List.nil_append]

theorem bookings_counted {changes : List Metrics.Update}
    (hraises : ∀ change ∈ changes, change.raises = true) :
    bookings (changes.map .counted) = changes := by
  have hupdates : updates (changes.map .counted) = changes := by
    rw [updates, List.filterMap_map]
    exact List.filterMap_some
  rw [bookings, hupdates]
  exact List.filter_eq_self.mpr hraises

end Effect

open Effect (bookings)

theorem Channel.bookings_announce (channel : Channel) (outcome : Outcome) (attempts : Nat)
    (report : Report) : bookings (channel.announce outcome attempts report) = [] := by
  apply Effect.bookings_eq_nil
  apply forall_mem_announce
  case hlogged => exact fun _ => rfl
  case hreported => exact fun _ => rfl
  case hpanic => rfl

/-- A final outcome is booked once, and all events of the batch with it. -/
theorem Channel.bookings_conclude (channel : Channel) (batch : List Event) (attempts : Nat)
    (outcome : Outcome) : bookings (channel.conclude batch attempts outcome) =
      .batch outcome.label :: channel.accounts outcome batch.length := by
  have hraises : ∀ change ∈ .batch outcome.label :: channel.accounts outcome batch.length,
      change.raises = true :=
    List.forall_mem_cons.mpr ⟨rfl, fun _ => raises_of_mem_accounts⟩
  have hbooked := Effect.bookings_counted hraises
  rw [List.map_cons] at hbooked
  unfold conclude
  rw [Effect.bookings_append, hbooked]
  cases Report.ofOutcome outcome attempts batch with
  | none => exact List.append_nil _
  | some report =>
      show _ ++ bookings (channel.announce outcome attempts report) = _
      rw [channel.bookings_announce, List.append_nil]

namespace Scheduler

/-- What there is to book about a batch, before its cycle returned or afterwards. -/
def Parcel.bookings (channel : Channel) (returned : Bool) (p : Parcel) : List Metrics.Update :=
  match p.stage with
  | .settled _ outcome => .batch outcome.label :: channel.accounts outcome p.events.length
  | .panicked _ => if returned then [.dropped "panicked" p.events.length] else []
  | .ready | .sending _ | .resting _ _ => []

def Round.bookings (channel : Channel) (r : Round) : List Metrics.Update :=
  r.parcels.flatMap (Parcel.bookings channel r.stats.isSome)

/-- What there is to book about a run. -/
def Moment.bookings (channel : Channel) (m : Moment) : List Metrics.Update :=
  List.replicate m.state.buffer.enqueued .enqueued
  ++ List.replicate m.state.buffer.dropped (.dropped "overflow" 1)
  ++ List.replicate m.history.sendings.length .attempt
  ++ m.history.rounds.flatMap (Round.bookings channel)

/-- What there is to book was booked. -/
def Moment.Booked (channel : Channel) (m : Moment) : Prop :=
  Effect.bookings m.history.trace ~ m.bookings channel

/-- An event that comes in is booked if it is accepted, and so is the one evicted for it. -/
theorem State.bookings_enqueue (s : State) (event : Event) :
    ∃ stored evicted, (s.buffer.enqueue event).2.enqueued = s.buffer.enqueued + stored ∧
      (s.buffer.enqueue event).2.dropped = s.buffer.dropped + evicted ∧
      Effect.bookings (s.enqueue event).2 ~
        List.replicate stored .enqueued ++ List.replicate evicted (.dropped "overflow" 1) := by
  unfold State.enqueue
  rcases s.buffer.enqueue_cases event with ⟨_, heq⟩ | ⟨_, _, heq⟩ | ⟨_, _, heq⟩
  · rw [heq]
    exact ⟨0, 0, rfl, rfl, .refl _⟩
  · rw [heq]
    exact ⟨1, 1, rfl, rfl, .swap _ _ _⟩
  · rw [heq]
    exact ⟨1, 0, rfl, rfl, .refl _⟩

theorem State.bookings_finishCycle (s : State) (claimant : Claimant) (rest : List Claimant)
    (stats : CycleStats) : Effect.bookings (s.finishCycle claimant rest stats).2 = [] := by
  cases claimant <;> rfl

/-- At the end of a cycle the batches whose sending panicked are booked. -/
theorem Parcel.bookings_returned (channel : Channel) (p : Parcel) :
    p.bookings channel true =
      p.bookings channel false ++ Effect.bookings (panicEffects channel.transport [p.delivery]) := by
  obtain ⟨members, stage, deeds⟩ := p
  cases stage with
  | settled attempts outcome => exact (List.append_nil _).symm
  | _ => rfl

theorem Round.bookings_returned (channel : Channel) (r : Round) (stats : CycleStats)
    (hunreturned : r.stats = none) :
    ({ r with stats := some stats } : Round).bookings channel ~ r.bookings channel ++
      Effect.bookings (panicEffects channel.transport (r.parcels.map Parcel.delivery)) := by
  have hlost : ∀ parcels : List Parcel,
      Effect.bookings (panicEffects channel.transport (parcels.map Parcel.delivery)) =
        parcels.flatMap fun p =>
          Effect.bookings (panicEffects channel.transport [p.delivery]) := by
    intro parcels
    induction parcels with
    | nil => rfl
    | cons p rest ih =>
        rw [List.flatMap_cons, ← ih, ← Effect.bookings_append]
        simp [panicEffects]
  rw [bookings, bookings, hunreturned, hlost]
  show r.parcels.flatMap (Parcel.bookings channel true) ~ _
  rw [funext (Parcel.bookings_returned channel)]
  exact (List.flatMap_append_perm _ _ _).symm

theorem History.bookings_beginRound (channel : Channel) (h : History) (batchSize : Nat)
    (claimant : Claimant) (stats : Option CycleStats) :
    (h.beginRound batchSize claimant stats).rounds.flatMap (Round.bookings channel) =
      h.rounds.flatMap (Round.bookings channel) := by
  simp [beginRound, Round.bookings, List.flatMap_map, Parcel.bookings]

/-- An event about a batch of the last cycle may leave something to book. -/
theorem History.bookings_advance {channel : Channel} {h : History} {past : List Round} {r : Round}
    (hrounds : h.rounds = past ++ [r]) (hunreturned : r.stats = none) {place : Nat} {p : Parcel}
    (hp : r.parcels[place]? = some p) {d' : Delivery} {effects : List Effect}
    {more : List Metrics.Update}
    (hmore : (p.advance (some d') effects).bookings channel false =
      p.bookings channel false ++ more) :
    (h.advance place (some d') effects).rounds.flatMap (Round.bookings channel) ~
      h.rounds.flatMap (Round.bookings channel) ++ more := by
  have hround : (r.advance place (some d') effects).bookings channel ~
      r.bookings channel ++ more := by
    rw [Round.bookings, Round.bookings, Round.advance, hunreturned]
    exact perm_flatMap_modify hp hmore
  rw [advance, hrounds, List.modifyLast_concat, List.flatMap_append, List.flatMap_append,
    List.append_assoc, List.flatMap_singleton, List.flatMap_singleton]
  exact hround.append_left _

/-- When a cycle returns, what is left to book are its batches whose sending panicked. -/
theorem History.bookings_endRound {channel : Channel} {h : History} {past : List Round} {r : Round}
    {cycle : Cycle} (hrounds : h.rounds = past ++ [r]) (hunderway : r.Underway channel cycle) :
    (h.endRound (some cycle.stats)).rounds.flatMap (Round.bookings channel) ~
      h.rounds.flatMap (Round.bookings channel) ++
        Effect.bookings (panicEffects channel.transport cycle.deliveries) := by
  have hreturned := Round.bookings_returned channel r cycle.stats hunderway.unreturned
  rw [hunderway.deliveries] at hreturned
  rw [endRound, hrounds, List.modifyLast_concat, List.flatMap_append, List.flatMap_append,
    List.append_assoc, List.flatMap_singleton, List.flatMap_singleton]
  exact hreturned.append_left _

/-- A call of the transport is booked as an attempt, and leaves no more to book. -/
theorem Parcel.bookings_resume (channel : Channel) {p : Parcel} {d' : Delivery}
    {effects : List Effect} (hresume : p.delivery.resume = some (d', effects)) :
    Effect.bookings effects = [.attempt] ∧
      (p.advance (some d') effects).bookings channel false = p.bookings channel false := by
  obtain ⟨members, stage, deeds⟩ := p
  cases stage with
  | ready | resting =>
      cases hresume
      exact ⟨rfl, rfl⟩
  | _ => cases hresume

/-- An answer is booked with the outcome that it leads to. -/
theorem Parcel.bookings_receive {channel : Channel} {p : Parcel} {d' : Delivery} {draw : Draw}
    {answer : Answer} {effects : List Effect}
    (hreceive : p.delivery.receive channel draw answer = some (d', effects)) :
    (p.advance (some d') effects).bookings channel false =
      p.bookings channel false ++ Effect.bookings effects := by
  obtain ⟨members, stage, deeds⟩ := p
  cases stage with
  | sending attempt =>
      have hsending := Delivery.receive_sending channel (members.map Prod.fst) attempt draw answer
      obtain ⟨rfl, rfl⟩ := Prod.mk.inj (Option.some.inj (hsending.symm.trans hreceive))
      cases channel.backoff.after draw attempt answer with
      | settled attempts outcome =>
          exact (channel.bookings_conclude (members.map Prod.fst) attempts outcome).symm
      | _ => rfl
  | _ => cases hreceive

namespace Moment.Booked

variable {settings : Settings} {channel : Channel} {m m' : Moment} {effects : List Effect}

/-- A step books as many events, evictions, calls and outcomes as it adds. -/
theorem of_more (hbooked : m.Booked channel) (stored evicted calls : Nat)
    (more : List Metrics.Update) (htrace : m'.history.trace = m.history.trace ++ effects)
    (henqueued : m'.state.buffer.enqueued = m.state.buffer.enqueued + stored)
    (hdropped : m'.state.buffer.dropped = m.state.buffer.dropped + evicted)
    (hsendings : m'.history.sendings.length = m.history.sendings.length + calls)
    (hrounds : m'.history.rounds.flatMap (Round.bookings channel) ~
      m.history.rounds.flatMap (Round.bookings channel) ++ more)
    (heffects : Effect.bookings effects ~
      List.replicate stored .enqueued ++ List.replicate evicted (.dropped "overflow" 1)
        ++ List.replicate calls .attempt ++ more) : m'.Booked channel := by
  rw [Booked, htrace, Effect.bookings_append]
  refine (hbooked.append_right _).trans ?_
  apply List.perm_iff_count.mpr
  intro change
  have hround := hrounds.count_eq change
  have heffect := heffects.count_eq change
  simp only [Moment.bookings, henqueued, hdropped, hsendings, List.replicate_add,
    List.count_append] at hround heffect ⊢
  omega

theorem of_eq (hbooked : m.Booked channel)
    (htrace : m'.history.trace = m.history.trace ++ effects)
    (hnothing : Effect.bookings effects = [])
    (henqueued : m'.state.buffer.enqueued = m.state.buffer.enqueued)
    (hdropped : m'.state.buffer.dropped = m.state.buffer.dropped)
    (hsendings : m'.history.sendings = m.history.sendings)
    (hrounds : m'.history.rounds.flatMap (Round.bookings channel) =
      m.history.rounds.flatMap (Round.bookings channel)) : m'.Booked channel := by
  have hcalls := congrArg List.length hsendings
  have hnone : m'.history.rounds.flatMap (Round.bookings channel) ~
      m.history.rounds.flatMap (Round.bookings channel) ++ [] := by
    rw [hrounds, List.append_nil]
  exact hbooked.of_more 0 0 0 [] htrace henqueued hdropped hcalls hnone
    (by rw [hnothing]; exact .refl _)

theorem step (hsize : settings.batchSize ≠ 0) (hbooked : m.Booked settings.channel)
    (hp : Paced settings.channel m.state m.history.rounds) (h : m.Follows settings m') :
    m'.Booked settings.channel := by
  obtain ⟨action, effects, hturn, hhistory⟩ := h.turn
  obtain ⟨s, h₀⟩ := m
  obtain ⟨s', h'⟩ := m'
  simp only at hturn hhistory hp
  subst hhistory
  cases hturn with
  | enqueue event =>
      obtain ⟨stored, evicted, henqueued, hdropped, hperm⟩ := s.bookings_enqueue event
      refine hbooked.of_more stored evicted 0 [] rfl henqueued hdropped ?_ ?_
        (by simpa using hperm)
      · exact congrArg List.length (h₀.sendings_takeIn _ event)
      · simp [History.record, History.book]
  | start now hphase => exact hbooked.of_eq rfl rfl rfl rfl rfl rfl
  | startIgnored runtime now hignored => exact hbooked.of_eq rfl rfl rfl rfl rfl rfl
  | flushQueued hphase => exact hbooked.of_eq rfl rfl rfl rfl rfl rfl
  | flushSkipped hphase => exact hbooked.of_eq rfl rfl rfl rfl rfl rfl
  | shutdownBegun hphase =>
      exact hbooked.of_eq rfl rfl rfl rfl (by simp [History.record, History.book, hphase])
        (by simp [History.record, History.book, hphase])
  | shutdownJoined hphase =>
      exact hbooked.of_eq rfl rfl rfl rfl (by simp [History.record, History.book, hphase])
        (by simp [History.record, History.book, hphase])
  | tick due now htimer hphase hdue => exact hbooked.of_eq rfl rfl rfl rfl rfl rfl
  | leaveTimer due htimer hphase => exact hbooked.of_eq rfl rfl rfl rfl rfl rfl
  | beginCycle claimant rest now hline hcycle hsome =>
      have hbuffer := Buffer.batches_snd hsize s.buffer
      refine hbooked.of_eq rfl rfl (by rw [hbuffer]) (by rw [hbuffer]) ?_ ?_
      · simp [History.record, History.book, hline, History.beginRound]
      · simp only [History.record, History.book, hline]
        exact History.bookings_beginRound settings.channel h₀ settings.batchSize claimant _
  | emptyCycle claimant rest now hline hcycle hnone =>
      have hbuffer := Buffer.batches_snd hsize s.buffer
      refine hbooked.of_eq rfl ?_ ?_ ?_ ?_ ?_
      · rw [← List.singleton_append, Effect.bookings_append, State.bookings_finishCycle]
        rfl
      · simp only [State.buffer_finishCycle, hbuffer]
      · simp only [State.buffer_finishCycle, hbuffer]
      · simp [History.record, History.book, hline, History.beginRound]
      · simp only [History.record, History.book, hline]
        exact History.bookings_beginRound settings.channel h₀ settings.batchSize claimant _
  | resume cycle place d d' effects hcycle hd hresume =>
      obtain ⟨past, r, _, _, hrounds, _, hunderway⟩ := hp.underway_of_cycle hcycle
      obtain ⟨p, hp, rfl⟩ := hunderway.exists_parcel hd
      obtain ⟨hattempt, hsame⟩ := Parcel.bookings_resume settings.channel hresume
      obtain ⟨rfl, _⟩ := Delivery.resume_eq_some hresume
      have hmore := History.bookings_advance (h := h₀.send place (Delivery.send p.events))
        hrounds hunderway.unreturned hp (hsame.trans (List.append_nil _).symm)
      refine hbooked.of_more 0 0 1 [] rfl rfl rfl ?_ ?_ (by rw [hattempt]; exact .refl _)
      · simp [History.record, History.book, History.advance, History.send, Effect.sends,
          Delivery.send]
      · rw [History.record, History.book, State.delivery?_set hd]
        exact hmore
  | receive cycle place answer draw d d' effects hcycle hd hreceive =>
      obtain ⟨past, r, _, _, hrounds, _, hunderway⟩ := hp.underway_of_cycle hcycle
      obtain ⟨p, hp, rfl⟩ := hunderway.exists_parcel hd
      have hmore := History.bookings_advance hrounds hunderway.unreturned hp
        (Parcel.bookings_receive hreceive)
      refine hbooked.of_more 0 0 0 _ rfl rfl rfl rfl ?_ (.refl _)
      rw [History.record, History.book, State.delivery?_set hd]
      exact hmore
  | endCycle claimant rest cycle now hline hcycle hfinished =>
      obtain ⟨past, r, _, _, hrounds, _, hunderway⟩ := hp.underway_of_cycle hcycle
      refine hbooked.of_more 0 0 0
        (Effect.bookings (panicEffects settings.channel.transport cycle.deliveries))
        rfl ?_ ?_ rfl ?_ ?_
      · simp
      · simp
      · rw [History.record, History.book, hcycle]
        exact History.bookings_endRound hrounds hunderway
      · rw [Effect.bookings_append, ← List.singleton_append, Effect.bookings_append,
          s.bookings_finishCycle]
        exact .of_eq (List.append_nil _)
  | timerGone call hcall htimer =>
      refine hbooked.of_eq rfl ?_ rfl rfl rfl rfl
      unfold timerGoneEffects
      split <;> rfl
  | transportClosed call stats failure hcall =>
      refine hbooked.of_eq rfl ?_ rfl rfl rfl rfl
      cases failure <;> rfl
  | stopSeen call hcall hphase => exact hbooked.of_eq rfl rfl rfl rfl rfl rfl

end Moment.Booked

end Scheduler

end Courier
