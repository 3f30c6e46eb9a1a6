import Mathlib.Algebra.BigOperators.Group.List.Basic
import Courier.Proofs.Scheduler.Conservation
import Courier.Proofs.Scheduler.Gauge
import Courier.Proofs.Scheduler.Isolation
/-!
The counters balance.

Between two cycles every accepted event is counted once more: as evicted, as delivered or as dropped
with its batch, unless it is still buffered.  The batches are counted by their outcomes, those whose
sending panicked apart, and the calls of the transport one by one.
-/
namespace Courier

open Metrics (Counter)

namespace Metrics

/-- The changes count the events of some batches, some of which panicked, and nothing else. -/
structure Books (updates : List Update) (events batches panics : Nat) : Prop where
  events : (Counter.delivered none).total updates + (Counter.dropped none).total updates = events
  reasons : (Counter.dropped none).total updates =
    (Counter.dropped (some "rejected")).total updates
    + (Counter.dropped (some "undelivered")).total updates
    + (Counter.dropped (some "panicked")).total updates
  batches : (Counter.batches none).total updates + panics = batches
  overflow : (Counter.dropped (some "overflow")).total updates = 0
  enqueued : Counter.enqueued.total updates = 0
  attempts : Counter.attempts.total updates = 0

namespace Books

theorem nil : Books [] 0 0 0 := ⟨rfl, rfl, rfl, rfl, rfl, rfl⟩

theorem append {left right : List Update} {events batches panics events' batches' panics' : Nat}
    (hleft : Books left events batches panics) (hright : Books right events' batches' panics') :
    Books (left ++ right) (events + events') (batches + batches') (panics + panics') := by
  obtain ⟨hevents, hreasons, hbatches, hoverflow, henqueued, hattempts⟩ := hleft
  obtain ⟨hevents', hreasons', hbatches', hoverflow', henqueued', hattempts'⟩ := hright
  constructor <;> rw [Counter.total_append]
  case events =>
    rw [Counter.total_append]
    omega
  case reasons =>
    rw [Counter.total_append, Counter.total_append, Counter.total_append]
    omega
  all_goals omega

theorem flatMap {α : Type} {f : α → List Update} {events : α → Nat} {panicked : α → Bool}
    {l : List α} (h : ∀ a ∈ l, Books (f a) (events a) 1 (if panicked a then 1 else 0)) :
    Books (l.flatMap f) (l.map events).sum l.length (l.countP panicked) := by
  induction l with
  | nil => exact nil
  | cons a rest ih =>
      have hfirst := h a List.mem_cons_self
      have hrest := ih fun b hb => h b (List.mem_cons_of_mem a hb)
      rw [List.flatMap_cons, List.map_cons, List.sum_cons, List.length_cons, List.countP_cons,
        Nat.add_comm rest.length, Nat.add_comm (rest.countP panicked)]
      exact hfirst.append hrest

end Books

end Metrics

open Metrics (Books)

/-- A final outcome counts every event of the batch once, however many failures it lists. -/
theorem Channel.books_accounts (channel : Channel) (outcome : Outcome) (size : Nat) :
    Books (.batch outcome.label :: channel.accounts outcome size) size 1 0 := by
  cases outcome with
  | partialFailure failed code =>
      constructor <;> simp [accounts, Counter.amount]
  | totalFailure code message retryable =>
      cases retryable <;> constructor <;> simp [accounts, Counter.amount]
  | _ => constructor <;> simp [accounts, Counter.amount]

namespace Scheduler

/-- All batches that cycles took. -/
def History.parcels (h : History) : List Parcel := h.rounds.flatMap Round.parcels

/-- A batch whose delivery is over counts with all its events, once its cycle returned. -/
theorem Parcel.Over.books {channel : Channel} {p : Parcel} (hover : p.Over channel) :
    Books (p.bookings channel true) p.members.length 1 (if p.stage.isPanicked then 1 else 0) := by
  have hsize : p.events.length = p.members.length := List.length_map _
  rcases hover with ⟨panic, hstage⟩ | ⟨attempts, outcome, hstage, _⟩
  · rw [bookings, hstage, hsize]
    constructor <;> simp [Counter.amount, Stage.isPanicked]
  · rw [bookings, hstage, hsize]
    exact channel.books_accounts outcome p.members.length

theorem History.length_drained (h : History) :
    h.drained.length = (h.parcels.map fun p => p.members.length).sum := by
  have hflat : h.drained = h.parcels.flatMap Parcel.members := by
    rw [parcels, List.flatMap_assoc]
    rfl
  rw [hflat, List.length_flatMap]

/-- Once all cycles have returned, everything they took is counted. -/
theorem History.books_rounds {channel : Channel} {h : History}
    (hover : ∀ r ∈ h.rounds, r.Over channel) :
    Books (h.rounds.flatMap (Round.bookings channel)) h.drained.length h.parcels.length
      (h.parcels.countP fun p => p.stage.isPanicked) := by
  have hrounds : h.rounds.flatMap (Round.bookings channel) =
      h.parcels.flatMap (Parcel.bookings channel true) := by
    rw [parcels, List.flatMap_assoc]
    apply List.flatMap_congr
    intro r hr
    rw [Round.bookings, (hover r hr).1]
    rfl
  rw [hrounds, h.length_drained]
  apply Books.flatMap
  intro p hp
  obtain ⟨r, hr, hp⟩ := List.mem_flatMap.mp hp
  exact ((hover r hr).2 p hp).books

/-- Nothing is counted but what there is to book. -/
theorem Moment.Booked.total_eq {channel : Channel} {m : Moment} (hbooked : m.Booked channel)
    (counter : Counter) :
    counter.total (Effect.updates m.history.trace) = counter.total (m.bookings channel) := by
  have hraises : ∀ update : Metrics.Update,
      update.raises = false → counter.amount update = 0 := by
    intro update hupdate
    cases update <;> first | (cases counter <;> rfl) | cases hupdate
  rw [← counter.total_perm hbooked, Effect.bookings, counter.total_filter hraises]

theorem Sound.booked {settings : Settings} {m m' : Moment} (hsize : settings.batchSize ≠ 0)
    (hm : Sound settings m) (hbooked : m.Booked settings.channel) (hrun : Run settings m m') :
    m'.Booked settings.channel := by
  induction hrun with
  | refl => exact hbooked
  | tail hrun hstep ih => exact ih.step hsize (hm.run hsize hrun).1.paced hstep

/-- Every batch that a cycle took holds an event. -/
def History.Laden (h : History) : Prop := ∀ plan ∈ h.plans, ∀ batch ∈ plan.2, batch ≠ []

theorem History.Laden.run {settings : Settings} {m m' : Moment} (hsize : settings.batchSize ≠ 0)
    (hladen : m.history.Laden) (hrun : Run settings m m') : m'.history.Laden := by
  induction hrun with
  | refl => exact hladen
  | tail _ hstep ih =>
      rcases hstep.move.plans_cases hsize with hsame | ⟨_, claimant, hplans⟩
      · rw [Laden, hsame]
        exact ih
      · rw [Laden, hplans]
        intro plan hplan batch hbatch
        rcases List.mem_append.mp hplan with hplan | hplan
        · exact ih plan hplan batch hbatch
        · obtain rfl := List.mem_singleton.mp hplan
          exact Buffer.ne_nil_of_mem_batches hbatch

/-- There are no more batches than events in them. -/
theorem History.Laden.length_le {h : History} (hladen : h.Laden) :
    h.parcels.length ≤ h.drained.length := by
  have hparcels : ∀ p ∈ h.parcels, 1 ≤ p.members.length := by
    intro p hp
    obtain ⟨r, hr, hp⟩ := List.mem_flatMap.mp hp
    have hbatch := hladen r.plan (List.mem_map_of_mem hr) p.members (List.mem_map_of_mem hp)
    exact List.length_pos_iff.mpr hbatch
  rw [h.length_drained, ← List.length_map (fun p : Parcel => p.members.length)]
  apply List.length_le_sum_of_one_le
  intro n hn
  obtain ⟨p, hp, rfl⟩ := List.mem_map.mp hn
  exact hparcels p hp

/-- What the changes of a run count, between two cycles. -/
structure Counted (m : Moment) (updates : List Metrics.Update) : Prop where
  enqueued : Counter.enqueued.total updates = m.history.accepted.length
  overflow : (Counter.dropped (some "overflow")).total updates = m.state.buffer.dropped
  reasons : (Counter.dropped none).total updates =
    (Counter.dropped (some "overflow")).total updates
    + (Counter.dropped (some "rejected")).total updates
    + (Counter.dropped (some "undelivered")).total updates
    + (Counter.dropped (some "panicked")).total updates
  events : m.history.accepted.length = (Counter.dropped none).total updates
    + (Counter.delivered none).total updates + m.state.buffer.size
  batches : (Counter.batches none).total updates
    + m.history.parcels.countP (fun p => p.stage.isPanicked) = m.history.parcels.length
  attempts : Counter.attempts.total updates = (Effect.sends m.history.trace).length

/-- An accepted event was evicted or taken by a cycle, or it is buffered. -/
theorem Tallied.length_accepted {buffer : Buffer Event} {h : History} (ht : Tallied buffer h) :
    h.accepted.length = buffer.dropped + h.drained.length + buffer.size := by
  have hlength := ht.perm_range.length_eq
  have hbuffered : buffer.size = h.numbered.contents.length := by
    rw [← ht.buffered, Buffer.size, Buffer.contents_map, List.length_map]
  rw [List.length_append, List.length_map, List.length_append, List.length_range] at hlength
  rw [ht.dropped, hbuffered]
  omega

theorem Sound.counted {settings : Settings} {m : Moment} (hm : Sound settings m)
    (hbooked : m.Booked settings.channel) (hresting : m.state.cycle = none) :
    Counted m (Effect.updates m.history.trace) := by
  have hbooks := History.books_rounds (hm.paced.over_of_resting hresting)
  have haccepted := hm.tallied.length_accepted
  have hcalls := congrArg List.length hm.sent.traced
  rw [List.length_map] at hcalls
  have htotal : ∀ counter : Counter, counter.total (Effect.updates m.history.trace) =
      m.state.buffer.enqueued * counter.amount .enqueued
      + m.state.buffer.dropped * counter.amount (.dropped "overflow" 1)
      + m.history.sendings.length * counter.amount .attempt
      + counter.total (m.history.rounds.flatMap (Round.bookings settings.channel)) := by
    intro counter
    rw [hbooked.total_eq, Moment.bookings, Counter.total_append, Counter.total_append,
      Counter.total_append, Counter.total_replicate, Counter.total_replicate,
      Counter.total_replicate]
  constructor
  case enqueued => simp [htotal, Counter.amount, hbooks.enqueued, hm.tallied.enqueued]
  case overflow => simp [htotal, Counter.amount, hbooks.overflow]
  case reasons =>
    simp [htotal, Counter.amount, hbooks.overflow, hbooks.reasons, Nat.add_assoc]
  case events =>
    rw [htotal, htotal, haccepted, ← hbooks.events]
    simp only [Counter.amount, Option.all_none, if_true, Nat.mul_zero, Nat.mul_one, Nat.zero_add,
      Nat.add_zero]
    omega
  case batches => simp [htotal, Counter.amount, hbooks.batches]
  case attempts => simp [htotal, Counter.amount, hbooks.attempts, hcalls]

/-- As long as few enough events are accepted and few enough calls are made, no counter leaves the
range in which it is exact. -/
theorem Counted.total_lt {m : Moment} {updates : List Metrics.Update} (hm : Counted m updates)
    (hladen : m.history.Laden) (hdrained : m.history.drained.length ≤ m.history.accepted.length)
    (hevents : m.history.accepted.length < 2 ^ 53)
    (hcalls : (Effect.sends m.history.trace).length < 2 ^ 53) (counter : Counter) :
    counter.total updates < 2 ^ 53 := by
  apply Nat.lt_of_le_of_lt (counter.total_le_overall updates)
  have hbatches := Nat.le_trans hladen.length_le hdrained
  obtain ⟨henqueued, _, _, hsplit, hcounted, hattempts⟩ := hm
  cases counter with
  | enqueued => exact henqueued ▸ hevents
  | attempts => exact hattempts ▸ hcalls
  | dropped reason =>
      rw [Counter.overall]
      omega
  | delivered transport =>
      rw [Counter.overall]
      omega
  | batches outcome =>
      rw [Counter.overall]
      omega

/-- What the counters show agrees with the events, the batches and the calls of the transport. -/
structure Balanced (m : Moment) (ledger : Metrics.Ledger) : Prop where
  /-- Every accepted event is counted. -/
  enqueued : Counter.enqueued.read ledger = Double.ofNat m.history.accepted.length
  /-- Every event that was counted was evicted, dropped with its batch or delivered, or it is
  buffered. -/
  events : Counter.enqueued.read ledger =
    (Counter.dropped (some "overflow")).read ledger
    + (Counter.dropped (some "rejected")).read ledger
    + (Counter.dropped (some "undelivered")).read ledger
    + (Counter.dropped (some "panicked")).read ledger
    + (Counter.delivered none).read ledger
    + Double.ofNat m.state.buffer.size
  /-- The evictions are those that the buffer counts. -/
  overflow : (Counter.dropped (some "overflow")).read ledger =
    Double.ofNat m.state.buffer.dropped
  /-- Every batch that a cycle took has an outcome that was counted, or its sending panicked. -/
  batches : (Counter.batches none).read ledger
    + Double.ofNat (m.history.parcels.countP fun p => p.stage.isPanicked) =
      Double.ofNat m.history.parcels.length
  /-- Every call of the transport is counted. -/
  attempts : Counter.attempts.read ledger = Double.ofNat (Effect.sends m.history.trace).length
  /-- The size that is shown is the size of the buffer. -/
  size : ledger.bufferSize = Double.ofNat m.state.buffer.size

/-- Building a scheduler only tells the capacity of its buffer. -/
theorem updates_create {config : Config} {transport : String} {reporter : Reporter}
    {settings : Settings} {s : State} {effects : List Effect}
    (h : create config transport reporter = .ok (settings, s, effects)) :
    Effect.updates effects = [.bufferCapacity config.maxQueueSize] := by
  obtain ⟨_, _, rfl⟩ := create_eq h
  rw [Effect.updates_append]
  simp [Effect.updates, List.filterMap_map]

/-- From the building of the scheduler on, the counters balance whenever no cycle is in progress. -/
theorem ledger_balances {config : Config} {transport : String} {reporter : Reporter}
    {settings : Settings} {s : State} {effects : List Effect} {m : Moment}
    (hcreate : create config transport reporter = .ok (settings, s, effects))
    (hrun : Run settings (.first s) m) (hresting : m.state.cycle = none)
    (hevents : m.history.accepted.length < 2 ^ 53)
    (hcalls : (Effect.sends m.history.trace).length < 2 ^ 53) :
    Balanced m ((Effect.updates (effects ++ m.history.trace)).foldl Metrics.Ledger.apply {}) := by
  have hcapacity := updates_create hcreate
  obtain ⟨hsize, rfl⟩ := create_eq_ok hcreate
  have hfirst := Sound.first settings config.maxQueueSize
  have hsound := (hfirst.run hsize hrun).1
  have hbooked := hfirst.booked hsize (.refl _) hrun
  have hcounted := hsound.counted hbooked hresting
  have hladen : m.history.Laden :=
    History.Laden.run hsize (fun _ hplan => absurd hplan List.not_mem_nil) hrun
  have hdrained : m.history.drained.length ≤ m.history.accepted.length := by
    rw [hsound.tallied.length_accepted]
    omega
  have htotal : ∀ counter : Counter,
      counter.total (Effect.updates (effects ++ m.history.trace)) =
        counter.total (Effect.updates m.history.trace) := by
    intro counter
    have hnothing : counter.amount (.bufferCapacity config.maxQueueSize) = 0 := by
      cases counter <;> rfl
    rw [Effect.updates_append, hcapacity, List.singleton_append, Counter.total_cons, hnothing,
      Nat.zero_add]
  have hread : ∀ counter : Counter, counter.read
      ((Effect.updates (effects ++ m.history.trace)).foldl Metrics.Ledger.apply {}) =
        Double.ofNat (counter.total (Effect.updates m.history.trace)) := by
    intro counter
    rw [← htotal counter]
    apply Counter.read_foldl
    intro counter
    rw [htotal]
    exact hcounted.total_lt hladen hdrained hevents hcalls counter
  obtain ⟨henqueued, hoverflow, hreasons, hsplit, hbatches, hattempts⟩ := hcounted
  constructor
  case enqueued => rw [hread, henqueued]
  case events =>
    simp only [hread]
    simp (disch := omega) only [Double.ofNat_add]
    congr 1
    omega
  case overflow => rw [hread, hoverflow]
  case batches =>
    have hle := hladen.length_le
    rw [hread, Double.ofNat_add (by omega), hbatches]
  case attempts => rw [hread, hattempts]
  case size =>
    have hshown : Effect.gauge 0 m.history.trace = m.state.buffer.size :=
      gauge_run rfl hrun
    have hempty : ({} : Metrics.Ledger).bufferSize = Double.ofNat 0 := Double.ofNat_zero.symm
    rw [Metrics.Ledger.bufferSize_foldl hempty, Effect.updates_append, hcapacity, ← hshown]
    rfl

/-- A buffer for four events overflows, and of four batches one lists more failures than it has events,
one panics, one is sent twice in vain and one gets through, while another event comes in. -/
theorem ledger_balances_after_panic :
    ∃ config transport reporter settings s effects m,
      create config transport reporter = .ok (settings, s, effects) ∧
      Run settings (.first s) m ∧ m.state.cycle.isNone = true ∧
      m.history.accepted.length = 6 ∧ m.state.buffer.dropped = 1 ∧ m.state.buffer.size = 1 ∧
      m.history.parcels.length = 4 ∧
      m.history.parcels.countP (fun p => p.stage.isPanicked) = 1 ∧
      (Effect.sends m.history.trace).length = 5 ∧
      Balanced m ((Effect.updates (effects ++ m.history.trace)).foldl
        Metrics.Ledger.apply {}) := by
  let config : Config := { maxQueueSize := 4, batchSize := 1, maxRetries := 2 }
  let refused : Answer := .outcome (.partialFailure [⟨0, ["invalid"]⟩, ⟨1, ["invalid"]⟩] 2)
  let slow : Answer := .failure (.timeout "slow")
  let actions : List Action := [
    .enqueue ⟨[]⟩, .enqueue ⟨[]⟩, .enqueue ⟨[]⟩, .enqueue ⟨[]⟩, .enqueue ⟨[]⟩, .beginFlush,
    .beginCycle 0, .resume 0, .resume 1, .resume 2, .resume 3, .receive 0 refused some,
    .receive 1 (.panic ⟨"broken"⟩) some, .receive 2 slow some, .enqueue ⟨[]⟩, .resume 2,
    .receive 3 (.outcome .success) some, .receive 2 slow some, .endCycle 7]
  have hcheck : ((Moment.first { buffer := Buffer.empty config.maxQueueSize }).after?
      (.ofConfig config "http" .keep) actions).any (fun m =>
        decide (m.state.cycle.isNone = true ∧ m.history.accepted.length = 6 ∧
          m.state.buffer.dropped = 1 ∧ m.state.buffer.size = 1 ∧
          m.history.parcels.length = 4 ∧
          m.history.parcels.countP (fun p => p.stage.isPanicked) = 1 ∧
          (Effect.sends m.history.trace).length = 5)) = true := by
    decide +kernel
  obtain ⟨m, hm, hfacts⟩ := (Option.any_eq_true _ _).mp hcheck
  obtain ⟨hresting, haccepted, hdropped, hsize, hparcels, hpanicked, hcalls⟩ :=
    of_decide_eq_true hfacts
  obtain ⟨config, transport, reporter, s, effects, hcreate, hrun⟩ :=
    Reached.of_after? (by decide +kernel) (by decide) hm
  have hbalanced := ledger_balances hcreate hrun (Option.isNone_iff_eq_none.mp hresting)
    (by rw [haccepted]; decide) (by rw [hcalls]; decide)
  exact ⟨config, transport, reporter, _, s, effects, m, hcreate, hrun, hresting, haccepted,
    hdropped, hsize, hparcels, hpanicked, hcalls, hbalanced⟩

end Scheduler

end Courier
