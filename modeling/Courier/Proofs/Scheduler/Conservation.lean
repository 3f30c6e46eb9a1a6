import Courier.Proofs.Scheduler.Invariant
/-!
Nothing is lost, duplicated or reordered.

The numbers of the accepted events grow along the batches, from one cycle to the next and within each
of them, and then along the buffer.  So an event is in one batch only, and every call of the
transport that hands it over was made by the delivery of that batch.
-/
namespace Courier.Scheduler

namespace Tallied

variable {buffer : Buffer Event} {h : History}

theorem drained_sorted (ht : Tallied buffer h) : h.drained.Pairwise fun x y => x.2 < y.2 := by
  have hsorted := h.kept_sorted
  rw [← ht.kept] at hsorted
  exact (List.pairwise_append.mp hsorted).1

/-- The numbers of the events are split without overlap. -/
theorem perm_range (ht : Tallied buffer h) :
    (h.evicted ++ (h.drained ++ h.numbered.contents).map Prod.snd).Perm
      (List.range h.accepted.length) := by
  have hmem : ∀ {n : Nat}, n ∈ h.kept.map Prod.snd ↔
      n < h.accepted.length ∧ n ∉ h.evicted := by
    intro n
    simp only [List.mem_map, History.mem_kept, List.mem_zipIdx_iff_getElem?]
    constructor
    · rintro ⟨x, ⟨hx, hkept⟩, rfl⟩
      exact ⟨(List.getElem?_eq_some_iff.mp hx).1, hkept⟩
    · rintro ⟨hn, hkept⟩
      exact ⟨(h.accepted[n], n), ⟨List.getElem?_eq_getElem hn, hkept⟩, rfl⟩
  have hnodup : (h.kept.map Prod.snd).Nodup :=
    List.pairwise_map.mpr (h.kept_sorted.imp Nat.ne_of_lt)
  rw [ht.kept]
  have hall : (h.evicted ++ h.kept.map Prod.snd).Nodup := by
    apply List.nodup_append.mpr
    refine ⟨ht.evicted_nodup, hnodup, ?_⟩
    intro n hn n' hn' heq
    exact (hmem.mp hn').2 (heq ▸ hn)
  apply (List.perm_ext_iff_of_nodup hall List.nodup_range).mpr
  intro n
  rw [List.mem_append, hmem, List.mem_range]
  constructor
  · rintro (hn | hn)
    · exact ht.evicted_lt n hn
    · exact hn.1
  · intro hn
    by_cases hevicted : n ∈ h.evicted
    · exact Or.inl hevicted
    · exact Or.inr ⟨hn, hevicted⟩

end Tallied

theorem related_of_lt {α : Type} {R : α → α → Prop} {l : List α} (hl : l.Pairwise R)
    {i j : Nat} {a b : α} (ha : l[i]? = some a) (hb : l[j]? = some b) (hij : i < j) : R a b := by
  obtain ⟨hi, rfl⟩ := List.getElem?_eq_some_iff.mp ha
  obtain ⟨hj, rfl⟩ := List.getElem?_eq_some_iff.mp hb
  exact List.pairwise_iff_getElem.mp hl i j hi hj hij

/-- In lists that are in order one behind the other, places tell the order. -/
theorem flatMap_ordered {α β : Type} {R : β → β → Prop} {l : List α} {f : α → List β}
    (hsorted : (l.flatMap f).Pairwise R) {i j : Nat} {a b : α} (ha : l[i]? = some a)
    (hb : l[j]? = some b) (hij : i < j) {x y : β} (hx : x ∈ f a) (hy : y ∈ f b) :
    R x y :=
  related_of_lt (List.pairwise_flatMap.mp hsorted).2 ha hb hij x hx y hy

namespace History

variable {h : History} {round place round' place' : Nat} {p p' : Parcel} {x y : Numbered}

theorem mem_members_of_parcel? (hp : h.parcel? round place = some p) (hx : x ∈ p.members) :
    ∃ r, h.rounds[round]? = some r ∧ r.parcels[place]? = some p ∧ x ∈ r.members := by
  obtain ⟨r, hr, hplace⟩ := Option.bind_eq_some_iff.mp hp
  exact ⟨r, hr, hplace,
    List.mem_flatMap.mpr ⟨p, List.mem_of_getElem? hplace, hx⟩⟩

theorem number_lt_of_round_lt (hsorted : h.drained.Pairwise fun x y => x.2 < y.2)
    (hp : h.parcel? round place = some p) (hp' : h.parcel? round' place' = some p')
    (hx : x ∈ p.members) (hy : y ∈ p'.members) (hlt : round < round') : x.2 < y.2 := by
  obtain ⟨r, hr, _, hxr⟩ := mem_members_of_parcel? hp hx
  obtain ⟨r', hr', _, hyr⟩ := mem_members_of_parcel? hp' hy
  exact flatMap_ordered hsorted hr hr' hlt hxr hyr

theorem number_lt_of_place_lt (hsorted : h.drained.Pairwise fun x y => x.2 < y.2)
    (hp : h.parcel? round place = some p) (hp' : h.parcel? round place' = some p')
    (hx : x ∈ p.members) (hy : y ∈ p'.members) (hlt : place < place') : x.2 < y.2 := by
  obtain ⟨r, hr, hplace, _⟩ := mem_members_of_parcel? hp hx
  obtain ⟨r', hr', hplace', _⟩ := mem_members_of_parcel? hp' hy
  rw [hr, Option.some.injEq] at hr'
  subst hr'
  have hround := (List.pairwise_flatMap.mp hsorted).1 r (List.mem_of_getElem? hr)
  exact flatMap_ordered hround hplace hplace' hlt hx hy

/-- An event is in one batch only. -/
theorem batch_unique (hsorted : h.drained.Pairwise fun x y => x.2 < y.2)
    (hp : h.parcel? round place = some p) (hp' : h.parcel? round' place' = some p')
    (hx : x ∈ p.members) (hx' : x ∈ p'.members) : round = round' ∧ place = place' := by
  have hround : round = round' := by
    rcases Nat.lt_trichotomy round round' with hlt | heq | hgt
    · exact absurd (number_lt_of_round_lt hsorted hp hp' hx hx' hlt) (Nat.lt_irrefl _)
    · exact heq
    · exact absurd (number_lt_of_round_lt hsorted hp' hp hx' hx hgt) (Nat.lt_irrefl _)
  subst hround
  rcases Nat.lt_trichotomy place place' with hlt | heq | hgt
  · exact absurd (number_lt_of_place_lt hsorted hp hp' hx hx' hlt) (Nat.lt_irrefl _)
  · exact ⟨rfl, heq⟩
  · exact absurd (number_lt_of_place_lt hsorted hp' hp hx' hx hgt) (Nat.lt_irrefl _)

end History

/-- The accepted events are where they belong. -/
structure Conserved (m : Moment) : Prop where
  /-- The history tells of the buffer and the cycle that the scheduler has. -/
  contents : m.state.buffer.contents = m.history.numbered.contents.map Prod.fst
  deliveries : ∀ cycle, m.state.cycle = some cycle →
    ∃ r, m.history.rounds.getLast? = some r ∧
      r.parcels.map Parcel.delivery = cycle.deliveries
  counts : m.state.buffer.enqueued = m.history.accepted.length ∧
    m.state.buffer.dropped = m.history.evicted.length ∧
    m.state.buffer.drained = m.history.drained.length
  /-- Every number is evicted, drained or buffered, and only one of them, and only once. -/
  split : (m.history.evicted ++ m.history.drained.map Prod.snd ++
    m.history.numbered.contents.map Prod.snd).Perm (List.range m.history.accepted.length)
  /-- The batches in their order and then the buffer are the accepted events without the evicted
  ones. -/
  order : m.history.drained ++ m.history.numbered.contents =
    m.history.accepted.zipIdx.filter fun x => x.2 ∉ m.history.evicted
  /-- The record of calls of the transport is complete. -/
  sends : m.history.sendings.map Sending.batch = Effect.sends m.history.trace
  /-- A delivery hands over its own batch, unchanged and whole. -/
  whole : ∀ s ∈ m.history.sendings,
    ∃ p, m.history.parcel? s.round s.place = some p ∧ s.batch = p.events
  /-- An event belongs to one delivery only. -/
  single : ∀ {round place round' place' : Nat} {p p' : Parcel} {x : Numbered},
    m.history.parcel? round place = some p → m.history.parcel? round' place' = some p' →
    x ∈ p.members → x ∈ p'.members → round = round' ∧ place = place'

/-- At every moment of every run nothing is lost, duplicated or reordered. -/
theorem events_conserved {settings : Settings} {m : Moment} (h : Reached settings m) :
    Conserved m := by
  obtain ⟨_, hsound⟩ := h.sound
  have htallied := hsound.tallied
  constructor
  case contents =>
    rw [← htallied.buffered]
    rfl
  case deliveries =>
    intro cycle hcycle
    obtain ⟨past, r, _, _, hrounds, _, hunderway⟩ := hsound.paced.underway_of_cycle hcycle
    exact ⟨r, by rw [hrounds, List.getLast?_concat], hunderway.deliveries⟩
  case counts => exact ⟨htallied.enqueued, htallied.dropped, htallied.drained⟩
  case split =>
    have hperm := htallied.perm_range
    rwa [List.map_append, ← List.append_assoc] at hperm
  case order => exact htallied.kept
  case sends => exact hsound.sent.traced
  case whole => exact hsound.sent.faithful
  case single => exact History.batch_unique htallied.drained_sorted

/-- A buffer for two events overflows, the flush takes the two that are left, and the first of them is
sent. -/
theorem events_conserved_on_overflow :
    ∃ settings m, Reached settings m ∧ m.history.evicted = [0] ∧
      m.history.drained.map Prod.snd = [1, 2] ∧ m.history.sendings.length = 1 ∧
      Conserved m := by
  let config : Config := { maxQueueSize := 2, batchSize := 1 }
  let actions : List Action :=
    [.enqueue ⟨[]⟩, .enqueue ⟨[]⟩, .enqueue ⟨[]⟩, .beginFlush, .beginCycle 0, .resume 0]
  have hcheck : ((Moment.first { buffer := Buffer.empty config.maxQueueSize }).after?
      (.ofConfig config "memory" .keep) actions).any (fun m =>
        decide (m.history.evicted = [0] ∧ m.history.drained.map Prod.snd = [1, 2] ∧
          m.history.sendings.length = 1)) = true := by
    decide +kernel
  obtain ⟨m, hm, hfacts⟩ := (Option.any_eq_true _ _).mp hcheck
  obtain ⟨hevicted, hdrained, hsent⟩ := of_decide_eq_true hfacts
  have hreached := Reached.of_after? (by decide +kernel) (by decide) hm
  exact ⟨_, m, hreached, hevicted, hdrained, hsent, events_conserved hreached⟩

end Courier.Scheduler
