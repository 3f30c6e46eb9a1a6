import Courier.Proofs.Scheduler.Move
/-!
Where the accepted events are.

Each of them is evicted, taken by a cycle or still buffered, and what was taken and what is buffered
stand in the order in which the events came in.  Since an event keeps its number, this accounts for
equal events one by one.
-/
namespace Courier.Scheduler

namespace History

/-- The accepted events that were not evicted, with their numbers. -/
def kept (h : History) : List Numbered :=
  h.accepted.zipIdx.filter fun x => x.2 ∉ h.evicted

theorem mem_kept {h : History} {x : Numbered} :
    x ∈ h.kept ↔ x ∈ h.accepted.zipIdx ∧ x.2 ∉ h.evicted := by
  simp [kept]

theorem kept_sorted (h : History) : h.kept.Pairwise fun x y => x.2 < y.2 := by
  have hnumbers : (h.accepted.zipIdx.map Prod.snd).Pairwise (· < ·) := by
    rw [List.zipIdx_map_snd]
    exact List.pairwise_lt_range'
  exact (List.pairwise_map.mp hnumbers).filter _

theorem kept_concat {h h' : History} {event : Event} {victims : List Nat}
    (hlt : ∀ n ∈ h.evicted ++ victims, n < h.accepted.length)
    (haccepted : h'.accepted = h.accepted ++ [event])
    (hevicted : h'.evicted = h.evicted ++ victims) :
    h'.kept = (h.kept.filter fun x => x.2 ∉ victims) ++ [(event, h.accepted.length)] := by
  have hnew : h.accepted.length ∉ h.evicted ++ victims :=
    fun hmem => Nat.lt_irrefl _ (hlt _ hmem)
  have hold : (h.accepted.zipIdx.filter fun x => x.2 ∉ h.evicted ++ victims) =
      h.kept.filter fun x => x.2 ∉ victims := by
    rw [kept, List.filter_filter]
    apply List.filter_congr
    intro x _
    simp [and_comm]
  have hlast : ([event].zipIdx (0 + h.accepted.length)).filter
      (fun x => x.2 ∉ h.evicted ++ victims) = [(event, h.accepted.length)] := by
    rw [Nat.zero_add]
    exact List.filter_cons_of_pos (decide_eq_true hnew)
  rw [kept, haccepted, hevicted, List.zipIdx_append, List.filter_append, hold, hlast]

end History

/-- In a list in the order of the numbers, numbers tell some events from all others. -/
theorem filter_not_mem_of_sorted {before lost after : List Numbered}
    (hsorted : (before ++ (lost ++ after)).Pairwise fun x y => x.2 < y.2) :
    ((before ++ (lost ++ after)).filter fun x => x.2 ∉ lost.map Prod.snd) =
      before ++ after := by
  rw [List.pairwise_append, List.pairwise_append] at hsorted
  obtain ⟨_, ⟨_, _, hafter⟩, hbefore⟩ := hsorted
  have hkeepBefore : (before.filter fun x => x.2 ∉ lost.map Prod.snd) = before := by
    apply List.filter_eq_self.mpr
    intro x hx
    apply decide_eq_true
    intro hmem
    obtain ⟨y, hy, heq⟩ := List.mem_map.mp hmem
    have hlt := hbefore x hx y (List.mem_append_left _ hy)
    omega
  have hdrop : (lost.filter fun x => x.2 ∉ lost.map Prod.snd) = [] := by
    apply List.filter_eq_nil_iff.mpr
    intro x hx
    simpa using ⟨x.1, hx⟩
  have hkeepAfter : (after.filter fun x => x.2 ∉ lost.map Prod.snd) = after := by
    apply List.filter_eq_self.mpr
    intro x hx
    apply decide_eq_true
    intro hmem
    obtain ⟨y, hy, heq⟩ := List.mem_map.mp hmem
    have hlt := hafter y hy x hx
    omega
  rw [List.filter_append, List.filter_append, hkeepBefore, hdrop, hkeepAfter,
    List.nil_append]

/-- The accepted events are accounted for. -/
structure Tallied (buffer : Buffer Event) (h : History) : Prop where
  buffered : h.numbered.map Prod.fst = buffer
  kept : h.drained ++ h.numbered.contents = h.kept
  evicted_lt : ∀ n ∈ h.evicted, n < h.accepted.length
  evicted_nodup : h.evicted.Nodup
  roomy : 0 < buffer.capacity
  enqueued : buffer.enqueued = h.accepted.length
  dropped : buffer.dropped = h.evicted.length
  drained : buffer.drained = h.drained.length

namespace Tallied

variable {settings : Settings} {buffer : Buffer Event} {h h' : History}

theorem congr (ht : Tallied buffer h) (haccepted : h'.accepted = h.accepted)
    (hevicted : h'.evicted = h.evicted) (hnumbered : h'.numbered = h.numbered)
    (hdrained : h'.drained = h.drained) : Tallied buffer h' where
  buffered := by rw [hnumbered, ht.buffered]
  kept := by
    rw [hdrained, hnumbered, ht.kept]
    simp only [History.kept, haccepted, hevicted]
  evicted_lt := by
    rw [hevicted, haccepted]
    exact ht.evicted_lt
  evicted_nodup := by
    rw [hevicted]
    exact ht.evicted_nodup
  roomy := ht.roomy
  enqueued := by rw [haccepted, ht.enqueued]
  dropped := by rw [hevicted, ht.dropped]
  drained := by rw [hdrained, ht.drained]

/-- What is buffered was neither taken nor evicted. -/
theorem mem_kept_of_buffered (ht : Tallied buffer h) {x : Numbered}
    (hx : x ∈ h.numbered.contents) : x ∈ h.accepted.zipIdx ∧ x.2 ∉ h.evicted := by
  rw [← History.mem_kept, ← ht.kept]
  exact List.mem_append_right _ hx

/-- An event came in, and the oldest ones may have been evicted for it. -/
theorem extend (ht : Tallied buffer h) {buffer' : Buffer Event} {event : Event}
    {lost rest : List Numbered} (hcontents : h.numbered.contents = lost ++ rest)
    (haccepted : h'.accepted = h.accepted ++ [event])
    (hevicted : h'.evicted = h.evicted ++ lost.map Prod.snd)
    (hnumbered : h'.numbered.contents = rest ++ [(event, h.accepted.length)])
    (hdrained : h'.drained = h.drained) (hbuffer : h'.numbered.map Prod.fst = buffer')
    (hcounts : buffer' = { buffer with
      contents := buffer'.contents
      enqueued := buffer.enqueued + 1
      dropped := buffer.dropped + lost.length }) : Tallied buffer' h' := by
  have hlost : ∀ x ∈ lost, x ∈ h.accepted.zipIdx ∧ x.2 ∉ h.evicted := by
    intro x hx
    apply ht.mem_kept_of_buffered
    rw [hcontents]
    exact List.mem_append_left _ hx
  have hlt : ∀ n ∈ h.evicted ++ lost.map Prod.snd, n < h.accepted.length := by
    intro n hn
    rcases List.mem_append.mp hn with hn | hn
    · exact ht.evicted_lt n hn
    · obtain ⟨x, hx, rfl⟩ := List.mem_map.mp hn
      simpa using List.snd_lt_of_mem_zipIdx (hlost x hx).1
  have hsorted := h.kept_sorted
  rw [← ht.kept, hcontents] at hsorted
  constructor
  case buffered => exact hbuffer
  case kept =>
    rw [History.kept_concat hlt haccepted hevicted, ← ht.kept, hcontents,
      filter_not_mem_of_sorted hsorted, hdrained, hnumbered, List.append_assoc]
  case evicted_lt =>
    intro n hn
    rw [hevicted] at hn
    rw [haccepted, List.length_append]
    exact Nat.lt_add_right _ (hlt n hn)
  case evicted_nodup =>
    have hpairs := (List.pairwise_append.mp (List.pairwise_append.mp hsorted).2.1).1
    have hnodup : (lost.map Prod.snd).Nodup :=
      List.pairwise_map.mpr (hpairs.imp Nat.ne_of_lt)
    rw [hevicted]
    apply List.nodup_append.mpr
    refine ⟨ht.evicted_nodup, hnodup, ?_⟩
    intro n hn n' hn' heq
    obtain ⟨x, hx, rfl⟩ := List.mem_map.mp hn'
    exact (hlost x hx).2 (heq ▸ hn)
  case roomy =>
    rw [hcounts]
    exact ht.roomy
  case enqueued =>
    rw [hcounts, haccepted, List.length_append]
    exact congrArg (· + 1) ht.enqueued
  case dropped =>
    rw [hcounts, hevicted, List.length_append, List.length_map]
    exact congrArg (· + lost.length) ht.dropped
  case drained =>
    rw [hcounts, hdrained]
    exact ht.drained

/-- The buffer dealt with an event, and the history says how. -/
theorem enqueue (ht : Tallied buffer h) (event : Event) :
    Tallied (buffer.enqueue event).2 (h.takeIn (buffer.enqueue event).1 event) := by
  have hmap := Buffer.map_enqueue Prod.fst h.numbered (event, h.accepted.length)
  have hroomy := ht.roomy
  obtain rfl := ht.buffered
  rcases h.numbered.enqueue_cases (event, h.accepted.length) with
    ⟨_, heq⟩ | ⟨_, hfull, heq⟩ | ⟨_, _, heq⟩
  · rw [hmap, heq]
    exact ht
  · have hone : (h.numbered.contents.take 1).length = 1 := by
      rw [List.length_take]
      exact Nat.min_eq_left (Nat.le_trans hroomy hfull)
    rw [hmap, heq]
    refine ht.extend (List.take_append_drop 1 _).symm rfl rfl ?_ rfl ?_ ?_
    · simp only [History.takeIn, heq]
    · simp only [History.takeIn, heq]
    · rw [hone]
      rfl
  · rw [hmap, heq]
    refine ht.extend (List.nil_append _).symm rfl (List.append_nil _).symm ?_ rfl ?_ rfl
    · simp only [History.takeIn, heq]
    · simp only [History.takeIn, heq]

/-- A cycle took everything that was buffered. -/
theorem beginRound (ht : Tallied buffer h) {batchSize : Nat} (hsize : batchSize ≠ 0)
    (claimant : Claimant) (stats : Option CycleStats) :
    Tallied (buffer.batches batchSize).2 (h.beginRound batchSize claimant stats) := by
  have hmap := Buffer.map_batches Prod.fst batchSize h.numbered
  rw [ht.buffered] at hmap
  have hdrained := History.drained_beginRound hsize h claimant stats
  have hempty : (h.numbered.batches batchSize).2.contents = [] := by
    rw [Buffer.batches_snd hsize]
  have hsame := Buffer.batches_snd hsize buffer
  constructor
  case buffered =>
    rw [hmap]
    rfl
  case kept =>
    rw [hdrained]
    change _ ++ (h.numbered.batches batchSize).2.contents = h.kept
    rw [hempty, List.append_nil, ht.kept]
  case evicted_lt => exact ht.evicted_lt
  case evicted_nodup => exact ht.evicted_nodup
  case roomy =>
    rw [hsame]
    exact ht.roomy
  case enqueued =>
    rw [hsame]
    exact ht.enqueued
  case dropped =>
    rw [hsame]
    exact ht.dropped
  case drained =>
    rw [hsame, hdrained, List.length_append, ← ht.drained, ← ht.buffered]
    simp

theorem step {m m' : Moment} (hsize : settings.batchSize ≠ 0)
    (ht : Tallied m.state.buffer m.history) (hmove : Move settings m m') :
    Tallied m'.state.buffer m'.history := by
  cases hmove with
  | aside effects more hquiet hbuffer hcycle hline hhistory =>
      rw [hbuffer, hhistory]
      exact ht.congr rfl rfl rfl rfl
  | enqueue event effects hquiet hstate hhistory =>
      rw [hstate, hhistory]
      exact (ht.enqueue event).congr rfl rfl rfl rfl
  | close effects hquiet hbuffer hcycle hline hhistory =>
      rw [hbuffer, hhistory]
      exact ⟨congrArg Buffer.close ht.buffered, ht.kept, ht.evicted_lt, ht.evicted_nodup,
        ht.roomy, ht.enqueued, ht.dropped, ht.drained⟩
  | beginCycle claimant rest now effects hquiet hline hcycle hsome hstate hhistory =>
      rw [hstate, hhistory]
      exact (ht.beginRound hsize claimant none).congr rfl rfl rfl rfl
  | emptyCycle claimant rest effects hsends hclosings hline hcycle hnone hstate
      hhistory =>
      rw [hstate, hhistory, State.buffer_finishCycle]
      exact (ht.beginRound hsize claimant (some {})).congr rfl rfl rfl rfl
  | resume cycle place d d' hcycle hd hresume hstate hhistory =>
      rw [hstate, hhistory]
      exact ht.congr rfl rfl rfl (History.drained_congr (History.plans_advance ..))
  | receive cycle place answer draw d d' effects hcycle hd hreceive hstate hhistory =>
      rw [hstate, hhistory]
      exact ht.congr rfl rfl rfl (History.drained_congr (History.plans_advance ..))
  | endCycle claimant rest cycle effects hsends hclosings hline hcycle hfinished hstate
      hhistory =>
      rw [hstate, hhistory, State.buffer_finishCycle]
      exact ht.congr rfl rfl rfl (History.drained_congr (History.plans_endRound ..))

end Tallied

end Courier.Scheduler
