import Courier.Proofs.Scheduler.Conservation
/-!
When an event is settled.

An event is settled once it was evicted or the delivery of its batch is over.  A cycle that begins
takes everything that was accepted before and is still there, and when a cycle has returned, it and
all cycles before it are over.
-/
namespace Courier.Scheduler

open Effect (closings)

/-- Nothing more happens to an event. -/
def History.Settled (h : History) (channel : Channel) (x : Numbered) : Prop :=
  x.2 ∈ h.evicted ∨ ∃ r ∈ h.rounds, ∃ p ∈ r.parcels, x ∈ p.members ∧ p.Over channel

/-- An event was evicted, or taken by some cycle up to the one with a number. -/
def History.Covered (h : History) (last : Nat) (x : Numbered) : Prop :=
  x.2 ∈ h.evicted ∨
    ∃ (i : Nat) (r : Round), i ≤ last ∧ h.rounds[i]? = some r ∧ x ∈ r.members

theorem History.Covered.extend {h h' : History} {last : Nat} {x : Numbered}
    (hcovered : h.Covered last x) (hext : h.Extends h') : h'.Covered last x := by
  rcases hcovered with hevicted | ⟨i, r, hi, hr, hx⟩
  · exact Or.inl (hext.evicted.subset hevicted)
  · obtain ⟨r', hr', hrext⟩ := hext.rounds i r hr
    exact Or.inr ⟨i, r', hi, hr', by rw [hrext.members]; exact hx⟩

theorem History.Extends.mem_accepted {h h' : History} (hext : h.Extends h') {x : Numbered}
    (hx : x ∈ h.accepted.zipIdx) : x ∈ h'.accepted.zipIdx := by
  obtain ⟨more, hmore⟩ := hext.accepted
  rw [← hmore, List.zipIdx_append]
  exact List.mem_append_left _ hx

theorem History.settled_of_mem {h : History} {channel : Channel} {r : Round} {x : Numbered}
    (hr : r ∈ h.rounds) (hover : r.Over channel) (hx : x ∈ r.members) :
    h.Settled channel x := by
  obtain ⟨p, hp, hxp⟩ := List.mem_flatMap.mp hx
  exact Or.inr ⟨r, hr, p, hp, hxp, hover.2 p hp⟩

namespace Paced

variable {channel : Channel} {s : State} {rounds : List Round}

/-- A cycle that has returned is over, and so are all cycles before it. -/
theorem over_of_returned (hp : Paced channel s rounds) {i j : Nat} {r r' : Round}
    (hr : rounds[i]? = some r) (hreturned : r.stats ≠ none) (hle : j ≤ i)
    (hr' : rounds[j]? = some r') : r'.Over channel := by
  cases hp with
  | resting _ hover => exact hover r' (List.mem_of_getElem? hr')
  | underway past last rest cycle _ _ hrounds hpast hunderway =>
      subst hrounds
      rcases getElem?_concat_cases hr with ⟨hi, _⟩ | ⟨_, rfl⟩
      · rw [List.getElem?_append_left (Nat.lt_of_le_of_lt hle hi)] at hr'
        exact hpast r' (List.mem_of_getElem? hr')
      · exact absurd hunderway.unreturned hreturned

end Paced

namespace Sound

variable {settings : Settings} {m m' : Moment}

/-- What is accepted and not evicted was taken by a cycle or is buffered. -/
theorem taken_or_buffered (hm : Sound settings m) {x : Numbered}
    (hx : x ∈ m.history.accepted.zipIdx) :
    x.2 ∈ m.history.evicted ∨ x ∈ m.history.drained ∨ x ∈ m.history.numbered.contents := by
  by_cases hevicted : x.2 ∈ m.history.evicted
  · exact Or.inl hevicted
  · have hkept : x ∈ m.history.kept := History.mem_kept.mpr ⟨hx, hevicted⟩
    rw [← hm.tallied.kept, List.mem_append] at hkept
    exact Or.inr hkept

theorem covered_of_drained {h : History} {x : Numbered} (hx : x ∈ h.drained) :
    h.Covered (h.rounds.length - 1) x := by
  obtain ⟨r, hr, hxr⟩ := List.mem_flatMap.mp hx
  obtain ⟨i, hi⟩ := List.mem_iff_getElem?.mp hr
  have hlt := (List.getElem?_eq_some_iff.mp hi).1
  exact Or.inr ⟨i, r, by omega, hi, hxr⟩

/-- What is still buffered was not taken. -/
theorem not_mem_drained (hm : Sound settings m) {x : Numbered}
    (hx : x ∈ m.history.numbered.contents) : x ∉ m.history.drained := by
  intro hdrained
  have hsorted := m.history.kept_sorted
  rw [← hm.tallied.kept] at hsorted
  exact Nat.lt_irrefl _ ((List.pairwise_append.mp hsorted).2.2 x hdrained x hx)

/-- What is still buffered was neither evicted nor taken by any cycle up to some number. -/
theorem not_covered (hm : Sound settings m) {x : Numbered}
    (hx : x ∈ m.history.numbered.contents) (last : Nat) : ¬m.history.Covered last x := by
  rintro (hevicted | ⟨i, r, _, hr, hxr⟩)
  · exact (hm.tallied.mem_kept_of_buffered hx).2 hevicted
  · exact hm.not_mem_drained hx (List.mem_flatMap.mpr ⟨r, List.mem_of_getElem? hr, hxr⟩)

/-- When a step begins a cycle, everything accepted is covered by the cycles up to this one. -/
theorem covered_of_begun (hsize : settings.batchSize ≠ 0) (hm : Sound settings m)
    (h : m.Follows settings m')
    (hbegun : m.history.rounds.length < m'.history.rounds.length) {x : Numbered}
    (hx : x ∈ m.history.accepted.zipIdx) : m'.history.Covered m.history.rounds.length x := by
  have hm' := hm.step hsize h
  have hext := History.Extends.step hm.paced h.move
  have hchanged : m'.history.plans ≠ m.history.plans := by
    intro hsame
    have hlength := congrArg List.length hsame
    simp only [History.plans, List.length_map] at hlength
    omega
  obtain ⟨hempty, claimant, hplans⟩ := (h.move.plans_cases hsize).resolve_left hchanged
  have hlength : m'.history.rounds.length = m.history.rounds.length + 1 := by
    have hlength := congrArg List.length hplans
    simpa only [History.plans, List.length_map, List.length_append,
      List.length_singleton] using hlength
  rcases hm'.taken_or_buffered (hext.mem_accepted hx) with hevicted | hdrained | hbuffered
  · exact Or.inl hevicted
  · have hcovered := covered_of_drained hdrained
    rwa [hlength, Nat.add_sub_cancel] at hcovered
  · rw [hempty] at hbuffered
    cases hbuffered

/-- A cycle that begins later covers everything that was accepted before. -/
theorem covered_of_begun_later (hsize : settings.batchSize ≠ 0) (hm : Sound settings m)
    (hrun : Run settings m m') {last : Nat} (hlater : m.history.rounds.length ≤ last)
    (hlast : last < m'.history.rounds.length) {x : Numbered}
    (hx : x ∈ m.history.accepted.zipIdx) : m'.history.Covered last x := by
  induction hrun with
  | refl => exact absurd hlast (Nat.not_lt_of_le hlater)
  | @tail m₁ m₂ hrun hstep ih =>
      obtain ⟨hm₁, hext⟩ := hm.run hsize hrun
      have hnext := History.Extends.step hm₁.paced hstep.move
      rcases Nat.lt_or_ge last m₁.history.rounds.length with hlt | hge
      · exact (ih hlt).extend hnext
      · have hcovered := hm₁.covered_of_begun hsize hstep (Nat.lt_of_le_of_lt hge hlast)
          (hext.mem_accepted hx)
        rcases hcovered with hevicted | ⟨i, r, hi, hr, hxr⟩
        · exact Or.inl hevicted
        · exact Or.inr ⟨i, r, Nat.le_trans hi hge, hr, hxr⟩

/-- What is covered by a cycle that has returned is settled. -/
theorem settled_of_covered (hm : Sound settings m) {last : Nat} {r : Round} {x : Numbered}
    (hr : m.history.rounds[last]? = some r) (hreturned : r.stats ≠ none)
    (hcovered : m.history.Covered last x) : m.history.Settled settings.channel x := by
  rcases hcovered with hevicted | ⟨i, r', hi, hr', hx⟩
  · exact Or.inl hevicted
  · exact History.settled_of_mem (List.mem_of_getElem? hr')
      (hm.paced.over_of_returned hr hreturned hi hr') hx

/-- The transport is told to shut down when the final cycle has returned. -/
theorem final_of_closings (hm : Sound settings m)
    (hclosings : 0 < closings m.history.trace) :
    ∃ (i : Nat) (r : Round), m.history.rounds[i]? = some r ∧
      r.claimant.isShutdown = true ∧ r.Over settings.channel := by
  rw [hm.led.told, List.countP_pos_iff] at hclosings
  obtain ⟨⟨claimant, stats⟩, hmem, hshutdown⟩ := hclosings
  obtain ⟨r, hr, rfl, hstats⟩ := History.mem_returned.mp hmem
  obtain ⟨i, hi⟩ := List.mem_iff_getElem?.mp hr
  have hreturned : r.stats ≠ none := by simp [hstats]
  exact ⟨i, r, hi, hshutdown, hm.paced.over_of_returned hi hreturned (Nat.le_refl i) hi⟩

/-- Nothing is under way or left once the transport is told to shut down. -/
theorem resting_of_closings (hm : Sound settings m)
    (hclosings : 0 < closings m.history.trace) :
    m.state.cycle = none ∧ m.history.numbered.contents = [] := by
  obtain ⟨i, r, hr, hshutdown, hover⟩ := hm.final_of_closings hclosings
  have hempty : m.history.numbered.contents = [] :=
    hm.sealed.empty ⟨r.plan, List.mem_map_of_mem (List.mem_of_getElem? hr), hshutdown⟩
  cases hm.paced with
  | resting hcycle _ => exact ⟨hcycle, hempty⟩
  | underway past last rest cycle hcycle hline hrounds hpast hunderway =>
      rw [hrounds] at hr
      have hmem : r ∈ past := by
        rcases getElem?_concat_cases hr with ⟨_, hr⟩ | ⟨_, rfl⟩
        · exact List.mem_of_getElem? hr
        · have hstats := hover.1
          rw [hunderway.unreturned] at hstats
          cases hstats
      have hlast := hm.sealed.last
      rw [History.plans, hrounds, List.map_append, List.pairwise_append] at hlast
      have hnil : last.plan.2 = [] := hlast.2.2 r.plan (List.mem_map_of_mem hmem) last.plan
        (List.mem_map_of_mem (List.mem_singleton_self last)) hshutdown
      exact absurd (List.map_eq_nil_iff.mp hnil) hunderway.nonempty

/-- Every accepted event is settled once the transport is told to shut down. -/
theorem settled_of_closings (hm : Sound settings m)
    (hclosings : 0 < closings m.history.trace) {x : Numbered}
    (hx : x ∈ m.history.accepted.zipIdx) : m.history.Settled settings.channel x := by
  obtain ⟨hcycle, hempty⟩ := hm.resting_of_closings hclosings
  rcases hm.taken_or_buffered hx with hevicted | hdrained | hbuffered
  · exact Or.inl hevicted
  · obtain ⟨r, hr, hxr⟩ := List.mem_flatMap.mp hdrained
    exact History.settled_of_mem hr (hm.paced.over_of_resting hcycle r hr) hxr
  · rw [hempty] at hbuffered
    cases hbuffered

end Sound

end Courier.Scheduler
