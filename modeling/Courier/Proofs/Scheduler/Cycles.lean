import Courier.Proofs.Scheduler.Accounts
/-!
One cycle after the other.

Only the last cycle on record can be under way.  It belongs to the head of the line, its batches
stand where the scheduler has them, and it ends when the last of them is over.
-/
namespace Courier.Scheduler

namespace Parcel

theorem delivery_advance {p : Parcel} {d : Delivery} (hbatch : d.batch = p.events)
    (effects : List Effect) : (p.advance (some d) effects).delivery = d := by
  obtain ⟨batch, stage⟩ := d
  subst hbatch
  rfl

/-- An answer that ends a delivery leaves nothing to be done about it. -/
theorem over_of_receive {p : Parcel} {d' : Delivery} {channel : Channel} {draw : Draw}
    {answer : Answer} {effects : List Effect}
    (hreceive : p.delivery.receive channel draw answer = some (d', effects))
    (hfinished : d'.stage.finished = true) :
    (p.advance (some d') effects).Over channel := by
  obtain ⟨_, _, hsettled⟩ := Delivery.receive_eq_some hreceive
  obtain ⟨batch, stage⟩ := d'
  cases stage with
  | panicked panic => exact Or.inl ⟨panic, rfl⟩
  | settled attempts outcome =>
      have hconclude := hsettled attempts outcome rfl
      have hdeeds : (p.advance (some ⟨batch, .settled attempts outcome⟩) effects).deeds =
          p.deeds ++ channel.conclude p.events attempts outcome := by
        rw [hconclude]
        rfl
      refine Or.inr ⟨attempts, outcome, rfl, ?_, ?_⟩
      · rw [hdeeds]
        exact List.mem_append_right _ (channel.booked_conclude p.events attempts outcome)
      · rcases channel.reported_conclude p.events attempts outcome with
          hsuccess | ⟨report, hreport, hinfix⟩
        · exact Or.inl hsuccess
        · refine Or.inr ⟨report, hreport, ?_⟩
          rw [hdeeds]
          exact hinfix.trans (List.suffix_append _ _).isInfix
  | ready => cases hfinished
  | sending attempt => cases hfinished
  | resting attempt pause => cases hfinished

theorem sum_map_delivery (parcels : List Parcel) :
    (parcels.map delivery).foldr (fun d n => d.batch.length + n) 0 =
      (parcels.flatMap members).length := by
  induction parcels with
  | nil => rfl
  | cons p rest ih =>
      rw [List.map_cons, List.foldr_cons, ih, List.flatMap_cons, List.length_append]
      simp [delivery, events]

end Parcel

/-- A cycle on record is the one that the scheduler is in. -/
structure Round.Underway (channel : Channel) (cycle : Cycle) (r : Round) : Prop where
  unreturned : r.stats = none
  nonempty : r.parcels ≠ []
  deliveries : r.parcels.map Parcel.delivery = cycle.deliveries
  concluded : ∀ p ∈ r.parcels, p.stage.finished = true → p.Over channel

namespace Round.Underway

variable {channel : Channel} {cycle : Cycle} {r : Round}

/-- A delivery of the cycle is the one of a batch on record. -/
theorem exists_parcel (hr : r.Underway channel cycle) {place : Nat} {d : Delivery}
    (hd : cycle.deliveries[place]? = some d) :
    ∃ p, r.parcels[place]? = some p ∧ p.delivery = d := by
  rwa [← hr.deliveries, List.getElem?_map, Option.map_eq_some_iff] at hd

theorem advance (hr : r.Underway channel cycle) {place : Nat} {d d' : Delivery}
    {effects : List Effect} (hd : cycle.deliveries[place]? = some d)
    (hbatch : d'.batch = d.batch)
    (hover : ∀ p : Parcel, p.delivery = d → d'.stage.finished = true →
      (p.advance (some d') effects).Over channel) :
    (r.advance place (some d') effects).Underway channel
      { cycle with deliveries := cycle.deliveries.set place d' } := by
  obtain ⟨p, hp, rfl⟩ := hr.exists_parcel hd
  constructor
  case unreturned => exact hr.unreturned
  case nonempty =>
    intro hnil
    exact hr.nonempty ((List.modify_eq_nil_iff ..).mp hnil)
  case deliveries =>
    apply List.ext_getElem?
    intro i
    rw [Round.advance, List.getElem?_map, List.getElem?_modify, List.getElem?_set,
      ← hr.deliveries, List.getElem?_map, List.length_map]
    by_cases hi : place = i
    · subst hi
      have hplace : place < r.parcels.length := (List.getElem?_eq_some_iff.mp hp).1
      rw [hp, if_pos rfl, if_pos hplace]
      simp [Parcel.delivery_advance hbatch]
    · simp [hi]
  case concluded =>
    intro q hq hfinished
    obtain ⟨i, hi⟩ := List.mem_iff_getElem?.mp hq
    rw [Round.advance, List.getElem?_modify] at hi
    by_cases hplace : place = i
    · subst hplace
      simp only [hp, if_true] at hi
      cases hi
      exact hover p rfl hfinished
    · have hq' : r.parcels[i]? = some q := by simpa [hplace] using hi
      exact hr.concluded q (List.mem_of_getElem? hq') hfinished

/-- What the cycle returns counts what it took. -/
theorem stats_eq (hr : r.Underway channel cycle) : cycle.stats = r.totals := by
  have hdeliveries := hr.deliveries
  simp only [Cycle.stats, ← hdeliveries, Parcel.sum_map_delivery, List.length_map,
    List.countP_map]
  rfl

/-- With its last batch the cycle is over. -/
theorem ended (hr : r.Underway channel cycle) (hfinished : cycle.finished = true) :
    { r with stats := some cycle.stats }.Over channel := by
  refine ⟨by rw [hr.stats_eq]; rfl, fun p hp => hr.concluded p hp ?_⟩
  rw [Cycle.finished, ← hr.deliveries, List.all_map, List.all_eq_true] at hfinished
  exact hfinished p hp

end Round.Underway

/-- All cycles on record are over, except for the last one if the scheduler is in a cycle. -/
inductive Paced (channel : Channel) (s : State) (rounds : List Round) : Prop
  | resting (hcycle : s.cycle = none) (hover : ∀ r ∈ rounds, r.Over channel)
  | underway (past : List Round) (r : Round) (rest : List Claimant) (cycle : Cycle)
      (hcycle : s.cycle = some cycle) (hline : s.line = r.claimant :: rest)
      (hrounds : rounds = past ++ [r]) (hpast : ∀ r ∈ past, r.Over channel)
      (hunderway : r.Underway channel cycle)

namespace Paced

variable {channel : Channel} {settings : Settings} {s s' : State} {rounds : List Round}

theorem over_of_resting (hp : Paced channel s rounds) (hcycle : s.cycle = none) :
    ∀ r ∈ rounds, r.Over channel := by
  cases hp with
  | resting _ hover => exact hover
  | underway past r rest cycle hcycle' => simp [hcycle] at hcycle'

theorem underway_of_cycle (hp : Paced channel s rounds) {cycle : Cycle}
    (hcycle : s.cycle = some cycle) :
    ∃ past r rest, s.line = r.claimant :: rest ∧ rounds = past ++ [r] ∧
      (∀ r ∈ past, r.Over channel) ∧ r.Underway channel cycle := by
  cases hp with
  | resting hnone => simp [hcycle] at hnone
  | underway past r rest cycle' hcycle' hline hrounds hpast hunderway =>
      rw [hcycle, Option.some.injEq] at hcycle'
      subst hcycle'
      exact ⟨past, r, rest, hline, hrounds, hpast, hunderway⟩

/-- Steps that leave the cycle alone may make the line longer. -/
theorem of_line (hp : Paced channel s rounds) {more : List Claimant}
    (hcycle : s'.cycle = s.cycle) (hline : s'.line = s.line ++ more) :
    Paced channel s' rounds := by
  cases hp with
  | resting hnone hover => exact .resting (hcycle.trans hnone) hover
  | underway past r rest cycle hsome hhead hrounds hpast hunderway =>
      exact .underway past r (rest ++ more) cycle (hcycle.trans hsome)
        (by rw [hline, hhead, List.cons_append]) hrounds hpast hunderway

theorem advance (hp : Paced channel s rounds) {h : History} (hrounds : h.rounds = rounds)
    {cycle : Cycle} {place : Nat} {d d' : Delivery} {effects : List Effect}
    (hcycle : s.cycle = some cycle) (hd : cycle.deliveries[place]? = some d)
    (hbatch : d'.batch = d.batch)
    (hover : ∀ p : Parcel, p.delivery = d → d'.stage.finished = true →
      (p.advance (some d') effects).Over channel) :
    Paced channel
      { s with cycle := some { cycle with deliveries := cycle.deliveries.set place d' } }
      (h.advance place (some d') effects).rounds := by
  obtain ⟨past, r, rest, hline, hlast, hpast, hunderway⟩ := hp.underway_of_cycle hcycle
  have hrounds' : (h.advance place (some d') effects).rounds =
      past ++ [r.advance place (some d') effects] := by
    rw [History.advance, hrounds, hlast, List.modifyLast_concat]
  exact .underway past (r.advance place (some d') effects) rest _ rfl hline hrounds' hpast
    (hunderway.advance hd hbatch hover)

theorem step {m m' : Moment}
    (hbuffered : m.history.numbered.map Prod.fst = m.state.buffer)
    (hp : Paced settings.channel m.state m.history.rounds) (hmove : Move settings m m') :
    Paced settings.channel m'.state m'.history.rounds := by
  cases hmove with
  | aside effects more hquiet hbuffer hcycle hline hhistory =>
      rw [hhistory]
      exact hp.of_line hcycle hline
  | enqueue event effects hquiet hstate hhistory =>
      rw [hhistory, hstate]
      change Paced _ _ (m.history.takeIn _ event).rounds
      rw [History.rounds_takeIn]
      exact hp.of_line rfl (List.append_nil _).symm
  | close effects hquiet hbuffer hcycle hline hhistory =>
      rw [hhistory]
      exact hp.of_line hcycle (hline.trans (List.append_nil _).symm)
  | beginCycle claimant rest now effects hquiet hline hcycle hsome hstate hhistory =>
      have hmap := Buffer.map_batches Prod.fst settings.batchSize m.history.numbered
      rw [hbuffered] at hmap
      rw [hmap] at hsome hstate
      rw [hhistory, hstate]
      refine .underway m.history.rounds _ rest _ rfl hline rfl (hp.over_of_resting hcycle)
        ⟨rfl, ?_, ?_, ?_⟩
      · simpa using hsome
      · simp [Cycle.ofBatches, Parcel.delivery, Parcel.events, Delivery.start]
      · intro p hmem hfinished
        obtain ⟨batch, _, rfl⟩ := List.mem_map.mp hmem
        cases hfinished
  | emptyCycle claimant rest effects hsends hclosings hline hcycle hnone hstate
      hhistory =>
      have hmap := Buffer.map_batches Prod.fst settings.batchSize m.history.numbered
      rw [hbuffered] at hmap
      rw [hmap] at hnone
      have hempty : (m.history.numbered.batches settings.batchSize).1 = [] := by
        simpa using hnone
      rw [hhistory, hstate]
      refine .resting (State.cycle_finishCycle ..) fun r hr => ?_
      rcases List.mem_append.mp hr with hr | hr
      · exact hp.over_of_resting hcycle r hr
      · rw [List.mem_singleton.mp hr]
        simp [Round.Over, Round.totals, Round.members, hempty]
  | resume cycle place d d' hcycle hd hresume hstate hhistory =>
      obtain ⟨_, hbatch, attempt, hstage⟩ := Delivery.resume_eq_some hresume
      rw [hhistory, hstate]
      refine hp.advance rfl hcycle hd hbatch fun p _ hfinished => ?_
      rw [hstage] at hfinished
      cases hfinished
  | receive cycle place answer draw d d' effects hcycle hd hreceive hstate hhistory =>
      rw [hhistory, hstate]
      refine hp.advance rfl hcycle hd (Delivery.receive_eq_some hreceive).1 ?_
      intro p hp hfinished
      subst hp
      exact Parcel.over_of_receive hreceive hfinished
  | endCycle claimant rest cycle effects hsends hclosings hline hcycle hfinished hstate
      hhistory =>
      obtain ⟨past, r, _, _, hlast, hpast, hunderway⟩ := hp.underway_of_cycle hcycle
      rw [hhistory, hstate]
      refine .resting (State.cycle_finishCycle ..) fun x hx => ?_
      change x ∈ m.history.rounds.modifyLast _ at hx
      rw [hlast, List.modifyLast_concat] at hx
      rcases List.mem_append.mp hx with hx | hx
      · exact hpast x hx
      · rw [List.mem_singleton.mp hx]
        exact hunderway.ended hfinished

end Paced

end Courier.Scheduler
