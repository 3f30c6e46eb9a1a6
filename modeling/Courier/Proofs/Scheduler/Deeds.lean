import Courier.Proofs.Scheduler.Invariant
/-!
Who did what was done.

What was done in a run was done about some batch of some cycle, or by the scheduler on its own.  The
record of each batch holds the former, so what is counted over a run is what is counted over its
batches and what the scheduler adds.
-/
namespace Courier.Scheduler

open scoped List

theorem perm_flatMap_modify {α β : Type} {f : α → α} {g : α → List β} {more : List β}
    {l : List α} {place : Nat} {a : α} (ha : l[place]? = some a) (hf : g (f a) = g a ++ more) :
    (l.modify place f).flatMap g ~ l.flatMap g ++ more := by
  induction l generalizing place with
  | nil => cases ha
  | cons b l ih =>
      cases place with
      | zero =>
          obtain rfl : b = a := Option.some.inj ha
          rw [List.modify_zero_cons, List.flatMap_cons, List.flatMap_cons, hf,
            List.append_assoc, List.append_assoc]
          exact List.perm_append_comm.append_left (g b)
      | succ place =>
          rw [List.modify_succ_cons, List.flatMap_cons, List.flatMap_cons, List.append_assoc]
          exact (ih ha).append_left (g b)

def Round.deeds (r : Round) : List Effect := r.parcels.flatMap Parcel.deeds

def History.deeds (h : History) : List Effect := h.rounds.flatMap Round.deeds

/-- The place of the batch that an action is about. -/
def Action.place? : Action → Option Nat
  | .resume place | .receive place _ _ => some place
  | _ => none

/-- The effects of an action that is about no batch. -/
def Action.own (action : Action) (effects : List Effect) : List Effect :=
  if action.place?.isSome then [] else effects

/-- What the scheduler did on its own up to a moment. -/
def Moment.Own (m : Moment) (own : List Effect) : Prop :=
  m.history.trace ~ own ++ m.history.deeds

theorem Round.deeds_advance {r : Round} {place : Nat} (hplace : place < r.parcels.length)
    (d : Option Delivery) (effects : List Effect) :
    (r.advance place d effects).deeds ~ r.deeds ++ effects :=
  perm_flatMap_modify (List.getElem?_eq_getElem hplace) rfl

namespace History

variable {settings : Settings} {s s' : State} {effects : List Effect}

theorem deeds_advance {h : History} {past : List Round} {r : Round} {place : Nat}
    (hrounds : h.rounds = past ++ [r]) (hplace : place < r.parcels.length) (d : Option Delivery)
    (effects : List Effect) :
    (h.advance place d effects).deeds ~ h.deeds ++ effects := by
  rw [deeds, deeds, advance, hrounds, List.modifyLast_concat, List.flatMap_append,
    List.flatMap_append, List.append_assoc, List.flatMap_singleton, List.flatMap_singleton]
  exact (Round.deeds_advance hplace d effects).append_left _

theorem deeds_endRound (h : History) (stats : Option CycleStats) :
    (h.endRound stats).deeds = h.deeds := by
  have hmap : (h.endRound stats).rounds.map Round.parcels = h.rounds.map Round.parcels := by
    apply map_modifyLast_of_eq
    intro r
    rfl
  have hflat : ∀ h : History, h.deeds =
      (h.rounds.map Round.parcels).flatMap fun parcels => parcels.flatMap Parcel.deeds := by
    intro h
    rw [List.flatMap_map]
    rfl
  rw [hflat, hflat, hmap]

/-- Nothing was done yet about the batches of a cycle that begins. -/
theorem deeds_beginRound (h : History) (batchSize : Nat) (claimant : Claimant)
    (stats : Option CycleStats) : (h.beginRound batchSize claimant stats).deeds = h.deeds := by
  simp [deeds, beginRound, Round.deeds, List.flatMap_map]

theorem deeds_takeIn (h : History) (admission : Admission) (event : Event) :
    (h.takeIn admission event).deeds = h.deeds := by
  rw [deeds, rounds_takeIn, deeds]

/-- An action that is about no batch adds nothing to the record of any. -/
theorem deeds_book {action : Action} (haside : action.place? = none) (h : History) :
    (h.book settings s s' action effects).deeds = h.deeds := by
  cases action with
  | resume place => cases haside
  | receive place answer draw => cases haside
  | enqueue event => exact h.deeds_takeIn _ event
  | beginShutdown =>
      cases haccepts : s.phase.accepts <;> simp [book, haccepts, deeds]
  | beginCycle now =>
      cases hline : s.line with
      | nil => simp [book, hline]
      | cons claimant rest => simp [book, hline, deeds_beginRound]
  | endCycle now => exact h.deeds_endRound _
  | _ => rfl

/-- An action that is about a batch of the cycle is on its record. -/
theorem deeds_book_of_place (settings : Settings) (s s' : State) (effects : List Effect)
    {action : Action} {place : Nat} (haction : action.place? = some place) {h : History}
    {past : List Round} {r : Round} (hrounds : h.rounds = past ++ [r])
    (hplace : place < r.parcels.length) :
    (h.book settings s s' action effects).deeds ~ h.deeds ++ effects := by
  cases action with
  | resume place' =>
      obtain rfl : place' = place := Option.some.inj haction
      exact deeds_advance (h := h.send place' effects) hrounds hplace _ _
  | receive place' answer draw =>
      obtain rfl : place' = place := Option.some.inj haction
      exact deeds_advance hrounds hplace _ _
  | _ => cases haction

end History

/-- The batch that an action is about is there. -/
theorem Turn.lt_of_place {settings : Settings} {s s' : State} {action : Action}
    {effects : List Effect} (hturn : Turn settings s action s' effects) {place : Nat}
    (haction : action.place? = some place) :
    ∃ cycle, s.cycle = some cycle ∧ place < cycle.deliveries.length := by
  cases hturn with
  | resume cycle place' d d' effects hcycle hd hresume =>
      obtain rfl : place' = place := Option.some.inj haction
      exact ⟨cycle, hcycle, (List.getElem?_eq_some_iff.mp hd).1⟩
  | receive cycle place' answer draw d d' effects hcycle hd hreceive =>
      obtain rfl : place' = place := Option.some.inj haction
      exact ⟨cycle, hcycle, (List.getElem?_eq_some_iff.mp hd).1⟩
  | _ => cases haction

namespace Moment.Own

variable {settings : Settings} {m m' : Moment} {own : List Effect}

/-- A step is about a batch of the cycle, or the scheduler did it on its own. -/
theorem step (hown : m.Own own) (hp : Paced settings.channel m.state m.history.rounds)
    {action : Action} {effects : List Effect}
    (hturn : Turn settings m.state action m'.state effects)
    (hhistory : m'.history = m.history.record settings m.state m'.state action effects) :
    m'.Own (own ++ action.own effects) := by
  have htrace : m'.history.trace = m.history.trace ++ effects := by rw [hhistory]; rfl
  have hdeeds : m'.history.deeds =
      (m.history.book settings m.state m'.state action effects).deeds := by
    rw [hhistory]
    rfl
  rw [Own, htrace, hdeeds]
  cases hplace : action.place? with
  | none =>
      rw [History.deeds_book hplace, Action.own, hplace]
      calc m.history.trace ++ effects
        _ ~ own ++ m.history.deeds ++ effects := hown.append_right effects
        _ = own ++ (m.history.deeds ++ effects) := List.append_assoc ..
        _ ~ own ++ (effects ++ m.history.deeds) := List.perm_append_comm.append_left own
        _ = own ++ effects ++ m.history.deeds := (List.append_assoc ..).symm
  | some place =>
      obtain ⟨cycle, hcycle, hlt⟩ := hturn.lt_of_place hplace
      obtain ⟨past, r, _, _, hrounds, _, hunderway⟩ := hp.underway_of_cycle hcycle
      rw [← hunderway.deliveries, List.length_map] at hlt
      have hbook := History.deeds_book_of_place settings m.state m'.state effects hplace
        hrounds hlt
      rw [Action.own, hplace]
      calc m.history.trace ++ effects
        _ ~ own ++ m.history.deeds ++ effects := hown.append_right effects
        _ = own ++ (m.history.deeds ++ effects) := List.append_assoc ..
        _ ~ own ++ (m.history.book settings m.state m'.state action effects).deeds :=
          hbook.symm.append_left own
        _ = _ := by rw [Option.isSome_some, if_pos rfl, List.append_nil]

end Moment.Own

end Courier.Scheduler
