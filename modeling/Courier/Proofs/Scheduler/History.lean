import Mathlib.Data.List.ModifyLast
import Mathlib.Logic.Relation
import Courier.Proofs.Buffer.Batches
import Courier.Proofs.Delivery.Effects
import Courier.Proofs.Scheduler.Turn
/-!
What goes on record in a run of a scheduler.

A moment of a run is the state of the scheduler with its history: the accepted events in their order,
those that were evicted, and every cycle with the batches it took and what was done about each.
Events are told apart by their number among the accepted ones, so next to the buffer of the scheduler
the history keeps a buffer of the same kind that holds the events with their numbers.
-/
namespace Courier.Scheduler

section Lists

variable {α β : Type} {f : α → α} {g : α → β}

theorem map_modifyLast_of_eq (hf : ∀ a, g (f a) = g a) (l : List α) :
    (l.modifyLast f).map g = l.map g := by
  rcases l.eq_nil_or_concat with rfl | ⟨l, a, rfl⟩
  · rfl
  · simp [List.concat_eq_append, List.modifyLast_concat, hf]

theorem map_modify_of_eq (hf : ∀ a, g (f a) = g a) (l : List α) (place : Nat) :
    (l.modify place f).map g = l.map g := by
  apply List.ext_getElem?
  intro i
  rw [List.getElem?_map, List.getElem?_map, List.getElem?_modify]
  cases l[i]? with
  | none => rfl
  | some a =>
      by_cases hplace : place = i
      · simp [hplace, hf]
      · simp [hplace]

theorem getElem?_concat_cases {l : List α} {a x : α} {i : Nat}
    (h : (l ++ [a])[i]? = some x) :
    i < l.length ∧ l[i]? = some x ∨ i = l.length ∧ x = a := by
  rcases Nat.lt_or_ge i l.length with hi | hi
  · rw [List.getElem?_append_left hi] at h
    exact Or.inl ⟨hi, h⟩
  · rw [List.getElem?_append_right hi, List.getElem?_singleton] at h
    split at h
    · exact Or.inr ⟨by omega, (Option.some.inj h).symm⟩
    · cases h

theorem getElem?_set_of_ne {l : List α} {a x : α} {i j : Nat} (hi : l[i]? = some a)
    (hj : l[j]? = some x) (hne : a ≠ x) (b : α) : (l.set i b)[j]? = some x := by
  have hij : i ≠ j := by
    rintro rfl
    rw [hi, Option.some.injEq] at hj
    exact hne hj
  rw [List.getElem?_set_ne hij, hj]

theorem getElem?_set_cases {l : List α} {a x : α} {i j : Nat}
    (h : (l.set i a)[j]? = some x) : l[j]? = some x ∨ a = x := by
  rw [List.getElem?_set] at h
  split at h
  · split at h
    · exact Or.inr (Option.some.inj h)
    · cases h
  · exact Or.inl h

end Lists

/-- An event with its number among the accepted ones. -/
abbrev Numbered := Event × Nat

/-- A batch that a cycle took, where its delivery stands and what was done about it. -/
structure Parcel where
  members : List Numbered
  stage : Stage := .ready
  deeds : List Effect := []

namespace Parcel

def events (p : Parcel) : List Event := p.members.map Prod.fst

/-- The delivery of the batch, as the scheduler sees it. -/
def delivery (p : Parcel) : Delivery := ⟨p.events, p.stage⟩

/-- Something was done about the batch, and its delivery may stand elsewhere. -/
def advance (p : Parcel) (delivery : Option Delivery) (effects : List Effect) : Parcel :=
  { p with
    stage := (delivery.map Delivery.stage).getD p.stage
    deeds := p.deeds ++ effects }

/-- The delivery is over: sending panicked, or there is a final outcome that is booked, and a report
on anything but a success was handed to the reporter. -/
def Over (channel : Channel) (p : Parcel) : Prop :=
  (∃ panic, p.stage = .panicked panic) ∨
  ∃ attempts outcome, p.stage = .settled attempts outcome ∧
    .counted (.batch outcome.label) ∈ p.deeds ∧
    (outcome = .success ∨
      ∃ report, Report.ofOutcome outcome attempts p.events = some report ∧
        channel.reporter.receive report <:+: p.deeds)

end Parcel

/-- A cycle on record: who ran it, the batches it took in their order, and what it returned once it
was over. -/
structure Round where
  claimant : Claimant
  parcels : List Parcel
  stats : Option CycleStats := none

namespace Round

def members (r : Round) : List Numbered := r.parcels.flatMap Parcel.members

/-- What the cycle counts. -/
def totals (r : Round) : CycleStats where
  batches := r.parcels.length
  events := r.members.length
  failedBatches := r.parcels.countP fun p => !p.stage.succeeded

/-- Something was done about one of the batches. -/
def advance (r : Round) (place : Nat) (delivery : Option Delivery) (effects : List Effect) :
    Round :=
  { r with parcels := r.parcels.modify place (·.advance delivery effects) }

/-- The cycle is over, and so is the delivery of each of its batches. -/
def Over (channel : Channel) (r : Round) : Prop :=
  r.stats = some r.totals ∧ ∀ p ∈ r.parcels, p.Over channel

/-- Who runs the cycle, and what it took. -/
def plan (r : Round) : Claimant × List (List Numbered) :=
  (r.claimant, r.parcels.map Parcel.members)

theorem members_eq (r : Round) : r.members = r.plan.2.flatten := List.flatMap_def

theorem plan_advance (r : Round) (place : Nat) (delivery : Option Delivery)
    (effects : List Effect) : (r.advance place delivery effects).plan = r.plan := by
  apply congrArg (r.claimant, ·)
  apply map_modify_of_eq
  intro p
  rfl

end Round

/-- A call of the transport: the delivery that made it, by the number of its cycle and its place
there, and what was handed over. -/
structure Sending where
  round : Nat
  place : Nat
  batch : List Event

/-- What happened in a run so far. -/
structure History where
  /-- The events that the buffer took, the first one first. -/
  accepted : List Event := []
  /-- The numbers of those that were evicted. -/
  evicted : List Nat := []
  /-- The buffer with each event numbered. -/
  numbered : Buffer Numbered
  /-- All cycles in the order in which they began. -/
  rounds : List Round := []
  /-- All calls of the transport in their order. -/
  sendings : List Sending := []
  /-- Everything that was done, in its order. -/
  trace : List Effect := []

namespace History

/-- The events that cycles took, in the order in which they took them. -/
def drained (h : History) : List Numbered := h.rounds.flatMap Round.members

/-- The delivery of a cycle's batch, by the number of the cycle and the place there. -/
def parcel? (h : History) (round place : Nat) : Option Parcel :=
  h.rounds[round]?.bind fun r => r.parcels[place]?

/-- An event came in, and the buffer dealt with it. -/
def takeIn (h : History) (admission : Admission) (event : Event) : History :=
  let numbered := (h.numbered.enqueue (event, h.accepted.length)).2
  match admission with
  | .refused => h
  | .stored => { h with accepted := h.accepted ++ [event], numbered }
  | .evictedOldest =>
    { h with
      accepted := h.accepted ++ [event]
      evicted := h.evicted ++ (h.numbered.contents.take 1).map Prod.snd
      numbered }

/-- A cycle began; one with nothing to take has its totals at once. -/
def beginRound (h : History) (batchSize : Nat) (claimant : Claimant)
    (stats : Option CycleStats) : History :=
  let (batches, numbered) := h.numbered.batches batchSize
  { h with
    numbered
    rounds := h.rounds ++ [⟨claimant, batches.map ({ members := · }), stats⟩] }

/-- Something was done about one batch of the last cycle. -/
def advance (h : History) (place : Nat) (delivery : Option Delivery)
    (effects : List Effect) : History :=
  { h with
    rounds := h.rounds.modifyLast (·.advance place delivery effects) }

/-- The last cycle returned. -/
def endRound (h : History) (stats : Option CycleStats) : History :=
  { h with rounds := h.rounds.modifyLast fun r => { r with stats } }

/-- A batch of the last cycle was handed to the transport. -/
def send (h : History) (place : Nat) (effects : List Effect) : History :=
  { h with
    sendings := h.sendings
      ++ (Effect.sends effects).map fun batch => ⟨h.rounds.length - 1, place, batch⟩ }

@[simp] theorem rounds_takeIn (h : History) (admission : Admission) (event : Event) :
    (h.takeIn admission event).rounds = h.rounds := by
  cases admission <;> rfl

@[simp] theorem sendings_takeIn (h : History) (admission : Admission) (event : Event) :
    (h.takeIn admission event).sendings = h.sendings := by
  cases admission <;> rfl

def plans (h : History) : List (Claimant × List (List Numbered)) := h.rounds.map Round.plan

/-- Nothing but the beginning of a cycle takes events. -/
theorem drained_congr {h h' : History} (hplans : h'.plans = h.plans) :
    h'.drained = h.drained := by
  have hflat : ∀ h : History, h.drained = h.plans.flatMap fun x => x.2.flatten := by
    intro h
    rw [drained, plans, List.flatMap_map, funext Round.members_eq]
  rw [hflat, hflat, hplans]

theorem plans_advance (h : History) (place : Nat) (delivery : Option Delivery)
    (effects : List Effect) : (h.advance place delivery effects).plans = h.plans :=
  map_modifyLast_of_eq (fun r => r.plan_advance place delivery effects) h.rounds

theorem plans_endRound (h : History) (stats : Option CycleStats) :
    (h.endRound stats).plans = h.plans := by
  apply map_modifyLast_of_eq
  intro r
  rfl

theorem plans_beginRound (h : History) (batchSize : Nat) (claimant : Claimant)
    (stats : Option CycleStats) :
    (h.beginRound batchSize claimant stats).plans =
      h.plans ++ [(claimant, (h.numbered.batches batchSize).1)] := by
  have hid : (h.numbered.batches batchSize).1.map
      (Parcel.members ∘ fun members => { members }) = (h.numbered.batches batchSize).1 :=
    List.map_id _
  simp only [plans, beginRound, List.map_append, List.map_cons, List.map_nil, Round.plan,
    List.map_map, hid]

theorem drained_beginRound {batchSize : Nat} (hsize : batchSize ≠ 0) (h : History)
    (claimant : Claimant) (stats : Option CycleStats) :
    (h.beginRound batchSize claimant stats).drained = h.drained ++ h.numbered.contents := by
  have hnew : Round.members ⟨claimant,
      (h.numbered.batches batchSize).1.map ({ members := · }), stats⟩ =
        h.numbered.contents := by
    simp only [Round.members, List.flatMap_map]
    exact List.flatMap_id'.trans (Buffer.flatten_batches hsize h.numbered)
  simp only [drained, beginRound, List.flatMap_append, List.flatMap_singleton, hnew]

end History

/-- Where a batch of the present cycle stands. -/
def State.delivery? (s : State) (place : Nat) : Option Delivery :=
  s.cycle.bind fun cycle => cycle.deliveries[place]?

/-- What an action that led from one state to another adds to the history, the trace apart. -/
def History.book (h : History) (settings : Settings) (s s' : State)
    (action : Action) (effects : List Effect) : History :=
  match action with
  | .enqueue event => h.takeIn (s.buffer.enqueue event).1 event
  | .beginShutdown =>
    if s.phase.accepts then { h with numbered := h.numbered.close } else h
  | .beginCycle _ =>
    match s.line with
    | claimant :: _ =>
      h.beginRound settings.batchSize claimant (if s'.cycle.isNone then some {} else none)
    | [] => h
  | .resume place => (h.send place effects).advance place (s'.delivery? place) effects
  | .receive place _ _ => h.advance place (s'.delivery? place) effects
  | .endCycle _ => h.endRound (s.cycle.map Cycle.stats)
  | _ => h

/-- The history after an action that led from one state to another. -/
def History.record (h : History) (settings : Settings) (s s' : State)
    (action : Action) (effects : List Effect) : History :=
  { h.book settings s s' action effects with trace := h.trace ++ effects }

/-- A scheduler in the middle of a run. -/
structure Moment where
  state : State
  history : History

namespace Moment

def first (s : State) : Moment := ⟨s, { numbered := s.buffer.map (·, 0) }⟩

/-- The moment after an action, if the action is possible. -/
def next? (settings : Settings) (m : Moment) (action : Action) : Option Moment :=
  (step settings m.state action).map fun (state, effects) =>
    ⟨state, m.history.record settings m.state state action effects⟩

theorem next?_of_step {settings : Settings} {m : Moment} {action : Action} {s' : State}
    {effects : List Effect} (hstep : step settings m.state action = some (s', effects)) :
    m.next? settings action =
      some ⟨s', m.history.record settings m.state s' action effects⟩ :=
  congrArg (Option.map _) hstep

/-- The moment after a list of actions, if they are possible one after the other. -/
def after? (settings : Settings) (m : Moment) : List Action → Option Moment
  | [] => some m
  | action :: rest => (m.next? settings action).bind fun m => m.after? settings rest

/-- One moment comes right after another one. -/
def Follows (settings : Settings) (m m' : Moment) : Prop :=
  ∃ action, action.ordinary = true ∧ m.next? settings action = some m'

end Moment

/-- A run leads from one moment to another: any ordinary actions, in any order. -/
abbrev Run (settings : Settings) : Moment → Moment → Prop :=
  Relation.ReflTransGen (Moment.Follows settings)

/-- A moment in a run of a scheduler that was built with accepted settings. -/
def Reached (settings : Settings) (m : Moment) : Prop :=
  ∃ config transport reporter s effects,
    create config transport reporter = .ok (settings, s, effects) ∧
      Run settings (.first s) m

end Courier.Scheduler
