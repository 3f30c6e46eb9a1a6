import Courier.Proofs.Scheduler.Bookings
/-!
What is told about the size of the buffer.

The size is told whenever an event was taken in, and whenever a cycle took what was buffered.  Nothing
else changes it, so what was told last is the size.
-/
namespace Courier

namespace Effect

def tellsSize : Effect → Bool
  | .counted (.bufferSize _) => true
  | _ => false

def Untold (effects : List Effect) : Prop := ∀ effect ∈ effects, effect.tellsSize = false

@[simp] theorem untold_nil : Untold [] := by
  intro effect heffect
  cases heffect

@[simp] theorem untold_cons (effect : Effect) (effects : List Effect) :
    Untold (effect :: effects) ↔ effect.tellsSize = false ∧ Untold effects :=
  List.forall_mem_cons

def gauge (shown : Nat) (effects : List Effect) : Nat :=
  (updates effects).foldl Metrics.Update.gauge shown

@[simp] theorem gauge_append (shown : Nat) (left right : List Effect) :
    gauge shown (left ++ right) = gauge (gauge shown left) right := by
  rw [gauge, updates_append, List.foldl_append, gauge, gauge]

theorem Untold.gauge_eq {effects : List Effect} (huntold : Untold effects) (shown : Nat) :
    gauge shown effects = shown := by
  induction effects with
  | nil => rfl
  | cons effect rest ih =>
      obtain ⟨heffect, hrest⟩ := (untold_cons effect rest).mp huntold
      have hfirst : gauge shown [effect] = shown := by
        cases effect with
        | counted update => cases update <;> first | rfl | cases heffect
        | _ => rfl
      rw [← List.singleton_append, gauge_append, hfirst, ih hrest]

end Effect

open Effect (Untold gauge)

namespace Channel

theorem untold_conclude (channel : Channel) (batch : List Event) (attempts : Nat)
    (outcome : Outcome) : Untold (channel.conclude batch attempts outcome) := by
  apply forall_mem_conclude
  case hlogged => exact fun _ => rfl
  case hreported => exact fun _ => rfl
  case hpanic => rfl
  case hcounted =>
    intro update hraises
    cases update <;> first | rfl | cases hraises

theorem untold_echo (channel : Channel) (batch : List Event) (answer : Answer) (stage : Stage) :
    Untold (channel.echo batch answer stage) := by
  cases stage with
  | settled attempts outcome => exact channel.untold_conclude batch attempts outcome
  | _ => simp [echo, Effect.tellsSize]

end Channel

namespace Scheduler

theorem untold_panicEffects (transport : String) (deliveries : List Delivery) :
    Untold (panicEffects transport deliveries) := by
  apply forall_mem_panicEffects
  case hlogged => exact fun _ => rfl
  case hdropped => exact fun _ => rfl

theorem State.untold_finishCycle (s : State) (claimant : Claimant) (rest : List Claimant)
    (stats : CycleStats) : Untold (s.finishCycle claimant rest stats).2 := by
  cases claimant <;> simp [State.finishCycle, Effect.tellsSize]

theorem State.gauge_enqueue (s : State) (event : Event) :
    gauge s.buffer.size (s.enqueue event).2 = (s.enqueue event).1.buffer.size := by
  unfold State.enqueue
  rcases s.buffer.enqueue_cases event with ⟨_, heq⟩ | ⟨_, _, heq⟩ | ⟨_, _, heq⟩
  · rw [heq]
    rfl
  · rw [heq]
    rfl
  · rw [heq]
    rfl

/-- After every step the size that is shown is the size of the buffer. -/
theorem Turn.gauge_eq {settings : Settings} {s s' : State} {action : Action}
    {effects : List Effect} (hturn : Turn settings s action s' effects) :
    gauge s.buffer.size effects = s'.buffer.size := by
  cases hturn with
  | enqueue event => exact s.gauge_enqueue event
  | beginCycle claimant rest now hline hcycle hsome => rfl
  | emptyCycle claimant rest now hline hcycle hnone =>
      rw [State.buffer_finishCycle, ← List.singleton_append, Effect.gauge_append,
        (State.untold_finishCycle _ claimant rest {}).gauge_eq]
      rfl
  | resume cycle place d d' effects hcycle hd hresume =>
      obtain ⟨rfl, _⟩ := Delivery.resume_eq_some hresume
      rfl
  | receive cycle place answer draw d d' effects hcycle hd hreceive =>
      obtain ⟨batch, stage⟩ := d
      cases stage with
      | sending attempt =>
          have hsending := Delivery.receive_sending settings.channel batch attempt draw answer
          obtain ⟨rfl, rfl⟩ := Prod.mk.inj (Option.some.inj (hsending.symm.trans hreceive))
          exact (settings.channel.untold_echo batch answer _).gauge_eq s.buffer.size
      | _ => cases hreceive
  | endCycle claimant rest cycle now hline hcycle hfinished =>
      rw [State.buffer_finishCycle, Effect.gauge_append,
        (untold_panicEffects _ cycle.deliveries).gauge_eq, ← List.singleton_append,
        Effect.gauge_append, (State.untold_finishCycle s claimant rest _).gauge_eq]
      rfl
  | timerGone call hcall htimer =>
      unfold timerGoneEffects
      split <;> rfl
  | transportClosed call stats failure hcall => cases failure <;> rfl
  | _ => rfl

/-- What was told last is the size of the buffer. -/
theorem gauge_run {settings : Settings} {m m' : Moment} {shown : Nat}
    (hshown : gauge shown m.history.trace = m.state.buffer.size) (hrun : Run settings m m') :
    gauge shown m'.history.trace = m'.state.buffer.size := by
  induction hrun with
  | refl => exact hshown
  | tail _ hstep ih =>
      obtain ⟨action, effects, hturn, hhistory⟩ := hstep.turn
      rw [hhistory, History.record, Effect.gauge_append, ih]
      exact hturn.gauge_eq

end Scheduler

end Courier
