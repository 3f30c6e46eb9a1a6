import Courier.Proofs.Delivery.Effects
import Courier.Timeline.Agenda
/-!
Turns of a claimant.

A turn goes from one due step to the next until nothing is due.  What a world is set up with never
changes on the way, and its trace only grows.
-/
namespace Courier.Timeline.World

open Scheduler (Action Claimant)

variable {w w' w'' : World} {action : Action} {claimant : Claimant}

/-- The world has gone on, and some effects were added to its trace. -/
structure After (w : World) (effects : List Effect) (w' : World) : Prop where
  settings : w'.settings = w.settings
  now : w'.now = w.now
  farEnd : w'.farEnd = w.farEnd
  closing : w'.closing = w.closing
  trace : w'.trace.map Prod.snd = w.trace.map Prod.snd ++ effects

namespace After

variable {effects later : List Effect}

theorem refl (w : World) : After w [] w := ⟨rfl, rfl, rfl, rfl, (List.append_nil _).symm⟩

theorem trans (h : After w effects w') (hlater : After w' later w'') :
    After w (effects ++ later) w'' where
  settings := hlater.settings.trans h.settings
  now := hlater.now.trans h.now
  farEnd := hlater.farEnd.trans h.farEnd
  closing := hlater.closing.trans h.closing
  trace := by rw [hlater.trace, h.trace, List.append_assoc]

theorem does (w : World) (effects : List Effect) : After w effects (w.does effects) := by
  refine ⟨rfl, rfl, rfl, rfl, ?_⟩
  simp [World.does, Function.comp_def]

end After

/-- A step has the batches of the cycle wait for something else, and no more. -/
theorem follow_eq (w : World) (action : Action) :
    ∃ calls waits, w.follow action = { w with calls, waits } := by
  cases action
  case resume position =>
    rw [follow, call]
    split <;> exact ⟨_, _, rfl⟩
  case receive position answer draw =>
    rw [follow, pause]
    split <;> exact ⟨_, _, rfl⟩
  all_goals exact ⟨_, _, rfl⟩

/-- The world after a step of the scheduler, before the batches of the cycle wait for something else. -/
def stepped (w : World) (action : Action) (s : Scheduler.State) (effects : List Effect) : World :=
  { w.does (w.said action ++ effects) with
    scheduler := s
    closesAt := if Effect.closings effects = 0 then w.closesAt else w.now + w.closing.1
    moves := w.moves + 1 }

variable {s : Scheduler.State} {effects : List Effect}

theorem perform_eq (h : Scheduler.step w.settings w.scheduler action = some (s, effects)) :
    w.perform action = (w.stepped action s effects).follow action := by
  rw [perform, h]
  rfl

/-- What a possible step of the scheduler does to the world around it. -/
structure Performed (w : World) (action : Action) (s : Scheduler.State) (effects : List Effect)
    (w' : World) : Prop where
  after : After w (w.said action ++ effects) w'
  scheduler : w'.scheduler = s
  moves : w'.moves = w.moves + 1
  closesAt : w'.closesAt =
    if Effect.closings effects = 0 then w.closesAt else w.now + w.closing.1

theorem performed_of_step
    (h : Scheduler.step w.settings w.scheduler action = some (s, effects)) :
    Performed w action s effects (w.perform action) := by
  obtain ⟨calls, waits, hfollow⟩ := follow_eq (w.stepped action s effects) action
  obtain ⟨hsettings, hnow, hfarEnd, hclosing, htrace⟩ := After.does w (w.said action ++ effects)
  rw [perform_eq h, hfollow]
  exact ⟨⟨hsettings, hnow, hfarEnd, hclosing, htrace⟩, rfl, rfl, rfl⟩

/-- A claimant makes some due steps, one after the other. -/
inductive Turns (claimant : Claimant) : Nat → World → World → Prop where
  | stay (w : World) : Turns claimant 0 w w
  | next {steps : Nat} {w w' : World} {action : Action} (hdue : w.due? claimant = some action)
    (hlater : Turns claimant steps (w.perform action) w') : Turns claimant (steps + 1) w w'

theorem Turns.trans {steps more : Nat} (h : Turns claimant steps w w')
    (hmore : Turns claimant more w' w'') : Turns claimant (steps + more) w w'' := by
  induction h with
  | stay w => exact (Nat.zero_add more).symm ▸ hmore
  | next hdue _ ih =>
      rw [Nat.succ_add]
      exact .next hdue (ih hmore)

/-- A turn with enough patience ends where nothing is due any more. -/
theorem Turns.turnOf_eq {steps fuel : Nat} (h : Turns claimant steps w w')
    (hend : w'.due? claimant = none) (hfuel : steps < fuel) : turnOf claimant fuel w = w' := by
  obtain ⟨fuel, rfl⟩ := Nat.exists_eq_add_of_lt hfuel
  clear hfuel
  induction h with
  | stay w => rw [Nat.zero_add, turnOf, hend]
  | @next steps w w' action hdue _ ih =>
      rw [show steps + 1 + fuel + 1 = (steps + fuel + 1) + 1 by omega, turnOf, hdue]
      exact ih hend

end Courier.Timeline.World
