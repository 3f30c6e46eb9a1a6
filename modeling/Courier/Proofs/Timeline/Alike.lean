import Courier.Proofs.Timeline.Turns
/-!
Worlds that differ in what was said.

What stands in the trace of a world has no bearing on what the world does.  Two worlds that differ only
in some of the effects in their traces go through the same steps, and differ in nothing else later on.
-/
namespace Courier.Timeline

open Scheduler (Action Claimant)

/-- The task has neither a limit nor strands. -/
def Task.isPlain : Task → Bool
  | .finished _ | .calling _ => true
  | _ => false

namespace World

/-- Two worlds that differ only in their traces, and there only in effects that do not count. -/
def Alike (counts : Effect → Bool) (v w : World) : Prop :=
  ∃ trace, v = { w with trace } ∧
    (trace.map Prod.snd).filter counts = (w.trace.map Prod.snd).filter counts

namespace Alike

variable {counts : Effect → Bool} {v w : World}

theorem refl (counts : Effect → Bool) (w : World) : Alike counts w w := ⟨w.trace, rfl, rfl⟩

theorem symm (h : Alike counts v w) : Alike counts w v := by
  obtain ⟨trace, rfl, htrace⟩ := h
  exact ⟨w.trace, rfl, htrace.symm⟩

theorem trans {u : World} (h : Alike counts u v) (hlater : Alike counts v w) : Alike counts u w := by
  obtain ⟨trace, rfl, htrace⟩ := h
  obtain ⟨later, rfl, hlater⟩ := hlater
  exact ⟨trace, rfl, htrace.trans hlater⟩

theorem does (h : Alike counts v w) (effects : List Effect) :
    Alike counts (v.does effects) (w.does effects) := by
  obtain ⟨trace, rfl, htrace⟩ := h
  refine ⟨_, rfl, ?_⟩
  simp only [World.does, List.map_append, List.filter_append, htrace]

/-- Only one of the worlds does something, and it does not count. -/
theorem does_left (h : Alike counts v w) {effects : List Effect}
    (heffects : effects.filter counts = []) : Alike counts (v.does effects) w := by
  obtain ⟨trace, rfl, htrace⟩ := h
  refine ⟨_, rfl, ?_⟩
  simp only [List.map_append, List.map_map, Function.comp_def, List.map_id', List.filter_append,
    htrace, heffects, List.append_nil]

theorem follow (h : Alike counts v w) (action : Action) :
    Alike counts (v.follow action) (w.follow action) := by
  obtain ⟨trace, rfl, htrace⟩ := h
  obtain ⟨calls, waits, hfollow⟩ := follow_eq w action
  refine ⟨trace, ?_, by rw [hfollow, htrace]⟩
  cases action
  case resume position =>
    simp only [World.follow, call, stageAt]
    split <;> rfl
  case receive position answer draw =>
    simp only [World.follow, pause, stageAt]
    split <;> rfl
  all_goals rfl

theorem perform (h : Alike counts v w) (action : Action) :
    Alike counts (v.perform action) (w.perform action) := by
  obtain ⟨trace, rfl, htrace⟩ := h
  cases hstep : Scheduler.step w.settings w.scheduler action with
  | none =>
      simp only [World.perform, hstep]
      exact ⟨trace, rfl, htrace⟩
  | some next =>
      obtain ⟨s, effects⟩ := next
      rw [perform_eq hstep, perform_eq (w := { w with trace }) hstep]
      have hsaid : ({ w with trace }).said action = w.said action := by
        cases action <;> rfl
      apply follow
      refine ⟨_, rfl, ?_⟩
      simp only [stepped, World.does, List.map_append, List.filter_append, htrace, hsaid]

theorem due?_eq (h : Alike counts v w) (claimant : Claimant) : v.due? claimant = w.due? claimant := by
  obtain ⟨trace, rfl, -⟩ := h
  rfl

theorem turnOf (h : Alike counts v w) (claimant : Claimant) (fuel : Nat) :
    Alike counts (World.turnOf claimant fuel v) (World.turnOf claimant fuel w) := by
  induction fuel generalizing v w with
  | zero => exact h
  | succ fuel ih =>
      rw [World.turnOf, World.turnOf, h.due?_eq]
      cases w.due? claimant with
      | none => exact h
      | some action => exact ih (h.perform action)

theorem give (h : Alike counts v w) (claimant : Claimant) :
    Alike counts (v.give claimant) (w.give claimant) := by
  have hpatience : v.patience = w.patience := by
    obtain ⟨trace, rfl, -⟩ := h
    rfl
  rw [World.give, World.give, hpatience]
  exact h.turnOf claimant _

theorem scheduler_eq (h : Alike counts v w) : v.scheduler = w.scheduler := by
  obtain ⟨trace, rfl, -⟩ := h
  rfl

theorem moves_eq (h : Alike counts v w) : v.moves = w.moves := by
  obtain ⟨trace, rfl, -⟩ := h
  rfl

/-- A call gets its turn in both worlds, and its task is the same in both. -/
theorem attend (h : Alike counts v w) (claimant : Claimant) (call : Nat) :
    Alike counts (v.attend claimant call).1 (w.attend claimant call).1 ∧
      (v.attend claimant call).2 = (w.attend claimant call).2 ∧
      (w.attend claimant call).2.isPlain = true := by
  have hgive := h.give claimant
  rw [World.attend, World.attend]
  simp only [hgive.scheduler_eq]
  split <;> exact ⟨hgive, rfl, rfl⟩

theorem poll (h : Alike counts v w) {task : Task} (htask : task.isPlain = true) :
    Alike counts (v.poll task).1 (w.poll task).1 ∧ (v.poll task).2 = (w.poll task).2 ∧
      (w.poll task).2.isPlain = true := by
  cases task with
  | finished result => exact ⟨h, rfl, rfl⟩
  | calling claimant =>
      cases claimant with
      | timer => exact ⟨h, rfl, rfl⟩
      | flush call => exact h.attend _ _
      | shutdown call => exact h.attend _ _
  | asleep | limited | joint => cases htask

/-- Time passes in both worlds alike. -/
theorem await (h : Alike counts v w) {task : Task} (htask : task.isPlain = true) (fuel seen : Nat) :
    Alike counts (World.await fuel seen v task).1 (World.await fuel seen w task).1 := by
  induction fuel generalizing v w task seen with
  | zero => exact h
  | succ fuel ih =>
      rw [World.await, World.await]
      cases task.result? with
      | some result => exact h
      | none =>
          have htimer := h.give .timer
          generalize v.give .timer = v' at htimer ⊢
          generalize w.give .timer = w' at htimer ⊢
          have hlater (time : Nat) : Alike counts { v' with now := time } { w' with now := time } := by
            obtain ⟨trace, rfl, htrace⟩ := htimer
            exact ⟨trace, rfl, htrace⟩
          have hwake : v'.nextWake? task = w'.nextWake? task := by
            obtain ⟨trace, rfl, -⟩ := htimer
            rfl
          have hmoves := htimer.moves_eq
          dsimp only
          by_cases hmoved : w'.moves ≠ seen
          · obtain ⟨hpoll, hsame, hplain⟩ := htimer.poll htask
            rw [if_pos hmoved, if_pos (hmoves ▸ hmoved), hsame, hmoves]
            exact ih hpoll hplain _
          · rw [if_neg hmoved, if_neg (hmoves ▸ hmoved), hwake]
            cases w'.nextWake? task with
            | none => exact htimer
            | some time =>
                have hpoll := (hlater time).poll htask
                dsimp only
                generalize { v' with now := time }.poll task = polled at hpoll ⊢
                rw [hmoves, hpoll.2.1]
                exact ih hpoll.1 hpoll.2.2 _

/-- A shutdown goes the same way in both worlds. -/
theorem shutdown (h : Alike counts v w) :
    Alike counts (v.finish .shutdown).1 (w.finish .shutdown).1 := by
  have hcall : v.scheduler.nextCall = w.scheduler.nextCall := by rw [h.scheduler_eq]
  have hrounds : v.rounds [.shutdown] = w.rounds [.shutdown] := by
    obtain ⟨trace, rfl, -⟩ := h
    rfl
  obtain ⟨hattend, hsame, hplain⟩ :=
    (h.perform .beginShutdown).attend (.shutdown w.scheduler.nextCall) w.scheduler.nextCall
  simp only [World.finish, World.complete, World.launch, hcall, hrounds, h.moves_eq, hsame]
  exact hattend.await hplain _ _

end Alike

end World

end Courier.Timeline
