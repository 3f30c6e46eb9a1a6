import Courier.Proofs.Scheduler.Unattended
import Courier.Proofs.Timeline.Alike
/-!
What is due is up to the scheduler.

A world that gives turns to the timer and to calls makes no steps but those that the scheduler, its timer
and the transport make among themselves, each of them possible at the moment at which it is made.
-/
namespace Courier.Timeline

open Scheduler (Action Claimant Moment Settings)

namespace World

variable {settings : Settings} {m m' : Moment} {w : World}

theorem inner_of_dueBatch? {deliveries : List Delivery} {action : Action}
    (h : w.dueBatch? deliveries = some action) : action.inner = true := by
  obtain ⟨⟨⟨delivery, wait⟩, position⟩, _, hdue⟩ := List.exists_of_findSome?_eq_some h
  dsimp only at hdue
  split_ifs at hdue
  cases hanswer : wait.answer <;> rw [hanswer] at hdue <;> cases hdue <;> rfl

theorem inner_of_dueCycle? {action : Action} (h : w.dueCycle? = some action) :
    action.inner = true := by
  unfold dueCycle? at h
  split at h
  · cases h
    rfl
  · split at h
    · next hbatch =>
        cases h
        exact inner_of_dueBatch? hbatch
    · split at h <;> cases h
      rfl

/-- Whatever is due is a step of the scheduler's own. -/
theorem inner_of_due? {claimant : Claimant} {action : Action}
    (h : w.due? claimant = some action) : action.inner = true := by
  unfold due? at h
  split at h
  · exact inner_of_dueCycle? h
  · cases claimant with
    | timer =>
        simp only [dueTimer?] at h
        repeat' split at h
        all_goals cases h
        all_goals rfl
    | flush call | shutdown call =>
        simp only [dueCall?] at h
        repeat' split at h
        all_goals cases h
        all_goals rfl

/-- The scheduler of a world stands at a moment of a run. -/
structure At (settings : Settings) (m : Moment) (w : World) : Prop where
  settings : w.settings = settings
  scheduler : w.scheduler = m.state

/-- The scheduler has gone on by itself from one moment to another. -/
abbrev Alone (settings : Settings) : Moment → Moment → Prop :=
  Relation.ReflTransGen fun m m' =>
    ∃ action : Action, action.inner = true ∧ m.next? settings action = some m'

/-- The scheduler of a world has come by itself from a moment to where it stands. -/
def Since (settings : Settings) (m : Moment) (w : World) : Prop :=
  ∃ m', Alone settings m m' ∧ At settings m' w

theorem At.next (h : At settings m w) {action : Action}
    (hnext : m.next? settings action = some m') : At settings m' (w.perform action) := by
  obtain ⟨⟨s, effects⟩, hstep, rfl⟩ := Option.map_eq_some_iff.mp hnext
  have hdone := performed_of_step (w := w) (by rw [h.settings, h.scheduler]; exact hstep)
  exact ⟨hdone.after.settings.trans h.settings, hdone.scheduler⟩

theorem At.does (h : At settings m w) (effects : List Effect) : At settings m (w.does effects) :=
  ⟨h.settings, h.scheduler⟩

theorem At.since (h : At settings m w) : Since settings m w := ⟨m, .refl, h⟩

namespace Since

theorem perform (h : Since settings m w) {action : Action} (hinner : action.inner = true) :
    Since settings m (w.perform action) := by
  obtain ⟨m', halone, hat⟩ := h
  cases hnext : m'.next? settings action with
  | some m'' => exact ⟨m'', halone.tail ⟨action, hinner, hnext⟩, hat.next hnext⟩
  | none =>
      have hstep : Scheduler.step w.settings w.scheduler action = none := by
        rw [hat.settings, hat.scheduler]
        exact Option.map_eq_none_iff.mp hnext
      rw [World.perform, hstep]
      exact ⟨m', halone, hat⟩

theorem turnOf (h : Since settings m w) (claimant : Claimant) (fuel : Nat) :
    Since settings m (World.turnOf claimant fuel w) := by
  induction fuel generalizing w with
  | zero => exact h
  | succ fuel ih =>
      rw [World.turnOf]
      cases hdue : w.due? claimant with
      | none => exact h
      | some action => exact ih (h.perform (inner_of_due? hdue))

theorem give (h : Since settings m w) (claimant : Claimant) :
    Since settings m (w.give claimant) :=
  h.turnOf claimant _

theorem attend (h : Since settings m w) (claimant : Claimant) (call : Nat) :
    Since settings m (w.attend claimant call).1 ∧ (w.attend claimant call).2.isPlain = true := by
  have hgive := h.give claimant
  rw [World.attend]
  split <;> exact ⟨hgive, rfl⟩

theorem poll (h : Since settings m w) {task : Task} (htask : task.isPlain = true) :
    Since settings m (w.poll task).1 ∧ (w.poll task).2.isPlain = true := by
  cases task with
  | finished result => exact ⟨h, rfl⟩
  | calling claimant =>
      cases claimant with
      | timer => exact ⟨h, rfl⟩
      | flush call => exact h.attend _ _
      | shutdown call => exact h.attend _ _
  | asleep | limited | joint => cases htask

/-- While a call is waited for, the scheduler goes on by itself. -/
theorem await (h : Since settings m w) {task : Task} (htask : task.isPlain = true)
    (fuel seen : Nat) : Since settings m (World.await fuel seen w task).1 := by
  induction fuel generalizing w task seen with
  | zero => exact h
  | succ fuel ih =>
      rw [World.await]
      split
      · exact h
      · have htimer := h.give .timer
        dsimp only
        split
        · have hpoll := htimer.poll htask
          exact ih hpoll.1 hpoll.2 _
        · split
          · exact htimer
          · next time _ =>
              have hlater : Since settings m { w.give .timer with now := time } := by
                obtain ⟨m', halone, hat⟩ := htimer
                exact ⟨m', halone, hat.settings, hat.scheduler⟩
              have hpoll := hlater.poll htask
              exact ih hpoll.1 hpoll.2 _

end Since

/-- A shutdown that is waited for begins, and from there the scheduler goes on by itself. -/
theorem At.shutdown (h : At settings m w) :
    ∃ m', m.next? settings .beginShutdown = some m' ∧
      Since settings m' (w.finish .shutdown).1 := by
  obtain ⟨m', hnext⟩ : ∃ m', m.next? settings .beginShutdown = some m' := ⟨_, rfl⟩
  obtain ⟨hattend, hcall⟩ :=
    (h.next hnext).since.attend (.shutdown w.scheduler.nextCall) w.scheduler.nextCall
  refine ⟨m', hnext, ?_⟩
  rw [World.finish, World.complete, World.launch]
  exact hattend.await hcall _ _

end World

end Courier.Timeline
