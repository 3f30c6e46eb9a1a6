import Mathlib.Data.Prod.Lex
import Courier.Proofs.Scheduler.Forward
/-!
How far a call is from its return.

A rung of the ladder of the waits, the claimants ahead in line, and what the cycle under way has left
to do, compared in this order.  No step takes a call farther from its return, and a step of somebody
it waits for takes it closer.
-/
namespace Courier

/-- How many steps a batch makes at most, where so many attempts are made. -/
def Stage.remaining (attempts : Nat) : Stage → Nat
  | .ready => 2 * attempts
  | .sending attempt => 2 * (attempts - attempt) + 1
  | .resting attempt _ => 2 * max 1 (attempts - attempt)
  | .settled _ _ | .panicked _ => 0

theorem Stage.remaining_of_finished (attempts : Nat) {stage : Stage}
    (hfinished : stage.finished = true) : stage.remaining attempts = 0 := by
  cases stage with
  | ready | sending attempt | resting attempt pause => cases hfinished
  | settled attempts outcome | panicked panic => rfl

theorem Stage.Next.remaining_lt {attempts : Nat} (hattempts : 0 < attempts) {stage stage' : Stage}
    (h : stage.Next attempts stage') : stage'.remaining attempts < stage.remaining attempts := by
  cases h with
  | first => simp only [Stage.remaining]; omega
  | again attempt pause => simp only [Stage.remaining]; omega
  | rest attempt pause hleft => simp only [Stage.remaining]; omega
  | final attempt last hfinished =>
      rw [remaining_of_finished attempts hfinished]
      exact Nat.succ_pos _

theorem Backoff.attempts_pos (b : Backoff) : 0 < b.attempts :=
  Nat.lt_of_lt_of_le Nat.one_pos (Nat.le_max_right _ _)

namespace Scheduler

/-- A list with a smaller number in one place has a smaller sum. -/
theorem sum_map_set_lt {α : Type} {f : α → Nat} {l : List α} {i : Nat} {a b : α}
    (ha : l[i]? = some a) (hlt : f b < f a) : ((l.set i b).map f).sum < (l.map f).sum := by
  induction l generalizing i with
  | nil => cases ha
  | cons x l ih =>
      cases i with
      | zero =>
          cases ha
          simpa using hlt
      | succ i => simpa using ih ha

theorem findIdx_congr {α : Type} {p q : α → Bool} {l : List α} (h : ∀ x ∈ l, p x = q x) :
    l.findIdx p = l.findIdx q := by
  induction l with
  | nil => rfl
  | cons x l ih =>
      rw [List.forall_mem_cons] at h
      rw [List.findIdx_cons, List.findIdx_cons, h.1, ih h.2]

/-- A rung of the ladder of the waits, and a place on it. -/
def rung (level : Nat) (place : ℕ ×ₗ ℕ := toLex (0, 0)) : ℕ ×ₗ ℕ ×ₗ ℕ :=
  toLex (level, place)

theorem rung_lt_of_level {level level' : Nat} (hlt : level' < level) (place place' : ℕ ×ₗ ℕ) :
    rung level' place' < rung level place :=
  Prod.Lex.toLex_lt_toLex.mpr (Or.inl hlt)

theorem rung_lt_of_place (level : Nat) {place place' : ℕ ×ₗ ℕ} (hlt : place' < place) :
    rung level place' < rung level place :=
  Prod.Lex.toLex_lt_toLex.mpr (Or.inr ⟨rfl, hlt⟩)

namespace State

/-- What the cycle under way has left to do. -/
def remaining (attempts : Nat) (s : State) : Nat :=
  match s.cycle with
  | none => 0
  | some cycle => (cycle.deliveries.map fun d => d.stage.remaining attempts).sum

/-- How many are in line ahead of somebody, those that have not begun their cycle counting twice, and
what the cycle under way has left to do. -/
def ahead (attempts : Nat) (s : State) (who : Claimant → Bool) : ℕ ×ₗ ℕ :=
  toLex (2 * s.line.findIdx who + (if s.cycle.isNone then 1 else 0), s.remaining attempts)

/-- How far the timer is from its end. -/
def timerDistance (attempts : Nat) (s : State) : ℕ ×ₗ ℕ ×ₗ ℕ :=
  match s.timer with
  | .busy _ => rung 6 (s.ahead attempts (·.party == .timer))
  | .armed _ => rung 5
  | .absent | .ended | .crashed => rung 4

/-- How far the scheduler is from being stopped, once a shutdown has begun. -/
def stopDistance (attempts : Nat) (s : State) : ℕ ×ₗ ℕ ×ₗ ℕ :=
  if s.phase = .stopped then rung 1
  else if s.calls.any Call.isClosing then rung 2
  else if s.line.any Claimant.isShutdown then rung 3 (s.ahead attempts Claimant.isShutdown)
  else s.timerDistance attempts

/-- How far a call is from its return. -/
def callDistance (attempts : Nat) (s : State) (call : Nat) : ℕ ×ₗ ℕ ×ₗ ℕ :=
  match s.calls[call]? with
  | some .inLine => rung 3 (s.ahead attempts (·.party == .call call))
  | some .awaitingTimer => s.timerDistance attempts
  | some (.closing _) => rung 2
  | some .awaitingStop => s.stopDistance attempts
  | some (.flushed _) | some .finished | some .abandoned | none => rung 0

/-- How far somebody is from being done. -/
def distance (attempts : Nat) (s : State) : Party → ℕ ×ₗ ℕ ×ₗ ℕ
  | .timer => s.timerDistance attempts
  | .call number => s.callDistance attempts number
  | .batch place =>
    rung 0 (toLex (0, ((s.delivery? place).map fun d => d.stage.remaining attempts).getD 0))

end State

/-- What a step does to the line and to the cycle of its head. -/
inductive LineStep (attempts : Nat) (s s' : State) : Prop
  | grown (more : List Claimant) (hline : s'.line = s.line ++ more) (hcycle : s'.cycle = s.cycle)
  | begun (hline : s'.line = s.line) (hcycle : s.cycle = none) (hcycle' : s'.cycle.isSome = true)
  | advanced (hline : s'.line = s.line) (hcycle : s'.cycle.isNone = s.cycle.isNone)
      (hlt : s'.remaining attempts < s.remaining attempts)
  | returned (owner : Claimant) (rest : List Claimant) (hline : s.line = owner :: rest)
      (hline' : s'.line = rest) (hcycle' : s'.cycle = none)

theorem State.lineStep_advance {attempts : Nat} (hattempts : 0 < attempts) {s : State}
    {cycle : Cycle} {place : Nat} {d d' : Delivery} (hcycle : s.cycle = some cycle)
    (hd : cycle.deliveries[place]? = some d) (hnext : d.stage.Next attempts d'.stage) :
    LineStep attempts s
      { s with cycle := some { cycle with deliveries := cycle.deliveries.set place d' } } := by
  refine .advanced rfl (by rw [hcycle]; rfl) ?_
  simp only [State.remaining, hcycle]
  exact sum_map_set_lt hd (hnext.remaining_lt hattempts)

theorem Turn.lineStep {settings : Settings} {s s' : State} {action : Action}
    {effects : List Effect} (hturn : Turn settings s action s' effects) :
    LineStep settings.channel.backoff.attempts s s' := by
  have hpos := settings.channel.backoff.attempts_pos
  have hstill : ∀ {s' : State}, s'.line = s.line → s'.cycle = s.cycle →
      LineStep settings.channel.backoff.attempts s s' := fun hline hcycle =>
    .grown [] (hline.trans (List.append_nil _).symm) hcycle
  cases hturn with
  | flushQueued hphase => exact .grown [.flush _] rfl rfl
  | tick due now htimer hphase hdue => exact .grown [.timer] rfl rfl
  | beginCycle owner rest now hline hcycle hsome => exact .begun rfl hcycle rfl
  | emptyCycle owner rest now hline hcycle hnone =>
      exact .returned owner rest hline (State.line_finishCycle ..) (State.cycle_finishCycle ..)
  | resume cycle place d d' effects hcycle hd hresume =>
      exact State.lineStep_advance hpos hcycle hd (Delivery.next_of_resume _ hresume)
  | receive cycle place answer draw d d' effects hcycle hd hreceive =>
      exact State.lineStep_advance hpos hcycle hd (Delivery.next_of_receive hreceive)
  | endCycle owner rest cycle now hline hcycle hfinished =>
      exact .returned owner rest hline (State.line_finishCycle ..) (State.cycle_finishCycle ..)
  | timerGone call hcall htimer => exact .grown [.shutdown call] rfl rfl
  | _ => exact hstill rfl rfl

section Ahead

variable {attempts : Nat} {s s' : State} {who : Claimant → Bool}

theorem State.ahead_congr {who' : Claimant → Bool} (h : ∀ x ∈ s.line, who x = who' x) :
    s.ahead attempts who = s.ahead attempts who' := by
  rw [State.ahead, State.ahead, findIdx_congr h]

/-- Whoever gets in line stands behind those who are there. -/
theorem State.ahead_of_grown {more : List Claimant} (hwho : ∃ x ∈ s.line, who x = true)
    (hline : s'.line = s.line ++ more) (hcycle : s'.cycle = s.cycle) :
    s'.ahead attempts who = s.ahead attempts who := by
  have hlt : s.line.findIdx who < s.line.length := List.findIdx_lt_length.mpr hwho
  simp only [State.ahead, State.remaining, hcycle, hline, List.findIdx_append, if_pos hlt]

/-- Whoever stays in line comes closer with every step that does more than to let somebody in. -/
theorem LineStep.grown_or_lt (h : LineStep attempts s s')
    (hhead : ∀ owner, s.line = owner :: s'.line → who owner = false) :
    (∃ more, s'.line = s.line ++ more ∧ s'.cycle = s.cycle) ∨
      s'.ahead attempts who < s.ahead attempts who := by
  cases h with
  | grown more hline hcycle => exact Or.inl ⟨more, hline, hcycle⟩
  | begun hline hcycle hcycle' =>
      refine Or.inr (Prod.Lex.toLex_lt_toLex.mpr (Or.inl ?_))
      simp [hline, hcycle, Option.isNone_eq_false_iff.mpr hcycle']
  | advanced hline hcycle hlt =>
      refine Or.inr (Prod.Lex.toLex_lt_toLex.mpr (Or.inr ⟨?_, hlt⟩))
      simp only [hline, hcycle]
  | returned owner rest hline hline' hcycle' =>
      refine Or.inr (Prod.Lex.toLex_lt_toLex.mpr (Or.inl ?_))
      rw [hline, hline', hcycle', List.findIdx_cons, hhead owner (hline' ▸ hline)]
      simp only [cond_false, Option.isNone_none, if_true]
      omega

end Ahead

end Scheduler

end Courier
