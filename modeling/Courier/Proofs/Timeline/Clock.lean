import Courier.Proofs.Delivery.Journey
import Courier.Timeline.Attempts
/-!
A batch on the clock.

What the far end does from one call on is what the batch meets, and its calls come at the times that
the answers and the pauses between them make.
-/
namespace Courier.Timeline

namespace FarEnd

/-- What a batch meets that is sent after some calls. -/
def outlook (farEnd : FarEnd) (draw : Draw) (batch : List Event) (call : Nat) : Outlook where
  answer attempt := ((farEnd.turn (call + (attempt - 1))).respond batch).1
  draw _ := draw

/-- The time of the answer to a call that is made at some time. -/
def answerTime (farEnd : FarEnd) (call now : Nat) : Nat := now + (farEnd.turn call).delay

/-- The time of the next call of a batch, after the first one at `now` and some more. -/
def callTime (farEnd : FarEnd) (pause : Nat → Duration) (call now : Nat) : Nat → Nat
  | 0 => now
  | made + 1 =>
    wakeAfter (farEnd.answerTime (call + made) (farEnd.callTime pause call now made))
      (pause (made + 1))

end FarEnd

namespace Attempts

variable {b : Backoff} {draw : Draw} {farEnd : FarEnd} {batch : List Event} {call now : Nat}
  {pause : Nat → Duration}

/-- The last attempt ends the sending, and so does an answer that ends the delivery. -/
theorem go_of_finished (b : Backoff) (draw : Draw) (now left attempt : Nat) {answer : Answer}
    {said : List Log.Record}
    (hrespond : (farEnd.turn call).respond batch = (answer, said))
    (hlast : left = 0 ∨ (b.after draw attempt answer).finished = true) :
    go b draw farEnd batch left call now attempt =
      ⟨b.after draw attempt answer, farEnd.answerTime call now, [now], said⟩ := by
  unfold go
  simp only [hrespond]
  rcases hlast with rfl | hfinished
  · cases b.after draw attempt answer <;> rfl
  · cases hstage : b.after draw attempt answer with
    | settled | panicked => rfl
    | ready | sending | resting => simp [hstage, Stage.finished] at hfinished

theorem go_of_resting {left attempt : Nat} {answer : Answer} {said : List Log.Record}
    {rest : Duration} {later : Attempts}
    (hrespond : (farEnd.turn call).respond batch = (answer, said))
    (hstage : b.after draw attempt answer = .resting attempt rest)
    (hlater : go b draw farEnd batch left (call + 1)
      (wakeAfter (farEnd.answerTime call now) rest) (attempt + 1) = later) :
    go b draw farEnd batch (left + 1) call now attempt =
      { later with
        calls := now :: later.calls
        records := said ++ b.retryRecord attempt rest answer :: later.records } := by
  rw [go]
  simp only [hrespond, hstage]
  rw [← hlater]
  rfl

/-- With the last attempt the sending has come to its end. -/
theorem finished_go (b : Backoff) (draw : Draw) (farEnd : FarEnd) (batch : List Event)
    {left attempt : Nat} (hleft : b.attempts ≤ attempt + left) (call now : Nat) :
    (go b draw farEnd batch left call now attempt).stage.finished = true := by
  induction left generalizing attempt call now with
  | zero =>
      have hfinished : (b.after draw attempt ((farEnd.turn call).respond batch).1).finished = true :=
        Backoff.finished_after (Or.inr hleft)
      rw [go_of_finished b draw now 0 attempt rfl (Or.inl rfl)]
      exact hfinished
  | succ left ih =>
      rcases b.after_cases draw attempt ((farEnd.turn call).respond batch).1 with
        ⟨rest, hresting⟩ | hfinished
      · rw [go_of_resting rfl hresting rfl]
        exact ih (by omega) _ _
      · rw [go_of_finished b draw now (left + 1) attempt rfl (Or.inr hfinished)]
        exact hfinished

/-- A batch is sent until it has a final outcome or its sending panics. -/
theorem finished_run (b : Backoff) (draw : Draw) (farEnd : FarEnd) (batch : List Event)
    (call now : Nat) : (run b draw farEnd batch call now).stage.finished = true :=
  finished_go b draw farEnd batch (by omega) call now

/-- What a batch that was sent came to is the final outcome it reached, or its panic. -/
theorem outcome?_run (b : Backoff) (draw : Draw) (farEnd : FarEnd) (batch : List Event)
    (call now : Nat) :
    (∃ attempts outcome,
      (run b draw farEnd batch call now).stage = .settled attempts outcome ∧
      (run b draw farEnd batch call now).outcome? = .ok (outcome, attempts)) ∨
    ∃ panic,
      (run b draw farEnd batch call now).stage = .panicked panic ∧
      (run b draw farEnd batch call now).outcome? = .error panic := by
  have hfinished := finished_run b draw farEnd batch call now
  cases hstage : (run b draw farEnd batch call now).stage with
  | settled attempts outcome => exact Or.inl ⟨attempts, outcome, rfl, by simp [outcome?, hstage]⟩
  | panicked panic => exact Or.inr ⟨panic, rfl, by simp [outcome?, hstage]⟩
  | ready | sending | resting => simp [hstage, Stage.finished] at hfinished

/-- After some attempts the sending goes on up to the decisive one, with a pause before each call. -/
theorem go_eq (hjitter : b.jitter ≠ .nan)
    (hpause : ∀ attempt, b.delayFor draw attempt = .ok (pause attempt)) (now : Nat)
    {made left : Nat}
    (hleft : made + left + 1 = b.attempts) {decisive : Nat}
    (hdecisive : b.decisive (farEnd.outlook draw batch call) = decisive)
    (hmade : made < decisive) :
    ∃ records, go b draw farEnd batch left (call + made) (farEnd.callTime pause call now made)
        (made + 1) =
      ⟨b.verdict (farEnd.outlook draw batch call) decisive,
        farEnd.answerTime (call + (decisive - 1)) (farEnd.callTime pause call now (decisive - 1)),
        (List.range' made (decisive - made)).map (farEnd.callTime pause call now), records⟩ := by
  have hle : decisive ≤ b.attempts := hdecisive ▸ (b.decisive_spec _).2.1
  have hrespond : ∀ made, (farEnd.turn (call + made)).respond batch =
      ((farEnd.outlook draw batch call).answer (made + 1),
        ((farEnd.turn (call + made)).respond batch).2) := fun _ => rfl
  have hcalls : ∀ made, made < decisive →
      List.range' made (decisive - made) =
        made :: List.range' (made + 1) (decisive - (made + 1)) := by
    intro made hmade
    rw [← List.range'_succ, ← Nat.sub_sub, Nat.sub_add_cancel (Nat.sub_pos_of_lt hmade)]
  induction left generalizing made with
  | zero =>
      obtain rfl : decisive = made + 1 := by omega
      have hgo := go_of_finished b draw (farEnd.callTime pause call now made) 0 (made + 1)
        (hrespond made) (Or.inl rfl)
      exact ⟨_, by rw [hgo, hcalls made hmade, Nat.sub_self]; rfl⟩
  | succ left ih =>
      rcases Nat.lt_or_ge (made + 1) decisive with hlt | hge
      · obtain ⟨rest, hrest, hresting⟩ := Backoff.verdict_of_lt hjitter (Nat.le_add_left 1 made)
          (show made + 1 < b.decisive (farEnd.outlook draw batch call) from hdecisive ▸ hlt)
        obtain rfl : rest = pause (made + 1) :=
          Except.ok.inj (hrest.symm.trans (hpause (made + 1)))
        have hnext : made + 1 + left + 1 = b.attempts := by omega
        obtain ⟨records, hlater⟩ := ih hnext hlt
        have hgo := go_of_resting (hrespond made) hresting hlater
        exact ⟨_, by rw [hcalls made hmade]; exact hgo⟩
      · obtain rfl : decisive = made + 1 := by omega
        have hfinished := b.finished_verdict (farEnd.outlook draw batch call)
        rw [hdecisive] at hfinished
        have hgo := go_of_finished b draw (farEnd.callTime pause call now made) (left + 1)
          (made + 1) (hrespond made) (Or.inr hfinished)
        exact ⟨_, by rw [hcalls made hmade, Nat.sub_self]; exact hgo⟩

theorem run_eq (hjitter : b.jitter ≠ .nan)
    (hpause : ∀ attempt, b.delayFor draw attempt = .ok (pause attempt)) (now : Nat)
    {outlook : Outlook} (houtlook : farEnd.outlook draw batch call = outlook) :
    ∃ records, run b draw farEnd batch call now =
      ⟨b.verdict outlook (b.decisive outlook),
        farEnd.answerTime (call + (b.decisive outlook - 1))
          (farEnd.callTime pause call now (b.decisive outlook - 1)),
        (List.range (b.decisive outlook)).map (farEnd.callTime pause call now), records⟩ := by
  subst houtlook
  have hone : 1 ≤ b.attempts := Nat.le_max_right _ _
  have hattempts : 0 + (b.attempts - 1) + 1 = b.attempts := by omega
  have hgo := go_eq hjitter hpause now hattempts rfl
    (b.decisive_spec (farEnd.outlook draw batch call)).1
  rwa [Nat.sub_zero, ← List.range_eq_range'] at hgo

end Attempts

/-- A batch with a final outcome is dispatched with it. -/
theorem Dispatch.run_of_settled {channel : Channel} {draw : Draw} {farEnd : FarEnd}
    {batch : List Event} {call now attempts : Nat} {outcome : Outcome} {time : Nat}
    {calls : List Nat} {records : List Log.Record}
    (hrun : Attempts.run channel.backoff draw farEnd batch call now =
      ⟨.settled attempts outcome, time, calls, records⟩) :
    run channel draw farEnd call now [batch] =
      (records.map .logged ++ channel.conclude batch attempts outcome,
        .ok [⟨attempts, outcome, time, calls,
          records.map .logged ++ channel.conclude batch attempts outcome⟩]) := by
  simp [run, hrun, Attempts.outcome?, Attempts.conclusion, Except.map]

end Courier.Timeline
