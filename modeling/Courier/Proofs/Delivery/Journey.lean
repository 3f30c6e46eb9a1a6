import Mathlib.Algebra.Ring.Parity
import Mathlib.Data.List.Basic
import Mathlib.Data.Nat.Find
import Courier.Proofs.Backoff.Pause
import Courier.Proofs.Delivery.Effects
/-!
A batch that has the transport for itself.

Its journey alternates between an attempt and the answer to it, and the answer to the decisive attempt
is the last thing that happens.  Which attempt this is depends on the answers alone.
-/
namespace Courier

/-- The same batch may be sent again after the answer. -/
def Answer.retryable : Answer → Bool
  | .outcome o => o.retryable
  | .failure _ => true
  | .panic _ => false

/-- What a batch meets: the answer to each attempt, and the draw for the pause after it.  Attempts are
counted from one. -/
structure Outlook where
  answer : Nat → Answer
  draw : Nat → Draw

namespace Backoff

/-- The attempt that decides: the first one whose answer does not allow another, or the last one. -/
def decisive (b : Backoff) (outlook : Outlook) : Nat :=
  ((List.range' 1 b.attempts).find? fun attempt => !(outlook.answer attempt).retryable).getD
    b.attempts

/-- Where the answer to an attempt leads. -/
def verdict (b : Backoff) (outlook : Outlook) (attempt : Nat) : Stage :=
  b.after (outlook.draw attempt) attempt (outlook.answer attempt)

variable {b : Backoff} {outlook : Outlook} {answer : Answer} {draw : Draw} {attempt : Nat}

/-- The decisive attempt is one of those that may be made.  Every attempt before it may be followed by
another, and it may not. -/
theorem decisive_spec (b : Backoff) (outlook : Outlook) :
    1 ≤ b.decisive outlook ∧ b.decisive outlook ≤ b.attempts ∧
      (∀ attempt, 1 ≤ attempt → attempt < b.decisive outlook →
        (outlook.answer attempt).retryable = true) ∧
      ((outlook.answer (b.decisive outlook)).retryable = false ∨
        b.attempts ≤ b.decisive outlook) := by
  have hattempts : 1 ≤ b.attempts := Nat.le_max_right _ _
  unfold decisive
  cases hfind : (List.range' 1 b.attempts).find? fun attempt =>
      !(outlook.answer attempt).retryable with
  | none =>
      refine ⟨hattempts, Nat.le_refl _, ?_, Or.inr (Nat.le_refl _)⟩
      intro attempt hfirst hlast
      have hlt : attempt < 1 + b.attempts := Nat.lt_add_left 1 hlast
      simpa using List.find?_range'_eq_none.mp hfind attempt hfirst hlt
  | some decisive =>
      obtain ⟨hstop, hmem, hbefore⟩ := List.find?_range'_eq_some.mp hfind
      obtain ⟨hfirst, hlast⟩ := List.mem_range'_1.mp hmem
      refine ⟨hfirst, by simpa using Nat.le_of_lt_add_one (Nat.add_comm 1 _ ▸ hlast), ?_,
        Or.inl (by simpa using hstop)⟩
      intro attempt hattempt hlt
      simpa using hbefore attempt hattempt hlt

/-- After an answer that allows it there is a pause, unless no attempt is left. -/
theorem after_of_retryable (hjitter : b.jitter ≠ .nan) (hretry : answer.retryable = true)
    (hlt : attempt < b.attempts) :
    ∃ pause, b.delayFor draw attempt = .ok pause ∧
      b.after draw attempt answer = .resting attempt pause := by
  obtain ⟨pause, hpause⟩ := exists_delayFor hjitter draw attempt
  have hleft : ¬b.attempts ≤ attempt := Nat.not_le_of_lt hlt
  refine ⟨pause, hpause, ?_⟩
  cases answer with
  | outcome outcome =>
      have houtcome : outcome.retryable = true := hretry
      simp [after, outcomeOf, afterOutcome, houtcome, hleft, hpause]
  | failure cause => simp [after, outcomeOf, afterOutcome, Outcome.retryable, hleft, hpause]
  | panic panic => cases hretry

/-- An outcome that does not allow another attempt is final. -/
theorem after_of_outcome {outcome : Outcome} (houtcome : outcomeOf answer = .ok outcome)
    (hfinal : answer.retryable = false ∨ b.attempts ≤ attempt) :
    b.after draw attempt answer = .settled attempt outcome := by
  have hstop : (!outcome.retryable || decide (b.attempts ≤ attempt)) = true := by
    rcases hfinal with hretry | hlast
    · cases answer with
      | outcome o =>
          cases houtcome
          simp [show outcome.retryable = false from hretry]
      | failure cause => cases hretry
      | panic panic => cases houtcome
    · simp [hlast]
  simp [after, houtcome, afterOutcome, hstop]

/-- An answer that does not allow another attempt ends the delivery. -/
theorem finished_after (hfinal : answer.retryable = false ∨ b.attempts ≤ attempt) :
    (b.after draw attempt answer).finished = true := by
  cases houtcome : outcomeOf answer with
  | error panic => simp [after, houtcome, Stage.finished]
  | ok outcome => rw [after_of_outcome houtcome hfinal]; rfl

theorem finished_verdict (b : Backoff) (outlook : Outlook) :
    (b.verdict outlook (b.decisive outlook)).finished = true :=
  finished_after (b.decisive_spec outlook).2.2.2

/-- An answer leads to a pause, or ends the delivery. -/
theorem after_cases (b : Backoff) (draw : Draw) (attempt : Nat) (answer : Answer) :
    (∃ pause, b.after draw attempt answer = .resting attempt pause) ∨
      (b.after draw attempt answer).finished = true := by
  unfold after afterOutcome
  split
  · exact Or.inr rfl
  · split
    · exact Or.inr rfl
    · split
      · exact Or.inr rfl
      · exact Or.inl ⟨_, rfl⟩

/-- Only for want of a pause an outcome that allows another attempt ends a delivery before the last
one. -/
theorem after_of_no_pause {outcome : Outcome} (hretry : outcome.retryable = true)
    (hlt : attempt < b.attempts)
    (hfinished : (b.after draw attempt (.outcome outcome)).finished = true) :
    b.jitter = .nan ∧ b.after draw attempt (.outcome outcome) = .panicked emptyRange := by
  have hleft : ¬b.attempts ≤ attempt := Nat.not_le_of_lt hlt
  cases hdelay : b.delayFor draw attempt with
  | error panic =>
      obtain ⟨hjitter, rfl⟩ := delayFor_eq_error hdelay
      exact ⟨hjitter, by simp [after, outcomeOf, afterOutcome, hretry, hleft, hdelay]⟩
  | ok pause =>
      simp [after, outcomeOf, afterOutcome, hretry, hleft, hdelay, Stage.finished] at hfinished

/-- A pause follows an answer that allows another attempt, and such an attempt is left. -/
theorem retryable_of_rests {pause : Duration}
    (hrests : b.after draw attempt answer = .resting attempt pause) :
    answer.retryable = true ∧ attempt < b.attempts := by
  by_contra hfinal
  have hfinished : (b.after draw attempt answer).finished = true := by
    apply finished_after
    rw [not_and_or, Bool.not_eq_true, Nat.not_lt] at hfinal
    exact hfinal
  rw [hrests] at hfinished
  cases hfinished

/-- Every delivery has a last attempt. -/
theorem exists_last (b : Backoff) (outlook : Outlook) :
    ∃ last, 1 ≤ last ∧ last ≤ b.attempts ∧ (b.verdict outlook last).finished = true ∧
      ∀ i, 1 ≤ i → i < last → ∃ pause, b.verdict outlook i = .resting i pause := by
  have hends : ∃ last, 1 ≤ last ∧ (b.verdict outlook last).finished = true :=
    ⟨b.attempts, Nat.le_max_right _ _, finished_after (Or.inr (Nat.le_refl _))⟩
  obtain ⟨hfirst, hfinished⟩ := Nat.find_spec hends
  have hle : Nat.find hends ≤ b.attempts :=
    Nat.find_min' hends ⟨Nat.le_max_right _ _, finished_after (Or.inr (Nat.le_refl _))⟩
  refine ⟨Nat.find hends, hfirst, hle, hfinished, ?_⟩
  intro i hi hlt
  exact (b.after_cases _ i _).resolve_right fun hover => Nat.find_min hends hlt ⟨hi, hover⟩

/-- Before the decisive attempt every answer leads to a pause. -/
theorem verdict_of_lt (hjitter : b.jitter ≠ .nan) (hfirst : 1 ≤ attempt)
    (hlt : attempt < b.decisive outlook) :
    ∃ pause, b.delayFor (outlook.draw attempt) attempt = .ok pause ∧
      b.verdict outlook attempt = .resting attempt pause := by
  obtain ⟨_, hle, hretry, _⟩ := b.decisive_spec outlook
  exact after_of_retryable hjitter (hretry attempt hfirst hlt) (Nat.lt_of_lt_of_le hlt hle)

end Backoff

/-- What is done about an answer that leads to a stage. -/
def Channel.echo (channel : Channel) (batch : List Event) (answer : Answer) :
    Stage → List Effect
  | .resting attempt pause => [.logged (channel.backoff.retryRecord attempt pause answer)]
  | .settled attempts outcome => channel.conclude batch attempts outcome
  | _ => []

theorem Channel.quiet_echo (channel : Channel) (batch : List Event) (answer : Answer)
    (stage : Stage) : Effect.Quiet (channel.echo batch answer stage) := by
  cases stage with
  | settled attempts outcome => exact channel.quiet_conclude batch attempts outcome
  | _ => simp [echo, Effect.callsTransport]

namespace Delivery

theorem receive_sending (channel : Channel) (batch : List Event) (attempt : Nat) (draw : Draw)
    (answer : Answer) :
    (⟨batch, .sending attempt⟩ : Delivery).receive channel draw answer =
      some (⟨batch, channel.backoff.after draw attempt answer⟩,
        channel.echo batch answer (channel.backoff.after draw attempt answer)) := by
  cases hstage : channel.backoff.after draw attempt answer <;>
    simp [receive, Channel.echo, hstage]

/-- The next step of a delivery, given what it meets. -/
def next? (d : Delivery) (channel : Channel) (outlook : Outlook) :
    Option (Delivery × List Effect) :=
  match d.stage with
  | .sending attempt => d.receive channel (outlook.draw attempt) (outlook.answer attempt)
  | _ => d.resume

variable {channel : Channel} {outlook : Outlook} {d d' : Delivery} {effects : List Effect}

/-- Whoever has a pause behind it, or no attempt, goes on by sending. -/
theorem next?_of_resume (hresume : d.resume = some (d', effects)) :
    d.next? channel outlook = some (d', effects) := by
  obtain ⟨batch, stage⟩ := d
  cases stage with
  | sending attempt => cases hresume
  | _ => exact hresume

/-- Without jitter an attempt under way goes on with its answer, whatever is drawn. -/
theorem next?_of_receive (hjitter : channel.backoff.jitter.isZero = true) {draw : Draw}
    {answer : Answer}
    (hanswer : ∀ attempt, d.stage = .sending attempt → answer = outlook.answer attempt)
    (hreceive : d.receive channel draw answer = some (d', effects)) :
    d.next? channel outlook = some (d', effects) := by
  obtain ⟨batch, stage⟩ := d
  cases stage with
  | sending attempt =>
      have hafter : ∀ draw', channel.backoff.after draw' attempt answer =
          channel.backoff.after draw attempt answer := by
        intro draw'
        simp only [Backoff.after, Backoff.afterOutcome, Backoff.delayFor_of_isZero hjitter]
      rw [receive_sending] at hreceive
      obtain rfl : answer = outlook.answer attempt := hanswer attempt rfl
      rw [← hreceive, ← hafter (outlook.draw attempt)]
      exact receive_sending channel batch attempt (outlook.draw attempt) (outlook.answer attempt)
  | _ => cases hreceive

theorem batch_of_next? (hnext : d.next? channel outlook = some (d', effects)) :
    d'.batch = d.batch := by
  unfold next? at hnext
  split at hnext
  · exact (receive_eq_some hnext).1
  · exact (resume_eq_some hnext).2.1

theorem next?_of_finished {d : Delivery} (hfinished : d.stage.finished = true)
    (channel : Channel) (outlook : Outlook) : d.next? channel outlook = none := by
  obtain ⟨batch, stage⟩ := d
  cases stage <;> first | rfl | cases hfinished

end Delivery

/-- A delivery with the stages it went through, the present one last, and what was done about it. -/
structure Journey where
  delivery : Delivery
  stages : List Stage := []
  deeds : List Effect := []

namespace Journey

variable {channel : Channel} {outlook : Outlook} {batch : List Event}

/-- The journey goes on for a step, if it is not over. -/
def next (channel : Channel) (outlook : Outlook) (j : Journey) : Journey :=
  match j.delivery.next? channel outlook with
  | some (d, effects) => ⟨d, j.stages ++ [d.stage], j.deeds ++ effects⟩
  | none => j

theorem next_of_some {j : Journey} {d : Delivery} {effects : List Effect}
    (hnext : j.delivery.next? channel outlook = some (d, effects)) :
    j.next channel outlook = ⟨d, j.stages ++ [d.stage], j.deeds ++ effects⟩ := by
  rw [next, hnext]

theorem next_of_finished {j : Journey} (hfinished : j.delivery.stage.finished = true) :
    j.next channel outlook = j := by
  rw [next, Delivery.next?_of_finished hfinished]

/-- The journey of a batch after some steps. -/
def after (channel : Channel) (outlook : Outlook) (batch : List Event) : Nat → Journey
  | 0 => { delivery := .start batch }
  | n + 1 => (after channel outlook batch n).next channel outlook

/-- The journey of a batch up to the answer to an attempt. -/
def upTo (channel : Channel) (outlook : Outlook) (batch : List Event) (attempt : Nat) : Journey where
  delivery := ⟨batch, if attempt = 0 then .ready else channel.backoff.verdict outlook attempt⟩
  stages := (List.range' 1 attempt).flatMap fun i => [.sending i, channel.backoff.verdict outlook i]
  deeds := (List.range' 1 attempt).flatMap fun i =>
    Delivery.send batch
      ++ channel.echo batch (outlook.answer i) (channel.backoff.verdict outlook i)

theorem rests_upTo (hjitter : channel.backoff.jitter ≠ .nan) {attempt : Nat}
    (hlt : attempt < channel.backoff.decisive outlook) :
    attempt = 0 ∨ ∃ pause, channel.backoff.verdict outlook attempt = .resting attempt pause := by
  rcases Nat.eq_zero_or_pos attempt with hzero | hpos
  · exact Or.inl hzero
  · obtain ⟨pause, _, hverdict⟩ := Backoff.verdict_of_lt hjitter hpos hlt
    exact Or.inr ⟨pause, hverdict⟩

/-- After a pause the batch is sent once more. -/
theorem next_upTo {attempt : Nat}
    (hrests : attempt = 0 ∨
      ∃ pause, channel.backoff.verdict outlook attempt = .resting attempt pause) :
    (upTo channel outlook batch attempt).next channel outlook =
      ⟨⟨batch, .sending (attempt + 1)⟩,
        (upTo channel outlook batch attempt).stages ++ [.sending (attempt + 1)],
        (upTo channel outlook batch attempt).deeds ++ Delivery.send batch⟩ := by
  apply next_of_some
  rcases hrests with rfl | ⟨pause, hpause⟩
  · rfl
  · by_cases hzero : attempt = 0
    · subst hzero
      rfl
    · simp [upTo, hzero, hpause, Delivery.next?, Delivery.resume]

theorem next_next_upTo {attempt : Nat}
    (hrests : attempt = 0 ∨
      ∃ pause, channel.backoff.verdict outlook attempt = .resting attempt pause) :
    ((upTo channel outlook batch attempt).next channel outlook).next channel outlook =
      upTo channel outlook batch (attempt + 1) := by
  have hreceive : (⟨batch, .sending (attempt + 1)⟩ : Delivery).next? channel outlook =
      some (⟨batch, channel.backoff.verdict outlook (attempt + 1)⟩,
        channel.echo batch (outlook.answer (attempt + 1))
          (channel.backoff.verdict outlook (attempt + 1))) :=
    Delivery.receive_sending channel batch (attempt + 1) _ _
  rw [next_upTo hrests, next_of_some hreceive]
  simp [upTo, List.range'_1_concat, Nat.add_comm 1 attempt]

/-- An attempt and its answer are two steps, as long as every answer leads to a pause. -/
theorem after_of_rests {attempt : Nat}
    (hrests : ∀ i, 1 ≤ i → i < attempt →
      ∃ pause, channel.backoff.verdict outlook i = .resting i pause) :
    after channel outlook batch (2 * attempt) = upTo channel outlook batch attempt := by
  induction attempt with
  | zero => rfl
  | succ attempt ih =>
      have hlast : attempt = 0 ∨
          ∃ pause, channel.backoff.verdict outlook attempt = .resting attempt pause := by
        rcases Nat.eq_zero_or_pos attempt with hzero | hpos
        · exact Or.inl hzero
        · exact Or.inr (hrests attempt hpos (Nat.lt_succ_self _))
      have hearlier := ih fun i hfirst hlt => hrests i hfirst (Nat.lt_succ_of_lt hlt)
      rw [show 2 * (attempt + 1) = 2 * attempt + 1 + 1 from rfl, after, after, hearlier,
        next_next_upTo hlast]

theorem after_two_mul (hjitter : channel.backoff.jitter ≠ .nan) {attempt : Nat}
    (hle : attempt ≤ channel.backoff.decisive outlook) :
    after channel outlook batch (2 * attempt) = upTo channel outlook batch attempt := by
  apply after_of_rests
  intro i hfirst hlt
  obtain ⟨pause, _, hverdict⟩ :=
    Backoff.verdict_of_lt hjitter hfirst (Nat.lt_of_lt_of_le hlt hle)
  exact ⟨pause, hverdict⟩

/-- With the answer to the decisive attempt the journey is over. -/
theorem after_of_le (hjitter : channel.backoff.jitter ≠ .nan) (batch : List Event) {n : Nat}
    (hn : 2 * channel.backoff.decisive outlook ≤ n) :
    after channel outlook batch n =
      upTo channel outlook batch (channel.backoff.decisive outlook) := by
  have hfinished : (upTo channel outlook batch
      (channel.backoff.decisive outlook)).delivery.stage.finished = true := by
    have hpos := (channel.backoff.decisive_spec outlook).1
    simpa [upTo, Nat.ne_of_gt hpos] using channel.backoff.finished_verdict outlook
  obtain ⟨more, rfl⟩ := Nat.exists_eq_add_of_le hn
  induction more with
  | zero => exact after_two_mul hjitter (Nat.le_refl _)
  | succ more ih => rw [← Nat.add_assoc, after, ih (Nat.le_add_right _ _), next_of_finished hfinished]

/-- After any number of steps an answer is just there, or an attempt is under way. -/
theorem after_cases (hjitter : channel.backoff.jitter ≠ .nan) (batch : List Event) (n : Nat) :
    (∃ attempt ≤ channel.backoff.decisive outlook,
      after channel outlook batch n = upTo channel outlook batch attempt) ∨
    ∃ attempt < channel.backoff.decisive outlook,
      (after channel outlook batch n).delivery = ⟨batch, .sending (attempt + 1)⟩ := by
  rcases Nat.lt_or_ge n (2 * channel.backoff.decisive outlook) with hlt | hge
  · rcases n.even_or_odd' with ⟨attempt, rfl | rfl⟩
    · have hle : attempt ≤ channel.backoff.decisive outlook := by omega
      exact Or.inl ⟨attempt, hle, after_two_mul hjitter hle⟩
    · have hattempt : attempt < channel.backoff.decisive outlook := by omega
      refine Or.inr ⟨attempt, hattempt, ?_⟩
      rw [after, after_two_mul hjitter (Nat.le_of_lt hattempt),
        next_upTo (rests_upTo hjitter hattempt)]
  · exact Or.inl ⟨_, Nat.le_refl _, after_of_le hjitter batch hge⟩

/-- A journey is over with the decisive attempt. -/
theorem finished_after (hjitter : channel.backoff.jitter ≠ .nan) (batch : List Event) {n : Nat}
    (hn : 2 * channel.backoff.decisive outlook ≤ n) :
    (after channel outlook batch n).delivery.stage.finished = true := by
  have hpos := (channel.backoff.decisive_spec outlook).1
  rw [after_of_le hjitter batch hn, upTo, if_neg (Nat.ne_of_gt hpos)]
  exact channel.backoff.finished_verdict outlook

theorem after_of_finished {n : Nat}
    (hfinished : (after channel outlook batch n).delivery.stage.finished = true) {k : Nat}
    (hle : n ≤ k) : after channel outlook batch k = after channel outlook batch n := by
  induction hle with
  | refl => rfl
  | step _ ih => rw [after, ih, next_of_finished hfinished]

theorem deeds_initial {n k : Nat} (hle : n ≤ k) :
    (after channel outlook batch n).deeds <+: (after channel outlook batch k).deeds := by
  induction hle with
  | refl => exact List.prefix_refl _
  | @step k _ ih =>
      refine ih.trans ?_
      rw [after, next]
      split
      · exact List.prefix_append _ _
      · exact List.prefix_refl _

/-- Every journey ends with its last attempt. -/
theorem exists_end (channel : Channel) (outlook : Outlook) (batch : List Event) :
    ∃ last, 1 ≤ last ∧ last ≤ channel.backoff.attempts ∧
      (channel.backoff.verdict outlook last).finished = true ∧
      (∀ i, 1 ≤ i → i < last → ∃ pause, channel.backoff.verdict outlook i = .resting i pause) ∧
      ∀ n, 2 * last ≤ n → after channel outlook batch n = upTo channel outlook batch last := by
  obtain ⟨last, hfirst, hle, hfinished, hrests⟩ := channel.backoff.exists_last outlook
  refine ⟨last, hfirst, hle, hfinished, hrests, fun n hn => ?_⟩
  have hwhole : after channel outlook batch (2 * last) = upTo channel outlook batch last :=
    after_of_rests hrests
  rw [after_of_finished _ hn, hwhole]
  rw [hwhole, upTo, if_neg (Nat.ne_of_gt hfirst)]
  exact hfinished

/-- A journey calls the transport with the batch, once for each attempt. -/
theorem sends_upTo (channel : Channel) (outlook : Outlook) (batch : List Event) (attempt : Nat) :
    Effect.sends (upTo channel outlook batch attempt).deeds = List.replicate attempt batch := by
  induction attempt with
  | zero => rfl
  | succ attempt ih =>
      have hquiet := channel.quiet_echo batch (outlook.answer (1 + attempt))
        (channel.backoff.verdict outlook (1 + attempt))
      have hsend : Effect.sends (Delivery.send batch) = [batch] := rfl
      simp only [upTo, List.range'_1_concat, List.flatMap_append, List.flatMap_singleton,
        Effect.sends_append, hquiet.sends_eq, hsend] at ih ⊢
      rw [ih, List.append_nil, List.replicate_succ']

/-- Every other step calls the transport, until the last attempt was made. -/
theorem sends_after {last : Nat}
    (hrests : ∀ i, 1 ≤ i → i < last →
      ∃ pause, channel.backoff.verdict outlook i = .resting i pause)
    (hend : ∀ n, 2 * last ≤ n → after channel outlook batch n = upTo channel outlook batch last)
    (n : Nat) :
    Effect.sends (after channel outlook batch n).deeds =
      List.replicate (min ((n + 1) / 2) last) batch := by
  rcases Nat.lt_or_ge n (2 * last) with hlt | hge
  · rcases n.even_or_odd' with ⟨k, rfl | rfl⟩
    · have hcount : min ((2 * k + 1) / 2) last = k := by omega
      rw [after_of_rests fun i hi hik => hrests i hi (by omega), sends_upTo, hcount]
    · have hcount : min ((2 * k + 1 + 1) / 2) last = k + 1 := by omega
      have hpause : k = 0 ∨
          ∃ pause, channel.backoff.verdict outlook k = .resting k pause := by
        rcases Nat.eq_zero_or_pos k with hzero | hpos
        · exact Or.inl hzero
        · exact Or.inr (hrests k hpos (by omega))
      have hsend : Effect.sends (Delivery.send batch) = [batch] := rfl
      rw [after, after_of_rests fun i hi hik => hrests i hi (by omega), next_upTo hpause,
        Effect.sends_append, sends_upTo, hsend, hcount, List.replicate_succ']
  · have hcount : min ((n + 1) / 2) last = last := by omega
    rw [hend n hge, sends_upTo, hcount]

theorem eq_of_mem_sends {n : Nat} {sent : List Event}
    (hsent : sent ∈ Effect.sends (after channel outlook batch n).deeds) : sent = batch := by
  obtain ⟨last, _, _, _, hrests, hend⟩ := exists_end channel outlook batch
  rw [sends_after hrests hend] at hsent
  exact List.eq_of_mem_replicate hsent

end Journey

end Courier
