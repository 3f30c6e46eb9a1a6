import Courier.Proofs.Delivery.Reporting
import Courier.Proofs.Timeline.Clock
/-!
How often one batch is sent.

A batch is sent again as long as its answers allow it and attempts are left, with one pause between two
attempts.  The last answer decides, and a report is made on anything but a success.
-/
namespace Courier

open Timeline (FarEnd Dispatch)

def Stage.attempt : Stage → Nat
  | .sending attempt | .resting attempt _ | .settled attempt _ => attempt
  | .ready | .panicked _ => 0

theorem Backoff.attempt_after (b : Backoff) (draw : Draw) (attempt : Nat) (answer : Answer) :
    (b.after draw attempt answer).attempt ≤ attempt := by
  unfold after
  split
  · exact Nat.zero_le _
  · unfold afterOutcome
    split
    · exact Nat.le_refl _
    · split
      · exact Nat.zero_le _
      · exact Nat.le_refl _

namespace Journey

variable {channel : Channel} {outlook : Outlook} {batch : List Event}

/-- No attempt has a number beyond that of the decisive one. -/
theorem attempt_after (hjitter : channel.backoff.jitter ≠ .nan) (n : Nat) :
    (after channel outlook batch n).delivery.stage.attempt ≤
      channel.backoff.decisive outlook := by
  rcases after_cases hjitter batch n with ⟨attempt, hle, hafter⟩ | ⟨attempt, hlt, hafter⟩
  · rw [hafter, upTo]
    split
    · exact Nat.zero_le _
    · exact Nat.le_trans (Backoff.attempt_after _ _ _ _) hle
  · rw [hafter]
    exact hlt

/-- Up to the decisive attempt every attempt is followed by its pause. -/
theorem stages_upTo (hjitter : channel.backoff.jitter ≠ .nan) (batch : List Event)
    {pause : Nat → Duration} (hpause : ∀ attempt,
      channel.backoff.delayFor (outlook.draw attempt) attempt = .ok (pause attempt))
    {attempt : Nat} (hlt : attempt < channel.backoff.decisive outlook) :
    (upTo channel outlook batch attempt).stages =
      (List.range' 1 attempt).flatMap fun i => [.sending i, .resting i (pause i)] := by
  apply List.flatMap_congr
  intro i hi
  obtain ⟨hfirst, hlast⟩ := List.mem_range'_1.mp hi
  obtain ⟨rest, hrest, hverdict⟩ :=
    Backoff.verdict_of_lt (b := channel.backoff) hjitter hfirst
      (show i < channel.backoff.decisive outlook by omega)
  rw [hverdict, Except.ok.inj (hrest.symm.trans (hpause i))]

end Journey

/-- A batch comes to an outcome with its decisive attempt. -/
structure Retried (channel : Channel) (outlook : Outlook) (batch : List Event) (decisive : Nat)
    (outcome : Outcome) (pause : Nat → Duration) : Prop where
  /-- The decisive attempt is the first one whose answer does not allow another, or the last one. -/
  possible : 1 ≤ decisive ∧ decisive ≤ max channel.backoff.maxAttempts 1
  earlier : ∀ attempt, 1 ≤ attempt → attempt < decisive →
    (outlook.answer attempt).retryable = true
  last : (outlook.answer decisive).retryable = false ∨
    decisive = max channel.backoff.maxAttempts 1
  /-- Its answer is the outcome, where a failed exchange is an outcome, too. -/
  answer : Backoff.outcomeOf (outlook.answer decisive) = .ok outcome
  pauses : ∀ attempt,
    channel.backoff.delayFor (outlook.draw attempt) attempt = .ok (pause attempt)
  /-- Each attempt takes two steps, and after the decisive one nothing happens. -/
  lasting : ∀ n, 2 * decisive ≤ n →
    Journey.after channel outlook batch n = Journey.after channel outlook batch (2 * decisive)
  settled : (Journey.after channel outlook batch (2 * decisive)).delivery =
    ⟨batch, .settled decisive outcome⟩
  /-- There is one pause between two attempts, and none after the last one. -/
  stages : (Journey.after channel outlook batch (2 * decisive)).stages =
    ((List.range' 1 (decisive - 1)).flatMap fun i => [.sending i, .resting i (pause i)]) ++
      [.sending decisive, .settled decisive outcome]
  /-- Each attempt hands over the whole batch. -/
  sends : Effect.sends (Journey.after channel outlook batch (2 * decisive)).deeds =
    List.replicate decisive batch
  /-- The reporter gets the report on the batch, and acts once or not at all. -/
  reported : channel.reporter.acted (Journey.after channel outlook batch (2 * decisive)).deeds =
    (Report.ofOutcome outcome decisive batch).toList.flatMap channel.reporter.receive
  once : (channel.reporter.acted
    (Journey.after channel outlook batch (2 * decisive)).deeds).length =
      if outcome.isSuccess then 0 else 1
  events : ∀ report, Report.ofOutcome outcome decisive batch = some report →
    report.events = batch
  /-- The number of an attempt never passes the most attempts. -/
  bounded : ∀ n, (Journey.after channel outlook batch n).delivery.stage.attempt ≤
    max channel.backoff.maxAttempts 1
  /-- On the clock, a far end that gives these answers is called at the times that they and the
  pauses make. -/
  clock : ∀ (farEnd : FarEnd) (draw : Draw) (call now : Nat),
    farEnd.outlook draw batch call = outlook →
    ∃ records : List Log.Record, Dispatch.run channel draw farEnd call now [batch] =
      (records.map .logged ++ channel.conclude batch decisive outcome,
        .ok [{
          attempts := decisive
          outcome := outcome
          time := farEnd.answerTime (call + (decisive - 1))
            (farEnd.callTime pause call now (decisive - 1))
          calls := (List.range decisive).map (farEnd.callTime pause call now)
          effects := records.map .logged ++ channel.conclude batch decisive outcome }])

/-- A batch that never meets a panic is sent up to its decisive attempt, and comes to an outcome. -/
theorem batch_retried {channel : Channel} {outlook : Outlook}
    (hjitter : channel.backoff.jitter ≠ .nan)
    (hcalm : ∀ attempt panic, outlook.answer attempt ≠ .panic panic) (batch : List Event) :
    ∃ decisive outcome pause, Retried channel outlook batch decisive outcome pause := by
  obtain ⟨hfirst, hle, hearlier, hlast⟩ := channel.backoff.decisive_spec outlook
  choose pause hpause using fun attempt =>
    Backoff.exists_delayFor hjitter (outlook.draw attempt) attempt
  obtain ⟨outcome, houtcome⟩ : ∃ outcome, Backoff.outcomeOf
      (outlook.answer (channel.backoff.decisive outlook)) = .ok outcome := by
    cases hanswer : outlook.answer (channel.backoff.decisive outlook) with
    | outcome outcome => exact ⟨outcome, rfl⟩
    | failure cause => exact ⟨.transportFailure cause, rfl⟩
    | panic panic => exact absurd hanswer (hcalm _ panic)
  have hverdict : channel.backoff.verdict outlook (channel.backoff.decisive outlook) =
      .settled (channel.backoff.decisive outlook) outcome :=
    Backoff.after_of_outcome houtcome hlast
  have hwhole := Journey.after_of_le hjitter batch
    (Nat.le_refl (2 * channel.backoff.decisive outlook))
  have hacted := Journey.acted_upTo hjitter outlook batch
  rw [hverdict] at hacted
  refine ⟨channel.backoff.decisive outlook, outcome, pause, ?_⟩
  constructor
  case possible => exact ⟨hfirst, hle⟩
  case earlier => exact hearlier
  case last => exact hlast.imp_right (Nat.le_antisymm hle)
  case answer => exact houtcome
  case pauses => exact hpause
  case lasting =>
    intro n hn
    rw [hwhole, Journey.after_of_le hjitter batch hn]
  case settled =>
    rw [hwhole, Journey.upTo, if_neg (Nat.ne_of_gt hfirst), hverdict]
  case stages =>
    obtain ⟨earlier, hdecisive⟩ := Nat.exists_eq_add_of_le' hfirst
    have hstages := Journey.stages_upTo hjitter batch hpause
      (show earlier < channel.backoff.decisive outlook by omega)
    rw [hwhole]
    rw [hdecisive] at hverdict ⊢
    simp only [Journey.upTo, List.range'_1_concat, List.flatMap_append, List.flatMap_singleton,
      Nat.add_sub_cancel, Nat.add_comm 1 earlier, hverdict] at hstages ⊢
    rw [hstages]
  case sends => rw [hwhole, Journey.sends_upTo]
  case reported => rw [hwhole, hacted, ← Channel.acted_conclude]; rfl
  case once => rw [hwhole, hacted, ← Channel.length_acted_conclude]; rfl
  case events => intro report hreport; exact Report.events_of_ofOutcome hreport
  case bounded => intro n; exact Nat.le_trans (Journey.attempt_after hjitter n) hle
  case clock =>
    intro farEnd draw call now houtlook
    obtain ⟨records, hrun⟩ :=
      Timeline.Attempts.run_eq hjitter (houtlook ▸ hpause) now houtlook
    rw [hverdict] at hrun
    exact ⟨records, Dispatch.run_of_settled hrun⟩

/-- The collector cannot be reached and then is busy, there is no third attempt, and the reporter
panics. -/
theorem batch_retried_to_last_attempt :
    ∃ (channel : Channel) (outlook : Outlook) (batch : List Event) (pause : Nat → Duration),
      channel.backoff.maxAttempts = 2 ∧ channel.backoff.jitter ≠ .nan ∧
      (∀ report, channel.reporter.survives report = false) ∧ batch.length = 2 ∧
      outlook.answer 1 = .failure (.connection "refused") ∧
      (∀ attempt panic, outlook.answer attempt ≠ .panic panic) ∧
      Retried channel outlook batch 2 (.totalFailure 503 "busy" true) pause := by
  let channel : Channel := ⟨"http", { maxAttempts := 2 }, .panic none⟩
  let outlook : Outlook := {
    answer := fun attempt =>
      if attempt = 1 then .failure (.connection "refused")
      else .outcome (.totalFailure 503 "busy" true)
    draw := fun _ base => some base }
  have hjitter : channel.backoff.jitter ≠ .nan := by decide +kernel
  have hcalm : ∀ attempt panic, outlook.answer attempt ≠ .panic panic := by
    intro attempt panic hanswer
    by_cases hattempt : attempt = 1 <;> simp [outlook, hattempt] at hanswer
  obtain ⟨decisive, outcome, pause, hretried⟩ :=
    batch_retried hjitter hcalm [⟨[]⟩, ⟨[]⟩]
  -- the first answer allows another attempt, so the second one decides
  obtain ⟨hfirst, hle⟩ := hretried.possible
  have hlast : (outlook.answer decisive).retryable = false ∨ decisive = 2 := hretried.last
  have hdecisive : decisive = 2 := by
    rcases hlast with hfinal | hlast
    · by_cases hone : decisive = 1 <;>
        simp [outlook, hone, Answer.retryable, Outcome.retryable] at hfinal
    · exact hlast
  subst hdecisive
  obtain rfl : Outcome.totalFailure 503 "busy" true = outcome := Except.ok.inj hretried.answer
  exact ⟨channel, outlook, _, pause, rfl, hjitter, fun _ => rfl, rfl, rfl, hcalm, hretried⟩

end Courier
