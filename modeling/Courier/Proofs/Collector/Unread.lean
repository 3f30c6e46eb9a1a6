import Courier.Proofs.Collector.Protocol
/-!
A batch and a collector whose responses may break off.

An exchange may bring no status at all, or a status without a body that can be read.  In both cases
sending fails and the batch may be posted again, whatever the status said: a batch that was accepted
is posted once more if the body of the response is lost.  Only where the body is read the status
decides.
-/
namespace Courier.Collector

namespace Exchange

/-- No status came, or the body behind it could not be read. -/
def Incomplete : Exchange → Prop
  | .unanswered _ => True
  | .answered _ body => body = none

/-- The batch may be posted again: the exchange is incomplete, or the collector took no decision. -/
def Undecided : Exchange → Prop
  | .unanswered _ => True
  | .answered status body => body = none ∨ status.Busy

end Exchange

namespace Client

variable {client : Client} {batch : List Event} {request : Request}

theorem send_of_request (hbatch : batch ≠ []) (hrequest : client.request batch = .ok request)
    (collector : Request → Exchange) :
    client.send collector batch = client.judge request batch.length (collector request) := by
  simp [send, hbatch, hrequest]

/-- An exchange is a failure where it is incomplete. -/
theorem judge_eq_failure_iff (client : Client) (request : Request) (size : Nat)
    (exchange : Exchange) :
    (∃ cause, (client.judge request size exchange).1 = .failure cause) ↔
      exchange.Incomplete := by
  cases exchange with
  | unanswered silence => exact iff_of_true ⟨_, rfl⟩ trivial
  | answered status body =>
      cases body with
      | none => exact iff_of_true ⟨_, rfl⟩ rfl
      | some body =>
          refine iff_of_false ?_ (Option.some_ne_none body)
          rintro ⟨cause, hcause⟩
          cases hcause

/-- The answer allows another attempt where the exchange decided nothing. -/
theorem retryable_judge_iff (client : Client) (request : Request) (size : Nat)
    (exchange : Exchange) :
    (client.judge request size exchange).1.retryable = true ↔ exchange.Undecided := by
  cases exchange with
  | unanswered silence => exact iff_of_true rfl trivial
  | answered status body =>
      cases body with
      | none => exact iff_of_true rfl (Or.inl rfl)
      | some body =>
          have hverdict := (judged_verdict status body size).retryable_iff
          exact hverdict.trans (by simp [Exchange.Undecided])

/-- No exchange makes the sending panic. -/
theorem exists_outcome_of_judge (client : Client) (request : Request) (size : Nat)
    (exchange : Exchange) :
    ∃ outcome, Backoff.outcomeOf (client.judge request size exchange).1 = .ok outcome := by
  cases exchange with
  | unanswered silence => exact ⟨_, rfl⟩
  | answered status body => cases body <;> exact ⟨_, rfl⟩

/-- What a batch meets at a collector, one exchange after the other.  Attempts are counted from
one. -/
def prospect (client : Client) (exchanges : Nat → Exchange) (draw : Nat → Draw)
    (batch : List Event) : Outlook where
  answer attempt := (client.send (fun _ => exchanges attempt) batch).1
  draw := draw

theorem answer_prospect (hbatch : batch ≠ []) (hrequest : client.request batch = .ok request)
    (exchanges : Nat → Exchange) (draw : Nat → Draw) (attempt : Nat) :
    (client.prospect exchanges draw batch).answer attempt =
      (client.judge request batch.length (exchanges attempt)).1 :=
  congrArg Prod.fst (send_of_request hbatch hrequest fun _ => exchanges attempt)

def course (client : Client) (channel : Channel) (exchanges : Nat → Exchange)
    (draw : Nat → Draw) (batch : List Event) (n : Nat) : Journey :=
  .after channel (client.prospect exchanges draw batch) batch n

def postings (client : Client) (channel : Channel) (exchanges : Nat → Exchange)
    (draw : Nat → Draw) (batch : List Event) (n : Nat) : List Request :=
  (Effect.sends (client.course channel exchanges draw batch n).deeds).flatMap client.posts

end Client

section

variable {client : Client} {channel : Channel} {exchanges : Nat → Exchange}
  {draw : Nat → Draw} {batch : List Event} {request : Request}

/-- What becomes of a batch that can be posted. -/
structure Exchanged (client : Client) (channel : Channel) (exchanges : Nat → Exchange)
    (draw : Nat → Draw) (batch : List Event) (request : Request) : Prop where
  /-- Sending fails where no status came or the body was not read, and only there. -/
  fails : ∀ collector, (∃ cause, (client.send collector batch).1 = .failure cause) ↔
    (collector request).Incomplete
  /-- The posts are the same request over and over. -/
  posts : ∀ n, ∃ k ≤ max channel.backoff.maxAttempts 1,
    client.postings channel exchanges draw batch n = List.replicate k request
  /-- It is posted again only after an exchange that decided nothing, while attempts are left. -/
  again : ∀ n k, 1 ≤ k → k < (client.postings channel exchanges draw batch n).length →
    (exchanges k).Undecided ∧ k < max channel.backoff.maxAttempts 1
  /-- Once a response was read whose status is a decision it is never posted again. -/
  decided : ∀ k status body, 1 ≤ k → exchanges k = .answered status (some body) →
    ¬status.Busy → ∀ n, (client.postings channel exchanges draw batch n).length ≤ k
  /-- After an exchange that decided nothing it is posted again, even if the status was a decision. -/
  resumed : channel.backoff.jitter ≠ .nan → ∀ k,
    (∀ i, 1 ≤ i → i ≤ k → (exchanges i).Undecided) → k < max channel.backoff.maxAttempts 1 →
    (client.postings channel exchanges draw batch (2 * k + 1)).length = k + 1
  /-- The last exchange settles the batch. -/
  settled : channel.backoff.jitter ≠ .nan → ∃ last outcome,
    1 ≤ last ∧ last ≤ max channel.backoff.maxAttempts 1 ∧
    Backoff.outcomeOf (client.judge request batch.length (exchanges last)).1 = .ok outcome ∧
    ∀ n, 2 * last ≤ n →
      (client.course channel exchanges draw batch n).delivery = ⟨batch, .settled last outcome⟩ ∧
      client.postings channel exchanges draw batch n = List.replicate last request

/-- What becomes of any batch that holds events. -/
structure Exchanging (client : Client) (channel : Channel) (exchanges : Nat → Exchange)
    (draw : Nat → Draw) (batch : List Event) : Prop where
  /-- Where no request can be made sending fails, and there is no post. -/
  unmade : ∀ fault, client.request batch = .error fault →
    (∀ collector, (client.send collector batch).1 = .failure (.exchange fault.message)) ∧
    ∀ n, client.postings channel exchanges draw batch n = []
  made : ∀ request, client.request batch = .ok request →
    Exchanged client channel exchanges draw batch request

/-- As many posts are made as attempts, and the first exchange that allows no other is the last
one. -/
theorem exists_postings (hbatch : batch ≠ []) (hrequest : client.request batch = .ok request)
    (channel : Channel) (exchanges : Nat → Exchange) (draw : Nat → Draw) :
    ∃ last, 1 ≤ last ∧ last ≤ channel.backoff.attempts ∧
      (∀ k, 1 ≤ k → k < last → (exchanges k).Undecided) ∧
      (channel.backoff.jitter ≠ .nan →
        ¬(exchanges last).Undecided ∨ channel.backoff.attempts ≤ last) ∧
      (∀ n, client.postings channel exchanges draw batch n =
        List.replicate (min ((n + 1) / 2) last) request) ∧
      ∀ n, 2 * last ≤ n → (client.course channel exchanges draw batch n).delivery =
        ⟨batch, channel.backoff.verdict (client.prospect exchanges draw batch) last⟩ := by
  obtain ⟨last, hfirst, hle, hfinished, hrests, hend⟩ :=
    Journey.exists_end channel (client.prospect exchanges draw batch) batch
  have hundecided : ∀ k, ((client.prospect exchanges draw batch).answer k).retryable = true ↔
      (exchanges k).Undecided := by
    intro k
    rw [Client.answer_prospect hbatch hrequest, client.retryable_judge_iff]
  refine ⟨last, hfirst, hle, ?undecided, ?final, ?postings, ?settled⟩
  case undecided =>
    intro k hk hlt
    obtain ⟨pause, hpause⟩ := hrests k hk hlt
    exact (hundecided k).mp (Backoff.retryable_of_rests hpause).1
  case final =>
    intro hjitter
    by_contra hopen
    rw [not_or, not_not, Nat.not_le] at hopen
    obtain ⟨pause, _, hpause⟩ :=
      Backoff.after_of_retryable hjitter ((hundecided last).mpr hopen.1) hopen.2
    rw [Backoff.verdict, hpause] at hfinished
    cases hfinished
  case postings =>
    intro n
    rw [Client.postings, Client.course, Journey.sends_after hrests hend, List.flatMap_replicate,
      Client.posts_of_request hbatch hrequest, List.flatten_replicate_singleton]
  case settled =>
    intro n hn
    rw [Client.course, hend n hn, Journey.upTo, if_neg (Nat.ne_of_gt hfirst)]

theorem exchanged_of_request (hbatch : batch ≠ []) (hrequest : client.request batch = .ok request)
    (channel : Channel) (exchanges : Nat → Exchange) (draw : Nat → Draw) :
    Exchanged client channel exchanges draw batch request := by
  obtain ⟨last, hfirst, hle, hundecided, hfinal, hpostings, hsettled⟩ :=
    exists_postings hbatch hrequest channel exchanges draw
  have hlength : ∀ n, (client.postings channel exchanges draw batch n).length =
      min ((n + 1) / 2) last := by
    intro n
    rw [hpostings, List.length_replicate]
  constructor
  case fails =>
    intro collector
    rw [Client.send_of_request hbatch hrequest]
    exact client.judge_eq_failure_iff request batch.length (collector request)
  case posts =>
    intro n
    exact ⟨_, (Nat.min_le_right _ _).trans hle, hpostings n⟩
  case again =>
    intro n k hk hlt
    rw [hlength] at hlt
    have hkl : k < last := hlt.trans_le (Nat.min_le_right _ _)
    exact ⟨hundecided k hk hkl, hkl.trans_le hle⟩
  case decided =>
    intro k status body hk hexchange hdecided n
    rw [hlength]
    by_contra hmore
    have hkl : k < last := (Nat.lt_of_not_le hmore).trans_le (Nat.min_le_right _ _)
    have hopen := hundecided k hk hkl
    rw [hexchange] at hopen
    rcases hopen with hnone | hbusy
    · cases hnone
    · exact hdecided hbusy
  case resumed =>
    intro hjitter k hopen hleft
    rw [hlength]
    -- the last exchange is one that decided, or that of the last attempt
    have hkl : k < last := by
      by_contra hlast
      have hle := Nat.le_of_not_lt hlast
      rcases hfinal hjitter with hdecided | hmost
      · exact hdecided (hopen last hfirst hle)
      · have hmost' : max channel.backoff.maxAttempts 1 ≤ last := hmost
        omega
    omega
  case settled =>
    intro hjitter
    obtain ⟨outcome, houtcome⟩ :=
      client.exists_outcome_of_judge request batch.length (exchanges last)
    refine ⟨last, outcome, hfirst, hle, houtcome, ?_⟩
    intro n hn
    have hretry : ((client.prospect exchanges draw batch).answer last).retryable = false ∨
        channel.backoff.attempts ≤ last := by
      refine (hfinal hjitter).imp_left fun hdecided => ?_
      rw [Bool.eq_false_iff, Client.answer_prospect hbatch hrequest]
      exact mt (client.retryable_judge_iff request batch.length (exchanges last)).mp hdecided
    have hverdict : channel.backoff.verdict (client.prospect exchanges draw batch) last =
        .settled last outcome := by
      apply Backoff.after_of_outcome _ hretry
      rw [Client.answer_prospect hbatch hrequest, houtcome]
    have hcount : min ((n + 1) / 2) last = last := by omega
    rw [hsettled n hn, hverdict, hpostings, hcount]
    exact ⟨rfl, rfl⟩

/-- Every batch is posted until a response is read that decides, or no attempt is left. -/
theorem batch_posted_until_read (hbatch : batch ≠ []) (client : Client) (channel : Channel)
    (exchanges : Nat → Exchange) (draw : Nat → Draw) :
    Exchanging client channel exchanges draw batch := by
  constructor
  case unmade =>
    intro fault hfault
    have hempty : batch.isEmpty = false := by simp [hbatch]
    constructor
    · intro collector
      rw [Client.send, hempty, hfault]
      rfl
    · intro n
      have hposts : client.posts batch = [] := by
        rw [Client.posts, hempty, hfault]
        rfl
      rw [Client.postings, List.flatMap_eq_nil_iff]
      intro sent hsent
      rw [Journey.eq_of_mem_sends hsent, hposts]
  case made =>
    intro request hrequest
    exact exchanged_of_request hbatch hrequest channel exchanges draw

end

/-- The connection is refused, then the collector is busy, then a refusal is read; two attempts more
would be left. -/
theorem batch_posted_until_refusal_read :
    ∃ client channel exchanges draw batch, batch ≠ [] ∧ channel.backoff.maxAttempts = 5 ∧
      exchanges 1 = .unanswered .unreachable ∧
      (∃ status body, exchanges 3 = .answered status (some body) ∧ status.code = 400) ∧
      (client.postings channel exchanges draw batch 12).length = 3 ∧
      Exchanging client channel exchanges draw batch := by
  let client := Client.ofBase "http://localhost:3000" "key"
  let channel : Channel := ⟨"http", { maxAttempts := 5, jitter := Double.zero }, .keep⟩
  let exchanges : Nat → Exchange := fun attempt =>
    if attempt = 1 then .unanswered .unreachable
    else if attempt = 2 then .answered ⟨503, by decide⟩ (some "")
    else .answered ⟨400, by decide⟩ (some "")
  refine ⟨client, channel, exchanges, fun _ => some, [⟨[]⟩], List.cons_ne_nil _ _, rfl, rfl,
    ⟨_, _, rfl, rfl⟩, ?_, ?_⟩
  · decide +kernel
  · exact batch_posted_until_read (List.cons_ne_nil _ _) client channel exchanges fun _ => some

/-- The collector accepts one event, but the response breaks off behind the status: sending fails, and
the event is posted as often as attempts allow and ends as a failure. -/
theorem accepted_batch_posted_again :
    ∃ (client : Client) (channel : Channel) (exchanges : Nat → Exchange) (draw : Nat → Draw)
      (batch : List Event) (cause : TransportFailure),
      batch ≠ [] ∧ channel.backoff.maxAttempts = 3 ∧
      (∀ k, ∃ status, exchanges k = .answered status none ∧ status.code = 200) ∧
      (client.send (fun _ => exchanges 1) batch).1 = .failure cause ∧
      (client.postings channel exchanges draw batch 6).length = 3 ∧
      (client.course channel exchanges draw batch 6).delivery.stage =
        .settled 3 (.transportFailure cause) := by
  let client := Client.ofBase "http://localhost:3000" "key"
  let channel : Channel := ⟨"http", { jitter := Double.zero }, .keep⟩
  let accepted : Status := ⟨200, by decide⟩
  refine ⟨client, channel, fun _ => .answered accepted none, fun _ => some, [⟨[]⟩],
    .exchange "Failed to read response body: error decoding response body",
    List.cons_ne_nil _ _, rfl, fun _ => ⟨accepted, rfl, rfl⟩, ?_, ?_, ?_⟩
  · decide +kernel
  · decide +kernel
  · decide +kernel

end Courier.Collector
