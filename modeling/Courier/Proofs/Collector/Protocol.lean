import Courier.Collector.Exchange
import Courier.Proofs.Collector.Judgement
import Courier.Proofs.Delivery.Journey
/-!
A batch and the collector, from the first post to the final outcome.

The batch is posted again after a response only where the collector took no decision and attempts are
left, and the last response decides what becomes of it.
-/
namespace Courier.Collector

namespace Client

def posts (client : Client) (batch : List Event) : List Request :=
  if batch.isEmpty then [] else (client.request batch).toOption.toList

theorem posts_of_request {client : Client} {batch : List Event} {request : Request}
    (hbatch : batch ≠ []) (hrequest : client.request batch = .ok request) :
    client.posts batch = [request] := by
  rw [posts, if_neg (by simp [hbatch]), hrequest]
  rfl

/-- Sending a batch asks the collector for nothing but its posts. -/
theorem send_congr (client : Client) {collector collector' : Request → Exchange}
    {batch : List Event} (hsame : ∀ request ∈ client.posts batch,
      collector request = collector' request) :
    client.send collector batch = client.send collector' batch := by
  unfold send
  unfold posts at hsame
  split
  · rfl
  · next hbatch =>
      rw [if_neg hbatch] at hsame
      cases hrequest : client.request batch with
      | error fault => rfl
      | ok request =>
          have hanswer := hsame request (by simp [hrequest, Except.toOption])
          simp only [hanswer]

/-- What a batch meets at a collector that gives one response after the other, each of them
complete.  Attempts are counted from one. -/
def outlook (client : Client) (responses : Nat → Status × String) (draw : Nat → Draw)
    (batch : List Event) : Outlook where
  answer attempt :=
    (client.send (fun _ => .answered (responses attempt).1 (some (responses attempt).2)) batch).1
  draw := draw

def journey (client : Client) (channel : Channel) (responses : Nat → Status × String)
    (draw : Nat → Draw) (batch : List Event) (n : Nat) : Journey :=
  .after channel (client.outlook responses draw batch) batch n

def posted (client : Client) (channel : Channel) (responses : Nat → Status × String)
    (draw : Nat → Draw) (batch : List Event) (n : Nat) : List Request :=
  (Effect.sends (client.journey channel responses draw batch n).deeds).flatMap client.posts

end Client

section

variable {client : Client} {channel : Channel} {responses : Nat → Status × String}
  {draw : Nat → Draw} {batch : List Event} {request : Request}

theorem answer_of_request (hbatch : batch ≠ []) (hrequest : client.request batch = .ok request)
    (attempt : Nat) :
    (client.outlook responses draw batch).answer attempt =
      .outcome (verdict (responses attempt).1 (responses attempt).2 batch.length) := by
  simp [Client.outlook, Client.send, hbatch, hrequest, Client.judge]

/-- Every post made by the end of a journey was made by its last step. -/
theorem posted_initial {n k : Nat} (hend : ∀ later, k ≤ later →
      client.journey channel responses draw batch later =
        client.journey channel responses draw batch k) :
    client.posted channel responses draw batch n <+:
      client.posted channel responses draw batch k := by
  have hdeeds : (client.journey channel responses draw batch n).deeds <+:
      (client.journey channel responses draw batch k).deeds := by
    rw [← hend (n + k) (Nat.le_add_left _ _)]
    exact Journey.deeds_initial (Nat.le_add_right _ _)
  obtain ⟨more, hmore⟩ := hdeeds
  rw [Client.posted, Client.posted, ← hmore, Effect.sends_append, List.flatMap_append]
  exact List.prefix_append _ _

/-- As long as every response leads to a pause, each attempt makes its posts. -/
theorem posted_of_rests {k : Nat}
    (hrests : ∀ i, 1 ≤ i → i < k → ∃ pause,
      channel.backoff.verdict (client.outlook responses draw batch) i = .resting i pause) :
    client.posted channel responses draw batch (2 * k) =
      (List.replicate k batch).flatMap client.posts := by
  rw [Client.posted, Client.journey, Journey.after_of_rests hrests, Journey.sends_upTo]

/-- Where sending makes no post there is none at any time. -/
theorem posted_eq_nil (hposts : client.posts batch = []) (n : Nat) :
    client.posted channel responses draw batch n = [] := by
  rw [Client.posted, List.flatMap_eq_nil_iff]
  intro sent hsent
  rw [Journey.eq_of_mem_sends hsent, hposts]

/-- What becomes of a batch that can be posted. -/
structure Collected (client : Client) (channel : Channel) (responses : Nat → Status × String)
    (draw : Nat → Draw) (batch : List Event) (request : Request) (last : Nat) : Prop where
  possible : 1 ≤ last ∧ last ≤ max channel.backoff.maxAttempts 1
  /-- Every post is the same request, and each takes two steps with its response. -/
  posted : ∀ k ≤ last, client.posted channel responses draw batch (2 * k) = .replicate k request
  /-- It is posted again after a response only if no decision was taken and fewer than the most posts
  were made. -/
  again : ∀ n k, 1 ≤ k → k < (client.posted channel responses draw batch n).length →
    (responses k).1.Busy ∧ k < max channel.backoff.maxAttempts 1
  /-- The last response is the end. -/
  ended : ∀ n, 2 * last ≤ n → client.journey channel responses draw batch n =
    client.journey channel responses draw batch (2 * last)
  /-- It settles the batch with what it means, unless another attempt was due and there is no pause, for
  want of a jitter that is a number. -/
  settled :
    (∃ outcome, (client.journey channel responses draw batch (2 * last)).delivery =
        ⟨batch, .settled last outcome⟩ ∧
      Judged (responses last).1 (responses last).2 batch.length outcome ∧
      (¬(responses last).1.Busy ∨ last = max channel.backoff.maxAttempts 1)) ∨
    (client.journey channel responses draw batch (2 * last)).delivery =
        ⟨batch, .panicked Backoff.emptyRange⟩ ∧
      channel.backoff.jitter = .nan ∧ (responses last).1.Busy ∧
      last < max channel.backoff.maxAttempts 1

/-- What becomes of any batch. -/
structure Protocol (client : Client) (channel : Channel) (responses : Nat → Status × String)
    (draw : Nat → Draw) (batch : List Event) : Prop where
  /-- The posts of a batch are all that the collector is asked when it is sent. -/
  asked : ∀ collector collector' : Request → Exchange,
    (∀ request ∈ client.posts batch, collector request = collector' request) →
    client.send collector batch = client.send collector' batch
  /-- Without events there is nothing to post, and that is a success. -/
  idle : batch = [] → ∀ n, client.posted channel responses draw batch n = [] ∧
    (2 ≤ n → (client.journey channel responses draw batch n).delivery =
      ⟨batch, .settled 1 .success⟩)
  /-- Where no request can be made there is no post. -/
  unmade : ∀ fault, client.request batch = .error fault →
    ∀ n, client.posted channel responses draw batch n = []
  collected : ∀ request, batch ≠ [] → client.request batch = .ok request →
    ∃ last, Collected client channel responses draw batch request last

/-- A batch that can be posted is posted until a response decides. -/
theorem collected_of_request (hbatch : batch ≠ []) (hrequest : client.request batch = .ok request) :
    ∃ last, Collected client channel responses draw batch request last := by
  obtain ⟨last, hfirst, hle, hfinished, hrests, hend⟩ :=
    Journey.exists_end channel (client.outlook responses draw batch) batch
  have hjudged := fun k => judged_verdict (responses k).1 (responses k).2 batch.length
  have hposted : ∀ k ≤ last,
      client.posted channel responses draw batch (2 * k) = .replicate k request := by
    intro k hk
    rw [posted_of_rests fun i hi hlt => hrests i hi (Nat.lt_of_lt_of_le hlt hk),
      List.flatMap_replicate, Client.posts_of_request hbatch hrequest,
      List.flatten_replicate_singleton]
  have hover : ∀ n, 2 * last ≤ n → client.journey channel responses draw batch n =
      client.journey channel responses draw batch (2 * last) := by
    intro n hn
    rw [Client.journey, Client.journey, hend n hn, hend _ (Nat.le_refl _)]
  have hlength : ∀ n, (client.posted channel responses draw batch n).length ≤ last := by
    intro n
    have hle := (posted_initial (n := n) hover).length_le
    rwa [hposted last (Nat.le_refl _), List.length_replicate] at hle
  have hlast : (client.journey channel responses draw batch (2 * last)).delivery =
      ⟨batch, channel.backoff.verdict (client.outlook responses draw batch) last⟩ := by
    rw [Client.journey, hend _ (Nat.le_refl _), Journey.upTo, if_neg (Nat.ne_of_gt hfirst)]
  refine ⟨last, ?_⟩
  constructor
  case possible => exact ⟨hfirst, hle⟩
  case posted => exact hposted
  case again =>
    intro n k hk hlt
    have hkl := Nat.lt_of_lt_of_le hlt (hlength n)
    obtain ⟨pause, hpause⟩ := hrests k hk hkl
    obtain ⟨hretry, hleft⟩ := Backoff.retryable_of_rests hpause
    rw [answer_of_request hbatch hrequest] at hretry
    exact ⟨(hjudged k).retryable_iff.mp hretry, hleft⟩
  case ended => exact hover
  case settled =>
    have hanswer : (client.outlook responses draw batch).answer last = .outcome _ :=
      answer_of_request hbatch hrequest last
    rw [hlast]
    by_cases hfinal : ¬(responses last).1.Busy ∨ channel.backoff.attempts ≤ last
    · refine Or.inl ⟨_, ?_, hjudged last, hfinal.imp_right (Nat.le_antisymm hle)⟩
      have hretry : ((client.outlook responses draw batch).answer last).retryable = false ∨
          channel.backoff.attempts ≤ last := by
        rw [hanswer]
        exact hfinal.imp_left fun hbusy =>
          Bool.eq_false_iff.mpr fun hretry => hbusy ((hjudged last).retryable_iff.mp hretry)
      rw [Backoff.verdict, Backoff.after_of_outcome (congrArg Backoff.outcomeOf hanswer) hretry]
    · rw [not_or, not_not, Nat.not_le] at hfinal
      obtain ⟨hbusy, hleft⟩ := hfinal
      rw [Backoff.verdict, hanswer] at hfinished ⊢
      obtain ⟨hjitter, hpanic⟩ := Backoff.after_of_no_pause
        ((hjudged last).retryable_iff.mpr hbusy) hleft hfinished
      exact Or.inr ⟨by rw [hpanic], hjitter, hbusy, hleft⟩

theorem delivery_of_empty {n : Nat} (hn : 2 ≤ n) :
    (client.journey channel responses draw [] n).delivery = ⟨[], .settled 1 .success⟩ := by
  have hverdict : channel.backoff.verdict (client.outlook responses draw []) 1 =
      .settled 1 .success := Backoff.after_of_outcome rfl (Or.inl rfl)
  have hwhole : Journey.after channel (client.outlook responses draw []) [] 2 =
      .upTo channel (client.outlook responses draw []) [] 1 :=
    Journey.after_of_rests fun i hi hlt => absurd hi (Nat.not_le_of_lt hlt)
  have hdelivery : (Journey.after channel (client.outlook responses draw []) [] 2).delivery =
      ⟨[], .settled 1 .success⟩ := by
    rw [hwhole, Journey.upTo, if_neg Nat.one_ne_zero, hverdict]
  rw [Client.journey, Journey.after_of_finished (by rw [hdelivery]; rfl) hn, hdelivery]

/-- Every batch keeps to the protocol, whatever the collector responds. -/
theorem collector_protocol (client : Client) (channel : Channel)
    (responses : Nat → Status × String) (draw : Nat → Draw) (batch : List Event) :
    Protocol client channel responses draw batch := by
  constructor
  case asked => exact fun collector collector' hsame => client.send_congr hsame
  case idle =>
    rintro rfl n
    exact ⟨posted_eq_nil rfl n, fun hn => delivery_of_empty hn⟩
  case unmade =>
    intro fault hfault n
    apply posted_eq_nil
    unfold Client.posts
    split
    · rfl
    · rw [hfault]
      rfl
  case collected => exact fun request hbatch hrequest => collected_of_request hbatch hrequest

end

/-- The collector is out of service at first, and then refuses the second one of two events. -/
theorem collector_protocol_to_partial_failure :
    ∃ client channel responses draw batch, channel.backoff.maxAttempts = 3 ∧
      (responses 1).1.code = 503 ∧ (responses 2).1.code = 207 ∧
      (client.posted channel responses draw batch 4).length = 2 ∧
      (client.journey channel responses draw batch 4).delivery.stage =
        .settled 2 (.partialFailure [⟨1, ["no model"]⟩] 2) ∧
      Protocol client channel responses draw batch := by
  let client := Client.ofBase "http://localhost:3000" "key"
  let channel : Channel := ⟨"http", { jitter := Double.zero }, .keep⟩
  let body := "\x7b\"results\":[\x7b\"status\":\"ok\"\x7d," ++
    "\x7b\"status\":\"error\",\"errors\":[\"no model\"]\x7d]\x7d"
  let responses : Nat → Status × String := fun attempt =>
    if attempt = 1 then (⟨503, by decide⟩, "") else (⟨207, by decide⟩, body)
  refine ⟨client, channel, responses, fun _ => some, [⟨[]⟩, ⟨[]⟩], rfl, rfl, rfl, ?_, ?_, ?_⟩
  · decide +kernel
  · decide +kernel
  · exact collector_protocol client channel responses (fun _ => some) [⟨[]⟩, ⟨[]⟩]

end Courier.Collector
