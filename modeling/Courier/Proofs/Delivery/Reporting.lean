import Courier.Proofs.Delivery.Journey
/-!
How often the reporter acts.

What a reporter does can be told from everything else that is done about a batch.  It acts once on an
outcome that is no success, even if it panics, and at no other time.
-/
namespace Courier

/-- The effect of handing a report to the reporter: the report is kept, or written to the log, or the
log says that the reporter panicked. -/
def Reporter.acts (reporter : Reporter) (effect : Effect) : Bool :=
  match reporter, effect with
  | .log, .logged record => decide (record.level = .warn ∧
      record.fields.map Prod.fst = ["cause", "events"])
  | .handler _, .reported _ => true
  | .handler _, .logged record => decide (record.level = .error ∧
      record.message = "error reporter panicked")
  | _, _ => false

/-- What the reporter did, among some effects. -/
def Reporter.acted (reporter : Reporter) (effects : List Effect) : List Effect :=
  effects.filter reporter.acts

namespace Reporter

variable {reporter : Reporter}

@[simp] theorem acted_append (left right : List Effect) :
    reporter.acted (left ++ right) = reporter.acted left ++ reporter.acted right :=
  List.filter_append left right

theorem acted_cons (effect : Effect) (effects : List Effect) :
    reporter.acted (effect :: effects) = reporter.acted [effect] ++ reporter.acted effects :=
  acted_append [effect] effects

@[simp] theorem acted_counted (updates : List Metrics.Update) :
    reporter.acted (updates.map .counted) = [] := by
  apply List.filter_eq_nil_iff.mpr
  intro effect heffect
  obtain ⟨update, _, rfl⟩ := List.mem_map.mp heffect
  cases reporter <;> exact Bool.false_ne_true

theorem acted_receive (report : Report) :
    reporter.acted (reporter.receive report) = reporter.receive report := by
  cases reporter with
  | log => rfl
  | handler panics => cases hpanics : panics report <;> simp [receive, hpanics, acted, acts]

theorem length_receive (report : Report) : (reporter.receive report).length = 1 := by
  cases reporter with
  | log => rfl
  | handler panics => cases hpanics : panics report <;> simp [receive, hpanics]

/-- The other records about a batch are not the reporter's. -/
theorem acted_exhausted (outcome : Outcome) (attempts : Nat) :
    reporter.acted ((Report.exhausted outcome attempts).map .logged) = [] := by
  unfold Report.exhausted
  split <;> cases reporter <;> rfl

theorem acted_retryRecord (b : Backoff) (attempt : Nat) (pause : Duration) (answer : Answer) :
    reporter.acted [.logged (b.retryRecord attempt pause answer)] = [] := by
  cases reporter <;> rfl

theorem acted_send (batch : List Event) : reporter.acted (Delivery.send batch) = [] := by
  cases reporter <;> rfl

end Reporter

namespace Channel

theorem acted_announce (channel : Channel) (outcome : Outcome) (attempts : Nat)
    (report : Report) :
    channel.reporter.acted (channel.announce outcome attempts report) =
      channel.reporter.receive report := by
  have hundelivered : channel.reporter.acted [.logged ⟨.warn, report.message,
      [("transport", .text channel.transport), ("outcome", .text outcome.label),
        ("attempts", .number attempts)]⟩] = [] := by
    cases channel.reporter <;> rfl
  have hpanic : channel.reporter.acted
      (if channel.reporter.survives report then [] else [.counted .reporterPanic]) = [] := by
    split
    · rfl
    · exact Reporter.acted_counted [.reporterPanic]
  simp only [announce, Reporter.acted_append, Reporter.acted_exhausted, hundelivered,
    Reporter.acted_receive, hpanic, List.append_nil, List.nil_append]

/-- The reporter acts on the report on a final outcome, if there is one. -/
theorem acted_conclude (channel : Channel) (batch : List Event) (attempts : Nat)
    (outcome : Outcome) :
    channel.reporter.acted (channel.conclude batch attempts outcome) =
      (Report.ofOutcome outcome attempts batch).toList.flatMap channel.reporter.receive := by
  have hbooked : channel.reporter.acted [.counted (.batch outcome.label)] = [] :=
    Reporter.acted_counted [.batch outcome.label]
  unfold conclude
  rw [List.cons_append, Reporter.acted_cons, hbooked, Reporter.acted_append,
    Reporter.acted_counted]
  cases Report.ofOutcome outcome attempts batch with
  | none => rfl
  | some report => simp [acted_announce]

/-- It acts once, unless the outcome is a success. -/
theorem length_acted_conclude (channel : Channel) (batch : List Event) (attempts : Nat)
    (outcome : Outcome) :
    (channel.reporter.acted (channel.conclude batch attempts outcome)).length =
      if outcome.isSuccess then 0 else 1 := by
  rw [acted_conclude]
  cases hreport : Report.ofOutcome outcome attempts batch with
  | none =>
      rw [(Report.ofOutcome_eq_none_iff outcome attempts batch).mp hreport]
      rfl
  | some report =>
      have hfailed : outcome.isSuccess = false := by
        cases outcome <;> first | rfl | cases hreport
      simp [hfailed, Reporter.length_receive]

end Channel

namespace Journey

variable {channel : Channel}

/-- Only the answer to the decisive attempt makes the reporter act. -/
theorem acted_upTo (hjitter : channel.backoff.jitter ≠ .nan) (outlook : Outlook)
    (batch : List Event) :
    channel.reporter.acted (upTo channel outlook batch (channel.backoff.decisive outlook)).deeds =
      channel.reporter.acted (channel.echo batch
        (outlook.answer (channel.backoff.decisive outlook))
        (channel.backoff.verdict outlook (channel.backoff.decisive outlook))) := by
  have hquiet : ∀ attempt, attempt < channel.backoff.decisive outlook →
      channel.reporter.acted (upTo channel outlook batch attempt).deeds = [] := by
    intro attempt hlt
    induction attempt with
    | zero => rfl
    | succ attempt ih =>
        obtain ⟨rest, _, hverdict⟩ :=
          Backoff.verdict_of_lt (b := channel.backoff) hjitter (Nat.le_add_left 1 attempt) hlt
        have hlast := ih (Nat.lt_of_succ_lt hlt)
        rw [Nat.add_comm] at hverdict
        simp only [upTo, List.range'_1_concat, List.flatMap_append, List.flatMap_singleton,
          Reporter.acted_append, Reporter.acted_send, hverdict, Channel.echo,
          Reporter.acted_retryRecord, List.append_nil] at hlast ⊢
        exact hlast
  obtain ⟨earlier, hdecisive⟩ :=
    Nat.exists_eq_add_of_le' (channel.backoff.decisive_spec outlook).1
  have hearlier := hquiet earlier (by omega)
  rw [hdecisive]
  simp only [upTo, List.range'_1_concat, List.flatMap_append, List.flatMap_singleton,
    Reporter.acted_append, Reporter.acted_send] at hearlier ⊢
  rw [hearlier, Nat.add_comm 1 earlier]
  rfl

end Journey

end Courier
