import Courier.Delivery.Basic
/-!
What the steps of one delivery do outside.

Only the beginning of an attempt calls the transport, and it hands over the whole batch.  The answer
that ends a delivery books its outcome and passes a report on, but never calls the transport.
-/
namespace Courier

namespace Effect

def sends (effects : List Effect) : List (List Event) :=
  effects.filterMap fun
    | .sent batch => some batch
    | _ => none

/-- The transport is called, to send or to shut down. -/
def callsTransport : Effect → Bool
  | .sent _ | .transportClosed => true
  | _ => false

/-- None of the effects calls the transport. -/
def Quiet (effects : List Effect) : Prop :=
  ∀ effect ∈ effects, effect.callsTransport = false

@[simp] theorem quiet_nil : Quiet [] := by
  intro effect heffect
  cases heffect

@[simp] theorem quiet_cons (effect : Effect) (effects : List Effect) :
    Quiet (effect :: effects) ↔ effect.callsTransport = false ∧ Quiet effects :=
  List.forall_mem_cons

@[simp] theorem sends_append (left right : List Effect) :
    sends (left ++ right) = sends left ++ sends right :=
  List.filterMap_append

@[simp] theorem closings_append (left right : List Effect) :
    closings (left ++ right) = closings left + closings right :=
  List.countP_append

theorem logs_append (left right : List Effect) : logs (left ++ right) = logs left ++ logs right :=
  List.filterMap_append

theorem logs_map_logged (records : List Log.Record) : logs (records.map .logged) = records := by
  induction records with
  | nil => rfl
  | cons record records ih => exact congrArg (record :: ·) ih

theorem sends_map_logged (records : List Log.Record) : sends (records.map .logged) = [] := by
  induction records with
  | nil => rfl
  | cons record records ih => exact ih

theorem Quiet.sends_eq {effects : List Effect} (hquiet : Quiet effects) :
    sends effects = [] := by
  apply List.filterMap_eq_nil_iff.mpr
  intro effect heffect
  have hcalls := hquiet effect heffect
  cases effect <;> first | rfl | cases hcalls

theorem Quiet.closings_eq {effects : List Effect} (hquiet : Quiet effects) :
    closings effects = 0 := by
  apply List.countP_eq_zero.mpr
  intro effect heffect
  have hcalls := hquiet effect heffect
  cases effect <;> simp_all [callsTransport]

end Effect

open Effect (Quiet)

/-- The change raises a counter of events, batches or attempts. -/
def Metrics.Update.raises : Metrics.Update → Bool
  | .enqueued | .dropped _ _ | .delivered _ _ | .batch _ | .attempt => true
  | .bufferSize _ | .bufferCapacity _ | .flush _ _ | .reporterPanic => false

namespace Channel

theorem raises_of_mem_accounts {channel : Channel} {outcome : Outcome} {size : Nat}
    {change : Metrics.Update} (hchange : change ∈ channel.accounts outcome size) :
    change.raises = true := by
  unfold accounts at hchange
  split at hchange <;> simp only [List.mem_cons, List.not_mem_nil, or_false] at hchange
  case h_2 => rcases hchange with rfl | rfl <;> rfl
  all_goals
    subst hchange
    rfl

section Conclude

variable {P : Effect → Prop} (hlogged : ∀ record, P (.logged record))
  (hreported : ∀ report, P (.reported report)) (hpanic : P (.counted .reporterPanic))

include hlogged hreported hpanic

/-- A report is logged and may be kept, and the reporter may panic. -/
theorem forall_mem_announce (channel : Channel) (outcome : Outcome) (attempts : Nat)
    (report : Report) : ∀ effect ∈ channel.announce outcome attempts report, P effect := by
  have hreceive : ∀ effect ∈ channel.reporter.receive report, P effect := by
    unfold Reporter.receive
    split
    · exact List.forall_mem_singleton.mpr (hlogged _)
    · split
      · exact List.forall_mem_singleton.mpr (hreported report)
      · exact List.forall_mem_singleton.mpr (hlogged _)
  have hsurvives : ∀ effect ∈
      (if channel.reporter.survives report then [] else [.counted .reporterPanic] : List Effect),
      P effect := by
    split
    · exact fun effect heffect => absurd heffect List.not_mem_nil
    · exact List.forall_mem_singleton.mpr hpanic
  simp only [announce, List.forall_mem_append, List.forall_mem_cons, List.forall_mem_map]
  exact ⟨⟨⟨fun record _ => hlogged record, hlogged _, fun _ h => absurd h List.not_mem_nil⟩,
    hreceive⟩, hsurvives⟩

/-- What is done about a final outcome: it is booked, and then it is announced. -/
theorem forall_mem_conclude
    (hcounted : ∀ update : Metrics.Update, update.raises = true → P (.counted update))
    (channel : Channel) (batch : List Event) (attempts : Nat) (outcome : Outcome) :
    ∀ effect ∈ channel.conclude batch attempts outcome, P effect := by
  have haccounts : ∀ effect ∈ (channel.accounts outcome batch.length).map .counted, P effect := by
    intro effect heffect
    obtain ⟨update, hupdate, rfl⟩ := List.mem_map.mp heffect
    exact hcounted update (raises_of_mem_accounts hupdate)
  intro effect heffect
  unfold conclude at heffect
  rcases List.mem_append.mp heffect with hbooked | hannounced
  · rcases List.mem_cons.mp hbooked with rfl | hbooked
    · exact hcounted _ rfl
    · exact haccounts effect hbooked
  · split at hannounced
    · cases hannounced
    · exact forall_mem_announce hlogged hreported hpanic channel outcome attempts _ effect
        hannounced

end Conclude

theorem quiet_conclude (channel : Channel) (batch : List Event) (attempts : Nat)
    (outcome : Outcome) : Quiet (channel.conclude batch attempts outcome) := by
  apply forall_mem_conclude
  case hlogged => exact fun _ => rfl
  case hreported => exact fun _ => rfl
  case hpanic => rfl
  case hcounted => exact fun _ _ => rfl

theorem booked_conclude (channel : Channel) (batch : List Event) (attempts : Nat)
    (outcome : Outcome) :
    .counted (.batch outcome.label) ∈ channel.conclude batch attempts outcome :=
  List.mem_append_left _ List.mem_cons_self

/-- A report is handed to the reporter, unless the outcome is a success. -/
theorem reported_conclude (channel : Channel) (batch : List Event) (attempts : Nat)
    (outcome : Outcome) :
    outcome = .success ∨
      ∃ report, Report.ofOutcome outcome attempts batch = some report ∧
        channel.reporter.receive report <:+: channel.conclude batch attempts outcome := by
  cases hreport : Report.ofOutcome outcome attempts batch with
  | none => exact Or.inl ((Report.ofOutcome_eq_none_iff outcome attempts batch).mp hreport)
  | some report =>
      refine Or.inr ⟨report, rfl, ?_⟩
      have hannounce : channel.reporter.receive report <:+:
          channel.announce outcome attempts report := List.infix_append _ _ _
      simp only [conclude, hreport]
      exact hannounce.trans (List.suffix_append _ _).isInfix

end Channel

namespace Delivery

/-- An attempt begins with handing over the whole batch. -/
theorem resume_eq_some {d d' : Delivery} {effects : List Effect}
    (h : d.resume = some (d', effects)) :
    effects = send d.batch ∧ d'.batch = d.batch ∧
      ∃ attempt, d'.stage = .sending attempt := by
  unfold resume at h
  split at h <;> cases h
  · exact ⟨rfl, rfl, 1, rfl⟩
  · exact ⟨rfl, rfl, _, rfl⟩

theorem closings_send (batch : List Event) : Effect.closings (send batch) = 0 := rfl

/-- An answer never leads to a call of the transport at once, and an answer that settles the batch
has its outcome booked and reported. -/
theorem receive_eq_some {d d' : Delivery} {channel : Channel} {draw : Draw}
    {answer : Answer} {effects : List Effect}
    (h : d.receive channel draw answer = some (d', effects)) :
    d'.batch = d.batch ∧ Quiet effects ∧
      ∀ attempts outcome, d'.stage = .settled attempts outcome →
        effects = channel.conclude d.batch attempts outcome := by
  unfold receive at h
  split at h
  case h_2 => cases h
  case h_1 attempt _ =>
    cases h
    refine ⟨rfl, ?_, ?_⟩
    · split
      · simp [Effect.callsTransport]
      · exact channel.quiet_conclude d.batch _ _
      · exact Effect.quiet_nil
    · intro attempts outcome hstage
      change channel.backoff.after draw attempt answer = _ at hstage
      rw [hstage]

end Delivery

end Courier
