import Mathlib.Data.List.Basic
import Courier.Collector.Verdict
/-!
What the collector decides about a batch.

A response accepts the batch, refuses some of its events, or refuses it as a whole.  Only where the
collector took no decision may the batch be posted again.
-/
namespace Courier.Collector

/-- The collector took no decision: it was too slow, too busy or broken. -/
def Status.Busy (status : Status) : Prop :=
  status.code = 408 ∨ status.code = 429 ∨ 500 ≤ status.code ∧ status.code ≤ 599

theorem Status.retryable_iff (status : Status) : status.retryable = true ↔ status.Busy := by
  simp only [retryable, isServerError, Busy, Bool.or_eq_true, decide_eq_true_eq, beq_iff_eq]
  omega

/-- The reply in a body; a body that cannot be read counts as an empty reply. -/
def Reads (body : String) (reply : Reply) : Prop :=
  Reply.parse body = .ok reply ∨
    (∃ problem, Reply.parse body = .error problem) ∧ reply = {}

theorem reads_ofBody (body : String) : Reads body (Reply.ofBody body) := by
  unfold Reads Reply.ofBody
  cases Reply.parse body with
  | ok reply => exact Or.inl rfl
  | error problem => exact Or.inr ⟨⟨problem, rfl⟩, rfl⟩

theorem Reads.eq_ofBody {body : String} {reply : Reply} (h : Reads body reply) :
    reply = Reply.ofBody body := by
  unfold Reply.ofBody
  rcases h with hread | ⟨⟨problem, hread⟩, rfl⟩
  · rw [hread]
  · rw [hread]

/-- The results with an error, by their places in the reply. -/
structure Reply.Refuses (reply : Reply) (failed : List EventFailure) : Prop where
  sorted : failed.Pairwise fun f g => f.index < g.index
  mem_iff : ∀ f, f ∈ failed ↔ ∃ result, reply.results[f.index]? = some result ∧
    result.status = "error" ∧ f.errors = result.errors

theorem Reply.refuses_failures (reply : Reply) : reply.Refuses reply.failures := by
  constructor
  case sorted =>
    have hplaces : (reply.results.zipIdx.map Prod.snd).Pairwise (· < ·) := by
      rw [List.zipIdx_map_snd]
      exact List.pairwise_lt_range' 1
    rw [failures, List.pairwise_map]
    exact (List.pairwise_map.mp hplaces).filter _
  case mem_iff =>
    intro f
    rw [failures, List.mem_map]
    constructor
    · rintro ⟨⟨result, place⟩, hmem, rfl⟩
      obtain ⟨hplace, herror⟩ := List.mem_filter.mp hmem
      exact ⟨result, List.mk_mem_zipIdx_iff_getElem?.mp hplace, beq_iff_eq.mp herror, rfl⟩
    · rintro ⟨result, hplace, herror, herrors⟩
      refine ⟨(result, f.index), List.mem_filter.mpr ⟨?_, beq_iff_eq.mpr herror⟩, ?_⟩
      · exact List.mk_mem_zipIdx_iff_getElem?.mpr hplace
      · obtain ⟨index, errors⟩ := f
        rw [EventFailure.mk.injEq]
        exact ⟨rfl, herrors.symm⟩

theorem Reply.Refuses.eq_nil_iff {reply : Reply} {failed : List EventFailure}
    (h : reply.Refuses failed) :
    failed = [] ↔ ∀ result ∈ reply.results, result.status ≠ "error" := by
  constructor
  · intro hnil result hresult herror
    obtain ⟨place, hplace⟩ := List.mem_iff_getElem?.mp hresult
    have hfailure := (h.mem_iff ⟨place, result.errors⟩).mpr ⟨result, hplace, herror, rfl⟩
    rw [hnil] at hfailure
    cases hfailure
  · intro hcalm
    apply List.eq_nil_iff_forall_not_mem.mpr
    intro f hf
    obtain ⟨result, hplace, herror, _⟩ := (h.mem_iff f).mp hf
    exact hcalm result (List.mem_of_getElem? hplace) herror

/-- What is said about a batch that was refused as a whole: the error of the reply, else the errors of
its results, else the registered reason of the status. -/
structure Reply.Explains (reply : Reply) (status : Status) (message : String) : Prop where
  error : ∀ error, reply.error = some error → message = error
  errors : reply.error = none → reply.results.flatMap Result.errors ≠ [] →
    message = "; ".intercalate (reply.results.flatMap Result.errors)
  reason : reply.error = none → reply.results.flatMap Result.errors = [] →
    ∀ reason, Status.reasons.lookup status.code = some reason → message = reason
  unregistered : reply.error = none → reply.results.flatMap Result.errors = [] →
    Status.reasons.lookup status.code = none → message = "unexpected status"

theorem Reply.explains_explanation (reply : Reply) (status : Status) :
    reply.Explains status (reply.explanation status) := by
  unfold explanation
  constructor
  case error =>
    intro error herror
    rw [herror]
  case errors =>
    intro herror herrors
    rw [herror]
    cases hlist : reply.results.flatMap Result.errors with
    | nil => exact absurd hlist herrors
    | cons first rest => rfl
  case reason =>
    intro herror hnone reason hreason
    simp only [herror, hnone, Status.reason, hreason, Option.getD_some]
  case unregistered =>
    intro herror hnone hreason
    simp only [herror, hnone, Status.reason, hreason, Option.getD_none]

/-- What a response means for a batch of `size` events. -/
structure Judged (status : Status) (body : String) (size : Nat) (outcome : Outcome) : Prop where
  /-- Results for each event are a success if none of them is an error. -/
  calm : status.code = 207 → ∀ reply, Reads body reply →
    (outcome = .success ↔ ∀ result ∈ reply.results, result.status ≠ "error")
  /-- Otherwise the events with an error are refused, for the reasons given. -/
  partly : status.code = 207 → ∀ reply, Reads body reply → outcome ≠ .success →
    ∃ failed, outcome = .partialFailure failed size ∧ reply.Refuses failed
  /-- Any other success accepts the batch, whatever the body holds. -/
  accepted : status.code ≠ 207 → 200 ≤ status.code → status.code ≤ 299 → outcome = .success
  /-- Anything else refuses it as a whole. -/
  refused : ¬(200 ≤ status.code ∧ status.code ≤ 299) → ∀ reply, Reads body reply →
    ∃ message again, outcome = .totalFailure status.code message again ∧
      (again = true ↔ status.Busy) ∧ reply.Explains status message

/-- The batch may be posted again where no decision was taken. -/
theorem Judged.retryable_iff {status : Status} {body : String} {size : Nat} {outcome : Outcome}
    (h : Judged status body size outcome) : outcome.retryable = true ↔ status.Busy := by
  by_cases hsuccess : 200 ≤ status.code ∧ status.code ≤ 299
  · have hcalm : ¬status.Busy := by
      unfold Status.Busy
      omega
    have hfinal : outcome.retryable = false := by
      by_cases haccepted : outcome = .success
      · rw [haccepted]
        rfl
      · have hmulti : status.code = 207 := by
          by_contra hother
          exact haccepted (h.accepted hother hsuccess.1 hsuccess.2)
        obtain ⟨failed, houtcome, _⟩ := h.partly hmulti _ (reads_ofBody body) haccepted
        rw [houtcome]
        rfl
    rw [hfinal]
    exact iff_of_false Bool.false_ne_true hcalm
  · obtain ⟨message, again, houtcome, hagain, _⟩ := h.refused hsuccess _ (reads_ofBody body)
    rw [houtcome]
    exact hagain

theorem Reply.outcome_of_multi {status : Status} (hmulti : status.code = 207) (reply : Reply)
    (size : Nat) :
    reply.outcome status size =
      if reply.failures = [] then .success else .partialFailure reply.failures size := by
  rw [outcome, if_pos (show status.code = Status.multi from hmulti)]
  cases reply.failures with
  | nil => rfl
  | cons first rest => rfl

theorem judged_verdict (status : Status) (body : String) (size : Nat) :
    Judged status body size (verdict status body size) := by
  have hrefuses := (Reply.ofBody body).refuses_failures
  constructor
  case calm =>
    intro hmulti reply hreads
    obtain rfl := hreads.eq_ofBody
    rw [← hrefuses.eq_nil_iff, verdict, Reply.outcome_of_multi hmulti]
    by_cases hnone : (Reply.ofBody body).failures = [] <;> simp [hnone]
  case partly =>
    intro hmulti reply hreads hfailed
    obtain rfl := hreads.eq_ofBody
    refine ⟨_, ?_, hrefuses⟩
    rw [verdict, Reply.outcome_of_multi hmulti] at hfailed ⊢
    by_cases hnone : (Reply.ofBody body).failures = []
    · exact absurd (if_pos hnone) hfailed
    · exact if_neg hnone
  case accepted =>
    intro hother hlow hhigh
    have hsuccess : status.isSuccess = true := by
      simp only [Status.isSuccess, decide_eq_true_eq]
      omega
    exact verdict_of_isSuccess hsuccess hother body size
  case refused =>
    intro hfailure reply hreads
    obtain rfl := hreads.eq_ofBody
    have hmulti : status.code ≠ Status.multi := by
      unfold Status.multi
      omega
    have hsuccess : ¬status.isSuccess = true := by
      simp only [Status.isSuccess, decide_eq_true_eq]
      omega
    refine ⟨_, _, ?_, status.retryable_iff, (Reply.ofBody body).explains_explanation status⟩
    rw [verdict, Reply.outcome, if_neg hmulti, if_neg hsuccess]

end Courier.Collector
