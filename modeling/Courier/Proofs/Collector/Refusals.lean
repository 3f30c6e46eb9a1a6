import Mathlib.Data.List.Perm.Subperm
import Courier.Proofs.Collector.Judgement
import Courier.Proofs.Json.Record
import Courier.Report
/-!
Refused events and the places under which a reply names them.

A body is read as a whole or not at all: where it is read, each refused event is found, and where
anything in it has an unexpected shape the batch counts as accepted.  The places are those of the reply,
which may list more results than the batch has events.
-/
namespace Courier.Collector

open Json (Outline Quoted Source)

/-- The object of a result whose status is an error. -/
def Refusal (o : Outline) : Prop :=
  ∃ members, o = .object members .closed ∧
    ∃ q status, (q, .string status) ∈ members ∧ q.Spells "status" ∧ status.Spells "error"

/-- A body whose results refuse the event at a place, whatever else they hold. -/
def Refuses (body : String) (place : Nat) : Prop :=
  ∃ members items item, (Outline.object members .closed).Text body ∧
    (∃ q, (q, .array items .closed) ∈ members ∧ q.Spells "results") ∧
    items[place]? = some item ∧ Refusal item

theorem status_of_readRecord {o : Outline} {room : Nat} {result : Result} (h : Refusal o)
    (hread : Source.readRecord (Result.record Outline) room o = .ok result) :
    result.status = "error" := by
  obtain ⟨members, rfl, q, status, hmember, hq, hstatus⟩ := h
  obtain ⟨inner, _, hfilled⟩ := Json.Record.fillMembers_of_readRecord hread
  refine Json.Record.fillMembers_holds (P := fun result => result.status = "error") ?_ hmember
    hq.read_eq (by simp [Result.record, Json.Record.names]) ?_ hfilled
  · intro field hfield hother value before after hfill hbefore
    simp only [Result.record, List.mem_cons, List.not_mem_nil, or_false] at hfield
    rcases hfield with rfl | rfl
    · exact absurd rfl hother
    · obtain ⟨errors, _, hafter⟩ := Json.exists_of_bind_eq_ok hfill
      obtain rfl := Except.ok.inj hafter
      exact hbefore
  · intro field hfield hname before after hfill
    simp only [Result.record, List.mem_cons, List.not_mem_nil, or_false] at hfield
    rcases hfield with rfl | rfl
    · obtain ⟨text, htext, hafter⟩ := Json.exists_of_bind_eq_ok hfill
      obtain rfl := Except.ok.inj hafter
      exact Except.ok.inj (htext.symm.trans hstatus.read_eq)
    · simp at hname

/-- A reply that was read has an error where the body refuses an event. -/
theorem Refuses.result {body : String} {place : Nat} {reply : Reply} (h : Refuses body place)
    (hread : Reply.parse body = .ok reply) :
    ∃ result, reply.results[place]? = some result ∧ result.status = "error" := by
  obtain ⟨members, items, item, htext, ⟨q, hmember, hq⟩, hitem, hrefusal⟩ := h
  rw [Reply.parse, Json.readText_of_text htext] at hread
  obtain ⟨inner, _, hfilled⟩ := Json.Record.fillMembers_of_readRecord hread
  refine Json.Record.fillMembers_holds
    (P := fun reply => ∃ result, reply.results[place]? = some result ∧ result.status = "error")
    ?_ hmember hq.read_eq (by simp [Reply.record, Json.Record.names]) ?_ hfilled
  · intro field hfield hother value before after hfill hbefore
    simp only [Reply.record, List.mem_cons, List.not_mem_nil, or_false] at hfield
    rcases hfield with rfl | rfl
    · exact absurd rfl hother
    · obtain ⟨error, _, hafter⟩ := Json.exists_of_bind_eq_ok hfill
      obtain rfl := Except.ok.inj hafter
      exact hbefore
  · intro field hfield hname before after hfill
    simp only [Reply.record, List.mem_cons, List.not_mem_nil, or_false] at hfield
    rcases hfield with rfl | rfl
    · obtain ⟨results, hresults, hafter⟩ := Json.exists_of_bind_eq_ok hfill
      obtain rfl := Except.ok.inj hafter
      obtain ⟨_, result, hresult, hread⟩ := Json.getElem?_of_readList hresults hitem
      exact ⟨result, hresult, status_of_readRecord hrefusal hread⟩
    · simp at hname

/-- A refused event is found where the whole body can be read.  Anything of an unexpected shape in the
body has the batch accepted, and nothing is reported. -/
theorem verdict_of_refuses {status : Status} {body : String} {place : Nat}
    (hmulti : status.code = 207) (h : Refuses body place) (size : Nat) :
    (∀ reply, Reply.parse body = .ok reply → ∃ failed,
      verdict status body size = .partialFailure failed size ∧ ∃ f ∈ failed, f.index = place) ∧
    ∀ problem, Reply.parse body = .error problem → verdict status body size = .success ∧
      ∀ attempts batch, Report.ofOutcome (verdict status body size) attempts batch = none := by
  have hjudged := judged_verdict status body size
  constructor
  · intro reply hread
    obtain ⟨result, hresult, herror⟩ := h.result hread
    have hfailed : verdict status body size ≠ .success := fun hsuccess =>
      (hjudged.calm hmulti reply (.inl hread)).mp hsuccess result (List.mem_of_getElem? hresult)
        herror
    obtain ⟨failed, houtcome, hrefuses⟩ := hjudged.partly hmulti reply (.inl hread) hfailed
    have hfailure := (hrefuses.mem_iff ⟨place, result.errors⟩).mpr ⟨result, hresult, herror, rfl⟩
    exact ⟨failed, houtcome, _, hfailure, rfl⟩
  · intro problem hread
    have hsuccess : verdict status body size = .success :=
      (hjudged.calm hmulti {} (.inr ⟨⟨problem, hread⟩, rfl⟩)).mpr fun _ hresult =>
        absurd hresult List.not_mem_nil
    exact ⟨hsuccess, fun attempts batch => (Report.ofOutcome_eq_none_iff _ _ _).mpr hsuccess⟩

/-- A compact body refuses the event at the place of a result with an error. -/
theorem refuses_compact {members entry : List (String × Json)} {items : List Json} {place : Nat}
    (hexact : (Json.object members).All Json.Exact)
    (hresults : ("results", Json.array items) ∈ members)
    (hitem : items[place]? = some (.object entry))
    (hstatus : ("status", Json.string "error") ∈ entry) :
    Refuses (Json.object members).compact place := by
  refine ⟨_, Json.outlineItems items, (Json.object entry).outline, Json.text_outline hexact,
    ⟨.ofString "results", ?_, Quoted.spells_ofString _⟩, ?_, _, rfl, .ofString "status",
    .ofString "error", ?_, Quoted.spells_ofString _, Quoted.spells_ofString _⟩
  · rw [Json.outlineMembers_eq_map]
    exact List.mem_map_of_mem hresults
  · rw [Json.outlineItems_eq_map, List.getElem?_map, hitem]
    rfl
  · rw [Json.outlineMembers_eq_map]
    exact List.mem_map_of_mem hstatus

/-- A body with a result that has no list of errors but null. -/
def oddSibling : List (String × Json) := [
  ("results", .array [
    .object [("status", .string "error"), ("errors", .array [.string "unknown vendor"])],
    .object [("status", .string "created"), ("errors", .null)]])]

/-- The event that is refused next to it is lost. -/
theorem refusal_lost :
    (Json.object oddSibling).compact =
      "\x7b\"results\":[\x7b\"status\":\"error\",\"errors\":[\"unknown vendor\"]\x7d,"
        ++ "\x7b\"status\":\"created\",\"errors\":null\x7d]\x7d" ∧
    Refuses (Json.object oddSibling).compact 0 ∧
    verdict ⟨207, by decide⟩ (Json.object oddSibling).compact 2 = .success := by
  refine ⟨by decide +kernel, ?_, by decide +kernel⟩
  refine refuses_compact ?_ List.mem_cons_self rfl List.mem_cons_self
  simp [oddSibling, Json.All, Json.AllItems, Json.AllMembers, Json.AllMember, Json.Exact]

/-- A body with two results, both of them errors. -/
def twoErrors : List (String × Json) := [
  ("results", .array [
    .object [("status", .string "error"), ("errors", .array [.string "a"])],
    .object [("status", .string "error"), ("errors", .array [.string "b"])]])]

theorem verdict_twoErrors (size : Nat) :
    verdict ⟨207, by decide⟩ (Json.object twoErrors).compact size =
      .partialFailure [⟨0, ["a"]⟩, ⟨1, ["b"]⟩] size := by
  have hreply : Reply.ofBody (Json.object twoErrors).compact =
      ⟨[⟨"error", ["a"]⟩, ⟨"error", ["b"]⟩], none⟩ := by
    decide +kernel
  rw [verdict, hreply]
  rfl

theorem verdict_of_refuses_twoErrors :
    Refuses (Json.object twoErrors).compact 1 ∧ ∃ failed,
      verdict ⟨207, by decide⟩ (Json.object twoErrors).compact 5 = .partialFailure failed 5 ∧
      ∃ f ∈ failed, f.index = 1 := by
  have hrefuses : Refuses (Json.object twoErrors).compact 1 := by
    refine refuses_compact ?_ List.mem_cons_self rfl List.mem_cons_self
    simp [twoErrors, Json.All, Json.AllItems, Json.AllMembers, Json.AllMember, Json.Exact]
  have hstatus : (⟨207, by decide⟩ : Status).code = 207 := rfl
  obtain ⟨hread, hlost⟩ := verdict_of_refuses hstatus hrefuses 5
  refine ⟨hrefuses, ?_⟩
  cases hparse : Reply.parse (Json.object twoErrors).compact with
  | ok reply => exact hread reply hparse
  | error problem =>
      have hsuccess := (hlost problem hparse).1
      rw [verdict_twoErrors] at hsuccess
      cases hsuccess

/-- Refused events that stand at different places of a batch. -/
structure Placed (failed : List EventFailure) (batch : List Event) : Prop where
  within : ∀ f ∈ failed, ∃ event, batch[f.index]? = some event
  length_le : failed.length ≤ batch.length

theorem placed_of_lt {failed : List EventFailure} {batch : List Event}
    (hsorted : failed.Pairwise fun f g => f.index < g.index)
    (hlt : ∀ f ∈ failed, f.index < batch.length) : Placed failed batch := by
  constructor
  case within =>
    intro f hf
    exact ⟨_, List.getElem?_eq_getElem (hlt f hf)⟩
  case length_le =>
    have hnodup : (failed.map EventFailure.index).Nodup :=
      List.pairwise_map.mpr (hsorted.imp Nat.ne_of_lt)
    have hsubset : failed.map EventFailure.index ⊆ List.range batch.length := by
      intro place hplace
      obtain ⟨f, hf, rfl⟩ := List.mem_map.mp hplace
      exact List.mem_range.mpr (hlt f hf)
    simpa using (List.subperm_of_subset hnodup hsubset).length_le

/-- The places are those of a batch unless an error stands past its end. -/
theorem Reply.Refuses.placed_iff {reply : Reply} {failed : List EventFailure}
    (h : reply.Refuses failed) (batch : List Event) :
    Placed failed batch ↔ ∀ result ∈ reply.results.drop batch.length, result.status ≠ "error" := by
  constructor
  · intro hplaced result hresult herror
    obtain ⟨past, hpast⟩ := List.mem_iff_getElem?.mp hresult
    rw [List.getElem?_drop] at hpast
    obtain ⟨event, hevent⟩ := hplaced.within ⟨_, result.errors⟩
      ((h.mem_iff _).mpr ⟨result, hpast, herror, rfl⟩)
    have hlt := (List.getElem?_eq_some_iff.mp hevent).1
    exact absurd hlt (Nat.not_lt_of_le (Nat.le_add_right _ past))
  · intro hcalm
    apply placed_of_lt h.sorted
    intro f hf
    obtain ⟨result, hresult, herror, _⟩ := (h.mem_iff f).mp hf
    apply Nat.lt_of_not_le
    intro hle
    have hpast : (reply.results.drop batch.length)[f.index - batch.length]? = some result := by
      rw [List.getElem?_drop, Nat.add_sub_cancel' hle, hresult]
    exact hcalm result (List.mem_of_getElem? hpast) herror

/-- Where the refused events of a batch are. -/
structure Located (reply : Reply) (batch : List Event) (failed : List EventFailure) (total : Nat) :
    Prop where
  total_eq : total = batch.length
  /-- The places are those of the reply, each at most once. -/
  sorted : failed.Pairwise fun f g => f.index < g.index
  lt : ∀ f ∈ failed, f.index < reply.results.length
  placed_iff : Placed failed batch ↔
    ∀ result ∈ reply.results.drop batch.length, result.status ≠ "error"
  /-- The report counts the refused events and holds the batch. -/
  report : ∀ attempts report,
    Report.ofOutcome (.partialFailure failed total) attempts batch = some report →
      report.message = s!"{failed.length} of {batch.length} events failed" ∧ report.events = batch

/-- Some events of a batch are refused only by a status with results. -/
theorem Judged.multi {status : Status} {body : String} {size total : Nat}
    {failed : List EventFailure} (h : Judged status body size (.partialFailure failed total)) :
    status.code = 207 := by
  by_contra hother
  by_cases hsuccess : 200 ≤ status.code ∧ status.code ≤ 299
  · have haccepted := h.accepted hother hsuccess.1 hsuccess.2
    cases haccepted
  · obtain ⟨message, again, hrefused, _⟩ := h.refused hsuccess _ (reads_ofBody body)
    cases hrefused

/-- The refused events of a verdict have the places of the reply. -/
theorem located_of_verdict {status : Status} {body : String} {batch : List Event}
    {failed : List EventFailure} {total : Nat}
    (h : verdict status body batch.length = .partialFailure failed total) :
    Located (Reply.ofBody body) batch failed total := by
  have hjudged := judged_verdict status body batch.length
  rw [h] at hjudged
  obtain ⟨found, houtcome, hrefuses⟩ :=
    hjudged.partly hjudged.multi _ (reads_ofBody body) (by simp)
  obtain ⟨rfl, rfl⟩ := Outcome.partialFailure.inj houtcome
  constructor
  case total_eq => rfl
  case sorted => exact hrefuses.sorted
  case lt =>
    intro f hf
    obtain ⟨result, hresult, _⟩ := (hrefuses.mem_iff f).mp hf
    exact (List.getElem?_eq_some_iff.mp hresult).1
  case placed_iff => exact hrefuses.placed_iff batch
  case report =>
    intro attempts report hreport
    obtain rfl := Option.some.inj hreport
    exact ⟨rfl, rfl⟩

/-- Of a batch of one event two are refused, and the second one has no place in it. -/
theorem refused_past_end :
    ∃ failed total, verdict ⟨207, by decide⟩ (Json.object twoErrors).compact [Event.mk []].length =
        .partialFailure failed total ∧
      (∃ f ∈ failed, ¬f.index < total) ∧ total < failed.length ∧
      ∃ report, Report.ofOutcome (.partialFailure failed total) 1 [Event.mk []] = some report ∧
        report.message = "2 of 1 events failed" := by
  have hlast : (⟨1, ["b"]⟩ : EventFailure) ∈ [⟨0, ["a"]⟩, ⟨1, ["b"]⟩] :=
    List.mem_cons_of_mem _ List.mem_cons_self
  exact ⟨_, _, verdict_twoErrors 1, ⟨_, hlast, Nat.lt_irrefl 1⟩, Nat.lt_succ_self 1, _, rfl, rfl⟩

theorem located_of_verdict_twoErrors :
    Located (Reply.ofBody (Json.object twoErrors).compact) [Event.mk []]
      [⟨0, ["a"]⟩, ⟨1, ["b"]⟩] 1 :=
  located_of_verdict (verdict_twoErrors 1)

end Courier.Collector
