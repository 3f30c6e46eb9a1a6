import Courier.Client
import Courier.Proofs.Buffer.Batches
import Courier.Proofs.Json.Value
/-!
The JSON form of a payload.

A payload becomes an object once its token, type and time are filled in, whatever it holds, and the
object says all that the payload says: reading it back gives the payload as it was filled in, and that
payload has the same object.
-/
namespace Courier

open Json (Members Source)

theorem Usage.toJson_eq (usage : Usage) : usage.toJson =
    .object [("ai_model_name", .string usage.model),
      ("input_tokens", .integer usage.inputTokens.toNat),
      ("output_tokens", .integer usage.outputTokens.toNat)] := by
  simp only [toJson, Json.ofMembers, Members.ofList, Members.insert, List.foldl_cons,
    List.foldl_nil, String.reduceLT, String.reduceEq, ↓reduceIte]

theorem Usage.readRecord_toJson (room : Nat) (usage : Usage) :
    Source.readRecord (Usage.record Json) room usage.toJson = .ok usage := by
  rw [toJson_eq, Json.readRecord_object (by simp [Members.names])
    (by simp [record, Members.names])]
  simp [Json.Record.fillMember, record, bind, Except.bind, pure, Except.pure]

theorem VendorResponse.toJson_eq (response : VendorResponse) : response.toJson =
    .object [("raw_response", response.usage.toJson),
      ("vendor_name", .string response.vendor)] := by
  simp only [toJson, Json.ofMembers, Members.ofList, Members.insert, List.foldl_cons,
    List.foldl_nil, String.reduceLT, ↓reduceIte]

theorem VendorResponse.readRecord_toJson (room : Nat) (response : VendorResponse) :
    Source.readRecord (VendorResponse.record Json) room response.toJson = .ok response := by
  rw [toJson_eq, Json.readRecord_object (by simp [Members.names])
    (by simp [record, Members.names])]
  simp [Json.Record.fillMember, record, Usage.readRecord_toJson, bind, Except.bind, pure,
    Except.pure]

namespace Payload

variable (p : Payload) (fresh : Fresh) (defaultType : String)

/-- The members of a filled in payload, in the order of their names. -/
def sortedMembers : Members :=
  [("customer_external_id", .string p.customer)]
  ++ (p.customerName.map fun name => ("customer_name", .string name)).toList
  ++ [("event_type", .string (p.eventType.getD defaultType))]
  ++ (p.metadata.map fun members => ("metadata", .object members)).toList
  ++ [("occurred_at", .string (p.occurredAt.getD fresh.time)),
    ("revenue_amount_in_cents", .integer p.revenueCents.toInt),
    ("unique_request_token", .string (p.requestToken.getD fresh.token)),
    ("vendor_responses", .array (p.vendorResponses.map VendorResponse.toJson))]

theorem ofList_toMembers_complete :
    Members.ofList (p.complete fresh defaultType).toMembers =
      p.sortedMembers fresh defaultType := by
  cases hname : p.customerName <;> cases hmetadata : p.metadata <;>
    simp only [toMembers, complete, sortedMembers, Members.ofList, Members.insert, hname, hmetadata,
      Option.map_some, Option.map_none, Option.toList_some, Option.toList_none, List.cons_append,
      List.nil_append, List.append_nil, List.foldl_cons, List.foldl_nil, String.reduceLT,
      String.reduceEq, ↓reduceIte]

theorem sorted_sortedMembers : (p.sortedMembers fresh defaultType).Sorted := by
  rw [Members.Sorted]
  cases hname : p.customerName <;> cases hmetadata : p.metadata <;>
    simp only [sortedMembers, Members.names, hname, hmetadata, Option.map_some, Option.map_none,
      Option.toList_some, Option.toList_none, List.cons_append, List.nil_append, List.append_nil,
      List.map_cons, List.map_nil, List.pairwise_cons, List.Pairwise.nil, List.mem_cons,
      List.not_mem_nil, or_false, forall_eq_or_imp, forall_eq, String.reduceLT, and_self,
      false_implies, implies_true]

section Fill

variable (room : Nat) (q : Payload)

theorem fill_customer (s : String) :
    (record Json).fillMember room q ("customer_external_id", .string s) =
      .ok { q with customer := s } := rfl

theorem fill_customerName (name : Option String) (hnone : q.customerName = none) :
    (name.map fun s => ("customer_name", Json.string s)).toList.foldlM
      ((record Json).fillMember room) q = .ok { q with customerName := name } := by
  cases name with
  | none =>
      have hsame : { q with customerName := none } = q := by rw [← hnone]
      rw [hsame]
      rfl
  | some s => rfl

theorem fill_eventType (s : String) :
    (record Json).fillMember room q ("event_type", .string s) =
      .ok { q with eventType := some s } := rfl

theorem fill_metadata (members : Option Members) (hnone : q.metadata = none) :
    (members.map fun members => ("metadata", Json.object members)).toList.foldlM
      ((record Json).fillMember room) q = .ok { q with metadata := members } := by
  cases members with
  | none =>
      have hsame : { q with metadata := none } = q := by rw [← hnone]
      rw [hsame]
      rfl
  | some members => rfl

theorem fill_occurredAt (s : String) :
    (record Json).fillMember room q ("occurred_at", .string s) =
      .ok { q with occurredAt := some s } := rfl

theorem fill_revenueCents (n : Int64) :
    (record Json).fillMember room q ("revenue_amount_in_cents", .integer n.toInt) =
      .ok { q with revenueCents := n } := by
  show (do pure { q with revenueCents := ← Source.readInt64 (Json.integer n.toInt) }) = _
  rw [Json.readInt64_integer]
  rfl

theorem fill_requestToken (s : String) :
    (record Json).fillMember room q ("unique_request_token", .string s) =
      .ok { q with requestToken := some s } := rfl

theorem fill_vendorResponses (responses : List VendorResponse) :
    (record Json).fillMember room q
      ("vendor_responses", .array (responses.map VendorResponse.toJson)) =
        .ok { q with vendorResponses := responses } := by
  show (do
    let read := Source.readRecord (VendorResponse.record Json)
    pure { q with
      vendorResponses := ← Source.readList read room
        (Json.array (responses.map VendorResponse.toJson)) }) = _
  simp only [Json.readList_array (VendorResponse.readRecord_toJson room)]
  rfl

end Fill

theorem ofJson_toJson_complete :
    ofJson (p.complete fresh defaultType).toJson = .ok (p.complete fresh defaultType) := by
  have hsorted := p.sorted_sortedMembers fresh defaultType
  have hrequired : ∀ member ∈ (record Json).members, member.required = true →
      member.name ∈ (p.sortedMembers fresh defaultType).names := by
    simp [record, sortedMembers, Members.names]
  rw [toJson, Json.ofMembers, ofList_toMembers_complete, ofJson,
    Json.readRecord_object hsorted.nodup hrequired]
  have hblank : (record Json).blank = { customer := "", revenueCents := 0 } := rfl
  simp only [hblank, sortedMembers, List.foldlM_append, List.foldlM_cons, List.foldlM_nil,
    fill_customer, fill_customerName, fill_eventType, fill_metadata, fill_occurredAt,
    fill_revenueCents, fill_requestToken, fill_vendorResponses, bind, Except.bind, pure, Except.pure]
  rfl

theorem complete_complete (fresh' : Fresh) (defaultType' : String) :
    (p.complete fresh defaultType).complete fresh' defaultType' =
      p.complete fresh defaultType := by
  simp [complete]

end Payload

/-- A payload that was read back is the one that was filled in. -/
structure Payload.Restored (p : Payload) (fresh : Fresh) (defaultType : String) (q : Payload) :
    Prop where
  /-- Nothing but the token, the type and the time may differ. -/
  kept : q = { p with
    requestToken := q.requestToken
    eventType := q.eventType
    occurredAt := q.occurredAt }
  /-- Those are what the payload says itself, even if it is empty, and else what was filled in. -/
  token : q.requestToken = some (p.requestToken.getD fresh.token)
  type : q.eventType = some (p.eventType.getD defaultType)
  time : q.occurredAt = some (p.occurredAt.getD fresh.time)

/-- The JSON form of a payload says all that it says. -/
structure Payload.Preserved (p : Payload) (fresh : Fresh) (defaultType : String) : Prop where
  /-- The filled in payload is an object, which is its event. -/
  serialized : Event.ofJson? (p.complete fresh defaultType).toJson =
    some (.ofPayload p fresh defaultType)
  /-- A client that is open takes the event, as the last one of those that wait. -/
  tracked : ∀ (config : Config) (settings : Scheduler.Settings) (s : Scheduler.State),
    config.defaultEventType = defaultType → s.buffer.closed = false →
    ∃ s' effects, Scheduler.step settings s (.enqueue (Client.event config p fresh)) =
        some (s', effects) ∧
      s'.buffer.contents.getLast? = some (.ofPayload p fresh defaultType)
  /-- Each member stands there once. -/
  sorted : (Event.ofPayload p fresh defaultType).members.Sorted
  names : ∀ name, name ∈ (Event.ofPayload p fresh defaultType).members.names ↔
    name ∈ ["customer_external_id", "revenue_amount_in_cents", "vendor_responses",
      "unique_request_token", "event_type", "occurred_at"] ∨
    name = "customer_name" ∧ p.customerName ≠ none ∨ name = "metadata" ∧ p.metadata ≠ none
  /-- Reading the object back gives the payload as it was filled in, and that has the same object,
  whatever is fresh then and whatever the default type is. -/
  restored : ∃ q, Payload.ofJson (Event.ofPayload p fresh defaultType).toJson = .ok q ∧
    p.Restored fresh defaultType q ∧
    ∀ fresh' defaultType', Event.ofPayload q fresh' defaultType' =
      .ofPayload p fresh defaultType

/-- Every payload is preserved, whatever it holds. -/
theorem payload_preserved (p : Payload) (fresh : Fresh) (defaultType : String) :
    p.Preserved fresh defaultType := by
  have hmembers : (Event.ofPayload p fresh defaultType).members =
      p.sortedMembers fresh defaultType := p.ofList_toMembers_complete fresh defaultType
  constructor
  case serialized => rfl
  case tracked =>
    rintro config settings s rfl hopen
    refine ⟨_, _, rfl, ?_⟩
    show (s.buffer.enqueue (Client.event config p fresh)).2.contents.getLast? = _
    rcases s.buffer.enqueue_cases (Client.event config p fresh) with
      ⟨hclosed, _⟩ | ⟨_, _, heq⟩ | ⟨_, _, heq⟩
    · rw [hopen] at hclosed
      cases hclosed
    · rw [heq, List.getLast?_concat]
      rfl
    · rw [heq, List.getLast?_concat]
      rfl
  case sorted =>
    rw [hmembers]
    exact p.sorted_sortedMembers fresh defaultType
  case names =>
    intro name
    rw [hmembers]
    cases hname : p.customerName <;> cases hmetadata : p.metadata <;>
      simp [Payload.sortedMembers, Members.names, hname, hmetadata] <;> grind
  case restored =>
    refine ⟨_, p.ofJson_toJson_complete fresh defaultType, ⟨rfl, rfl, rfl, rfl⟩, ?_⟩
    intro fresh' defaultType'
    rw [Event.ofPayload, Event.ofPayload, p.complete_complete]

end Courier
