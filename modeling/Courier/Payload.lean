import Courier.Provider
import Courier.Json.Value
/-!
Usage events as producers describe them, and their JSON form.

A payload names the customer, the revenue in cents and the vendors that were used; everything else
may be left out.  The JSON form leaves out what is not set, and is read from an object or from an
array in the order of the members.
-/
namespace Courier

open Json (Source)

/-- The usage reported by one vendor. -/
structure VendorResponse where
  vendor : String
  usage : Usage
  deriving DecidableEq, Repr, Inhabited

/-- A usage event as its producer describes it. -/
structure Payload where
  customer : String
  revenueCents : Int64
  vendorResponses : List VendorResponse := []
  requestToken : Option String := none
  customerName : Option String := none
  eventType : Option String := none
  /-- An RFC 3339 timestamp. -/
  occurredAt : Option String := none
  metadata : Option Json.Members := none
  deriving Repr, Inhabited

namespace Usage

def toJson (usage : Usage) : Json :=
  Json.ofMembers [
    ("ai_model_name", .string usage.model),
    ("input_tokens", .integer usage.inputTokens.toNat),
    ("output_tokens", .integer usage.outputTokens.toNat)]

def record (ι : Type) [Source ι] : Json.Record ι Usage where
  name := "RawResponse"
  blank := ⟨"", 0, 0⟩
  members := [
    { name := "ai_model_name", required := true
      fill := fun _ x usage => do pure { usage with model := ← Source.readString x } },
    { name := "input_tokens", required := true
      fill := fun _ x usage => do pure { usage with inputTokens := ← Source.readUInt64 x } },
    { name := "output_tokens", required := true
      fill := fun _ x usage => do pure { usage with outputTokens := ← Source.readUInt64 x } }]

end Usage

namespace VendorResponse

/-- The usage in a provider's response under the provider's vendor name. -/
def ofProvider (provider : Provider) (response : Json) : VendorResponse :=
  ⟨provider.vendor, provider.extract response⟩

def toJson (response : VendorResponse) : Json :=
  Json.ofMembers [
    ("vendor_name", .string response.vendor),
    ("raw_response", response.usage.toJson)]

def record (ι : Type) [Source ι] : Json.Record ι VendorResponse where
  name := "VendorResponse"
  blank := ⟨"", ⟨"", 0, 0⟩⟩
  members := [
    { name := "vendor_name", required := true
      fill := fun _ x response => do pure { response with vendor := ← Source.readString x } },
    { name := "raw_response", required := true
      fill := fun room x response => do
        pure { response with usage := ← Source.readRecord (Usage.record ι) room x } }]

end VendorResponse

namespace Payload

/-- The members of the JSON form, in the order in which a payload declares them. -/
def toMembers (p : Payload) : List (String × Json) :=
  let text (name : String) (value : Option String) : List (String × Json) :=
    (value.map fun s => (name, Json.string s)).toList
  [("customer_external_id", .string p.customer),
    ("revenue_amount_in_cents", .integer p.revenueCents.toInt),
    ("vendor_responses", .array (p.vendorResponses.map VendorResponse.toJson))]
  ++ text "unique_request_token" p.requestToken
  ++ text "customer_name" p.customerName
  ++ text "event_type" p.eventType
  ++ text "occurred_at" p.occurredAt
  ++ (p.metadata.map fun members => ("metadata", Json.object members)).toList

def toJson (p : Payload) : Json := Json.ofMembers p.toMembers

def record (ι : Type) [Source ι] : Json.Record ι Payload where
  name := "EventPayload"
  blank := { customer := "", revenueCents := 0 }
  members := [
    { name := "customer_external_id", required := true
      fill := fun _ x p => do pure { p with customer := ← Source.readString x } },
    { name := "revenue_amount_in_cents", required := true
      fill := fun _ x p => do pure { p with revenueCents := ← Source.readInt64 x } },
    { name := "vendor_responses", required := false
      fill := fun room x p => do
        let read := Source.readRecord (VendorResponse.record ι)
        pure { p with vendorResponses := ← Source.readList read room x } },
    { name := "unique_request_token", required := false
      fill := fun _ x p => do
        pure { p with requestToken := ← Source.readOption Source.readString x } },
    { name := "customer_name", required := false
      fill := fun _ x p => do
        pure { p with customerName := ← Source.readOption Source.readString x } },
    { name := "event_type", required := false
      fill := fun _ x p => do
        pure { p with eventType := ← Source.readOption Source.readString x } },
    { name := "occurred_at", required := false
      fill := fun _ x p => do
        pure { p with occurredAt := ← Source.readOption Source.readString x } },
    { name := "metadata", required := false
      fill := fun room x p => do
        pure { p with metadata := ← Source.readOption (Source.readObject room) x } }]

def parse (text : String) : Except Json.Problem Payload :=
  Json.readText (Source.readRecord (record Json.Outline)) text

def ofJson (value : Json) : Except Json.Problem Payload :=
  Source.readRecord (record Json) Json.maxRoom value

def addVendor (p : Payload) (response : VendorResponse) : Payload :=
  { p with vendorResponses := p.vendorResponses ++ [response] }

end Payload

end Courier
