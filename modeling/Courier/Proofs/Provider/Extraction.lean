import Courier.Proofs.Payload.Wire
import Mathlib.Data.List.Basic
/-!
What a provider's response says about usage, from the response to the wire.

Each field of a usage has paths of its own.  It is the first value of its kind along them, and blank
if there is none; nothing else in the response has an influence on it.  An event carries what was
found to the collector, in the place at which it was added to its payload.
-/
namespace Courier

open Json (Members)

namespace Usage

/-- The fields of a usage. -/
inductive Field where
  | model
  | inputTokens
  | outputTokens
  deriving DecidableEq, Repr

namespace Field

def shown : Field → Usage → Json
  | .model, usage => .string usage.model
  | .inputTokens, usage => .integer usage.inputTokens.toNat
  | .outputTokens, usage => .integer usage.outputTokens.toNat

/-- What the field is if a response does not give it. -/
def blank : Field → Json
  | .model => .string ""
  | .inputTokens | .outputTokens => .integer 0

/-- A model is a string, and a count of tokens a natural number of 64 bits. -/
def fits : Field → Json → Bool
  | .model => fun
    | .string _ => true
    | _ => false
  | .inputTokens | .outputTokens => fun
    | .integer n => 0 ≤ n && n < 0x10000000000000000
    | _ => false

/-- The place of the field in a response of Google's, in camel case. -/
def camelPath : Field → List String
  | .model => ["modelVersion"]
  | .inputTokens => ["usageMetadata", "promptTokenCount"]
  | .outputTokens => ["usageMetadata", "candidatesTokenCount"]

/-- The place of the field where it is spelled in snake case. -/
def snakePath : Field → List String
  | .model => ["model_version"]
  | .inputTokens => ["usage_metadata", "prompt_token_count"]
  | .outputTokens => ["usage_metadata", "candidates_token_count"]

/-- The places of the field in the responses of a provider, the preferred one first. -/
def paths (field : Field) : Provider → List (List String)
  | .openai =>
    match field with
    | .model => [["model"]]
    | .inputTokens => [["usage", "prompt_tokens"]]
    | .outputTokens => [["usage", "completion_tokens"]]
  | .anthropic =>
    match field with
    | .model => [["model"]]
    | .inputTokens => [["usage", "input_tokens"]]
    | .outputTokens => [["usage", "output_tokens"]]
  | .google => [field.camelPath, field.snakePath]

/-- The response has no value of the field's kind at the path. -/
def Lacks (field : Field) (response : Json) (path : List String) : Prop :=
  ∀ value, response.at? path = some value → ¬ field.fits value

/-- The value is the first one of the field's kind along the field's paths. -/
def Finds (field : Field) (provider : Provider) (response value : Json) : Prop :=
  ∃ before path after, field.paths provider = before ++ path :: after ∧
    response.at? path = some value ∧ field.fits value ∧
    ∀ other ∈ before, field.Lacks response other

/-- A usage is its three fields. -/
theorem eq_of_shown {usage other : Usage}
    (h : ∀ field : Field, field.shown usage = field.shown other) : usage = other := by
  have hmodel := h .model
  have hinput := h .inputTokens
  have houtput := h .outputTokens
  simp only [shown, Json.string.injEq, Json.integer.injEq, Int.ofNat_inj, UInt64.toNat_inj]
    at hmodel hinput houtput
  cases usage
  cases other
  simp_all only

end Field

end Usage

namespace Json

theorem map_text? (value : Json) :
    value.text?.map string = (some value).filter Usage.Field.model.fits := by
  cases value <;> rfl

theorem map_word? (value : Json) : (value.word?.map fun count => integer count.toNat) =
    (some value).filter Usage.Field.inputTokens.fits := by
  cases value with
  | integer n =>
    rw [word?]
    split
    case isTrue h =>
      have hback : ((UInt64.ofNat n.toNat).toNat : Int) = n := by
        rw [UInt64.toNat_ofNat', Nat.mod_eq_of_lt (by omega)]
        omega
      have hfits : Usage.Field.inputTokens.fits (integer n) = true := by
        simp [Usage.Field.fits, h]
      rw [Option.map_some, hback, Option.filter_some_pos hfits]
    case isFalse h =>
      have hfits : Usage.Field.inputTokens.fits (integer n) = false := by
        simpa [Usage.Field.fits] using h
      rw [Option.map_none, Option.filter_some_neg hfits]
  | _ => rfl

theorem Members.get?_insert_of_ne {asked name : String} (hne : asked ≠ name) (value : Json)
    (members : Members) : (insert name value members).get? asked = members.get? asked := by
  induction members with
  | nil => simp [insert, get?, hne]
  | cons member rest ih =>
    obtain ⟨other, held⟩ := member
    rw [insert]
    split
    · rw [get?, if_neg hne]
    · split
      · rename_i hother
        rw [get?, get?, if_neg hne, if_neg (hother ▸ hne)]
      · rw [get?, get?, ih]

/-- A member under another name than the first of a path is not seen there. -/
theorem at?_insert {path : List String} {name : String} (hpath : path ≠ [])
    (hhead : path.head? ≠ some name) (value : Json) (members : Members) :
    at? path (.object (members.insert name value)) = at? path (.object members) := by
  cases path with
  | nil => exact absurd rfl hpath
  | cons other path =>
    have hother : other ≠ name := fun h => hhead (by rw [h, List.head?_cons])
    rw [at?, at?, Members.get?_insert_of_ne hother]

end Json

theorem Payload.vendorResponses_foldl_addVendor (later : List VendorResponse) (p : Payload) :
    (later.foldl addVendor p).vendorResponses = p.vendorResponses ++ later := by
  induction later generalizing p with
  | nil => rw [List.foldl_nil, List.append_nil]
  | cons response later ih =>
    rw [List.foldl_cons, ih, addVendor, List.append_assoc, List.singleton_append]

theorem Event.get?_vendorResponses (p : Payload) (fresh : Fresh) (defaultType : String) :
    (ofPayload p fresh defaultType).get? "vendor_responses" =
      some (.array (p.vendorResponses.map VendorResponse.toJson)) := by
  rw [ofPayload, get?, p.ofList_toMembers_complete]
  cases hname : p.customerName <;> cases hmetadata : p.metadata <;>
    simp [Payload.sortedMembers, Members.get?, hname, hmetadata]

/-- The wire form of a usage is that of its fields. -/
theorem Usage.toJson_eq_shown (usage : Usage) : usage.toJson =
    .object [("ai_model_name", Field.model.shown usage),
      ("input_tokens", Field.inputTokens.shown usage),
      ("output_tokens", Field.outputTokens.shown usage)] :=
  usage.toJson_eq

namespace Provider

/-- Reading the first value that is fit and writing it is finding the first value that fits. -/
theorem write_firstAt {α : Type} {read : Json → Option α} {write : α → Json} {fits : Json → Bool}
    (hread : ∀ value, (read value).map write = (some value).filter fits) (default : α)
    (paths : List (List String)) (response : Json) :
    write ((firstAt read paths response).getD default) =
      (paths.findSome? fun path => (response.at? path).filter fits).getD (write default) := by
  have hpath : (Option.map write ∘ fun path => (response.at? path).bind read) =
      fun path => (response.at? path).filter fits := by
    funext path
    cases hvalue : response.at? path with
    | none => simp [hvalue]
    | some value => simpa [hvalue] using hread value
  rw [← Option.getD_map write, firstAt, List.map_findSome?, hpath]

theorem paths_eq (field : Usage.Field) (provider : Provider) : field.paths provider =
    match field with
    | .model => provider.paths.model
    | .inputTokens => provider.paths.inputTokens
    | .outputTokens => provider.paths.outputTokens := by
  cases field <;> cases provider <;> rfl

/-- The one lemma that looks into the extraction: each field is the first fit value along its own
paths. -/
theorem shown_extract (field : Usage.Field) (provider : Provider) (response : Json) :
    field.shown (provider.extract response) =
      ((field.paths provider).findSome? fun path => (response.at? path).filter field.fits).getD
        field.blank := by
  rw [paths_eq]
  cases field with
  | model => exact write_firstAt Json.map_text? "" provider.paths.model response
  | inputTokens => exact write_firstAt Json.map_word? 0 provider.paths.inputTokens response
  | outputTokens => exact write_firstAt Json.map_word? 0 provider.paths.outputTokens response

variable {field : Usage.Field} {provider : Provider} {response : Json}

theorem shown_of_finds {value : Json} (h : field.Finds provider response value) :
    field.shown (provider.extract response) = value := by
  obtain ⟨before, path, after, hpaths, hvalue, hfits, hbefore⟩ := h
  rw [shown_extract, List.findSome?_eq_some_iff.mpr ⟨before, path, after, hpaths,
    Option.filter_eq_some_iff.mpr ⟨hvalue, hfits⟩,
    fun other hother => Option.filter_eq_none_iff.mpr (hbefore other hother)⟩, Option.getD_some]

theorem shown_of_lacks (h : ∀ path ∈ field.paths provider, field.Lacks response path) :
    field.shown (provider.extract response) = field.blank := by
  rw [shown_extract, List.findSome?_eq_none_iff.mpr fun path hpath =>
    Option.filter_eq_none_iff.mpr (h path hpath), Option.getD_none]

theorem shown_congr {other : Json}
    (h : ∀ path ∈ field.paths provider, response.at? path = other.at? path) :
    field.shown (provider.extract response) = field.shown (provider.extract other) := by
  have hpaths : ∀ path ∈ field.paths provider,
      (response.at? path).filter field.fits = (other.at? path).filter field.fits :=
    fun path hpath => by rw [h path hpath]
  rw [shown_extract, shown_extract, ← List.head?_filterMap, ← List.head?_filterMap,
    List.filterMap_congr hpaths]

theorem extract_congr {other : Json}
    (h : ∀ field : Usage.Field, ∀ path ∈ field.paths provider, response.at? path = other.at? path) :
    provider.extract response = provider.extract other :=
  Usage.Field.eq_of_shown fun field => shown_congr (h field)

theorem ne_nil_of_mem_paths {path : List String} (h : path ∈ field.paths provider) : path ≠ [] := by
  rintro rfl
  revert h
  cases field <;> cases provider <;> decide

/-- What the usage of a response depends on. -/
structure Exact (provider : Provider) : Prop where
  /-- A field is the first value of its kind along its paths. -/
  found : ∀ (field : Usage.Field) response value, field.Finds provider response value →
    field.shown (provider.extract response) = value
  /-- It is blank if they hold none. -/
  missing : ∀ (field : Usage.Field) response,
    (∀ path ∈ field.paths provider, field.Lacks response path) →
    field.shown (provider.extract response) = field.blank
  /-- Responses that agree along the paths of one field have it in common. -/
  independent : ∀ (field : Usage.Field) (response other : Json),
    (∀ path ∈ field.paths provider, response.at? path = other.at? path) →
    field.shown (provider.extract response) = field.shown (provider.extract other)
  /-- Responses that agree along all the paths have the same usage. -/
  agreed : ∀ response other : Json,
    (∀ field : Usage.Field, ∀ path ∈ field.paths provider,
      response.at? path = other.at? path) →
    provider.extract response = provider.extract other
  /-- So a member under a name that begins no path has no influence, -/
  extra : ∀ members name value,
    (∀ field : Usage.Field, ∀ path ∈ field.paths provider, path.head? ≠ some name) →
    provider.extract (.object (Members.insert name value members)) =
      provider.extract (.object members)
  /-- and a response that is no object has no usage. -/
  shapeless : ∀ response, (∀ members, response ≠ .object members) →
    provider.extract response = ⟨"", 0, 0⟩

/-- How a response of Google's is read, in which each field is spelled in one of two ways. -/
structure Spelled (response : Json) : Prop where
  camel : ∀ (field : Usage.Field) value, response.at? field.camelPath = some value →
    field.fits value → field.shown (google.extract response) = value
  snake : ∀ (field : Usage.Field) value, field.Lacks response field.camelPath →
    response.at? field.snakePath = some value → field.fits value →
    field.shown (google.extract response) = value
  neither : ∀ field : Usage.Field, field.Lacks response field.camelPath →
    field.Lacks response field.snakePath →
    field.shown (google.extract response) = field.blank

/-- What becomes of the usage that a payload takes from a response. -/
structure Carried (provider : Provider) (response : Json) : Prop where
  /-- The usage stands behind those that were added before it, whatever is added later. -/
  placed : ∀ (p : Payload) (later : List VendorResponse),
    (later.foldl Payload.addVendor
      (p.addVendor (.ofProvider provider response))).vendorResponses[p.vendorResponses.length]? =
        some (.ofProvider provider response)
  /-- In its place on the wire are what the paths hold and the provider's vendor name, and nothing
  more. -/
  wire : ∀ model input output,
    Usage.Field.model.Finds provider response (.string model) →
    Usage.Field.inputTokens.Finds provider response (.integer input) →
    Usage.Field.outputTokens.Finds provider response (.integer output) →
    ∀ (p : Payload) fresh defaultType (place : Nat),
    p.vendorResponses[place]? = some (.ofProvider provider response) →
    ∃ items, (Event.ofPayload p fresh defaultType).get? "vendor_responses" = some (.array items) ∧
      items.length = p.vendorResponses.length ∧
      items[place]? = some (.object [
        ("raw_response", .object [("ai_model_name", .string model),
          ("input_tokens", .integer input), ("output_tokens", .integer output)]),
        ("vendor_name", .string provider.vendor)])

theorem exact_extract (provider : Provider) : provider.Exact := by
  constructor
  case found => exact fun _ _ _ => shown_of_finds
  case missing => exact fun _ _ => shown_of_lacks
  case independent => exact fun _ _ _ => shown_congr
  case agreed => exact fun _ _ => extract_congr
  case extra =>
    intro members name value hname
    exact extract_congr fun field path hpath =>
      Json.at?_insert (ne_nil_of_mem_paths hpath) (hname field path hpath) value members
  case shapeless =>
    intro response hresponse
    have hnone : ∀ field : Usage.Field, ∀ path ∈ field.paths provider,
        response.at? path = Json.at? path .null := by
      intro field path hpath
      obtain ⟨name, path, rfl⟩ := List.exists_cons_of_ne_nil (ne_nil_of_mem_paths hpath)
      cases response with
      | object members => exact absurd rfl (hresponse members)
      | _ => rfl
    rw [extract_congr hnone, extract_null]

theorem spelled_extract (response : Json) : Spelled response := by
  constructor
  case camel =>
    intro field value hvalue hfits
    exact shown_of_finds ⟨[], field.camelPath, [field.snakePath], rfl, hvalue, hfits,
      fun _ h => absurd h List.not_mem_nil⟩
  case snake =>
    intro field value hcamel hvalue hfits
    refine shown_of_finds ⟨[field.camelPath], field.snakePath, [], rfl, hvalue, hfits, ?_⟩
    intro other hother
    rwa [List.mem_singleton.mp hother]
  case neither =>
    intro field hcamel hsnake
    apply shown_of_lacks
    intro path hpath
    have hpath : path ∈ [field.camelPath, field.snakePath] := hpath
    simp only [List.mem_cons, List.not_mem_nil, or_false] at hpath
    obtain rfl | rfl := hpath
    · exact hcamel
    · exact hsnake

example : google.extract (.object [("modelVersion", .integer 1), ("model_version", .string "m"),
    ("usageMetadata", .object [("promptTokenCount", .integer 7)]),
    ("usage_metadata", .object [("candidates_token_count", .integer 2),
      ("prompt_token_count", .integer 9)])]) = ⟨"m", 7, 2⟩ := by decide

theorem carried_extract (provider : Provider) (response : Json) :
    provider.Carried response := by
  constructor
  case placed =>
    intro p later
    rw [Payload.vendorResponses_foldl_addVendor, Payload.addVendor, List.append_assoc,
      List.getElem?_append_right (Nat.le_refl _), Nat.sub_self]
    rfl
  case wire =>
    intro model input output hmodel hinput houtput p fresh defaultType place hplace
    refine ⟨_, Event.get?_vendorResponses p fresh defaultType, List.length_map _, ?_⟩
    rw [List.getElem?_map, hplace, Option.map_some, VendorResponse.toJson_eq,
      VendorResponse.ofProvider, Usage.toJson_eq_shown, shown_of_finds hmodel,
      shown_of_finds hinput, shown_of_finds houtput]

/-- Extraction takes from a response what the provider's paths hold and nothing else, in either
spelling, and that is what arrives. -/
theorem extraction_exact :
    (∀ provider : Provider, provider.Exact ∧ ∀ response, provider.Carried response) ∧
      ∀ response, Spelled response :=
  ⟨fun provider => ⟨provider.exact_extract, provider.carried_extract⟩, spelled_extract⟩

end Provider

end Courier
