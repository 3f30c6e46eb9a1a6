import Courier.Proofs.Json.Record
import Courier.Payload
/-!
The text of a payload.

A payload is recovered from its compact text, and from every other text that tells the same: members
in another order, blanks between the tokens, nulls for what is absent, and members that nobody knows.
No text that names a member twice is read.
-/
namespace Courier

open Json (Outline Source Members)

/-- The integers of the JSON form have 64 bits. -/
theorem Json.kept_uint64 (n : UInt64) : Json.Kept n.toNat := by
  have hhigh := n.toNat_lt
  unfold Json.Kept Json.maxInteger
  omega

theorem Json.kept_int64 (n : Int64) : Json.Kept n.toInt := by
  have hlow := n.le_toInt
  have hhigh := n.toInt_lt
  unfold Json.Kept Json.maxInteger
  omega

namespace Usage

/-- What usage says. -/
def fields (u : Usage) : List (String × (Outline → Prop)) := [
  ("ai_model_name", (·.Shows (.string u.model))),
  ("input_tokens", (·.Shows (.integer u.inputTokens.toNat))),
  ("output_tokens", (·.Shows (.integer u.outputTokens.toNat)))]

/-- An outline tells usage. -/
def Told (u : Usage) (o : Outline) : Prop := o.Lists (record Outline).names u.fields []

/-- Usage as far as it was told. -/
def upTo (u : Usage) (told : List String) : Usage where
  model := if "ai_model_name" ∈ told then u.model else ""
  inputTokens := if "input_tokens" ∈ told then u.inputTokens else 0
  outputTokens := if "output_tokens" ∈ told then u.outputTokens else 0

theorem takes (u : Usage) (room : Nat) :
    ∀ field ∈ u.fields, ∀ o, field.2 o → (record Outline).Takes room u.upTo field.1 o := by
  simp only [fields, List.forall_mem_cons]
  refine ⟨?_, ?_, ?_, ?_⟩
  · intro o ho seen
    have hread := Json.readString_of_shows ho
    simp [hread, bind, Except.bind, pure, Except.pure, upTo]
  · intro o ho seen
    have hread := Json.readUInt64_of_shows ho
    simp [hread, bind, Except.bind, pure, Except.pure, upTo]
  · intro o ho seen
    have hread := Json.readUInt64_of_shows ho
    simp [hread, bind, Except.bind, pure, Except.pure, upTo]
  · simp

theorem staged (u : Usage) (room : Nat) :
    (record Outline).Staged room u.upTo u.fields [] u where
  distinct := by simp [fields]
  known := by simp [fields, record, Json.Record.names]
  required := by simp [fields, record]
  takes := u.takes room
  nulls := by simp
  blank := rfl
  whole told htold := by
    simp only [fields, List.map_cons, List.map_nil, List.cons_subset] at htold
    simp [upTo, htold]

theorem read_of_told {u : Usage} {o : Outline} (h : u.Told o) (room : Nat) :
    Source.readRecord (record Outline) (room + 1) o = .ok u := by
  obtain ⟨members, rfl, hlists⟩ := h
  exact (u.staged room).read_of_lists hlists

theorem told_toJson (u : Usage) : u.Told u.toJson.outline := by
  apply Outline.lists_object [] (Members.ofList_perm (by simp))
  refine .cons ⟨rfl, ?_⟩ (.cons ⟨rfl, ?_⟩ (.cons ⟨rfl, ?_⟩ .nil))
  · exact .string (Json.Quoted.spells_ofString _)
  · exact .integer (Json.kept_uint64 _)
  · exact .integer (Json.kept_uint64 _)

theorem exact_toJson (u : Usage) : u.toJson.All Json.Exact := by
  refine ⟨trivial, Json.allMembers_iff.mpr ?_⟩
  intro member hmember
  rw [(Members.ofList_perm (by simp)).mem_iff] at hmember
  simp only [List.mem_cons, List.not_mem_nil, or_false] at hmember
  rcases hmember with rfl | rfl | rfl
  · exact trivial
  · exact Json.kept_uint64 _
  · exact Json.kept_uint64 _

end Usage

namespace VendorResponse

/-- What the usage of one vendor says. -/
def fields (r : VendorResponse) : List (String × (Outline → Prop)) := [
  ("vendor_name", (·.Shows (.string r.vendor))),
  ("raw_response", r.usage.Told)]

/-- An outline tells the usage of one vendor. -/
def Told (r : VendorResponse) (o : Outline) : Prop := o.Lists (record Outline).names r.fields []

/-- The usage of one vendor as far as it was told. -/
def upTo (r : VendorResponse) (told : List String) : VendorResponse where
  vendor := if "vendor_name" ∈ told then r.vendor else ""
  usage := if "raw_response" ∈ told then r.usage else ⟨"", 0, 0⟩

theorem takes (r : VendorResponse) (room : Nat) :
    ∀ field ∈ r.fields, ∀ o, field.2 o → (record Outline).Takes (room + 1) r.upTo field.1 o := by
  simp only [fields, List.forall_mem_cons]
  refine ⟨?_, ?_, ?_⟩
  · intro o ho seen
    have hread := Json.readString_of_shows ho
    simp [hread, bind, Except.bind, pure, Except.pure, upTo]
  · intro o ho seen
    have hread := Usage.read_of_told ho room
    simp [hread, bind, Except.bind, pure, Except.pure, upTo]
  · simp

theorem staged (r : VendorResponse) (room : Nat) :
    (record Outline).Staged (room + 1) r.upTo r.fields [] r where
  distinct := by simp [fields]
  known := by simp [fields, record, Json.Record.names]
  required := by simp [fields, record]
  takes := r.takes room
  nulls := by simp
  blank := rfl
  whole told htold := by
    simp only [fields, List.map_cons, List.map_nil, List.cons_subset] at htold
    simp [upTo, htold]

theorem read_of_told {r : VendorResponse} {o : Outline} (h : r.Told o) (room : Nat) :
    Source.readRecord (record Outline) (room + 2) o = .ok r := by
  obtain ⟨members, rfl, hlists⟩ := h
  exact (r.staged room).read_of_lists hlists

def entries (r : VendorResponse) : List (String × Json) :=
  [("vendor_name", .string r.vendor), ("raw_response", r.usage.toJson)]

def declared (r : VendorResponse) : Json := .object r.entries

theorem perm_entries (r : VendorResponse) : (Members.ofList r.entries).Perm r.entries :=
  Members.ofList_perm (by simp [entries])

theorem told_object (r : VendorResponse) {members : Members} (h : members.Perm r.entries) :
    r.Told (Json.object members).outline := by
  apply Outline.lists_object [] h
  refine .cons ⟨rfl, ?_⟩ (.cons ⟨rfl, ?_⟩ .nil)
  · exact .string (Json.Quoted.spells_ofString _)
  · exact r.usage.told_toJson

theorem exact_object (r : VendorResponse) {members : Members} (h : members.Perm r.entries) :
    (Json.object members).All Json.Exact := by
  refine ⟨trivial, Json.allMembers_iff.mpr ?_⟩
  intro member hmember
  rw [h.mem_iff, entries] at hmember
  simp only [List.mem_cons, List.not_mem_nil, or_false] at hmember
  rcases hmember with rfl | rfl
  · exact trivial
  · exact r.usage.exact_toJson

end VendorResponse

namespace Payload

/-- What a payload says under the names that it may lack. -/
def options (p : Payload) : List (String × Option Json) := [
  ("unique_request_token", p.requestToken.map .string),
  ("customer_name", p.customerName.map .string),
  ("event_type", p.eventType.map .string),
  ("occurred_at", p.occurredAt.map .string),
  ("metadata", p.metadata.map .object)]

/-- What of that is there. -/
def stated (p : Payload) : List (String × Json) :=
  p.options.filterMap fun option => option.2.map fun value => (option.1, value)

/-- What a payload says. -/
def fields (p : Payload) : List (String × (Outline → Prop)) := [
  ("customer_external_id", (·.Shows (.string p.customer))),
  ("revenue_amount_in_cents", (·.Shows (.integer p.revenueCents.toInt))),
  ("vendor_responses", fun o => ∃ items, o = .array items .closed ∧
    List.Forall₂ (fun item r => VendorResponse.Told r item) items p.vendorResponses)]
  ++ p.stated.map fun entry => (entry.1, (·.Shows entry.2))

/-- The names of what a payload lacks. -/
def absent (p : Payload) : List String :=
  p.options.filterMap fun option => if option.2.isNone then some option.1 else none

/-- An outline tells a payload. -/
def Told (p : Payload) (o : Outline) : Prop := o.Lists (record Outline).names p.fields p.absent

/-- A payload as far as it was told. -/
def upTo (p : Payload) (told : List String) : Payload where
  customer := if "customer_external_id" ∈ told then p.customer else ""
  revenueCents := if "revenue_amount_in_cents" ∈ told then p.revenueCents else 0
  vendorResponses := if "vendor_responses" ∈ told then p.vendorResponses else []
  requestToken := if "unique_request_token" ∈ told then p.requestToken else none
  customerName := if "customer_name" ∈ told then p.customerName else none
  eventType := if "event_type" ∈ told then p.eventType else none
  occurredAt := if "occurred_at" ∈ told then p.occurredAt else none
  metadata := if "metadata" ∈ told then p.metadata else none

section

variable {p : Payload} {room : Nat}

theorem mem_stated {entry : String × Json} :
    entry ∈ p.stated ↔ (entry.1, some entry.2) ∈ p.options := by
  constructor
  · intro h
    obtain ⟨⟨name, value⟩, hoption, hsome⟩ := List.mem_filterMap.mp h
    cases value with
    | none => cases hsome
    | some value =>
        obtain rfl := Option.some.inj hsome
        exact hoption
  · intro h
    exact List.mem_filterMap.mpr ⟨_, h, rfl⟩

theorem names_fields : p.fields.map Prod.fst =
    ["customer_external_id", "revenue_amount_in_cents", "vendor_responses"] ++
      p.stated.map Prod.fst := by
  rw [fields, List.map_append, List.map_map]
  rfl

theorem takes_option (hroom : ∀ members ∈ p.metadata, (Json.object members).depth ≤ room) :
    ∀ option ∈ p.options, ∀ o : Outline, o.ShowsOption option.2 →
      (record Outline).Takes room p.upTo option.1 o := by
  simp only [options, List.forall_mem_cons]
  refine ⟨?_, ?_, ?_, ?_, ?_, ?_⟩
  · intro o ho seen
    have hread := Json.readOption_string ho
    simp [hread, bind, Except.bind, pure, Except.pure, upTo]
  · intro o ho seen
    have hread := Json.readOption_string ho
    simp [hread, bind, Except.bind, pure, Except.pure, upTo]
  · intro o ho seen
    have hread := Json.readOption_string ho
    simp [hread, bind, Except.bind, pure, Except.pure, upTo]
  · intro o ho seen
    have hread := Json.readOption_string ho
    simp [hread, bind, Except.bind, pure, Except.pure, upTo]
  · intro o ho seen
    have hread := Json.readOption_object ho hroom
    simp [hread, bind, Except.bind, pure, Except.pure, upTo]
  · simp

theorem takes (hroom : ∀ members ∈ p.metadata, (Json.object members).depth ≤ room)
    (hvendors : 3 ≤ room) :
    ∀ field ∈ p.fields, ∀ o, field.2 o → (record Outline).Takes room p.upTo field.1 o := by
  obtain ⟨room, rfl⟩ := Nat.exists_eq_add_of_le' hvendors
  simp only [fields, List.cons_append, List.nil_append, List.forall_mem_cons]
  refine ⟨?_, ?_, ?_, ?_⟩
  · intro o ho seen
    have hread := Json.readString_of_shows ho
    simp [hread, bind, Except.bind, pure, Except.pure, upTo]
  · intro o ho seen
    have hread := Json.readInt64_of_shows ho
    simp [hread, bind, Except.bind, pure, Except.pure, upTo]
  · rintro o ⟨items, rfl, hitems⟩ seen
    have hread := Json.readList_of_forall₂ (hitems.imp fun item r hr =>
      VendorResponse.read_of_told hr room)
    simp [hread, bind, Except.bind, pure, Except.pure, upTo]
  · intro field hfield o ho
    obtain ⟨entry, hentry, rfl⟩ := List.mem_map.mp hfield
    exact takes_option hroom _ (mem_stated.mp hentry) o ho

/-- What a payload says and what it lacks are all its members. -/
theorem names_perm : (p.fields.map Prod.fst ++ p.absent).Perm (record Outline).names := by
  have hsome : p.stated.map Prod.fst =
      (p.options.filter fun option => option.2.isSome).map Prod.fst := by
    rw [stated, List.map_filterMap, ← List.filterMap_eq_map, List.filterMap_filter]
    apply List.filterMap_congr
    rintro ⟨name, value⟩ _
    cases value <;> rfl
  have hnone : p.absent = (p.options.filter fun option => !option.2.isSome).map Prod.fst := by
    rw [absent, ← List.filterMap_eq_map, List.filterMap_filter]
    apply List.filterMap_congr
    rintro ⟨name, value⟩ _
    cases value <;> rfl
  have hoptions := (List.filter_append_perm (fun option => option.2.isSome) p.options).map Prod.fst
  rw [List.map_append, ← hsome, ← hnone] at hoptions
  rw [names_fields, List.append_assoc]
  exact hoptions.append_left _

/-- Where all that a payload says was told, nothing is missing. -/
theorem upTo_eq_self {told : List String} (htold : p.fields.map Prod.fst ⊆ told) :
    p.upTo told = p := by
  rw [names_fields] at htold
  have hoption : ∀ option ∈ p.options, option.1 ∈ told ∨ option.2 = none := by
    rintro ⟨name, value⟩ hmem
    cases value with
    | none => exact Or.inr rfl
    | some value =>
        have hentry : (name, value) ∈ p.stated := mem_stated.mpr hmem
        exact Or.inl (htold (List.mem_append_right _ (List.mem_map_of_mem hentry)))
  have hkeep : ∀ {α : Type} {name : String} (value : Option α), name ∈ told ∨ value = none →
      (if name ∈ told then value else none) = value := by
    rintro α name value (hmem | rfl)
    · exact if_pos hmem
    · exact ite_self none
  simp only [options, List.forall_mem_cons, Option.map_eq_none_iff] at hoption
  obtain ⟨htoken, hname, htype, htime, hmetadata, _⟩ := hoption
  simp only [List.cons_append, List.cons_subset] at htold
  obtain ⟨hcustomer, hrevenue, hvendors, _⟩ := htold
  simp only [upTo, hcustomer, hrevenue, hvendors, if_true, hkeep _ htoken, hkeep _ hname,
    hkeep _ htype, hkeep _ htime, hkeep _ hmetadata]

theorem staged (hroom : ∀ members ∈ p.metadata, (Json.object members).depth ≤ room)
    (hvendors : 3 ≤ room) : (record Outline).Staged room p.upTo p.fields p.absent p where
  distinct := by
    refine names_perm.nodup_iff.mpr ?_
    simp [record, Json.Record.names]
  known name hname := names_perm.mem_iff.mp hname
  required := by simp [fields, record]
  takes := takes hroom hvendors
  nulls name hname := by
    obtain ⟨⟨_, value⟩, hoption, hnone⟩ := List.mem_filterMap.mp hname
    cases value with
    | some value => cases hnone
    | none =>
        obtain rfl := Option.some.inj hnone
        exact takes_option hroom _ hoption .null rfl
  blank := rfl
  whole told htold := upTo_eq_self htold

end

/-- The members of the JSON form in the order in which they are declared, the usage of each vendor
being encoded. -/
def entries (encode : VendorResponse → Json) (p : Payload) : List (String × Json) := [
  ("customer_external_id", .string p.customer),
  ("revenue_amount_in_cents", .integer p.revenueCents.toInt),
  ("vendor_responses", .array (p.vendorResponses.map encode))]
  ++ p.stated

/-- The JSON form with all members as they are declared. -/
def declared (p : Payload) : Json := .object (p.entries VendorResponse.declared)

/-- No floating-point number stands in the metadata, its integers have 64 bits, and the members of its
objects are in order. -/
def Exact (p : Payload) : Prop :=
  ∀ members ∈ p.metadata, (Json.object members).All Json.Exact ∧ (Json.object members).All Json.Tidy

section

variable {p : Payload} {encode : VendorResponse → Json}

theorem toMembers_eq_entries : p.toMembers = p.entries VendorResponse.toJson := by
  rw [entries, stated, List.filterMap_eq_flatMap_toList]
  simp [toMembers, options]
  rfl

theorem perm_entries : (Members.ofList (p.entries encode)).Perm (p.entries encode) := by
  apply Members.ofList_perm
  have hnames : (p.entries encode).map Prod.fst = p.fields.map Prod.fst := by
    rw [names_fields, entries, List.map_append]
    rfl
  have hnodup : (record Outline).names.Nodup := by
    simp [record, Json.Record.names]
  rw [hnames]
  exact (List.nodup_append.mp (names_perm.nodup_iff.mpr hnodup)).1

theorem Exact.of_stated (h : p.Exact) :
    ∀ entry ∈ p.stated, entry.2.All Json.Exact ∧ entry.2.All Json.Tidy := by
  suffices ∀ option ∈ p.options, ∀ value ∈ option.2, value.All Json.Exact ∧ value.All Json.Tidy from
    fun entry hentry => this _ (mem_stated.mp hentry) _ rfl
  have htext : ∀ (s : Option String), ∀ value ∈ s.map Json.string,
      value.All Json.Exact ∧ value.All Json.Tidy := by
    rintro (_ | s) value hvalue
    · cases hvalue
    · obtain rfl := Option.some.inj hvalue
      exact ⟨trivial, trivial⟩
  simp only [options, List.forall_mem_cons]
  refine ⟨htext _, htext _, htext _, htext _, ?_, by simp⟩
  intro value hvalue
  obtain ⟨members, hmembers, rfl⟩ := Option.map_eq_some_iff.mp hvalue
  exact h members hmembers

/-- The members of the JSON form tell the payload in any order. -/
theorem told_object (h : p.Exact) (hencode : ∀ r, VendorResponse.Told r (encode r).outline)
    {members : Members} (hperm : members.Perm (p.entries encode)) :
    p.Told (Json.object members).outline := by
  apply Outline.lists_object p.absent hperm
  refine .cons ⟨rfl, ?_⟩ (.cons ⟨rfl, ?_⟩ (.cons ⟨rfl, ?_⟩ ?_))
  · exact .string (Json.Quoted.spells_ofString _)
  · exact .integer (Json.kept_int64 _)
  · refine ⟨_, rfl, ?_⟩
    rw [Json.outlineItems_eq_map, List.forall₂_map_left_iff, List.forall₂_map_left_iff]
    exact List.forall₂_same.mpr fun r _ => hencode r
  · apply List.forall₂_map_right_iff.mpr
    apply List.forall₂_same.mpr
    intro entry hentry
    obtain ⟨hexact, htidy⟩ := h.of_stated entry hentry
    exact ⟨rfl, Json.shows_outline hexact htidy⟩

theorem exact_object (h : p.Exact) (hencode : ∀ r, (encode r).All Json.Exact)
    {members : Members} (hperm : members.Perm (p.entries encode)) :
    (Json.object members).All Json.Exact := by
  refine ⟨trivial, Json.allMembers_iff.mpr ?_⟩
  intro member hmember
  rw [hperm.mem_iff] at hmember
  simp only [entries, List.mem_append, List.mem_cons, List.not_mem_nil, or_false] at hmember
  rcases hmember with (rfl | rfl | rfl) | hmember
  · exact trivial
  · exact Json.kept_int64 _
  · refine ⟨trivial, Json.allItems_iff.mpr ?_⟩
    intro item hitem
    obtain ⟨r, _, rfl⟩ := List.mem_map.mp hitem
    exact hencode r
  · exact (h.of_stated member hmember).1

theorem staged_inside (hroom : ∀ members ∈ p.metadata, (Json.object members).depth < Json.maxRoom) :
    (record Outline).Staged 126 p.upTo p.fields p.absent p :=
  staged (fun members hmembers => Nat.le_of_lt_succ (hroom members hmembers)) (by decide)

theorem parse_of_told (hroom : ∀ members ∈ p.metadata, (Json.object members).depth < Json.maxRoom)
    {o : Outline} {text : String} (htold : p.Told o) (htext : o.Text text) :
    parse text = .ok p := by
  obtain ⟨members, rfl, hlists⟩ := htold
  rw [parse, Json.readText_of_text htext]
  exact (staged_inside hroom).read_of_lists hlists

/-- Where a member stands once more behind the first one, the text is refused by its name. -/
theorem parse_of_repeated
    (hroom : ∀ members ∈ p.metadata, (Json.object members).depth < Json.maxRoom)
    {before after : List (Json.Quoted × Outline)} {q : Json.Quoted} {o : Outline} {name text : String}
    (hlists : Json.Lists (record Outline).names p.fields p.absent (before ++ after))
    (hname : q.Spells name) (hrepeated : name ∈ (record Outline).told before)
    (htext : (Outline.object (before ++ (q, o) :: after) .closed).Text text) :
    parse text = .error (.mismatch (.repeatedMember name)) := by
  rw [parse, Json.readText_of_text htext]
  exact (staged_inside hroom).read_of_repeated hlists hname hrepeated

theorem depth_metadata {members : Members} (h : members ∈ p.metadata) :
    (Json.object members).depth < p.toJson.depth := by
  have hstated : ("metadata", Json.object members) ∈ p.stated := by
    apply mem_stated.mpr
    simp [options, Option.mem_def.mp h]
  have hmember : ("metadata", Json.object members) ∈ Members.ofList p.toMembers := by
    rw [toMembers_eq_entries, perm_entries.mem_iff]
    exact List.mem_append_right _ hstated
  exact Nat.lt_succ_of_le (Json.depth_le_depthMembers hmember)

end

/-- A payload without floating-point numbers is recovered from its compact text, with the members of
its objects in the order of their names or as they are declared, and from any text that tells it.  A
text in which a member of a payload stands twice is never read. -/
theorem parse_recovers (p : Payload) (hexact : p.Exact) (hdepth : p.toJson.depth ≤ Json.maxRoom) :
    parse p.toJson.compact = .ok p ∧
    parse p.declared.compact = .ok p ∧
    (∀ o text, p.Told o → o.Text text → parse text = .ok p) ∧
    ∀ (o : Outline) text, o.Repeats (record Outline).names → o.Text text →
      ∃ problem, parse text = .error problem := by
  have htold : ∀ o text, p.Told o → o.Text text → parse text = .ok p := fun o text htold htext =>
    parse_of_told (fun members hmembers => Nat.lt_of_lt_of_le (depth_metadata hmembers) hdepth)
      htold htext
  refine ⟨?_, ?_, htold, ?_⟩
  · have hperm : (Members.ofList p.toMembers).Perm (p.entries VendorResponse.toJson) :=
      toMembers_eq_entries ▸ perm_entries
    apply htold p.toJson.outline
    · exact told_object hexact (fun r => r.told_object r.perm_entries) hperm
    · exact Json.text_outline (exact_object hexact (fun r => r.exact_object r.perm_entries) hperm)
  · apply htold p.declared.outline
    · exact told_object hexact (fun r => r.told_object (.refl _)) (.refl _)
    · exact Json.text_outline (exact_object hexact (fun r => r.exact_object (.refl _)) (.refl _))
  · intro o text hrepeats htext
    rw [parse, Json.readText_of_text htext]
    exact Json.Record.read_of_repeats hrepeats

theorem parse_recovers_nested :
    let p : Payload :=
      { customer := "c\"1\n", revenueCents := -5
        vendorResponses := [⟨"openai", ⟨"gpt-4o", 18446744073709551615, 0⟩⟩]
        eventType := some ""
        metadata := some [
          ("list", .array [.integer (-9223372036854775808), .null]),
          ("more", .object [("\t", .bool true)])] }
    p.Exact ∧ p.toJson.depth ≤ Json.maxRoom ∧ parse p.toJson.compact = .ok p ∧
      parse p.declared.compact = .ok p := by
  intro p
  have hexact : p.Exact := by
    intro members hmembers
    obtain rfl := Option.some.inj hmembers
    have hsorted : "list" < "more" := by decide
    simp only [Json.All, Json.AllItems, Json.AllMembers, Json.AllMember, Json.Exact, Json.Tidy,
      Json.Kept, Members.Sorted, Members.names, List.map_cons, List.map_nil, List.pairwise_cons,
      List.Pairwise.nil, List.mem_cons, List.not_mem_nil, forall_eq, or_false, false_implies,
      implies_true, hsorted]
    decide
  have hdepth : p.toJson.depth ≤ Json.maxRoom := by decide +kernel
  have hrecovers := parse_recovers p hexact hdepth
  exact ⟨hexact, hdepth, hrecovers.1, hrecovers.2.1⟩

end Payload

end Courier
