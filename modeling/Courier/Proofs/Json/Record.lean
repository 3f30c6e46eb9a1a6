import Courier.Proofs.Json.Shown
/-!
Records and the objects that list them.

The members of a record may stand in any order, with members that nobody knows between them.  A record
is read from such an object stage by stage, a stage being what is known of it after some members; an
object that names a member twice is never read.
-/
namespace Courier.Json

theorem skipQuoted_of_written {text : Quoted} {cs : List Char} (h : text.Written cs) :
    skipQuoted text = .ok () := by
  cases h
  rfl

mutual

theorem skip_of_written {o : Outline} {cs : List Char} (h : o.Written cs) : o.skip = .ok () := by
  match h with
  | .null | .yes | .no | .number _ | .emptyArray _ | .emptyObject _ => rfl
  | .string h => exact skipQuoted_of_written h
  | .array _ h =>
      rw [Outline.skip, skipItems_of_written h]
      rfl
  | .object _ h =>
      rw [Outline.skip, skipMembers_of_written h]
      rfl
termination_by structural h

theorem skipItems_of_written {items : List Outline} {cs : List Char} (h : ItemsWritten items cs) :
    skipItems items = .ok () := by
  match h with
  | .last hitem _ =>
      rw [skipItems, skip_of_written hitem]
      rfl
  | .more hitem _ _ hitems =>
      rw [skipItems, skip_of_written hitem]
      exact skipItems_of_written hitems
termination_by structural h

theorem skipMembers_of_written {members : List (Quoted × Outline)} {cs : List Char}
    (h : MembersWritten members cs) : skipMembers members = .ok () := by
  match h with
  | .last (.mk hname _ _ hvalue _) =>
      simp only [skipMembers, skipMember, skipQuoted_of_written hname, skip_of_written hvalue, bind,
        Except.bind]
  | .more (.mk hname _ _ hvalue _) _ hmembers =>
      simp only [skipMembers, skipMember, skipQuoted_of_written hname, skip_of_written hvalue, bind,
        Except.bind]
      exact skipMembers_of_written hmembers
termination_by structural h

end

namespace Record

variable {σ : Type} {record : Record Outline σ} {room : Nat}

def names (record : Record Outline σ) : List String := record.members.map Member.name

/-- The names of the record among some members, in their order. -/
def told (record : Record Outline σ) (members : List (Quoted × Outline)) : List String :=
  members.filterMap fun member =>
    match member.1.read with
    | .ok name => if name ∈ record.names then some name else none
    | .error _ => none

theorem find?_eq_none_iff {name : String} :
    (record.members.find? fun member => member.name == name) = none ↔ name ∉ record.names := by
  simp [names]

theorem told_cons {q : Quoted} {o : Outline} {name : String} (hname : q.read = .ok name)
    (members : List (Quoted × Outline)) :
    record.told ((q, o) :: members) =
      if name ∈ record.names then name :: record.told members else record.told members := by
  rw [told, List.filterMap_cons]
  simp only [hname]
  by_cases hknown : name ∈ record.names
  · simp only [if_pos hknown]
    rfl
  · simp only [if_neg hknown]
    rfl

theorem mem_names_of_find? {name : String} {field : Member Outline σ}
    (h : (record.members.find? fun member => member.name == name) = some field) :
    name ∈ record.names := by
  have hname : field.name = name := by simpa using List.find?_some h
  exact hname ▸ List.mem_map_of_mem (List.mem_of_find?_eq_some h)

/-- What it takes to read one more member of an object. -/
theorem fillMembers_cons {q : Quoted} {o : Outline} {members : List (Quoted × Outline)}
    {seen : List String} {close : Except Problem Unit} {before after : σ}
    (h : record.fillMembers room Quoted.read Outline.skip close seen ((q, o) :: members) before =
      .ok after) :
    ∃ name, q.read = .ok name ∧
      ((name ∉ record.names ∧
        record.fillMembers room Quoted.read Outline.skip close seen members before = .ok after) ∨
      ∃ field filled, (record.members.find? fun member => member.name == name) = some field ∧
        name ∉ seen ∧ field.fill room o before = .ok filled ∧
        record.fillMembers room Quoted.read Outline.skip close (name :: seen) members filled =
          .ok after) := by
  rw [fillMembers] at h
  obtain ⟨name, hread, h⟩ := exists_of_bind_eq_ok h
  refine ⟨name, hread, ?_⟩
  split at h
  · next field hfind =>
      split at h
      · cases h
      · next hnew =>
          obtain ⟨filled, hfill, h⟩ := exists_of_bind_eq_ok h
          exact Or.inr ⟨field, filled, hfind, by simpa using hnew, hfill, h⟩
  · next hfind =>
      obtain ⟨_, _, h⟩ := exists_of_bind_eq_ok h
      exact Or.inl ⟨find?_eq_none_iff.mp hfind, h⟩

theorem eq_of_fillMembers_nil {seen : List String} {close : Except Problem Unit} {before after : σ}
    (h : record.fillMembers room Quoted.read Outline.skip close seen [] before = .ok after) :
    before = after := by
  rw [fillMembers] at h
  obtain ⟨_, _, h⟩ := exists_of_bind_eq_ok h
  split at h
  · cases h
  · exact Except.ok.inj h

/-- An object that was read names each member of the record at most once. -/
theorem nodup_told {members : List (Quoted × Outline)} {seen : List String}
    {close : Except Problem Unit} {before after : σ}
    (h : record.fillMembers room Quoted.read Outline.skip close seen members before = .ok after) :
    (record.told members).Nodup ∧ ∀ name ∈ record.told members, name ∉ seen := by
  induction members generalizing seen before with
  | nil => exact ⟨List.nodup_nil, fun _ hname => absurd hname List.not_mem_nil⟩
  | cons member members ih =>
      obtain ⟨name, hread, ⟨hunknown, hrest⟩ | ⟨field, filled, hfind, hnew, _, hrest⟩⟩ :=
        fillMembers_cons h
      · rw [told_cons hread, if_neg hunknown]
        exact ih hrest
      · obtain ⟨hnodup, hlater⟩ := ih hrest
        rw [told_cons hread, if_pos (mem_names_of_find? hfind)]
        constructor
        · exact List.nodup_cons.mpr ⟨fun hmem => hlater name hmem List.mem_cons_self, hnodup⟩
        · intro other hother hseen
          rcases List.mem_cons.mp hother with rfl | hother
          · exact hnew hseen
          · exact hlater other hother (List.mem_cons_of_mem _ hseen)

section Reads

variable {P : σ → Prop} {name : String} {members : List (Quoted × Outline)} {seen : List String}
  {close : Except Problem Unit} {before after : σ}

/-- Once a member was seen, what the others leave alone stays. -/
theorem fillMembers_keeps
    (hkeep : ∀ field ∈ record.members, field.name ≠ name → ∀ value before after,
      field.fill room value before = .ok after → P before → P after)
    (hseen : name ∈ seen) (hbefore : P before)
    (h : record.fillMembers room Quoted.read Outline.skip close seen members before = .ok after) :
    P after := by
  induction members generalizing seen before with
  | nil => exact eq_of_fillMembers_nil h ▸ hbefore
  | cons member members ih =>
      obtain ⟨other, _, ⟨_, hrest⟩ | ⟨field, filled, hfind, hnew, hfill, hrest⟩⟩ := fillMembers_cons h
      · exact ih hseen hbefore hrest
      · have hname : field.name = other := by simpa using List.find?_some hfind
        have hother : field.name ≠ name := fun heq => hnew (hname ▸ heq ▸ hseen)
        have hfield := List.mem_of_find?_eq_some hfind
        exact ih (List.mem_cons_of_mem _ hseen) (hkeep field hfield hother _ _ _ hfill hbefore) hrest

/-- What a member brings about holds of the record that was read. -/
theorem fillMembers_holds
    (hkeep : ∀ field ∈ record.members, field.name ≠ name → ∀ value before after,
      field.fill room value before = .ok after → P before → P after)
    {q : Quoted} {o : Outline} (hmember : (q, o) ∈ members) (hread : q.read = .ok name)
    (hknown : name ∈ record.names)
    (hfill : ∀ field ∈ record.members, field.name = name → ∀ before after,
      field.fill room o before = .ok after → P after)
    (h : record.fillMembers room Quoted.read Outline.skip close seen members before = .ok after) :
    P after := by
  induction members generalizing seen before with
  | nil => cases hmember
  | cons member members ih =>
      rcases List.mem_cons.mp hmember with rfl | hmember
      · obtain ⟨other, hother, ⟨hunknown, _⟩ | ⟨field, filled, hfind, _, hfilled, hrest⟩⟩ :=
          fillMembers_cons h
        · obtain rfl := Except.ok.inj (hread.symm.trans hother)
          exact absurd hknown hunknown
        · obtain rfl := Except.ok.inj (hread.symm.trans hother)
          have hname : field.name = name := by simpa using List.find?_some hfind
          have hfield := List.mem_of_find?_eq_some hfind
          exact fillMembers_keeps hkeep List.mem_cons_self (hfill field hfield hname _ _ hfilled) hrest
      · obtain ⟨_, _, ⟨_, hrest⟩ | ⟨_, _, _, _, _, hrest⟩⟩ := fillMembers_cons h
        · exact ih hmember hrest
        · exact ih hmember hrest

end Reads

/-- Filling in a value brings the record from one stage to the next.  A value that nobody asks for is
passed over. -/
def Takes (record : Record Outline σ) (room : Nat) (stage : List String → σ) (name : String)
    (o : Outline) : Prop :=
  match record.members.find? fun member => member.name == name with
  | some member => ∀ seen, member.fill room o (stage seen) = .ok (stage (name :: seen))
  | none => o.skip = .ok ()

/-- A record is filled stage by stage, whatever the order of the members is. -/
theorem fillMembers_of_takes (close : Except Problem Unit) {stage : List String → σ}
    {members : List (Quoted × Outline)} {seen : List String}
    (htakes : ∀ member ∈ members, ∃ name, member.1.read = .ok name ∧
      record.Takes room stage name member.2)
    (hnodup : (record.told members).Nodup) (hnew : ∀ name ∈ record.told members, name ∉ seen)
    (later : List (Quoted × Outline)) :
    record.fillMembers room Quoted.read Outline.skip close seen (members ++ later) (stage seen) =
      record.fillMembers room Quoted.read Outline.skip close ((record.told members).reverse ++ seen)
        later (stage ((record.told members).reverse ++ seen)) := by
  induction members generalizing seen with
  | nil => rfl
  | cons member members ih =>
      obtain ⟨q, o⟩ := member
      obtain ⟨name, hread, htake⟩ := htakes (q, o) List.mem_cons_self
      have hrest := fun member hmember => htakes member (List.mem_cons_of_mem _ hmember)
      rw [told_cons hread] at hnodup hnew ⊢
      rw [List.cons_append, fillMembers, hread]
      simp only [bind, Except.bind]
      rw [Takes] at htake
      cases hfind : record.members.find? fun field => field.name == name with
      | none =>
          rw [if_neg (find?_eq_none_iff.mp hfind)] at hnodup hnew ⊢
          simp only [hfind] at htake ⊢
          rw [htake]
          exact ih hrest hnodup hnew
      | some field =>
          rw [if_pos (mem_names_of_find? hfind)] at hnodup hnew ⊢
          obtain ⟨hfresh, hnodup⟩ := List.nodup_cons.mp hnodup
          have hunseen : seen.contains name = false := by
            simpa using hnew name List.mem_cons_self
          have hlater : ∀ other ∈ record.told members, other ∉ name :: seen := by
            intro other hother hseen
            rcases List.mem_cons.mp hseen with rfl | hseen
            · exact hfresh hother
            · exact hnew other (List.mem_cons_of_mem _ hother) hseen
          simp only [hfind] at htake ⊢
          rw [hunseen, htake seen]
          simp only [Bool.false_eq_true, if_false]
          rw [ih hrest hnodup hlater, List.reverse_cons, List.append_assoc]
          rfl

/-- At the end of an object nothing is missing if all that has to be there was seen. -/
theorem fillMembers_nil {seen : List String} (filled : σ)
    (hrequired : ∀ field ∈ record.members, field.required = true → field.name ∈ seen) :
    record.fillMembers room Quoted.read Outline.skip (.ok ()) seen [] filled = .ok filled := by
  have hfull : (record.members.find? fun field =>
      field.required && !seen.contains field.name) = none := by
    apply List.find?_eq_none.mpr
    intro field hfield hmissing
    simp only [Bool.and_eq_true, Bool.not_eq_true', List.contains_eq_mem,
      decide_eq_false_iff_not] at hmissing
    exact hmissing.2 (hrequired field hfield hmissing.1)
  simp only [fillMembers, hfull, bind, Except.bind, pure, Except.pure]

/-- A member that was seen already is refused. -/
theorem fillMembers_of_repeated {q : Quoted} {o : Outline} {name : String} {seen : List String}
    {close : Except Problem Unit} (hread : q.read = .ok name) (hknown : name ∈ record.names)
    (hseen : name ∈ seen) (later : List (Quoted × Outline)) (filled : σ) :
    record.fillMembers room Quoted.read Outline.skip close seen ((q, o) :: later) filled =
      .error (.mismatch (.repeatedMember name)) := by
  rw [fillMembers, hread]
  simp only [bind, Except.bind]
  cases hfind : record.members.find? fun field => field.name == name with
  | none => exact absurd hknown (find?_eq_none_iff.mp hfind)
  | some field =>
      have hcontains : seen.contains name = true := by simpa using hseen
      simp only [hcontains, if_true]
      rfl

end Record

theorem exists_of_mem_forall₂ {α β : Type} {r : α → β → Prop} {as : List α} {bs : List β}
    (h : List.Forall₂ r as bs) {a : α} (ha : a ∈ as) : ∃ b ∈ bs, r a b := by
  induction h with
  | nil => cases ha
  | cons hr _ ih =>
      rcases List.mem_cons.mp ha with rfl | ha
      · exact ⟨_, List.mem_cons_self, hr⟩
      · obtain ⟨b, hb, hr⟩ := ih ha
        exact ⟨b, List.mem_cons_of_mem _ hb, hr⟩

/-- Members list fields: each of them once and in any order, among nulls for some that are absent and
members that nobody knows. -/
def Lists (known : List String) (fields : List (String × (Outline → Prop))) (absent : List String)
    (members : List (Quoted × Outline)) : Prop :=
  ∃ (own others : List (Quoted × Outline)) (nulls : List String), members.Perm (own ++ others) ∧
    nulls.Sublist absent ∧
    List.Forall₂ (fun member field => member.1.Spells field.1 ∧ field.2 member.2) own
      (fields ++ nulls.map fun name => (name, (· = .null))) ∧
    ∀ member ∈ others, (∃ name, member.1.Spells name ∧ name ∉ known) ∧
      ∃ cs, member.2.Written cs

/-- An object whose members list fields. -/
def Outline.Lists (o : Outline) (known : List String) (fields : List (String × (Outline → Prop)))
    (absent : List String) : Prop :=
  ∃ members, o = .object members .closed ∧ Json.Lists known fields absent members

/-- An object in which a member of a known name stands twice. -/
def Outline.Repeats (o : Outline) (known : List String) : Prop :=
  ∃ members ending q value q' value' name, o = .object members ending ∧
    [(q, value), (q', value')].Sublist members ∧ name ∈ known ∧ q.Spells name ∧ q'.Spells name

/-- An object of named values lists fields that they fill. -/
theorem Outline.lists_object {known : List String} {members values : List (String × Json)}
    {fields : List (String × (Outline → Prop))} (absent : List String) (hperm : members.Perm values)
    (h : List.Forall₂ (fun value field => value.1 = field.1 ∧ field.2 value.2.outline)
      values fields) : (Json.object members).outline.Lists known fields absent := by
  refine ⟨_, rfl, values.map outlineMember, [], [], ?_, List.nil_sublist _, ?_, by simp⟩
  · rw [outlineMembers_eq_map, List.append_nil]
    exact hperm.map _
  · rw [List.map_nil, List.append_nil, List.forall₂_map_left_iff]
    refine h.imp ?_
    rintro ⟨name, value⟩ field ⟨rfl, hvalue⟩
    exact ⟨Quoted.spells_ofString _, hvalue⟩

namespace Record

variable {σ : Type} {record : Record Outline σ} {room : Nat}

theorem told_of_perm {members members' : List (Quoted × Outline)} (h : members.Perm members') :
    (record.told members).Perm (record.told members') :=
  h.filterMap _

theorem told_append (members members' : List (Quoted × Outline)) :
    record.told (members ++ members') = record.told members ++ record.told members' :=
  List.filterMap_append

theorem told_of_unknown {members : List (Quoted × Outline)}
    (h : ∀ member ∈ members, ∃ name, member.1.Spells name ∧ name ∉ record.names) :
    record.told members = [] := by
  apply List.filterMap_eq_nil_iff.mpr
  intro member hmember
  obtain ⟨name, hspells, hunknown⟩ := h member hmember
  simp only [hspells.read_eq, if_neg hunknown]

theorem told_of_forall₂ {members : List (Quoted × Outline)}
    {fields : List (String × (Outline → Prop))}
    (h : List.Forall₂ (fun member field => member.1.Spells field.1 ∧ field.2 member.2) members fields)
    (hknown : ∀ field ∈ fields, field.1 ∈ record.names) :
    record.told members = fields.map Prod.fst := by
  induction h with
  | nil => rfl
  | cons hmember _ ih =>
      rw [told_cons hmember.1.read_eq, if_pos (hknown _ List.mem_cons_self),
        ih fun field hfield => hknown field (List.mem_cons_of_mem _ hfield)]
      rfl

theorem takes_of_unknown {stage : List String → σ} {name : String} {o : Outline} {cs : List Char}
    (hunknown : name ∉ record.names) (hwritten : o.Written cs) : record.Takes room stage name o := by
  rw [Takes, find?_eq_none_iff.mpr hunknown]
  exact skip_of_written hwritten

/-- A record and the stages through which the fields of a value bring it from blank to that value. -/
structure Staged (record : Record Outline σ) (room : Nat) (stage : List String → σ)
    (fields : List (String × (Outline → Prop))) (absent : List String) (value : σ) : Prop where
  distinct : (fields.map Prod.fst ++ absent).Nodup
  known : ∀ name ∈ fields.map Prod.fst ++ absent, name ∈ record.names
  required : ∀ member ∈ record.members, member.required = true → member.name ∈ fields.map Prod.fst
  takes : ∀ field ∈ fields, ∀ o, field.2 o → record.Takes room stage field.1 o
  nulls : ∀ name ∈ absent, record.Takes room stage name .null
  blank : stage [] = record.blank
  whole : ∀ told, fields.map Prod.fst ⊆ told → stage told = value

namespace Staged

variable {stage : List String → σ} {fields : List (String × (Outline → Prop))}
  {absent : List String} {value : σ} {members : List (Quoted × Outline)}

/-- What is told by members that list the fields. -/
theorem told_perm (h : record.Staged room stage fields absent value)
    (hlists : Lists record.names fields absent members) :
    ∃ nulls : List String, nulls.Sublist absent ∧
      (record.told members).Perm (fields.map Prod.fst ++ nulls) := by
  obtain ⟨own, others, nulls, hperm, hnone, hown, hothers⟩ := hlists
  have hnames : (fields ++ nulls.map fun name => (name, (· = Outline.null))).map Prod.fst =
      fields.map Prod.fst ++ nulls := by
    simp [Function.comp_def]
  refine ⟨nulls, hnone, (told_of_perm hperm).trans ?_⟩
  rw [told_append, told_of_unknown fun member hmember => (hothers member hmember).1,
    List.append_nil, told_of_forall₂ hown, hnames]
  intro field hfield
  have hmem : field.1 ∈ fields.map Prod.fst ++ nulls := hnames ▸ List.mem_map_of_mem hfield
  exact h.known _ ((hnone.append_left _).subset hmem)

theorem nodup_told (h : record.Staged room stage fields absent value)
    (hlists : Lists record.names fields absent members) : (record.told members).Nodup := by
  obtain ⟨nulls, hnone, htold⟩ := h.told_perm hlists
  exact htold.nodup_iff.mpr (h.distinct.sublist (hnone.append_left _))

/-- Each member that is listed brings the record to its next stage or is passed over. -/
theorem takes_member (h : record.Staged room stage fields absent value)
    (hlists : Lists record.names fields absent members) :
    ∀ member ∈ members, ∃ name, member.1.read = .ok name ∧
      record.Takes room stage name member.2 := by
  obtain ⟨own, others, nulls, hperm, hnone, hown, hothers⟩ := hlists
  intro member hmember
  rcases List.mem_append.mp (hperm.mem_iff.mp hmember) with hmember | hmember
  · obtain ⟨field, hfield, hspells, hvalue⟩ := exists_of_mem_forall₂ hown hmember
    refine ⟨field.1, hspells.read_eq, ?_⟩
    rcases List.mem_append.mp hfield with hfield | hfield
    · exact h.takes field hfield _ hvalue
    · obtain ⟨name, hname, rfl⟩ := List.mem_map.mp hfield
      rw [show member.2 = .null from hvalue]
      exact h.nulls name (hnone.subset hname)
  · obtain ⟨⟨name, hspells, hunknown⟩, cs, hwritten⟩ := hothers member hmember
    exact ⟨name, hspells.read_eq, takes_of_unknown hunknown hwritten⟩

/-- The value is read from any object that lists its fields. -/
theorem read_of_lists (h : record.Staged room stage fields absent value)
    (hlists : Lists record.names fields absent members) :
    Outline.readRecord record (room + 1) (.object members .closed) = .ok value := by
  obtain ⟨nulls, hnone, htold⟩ := h.told_perm hlists
  have hall : ∀ name ∈ fields.map Prod.fst, name ∈ (record.told members).reverse ++ [] := by
    intro name hname
    rw [List.append_nil, List.mem_reverse, htold.mem_iff]
    exact List.mem_append_left _ hname
  have hread := fillMembers_of_takes (.ok ()) (h.takes_member hlists) (h.nodup_told hlists)
    (fun _ _ => List.not_mem_nil) []
  rw [List.append_nil, fillMembers_nil _ fun member hmember hreq =>
    hall _ (h.required member hmember hreq)] at hread
  rw [Outline.readRecord]
  simp only [enter, bind, Except.bind, Ending.close, ← h.blank]
  rw [hread, h.whole _ hall]

/-- A member that stands there once more is refused, wherever it stands behind the first one. -/
theorem read_of_repeated (h : record.Staged room stage fields absent value)
    {before after : List (Quoted × Outline)} {q : Quoted} {o : Outline} {name : String}
    (hlists : Lists record.names fields absent (before ++ after)) (hname : q.Spells name)
    (hrepeated : name ∈ record.told before) :
    Outline.readRecord record (room + 1) (.object (before ++ (q, o) :: after) .closed) =
      .error (.mismatch (.repeatedMember name)) := by
  obtain ⟨nulls, hnone, htold⟩ := h.told_perm hlists
  have hnodup := h.nodup_told hlists
  rw [told_append] at htold hnodup
  have hknown : name ∈ record.names := by
    apply h.known
    apply (hnone.append_left _).subset
    exact htold.mem_iff.mp (List.mem_append_left _ hrepeated)
  have hread := fillMembers_of_takes (.ok ())
    (fun member hmember => h.takes_member hlists member (List.mem_append_left after hmember))
    (hnodup.sublist (List.sublist_append_left _ _)) (fun _ _ => List.not_mem_nil) ((q, o) :: after)
  rw [fillMembers_of_repeated hname.read_eq hknown (by simpa using hrepeated)] at hread
  rw [Outline.readRecord]
  simp only [enter, bind, Except.bind, Ending.close, ← h.blank]
  exact hread

end Staged

theorem fillMembers_of_readRecord {members : List (Quoted × Outline)} {ending : Ending} {value : σ}
    (h : Outline.readRecord record room (.object members ending) = .ok value) :
    ∃ inner, room = inner + 1 ∧
      record.fillMembers inner Quoted.read Outline.skip ending.close [] members record.blank =
        .ok value := by
  cases room with
  | zero => cases h
  | succ inner => exact ⟨inner, rfl, h⟩

/-- An object that names a member of the record twice is not read, whatever stands there. -/
theorem read_of_repeats {o : Outline} (h : o.Repeats record.names) :
    ∃ problem, Outline.readRecord record room o = .error problem := by
  obtain ⟨members, ending, q, value, q', value', name, rfl, htwice, hknown, hname, hname'⟩ := h
  have htold : [name, name].Sublist (record.told members) := by
    have hsub : (record.told [(q, value), (q', value')]).Sublist (record.told members) :=
      htwice.filterMap _
    rw [told_cons hname.read_eq, told_cons hname'.read_eq, if_pos hknown, if_pos hknown] at hsub
    exact hsub
  cases hread : Outline.readRecord record room (.object members ending) with
  | error problem => exact ⟨problem, rfl⟩
  | ok value =>
      obtain ⟨_, _, hfilled⟩ := fillMembers_of_readRecord hread
      have hnodup := (nodup_told hfilled).1.sublist htold
      simp at hnodup

end Record

end Courier.Json
