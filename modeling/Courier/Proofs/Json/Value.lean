import Courier.Json.Value
/-!
Reading back what was written as a JSON value.
-/
namespace Courier.Json

@[simp] theorem readString_string (s : String) : Source.readString (Json.string s) = .ok s := rfl

@[simp] theorem readInt64_integer (n : Int64) :
    Source.readInt64 (Json.integer n.toInt) = .ok n := by
  have hlow := n.le_toInt
  have hhigh := n.toInt_lt
  have hrange : (-0x8000000000000000 : Int) ≤ n.toInt ∧ n.toInt ≤ 0x7FFFFFFFFFFFFFFF := by omega
  show Int64.ofInt <$> asInteger _ _ _ (.integer n.toInt) = _
  rw [asInteger, if_pos hrange]
  exact congrArg Except.ok n.ofInt_toInt

/-- A natural number of 64 bits stays exact up to the greatest one. -/
@[simp] theorem readUInt64_integer (n : UInt64) :
    Source.readUInt64 (Json.integer n.toNat) = .ok n := by
  have hhigh := n.toNat_lt
  have hrange : (0 : Int) ≤ n.toNat ∧ (n.toNat : Int) ≤ maxInteger := by
    unfold maxInteger
    omega
  show (fun k : Int => UInt64.ofNat k.toNat) <$> asInteger _ _ _ (.integer n.toNat) = _
  rw [asInteger, if_pos hrange]
  exact congrArg Except.ok n.ofNat_toNat

theorem readList_array {α : Type} {read : Nat → Json → Except Problem α} {encode : α → Json}
    {room : Nat} (hread : ∀ a, read room (encode a) = .ok a) (as : List α) :
    Source.readList read room (Json.array (as.map encode)) = .ok as := by
  show (as.map encode).mapM (read room) = .ok as
  induction as with
  | nil => rfl
  | cons a rest ih =>
      rw [List.map_cons, List.mapM_cons, hread, ih]
      rfl

theorem Members.Sorted.nodup {members : Members} (h : members.Sorted) : members.names.Nodup := by
  apply List.Pairwise.imp _ h
  intro name other hlt heq
  exact String.lt_irrefl other (heq ▸ hlt)

section Records

variable {σ : Type} {record : Record Json σ} {room : Nat}

/-- Fill in the member of a name, if the record has it. -/
def Record.fillMember (record : Record Json σ) (room : Nat) (filled : σ) (entry : String × Json) :
    Except Problem σ :=
  match record.members.find? fun member => member.name == entry.1 with
  | some member => member.fill room entry.2 filled
  | none => .ok filled

/-- Members of different names are filled in one after the other. -/
theorem fillMembers_of_nodup {members : Members} {seen : List String} (filled : σ)
    (hnodup : members.names.Nodup) (hnew : ∀ name ∈ members.names, name ∉ seen)
    (hrequired : ∀ member ∈ record.members, member.required = true →
      member.name ∈ members.names ∨ member.name ∈ seen) :
    record.fillMembers room .ok (fun _ => .ok ()) (.ok ()) seen members filled =
      members.foldlM (record.fillMember room) filled := by
  induction members generalizing seen filled with
  | nil =>
      have hfull : (record.members.find? fun member =>
          member.required && !seen.contains member.name) = none := by
        apply List.find?_eq_none.mpr
        intro member hmember hmissing
        simp only [Bool.and_eq_true, Bool.not_eq_true', List.contains_eq_mem,
          decide_eq_false_iff_not] at hmissing
        exact (hrequired member hmember hmissing.1).elim List.not_mem_nil hmissing.2
      simp only [Record.fillMembers, hfull, bind, Except.bind, pure, Except.pure, List.foldlM]
  | cons entry rest ih =>
      obtain ⟨name, value⟩ := entry
      obtain ⟨hfresh, hnodup⟩ := List.nodup_cons.mp hnodup
      have hunseen : seen.contains name = false := by
        simpa using hnew name List.mem_cons_self
      have hlater : ∀ other ∈ Members.names rest, other ∉ seen :=
        fun other hother => hnew other (List.mem_cons_of_mem _ hother)
      rw [List.foldlM_cons, Record.fillMember]
      cases hmember : record.members.find? fun member => member.name == name with
      | none =>
          -- Nobody asks for this one, so it is none of those that have to be there.
          have hrest : ∀ member ∈ record.members, member.required = true →
              member.name ∈ Members.names rest ∨ member.name ∈ seen := by
            intro member hmem hreq
            refine (hrequired member hmem hreq).imp_left fun hnames => ?_
            refine (List.mem_cons.mp hnames).resolve_left fun heq => ?_
            exact List.find?_eq_none.mp hmember member hmem (beq_iff_eq.mpr heq)
          simp only [Record.fillMembers, hmember, bind, Except.bind]
          exact ih filled hnodup hlater hrest
      | some member =>
          have hfurther : ∀ other ∈ Members.names rest, other ∉ name :: seen := by
            intro other hother hseen
            rcases List.mem_cons.mp hseen with rfl | hseen
            · exact hfresh hother
            · exact hlater other hother hseen
          have hrest : ∀ member ∈ record.members, member.required = true →
              member.name ∈ Members.names rest ∨ member.name ∈ name :: seen := by
            intro member hmem hreq
            rcases hrequired member hmem hreq with hnames | hseen
            · rcases List.mem_cons.mp hnames with heq | hnames
              · exact Or.inr (heq ▸ List.mem_cons_self)
              · exact Or.inl hnames
            · exact Or.inr (List.mem_cons_of_mem _ hseen)
          simp only [Record.fillMembers, hmember, hunseen, bind, Except.bind, Bool.false_eq_true,
            if_false]
          cases hfill : member.fill room value filled with
          | error problem => rfl
          | ok filled' => exact ih filled' hnodup hfurther hrest

/-- An object with all that has to be there, each member once, is read member by member. -/
theorem readRecord_object {members : Members} (hnodup : members.names.Nodup)
    (hrequired : ∀ member ∈ record.members, member.required = true →
      member.name ∈ members.names) :
    Source.readRecord record room (Json.object members) =
      members.foldlM (record.fillMember room) record.blank :=
  fillMembers_of_nodup record.blank hnodup (fun _ _ => List.not_mem_nil)
    fun member hmember hreq => Or.inl (hrequired member hmember hreq)

end Records

end Courier.Json
