import Mathlib.Data.List.Forall2
import Courier.Proofs.Json.Literal
/-!
Values of any shape and the outlines that show them.

Whatever shows a value is read as that value, as long as there is room for the arrays and objects in
it, and compact text is one way to write down what shows it.
-/
namespace Courier.Json

namespace Members

theorem insert_of_forall_lt {name : String} {value : Json} {members : Members}
    (h : ∀ other ∈ members.names, other < name) :
    insert name value members = members ++ [(name, value)] := by
  induction members with
  | nil => rfl
  | cons entry rest ih =>
      obtain ⟨other, held⟩ := entry
      have hlt : other < name := h other List.mem_cons_self
      have hne : name ≠ other := fun heq => String.lt_irrefl other (heq ▸ hlt)
      rw [insert, if_neg (String.lt_asymm hlt), if_neg hne,
        ih fun later hlater => h later (List.mem_cons_of_mem _ hlater)]
      rfl

theorem ofList_of_sorted {members : Members} (h : members.Sorted) : ofList members = members := by
  suffices ∀ done : Members, Sorted (done ++ members) →
      members.foldl (fun done entry => insert entry.1 entry.2 done) done = done ++ members from
    this [] h
  intro done hsorted
  clear h
  induction members generalizing done with
  | nil => exact (List.append_nil done).symm
  | cons entry rest ih =>
      have hlater : ∀ other ∈ names done, other < entry.1 := by
        intro other hother
        rw [Sorted, names, List.map_append, List.pairwise_append] at hsorted
        exact hsorted.2.2 other hother entry.1 List.mem_cons_self
      rw [List.foldl_cons, insert_of_forall_lt hlater, ih, List.append_assoc]
      · rfl
      · rwa [List.append_assoc]

theorem insert_perm {name : String} (value : Json) {members : Members}
    (h : name ∉ members.names) : (insert name value members).Perm ((name, value) :: members) := by
  induction members with
  | nil => exact .refl _
  | cons entry rest ih =>
      obtain ⟨other, held⟩ := entry
      obtain ⟨hne, hrest⟩ := not_or.mp fun hmem => h (List.mem_cons.mpr hmem)
      rw [insert, if_neg hne]
      split
      · exact .refl _
      · exact ((ih hrest).cons _).trans (.swap _ _ _)

/-- Members with different names all stay, in some order. -/
theorem ofList_perm {members : List (String × Json)} (h : (members.map Prod.fst).Nodup) :
    (ofList members).Perm members := by
  suffices ∀ done : Members, ((done ++ members).map Prod.fst).Nodup →
      (members.foldl (fun done entry => insert entry.1 entry.2 done) done).Perm (done ++ members) from
    this [] h
  intro done hnodup
  clear h
  induction members generalizing done with
  | nil => simp
  | cons entry rest ih =>
      have hnew : entry.1 ∉ names done := by
        intro hmem
        rw [List.map_append, List.nodup_append] at hnodup
        exact hnodup.2.2 entry.1 hmem entry.1 (by simp) rfl
      have hinsert : (insert entry.1 entry.2 done ++ rest).Perm (done ++ entry :: rest) :=
        ((insert_perm entry.2 hnew).append_right rest).trans List.perm_middle.symm
      exact (ih _ ((hinsert.map Prod.fst).nodup_iff.mpr hnodup)).trans hinsert

end Members

mutual

/-- How many arrays and objects a text of the value opens at once. -/
def depth : Json → Nat
  | .array items => depthItems items + 1
  | .object members => depthMembers members + 1
  | _ => 0
termination_by structural x => x

def depthItems : List Json → Nat
  | [] => 0
  | item :: rest => max (depth item) (depthItems rest)
termination_by structural x => x

def depthMember : String × Json → Nat
  | (_, value) => depth value
termination_by structural x => x

def depthMembers : List (String × Json) → Nat
  | [] => 0
  | member :: rest => max (depthMember member) (depthMembers rest)
termination_by structural x => x

end

mutual

/-- A property holds of a value and of all values in it. -/
def All (p : Json → Prop) : Json → Prop
  | .array items => p (.array items) ∧ AllItems p items
  | .object members => p (.object members) ∧ AllMembers p members
  | value => p value
termination_by structural x => x

def AllItems (p : Json → Prop) : List Json → Prop
  | [] => True
  | item :: rest => All p item ∧ AllItems p rest
termination_by structural x => x

def AllMember (p : Json → Prop) : String × Json → Prop
  | (_, value) => All p value
termination_by structural x => x

def AllMembers (p : Json → Prop) : List (String × Json) → Prop
  | [] => True
  | member :: rest => AllMember p member ∧ AllMembers p rest
termination_by structural x => x

end

theorem depth_le_depthMembers {members : List (String × Json)} {member : String × Json}
    (h : member ∈ members) : member.2.depth ≤ depthMembers members := by
  induction members with
  | nil => cases h
  | cons first rest ih =>
      have hfirst : depthMembers (first :: rest) = max first.2.depth (depthMembers rest) := by
        cases first
        rfl
      rw [hfirst]
      rcases List.mem_cons.mp h with rfl | h
      · exact Nat.le_max_left _ _
      · exact Nat.le_trans (ih h) (Nat.le_max_right _ _)

theorem allItems_iff {p : Json → Prop} {items : List Json} :
    AllItems p items ↔ ∀ item ∈ items, item.All p := by
  induction items with
  | nil => simp [AllItems]
  | cons item rest ih => simp [AllItems, ih]

theorem allMembers_iff {p : Json → Prop} {members : List (String × Json)} :
    AllMembers p members ↔ ∀ member ∈ members, member.2.All p := by
  induction members with
  | nil => simp [AllMembers]
  | cons member rest ih =>
      have hfirst : AllMembers p (member :: rest) = (member.2.All p ∧ AllMembers p rest) := by
        cases member
        rfl
      rw [hfirst, ih, List.forall_mem_cons]

/-- The value is no floating-point number and no integer that would be read as one. -/
def Exact : Json → Prop
  | .double _ => False
  | .integer n => Kept n
  | _ => True

/-- The members of an object are in order. -/
def Tidy : Json → Prop
  | .object members => Members.Sorted members
  | _ => True

mutual

/-- An outline shows a value: integers in digits, strings in any spelling, and items and members in
their order. -/
inductive Outline.Shows : Outline → Json → Prop where
  | null : Outline.Shows .null .null
  | bool (b : Bool) : Outline.Shows (.bool b) (.bool b)
  | integer {n : Int} (hn : Kept n) : Outline.Shows (.number (.ofInt n)) (.integer n)
  | string {q : Quoted} {s : String} (h : q.Spells s) : Outline.Shows (.string q) (.string s)
  | array {items : List Outline} {values : List Json} (h : ShowsItems items values) :
    Outline.Shows (.array items .closed) (.array values)
  | object {members : List (Quoted × Outline)} {values : Members} (hsorted : values.Sorted)
    (h : ShowsMembers members values) : Outline.Shows (.object members .closed) (.object values)

inductive ShowsItems : List Outline → List Json → Prop where
  | nil : ShowsItems [] []
  | cons {item : Outline} {items : List Outline} {value : Json} {values : List Json}
    (hitem : item.Shows value) (hitems : ShowsItems items values) :
    ShowsItems (item :: items) (value :: values)

inductive ShowsMembers : List (Quoted × Outline) → List (String × Json) → Prop where
  | nil : ShowsMembers [] []
  | cons {q : Quoted} {name : String} {o : Outline} {value : Json}
    {members : List (Quoted × Outline)} {values : List (String × Json)} (hname : q.Spells name)
    (hvalue : o.Shows value) (hmembers : ShowsMembers members values) :
    ShowsMembers ((q, o) :: members) ((name, value) :: values)

end

mutual

/-- What is shown is read, if there is room for it. -/
theorem readValue_of_shows {o : Outline} {value : Json} (h : o.Shows value) {room : Nat}
    (hroom : value.depth ≤ room) : o.readValue room = .ok value := by
  match h with
  | .null | .bool _ => rfl
  | .integer hn => exact Numeral.read_ofInt hn
  | .string h =>
      rw [Outline.readValue, h.read_eq]
      rfl
  | .array h =>
      obtain ⟨room, rfl⟩ := Nat.exists_eq_add_of_le' (Nat.le_trans (Nat.le_add_left 1 _) hroom)
      have hitems := readValues_of_shows h (Nat.le_of_succ_le_succ hroom)
      simp only [Outline.readValue, enter, hitems, Ending.close, bind, Except.bind, pure, Except.pure]
  | .object hsorted h =>
      obtain ⟨room, rfl⟩ := Nat.exists_eq_add_of_le' (Nat.le_trans (Nat.le_add_left 1 _) hroom)
      have hmembers := readMembers_of_shows h (Nat.le_of_succ_le_succ hroom)
      simp only [Outline.readValue, enter, hmembers, Ending.close, bind, Except.bind, pure,
        Except.pure, ofMembers, Members.ofList_of_sorted hsorted]
termination_by structural h

theorem readValues_of_shows {items : List Outline} {values : List Json}
    (h : ShowsItems items values) {room : Nat} (hroom : depthItems values ≤ room) :
    readValues room items = .ok values := by
  match h with
  | .nil => rfl
  | .cons hitem hitems =>
      have hvalue := readValue_of_shows hitem (Nat.le_trans (Nat.le_max_left _ _) hroom)
      have hlater := readValues_of_shows hitems (Nat.le_trans (Nat.le_max_right _ _) hroom)
      simp only [readValues, hvalue, hlater, bind, Except.bind, pure, Except.pure]
termination_by structural h

theorem readMembers_of_shows {members : List (Quoted × Outline)} {values : List (String × Json)}
    (h : ShowsMembers members values) {room : Nat} (hroom : depthMembers values ≤ room) :
    readMembers room members = .ok values := by
  match h with
  | .nil => rfl
  | .cons hname hvalue hmembers =>
      have hread := readValue_of_shows hvalue (Nat.le_trans (Nat.le_max_left _ _) hroom)
      have hlater := readMembers_of_shows hmembers (Nat.le_trans (Nat.le_max_right _ _) hroom)
      simp only [readMembers, readMember, hname.read_eq, hread, hlater, bind, Except.bind, pure,
        Except.pure]
termination_by structural h

end

mutual

/-- A value as compact text shows it. -/
def outline : Json → Outline
  | .null => .null
  | .bool b => .bool b
  | .integer n => .number (.ofInt n)
  | .double _ => .null
  | .string s => .string (.ofString s)
  | .array items => .array (outlineItems items) .closed
  | .object members => .object (outlineMembers members) .closed
termination_by structural x => x

def outlineItems : List Json → List Outline
  | [] => []
  | item :: rest => outline item :: outlineItems rest
termination_by structural x => x

def outlineMember : String × Json → Quoted × Outline
  | (name, value) => (.ofString name, outline value)
termination_by structural x => x

def outlineMembers : List (String × Json) → List (Quoted × Outline)
  | [] => []
  | member :: rest => outlineMember member :: outlineMembers rest
termination_by structural x => x

end

mutual

theorem shows_outline {value : Json} (hexact : value.All Exact) (htidy : value.All Tidy) :
    value.outline.Shows value := by
  match value, hexact, htidy with
  | .null, _, _ => exact .null
  | .bool b, _, _ => exact .bool b
  | .integer n, hexact, _ => exact .integer hexact
  | .string s, _, _ => exact .string (Quoted.spells_ofString s)
  | .array items, hexact, htidy => exact .array (shows_outlineItems hexact.2 htidy.2)
  | .object members, hexact, htidy =>
      exact .object htidy.1 (shows_outlineMembers hexact.2 htidy.2)
termination_by structural value

theorem shows_outlineItems {items : List Json} (hexact : AllItems Exact items)
    (htidy : AllItems Tidy items) : ShowsItems (outlineItems items) items := by
  match items, hexact, htidy with
  | [], _, _ => exact .nil
  | item :: rest, hexact, htidy =>
      exact .cons (shows_outline hexact.1 htidy.1) (shows_outlineItems hexact.2 htidy.2)
termination_by structural items

theorem shows_outlineMembers {members : List (String × Json)} (hexact : AllMembers Exact members)
    (htidy : AllMembers Tidy members) : ShowsMembers (outlineMembers members) members := by
  match members, hexact, htidy with
  | [], _, _ => exact .nil
  | (name, value) :: rest, hexact, htidy =>
      exact .cons (Quoted.spells_ofString name) (shows_outline hexact.1 htidy.1)
        (shows_outlineMembers hexact.2 htidy.2)
termination_by structural members

end

theorem outlineItems_eq_map (items : List Json) : outlineItems items = items.map outline := by
  induction items with
  | nil => rfl
  | cons item rest ih => rw [outlineItems, ih, List.map_cons]

theorem outlineMembers_eq_map (members : List (String × Json)) :
    outlineMembers members = members.map outlineMember := by
  induction members with
  | nil => rfl
  | cons member rest ih => rw [outlineMembers, ih, List.map_cons]

theorem gap_nil : Gap [] := fun _ h => absurd h List.not_mem_nil

mutual

/-- Compact text is a text of what it shows. -/
theorem written_outline {value : Json} (h : value.All Exact) :
    value.outline.Written value.render := by
  match value, h with
  | .null, _ => exact .null
  | .bool true, _ => exact .yes
  | .bool false, _ => exact .no
  | .integer n, _ => exact .number (Numeral.written_ofInt n)
  | .string s, _ => exact .string (Quoted.written_ofString s)
  | .array [], _ => exact .emptyArray gap_nil
  | .array (item :: rest), h =>
      have hitems : AllItems Exact (item :: rest) := h.2
      obtain ⟨cs, hcs, htext⟩ := written_outlineItems hitems (List.cons_ne_nil _ _)
      have hrender : render (.array (item :: rest)) = '[' :: ([] ++ (cs ++ [']'])) :=
        congrArg ('[' :: ·) (List.cons.inj htext).2
      rw [hrender]
      exact .array gap_nil hcs
  | .object [], _ => exact .emptyObject gap_nil
  | .object (member :: rest), h =>
      have hmembers : AllMembers Exact (member :: rest) := h.2
      obtain ⟨cs, hcs, htext⟩ := written_outlineMembers hmembers (List.cons_ne_nil _ _)
      have hrender : render (.object (member :: rest)) = '\x7b' :: ([] ++ (cs ++ ['\x7d'])) :=
        congrArg ('\x7b' :: ·) (List.cons.inj htext).2
      rw [hrender]
      exact .object gap_nil hcs
termination_by structural value

theorem written_outlineItems {items : List Json} (h : AllItems Exact items) (hne : items ≠ []) :
    ∃ cs, ItemsWritten (outlineItems items) cs ∧ renderItems items = ',' :: (cs ++ [']']) := by
  match items, h with
  | [], _ => exact absurd rfl hne
  | [item], h =>
      have hitem := written_outline h.1
      exact ⟨_, .last hitem gap_nil, by simp [renderItems]⟩
  | item :: next :: rest, h =>
      have hitem := written_outline h.1
      have hrest : AllItems Exact (next :: rest) := h.2
      obtain ⟨cs, hcs, htext⟩ := written_outlineItems hrest (List.cons_ne_nil _ _)
      refine ⟨_, .more hitem gap_nil gap_nil hcs, ?_⟩
      rw [renderItems, htext]
      simp
termination_by structural items

theorem written_outlineMembers {members : List (String × Json)} (h : AllMembers Exact members)
    (hne : members ≠ []) :
    ∃ cs, MembersWritten (outlineMembers members) cs ∧
      renderMembers members = ',' :: (cs ++ ['\x7d']) := by
  match members, h with
  | [], _ => exact absurd rfl hne
  | [(name, value)], h =>
      have hvalue := written_outline h.1
      have hmember := MemberWritten.mk (Quoted.written_ofString name) gap_nil gap_nil hvalue gap_nil
      exact ⟨_, .last hmember, by simp [renderMembers, renderMember]⟩
  | (name, value) :: next :: rest, h =>
      have hvalue := written_outline h.1
      have hmember := MemberWritten.mk (Quoted.written_ofString name) gap_nil gap_nil hvalue gap_nil
      have hrest : AllMembers Exact (next :: rest) := h.2
      obtain ⟨cs, hcs, htext⟩ := written_outlineMembers hrest (List.cons_ne_nil _ _)
      refine ⟨_, .more hmember gap_nil hcs, ?_⟩
      rw [renderMembers, htext]
      simp [renderMember]
termination_by structural members

end

/-- A whole text of an outline: gaps may stand at both ends. -/
def Outline.Text (o : Outline) (text : String) : Prop :=
  ∃ before cs after, Gap before ∧ o.Written cs ∧ Gap after ∧
    text.toList = before ++ (cs ++ after)

theorem text_outline {value : Json} (h : value.All Exact) : value.outline.Text value.compact :=
  ⟨[], value.render, [], gap_nil, written_outline h, gap_nil, by simp [compact]⟩

theorem ends_of_gap {gap : List Char} (hgap : Gap gap) : Ends gap := by
  intro c hc
  have hblank := hgap c (List.mem_of_mem_head? hc)
  simp only [isGap, Bool.or_eq_true, decide_eq_true_eq] at hblank
  rcases hblank with ((rfl | rfl) | rfl) | rfl <;> decide

/-- A text is read as its outline is. -/
theorem readText_of_text {α : Type} {o : Outline} {text : String} (h : o.Text text)
    (read : Nat → Outline → Except Problem α) : readText read text = read maxRoom o := by
  obtain ⟨before, cs, after, hbefore, hwritten, hafter, htext⟩ := h
  have hscan : scan text.toList = (o, some after) := by
    rw [scan, htext, scanValue_gap hbefore]
    exact scanValue_of_written hwritten (by simp; omega) (ends_of_gap hafter)
  have hrest : (skipGaps after).isEmpty = true := by
    rw [← List.append_nil after, skipGaps_append hafter]
    rfl
  rw [readText, hscan]
  simp only [Option.getD_some, hrest, if_true]
  cases read maxRoom o <;> rfl

theorem readString_of_shows {o : Outline} {s : String} (h : o.Shows (.string s)) :
    Source.readString o = .ok s := by
  cases h with
  | string h => exact h.read_eq

theorem readInteger_of_shows {o : Outline} {n low high : Int} (h : o.Shows (.integer n))
    (hrange : low ≤ n ∧ n ≤ high) (expected : String) :
    Source.readInteger low high expected o = .ok n := by
  cases h with
  | integer hn =>
      show Outline.readInteger low high expected (.number (.ofInt n)) = _
      rw [Outline.readInteger, Numeral.read_ofInt hn]
      exact if_pos hrange

theorem readInt64_of_shows {o : Outline} {n : Int64} (h : o.Shows (.integer n.toInt)) :
    Source.readInt64 o = .ok n := by
  have hlow := n.le_toInt
  have hhigh := n.toInt_lt
  rw [Source.readInt64, readInteger_of_shows h (by omega)]
  exact congrArg Except.ok n.ofInt_toInt

theorem readUInt64_of_shows {o : Outline} {n : UInt64} (h : o.Shows (.integer n.toNat)) :
    Source.readUInt64 o = .ok n := by
  have hhigh := n.toNat_lt
  rw [Source.readUInt64, readInteger_of_shows h (by unfold maxInteger; omega)]
  exact congrArg Except.ok n.ofNat_toNat

theorem readObject_of_shows {o : Outline} {members : Members} {room : Nat}
    (h : o.Shows (.object members)) (hroom : (Json.object members).depth ≤ room) :
    Source.readObject room o = .ok members := by
  have hread := readValue_of_shows h hroom
  cases h with
  | @object entries _ hsorted h =>
      show Outline.readObject room (.object entries .closed) = _
      rw [Outline.readObject, hread]
      rfl

/-- An outline shows a value, or null where there is none. -/
def Outline.ShowsOption (o : Outline) : Option Json → Prop
  | some value => o.Shows value
  | none => o = .null

theorem readOption_string {o : Outline} {s : Option String}
    (h : o.ShowsOption (s.map .string)) : Source.readOption Source.readString o = .ok s := by
  cases s with
  | none =>
      rw [show o = .null from h]
      rfl
  | some s =>
      have hshows : o.Shows (.string s) := h
      have hread := readString_of_shows hshows
      cases hshows with
      | string => exact congrArg (some <$> ·) hread

theorem readOption_object {o : Outline} {members : Option Members} {room : Nat}
    (h : o.ShowsOption (members.map .object))
    (hroom : ∀ held ∈ members, (Json.object held).depth ≤ room) :
    Source.readOption (Source.readObject room) o = .ok members := by
  cases members with
  | none =>
      rw [show o = .null from h]
      rfl
  | some members =>
      have hshows : o.Shows (.object members) := h
      have hread := readObject_of_shows hshows (hroom members rfl)
      cases hshows with
      | object => exact congrArg (some <$> ·) hread

/-- A sequence of readers that succeeds does so step by step. -/
theorem exists_of_bind_eq_ok {α β : Type} {x : Except Problem α} {f : α → Except Problem β} {b : β}
    (h : (x >>= f) = .ok b) : ∃ a, x = .ok a ∧ f a = .ok b := by
  cases x with
  | error problem => cases h
  | ok a => exact ⟨a, rfl, h⟩

theorem getElem?_of_mapM {α : Type} {read : Outline → Except Problem α} {items : List Outline}
    {values : List α} (h : items.mapM read = .ok values) {i : Nat} {item : Outline}
    (hitem : items[i]? = some item) : ∃ value, values[i]? = some value ∧ read item = .ok value := by
  induction items generalizing values i with
  | nil => cases hitem
  | cons first rest ih =>
      rw [List.mapM_cons] at h
      obtain ⟨value, hvalue, h⟩ := exists_of_bind_eq_ok h
      obtain ⟨later, hlater, h⟩ := exists_of_bind_eq_ok h
      obtain rfl := Except.ok.inj h
      cases i with
      | zero =>
          obtain rfl := Option.some.inj hitem
          exact ⟨value, rfl, hvalue⟩
      | succ i => exact ih hlater hitem

/-- Each item of a list that was read was read at its place. -/
theorem getElem?_of_readList {α : Type} {read : Nat → Outline → Except Problem α} {room : Nat}
    {items : List Outline} {ending : Ending} {values : List α}
    (h : Source.readList read room (Outline.array items ending) = .ok values) {i : Nat}
    {item : Outline} (hitem : items[i]? = some item) :
    ∃ inner value, values[i]? = some value ∧ read inner item = .ok value := by
  obtain ⟨inner, _, h⟩ := exists_of_bind_eq_ok h
  obtain ⟨found, hfound, h⟩ := exists_of_bind_eq_ok h
  obtain ⟨_, _, h⟩ := exists_of_bind_eq_ok h
  obtain rfl := Except.ok.inj h
  exact ⟨inner, getElem?_of_mapM hfound hitem⟩

theorem readList_of_forall₂ {α : Type} {read : Nat → Outline → Except Problem α} {room : Nat}
    {items : List Outline} {as : List α}
    (h : List.Forall₂ (fun item a => read room item = .ok a) items as) :
    Source.readList read (room + 1) (Outline.array items .closed) = .ok as := by
  have hmap : items.mapM (read room) = .ok as := by
    induction h with
    | nil => rfl
    | cons hread _ ih =>
        rw [List.mapM_cons, hread, ih]
        rfl
  show Outline.readList read (room + 1) (.array items .closed) = _
  simp only [Outline.readList, enter, hmap, Ending.close, bind, Except.bind, pure, Except.pure]

end Courier.Json
