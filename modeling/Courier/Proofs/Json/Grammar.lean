import Courier.Json.Scan
/-!
The grammar of JSON text.

An outline is written in many ways: gaps may stand between any two tokens, and a character of a string
may be escaped.  However it is written, the scanner finds it, and leaves the text behind it.
-/
namespace Courier.Json

/-- Nothing but blanks. -/
def Gap (cs : List Char) : Prop := ∀ c ∈ cs, isGap c = true

/-- A piece of a string is written as itself, as a letter behind a backslash, or as a code of four
hexadecimal digits. -/
inductive Piece.Written : Piece → List Char → Prop where
  | plain {c : Char} (hquote : c ≠ '"') (hslash : c ≠ '\\') (hcontrol : 32 ≤ c.toNat) :
    Written (.plain c) [c]
  | letter {e c : Char} (hletter : letterEscape? e = some c) : Written (.plain c) ['\\', e]
  | unit {a b c d : Char} {code : Nat} (hcode : hexUnit? a b c d = some code) :
    Written (.unit code) ['\\', 'u', a, b, c, d]

/-- Pieces are written one behind the other. -/
inductive PiecesWritten : List Piece → List Char → Prop where
  | nil : PiecesWritten [] []
  | cons {piece : Piece} {pieces : List Piece} {cs ds : List Char} (hpiece : piece.Written cs)
    (hpieces : PiecesWritten pieces ds) : PiecesWritten (piece :: pieces) (cs ++ ds)

/-- A string stands between quotes. -/
inductive Quoted.Written : Quoted → List Char → Prop where
  | mk {pieces : List Piece} {cs : List Char} (hpieces : PiecesWritten pieces cs) :
    Written ⟨pieces, none⟩ ('"' :: (cs ++ ['"']))

theorem scanQuoted_plain {c : Char} (hquote : c ≠ '"') (hslash : c ≠ '\\')
    (hcontrol : 32 ≤ c.toNat) (rest : List Char) :
    scanQuoted (c :: rest) = pushPiece (.plain c) (scanQuoted rest) := by
  rw [scanQuoted, if_neg (Nat.not_lt_of_le hcontrol)] <;> simp [hquote, hslash]

theorem scanQuoted_letter {e c : Char} (hletter : letterEscape? e = some c) (rest : List Char) :
    scanQuoted ('\\' :: e :: rest) = pushPiece (.plain c) (scanQuoted rest) := by
  have hu : e ≠ 'u' := by
    rintro rfl
    cases hletter
  rw [scanQuoted.eq_def]
  split <;> grind

theorem scanQuoted_unit {a b c d : Char} {code : Nat} (hcode : hexUnit? a b c d = some code)
    (rest : List Char) :
    scanQuoted ('\\' :: 'u' :: a :: b :: c :: d :: rest) =
      pushPiece (.unit code) (scanQuoted rest) := by
  rw [scanQuoted, hcode]

theorem scanQuoted_of_written {pieces : List Piece} {cs : List Char}
    (h : PiecesWritten pieces cs) (rest : List Char) :
    scanQuoted (cs ++ '"' :: rest) = (⟨pieces, none⟩, some rest) := by
  induction h with
  | nil => rfl
  | cons hpiece hpieces ih =>
      rw [List.append_assoc]
      cases hpiece with
      | plain hquote hslash hcontrol =>
          rw [List.singleton_append, scanQuoted_plain hquote hslash hcontrol, ih]
          rfl
      | letter hletter =>
          rw [List.cons_append, List.singleton_append, scanQuoted_letter hletter, ih]
          rfl
      | unit hcode =>
          simp only [List.cons_append, List.nil_append]
          rw [scanQuoted_unit hcode, ih]
          rfl


/-- Digits, at least one. -/
structure Digits (ds : List Char) : Prop where
  ne_nil : ds ≠ []
  isDigit : ∀ c ∈ ds, c.isDigit = true

/-- A fraction is written behind a point. -/
inductive FractionWritten : Option (List Char) → List Char → Prop where
  | none : FractionWritten none []
  | some {ds : List Char} (hds : Digits ds) : FractionWritten (some ds) ('.' :: ds)

/-- An exponent is written behind a letter, with or without a sign. -/
inductive ExponentWritten : Option Int → List Char → Prop where
  | none : ExponentWritten none []
  | bare {e : Char} (he : e = 'e' ∨ e = 'E') {ds : List Char} (hds : Digits ds) :
    ExponentWritten (some (Nat.ofDigitChars 10 ds 0 : Nat)) (e :: ds)
  | plus {e : Char} (he : e = 'e' ∨ e = 'E') {ds : List Char} (hds : Digits ds) :
    ExponentWritten (some (Nat.ofDigitChars 10 ds 0 : Nat)) (e :: '+' :: ds)
  | minus {e : Char} (he : e = 'e' ∨ e = 'E') {ds : List Char} (hds : Digits ds) :
    ExponentWritten (some (-(Nat.ofDigitChars 10 ds 0 : Nat))) (e :: '-' :: ds)

/-- A number is written without a needless zero in front. -/
inductive Numeral.Written : Numeral → List Char → Prop where
  | mk {negative : Bool} {whole fs es : List Char} {fraction : Option (List Char)}
    {exponent : Option Int} (hwhole : Digits whole) (hzero : whole = ['0'] ∨ whole.head? ≠ some '0')
    (hfraction : FractionWritten fraction fs) (hexponent : ExponentWritten exponent es) :
    Written ⟨negative, whole, fraction, exponent⟩
      ((if negative then ['-'] else []) ++ whole ++ fs ++ es)

/-- No number goes on here. -/
def Ends (rest : List Char) : Prop :=
  ∀ c ∈ rest.head?, c.isDigit = false ∧ c ≠ '.' ∧ c ≠ 'e' ∧ c ≠ 'E'

theorem takeWhile_digits {ds rest : List Char} (hds : Digits ds)
    (hrest : ∀ c ∈ rest.head?, c.isDigit = false) :
    (ds ++ rest).takeWhile Char.isDigit = ds ∧ (ds ++ rest).dropWhile Char.isDigit = rest := by
  have hnone : rest.takeWhile Char.isDigit = [] ∧ rest.dropWhile Char.isDigit = rest := by
    cases rest with
    | nil => exact ⟨rfl, rfl⟩
    | cons c rest => simp [hrest c rfl]
  rw [List.takeWhile_append_of_pos hds.isDigit, List.dropWhile_append_of_pos hds.isDigit, hnone.1,
    hnone.2, List.append_nil]
  exact ⟨rfl, rfl⟩

theorem scanExponent_of_written {exponent : Option Int} {es : List Char}
    (h : ExponentWritten exponent es) (negative : Bool) (whole : List Char)
    (fraction : Option (List Char)) {rest : List Char} (hends : Ends rest) :
    scanExponent negative whole fraction (es ++ rest) =
      (.number ⟨negative, whole, fraction, exponent⟩, some rest) := by
  have hrest : ∀ c ∈ rest.head?, c.isDigit = false := fun c hc => (hends c hc).1
  cases h with
  | none =>
      rw [List.nil_append]
      unfold scanExponent
      split <;> simp_all [Ends]
  | bare he hds =>
      obtain ⟨htake, hdrop⟩ := takeWhile_digits hds hrest
      obtain ⟨d, ds, rfl⟩ := List.exists_cons_of_ne_nil hds.ne_nil
      have hd := hds.isDigit d List.mem_cons_self
      have hplus : d ≠ '+' := by
        rintro rfl
        cases hd
      have hminus : d ≠ '-' := by
        rintro rfl
        cases hd
      rw [List.cons_append] at htake hdrop
      rcases he with rfl | rfl <;>
        simp [scanExponent, htake, hdrop, hplus, hminus]
  | plus he hds =>
      obtain ⟨htake, hdrop⟩ := takeWhile_digits hds hrest
      rcases he with rfl | rfl <;>
        simp [scanExponent, htake, hdrop, hds.ne_nil]
  | minus he hds =>
      obtain ⟨htake, hdrop⟩ := takeWhile_digits hds hrest
      rcases he with rfl | rfl <;>
        simp [scanExponent, htake, hdrop, hds.ne_nil]

/-- A fraction or an exponent does not begin with a digit. -/
theorem head?_fraction_exponent {fraction : Option (List Char)} {exponent : Option Int}
    {fs es rest : List Char} (hfraction : FractionWritten fraction fs)
    (hexponent : ExponentWritten exponent es) (hends : Ends rest) :
    ∀ c ∈ (fs ++ (es ++ rest)).head?, c.isDigit = false := by
  intro c hc
  cases hfraction with
  | some hds =>
      obtain rfl := Option.some.inj hc
      rfl
  | none =>
      cases hexponent with
      | none => exact (hends c hc).1
      | bare he hds | plus he hds | minus he hds =>
          obtain rfl := Option.some.inj hc
          rcases he with rfl | rfl <;> rfl

theorem scanFraction_of_written {fraction : Option (List Char)} {exponent : Option Int}
    {fs es rest : List Char} (hfraction : FractionWritten fraction fs)
    (hexponent : ExponentWritten exponent es) (hends : Ends rest) (negative : Bool)
    (whole : List Char) :
    scanFraction negative whole (fs ++ (es ++ rest)) =
      (.number ⟨negative, whole, fraction, exponent⟩, some rest) := by
  have hscan := fun fraction => scanExponent_of_written hexponent negative whole fraction hends
  cases hfraction with
  | none =>
      rw [List.nil_append, ← hscan]
      cases hexponent with
      | none =>
          unfold scanFraction
          split
          · next tail heq =>
              have hpoint : '.' ∈ rest.head? := congrArg List.head? heq
              exact absurd rfl (hends '.' hpoint).2.1
          · rfl
      | bare he hds | plus he hds | minus he hds => rcases he with rfl | rfl <;> rfl
  | some hds =>
      have hnext := head?_fraction_exponent .none hexponent hends
      obtain ⟨htake, hdrop⟩ := takeWhile_digits hds hnext
      simp only [List.nil_append] at htake hdrop
      rw [List.cons_append, scanFraction]
      simp [htake, hdrop, hds.ne_nil, hscan]

theorem scanNumber_of_written {n : Numeral} {cs : List Char} (h : n.Written cs) :
    ∃ ds, cs = (if n.negative then ['-'] else []) ++ ds ∧ (∃ d ∈ ds.head?, d.isDigit = true) ∧
      ∀ rest, Ends rest → scanNumber n.negative (ds ++ rest) = (.number n, some rest) := by
  obtain @⟨negative, whole, fs, es, fraction, exponent, hwhole, hzero, hfraction, hexponent⟩ := h
  refine ⟨whole ++ fs ++ es, by simp, ?_, ?_⟩
  · obtain ⟨d, ds, rfl⟩ := List.exists_cons_of_ne_nil hwhole.ne_nil
    exact ⟨d, rfl, hwhole.isDigit d List.mem_cons_self⟩
  intro rest hends
  have hscan := scanFraction_of_written hfraction hexponent hends negative whole
  have hnext := head?_fraction_exponent hfraction hexponent hends
  obtain ⟨htake, hdrop⟩ := takeWhile_digits hwhole hnext
  simp only [List.append_assoc]
  rcases hzero with rfl | hzero
  · have hnone : (fs ++ (es ++ rest)).takeWhile Char.isDigit = [] := by
      simpa using htake
    rw [List.singleton_append, scanNumber]
    simp [hnone, hscan]
  · unfold scanNumber
    split
    · next heq =>
        obtain ⟨d, ds, rfl⟩ := List.exists_cons_of_ne_nil hwhole.ne_nil
        simp_all
    · simp [htake, hdrop, hwhole.ne_nil, hscan]


mutual

/-- How a value is written. -/
inductive Outline.Written : Outline → List Char → Prop where
  | null : Outline.Written .null "null".toList
  | yes : Outline.Written (.bool true) "true".toList
  | no : Outline.Written (.bool false) "false".toList
  | number {n : Numeral} {cs : List Char} (h : n.Written cs) : Outline.Written (.number n) cs
  | string {text : Quoted} {cs : List Char} (h : text.Written cs) : Outline.Written (.string text) cs
  | emptyArray {gap : List Char} (hgap : Gap gap) : Outline.Written (.array [] .closed) ('[' :: (gap ++ [']']))
  | array {gap cs : List Char} {items : List Outline} (hgap : Gap gap) (h : ItemsWritten items cs) :
    Outline.Written (.array items .closed) ('[' :: (gap ++ (cs ++ [']'])))
  | emptyObject {gap : List Char} (hgap : Gap gap) :
    Outline.Written (.object [] .closed) ('\x7b' :: (gap ++ ['\x7d']))
  | object {gap cs : List Char} {members : List (Quoted × Outline)} (hgap : Gap gap)
    (h : MembersWritten members cs) :
    Outline.Written (.object members .closed) ('\x7b' :: (gap ++ (cs ++ ['\x7d'])))

/-- How items are written, with the gaps behind them. -/
inductive ItemsWritten : List Outline → List Char → Prop where
  | last {item : Outline} {cs gap : List Char} (hitem : item.Written cs) (hgap : Gap gap) :
    ItemsWritten [item] (cs ++ gap)
  | more {item : Outline} {items : List Outline} {cs gap next ds : List Char}
    (hitem : item.Written cs) (hgap : Gap gap) (hnext : Gap next) (hitems : ItemsWritten items ds) :
    ItemsWritten (item :: items) (cs ++ (gap ++ ',' :: (next ++ ds)))

/-- How a member is written, with the gap behind it. -/
inductive MemberWritten : Quoted × Outline → List Char → Prop where
  | mk {name : Quoted} {value : Outline} {ns before after cs gap : List Char}
    (hname : name.Written ns) (hbefore : Gap before) (hafter : Gap after) (hvalue : value.Written cs)
    (hgap : Gap gap) : MemberWritten (name, value) (ns ++ (before ++ ':' :: (after ++ (cs ++ gap))))

/-- How members are written, with the gaps behind them. -/
inductive MembersWritten : List (Quoted × Outline) → List Char → Prop where
  | last {member : Quoted × Outline} {cs : List Char} (hmember : MemberWritten member cs) :
    MembersWritten [member] cs
  | more {member : Quoted × Outline} {members : List (Quoted × Outline)} {cs next ds : List Char}
    (hmember : MemberWritten member cs) (hnext : Gap next) (hmembers : MembersWritten members ds) :
    MembersWritten (member :: members) (cs ++ ',' :: (next ++ ds))

end

theorem skipGaps_append {gap : List Char} (hgap : Gap gap) (rest : List Char) :
    skipGaps (gap ++ rest) = skipGaps rest :=
  List.dropWhile_append_of_pos hgap

theorem skipGaps_cons {c : Char} (hc : isGap c = false) (rest : List Char) :
    skipGaps (c :: rest) = c :: rest := by
  simp [skipGaps, hc]

theorem Quoted.Written.exists_cons {text : Quoted} {cs : List Char} (h : text.Written cs) :
    ∃ tail, cs = '"' :: tail ∧ ∀ rest, scanQuoted (tail ++ rest) = (text, some rest) := by
  obtain @⟨pieces, cs, hpieces⟩ := h
  refine ⟨cs ++ ['"'], rfl, fun rest => ?_⟩
  rw [List.append_assoc]
  exact scanQuoted_of_written hpieces rest

/-- A number begins with its sign or with a digit. -/
theorem Numeral.Written.exists_cons {n : Numeral} {cs : List Char} (h : n.Written cs) :
    ∃ c tail, cs = c :: tail ∧ (c = '-' ∨ c.isDigit = true) ∧
      ∀ fuel rest, Ends rest → scanValue (fuel + 1) (cs ++ rest) = (.number n, some rest) := by
  obtain ⟨ds, rfl, ⟨d, hd, hdigit⟩, hscan⟩ := scanNumber_of_written h
  obtain ⟨tail, rfl⟩ := List.head?_eq_some_iff.mp hd
  cases hnegative : n.negative with
  | true =>
      refine ⟨'-', d :: tail, by simp, Or.inl rfl, fun fuel rest hends => ?_⟩
      rw [← hscan rest hends, hnegative]
      rfl
  | false =>
      have hgap : isGap d = false := by
        simp only [isGap, Bool.or_eq_false_iff, decide_eq_false_iff_not]
        refine ⟨⟨⟨?_, ?_⟩, ?_⟩, ?_⟩ <;> (rintro rfl; cases hdigit)
      refine ⟨d, tail, by simp, Or.inr hdigit, fun fuel rest hends => ?_⟩
      rw [← hscan rest hends, hnegative]
      show scanValue (fuel + 1) (d :: (tail ++ rest)) = scanNumber false (d :: (tail ++ rest))
      rw [scanValue, skipGaps_cons hgap]
      split
      case h_9 heq =>
        obtain ⟨rfl, rfl⟩ := List.cons.inj heq
        rw [if_pos hdigit]
      all_goals
        next heq =>
        cases heq <;> cases hdigit

/-- A value does not begin with a blank, nor with what could end a list. -/
theorem Outline.Written.exists_cons {o : Outline} {cs : List Char} (h : o.Written cs) :
    ∃ c tail, cs = c :: tail ∧ isGap c = false ∧ c ≠ ']' := by
  cases h with
  | number h =>
      obtain ⟨c, tail, rfl, hc, _⟩ := h.exists_cons
      refine ⟨c, tail, rfl, ?_, ?_⟩
      · simp only [isGap, Bool.or_eq_false_iff, decide_eq_false_iff_not]
        refine ⟨⟨⟨?_, ?_⟩, ?_⟩, ?_⟩ <;> (rintro rfl; revert hc; decide)
      · rintro rfl
        revert hc
        decide
  | string h =>
      obtain ⟨tail, rfl, _⟩ := h.exists_cons
      exact ⟨_, _, rfl, rfl, by decide⟩
  | null | yes | no | emptyArray | array | emptyObject | object => exact ⟨_, _, rfl, rfl, by decide⟩

theorem ItemsWritten.exists_cons {items : List Outline} {cs : List Char}
    (h : ItemsWritten items cs) : ∃ c tail, cs = c :: tail ∧ isGap c = false ∧ c ≠ ']' := by
  cases h with
  | last hitem | more hitem =>
      obtain ⟨c, tail, rfl, hc⟩ := hitem.exists_cons
      exact ⟨c, _, rfl, hc⟩

theorem MembersWritten.exists_cons {members : List (Quoted × Outline)} {cs : List Char}
    (h : MembersWritten members cs) : ∃ tail, cs = '"' :: tail := by
  cases h with
  | last hmember | more hmember =>
      obtain ⟨hname⟩ := hmember
      obtain ⟨tail, rfl, _⟩ := hname.exists_cons
      exact ⟨_, rfl⟩

theorem scanValue_gap {gap : List Char} (hgap : Gap gap) (fuel : Nat) (rest : List Char) :
    scanValue fuel (gap ++ rest) = scanValue fuel rest := by
  cases fuel with
  | zero => rfl
  | succ fuel => rw [scanValue, scanValue, skipGaps_append hgap]

/-- Behind a gap and a mark no number goes on. -/
theorem ends_gap {gap : List Char} (hgap : Gap gap) (mark : Char)
    (hmark : mark.isDigit = false ∧ mark ≠ '.' ∧ mark ≠ 'e' ∧ mark ≠ 'E') (rest : List Char) :
    Ends (gap ++ mark :: rest) := by
  intro c hc
  cases gap with
  | nil =>
      obtain rfl := Option.some.inj hc
      exact hmark
  | cons blank gap =>
      obtain rfl := Option.some.inj hc
      have hblank := hgap blank List.mem_cons_self
      simp only [isGap, Bool.or_eq_true, decide_eq_true_eq] at hblank
      rcases hblank with ((rfl | rfl) | rfl) | rfl <;> decide

mutual

theorem scanValue_of_written {o : Outline} {cs : List Char} (h : o.Written cs) {fuel : Nat}
    (hfuel : 2 * cs.length ≤ fuel) {rest : List Char} (hends : Ends rest) :
    scanValue fuel (cs ++ rest) = (o, some rest) := by
  obtain ⟨fuel, rfl⟩ : ∃ n, fuel = n + 1 := by
    obtain ⟨c, tail, rfl, _⟩ := h.exists_cons
    exact Nat.exists_eq_add_of_le' (Nat.le_trans (by simp; omega) hfuel)
  match h with
  | .null | .yes | .no => rfl
  | .number h =>
      obtain ⟨c, tail, _, _, hscan⟩ := h.exists_cons
      exact hscan fuel rest hends
  | .string h =>
      obtain ⟨tail, rfl, hscan⟩ := h.exists_cons
      rw [List.cons_append, scanValue, skipGaps_cons rfl]
      simp only [hscan]
  | .emptyArray hgap | .emptyObject hgap =>
      rw [List.cons_append, scanValue, skipGaps_cons rfl, List.append_assoc]
      simp only [skipGaps_append hgap]
      rfl
  | @Outline.Written.array gap cs items hgap h =>
      obtain ⟨c, tail, hcs, hc, hclose⟩ := h.exists_cons
      have hitems := scanItems_of_written h (by simp at hfuel; omega : _ ≤ fuel) rest
      have hskip : skipGaps (gap ++ (cs ++ ']' :: rest)) = cs ++ ']' :: rest := by
        rw [skipGaps_append hgap, hcs]
        exact skipGaps_cons hc _
      rw [List.cons_append, scanValue, skipGaps_cons rfl]
      simp only [List.append_assoc, List.singleton_append, hskip]
      subst hcs
      split
      · next heq => cases heq
      · next heq => exact absurd (List.cons.inj heq).1 hclose
      · rw [hitems]
  | @Outline.Written.object gap cs members hgap h =>
      obtain ⟨tail, hcs⟩ := h.exists_cons
      have hmembers := scanMembers_of_written h (by simp at hfuel; omega : _ ≤ fuel) rest
      have hskip : skipGaps (gap ++ (cs ++ '\x7d' :: rest)) = cs ++ '\x7d' :: rest := by
        rw [skipGaps_append hgap, hcs]
        rfl
      rw [List.cons_append, scanValue, skipGaps_cons rfl]
      simp only [List.append_assoc, List.singleton_append, hskip]
      subst hcs
      split
      · next heq => cases heq
      · next heq => exact absurd (List.cons.inj heq).1 (by decide)
      · rw [hmembers]
termination_by structural h

theorem scanItems_of_written {items : List Outline} {cs : List Char} (h : ItemsWritten items cs)
    {fuel : Nat} (hfuel : 2 * cs.length + 1 ≤ fuel) (rest : List Char) :
    scanItems fuel (cs ++ ']' :: rest) = (items, .closed, some rest) := by
  obtain ⟨fuel, rfl⟩ := Nat.exists_eq_add_of_le' (Nat.le_trans (Nat.le_add_left 1 _) hfuel)
  match h with
  | @ItemsWritten.last item cs gap hitem hgap =>
      have hvalue := scanValue_of_written hitem (by simp at hfuel; omega : _ ≤ fuel)
        (ends_gap hgap ']' (by decide) rest)
      rw [List.append_assoc, scanItems, hvalue]
      simp only [skipGaps_append hgap, skipGaps_cons (c := ']') rfl]
  | @ItemsWritten.more item items cs gap next ds hitem hgap hnext hitems =>
      have hvalue := scanValue_of_written hitem (by simp at hfuel; omega : _ ≤ fuel)
        (ends_gap hgap ',' (by decide) (next ++ (ds ++ ']' :: rest)))
      have hlater := scanItems_of_written hitems (by simp at hfuel; omega : _ ≤ fuel) rest
      obtain ⟨c, tail, hds, hc, hclose⟩ := hitems.exists_cons
      have hskip : skipGaps (next ++ (ds ++ ']' :: rest)) = ds ++ ']' :: rest := by
        rw [skipGaps_append hnext, hds]
        exact skipGaps_cons hc _
      simp only [List.append_assoc, List.cons_append]
      rw [scanItems, hvalue]
      simp only [skipGaps_append hgap, skipGaps_cons (c := ',') rfl, hskip]
      subst hds
      split
      · next heq => cases heq
      · next heq => exact absurd (List.cons.inj heq).1 hclose
      · rw [hlater]
termination_by structural h

theorem scanMembers_of_written {members : List (Quoted × Outline)} {cs : List Char}
    (h : MembersWritten members cs) {fuel : Nat} (hfuel : 2 * cs.length + 1 ≤ fuel)
    (rest : List Char) :
    scanMembers fuel (cs ++ '\x7d' :: rest) = (members, .closed, some rest) := by
  obtain ⟨fuel, rfl⟩ := Nat.exists_eq_add_of_le' (Nat.le_trans (Nat.le_add_left 1 _) hfuel)
  match h with
  | .last (@MemberWritten.mk name value ns before after cs gap hname hbefore hafter hvalue hgap) =>
      obtain ⟨tail, rfl, hquoted⟩ := hname.exists_cons
      have hscan := scanValue_of_written hvalue (by simp at hfuel; omega : _ ≤ fuel)
        (ends_gap hgap '\x7d' (by decide) rest)
      simp only [List.append_assoc, List.cons_append]
      rw [scanMembers, hquoted]
      simp only [skipGaps_append hbefore, skipGaps_cons (c := ':') rfl, scanValue_gap hafter, hscan,
        skipGaps_append hgap, skipGaps_cons (c := '\x7d') rfl]
  | @MembersWritten.more _ members _ next ds
      (@MemberWritten.mk name value ns before after cs gap hname hbefore hafter hvalue hgap) hnext
      hmembers =>
      obtain ⟨tail, rfl, hquoted⟩ := hname.exists_cons
      have hscan := scanValue_of_written hvalue (by simp at hfuel; omega : _ ≤ fuel)
        (ends_gap hgap ',' (by decide) (next ++ (ds ++ '\x7d' :: rest)))
      have hlater := scanMembers_of_written hmembers (by simp at hfuel; omega : _ ≤ fuel) rest
      obtain ⟨more, rfl⟩ := hmembers.exists_cons
      simp only [List.append_assoc, List.cons_append] at hscan hlater ⊢
      rw [scanMembers, hquoted]
      simp only [skipGaps_append hbefore, skipGaps_cons (c := ':') rfl, scanValue_gap hafter, hscan,
        skipGaps_append hgap, skipGaps_cons (c := ',') rfl, skipGaps_append hnext,
        skipGaps_cons (c := '"') rfl, hlater]
termination_by structural h

end

end Courier.Json
