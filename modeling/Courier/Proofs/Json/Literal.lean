import Courier.Json.Reading
import Courier.Proofs.Json.Grammar
/-!
Strings and integers, as they are written and as they are read.

A string may spell its text in many ways; an integer is written in one.  The compact forms of both are
among those that are read back.
-/
namespace Courier.Json

/-- Pieces spell characters: each of them stands for itself, or is given by its code in one unit or
by two units of which either holds ten bits. -/
inductive Spelled : List Piece → List Char → Prop where
  | nil : Spelled [] []
  | plain (c : Char) {pieces : List Piece} {cs : List Char} (h : Spelled pieces cs) :
    Spelled (.plain c :: pieces) (c :: cs)
  | unit {c : Char} (hc : c.toNat < 0x10000) {pieces : List Piece} {cs : List Char}
    (h : Spelled pieces cs) : Spelled (.unit c.toNat :: pieces) (c :: cs)
  | pair {c : Char} (hc : 0x10000 ≤ c.toNat) {pieces : List Piece} {cs : List Char}
    (h : Spelled pieces cs) :
    Spelled (.unit (0xD800 + (c.toNat - 0x10000) / 0x400)
      :: .unit (0xDC00 + (c.toNat - 0x10000) % 0x400) :: pieces) (c :: cs)

/-- A string spells a text. -/
structure Quoted.Spells (q : Quoted) (s : String) : Prop where
  whole : q.fault = none
  spelled : Spelled q.pieces s.toList

theorem joinPieces_of_spelled {pieces : List Piece} {cs : List Char} (h : Spelled pieces cs) :
    joinPieces pieces = .ok cs := by
  induction h with
  | nil => rfl
  | plain c _ ih =>
      rw [joinPieces, ih]
      rfl
  | @unit c hc pieces cs _ ih =>
      have hvalid : c.toNat < 0xD800 ∨ 0xDFFF < c.toNat ∧ c.toNat < 0x110000 := c.valid
      rw [joinPieces.eq_def]
      simp only []
      rw [if_neg (by omega), if_neg (by omega), ih, Char.ofNat_toNat]
      rfl
  | @pair c hc pieces cs _ ih =>
      have hvalid : c.toNat < 0xD800 ∨ 0xDFFF < c.toNat ∧ c.toNat < 0x110000 := c.valid
      rw [joinPieces.eq_def]
      simp only []
      rw [if_pos (by omega), if_pos (by omega), ih]
      have hcode : (0xD800 + (c.toNat - 0x10000) / 0x400 - 0xD800) * 0x400
          + (0xDC00 + (c.toNat - 0x10000) % 0x400 - 0xDC00) + 0x10000 = c.toNat := by omega
      rw [hcode, Char.ofNat_toNat]
      rfl

theorem Quoted.Spells.read_eq {q : Quoted} {s : String} (h : q.Spells s) : q.read = .ok s := by
  rw [Quoted.read, h.whole]
  simp only [joinPieces_of_spelled h.spelled]
  exact congrArg Except.ok String.ofList_toList

/-- The piece for a character of a compact text. -/
def Piece.ofChar (c : Char) : Piece :=
  if c.toNat < 32 ∧ c ∉ ['\n', '\r', '\t', '\x08', '\x0c'] then .unit c.toNat else .plain c

/-- A text as compact text spells it. -/
def Quoted.ofString (s : String) : Quoted := ⟨s.toList.map Piece.ofChar, none⟩

theorem Quoted.spells_ofString (s : String) : (Quoted.ofString s).Spells s := by
  refine ⟨rfl, ?_⟩
  show Spelled (s.toList.map Piece.ofChar) s.toList
  induction s.toList with
  | nil => exact .nil
  | cons c cs ih =>
      rw [List.map_cons, Piece.ofChar]
      split
      · exact .unit (by omega) ih
      · exact .plain c ih

theorem hexUnit?_control : ∀ n < 32,
    hexUnit? '0' '0' (Nat.digitChar (n / 16)) (Nat.digitChar (n % 16)) = some n := by
  decide

theorem Piece.written_ofChar (c : Char) : (Piece.ofChar c).Written (escapeChar c) := by
  by_cases hcontrol : c.toNat < 32 ∧ c ∉ ['\n', '\r', '\t', '\x08', '\x0c']
  · obtain ⟨hlow, hletter⟩ := hcontrol
    have hquote : c ≠ '"' := by rintro rfl; revert hlow; decide
    have hslash : c ≠ '\\' := by rintro rfl; revert hlow; decide
    simp only [List.mem_cons, List.not_mem_nil, or_false, not_or] at hletter
    rw [Piece.ofChar, if_pos ⟨hlow, by simpa using hletter⟩]
    simp only [escapeChar, hquote, hslash, hletter, hlow, if_true, if_false]
    exact .unit (hexUnit?_control c.toNat hlow)
  · rw [Piece.ofChar, if_neg hcontrol, escapeChar]
    simp only [List.mem_cons, List.not_mem_nil, or_false] at hcontrol
    split
    · next h => subst h; exact .letter rfl
    split
    · next h => subst h; exact .letter rfl
    split
    · next h => subst h; exact .letter rfl
    split
    · next h => subst h; exact .letter rfl
    split
    · next h => subst h; exact .letter rfl
    split
    · next h => subst h; exact .letter rfl
    split
    · next h => subst h; exact .letter rfl
    split
    · grind
    · exact .plain ‹_› ‹_› (by omega)

theorem Quoted.written_ofString (s : String) : (Quoted.ofString s).Written (quote s) := by
  apply Quoted.Written.mk
  induction s.toList with
  | nil => exact .nil
  | cons c cs ih => exact .cons (Piece.written_ofChar c) ih

/-- The number of an integer as compact text writes it. -/
def Numeral.ofInt (n : Int) : Numeral := ⟨decide (n < 0), Nat.toDigits 10 n.natAbs, none, none⟩

theorem head?_toDigits {n : Nat} (hn : 0 < n) : (Nat.toDigits 10 n).head? ≠ some '0' := by
  induction n using Nat.strongRecOn with
  | ind n ih =>
      rw [Nat.toDigits_eq_if (by decide)]
      split
      · intro hzero
        have hdigit : n.digitChar = '0' := Option.some.inj hzero
        exact absurd (Nat.digitChar_eq_zero.mp hdigit) (Nat.ne_of_gt hn)
      · obtain ⟨d, ds, hds⟩ := List.exists_cons_of_ne_nil (Nat.toDigits_ne_nil (b := 10) (n := n / 10))
        have hhead := ih (n / 10) (by omega) (by omega)
        rw [hds] at hhead ⊢
        exact hhead

theorem Numeral.written_ofInt (n : Int) : (Numeral.ofInt n).Written (integerText n) := by
  have hdigits : Digits (Nat.toDigits 10 n.natAbs) :=
    ⟨Nat.toDigits_ne_nil, fun c hc => Nat.isDigit_of_mem_toDigits (by decide) (by decide) hc⟩
  have hzero : Nat.toDigits 10 n.natAbs = ['0'] ∨ (Nat.toDigits 10 n.natAbs).head? ≠ some '0' := by
    rcases Nat.eq_zero_or_pos n.natAbs with hzero | hpos
    · exact Or.inl (by rw [hzero]; rfl)
    · exact Or.inr (head?_toDigits hpos)
  have hwritten : Numeral.Written (.ofInt n)
      ((if decide (n < 0) then ['-'] else []) ++ Nat.toDigits 10 n.natAbs ++ [] ++ []) :=
    .mk hdigits hzero .none .none
  by_cases hn : n < 0 <;> simpa [integerText, hn] using hwritten

/-- Digits are taken in full as long as their value fits into 64 bits. -/
theorem absorb_of_le {ds : List Char} {significand : Nat}
    (hle : Nat.ofDigitChars 10 ds significand ≤ maxInteger) :
    absorb significand ds = (Nat.ofDigitChars 10 ds significand, 0) := by
  induction ds generalizing significand with
  | nil => rfl
  | cons c ds ih =>
      rw [Nat.ofDigitChars_cons, Nat.mul_comm] at hle ⊢
      have hnext : significand * 10 + (c.toNat - '0'.toNat) ≤ maxInteger := by
        rw [Nat.ofDigitChars_eq_ofDigitChars_zero] at hle
        have hpow : 1 ≤ 10 ^ ds.length := Nat.one_le_pow _ _ (by decide)
        exact Nat.le_trans (Nat.le_mul_of_pos_left _ hpow) (Nat.le_of_add_right_le hle)
      rw [absorb, if_neg (Nat.not_lt_of_le hnext), ih hle]

/-- The integers that are kept as such. -/
def Kept (n : Int) : Prop := -0x8000000000000000 ≤ n ∧ n ≤ maxInteger

theorem Numeral.read_ofInt {n : Int} (hn : Kept n) : (Numeral.ofInt n).read = .ok (.integer n) := by
  obtain ⟨hlow, hhigh⟩ := hn
  unfold maxInteger at hhigh
  have hvalue : Nat.ofDigitChars 10 (Nat.toDigits 10 n.natAbs) 0 = n.natAbs :=
    Nat.ofDigitChars_toDigits (by decide) (by decide)
  have habsorb : absorb 0 (Nat.toDigits 10 n.natAbs) = (n.natAbs, 0) := by
    rw [absorb_of_le (by rw [hvalue, maxInteger]; omega), hvalue]
  rw [Numeral.read, Numeral.value?, Numeral.ofInt, habsorb]
  by_cases hnegative : n < 0
  · have hrange : ¬(n.natAbs = 0 ∨ 0x8000000000000000 < n.natAbs) := by omega
    have habs : -(n.natAbs : Int) = n := by omega
    simp only [hnegative, decide_true, Bool.not_true, Bool.false_eq_true, and_self, if_true,
      if_false, hrange, habs]
  · have habs : (n.natAbs : Int) = n := by omega
    simp [hnegative, habs]

end Courier.Json
