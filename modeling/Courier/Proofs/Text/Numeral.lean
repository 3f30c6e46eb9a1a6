import Courier.Text.Numeral
/-!
The texts that stand for a natural number.

Main statement: a text is read as a number exactly if it stands for that number and the number does not
pass the bound.
-/
namespace Courier.Text

/-- Digits, behind a plus sign or not, stand for their decimal value. -/
inductive Stands : List Char → Nat → Prop where
  | plain {digits : List Char} (hne : digits ≠ []) (hdigits : ∀ c ∈ digits, c.isDigit = true) :
    Stands digits (Nat.ofDigitChars 10 digits 0)
  | plus {digits : List Char} (hne : digits ≠ []) (hdigits : ∀ c ∈ digits, c.isDigit = true) :
    Stands ('+' :: digits) (Nat.ofDigitChars 10 digits 0)

/-- More digits only add to what stands before them. -/
theorem le_ofDigitChars (value : Nat) (cs : List Char) : value ≤ Nat.ofDigitChars 10 cs value := by
  rw [Nat.ofDigitChars_eq_ofDigitChars_zero]
  have hpow : 0 < 10 ^ cs.length := Nat.pow_pos (by decide)
  exact Nat.le_add_right_of_le (Nat.le_mul_of_pos_left value hpow)

theorem readDigits_eq_ok_iff {bound value n : Nat} {cs : List Char} (hvalue : value ≤ bound) :
    readDigits bound value cs = .ok n ↔
      (∀ c ∈ cs, c.isDigit = true) ∧ n = Nat.ofDigitChars 10 cs value ∧ n ≤ bound := by
  induction cs generalizing value with
  | nil =>
      simp only [readDigits, Except.ok.injEq, List.not_mem_nil, false_implies, implies_true,
        true_and, Nat.ofDigitChars_nil]
      constructor
      · rintro rfl
        exact ⟨rfl, hvalue⟩
      · rintro ⟨rfl, -⟩
        rfl
  | cons c rest ih =>
      rw [readDigits, Nat.ofDigitChars_cons, Nat.mul_comm 10 value, List.forall_mem_cons]
      by_cases hdigit : c.isDigit = true
      · by_cases hover : bound < value * 10 + (c.toNat - '0'.toNat)
        · -- What has passed the bound stays past it.
          have hgrown := le_ofDigitChars (value * 10 + (c.toNat - '0'.toNat)) rest
          rw [if_pos hdigit, if_pos hover]
          constructor
          · intro h
            cases h
          · rintro ⟨-, rfl, hle⟩
            omega
        · rw [if_pos hdigit, if_neg hover, ih (Nat.le_of_not_lt hover)]
          simp only [hdigit, true_and]
      · rw [if_neg hdigit]
        constructor
        · intro h
          cases h
        · rintro ⟨⟨h, -⟩, -⟩
          exact absurd h hdigit

theorem readNat_eq_ok_iff {bound n : Nat} {s : String} :
    readNat bound s = .ok n ↔ Stands s.toList n ∧ n ≤ bound := by
  unfold readNat
  generalize s.toList = cs
  constructor
  · intro h
    split at h
    · cases h
    · cases h
    · rename_i digits hne
      obtain ⟨hdigits, rfl, hle⟩ := (readDigits_eq_ok_iff (Nat.zero_le bound)).mp h
      exact ⟨.plus (fun hnil => hne (by rw [hnil])) hdigits, hle⟩
    · rename_i hne _ _
      obtain ⟨hdigits, rfl, hle⟩ := (readDigits_eq_ok_iff (Nat.zero_le bound)).mp h
      exact ⟨.plain hne hdigits, hle⟩
  · rintro ⟨hstands, hle⟩
    cases hstands with
    | plain hne hdigits =>
        have hread := (readDigits_eq_ok_iff (Nat.zero_le bound)).mpr ⟨hdigits, rfl, hle⟩
        have hplus : '+' ∉ cs := fun hmem => absurd (hdigits _ hmem) (by decide)
        split
        · exact absurd rfl hne
        · exact absurd List.mem_cons_self hplus
        · exact absurd List.mem_cons_self hplus
        · exact hread
    | plus hne hdigits =>
        have hread := (readDigits_eq_ok_iff (Nat.zero_le bound)).mpr ⟨hdigits, rfl, hle⟩
        obtain ⟨d, digits, rfl⟩ := List.exists_cons_of_ne_nil hne
        exact hread

/-- A text stands for one number at most. -/
theorem Stands.unique {cs : List Char} {m n : Nat} (hm : Stands cs m) (hn : Stands cs n) :
    m = n := by
  have hread : ∀ {k}, Stands cs k → k ≤ max m n → readNat (max m n) (String.ofList cs) = .ok k :=
    fun hk hle => readNat_eq_ok_iff.mpr ⟨by rwa [String.toList_ofList], hle⟩
  have hboth := (hread hm (Nat.le_max_left m n)).symm.trans (hread hn (Nat.le_max_right m n))
  exact Except.ok.inj hboth

end Courier.Text
