import Courier.Proofs.Double.Exact
/-!
Rounding beside powers of two.

A power of two is a number of the format, so rounding does not lead past it.  One is such a number:
what is added to one leads up from it or stays there, and what is taken away leads down.
-/
namespace Courier.Double

theorem le_divNearestEven {num den bound : Nat} (hden : 0 < den) (h : bound * den ≤ num) :
    bound ≤ divNearestEven num den := by
  have hquotient : bound ≤ num / den := (Nat.le_div_iff_mul_le hden).mpr h
  unfold divNearestEven
  dsimp only
  split
  · exact Nat.le_succ_of_le hquotient
  · exact hquotient

theorem divNearestEven_le {num den bound : Nat} (hden : 0 < den) (h : num ≤ bound * den) :
    divNearestEven num den ≤ bound := by
  have hquotient : num / den ≤ bound := by
    rw [← Nat.mul_div_cancel bound hden]
    exact Nat.div_le_div_right h
  unfold divNearestEven
  dsimp only
  split
  · rename_i hup
    -- Something is left over, so that the quotient has not reached the bound yet.
    have hleft : 0 < num % den := by omega
    have hbelow : num / den ≠ bound := by
      rintro rfl
      have hsplit := Nat.div_add_mod' num den
      omega
    omega
  · exact hquotient

/-- A whole number of steps is rounded by its own excess. -/
theorem roundSteps_one (n : Nat) :
    roundSteps n 1 = divNearestEven n (2 ^ excess n) * 2 ^ excess n := by
  rw [roundSteps, Nat.div_one, Nat.one_mul]
  rfl

theorem roundSteps_le_pow {n k : Nat} (h : n ≤ 2 ^ k) : roundSteps n 1 ≤ 2 ^ k := by
  have hexcess : excess n ≤ k := by
    rcases Nat.eq_zero_or_pos n with rfl | hpos
    · simp [excess]
    · have hlog : n.log2 ≤ k := by
        rw [Nat.log2_eq_log_two]
        calc Nat.log 2 n ≤ Nat.log 2 (2 ^ k) := Nat.log_mono_right h
          _ = k := Nat.log_pow Nat.one_lt_two k
      rw [excess]
      omega
  have hpow : 2 ^ k = 2 ^ (k - excess n) * 2 ^ excess n := by
    rw [← Nat.pow_add, Nat.sub_add_cancel hexcess]
  rw [roundSteps_one, hpow]
  exact Nat.mul_le_mul_right _ (divNearestEven_le (Nat.two_pow_pos _) (hpow ▸ h))

theorem pow_le_roundSteps {n k : Nat} (h : 2 ^ k ≤ n) : 2 ^ k ≤ roundSteps n 1 := by
  rw [roundSteps_one]
  rcases Nat.le_total (excess n) k with hexcess | hexcess
  · have hpow : 2 ^ k = 2 ^ (k - excess n) * 2 ^ excess n := by
      rw [← Nat.pow_add, Nat.sub_add_cancel hexcess]
    rw [hpow]
    exact Nat.mul_le_mul_right _ (le_divNearestEven (Nat.two_pow_pos _) (hpow ▸ h))
  · -- The grid is coarser than the power, and still finer than the number.
    have hne : n ≠ 0 := Nat.ne_of_gt (Nat.lt_of_lt_of_le (Nat.two_pow_pos k) h)
    have hgrid : 1 * 2 ^ excess n ≤ n := by
      rw [Nat.one_mul]
      have hlog : excess n ≤ n.log2 := by
        rw [excess]
        omega
      exact (Nat.le_log2 hne).mp hlog
    calc 2 ^ k ≤ 1 * 2 ^ excess n := by
          rw [Nat.one_mul]
          exact Nat.pow_le_pow_right Nat.two_pos hexcess
      _ ≤ divNearestEven n (2 ^ excess n) * 2 ^ excess n :=
          Nat.mul_le_mul_right _ (le_divNearestEven (Nat.two_pow_pos _) hgrid)

/-- Rounding leads past neither one nor two. -/
theorem ofSteps_of_le_two {n : Nat} (h : n ≤ 2 * unit) :
    ∃ steps, ofSteps false n 1 = .finite false steps ∧ steps ≤ 2 * unit ∧
      (n ≤ unit → steps ≤ unit) ∧ (unit ≤ n → unit ≤ steps) := by
  obtain ⟨k, e, he, hunit, hlimit⟩ := exists_exponents
  have htwo : 2 * unit = 2 ^ (k + 1) := by
    rw [hunit, Nat.pow_succ, Nat.mul_comm]
    rfl
  have hsteps : roundSteps n 1 ≤ 2 * unit := htwo ▸ roundSteps_le_pow (htwo ▸ h)
  have hrange : roundSteps n 1 < limit := by
    calc roundSteps n 1 ≤ 2 ^ (k + 1) := htwo ▸ hsteps
      _ < 2 ^ e := Nat.pow_lt_pow_right Nat.one_lt_two (by omega)
      _ = limit := hlimit.symm
  have hfinite : ofSteps false n 1 = .finite false (roundSteps n 1) := by
    rw [ofSteps]
    exact if_pos hrange
  refine ⟨roundSteps n 1, hfinite, hsteps, ?_, ?_⟩
  · intro hone
    rw [hunit] at hone ⊢
    exact roundSteps_le_pow hone
  · intro hone
    rw [hunit] at hone ⊢
    exact pow_le_roundSteps hone

/-- A number from zero to one; zero may have either sign. -/
def Fraction (x : Double) : Prop :=
  ∃ negative steps, x = .finite negative steps ∧ steps ≤ unit ∧ (negative = true → steps = 0)

namespace Fraction

variable {x : Double}

/-- A fraction more than one is a number from one to two. -/
theorem one_add (hx : x.Fraction) :
    ∃ steps, one + x = .finite false steps ∧ unit ≤ steps ∧ steps ≤ 2 * unit := by
  obtain ⟨negative, m, rfl, hm, hzero⟩ := hx
  have hsum : one + Double.finite negative m = ofSteps false (unit + m) 1 := by
    rw [one]
    cases negative with
    | false => rw [add_finite_same]
    | true =>
        obtain rfl := hzero rfl
        rw [add_finite_of_le (Nat.zero_le unit), Nat.sub_zero, Nat.add_zero]
  have hsmall : unit + m ≤ 2 * unit := by omega
  obtain ⟨steps, heq, hle, -, hge⟩ := ofSteps_of_le_two hsmall
  exact ⟨steps, hsum.trans heq, hge (Nat.le_add_right unit m), hle⟩

/-- A fraction less than one is a number from zero to one. -/
theorem one_sub (hx : x.Fraction) :
    ∃ steps, one + -x = .finite false steps ∧ steps ≤ unit := by
  obtain ⟨negative, m, rfl, hm, hzero⟩ := hx
  have hsum : one + -Double.finite negative m = ofSteps false (unit - m) 1 := by
    have hneg : -Double.finite negative m = .finite (!negative) m := rfl
    rw [one, hneg]
    cases negative with
    | false => rw [Bool.not_false, add_finite_of_le hm]
    | true =>
        obtain rfl := hzero rfl
        rw [Bool.not_true, add_finite_same, Nat.sub_zero, Nat.add_zero]
  have hsmall : unit - m ≤ 2 * unit := by omega
  obtain ⟨steps, heq, -, hle, -⟩ := ofSteps_of_le_two hsmall
  exact ⟨steps, hsum.trans heq, hle (Nat.sub_le unit m)⟩

end Fraction

theorem lt_finite (s t : Bool) (m n : Nat) :
    (Double.finite s m).lt (.finite t n) = decide (signed s m < signed t n) := by
  rw [lt, le, le, Bool.eq_iff_iff]
  simp only [Bool.and_eq_true, Bool.not_eq_true', decide_eq_true_eq, decide_eq_false_iff_not]
  omega

/-- What is a number becomes a fraction between zero and one. -/
theorem fraction_clamp {x : Double} (hx : x ≠ .nan) : (x.clamp zero one).Fraction := by
  have hzero : zero.Fraction := ⟨false, 0, rfl, Nat.zero_le _, fun _ => rfl⟩
  have hone : one.Fraction := ⟨false, unit, rfl, Nat.le_refl _, fun h => nomatch h⟩
  unfold clamp
  split
  · exact hzero
  · split
    · exact hone
    · rename_i hlow hhigh
      cases x with
      | nan => exact absurd rfl hx
      | infinity negative =>
          cases negative with
          | false => exact absurd rfl hhigh
          | true => exact absurd rfl hlow
      | finite negative m =>
          rw [zero, lt_finite, decide_eq_true_eq] at hlow
          rw [one, lt_finite, decide_eq_true_eq] at hhigh
          refine ⟨negative, m, rfl, ?_, ?_⟩
          · cases negative with
            | false =>
                simp only [signed, Bool.false_eq_true, if_false] at hhigh
                omega
            | true =>
                simp only [signed, Bool.false_eq_true, if_false, if_true] at hlow
                omega
          · rintro rfl
            simp only [signed, Bool.false_eq_true, if_false, if_true] at hlow
            omega

end Courier.Double
