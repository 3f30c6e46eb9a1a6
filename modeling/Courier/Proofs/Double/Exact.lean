import Mathlib.Algebra.GroupWithZero.Nat
import Mathlib.Data.Nat.Log
import Courier.Double.Basic
/-!
Natural numbers among the floating-point numbers.

A natural number of at most 53 bits is represented exactly, so sums of such numbers are exact as long
as they do not grow beyond that.
-/
namespace Courier.Double

/-- A quotient without a remainder is not rounded. -/
theorem divNearestEven_of_dvd {num den : Nat} (hden : 0 < den) (hdvd : den ∣ num) :
    divNearestEven num den = num / den := by
  have hmod : num % den = 0 := Nat.mod_eq_zero_of_dvd hdvd
  have hexact : ¬(den < 2 * (num % den) ∨
      (2 * (num % den) = den ∧ num / den % 2 = 1)) := by
    rw [hmod]
    omega
  rw [divNearestEven]
  exact if_neg hexact

theorem mul_pow_lt {n : Nat} (hn : n < 2 ^ 53) {k e : Nat} (he : 53 + k ≤ e) :
    n * Nat.pow 2 k < Nat.pow 2 e := by
  have hlt : n * 2 ^ k < 2 ^ (53 + k) := by
    rw [Nat.pow_add]
    exact Nat.mul_lt_mul_of_pos_right hn (Nat.two_pow_pos k)
  exact Nat.lt_of_lt_of_le hlt (Nat.pow_le_pow_right Nat.two_pos he)

/-- The bits that do not fit into a significand are zeros. -/
theorem excess_mul_pow_le {n : Nat} (hn : n < 2 ^ 53) (k : Nat) :
    excess (n * Nat.pow 2 k) ≤ k := by
  rcases Nat.eq_zero_or_pos n with rfl | hpos
  · simp [excess]
  · have hne : n * Nat.pow 2 k ≠ 0 :=
      Nat.mul_ne_zero (Nat.ne_of_gt hpos) (Nat.ne_of_gt (Nat.two_pow_pos k))
    have hlog := (Nat.log2_lt hne).mpr (mul_pow_lt hn (Nat.le_refl (53 + k)))
    rw [excess]
    omega

/-- Whole numbers of 53 bits are not rounded. -/
theorem roundSteps_mul_pow {n : Nat} (hn : n < 2 ^ 53) {k steps : Nat}
    (hsteps : steps = n * Nat.pow 2 k) : roundSteps steps 1 = steps := by
  have hdvd : Nat.pow 2 (excess steps) ∣ steps := by
    rw [hsteps]
    exact Nat.dvd_mul_left_of_dvd (Nat.pow_dvd_pow 2 (excess_mul_pow_le hn k)) n
  have hround : roundSteps steps 1 =
      divNearestEven steps (Nat.pow 2 (excess steps)) * Nat.pow 2 (excess steps) := by
    rw [roundSteps, Nat.div_one, Nat.one_mul]
  have hpow : 0 < Nat.pow 2 (excess steps) := Nat.two_pow_pos _
  rw [hround, divNearestEven_of_dvd hpow hdvd, Nat.div_mul_cancel hdvd]

/-- The numbers of steps of one and of the range are powers of two. -/
theorem exists_exponents :
    ∃ k e, 53 + k ≤ e ∧ unit = Nat.pow 2 k ∧ limit = Nat.pow 2 e := by
  refine ⟨1074, 2098, by omega, ?_, ?_⟩
  · unfold unit
    exact Eq.refl _
  · unfold limit
    exact Eq.refl _

theorem unit_pos : 0 < unit := by
  obtain ⟨k, _, _, hunit, _⟩ := exists_exponents
  rw [hunit]
  exact Nat.two_pow_pos k

/-- Steps that make up such a number are a number of the format. -/
theorem ofSteps_mul_unit {n : Nat} (hn : n < 2 ^ 53) (negative : Bool) :
    ofSteps negative (n * unit) 1 = .finite negative (n * unit) := by
  obtain ⟨k, e, he, hunit, hlimit⟩ := exists_exponents
  have hlt : n * unit < limit := by
    rw [hunit, hlimit]
    exact mul_pow_lt hn he
  rw [ofSteps, roundSteps_mul_pow hn (congrArg (n * ·) hunit)]
  exact if_pos hlt

theorem ofNat_eq {n : Nat} (hn : n < 2 ^ 53) : ofNat n = .finite false (n * unit) :=
  ofSteps_mul_unit hn false

theorem ofNat_zero : ofNat 0 = zero := by
  rw [ofNat_eq (Nat.two_pow_pos 53), Nat.zero_mul]
  rfl

theorem ofNat_one : ofNat 1 = one := by
  rw [ofNat_eq (Nat.one_lt_two_pow (by omega)), Nat.one_mul]
  rfl

/-- Sums of natural numbers are exact as long as they have 53 bits. -/
theorem ofNat_add {m n : Nat} (h : m + n < 2 ^ 53) : ofNat m + ofNat n = ofNat (m + n) := by
  have hm : m < 2 ^ 53 := Nat.lt_of_le_of_lt (Nat.le_add_right m n) h
  have hn : n < 2 ^ 53 := Nat.lt_of_le_of_lt (Nat.le_add_left n m) h
  rw [ofNat_eq hm, ofNat_eq hn, add_finite_same, ← Nat.add_mul, ofSteps_mul_unit h, ofNat_eq h]

theorem foldr_add_ofNat {l : List Nat} (h : l.sum < 2 ^ 53) :
    (l.map ofNat).foldr (· + ·) zero = ofNat l.sum := by
  induction l with
  | nil => exact ofNat_zero.symm
  | cons n rest ih =>
      rw [List.sum_cons] at h ⊢
      have hrest : rest.sum < 2 ^ 53 := Nat.lt_of_le_of_lt (Nat.le_add_left _ _) h
      rw [List.map_cons, List.foldr_cons, ih hrest, ofNat_add h]

end Courier.Double
