import Courier.Backoff
import Courier.Proofs.Double.Exact
/-!
The pause after an attempt.

A jitter that is a number always leads to a pause, and without jitter the pause does not depend on
the draw.
-/
namespace Courier

/-- Between bounds that are numbers a number stays one. -/
theorem Double.clamp_ne_nan {x low high : Double} (hx : x ≠ .nan) (hlow : low ≠ .nan)
    (hhigh : high ≠ .nan) : x.clamp low high ≠ .nan := by
  unfold Double.clamp
  split
  · exact hlow
  · split
    · exact hhigh
    · exact hx

/-- Neither zero lies beyond one. -/
theorem Double.isZero_clamp_one {x : Double} (hx : x.isZero = true) :
    (x.clamp Double.zero Double.one).isZero = true := by
  have hbelow : Double.one.lt x = false := by
    cases x with
    | finite negative steps =>
        have hsteps : steps = 0 := by simpa only [Double.isZero, beq_iff_eq] using hx
        have hsigned : Double.signed negative steps = 0 := by
          rw [hsteps]
          cases negative <;> rfl
        have hunit := Double.unit_pos
        have hnot : ¬Double.signed false Double.unit ≤ Double.signed negative steps := by
          rw [hsigned, Double.signed, if_neg Bool.false_ne_true]
          omega
        rw [Double.lt, Double.one, Double.le, decide_eq_false hnot, Bool.false_and]
    | _ => cases hx
  unfold Double.clamp
  split
  · rfl
  · rw [hbelow, if_neg Bool.false_ne_true]
    exact hx

theorem Double.ne_nan_of_isZero {x : Double} (hx : x.isZero = true) : x ≠ .nan := by
  rintro rfl
  cases hx

namespace Backoff

variable {b : Backoff}

theorem spread_ne_nan (hjitter : b.jitter ≠ .nan) : b.spread ≠ .nan :=
  Double.clamp_ne_nan hjitter Double.noConfusion Double.noConfusion

theorem exists_delayFor (hjitter : b.jitter ≠ .nan) (draw : Draw) (attempt : Nat) :
    ∃ pause, b.delayFor draw attempt = .ok pause := by
  unfold delayFor
  by_cases hrandom : b.isRandom attempt = true
  · simp [hrandom, spread_ne_nan hjitter]
  · simp [hrandom]

/-- Where there is no pause, the jitter is no number. -/
theorem delayFor_eq_error {draw : Draw} {attempt : Nat} {panic : Panic}
    (hdelay : b.delayFor draw attempt = .error panic) :
    b.jitter = .nan ∧ panic = emptyRange := by
  constructor
  · by_contra hjitter
    obtain ⟨pause, hpause⟩ := exists_delayFor hjitter draw attempt
    rw [hpause] at hdelay
    cases hdelay
  · unfold delayFor at hdelay
    split at hdelay
    · split at hdelay
      · exact (Except.error.inj hdelay).symm
      · cases hdelay
    · cases hdelay

theorem isZero_spread (hjitter : b.jitter.isZero = true) : b.spread.isZero = true :=
  Double.isZero_clamp_one hjitter

/-- Without jitter every pause is the one before jitter. -/
theorem delayFor_of_isZero (hjitter : b.jitter.isZero = true) (draw : Draw) (attempt : Nat) :
    b.delayFor draw attempt = .ok (b.baseDelay attempt) := by
  simp [delayFor, isRandom, isZero_spread hjitter]

end Backoff

end Courier
