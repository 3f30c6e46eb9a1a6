import Courier.Proofs.Backoff.Pause
import Courier.Proofs.Double.Rounding
/-!
How the pause between two attempts grows.

It doubles from attempt to attempt until it is the longest one.  There are at most 31 doublings, which
shows only where they do not lead up to the longest pause.  Neither an overflow nor the draw can lead
past the longest pause, and with accepted settings there is always something to draw from.
-/
namespace Courier

namespace Duration

variable (d : Duration) (factor : Nat)

def longest : Duration := ⟨maxNanos, by decide⟩

/-- The product with a factor, worked out in seconds and in nanoseconds, which carry over into the
seconds.  There is none if the seconds need more than 64 bits. -/
def product? : Option Duration :=
  let carried := d.subsecond * factor
  let seconds := d.seconds * factor + carried / second
  if h : seconds < 0x10000000000000000 then
    some ⟨seconds * second + carried % second, by simp only [second]; omega⟩
  else none

theorem mul_parts : d.nanos * factor =
    (d.seconds * factor + d.subsecond * factor / second) * second +
      d.subsecond * factor % second := by
  have hsplit : d.nanos = d.seconds * second + d.subsecond := (Nat.div_add_mod' _ _).symm
  have hcarry := Nat.div_add_mod' (d.subsecond * factor) second
  calc d.nanos * factor = d.seconds * factor * second + d.subsecond * factor := by
        rw [hsplit, Nat.add_mul, Nat.mul_right_comm]
    _ = _ := by rw [Nat.add_mul, Nat.add_assoc, hcarry]

/-- The product stops at the longest duration exactly where its seconds overflow. -/
theorem scale_eq_product : d.scale factor = (d.product? factor).getD longest := by
  apply ext_nanos
  have hparts := d.mul_parts factor
  have hmax : maxNanos = 0x10000000000000000 * second - 1 := rfl
  have hrest := Nat.mod_lt (d.subsecond * factor) (show 0 < second by decide)
  rw [scale, nanos_ofNanos, product?, hparts]
  split
  · rename_i hfits
    rw [Option.getD_some]
    refine Nat.min_eq_left ?_
    generalize d.seconds * factor + d.subsecond * factor / second = seconds at hfits ⊢
    simp only [second] at hmax hrest ⊢
    omega
  · rename_i hover
    rw [Option.getD_none]
    refine Nat.min_eq_right ?_
    generalize d.seconds * factor + d.subsecond * factor / second = seconds at hover ⊢
    simp only [second] at hmax hrest ⊢
    omega

end Duration

namespace Backoff

variable (b : Backoff)

/-- Doubled at most 31 times, the initial pause overflows only past the longest one. -/
theorem nanos_baseDelay (attempt : Nat) : (b.baseDelay attempt).nanos =
    min (b.initial.nanos * 2 ^ min (attempt - 1) 31) b.longest.nanos := by
  have hlongest : b.longest.nanos ≤ Duration.maxNanos := Nat.le_pred_of_lt b.longest.bounded
  rw [baseDelay, Duration.nanos_min, Duration.scale, Duration.nanos_ofNanos, Nat.min_assoc,
    Nat.min_eq_right hlongest]
  rfl

theorem baseDelay_mono {earlier later : Nat} (h : earlier ≤ later) :
    b.baseDelay earlier ≤ b.baseDelay later := by
  show (b.baseDelay earlier).nanos ≤ (b.baseDelay later).nanos
  have hdoublings : min (earlier - 1) 31 ≤ min (later - 1) 31 := by omega
  have hproduct : b.initial.nanos * 2 ^ min (earlier - 1) 31 ≤
      b.initial.nanos * 2 ^ min (later - 1) 31 :=
    Nat.mul_le_mul_left _ (Nat.pow_le_pow_right Nat.two_pos hdoublings)
  rw [nanos_baseDelay, nanos_baseDelay]
  exact le_min (Nat.le_trans (Nat.min_le_left _ _) hproduct) (Nat.min_le_right _ _)

/-- From the 33rd attempt on the pause is too short, unless it is the longest one or none at all. -/
theorem nanos_baseDelay_eq_iff (attempt : Nat) :
    (b.baseDelay attempt).nanos =
        min (b.initial.nanos * 2 ^ (attempt - 1)) b.longest.nanos ↔
      attempt ≤ 32 ∨ b.initial.isZero = true ∨
        b.longest.nanos ≤ b.initial.nanos * 2 ^ 31 := by
  rw [nanos_baseDelay, Duration.isZero, beq_iff_eq]
  rcases Nat.lt_or_ge 32 attempt with hlate | hearly
  · have hdoublings : min (attempt - 1) 31 = 31 := by omega
    have hdouble : 2 ^ 31 * 2 ≤ 2 ^ (attempt - 1) := by
      rw [← Nat.pow_succ]
      exact Nat.pow_le_pow_right Nat.two_pos (by omega)
    have hmore : b.initial.nanos * 2 ^ 31 * 2 ≤ b.initial.nanos * 2 ^ (attempt - 1) := by
      rw [Nat.mul_assoc]
      exact Nat.mul_le_mul_left _ hdouble
    have hnone : b.initial.nanos = 0 → b.initial.nanos * 2 ^ (attempt - 1) = 0 := by
      intro hzero
      rw [hzero, Nat.zero_mul]
    rw [hdoublings]
    generalize b.initial.nanos * 2 ^ (attempt - 1) = doubled at hmore hnone ⊢
    omega
  · have hdoublings : min (attempt - 1) 31 = attempt - 1 := by omega
    rw [hdoublings]
    exact iff_of_true rfl (Or.inl hearly)

/-- The factors between which a pause is scaled. -/
def factors : Double × Double := (Double.one + -b.spread, Double.one + b.spread)

variable {b}

/-- With a jitter that is a number the factors lie on both sides of one. -/
theorem factors_eq (hjitter : b.jitter ≠ .nan) :
    ∃ low high, b.factors = (.finite false low, .finite false high) ∧
      low ≤ Double.unit ∧ Double.unit ≤ high ∧ high ≤ 2 * Double.unit := by
  have hspread : b.spread.Fraction := Double.fraction_clamp hjitter
  obtain ⟨low, hlow, hlow_le⟩ := hspread.one_sub
  obtain ⟨high, hhigh, hle_high, hhigh_le⟩ := hspread.one_add
  exact ⟨low, high, by rw [factors, hlow, hhigh], hlow_le, hle_high, hhigh_le⟩

theorem factors_ordered (hjitter : b.jitter ≠ .nan) :
    b.factors.1.le b.factors.2 = true := by
  obtain ⟨low, high, heq, hlow, hhigh, -⟩ := factors_eq hjitter
  rw [heq, Double.le, decide_eq_true_eq]
  simp only [Double.signed, Bool.false_eq_true, if_false]
  omega

/-- A draw breaks off exactly where the factors leave nothing to draw from. -/
theorem delayFor_eq (draw : Draw) (attempt : Nat) : b.delayFor draw attempt =
    if b.isRandom attempt then
      if b.factors.1.le b.factors.2 then
        .ok (min ((draw (b.baseDelay attempt)).getD b.longest) b.longest)
      else .error emptyRange
    else .ok (b.baseDelay attempt) := by
  have hempty : b.spread = .nan ↔ ¬b.factors.1.le b.factors.2 = true := by
    constructor
    · intro hspread
      rw [factors, hspread]
      exact Bool.false_ne_true
    · intro hfactors
      have hjitter : b.jitter = .nan := by
        by_contra hjitter
        exact hfactors (factors_ordered hjitter)
      rw [spread, hjitter]
      rfl
  unfold delayFor
  by_cases hfactors : b.factors.1.le b.factors.2 = true
  · simp [hfactors, hempty.not_left.mpr hfactors]
  · simp [hfactors, hempty.mpr hfactors]

theorem jitter_ne_nan {config : Config} (hvalid : config.validate = .ok ()) :
    (ofConfig config).jitter ≠ .nan := by
  obtain ⟨_, _, _, _, _, hjitter, _⟩ := Config.validate_eq_ok_iff.mp hvalid
  rintro hnan
  have hnan : config.jitter = .nan := hnan
  rw [hnan] at hjitter
  cases hjitter

end Backoff

/-- The pause before jitter doubles up to the longest one. -/
structure Backoff.Doubles (b : Backoff) : Prop where
  exact : ∀ attempt, (b.baseDelay attempt).nanos =
    min (b.initial.nanos * 2 ^ min (attempt - 1) 31) b.longest.nanos
  /-- Seconds and nanoseconds come to the same, though the seconds may overflow; the nanoseconds
  never need more than 64 bits. -/
  parts : ∀ attempt, b.baseDelay attempt =
    min ((b.initial.product? (2 ^ min (attempt - 1) 31)).getD .longest) b.longest
  subseconds : ∀ attempt, b.initial.subsecond * 2 ^ min (attempt - 1) 31 < 2 ^ 64
  le_longest : ∀ attempt, b.baseDelay attempt ≤ b.longest
  mono : ∀ earlier later, earlier ≤ later → b.baseDelay earlier ≤ b.baseDelay later
  /-- Where it is not doubled for each attempt, 31 doublings do not lead up to the longest pause. -/
  doubling : ∀ attempt, (b.baseDelay attempt).nanos =
      min (b.initial.nanos * 2 ^ (attempt - 1)) b.longest.nanos ↔
    attempt ≤ 32 ∨ b.initial.isZero = true ∨ b.longest.nanos ≤ b.initial.nanos * 2 ^ 31

/-- There is a pause after every attempt, whatever is drawn, and it is not longer than the longest
one. -/
structure Backoff.Pauses (b : Backoff) (longest : Duration) : Prop where
  /-- The factors are finite and in order, so that there is one to draw. -/
  range : ∃ low high, b.factors = (.finite false low, .finite false high) ∧ low ≤ high
  pause : ∀ draw attempt, ∃ pause, b.delayFor draw attempt = .ok pause ∧ pause ≤ longest
  steady : b.jitter.isZero = true →
    ∀ draw attempt, b.delayFor draw attempt = .ok (b.baseDelay attempt)

/-- Pauses double up to the longest one, and with accepted settings none is longer or missing. -/
theorem pauses_double (b : Backoff) : b.Doubles ∧
    ∀ config : Config, config.validate = .ok () →
      (Backoff.ofConfig config).Pauses config.backoffMax := by
  constructor
  · constructor
    case exact => exact b.nanos_baseDelay
    case parts =>
      intro attempt
      rw [← Duration.scale_eq_product]
      rfl
    case subseconds =>
      intro attempt
      have hsubsecond : b.initial.subsecond < Duration.second := Nat.mod_lt _ (by decide)
      have hfactor : 2 ^ min (attempt - 1) 31 ≤ 2 ^ 31 :=
        Nat.pow_le_pow_right Nat.two_pos (Nat.min_le_right _ _)
      calc b.initial.subsecond * 2 ^ min (attempt - 1) 31
          ≤ Duration.second * 2 ^ 31 := Nat.mul_le_mul (Nat.le_of_lt hsubsecond) hfactor
        _ < 2 ^ 64 := by decide
    case le_longest => exact b.baseDelay_le
    case mono => exact fun _ _ h => b.baseDelay_mono h
    case doubling => exact b.nanos_baseDelay_eq_iff
  · intro config hvalid
    have hjitter := Backoff.jitter_ne_nan hvalid
    obtain ⟨low, high, hfactors, hlow, hhigh, -⟩ := Backoff.factors_eq hjitter
    refine ⟨⟨low, high, hfactors, Nat.le_trans hlow hhigh⟩, ?_, Backoff.delayFor_of_isZero⟩
    intro draw attempt
    rw [Backoff.delayFor_eq, Backoff.factors_ordered hjitter]
    by_cases hrandom : (Backoff.ofConfig config).isRandom attempt = true
    · refine ⟨_, by rw [if_pos hrandom, if_pos rfl], ?_⟩
      show (min _ _ : Duration).nanos ≤ config.backoffMax.nanos
      rw [Duration.nanos_min]
      exact Nat.min_le_right _ _
    · exact ⟨_, if_neg hrandom, Backoff.baseDelay_le _ attempt⟩

/-- The longest duration is a pause like any other, with all of the jitter. -/
theorem pauses_double_to_longest_duration :
    let config : Config :=
      { backoffBase := .longest, backoffMax := .longest, jitter := .one }
    config.validate = .ok () ∧ (Backoff.ofConfig config).Doubles ∧
      (Backoff.ofConfig config).Pauses .longest := by
  intro config
  have hvalid : config.validate = .ok () := by decide +kernel
  obtain ⟨hdoubles, hpauses⟩ := pauses_double (Backoff.ofConfig config)
  exact ⟨hvalid, hdoubles, hpauses config hvalid⟩

end Courier
