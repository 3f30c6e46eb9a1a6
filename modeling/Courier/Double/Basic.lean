/-!
Binary floating-point numbers of 64 bits, kept exact.

Every finite number of the format is a whole number of steps of `2^-1074`, so a finite `Double` is
a sign and a natural number of steps.  Arithmetic works on these naturals and rounds once, to the
nearest representable number of steps, a tie going to the even neighbour.
-/
namespace Courier

/-- A binary floating-point number: `finite negative steps` stands for `±steps · 2^-1074`. -/
inductive Double where
  | nan
  | infinity (negative : Bool)
  | finite (negative : Bool) (steps : Nat)
  deriving DecidableEq, Repr, Inhabited

namespace Double

/-- How many steps there are between zero and one. -/
def unit : Nat := Nat.pow 2 1074

/-- The first number of steps that is no finite number any more. -/
def limit : Nat := Nat.pow 2 2098

/-- The quotient of two naturals rounded to the nearest natural, a tie to the even one. -/
def divNearestEven (num den : Nat) : Nat :=
  let quotient := num / den
  let twice := 2 * (num % den)
  if den < twice ∨ (twice = den ∧ quotient % 2 = 1) then quotient + 1 else quotient

/-- How far a natural has to be shifted to fit into the 53 bits of a significand. -/
def excess (n : Nat) : Nat := n.log2 + 1 - 53

/-- The number of steps nearest to `num / den` among those with at most 53 significant bits. -/
def roundSteps (num den : Nat) : Nat :=
  let shift := excess (num / den)
  divNearestEven num (den * Nat.pow 2 shift) * Nat.pow 2 shift

/-- The number nearest to `num / den` steps; past the range it is infinite. -/
def ofSteps (negative : Bool) (num den : Nat) : Double :=
  let steps := roundSteps num den
  if steps < limit then .finite negative steps else .infinity negative

/-- The number nearest to `±num / den`. -/
def ofRatio (negative : Bool) (num den : Nat) : Double :=
  ofSteps negative (num * unit) den

def ofNat (n : Nat) : Double := ofRatio false n 1

def zero : Double := .finite false 0

def one : Double := .finite false unit

/-- The finite number with the sign and the steps of an integer number of steps. -/
private def ofSignedSteps (steps : Int) : Double :=
  ofSteps (decide (steps < 0)) steps.natAbs 1

/-- The signed number of steps. -/
def signed (negative : Bool) (steps : Nat) : Int :=
  if negative then -(steps : Int) else steps

/-- Addition.  A sum of zeros keeps their sign only if both have it; otherwise zero is positive. -/
def add : Double → Double → Double
  | .nan, _ | _, .nan => .nan
  | .infinity s, .infinity t => if s = t then .infinity s else .nan
  | .infinity s, .finite _ _ => .infinity s
  | .finite _ _, .infinity t => .infinity t
  | .finite s m, .finite t n =>
    if s = t then ofSteps s (m + n) 1 else ofSignedSteps (signed s m + signed t n)

def mul : Double → Double → Double
  | .nan, _ | _, .nan => .nan
  | .infinity s, .infinity t => .infinity (s != t)
  | .infinity s, .finite t n => if n = 0 then .nan else .infinity (s != t)
  | .finite s m, .infinity t => if m = 0 then .nan else .infinity (s != t)
  | .finite s m, .finite t n => ofSteps (s != t) (m * n) unit

def div : Double → Double → Double
  | .nan, _ | _, .nan => .nan
  | .infinity _, .infinity _ => .nan
  | .infinity s, .finite t _ => .infinity (s != t)
  | .finite s _, .infinity t => .finite (s != t) 0
  | .finite s m, .finite t n =>
    if n = 0 then (if m = 0 then .nan else .infinity (s != t)) else ofSteps (s != t) (m * unit) n

/-- The same magnitude with the other sign. -/
def neg : Double → Double
  | .nan => .nan
  | .infinity s => .infinity !s
  | .finite s m => .finite (!s) m

instance : Add Double := ⟨add⟩
instance : Mul Double := ⟨mul⟩
instance : Div Double := ⟨div⟩
instance : Neg Double := ⟨neg⟩

/-- The order of the numbers; nothing is ordered with a `nan`, and both zeros are equal. -/
def le : Double → Double → Bool
  | .nan, _ | _, .nan => false
  | .infinity true, _ => true
  | _, .infinity false => true
  | .infinity false, _ => false
  | _, .infinity true => false
  | .finite s m, .finite t n => decide (signed s m ≤ signed t n)

def lt (x y : Double) : Bool := le x y && !le y x

def isZero : Double → Bool
  | .finite _ m => m == 0
  | _ => false

/-- The nearest number between `low` and `high`; a `nan` stays one. -/
def clamp (x low high : Double) : Double :=
  if x.lt low then low else if high.lt x then high else x

/-- The number nearest to `10^e`. -/
def powerOfTen (e : Nat) : Double := ofNat (Nat.pow 10 e)

/-- Scale a significand by a power of ten.

The significand becomes a number first and is then multiplied or divided once by the number nearest
to the power of ten; below `10^-308` it is divided by `10^308` first.  A result past the range is
`none`. -/
def scaled? (significand : Nat) (exponent : Int) : Option Double :=
  let x := ofNat significand
  if exponent < -308 then
    let y := x / powerOfTen 308
    let rest := -(exponent + 308)
    if 308 < rest then some zero else some (y / powerOfTen rest.toNat)
  else if exponent < 0 then
    some (x / powerOfTen (-exponent).toNat)
  else if 308 < exponent then
    if significand = 0 then some zero else none
  else
    match x * powerOfTen exponent.toNat with
    | .infinity _ => none
    | y => some y

/-- The steps of a sum of equal signs are the rounded sum of the steps. -/
theorem add_finite_same (s : Bool) (m n : Nat) :
    Double.finite s m + Double.finite s n = ofSteps s (m + n) 1 := by
  show add (.finite s m) (.finite s n) = _
  simp [add]

/-- Taking away no more than there is, the steps of the difference are the rounded difference. -/
theorem add_finite_of_le {m n : Nat} (h : n ≤ m) :
    Double.finite false m + Double.finite true n = ofSteps false (m - n) 1 := by
  show add (.finite false m) (.finite true n) = _
  have hsum : (m : Int) + -(n : Int) = ((m - n : Nat) : Int) := by omega
  have hsign : ¬((m - n : Nat) : Int) < 0 := by omega
  simp only [add, Bool.false_eq_true, if_false, if_true, signed, hsum, ofSignedSteps,
    Int.natAbs_natCast, decide_eq_false hsign]

end Double

end Courier
