import Courier.Double.Basic
/-!
The shortest decimal that reads back as a given number, and its two written forms.

A decimal is a natural number of units of a power of ten.  For one digit, two digits and so on, the
two neighbours of the exact value on the grid of that many digits are tested; the first grid with a
decimal that rounds to the number wins, and of two hits the nearer one.
-/
namespace Courier

/-- The decimal `digits · 10^exponent`. -/
structure Decimal where
  digits : Nat
  exponent : Int
  deriving DecidableEq, Repr, Inhabited

namespace Decimal

/-- The numerator of the value over `denominator`. -/
def numerator (d : Decimal) : Nat := d.digits * Nat.pow 10 d.exponent.toNat

def denominator (d : Decimal) : Nat := Nat.pow 10 (-d.exponent).toNat

/-- The number of steps nearest to the decimal. -/
def steps (d : Decimal) : Nat := Double.roundSteps (d.numerator * Double.unit) d.denominator

/-- Drop trailing zeros from the digits, at most `fuel` of them. -/
def stripZeros : Nat → Decimal → Decimal
  | 0, d => d
  | fuel + 1, d =>
    if d.digits ≠ 0 ∧ d.digits % 10 = 0 then stripZeros fuel ⟨d.digits / 10, d.exponent + 1⟩ else d

/-- The same value without trailing zeros. -/
def normal (d : Decimal) : Decimal := stripZeros 20 d

def digitText (d : Decimal) : List Char := Nat.toDigits 10 d.digits

/-- The place of the point, counted from the front of the digits. -/
def point (d : Decimal) : Int := d.digitText.length + d.exponent

/-- The decimal without an exponent; `wholeMark` ends a whole number. -/
def positional (d : Decimal) (wholeMark : List Char) : List Char :=
  let digits := d.digitText
  if 0 ≤ d.exponent then
    digits ++ List.replicate d.exponent.toNat '0' ++ wholeMark
  else if 0 < d.point then
    digits.take d.point.toNat ++ '.' :: digits.drop d.point.toNat
  else
    '0' :: '.' :: (List.replicate (-d.point).toNat '0' ++ digits)

/-- The decimal with one digit before the point and a signed exponent. -/
def scientific (d : Decimal) : List Char :=
  let power := d.point - 1
  let sign := if power < 0 then '-' else '+'
  let tail := sign :: Nat.toDigits 10 power.natAbs
  match d.digitText with
  | [] => []
  | [c] => c :: 'e' :: tail
  | c :: rest => c :: '.' :: (rest ++ 'e' :: tail)

end Decimal

namespace Double

/-- The decimal exponent `p` with `10^(p-1) ≤ value < 10^p`, for a positive number of steps. -/
def magnitude (steps : Nat) : Int :=
  ((Nat.toDigits 10 (steps * Nat.pow 10 330 / unit)).length : Int) - 330

/-- The decimal of `count` digits that reads back as the number of steps, if there is one. -/
def withDigits? (steps : Nat) (count : Nat) : Option Decimal :=
  let exponent := magnitude steps - count
  let num := steps * Nat.pow 10 (-exponent).toNat
  let den := unit * Nat.pow 10 exponent.toNat
  let low : Decimal := ⟨num / den, exponent⟩
  let high : Decimal := ⟨num / den + 1, exponent⟩
  let nearer : Decimal := ⟨divNearestEven num den, exponent⟩
  if nearer.steps = steps then some nearer
  else if low.steps = steps then some low
  else if high.steps = steps then some high
  else none

def exactDecimal (steps : Nat) : Decimal := ⟨steps * Nat.pow 5 1074, -1074⟩

/-- The shortest decimal that reads back as a positive number of steps. -/
def shortest (steps : Nat) : Decimal :=
  ((List.range 17).findSome? fun k => withDigits? steps (k + 1)).getD (exactDecimal steps) |>.normal

/-- How numbers are written: which places of the point are positional, how a whole number ends, and
the words for what is not finite. -/
structure Layout where
  positional : Int → Bool
  wholeMark : List Char
  nan : List Char
  infinity : List Char

def write (layout : Layout) : Double → List Char
  | .nan => layout.nan
  | .infinity s => if s then '-' :: layout.infinity else layout.infinity
  | .finite s steps =>
    let body :=
      if steps = 0 then '0' :: layout.wholeMark
      else
        let d := shortest steps
        if layout.positional d.point then d.positional layout.wholeMark else d.scientific
    if s then '-' :: body else body

/-- Plain numbers have no exponent and no point unless there is a fraction. -/
def plainLayout : Layout where
  positional _ := true
  wholeMark := []
  nan := "NaN".toList
  infinity := "inf".toList

def plain (x : Double) : String := String.ofList (x.write plainLayout)

/-- The number with a fixed count of decimal places, a tie going to the even digit. -/
def fixed (places : Nat) : Double → String
  | .nan => "NaN"
  | .infinity s => if s then "-inf" else "inf"
  | .finite s steps =>
    let scaled := divNearestEven (steps * Nat.pow 10 places) unit
    let digits := Nat.toDigits 10 scaled
    let padded := List.replicate (places + 1 - digits.length) '0' ++ digits
    let whole := padded.take (padded.length - places)
    let body := whole ++ '.' :: padded.drop (padded.length - places)
    String.ofList (if s then '-' :: body else body)

end Double

end Courier
