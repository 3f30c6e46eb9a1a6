/-!
Natural numbers written in decimal digits, as settings give them.

A numeral may start with a plus sign.  Its digits are read from the left and the first thing that
goes wrong is reported: a value past the bound at some digit comes before a bad character behind it.
-/
namespace Courier.Text

/-- Why a text is no numeral below a bound. -/
inductive NumeralError where
  | empty
  | invalidDigit
  | tooLarge
  deriving DecidableEq, Repr, Inhabited

def NumeralError.message : NumeralError → String
  | .empty => "cannot parse integer from empty string"
  | .invalidDigit => "invalid digit found in string"
  | .tooLarge => "number too large to fit in target type"

/-- Read the digits behind a value that is already below the bound. -/
def readDigits (bound : Nat) : Nat → List Char → Except NumeralError Nat
  | value, [] => .ok value
  | value, c :: rest =>
    if c.isDigit then
      let next := value * 10 + (c.toNat - '0'.toNat)
      if bound < next then .error .tooLarge else readDigits bound next rest
    else .error .invalidDigit

/-- The natural number up to `bound` that a text stands for. -/
def readNat (bound : Nat) (s : String) : Except NumeralError Nat :=
  match s.toList with
  | [] => .error .empty
  | ['+'] => .error .invalidDigit
  | '+' :: digits => readDigits bound 0 digits
  | digits => readDigits bound 0 digits

end Courier.Text
