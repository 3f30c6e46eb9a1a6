/-!
Identifiers that sort by their time: 48 bits of milliseconds and 80 random bits, in 26 characters of
five bits each.
-/
namespace Courier.Text

/-- The digits: ten numerals and the capital letters without I, L, O and U. -/
def ulidDigits : List Char := "0123456789ABCDEFGHJKMNPQRSTVWXYZ".toList

/-- The digit for the low five bits of a number. -/
def ulidDigit (n : Nat) : Char := ulidDigits.getD (n % 32) '0'

/-- The last `count` digits of a number, the first one in front. -/
def ulidFrom : (count n : Nat) → List Char
  | 0, _ => []
  | count + 1, n => ulidFrom count (n / 32) ++ [ulidDigit n]

def ulidRandoms : Nat := Nat.pow 2 80

/-- The identifier for a time and a random number. -/
def ulid (millis random : Nat) : String :=
  String.ofList (ulidFrom 26 (millis % Nat.pow 2 48 * ulidRandoms + random % ulidRandoms))

end Courier.Text
