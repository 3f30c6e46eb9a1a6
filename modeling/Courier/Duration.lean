import Courier.Double.Basic
/-!
Lengths of time.

A duration is a natural number of nanoseconds below `2^64` seconds.  Operations that would leave the
range stop at its end.
-/
namespace Courier

/-- A length of time of less than `2^64` seconds, in nanoseconds. -/
structure Duration where
  nanos : Nat
  bounded : nanos < 0x10000000000000000 * 1000000000 := by decide
  deriving DecidableEq, Repr

namespace Duration

def milli : Nat := 1000000

def second : Nat := 1000000000

def maxNanos : Nat := 0x10000000000000000 * 1000000000 - 1

/-- The duration of so many nanoseconds, or the longest one. -/
def ofNanos (n : Nat) : Duration :=
  ⟨min n maxNanos, Nat.lt_of_le_of_lt (Nat.min_le_right _ _) (by decide)⟩

def zero : Duration := ⟨0, by decide⟩

instance : Inhabited Duration := ⟨zero⟩

def ofMillis (n : Nat) : Duration := ofNanos (n * milli)

def ofSeconds (n : Nat) : Duration := ofNanos (n * second)

/-- Whole seconds. -/
def seconds (d : Duration) : Nat := d.nanos / second

/-- Nanoseconds past the last whole second. -/
def subsecond (d : Duration) : Nat := d.nanos % second

def millis (d : Duration) : Nat := d.nanos / milli

/-- Milliseconds, a started one counting in full. -/
def ceilMillis (d : Duration) : Nat := (d.nanos + (milli - 1)) / milli

/-- The low 64 bits of the whole milliseconds, the form in which a log shows a duration. -/
def loggedMillis (d : Duration) : Nat := d.millis % 0x10000000000000000

/-- The clock counts seconds in 63 bits, and a duration beyond that cannot be added to it. -/
def fitsClock (d : Duration) : Bool := decide (d.seconds < 0x7FFFFFFFFFFFFFFF)

/-- Multiplication that stops at the longest duration. -/
def scale (d : Duration) (factor : Nat) : Duration := ofNanos (d.nanos * factor)

instance : Min Duration := ⟨fun a b => if a.nanos ≤ b.nanos then a else b⟩

instance : LE Duration := ⟨fun a b => a.nanos ≤ b.nanos⟩

instance (a b : Duration) : Decidable (a ≤ b) := inferInstanceAs (Decidable (a.nanos ≤ b.nanos))

def isZero (d : Duration) : Bool := d.nanos == 0

/-- The duration in seconds: the seconds plus the nanoseconds divided by a billion, each rounded. -/
def asSeconds (d : Duration) : Double :=
  Double.ofNat d.seconds + Double.ofNat d.subsecond / Double.ofNat second

theorem ext_nanos {a b : Duration} (h : a.nanos = b.nanos) : a = b := by
  cases a; cases b; cases h; rfl

theorem nanos_ofNanos (n : Nat) : (ofNanos n).nanos = min n maxNanos := rfl

theorem nanos_min (a b : Duration) : (min a b).nanos = min a.nanos b.nanos := by
  show (if a.nanos ≤ b.nanos then a else b).nanos = _
  rw [Nat.min_def]
  split <;> rfl

end Duration

end Courier
