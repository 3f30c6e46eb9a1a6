import Courier.Report
/-!
A bounded store of the most recent reports.

When it is full, the oldest report makes room for the new one.
-/
namespace Courier

/-- The reports that are held, oldest first, and what happened to all others. -/
structure FailureLog where
  capacity : Nat
  reports : List Report := []
  captured : Nat := 0
  dropped : Nat := 0
  deriving Repr, Inhabited

namespace FailureLog

/-- An empty log; a capacity of zero counts as one. -/
def empty (capacity : Nat) : FailureLog := { capacity := max capacity 1 }

/-- The log with one more report. -/
def push (log : FailureLog) (report : Report) : FailureLog :=
  if log.capacity ≤ log.reports.length then
    { log with
      reports := log.reports.drop 1 ++ [report]
      captured := log.captured + 1
      dropped := log.dropped + 1 }
  else
    { log with reports := log.reports ++ [report], captured := log.captured + 1 }

/-- The oldest reports, up to a number. -/
def peek (log : FailureLog) (n : Nat) : List Report := log.reports.take n

/-- Remove the oldest reports, up to a number. -/
def drain (log : FailureLog) (n : Nat) : List Report × FailureLog :=
  (log.peek n, { log with reports := log.reports.drop n })

def clear (log : FailureLog) : FailureLog := { log with reports := [] }

end FailureLog

end Courier
