import Courier.Double.Basic
/-!
What the library counts.

Counters and gauges are floating-point numbers that start at zero.  A family holds one counter for
each label that was ever used, sorted by label, and a histogram counts observations by upper bounds.
-/
namespace Courier.Metrics

/-- One change to the numbers. -/
inductive Update where
  | enqueued
  | dropped (reason : String) (count : Nat)
  | delivered (transport : String) (count : Nat)
  | batch (outcome : String)
  | attempt
  | bufferSize (size : Nat)
  | bufferCapacity (capacity : Nat)
  | flush (trigger : String) (seconds : Double)
  | reporterPanic
  deriving DecidableEq, Repr, Inhabited

/-- Values by label. -/
abbrev Family (α : Type) := List (String × α)

/-- Change the value of a label; a new label gets its place in the order, starting from `initial`. -/
def Family.update {α : Type} (initial : α) (label : String) (change : α → α) :
    Family α → Family α
  | [] => [(label, change initial)]
  | (other, value) :: rest =>
    if label < other then (label, change initial) :: (other, value) :: rest
    else if label = other then (other, change value) :: rest
    else (other, value) :: Family.update initial label change rest

/-- The value of a label that was used. -/
def Family.get? {α : Type} (label : String) (family : Family α) : Option α := family.lookup label

/-- The upper bounds of flush durations, in seconds. -/
def flushBounds : List Double := [
  Double.ofRatio false 1 1000, Double.ofRatio false 1 100, Double.ofRatio false 5 100,
  Double.ofRatio false 1 10, Double.ofRatio false 5 10, Double.ofNat 1, Double.ofNat 5,
  Double.ofNat 30, Double.ofNat 120]

/-- Observations counted by the least bound they do not pass, their number and their sum. -/
structure Histogram where
  buckets : List Nat := flushBounds.map fun _ => 0
  count : Nat := 0
  sum : Double := Double.zero
  deriving DecidableEq, Repr, Inhabited

/-- Count an observation in the first bucket whose bound it does not pass. -/
def fillBucket (x : Double) : (bounds : List Double) → (buckets : List Nat) → List Nat
  | bound :: bounds, bucket :: buckets =>
    if x.le bound then (bucket + 1) :: buckets else bucket :: fillBucket x bounds buckets
  | _, buckets => buckets

def Histogram.observe (h : Histogram) (x : Double) : Histogram where
  buckets := fillBucket x flushBounds h.buckets
  count := h.count + 1
  sum := h.sum + x

/-- All numbers of a run. -/
structure Ledger where
  enqueued : Double := Double.zero
  dropped : Family Double := []
  delivered : Family Double := []
  batches : Family Double := []
  attempts : Double := Double.zero
  bufferSize : Double := Double.zero
  bufferCapacity : Double := Double.zero
  flushes : Family Histogram := []
  reporterPanics : Double := Double.zero
  deriving DecidableEq, Repr, Inhabited

namespace Ledger

/-- The counter of a label, raised by an amount. -/
def raise (family : Family Double) (label : String) (amount : Nat) : Family Double :=
  family.update Double.zero label (· + Double.ofNat amount)

def apply (ledger : Ledger) : Update → Ledger
  | .enqueued => { ledger with enqueued := ledger.enqueued + Double.one }
  | .dropped reason count => { ledger with dropped := raise ledger.dropped reason count }
  | .delivered transport count => { ledger with delivered := raise ledger.delivered transport count }
  | .batch outcome => { ledger with batches := raise ledger.batches outcome 1 }
  | .attempt => { ledger with attempts := ledger.attempts + Double.one }
  | .bufferSize size => { ledger with bufferSize := Double.ofNat size }
  | .bufferCapacity capacity => { ledger with bufferCapacity := Double.ofNat capacity }
  | .flush trigger seconds =>
    { ledger with flushes := ledger.flushes.update {} trigger (·.observe seconds) }
  | .reporterPanic => { ledger with reporterPanics := ledger.reporterPanics + Double.one }

end Ledger

end Courier.Metrics
