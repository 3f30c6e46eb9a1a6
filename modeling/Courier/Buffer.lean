import Courier.Double.Shortest
/-!
A bounded queue of what waits to be shipped.

When it is full, the oldest element is evicted to admit the new one.  Once closed it refuses new
elements and can still be drained.
-/
namespace Courier

/-- The elements that wait, oldest first, and the totals of those that came and went. -/
structure Buffer (α : Type) where
  capacity : Nat
  contents : List α := []
  closed : Bool := false
  enqueued : Nat := 0
  dropped : Nat := 0
  drained : Nat := 0
  deriving Repr, Inhabited

/-- What became of an element that was to be enqueued. -/
inductive Admission where
  | stored
  /-- Stored after the oldest one was evicted. -/
  | evictedOldest
  /-- Refused, the buffer is closed. -/
  | refused
  deriving DecidableEq, Repr, Inhabited

namespace Buffer

variable {α : Type}

/-- An empty buffer; a capacity of zero counts as one. -/
def empty (capacity : Nat) : Buffer α := { capacity := max capacity 1 }

def size (b : Buffer α) : Nat := b.contents.length

/-- Append an element, evicting the oldest one if there is no room. -/
def enqueue (b : Buffer α) (a : α) : Admission × Buffer α :=
  if b.closed then (.refused, b)
  else if b.capacity ≤ b.size then
    (.evictedOldest,
      { b with
        contents := b.contents.drop 1 ++ [a]
        enqueued := b.enqueued + 1
        dropped := b.dropped + 1 })
  else
    (.stored, { b with contents := b.contents ++ [a], enqueued := b.enqueued + 1 })

/-- Refuse all further elements. -/
def close (b : Buffer α) : Buffer α := { b with closed := true }

/-- Remove the oldest elements, up to a number. -/
def drain (b : Buffer α) (n : Nat) : List α × Buffer α :=
  let taken := b.contents.take n
  (taken, { b with contents := b.contents.drop n, drained := b.drained + taken.length })

/-- Remove everything, in batches of `size` elements; only the last one may be smaller. -/
def batches (size : Nat) (b : Buffer α) : List (List α) × Buffer α :=
  if _h : b.contents = [] ∨ size = 0 then ([], b)
  else
    let first := b.drain size
    let rest := first.2.batches size
    (first.1 :: rest.1, rest.2)
termination_by b.contents.length
decreasing_by
  have : 0 < b.contents.length := List.length_pos_iff.2 fun h => _h (Or.inl h)
  have : size ≠ 0 := fun h => _h (Or.inr h)
  simp only [drain, List.length_drop]
  omega

/-- How full the buffer is, between zero and one. -/
def fill (b : Buffer α) : Double := Double.ofNat b.size / Double.ofNat b.capacity

/-- What is drained and what stays make up the contents. -/
theorem drain_append (b : Buffer α) (n : Nat) :
    (b.drain n).1 ++ (b.drain n).2.contents = b.contents :=
  List.take_append_drop n b.contents

theorem enqueue_of_closed {b : Buffer α} (h : b.closed = true) (a : α) :
    b.enqueue a = (.refused, b) := by
  simp [enqueue, h]

end Buffer

end Courier
