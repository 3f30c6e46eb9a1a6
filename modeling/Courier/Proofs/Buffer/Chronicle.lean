import Mathlib.Data.List.Basic
import Courier.Proofs.Buffer.Batches
/-!
A buffer is a log with one removal cursor.

A chronicle keeps the elements that the buffer took and, from the oldest one on, what became of those
that left it.  Evictions and drains move the same cursor, so the number of fates is the place in the
log from which on the elements are still buffered.
-/
namespace Courier.Buffer

variable {α : Type}

theorem enqueue_evicts_iff (b : Buffer α) (a : α) :
    (b.enqueue a).1 = .evictedOldest ↔ b.closed = false ∧ b.capacity ≤ b.size := by
  rcases b.enqueue_cases a with ⟨hclosed, heq⟩ | ⟨hopen, hfull, heq⟩ | ⟨hopen, hroom, heq⟩
  · simp [heq, hclosed]
  · simp [heq, hopen, hfull]
  · simp [heq, hroom]

theorem enqueue_refused_iff (b : Buffer α) (a : α) :
    (b.enqueue a).1 = .refused ↔ b.closed = true := by
  rcases b.enqueue_cases a with ⟨hclosed, heq⟩ | ⟨hopen, _, heq⟩ | ⟨hopen, _, heq⟩
  · simp [heq, hclosed]
  · simp [heq, hopen]
  · simp [heq, hopen]

/-- An eviction costs the oldest element and no other. -/
theorem contents_of_evicts {b : Buffer α} {a : α} (h : (b.enqueue a).1 = .evictedOldest) :
    (b.enqueue a).2.contents = b.contents.tail ++ [a] := by
  rcases b.enqueue_cases a with ⟨_, heq⟩ | ⟨_, _, heq⟩ | ⟨_, _, heq⟩ <;> simp_all

/-- What can be done to a buffer.  To look at it changes nothing. -/
inductive Op (α : Type) where
  | enqueue (a : α)
  | drain (count : Nat)
  | close

/-- How an element left the buffer. -/
inductive Fate where
  | evicted
  | drained
  deriving DecidableEq, Repr

/-- The entries of a log without those that were evicted. -/
def spared : List α → List Fate → List α
  | _ :: entries, .evicted :: fates => spared entries fates
  | a :: entries, .drained :: fates => a :: spared entries fates
  | entries, _ => entries

theorem spared_append {left right : List α} {fates more : List Fate}
    (h : left.length = fates.length) :
    spared (left ++ right) (fates ++ more) = spared left fates ++ spared right more := by
  induction fates generalizing left with
  | nil =>
      rw [List.length_nil, List.length_eq_zero_iff] at h
      simp [h, spared]
  | cons fate fates ih =>
      cases left with
      | nil => simp at h
      | cons a left =>
          have hlength : left.length = fates.length := by simpa using h
          cases fate with
          | evicted => exact ih hlength
          | drained => exact congrArg (a :: ·) (ih hlength)

theorem spared_nil (entries : List α) : spared entries [] = entries := by
  cases entries <;> rfl

theorem spared_drained (entries : List α) :
    spared entries (List.replicate entries.length .drained) = entries := by
  induction entries with
  | nil => rfl
  | cons a entries ih => exact congrArg (a :: ·) ih

/-- A buffer with its past, as its callers saw it. -/
structure Chronicle (α : Type) where
  buffer : Buffer α
  /-- The elements that were not refused, the first one first. -/
  entries : List α := []
  /-- How elements left the buffer, the first one first. -/
  fates : List Fate := []
  /-- What the drains returned, the first one first. -/
  drains : List (List α) := []

namespace Chronicle

def first (capacity : Nat) : Chronicle α := { buffer := Buffer.empty capacity }

def next (c : Chronicle α) : Op α → Chronicle α
  | .enqueue a =>
    let (admission, buffer) := c.buffer.enqueue a
    match admission with
    | .refused => { c with buffer }
    | .stored => { c with buffer, entries := c.entries ++ [a] }
    | .evictedOldest =>
      { c with buffer, entries := c.entries ++ [a], fates := c.fates ++ [.evicted] }
  | .drain count =>
    let (taken, buffer) := c.buffer.drain count
    { c with
      buffer
      fates := c.fates ++ List.replicate taken.length .drained
      drains := c.drains ++ [taken] }
  | .close => { c with buffer := c.buffer.close }

def run (c : Chronicle α) (ops : List (Op α)) : Chronicle α := ops.foldl next c

/-- What the buffer says of itself agrees with its past. -/
structure Exact (c : Chronicle α) : Prop where
  roomy : 0 < c.buffer.capacity
  within : c.fates.length ≤ c.entries.length
  contents : c.buffer.contents = c.entries.drop c.fates.length
  size_le : c.buffer.size ≤ c.buffer.capacity
  enqueued : c.buffer.enqueued = c.entries.length
  dropped : c.buffer.dropped = c.fates.count .evicted
  drained : c.buffer.drained = c.fates.count .drained
  drains : c.drains.flatten = spared (c.entries.take c.fates.length) c.fates
  /-- An entry was evicted for another one that came as many places after it as the buffer has. -/
  evicted : ∀ i : Nat, c.fates[i]? = some .evicted → i + c.buffer.capacity < c.entries.length

namespace Exact

variable {c : Chronicle α}

theorem size_eq (hc : c.Exact) : c.buffer.size = c.entries.length - c.fates.length := by
  rw [Buffer.size, hc.contents, List.length_drop]

/-- The cursor stands where the evictions and drains together have moved it. -/
theorem cursor (hc : c.Exact) : c.fates.length = c.buffer.dropped + c.buffer.drained := by
  rw [hc.dropped, hc.drained]
  generalize c.fates = fates
  induction fates with
  | nil => rfl
  | cons fate fates ih => cases fate <;> simp <;> omega

/-- The drains and then the buffer have what was not evicted. -/
theorem spared_eq (hc : c.Exact) :
    c.drains.flatten ++ c.buffer.contents = spared c.entries c.fates := by
  have hlength : (c.entries.take c.fates.length).length = c.fates.length := by
    rw [List.length_take, Nat.min_eq_left hc.within]
  calc c.drains.flatten ++ c.buffer.contents
      = spared (c.entries.take c.fates.length) c.fates
          ++ spared (c.entries.drop c.fates.length) [] := by
        rw [hc.drains, hc.contents, spared_nil]
    _ = spared c.entries c.fates := by
        rw [← spared_append hlength, List.take_append_drop, List.append_nil]

theorem first (capacity : Nat) : (Chronicle.first capacity : Chronicle α).Exact := by
  refine ⟨Nat.le_max_right capacity 1, Nat.le_refl 0, rfl, Nat.zero_le _, rfl, rfl, rfl, rfl, ?_⟩
  intro i hi
  cases hi

/-- An element that comes in is the last entry, and nothing else changes. -/
theorem store (hc : c.Exact) (a : α) (hroom : c.buffer.size < c.buffer.capacity) :
    { c with
      buffer := { c.buffer with
        contents := c.buffer.contents ++ [a]
        enqueued := c.buffer.enqueued + 1 }
      entries := c.entries ++ [a] }.Exact where
  roomy := hc.roomy
  within := by
    rw [List.length_append]
    exact Nat.le_add_right_of_le hc.within
  contents := by
    rw [List.drop_append_of_le_length hc.within, hc.contents]
  size_le := by
    simpa [Buffer.size] using Nat.succ_le_of_lt hroom
  enqueued := by simp [hc.enqueued]
  dropped := hc.dropped
  drained := hc.drained
  drains := by
    rw [List.take_append_of_le_length hc.within]
    exact hc.drains
  evicted := by
    intro i hi
    have hlt := hc.evicted i hi
    rw [List.length_append]
    exact Nat.lt_add_right 1 hlt

theorem spared_advance (hc : c.Exact) (n : Nat) (more : List Fate) :
    spared (c.entries.take (c.fates.length + n)) (c.fates ++ more) =
      c.drains.flatten ++ spared (c.buffer.contents.take n) more := by
  have hlength : (c.entries.take c.fates.length).length = c.fates.length := by
    rw [List.length_take, Nat.min_eq_left hc.within]
  rw [List.take_add, spared_append hlength, hc.drains, hc.contents]

/-- With no room left the oldest element makes place. -/
theorem evict (hc : c.Exact) (a : α) (hfull : c.buffer.capacity ≤ c.buffer.size) :
    { c with
      buffer := { c.buffer with
        contents := c.buffer.contents.drop 1 ++ [a]
        enqueued := c.buffer.enqueued + 1
        dropped := c.buffer.dropped + 1 }
      entries := c.entries ++ [a]
      fates := c.fates ++ [Fate.evicted] }.Exact := by
  have hsize := hc.size_eq
  have hroomy := hc.roomy
  have hsize_le := hc.size_le
  have hahead : c.fates.length + 1 ≤ c.entries.length := by omega
  constructor
  case roomy => exact hroomy
  case within => simpa using Nat.le_of_lt hahead
  case contents =>
    rw [hc.contents, List.drop_drop, List.length_append, List.length_singleton,
      List.drop_append_of_le_length hahead]
  case size_le =>
    simp only [Buffer.size, List.length_append, List.length_drop, List.length_singleton]
    simp only [Buffer.size] at hfull hsize_le
    omega
  case enqueued => simp [hc.enqueued]
  case dropped => simp [hc.dropped]
  case drained => simp [hc.drained]
  case drains =>
    have hone : (c.buffer.contents.take 1).length = 1 := by
      rw [List.length_take]
      exact Nat.min_eq_left (Nat.le_trans hroomy hfull)
    obtain ⟨oldest, holdest⟩ := List.length_eq_one_iff.mp hone
    rw [List.length_append, List.length_singleton, List.take_append_of_le_length hahead,
      hc.spared_advance, holdest]
    exact (List.append_nil _).symm
  case evicted =>
    intro i hi
    rw [List.length_append, List.length_singleton]
    rw [List.getElem?_append] at hi
    split at hi
    · exact Nat.lt_add_right 1 (hc.evicted i hi)
    · have hi' : i - c.fates.length < [Fate.evicted].length :=
        (List.getElem?_eq_some_iff.mp hi).1
      simp only [List.length_singleton] at hi'
      simp only
      omega

theorem drain (hc : c.Exact) (count : Nat) : (c.next (.drain count)).Exact := by
  have hsize := hc.size_eq
  have hwithin := hc.within
  have htaken : (c.buffer.contents.take count).length = min count c.buffer.size :=
    List.length_take
  have hahead : c.fates.length + min count c.buffer.size ≤ c.entries.length := by omega
  constructor
  case roomy => exact hc.roomy
  case within => simpa [next, Buffer.drain, htaken] using hahead
  case contents =>
    have hdrop : c.buffer.contents.drop count =
        c.buffer.contents.drop (min count c.buffer.size) := by
      simp [List.drop_eq_drop_iff, Buffer.size]
    simp only [next, Buffer.drain, List.length_append, List.length_replicate, htaken]
    rw [hdrop, hc.contents, List.drop_drop]
  case size_le =>
    simpa [next, Buffer.drain, Buffer.size] using Nat.le_add_right_of_le hc.size_le
  case enqueued => exact hc.enqueued
  case dropped => simp [next, Buffer.drain, hc.dropped, List.count_replicate]
  case drained => simp [next, Buffer.drain, hc.drained]
  case drains =>
    have htake : c.buffer.contents.take (min count c.buffer.size) =
        c.buffer.contents.take count := by
      simp [List.take_eq_take_iff, Buffer.size]
    have hspared := spared_drained (c.buffer.contents.take count)
    simp only [next, Buffer.drain, List.length_append, List.length_replicate, htaken] at hspared ⊢
    rw [hc.spared_advance, htake, hspared]
    simp
  case evicted =>
    intro i hi
    simp only [next, Buffer.drain] at hi ⊢
    rw [List.getElem?_append] at hi
    split at hi
    · exact hc.evicted i hi
    · rw [List.getElem?_replicate] at hi
      split at hi <;> cases hi

theorem next (hc : c.Exact) (op : Op α) : (c.next op).Exact := by
  cases op with
  | enqueue a =>
      rcases c.buffer.enqueue_cases a with ⟨_, heq⟩ | ⟨_, hfull, heq⟩ | ⟨_, hroom, heq⟩
      · simpa only [Chronicle.next, heq] using hc
      · simpa only [Chronicle.next, heq] using hc.evict a hfull
      · simpa only [Chronicle.next, heq] using hc.store a hroom
  | drain count => exact hc.drain count
  | close => exact ⟨hc.roomy, hc.within, hc.contents, hc.size_le, hc.enqueued, hc.dropped,
      hc.drained, hc.drains, hc.evicted⟩

theorem run (hc : c.Exact) (ops : List (Op α)) : (c.run ops).Exact := by
  induction ops generalizing c with
  | nil => exact hc
  | cons op ops ih => exact ih (hc.next op)

/-- Whoever has as many younger entries as the buffer has places is not buffered any more. -/
theorem lt_of_outgrown (hc : c.Exact) {i : Nat}
    (hi : i + c.buffer.capacity < c.entries.length) : i < c.fates.length := by
  have hsize := hc.size_eq
  have hsize_le := hc.size_le
  omega

end Exact

theorem run_append (c : Chronicle α) (ops more : List (Op α)) :
    c.run (ops ++ more) = (c.run ops).run more :=
  List.foldl_append

theorem capacity_next (c : Chronicle α) (op : Op α) :
    (c.next op).buffer.capacity = c.buffer.capacity := by
  cases op with
  | enqueue a =>
      rcases c.buffer.enqueue_cases a with ⟨_, heq⟩ | ⟨_, _, heq⟩ | ⟨_, _, heq⟩ <;>
        simp only [next, heq]
  | drain count => rfl
  | close => rfl

theorem capacity_run (c : Chronicle α) (ops : List (Op α)) :
    (c.run ops).buffer.capacity = c.buffer.capacity := by
  induction ops generalizing c with
  | nil => rfl
  | cons op ops ih => exact (ih (c.next op)).trans (c.capacity_next op)

/-- A fate is final. -/
theorem fates_next (c : Chronicle α) (op : Op α) : c.fates <+: (c.next op).fates := by
  cases op with
  | enqueue a =>
      rcases c.buffer.enqueue_cases a with ⟨_, heq⟩ | ⟨_, _, heq⟩ | ⟨_, _, heq⟩ <;>
        simp [next, heq]
  | drain count => exact List.prefix_append _ _
  | close => exact List.prefix_rfl

theorem fates_run (c : Chronicle α) (ops : List (Op α)) : c.fates <+: (c.run ops).fates := by
  induction ops generalizing c with
  | nil => exact List.prefix_rfl
  | cons op ops ih => exact (c.fates_next op).trans (ih (c.next op))

theorem closed_next (c : Chronicle α) (op : Op α) :
    (c.next op).buffer.closed = true ↔ c.buffer.closed = true ∨ op = .close := by
  cases op with
  | enqueue a =>
      have hclosed := c.buffer.closed_enqueue a
      rcases c.buffer.enqueue_cases a with ⟨_, heq⟩ | ⟨_, _, heq⟩ | ⟨_, _, heq⟩ <;>
        simp [next, heq]
  | drain count => simp [next, Buffer.drain]
  | close => simp [next, Buffer.close]

theorem closed_run (c : Chronicle α) (ops : List (Op α)) :
    (c.run ops).buffer.closed = true ↔ c.buffer.closed = true ∨ .close ∈ ops := by
  induction ops generalizing c with
  | nil => simp [run]
  | cons op ops ih =>
      rw [show c.run (op :: ops) = (c.next op).run ops from rfl, ih, c.closed_next,
        List.mem_cons, or_assoc, eq_comm (a := Op.close)]

end Chronicle

/-- What a buffer is after some operations, told as a log from which elements leave at the front. -/
structure IsLog (capacity : Nat) (ops : List (Op α)) (c : Chronicle α) : Prop where
  /-- What is buffered are the entries from the cursor on. -/
  contents : c.buffer.contents = c.entries.drop (c.buffer.dropped + c.buffer.drained)
  counts : c.buffer.enqueued = c.entries.length ∧
    c.buffer.dropped = c.fates.count .evicted ∧ c.buffer.drained = c.fates.count .drained ∧
    c.buffer.enqueued = c.buffer.dropped + c.buffer.drained + c.buffer.size
  size_le : c.buffer.size ≤ max capacity 1
  /-- A drain returns the next entries, as many as are asked for and there are. -/
  drain : ∀ count, (c.buffer.drain count).1 =
    (c.entries.drop (c.buffer.dropped + c.buffer.drained)).take (min count c.buffer.size)
  /-- An element evicts another one exactly if the buffer is open and full, and then the oldest. -/
  evicts : ∀ a, (c.buffer.enqueue a).1 = .evictedOldest ↔
    c.buffer.closed = false ∧ c.buffer.size = max capacity 1
  oldest : ∀ a, (c.buffer.enqueue a).1 = .evictedOldest →
    (c.buffer.enqueue a).2.contents = c.buffer.contents.tail ++ [a]
  /-- All drains together, and then the buffer, are the entries without the evicted ones. -/
  spared : c.drains.flatten ++ c.buffer.contents = spared c.entries c.fates
  /-- An entry is evicted exactly if as many more as the buffer has places came in before it was
  drained. -/
  outgrown : ∀ i : Nat, c.fates[i]? = some .evicted ↔
    ∃ before, before <+: ops ∧
      i + max capacity 1 < ((Chronicle.first capacity).run before).entries.length ∧
      ((Chronicle.first capacity).run before).fates[i]? ≠ some .drained
  /-- Once it is closed, and only then, the buffer refuses every element and stays as it is. -/
  closed : c.buffer.closed = true ↔ .close ∈ ops
  refuses : ∀ a, (c.buffer.enqueue a).1 = .refused ↔ c.buffer.closed = true
  unmoved : ∀ a, c.buffer.closed = true → (c.buffer.enqueue a).2 = c.buffer

/-- Whatever is done to a buffer, it is a log with one removal cursor. -/
theorem buffer_is_log (capacity : Nat) (ops : List (Op α)) :
    IsLog capacity ops ((Chronicle.first capacity).run ops) := by
  have hcapacity : ∀ ops : List (Op α),
      ((Chronicle.first capacity).run ops).buffer.capacity = max capacity 1 :=
    fun ops => Chronicle.capacity_run _ ops
  have hexact : ∀ ops : List (Op α), ((Chronicle.first capacity).run ops).Exact :=
    fun ops => (Chronicle.Exact.first capacity).run ops
  have hc := hexact ops
  constructor
  case contents => rw [← hc.cursor, hc.contents]
  case counts =>
    refine ⟨hc.enqueued, hc.dropped, hc.drained, ?_⟩
    rw [← hc.cursor, hc.size_eq, hc.enqueued, Nat.add_sub_cancel' hc.within]
  case size_le => rw [← hcapacity ops]; exact hc.size_le
  case drain =>
    intro count
    rw [← hc.cursor, ← hc.contents]
    simp [Buffer.drain, Buffer.size, List.take_eq_take_iff]
  case evicts =>
    intro a
    rw [enqueue_evicts_iff, ← hcapacity ops, and_congr_right_iff]
    exact fun _ => ⟨Nat.le_antisymm hc.size_le, Nat.le_of_eq ∘ Eq.symm⟩
  case oldest => exact fun a h => contents_of_evicts h
  case spared => exact hc.spared_eq
  case outgrown =>
    intro i
    constructor
    · intro hevicted
      refine ⟨ops, List.prefix_rfl, ?_, by simp [hevicted]⟩
      rw [← hcapacity ops]
      exact hc.evicted i hevicted
    · rintro ⟨before, ⟨later, rfl⟩, houtgrown, hdrained⟩
      rw [← hcapacity before] at houtgrown
      have hlt := (hexact before).lt_of_outgrown houtgrown
      have hfate : ((Chronicle.first capacity).run before).fates[i]? = some .evicted := by
        rw [List.getElem?_eq_getElem hlt] at hdrained ⊢
        cases hcase : ((Chronicle.first capacity).run before).fates[i] with
        | evicted => rfl
        | drained => simp [hcase] at hdrained
      obtain ⟨more, hmore⟩ := ((Chronicle.first capacity).run before).fates_run later
      rw [Chronicle.run_append, ← hmore, List.getElem?_append_left hlt, hfate]
  case closed =>
    rw [Chronicle.closed_run, or_iff_right]
    exact Bool.false_ne_true
  case refuses => exact fun a => enqueue_refused_iff _ a
  case unmoved =>
    intro a hclosed
    rw [Buffer.enqueue_of_closed hclosed]

end Courier.Buffer
