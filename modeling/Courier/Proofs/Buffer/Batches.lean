import Courier.Buffer
/-!
Taking everything out of a buffer in batches.

Once the batch size is not zero, the batches hold the contents in their order and nothing stays
behind.  A buffer of anything else that is filled and emptied in the same way goes through the same
states, which is how the elements of a buffer can be told apart.
-/
namespace Courier.Buffer

variable {α β : Type}

/-- The same buffer with every element replaced. -/
def map (f : α → β) (b : Buffer α) : Buffer β where
  capacity := b.capacity
  contents := b.contents.map f
  closed := b.closed
  enqueued := b.enqueued
  dropped := b.dropped
  drained := b.drained

@[simp] theorem contents_map (f : α → β) (b : Buffer α) :
    (b.map f).contents = b.contents.map f := rfl

theorem map_drain (f : α → β) (b : Buffer α) (n : Nat) :
    (b.map f).drain n = ((b.drain n).1.map f, (b.drain n).2.map f) := by
  simp [drain, map]

theorem map_enqueue (f : α → β) (b : Buffer α) (a : α) :
    (b.map f).enqueue (f a) = ((b.enqueue a).1, (b.enqueue a).2.map f) := by
  by_cases hclosed : b.closed = true
  · simp [enqueue, map, hclosed]
  · by_cases hfull : b.capacity ≤ b.contents.length
    · simp [enqueue, map, size, hclosed, hfull]
    · simp [enqueue, map, size, hclosed, hfull]

/-- An element is refused by a closed buffer; an open one takes it at the end, and loses its oldest
element if there is no room. -/
theorem enqueue_cases (b : Buffer α) (a : α) :
    (b.closed = true ∧ b.enqueue a = (.refused, b)) ∨
    (b.closed = false ∧ b.capacity ≤ b.size ∧
      b.enqueue a = (.evictedOldest,
        { b with
          contents := b.contents.drop 1 ++ [a]
          enqueued := b.enqueued + 1
          dropped := b.dropped + 1 })) ∨
    (b.closed = false ∧ b.size < b.capacity ∧
      b.enqueue a = (.stored,
        { b with contents := b.contents ++ [a], enqueued := b.enqueued + 1 })) := by
  by_cases hclosed : b.closed = true
  · exact Or.inl ⟨hclosed, enqueue_of_closed hclosed a⟩
  · have hopen : b.closed = false := by simpa using hclosed
    by_cases hfull : b.capacity ≤ b.size
    · exact Or.inr (Or.inl ⟨hopen, hfull, by rw [enqueue, if_neg hclosed, if_pos hfull]⟩)
    · exact Or.inr (Or.inr ⟨hopen, Nat.lt_of_not_le hfull,
        by rw [enqueue, if_neg hclosed, if_neg hfull]⟩)

theorem closed_enqueue (b : Buffer α) (a : α) : (b.enqueue a).2.closed = b.closed := by
  rcases b.enqueue_cases a with ⟨_, heq⟩ | ⟨_, _, heq⟩ | ⟨_, _, heq⟩ <;> rw [heq]

/-- An open buffer that only takes elements keeps the newest ones. -/
theorem foldl_enqueue {b : Buffer α} (hopen : b.closed = false) (hcapacity : 0 < b.capacity)
    (hsize : b.size ≤ b.capacity) (as : List α) :
    as.foldl (fun b a => (b.enqueue a).2) b =
      { b with
        contents := (b.contents ++ as).drop (b.size + as.length - b.capacity)
        enqueued := b.enqueued + as.length
        dropped := b.dropped + (b.size + as.length - b.capacity) } := by
  induction as generalizing b with
  | nil =>
      have hnone : b.size + ([] : List α).length - b.capacity = 0 := by
        rw [List.length_nil]
        omega
      rw [hnone]
      simp
  | cons a as ih =>
      rw [List.foldl_cons]
      rcases b.enqueue_cases a with ⟨hclosed, _⟩ | ⟨_, hfull, heq⟩ | ⟨_, hroom, heq⟩
      · rw [hopen] at hclosed
        cases hclosed
      · have hlength : b.size = b.capacity := Nat.le_antisymm hsize hfull
        have hkept : (b.enqueue a).2.size = b.capacity := by
          rw [heq]
          simp only [Buffer.size, List.length_append, List.length_drop, List.length_singleton]
            at hlength ⊢
          omega
        have hnewest : (b.contents.drop 1 ++ [a] ++ as).drop as.length =
            (b.contents ++ a :: as).drop (as.length + 1) := by
          have hone : 1 ≤ b.contents.length := by
            rw [Buffer.size] at hlength
            omega
          rw [List.append_assoc, ← List.drop_append_of_le_length hone, List.drop_drop,
            Nat.add_comm 1, List.singleton_append]
        have hcap : (b.enqueue a).2.capacity = b.capacity := by rw [heq]
        rw [ih ((closed_enqueue b a).trans hopen) (hcap ▸ hcapacity)
          (Nat.le_of_eq (hkept.trans hcap.symm)), hkept, hcap, Nat.add_sub_cancel_left, heq,
          hnewest, hlength, List.length_cons, Nat.add_sub_cancel_left]
        simp only [Buffer.mk.injEq, true_and, and_true]
        omega
      · have hkept : (b.enqueue a).2.size = b.size + 1 := by
          rw [heq]
          simp [Buffer.size]
        have hcap : (b.enqueue a).2.capacity = b.capacity := by rw [heq]
        rw [ih ((closed_enqueue b a).trans hopen) (hcap ▸ hcapacity) (by omega), hkept, hcap, heq,
          List.append_assoc, List.singleton_append, List.length_cons, Nat.add_right_comm,
          ← Nat.add_assoc, Nat.add_right_comm b.enqueued]
        rfl

theorem flatten_batches {size : Nat} (hsize : size ≠ 0) (b : Buffer α) :
    (b.batches size).1.flatten = b.contents := by
  fun_induction batches size b with
  | case1 b h => simp_all
  | case2 b h first rest ih =>
      simp only [List.flatten_cons, rest, ih]
      exact b.drain_append size

/-- Nothing stays behind, and everything that was there counts as drained. -/
theorem batches_snd {size : Nat} (hsize : size ≠ 0) (b : Buffer α) :
    (b.batches size).2 =
      { b with contents := [], drained := b.drained + b.contents.length } := by
  fun_induction batches size b with
  | case1 b h =>
      obtain ⟨capacity, contents, closed, enqueued, dropped, drained⟩ := b
      simp_all
  | case2 b h first rest ih =>
      have hlength : b.drained + (b.contents.take size).length
          + (b.contents.drop size).length = b.drained + b.contents.length := by
        rw [Nat.add_assoc, ← List.length_append, List.take_append_drop]
      simp only [rest, ih]
      simp only [first, drain, hlength]

theorem batches_eq_nil_iff {size : Nat} (hsize : size ≠ 0) (b : Buffer α) :
    (b.batches size).1 = [] ↔ b.contents = [] := by
  unfold batches
  split <;> simp_all

theorem ne_nil_of_mem_batches {size : Nat} {b : Buffer α} {batch : List α}
    (hbatch : batch ∈ (b.batches size).1) : batch ≠ [] := by
  fun_induction batches size b with
  | case1 b h => cases hbatch
  | case2 b h first rest ih =>
      rcases List.mem_cons.mp hbatch with rfl | hbatch
      · simpa [first, drain, not_or, and_comm] using h
      · exact ih hbatch

theorem length_batches_le (size : Nat) (b : Buffer α) : (b.batches size).1.length ≤ b.size := by
  fun_induction batches size b with
  | case1 b h => exact Nat.zero_le _
  | case2 b h first rest ih =>
      obtain ⟨hcontents, hsize⟩ := not_or.mp h
      have hpos := List.length_pos_iff.mpr hcontents
      have hfirst : first.2.size = b.size - size := List.length_drop
      have hrest : rest.1.length ≤ b.size - size := hfirst ▸ ih
      rw [List.length_cons]
      have hsome : 0 < b.size := hpos
      omega

/-- Buffers that agree up to a replacement of their elements have the same batches up to it. -/
theorem map_batches (f : α → β) (size : Nat) (b : Buffer α) :
    (b.map f).batches size =
      ((b.batches size).1.map (List.map f), (b.batches size).2.map f) := by
  fun_induction batches size b with
  | case1 b h =>
      have hmap : (b.map f).contents = [] ∨ size = 0 := by simpa using h
      rw [batches, dif_pos hmap]
      rfl
  | case2 b h first rest ih =>
      have hmap : ¬((b.map f).contents = [] ∨ size = 0) := by simpa using h
      rw [batches, dif_neg hmap]
      simp only [map_drain, first] at ih ⊢
      simp only [ih, rest, first, List.map_cons]

end Courier.Buffer
