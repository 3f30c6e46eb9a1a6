import Mathlib.Algebra.Order.Floor.Div
import Courier.Proofs.Buffer.Batches
/-!
How many batches a buffer comes to, and how large they are.

Whoever takes everything out looks at the number of elements once and then goes on until that many
were taken, never asking for more than is left, or until nothing is found.  That loop forms the
batches, and of `n` elements it forms as many as `n` fills when only the last one may be smaller.
-/
namespace Courier.Buffer

variable {α : Type}

/-- Take batches of up to `size` elements until `remaining` elements were taken or none is found. -/
def drainLoop (size remaining : Nat) (b : Buffer α) : List (List α) × Buffer α :=
  if _hdone : remaining = 0 then ([], b)
  else
    let first := b.drain (min size remaining)
    if _hfound : first.1 = [] then ([], first.2)
    else
      let rest := first.2.drainLoop size (remaining - first.1.length)
      (first.1 :: rest.1, rest.2)
termination_by remaining
decreasing_by
  exact Nat.sub_lt (Nat.pos_of_ne_zero _hdone) (List.length_pos_iff.mpr _hfound)

/-- To ask for more than there is changes nothing. -/
theorem drain_min_size (b : Buffer α) (n : Nat) : b.drain (min n b.size) = b.drain n := by
  rcases Nat.le_total n b.size with hle | hle
  · rw [Nat.min_eq_left hle]
  · rw [Nat.min_eq_right hle, drain, drain, Buffer.size, List.take_of_length_le hle,
      List.drop_eq_nil_of_le hle, List.take_length, List.drop_length]

theorem drain_zero (b : Buffer α) : b.drain 0 = ([], b) := rfl

/-- The loop forms the batches. -/
theorem drainLoop_eq_batches (size : Nat) (b : Buffer α) :
    b.drainLoop size b.size = b.batches size := by
  fun_induction batches size b with
  | case1 b h =>
      rw [drainLoop]
      split
      · rfl
      · rename_i hsome
        obtain hnil | rfl := h
        · exact absurd (List.length_eq_zero_iff.mpr hnil) hsome
        · rw [Nat.zero_min, drain_zero]
          rfl
  | case2 b h first rest ih =>
      obtain ⟨hcontents, hsize⟩ := not_or.mp h
      have hsome : b.size ≠ 0 := mt List.length_eq_zero_iff.mp hcontents
      have hfound : (b.drain size).1 ≠ [] := mt List.take_eq_nil_iff.mp (by tauto)
      have hleft : b.size - (b.drain size).1.length = (b.drain size).2.size := by
        have hwhole := congrArg List.length (b.drain_append size)
        rw [List.length_append] at hwhole
        simp only [Buffer.size]
        omega
      rw [drainLoop, dif_neg hsome]
      simp only [drain_min_size, dif_neg hfound, hleft]
      rw [ih]

/-- All batches together, cut as large as they may be: what `n` elements come to. -/
theorem length_batches {size : Nat} (hsize : size ≠ 0) (b : Buffer α) :
    (b.batches size).1.length = b.size ⌈/⌉ size := by
  fun_induction batches size b with
  | case1 b h =>
      have hnone : b.size = 0 := List.length_eq_zero_iff.mpr (h.resolve_right hsize)
      rw [hnone, zero_ceilDiv]
      rfl
  | case2 b h first rest ih =>
      have hpos : 0 < b.size := List.length_pos_iff.mpr (not_or.mp h).1
      have hleft : first.2.size = b.size - size := List.length_drop
      rw [List.length_cons, ih, hleft, Nat.ceilDiv_eq_add_pred_div, Nat.ceilDiv_eq_add_pred_div]
      rcases Nat.le_total b.size size with hle | hle
      · have hone : b.size + size - 1 = b.size - 1 + size := by omega
        have hlast : b.size - size + size - 1 = size - 1 := by omega
        rw [hone, hlast, Nat.add_div_right _ (Nat.pos_of_ne_zero hsize),
          Nat.div_eq_of_lt (by omega), Nat.div_eq_of_lt (by omega)]
      · have hmore : b.size + size - 1 = b.size - size + size - 1 + size := by omega
        rw [hmore, Nat.add_div_right _ (Nat.pos_of_ne_zero hsize)]

theorem length_le_of_mem_batches {size : Nat} {b : Buffer α} {batch : List α}
    (hbatch : batch ∈ (b.batches size).1) : batch.length ≤ size := by
  fun_induction batches size b with
  | case1 b h => cases hbatch
  | case2 b h first rest ih =>
      rcases List.mem_cons.mp hbatch with rfl | hbatch
      · exact List.length_take_le size b.contents
      · exact ih hbatch

/-- Every batch with another one behind it is as large as it may be. -/
theorem length_eq_of_mem_dropLast_batches {size : Nat} {b : Buffer α} {batch : List α}
    (hbatch : batch ∈ (b.batches size).1.dropLast) : batch.length = size := by
  fun_induction batches size b with
  | case1 b h => cases hbatch
  | case2 b h first rest ih =>
      have hsize := (not_or.mp h).2
      by_cases hlast : rest.1 = []
      · rw [hlast] at hbatch
        cases hbatch
      · rw [List.dropLast_cons_of_ne_nil hlast] at hbatch
        rcases List.mem_cons.mp hbatch with rfl | hbatch
        · have hmore : b.contents.drop size ≠ [] :=
            mt (batches_eq_nil_iff hsize first.2).mpr hlast
          have hlt : size < b.contents.length :=
            Nat.lt_of_not_le (mt List.drop_eq_nil_of_le hmore)
          exact List.length_take_of_le hlt.le
        · exact ih hbatch

/-- What it means that everything in a buffer was taken in batches of a size. -/
structure Chunked (size : Nat) (b : Buffer α) (taken : List (List α) × Buffer α) : Prop where
  /-- The loop is through, with these batches. -/
  loop : b.drainLoop size b.size = taken
  count : taken.1.length = b.size ⌈/⌉ size
  /-- One behind the other the batches are what was buffered, in its order. -/
  whole : taken.1.flatten = b.contents
  bounded : ∀ batch ∈ taken.1, 1 ≤ batch.length ∧ batch.length ≤ size
  /-- Only the last batch may be smaller. -/
  full : ∀ batch ∈ taken.1.dropLast, batch.length = size
  /-- Nothing stays behind, and everything counts as drained. -/
  left : taken.2 = { b with contents := [], drained := b.drained + b.size }

theorem chunked_batches {size : Nat} (hsize : size ≠ 0) (b : Buffer α) :
    Chunked size b (b.batches size) where
  loop := b.drainLoop_eq_batches size
  count := b.length_batches hsize
  whole := b.flatten_batches hsize
  bounded := fun _ hbatch =>
    ⟨List.length_pos_iff.mpr (ne_nil_of_mem_batches hbatch), length_le_of_mem_batches hbatch⟩
  full := fun _ hbatch => length_eq_of_mem_dropLast_batches hbatch
  left := b.batches_snd hsize

end Courier.Buffer
