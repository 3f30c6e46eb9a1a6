import Mathlib.Data.String.Basic
import Courier.Metrics.Ledger
import Courier.Proofs.Double.Exact
/-!
What the counters show.

A counter is raised by natural numbers only.  As long as what it counts has 53 bits, it shows exactly
the sum of these numbers, whatever the order of the changes.
-/
namespace Courier.Metrics

namespace Family

section Labels

variable {α : Type} {initial : α} {label : String} {change : α → α} {family : Family α}

/-- The labels stand in their order, each of them once. -/
def Sorted (family : Family α) : Prop := family.Pairwise fun x y => x.1 < y.1

/-- A change brings in no label but its own. -/
theorem label_of_mem_update {x : String × α} (hx : x ∈ family.update initial label change) :
    x.1 = label ∨ ∃ y ∈ family, y.1 = x.1 := by
  induction family with
  | nil =>
      rw [update, List.mem_singleton] at hx
      exact Or.inl (congrArg Prod.fst hx)
  | cons head rest ih =>
      obtain ⟨other, value⟩ := head
      rw [update] at hx
      split at hx
      · rcases List.mem_cons.mp hx with rfl | hx
        · exact Or.inl rfl
        · exact Or.inr ⟨x, hx, rfl⟩
      · split at hx
        · rcases List.mem_cons.mp hx with rfl | hx
          · exact Or.inr ⟨_, List.mem_cons_self, rfl⟩
          · exact Or.inr ⟨x, List.mem_cons_of_mem _ hx, rfl⟩
        · rcases List.mem_cons.mp hx with rfl | hx
          · exact Or.inr ⟨_, List.mem_cons_self, rfl⟩
          · rcases ih hx with hlabel | ⟨y, hy, hlabel⟩
            · exact Or.inl hlabel
            · exact Or.inr ⟨y, List.mem_cons_of_mem _ hy, hlabel⟩

theorem sorted_update (hsorted : Sorted family) : Sorted (family.update initial label change) := by
  induction family with
  | nil => exact List.pairwise_singleton _ _
  | cons head rest ih =>
      obtain ⟨other, value⟩ := head
      obtain ⟨hfirst, hrest⟩ := List.pairwise_cons.mp hsorted
      rw [update]
      split
      case isTrue hlt =>
        refine List.pairwise_cons.mpr ⟨?_, hsorted⟩
        intro y hy
        rcases List.mem_cons.mp hy with rfl | hy
        · exact hlt
        · exact String.lt_trans hlt (hfirst y hy)
      case isFalse hge =>
        split
        case isTrue hsame => exact List.pairwise_cons.mpr ⟨hfirst, hrest⟩
        case isFalse hother =>
          have hlt : other < label := lt_of_le_of_ne (not_lt.mp hge) (Ne.symm hother)
          refine List.pairwise_cons.mpr ⟨?_, ih hrest⟩
          intro y hy
          rcases label_of_mem_update hy with hlabel | ⟨x, hx, hlabel⟩
          · rw [hlabel]
            exact hlt
          · rw [← hlabel]
            exact hfirst x hx

theorem get?_cons (asked label : String) (value : α) (rest : Family α) :
    get? asked ((label, value) :: rest) =
      if asked = label then some value else rest.get? asked := by
  rw [get?, List.lookup_cons]
  by_cases hasked : asked = label
  · simp [hasked]
  · rw [if_neg hasked, beq_false_of_ne hasked]
    rfl

/-- Before the first label there is none. -/
theorem get?_eq_none (hfirst : ∀ y ∈ family, label < y.1) : family.get? label = none := by
  apply List.lookup_eq_none_iff.mpr
  intro y hy
  have hne : label ≠ y.1 := ne_of_lt (hfirst y hy)
  simpa using hne

/-- A change is a change of the value of its label. -/
theorem get?_update (hsorted : Sorted family) (asked : String) :
    (family.update initial label change).get? asked =
      if asked = label then some (change ((family.get? label).getD initial))
      else family.get? asked := by
  induction family with
  | nil => exact get?_cons asked label (change initial) []
  | cons head rest ih =>
      obtain ⟨other, value⟩ := head
      obtain ⟨hfirst, hrest⟩ := List.pairwise_cons.mp hsorted
      rw [update]
      split
      case isTrue hlt =>
        have hnone : get? label ((other, value) :: rest) = none := by
          apply get?_eq_none
          intro y hy
          rcases List.mem_cons.mp hy with rfl | hy
          · exact hlt
          · exact String.lt_trans hlt (hfirst y hy)
        rw [get?_cons, hnone]
        rfl
      case isFalse hge =>
        split
        case isTrue hsame =>
          subst hsame
          rw [get?_cons, get?_cons, get?_cons]
          by_cases hasked : asked = label <;> simp [hasked]
        case isFalse hother =>
          rw [get?_cons, get?_cons, get?_cons, ih hrest, if_neg hother]
          by_cases hasked : asked = other
          · have hne : other ≠ label := Ne.symm hother
            simp [hasked, hne]
          · simp [hasked]

end Labels

/-- The natural number at a label, or the sum over all labels. -/
def amount (numbers : Family Nat) : Option String → Nat
  | none => (numbers.map Prod.snd).sum
  | some label => (numbers.get? label).getD 0

/-- The value of a label, or the sum over all labels. -/
def read (family : Family Double) : Option String → Double
  | none => (family.map Prod.snd).foldr (· + ·) Double.zero
  | some label => (family.get? label).getD Double.zero

/-- Natural numbers as they are shown. -/
def shown (numbers : Family Nat) : Family Double := numbers.map fun x => (x.1, Double.ofNat x.2)

theorem amount_update {numbers : Family Nat} (hsorted : Sorted numbers) (label : String) (n : Nat)
    (asked : Option String) :
    amount (numbers.update 0 label (· + n)) asked =
      amount numbers asked + if asked.all (· == label) then n else 0 := by
  cases asked with
  | some asked =>
      rw [amount, get?_update hsorted, amount]
      by_cases hasked : asked = label <;> simp [hasked]
  | none =>
      rw [Option.all_none, if_pos rfl]
      clear hsorted
      induction numbers with
      | nil => simp [update, amount]
      | cons head rest ih =>
          obtain ⟨other, value⟩ := head
          rw [update]
          split
          · simp [amount, Nat.add_comm]
          · split
            · simp [amount, Nat.add_right_comm]
            · simp only [amount, List.map_cons, List.sum_cons] at ih ⊢
              rw [ih, Nat.add_assoc]

theorem update_shown {numbers : Family Nat} {n : Nat} (hsum : amount numbers none + n < 2 ^ 53)
    (label : String) :
    (shown numbers).update Double.zero label (· + Double.ofNat n) =
      shown (numbers.update 0 label (· + n)) := by
  have hn : n < 2 ^ 53 := Nat.lt_of_le_of_lt (Nat.le_add_left _ _) hsum
  have hnew : Double.zero + Double.ofNat n = Double.ofNat (0 + n) := by
    rw [← Double.ofNat_zero, Double.ofNat_add (by rwa [Nat.zero_add])]
  induction numbers with
  | nil => simp [shown, update, hnew]
  | cons head rest ih =>
      obtain ⟨other, value⟩ := head
      simp only [amount, List.map_cons, List.sum_cons] at hsum ih
      have hvalue : Double.ofNat value + Double.ofNat n = Double.ofNat (value + n) :=
        Double.ofNat_add (by omega)
      have hrest := ih (by omega)
      simp only [shown, List.map_cons, update] at hrest ⊢
      rw [hrest, hnew, hvalue]
      split
      · rfl
      · split <;> rfl

theorem get?_shown (numbers : Family Nat) (label : String) :
    (shown numbers).get? label = (numbers.get? label).map Double.ofNat := by
  induction numbers with
  | nil => rfl
  | cons head rest ih =>
      obtain ⟨other, n⟩ := head
      rw [shown, List.map_cons, get?_cons, get?_cons]
      by_cases hlabel : label = other
      · rw [if_pos hlabel, if_pos hlabel]
        rfl
      · rw [if_neg hlabel, if_neg hlabel]
        exact ih

theorem read_shown {numbers : Family Nat} (hsum : amount numbers none < 2 ^ 53)
    (asked : Option String) : (shown numbers).read asked = Double.ofNat (amount numbers asked) := by
  cases asked with
  | some label =>
      rw [read, get?_shown, amount]
      cases numbers.get? label with
      | none =>
          rw [Option.map_none, Option.getD_none, Option.getD_none, Double.ofNat_zero]
      | some n =>
          rw [Option.map_some, Option.getD_some, Option.getD_some]
  | none =>
      have hvalues : (shown numbers).map Prod.snd = (numbers.map Prod.snd).map Double.ofNat := by
        rw [shown, List.map_map, List.map_map, Function.comp_def, Function.comp_def]
      rw [read, hvalues, amount]
      exact Double.foldr_add_ofNat hsum

/-- The family shows some natural numbers, for each label and over all. -/
def Counts (family : Family Double) (amounts : Option String → Nat) : Prop :=
  ∃ numbers : Family Nat, Sorted numbers ∧ family = shown numbers ∧
    ∀ asked, amount numbers asked = amounts asked

theorem Counts.raise {family : Family Double} {amounts : Option String → Nat}
    (hcounts : Counts family amounts) (label : String) {n : Nat}
    (hsum : amounts none + n < 2 ^ 53) :
    Counts (Ledger.raise family label n) fun asked =>
      amounts asked + if asked.all (· == label) then n else 0 := by
  obtain ⟨numbers, hsorted, rfl, hamounts⟩ := hcounts
  rw [← hamounts none] at hsum
  refine ⟨numbers.update 0 label (· + n), sorted_update hsorted, update_shown hsum label, ?_⟩
  intro asked
  rw [amount_update hsorted, hamounts]

theorem Counts.read_eq {family : Family Double} {amounts : Option String → Nat}
    (hcounts : Counts family amounts) (hsum : amounts none < 2 ^ 53) (asked : Option String) :
    family.read asked = Double.ofNat (amounts asked) := by
  obtain ⟨numbers, _, rfl, hamounts⟩ := hcounts
  rw [read_shown (hamounts none ▸ hsum), hamounts]

end Family

/-- What is counted, for one label of a family or over all of them. -/
inductive Counter where
  | enqueued
  | attempts
  | dropped (reason : Option String)
  | delivered (transport : Option String)
  | batches (outcome : Option String)

namespace Counter

/-- By how much a change raises the counter. -/
def amount : Counter → Update → Nat
  | .enqueued, .enqueued => 1
  | .attempts, .attempt => 1
  | .dropped asked, .dropped reason count => if asked.all (· == reason) then count else 0
  | .delivered asked, .delivered transport count => if asked.all (· == transport) then count else 0
  | .batches asked, .batch outcome => if asked.all (· == outcome) then 1 else 0
  | _, _ => 0

/-- What is counted in some changes. -/
def total (counter : Counter) (updates : List Update) : Nat := (updates.map counter.amount).sum

/-- What the counter shows. -/
def read (ledger : Ledger) : Counter → Double
  | .enqueued => ledger.enqueued
  | .attempts => ledger.attempts
  | .dropped reason => Family.read ledger.dropped reason
  | .delivered transport => Family.read ledger.delivered transport
  | .batches outcome => Family.read ledger.batches outcome

@[simp] theorem total_nil (counter : Counter) : counter.total [] = 0 := rfl

@[simp] theorem total_cons (counter : Counter) (update : Update) (updates : List Update) :
    counter.total (update :: updates) = counter.amount update + counter.total updates := by
  rw [total, List.map_cons, List.sum_cons, total]

@[simp] theorem total_append (counter : Counter) (left right : List Update) :
    counter.total (left ++ right) = counter.total left + counter.total right := by
  rw [total, List.map_append, List.sum_append, total, total]

theorem total_filter (counter : Counter) {raises : Update → Bool}
    (hraises : ∀ update, raises update = false → counter.amount update = 0)
    (updates : List Update) : counter.total (updates.filter raises) = counter.total updates := by
  induction updates with
  | nil => rfl
  | cons update rest ih =>
      cases hupdate : raises update with
      | true => rw [List.filter_cons_of_pos hupdate, total_cons, total_cons, ih]
      | false =>
          have hnone : ¬raises update = true := by rw [hupdate]; exact Bool.false_ne_true
          rw [List.filter_cons_of_neg hnone, total_cons, hraises update hupdate, Nat.zero_add, ih]

@[simp] theorem total_replicate (counter : Counter) (n : Nat) (update : Update) :
    counter.total (List.replicate n update) = n * counter.amount update := by
  rw [total, List.map_replicate, List.sum_replicate_nat]

/-- The counter without regard to its label. -/
def overall : Counter → Counter
  | .enqueued => .enqueued
  | .attempts => .attempts
  | .dropped _ => .dropped none
  | .delivered _ => .delivered none
  | .batches _ => .batches none

theorem amount_le_overall (counter : Counter) (update : Update) :
    counter.amount update ≤ counter.overall.amount update := by
  cases counter <;> cases update <;> simp only [amount, overall, Option.all_none, if_true] <;>
    first | exact Nat.le_refl _ | (split <;> omega)

/-- What is counted for one label is counted for all labels together. -/
theorem total_le_overall (counter : Counter) (updates : List Update) :
    counter.total updates ≤ counter.overall.total updates := by
  induction updates with
  | nil => exact Nat.le_refl 0
  | cons update rest ih =>
      rw [total_cons, total_cons]
      exact Nat.add_le_add (counter.amount_le_overall update) ih

theorem total_perm (counter : Counter) {left right : List Update} (hperm : left.Perm right) :
    counter.total left = counter.total right :=
  (hperm.map counter.amount).sum_nat

end Counter

/-- The numbers are exactly what was counted. -/
structure Ledger.Exact (ledger : Ledger) (amounts : Counter → Nat) : Prop where
  enqueued : ledger.enqueued = Double.ofNat (amounts .enqueued)
  attempts : ledger.attempts = Double.ofNat (amounts .attempts)
  dropped : Family.Counts ledger.dropped fun asked => amounts (.dropped asked)
  delivered : Family.Counts ledger.delivered fun asked => amounts (.delivered asked)
  batches : Family.Counts ledger.batches fun asked => amounts (.batches asked)

namespace Ledger.Exact

variable {ledger : Ledger} {amounts : Counter → Nat}

theorem empty : Exact {} fun _ => 0 := by
  have hnone : Family.Counts [] fun _ => 0 := by
    refine ⟨[], List.Pairwise.nil, rfl, ?_⟩
    intro asked
    cases asked <;> rfl
  exact ⟨Double.ofNat_zero.symm, Double.ofNat_zero.symm, hnone, hnone, hnone⟩

theorem apply (hexact : Exact ledger amounts) {update : Update}
    (hbound : ∀ counter : Counter, amounts counter + counter.amount update < 2 ^ 53) :
    Exact (ledger.apply update) fun counter => amounts counter + counter.amount update := by
  obtain ⟨henqueued, hattempts, hdropped, hdelivered, hbatches⟩ := hexact
  cases update with
  | enqueued =>
      refine ⟨?_, hattempts, hdropped, hdelivered, hbatches⟩
      show ledger.enqueued + Double.one = _
      rw [henqueued, ← Double.ofNat_one]
      exact Double.ofNat_add (hbound .enqueued)
  | attempt =>
      refine ⟨henqueued, ?_, hdropped, hdelivered, hbatches⟩
      show ledger.attempts + Double.one = _
      rw [hattempts, ← Double.ofNat_one]
      exact Double.ofNat_add (hbound .attempts)
  | dropped reason count =>
      exact ⟨henqueued, hattempts, hdropped.raise reason (hbound (.dropped none)), hdelivered,
        hbatches⟩
  | delivered transport count =>
      exact ⟨henqueued, hattempts, hdropped,
        hdelivered.raise transport (hbound (.delivered none)), hbatches⟩
  | batch outcome =>
      exact ⟨henqueued, hattempts, hdropped, hdelivered,
        hbatches.raise outcome (hbound (.batches none))⟩
  | _ =>
      -- the other changes leave the five fields alone, as is seen field by field
      rw [Ledger.apply]
      exact ⟨henqueued, hattempts, hdropped, hdelivered, hbatches⟩

theorem foldl (hexact : Exact ledger amounts) (updates : List Update)
    (hbound : ∀ counter : Counter, amounts counter + counter.total updates < 2 ^ 53) :
    Exact (updates.foldl Ledger.apply ledger)
      fun counter => amounts counter + counter.total updates := by
  induction updates generalizing ledger amounts with
  | nil => exact hexact
  | cons update rest ih =>
      simp only [Counter.total_cons, ← Nat.add_assoc] at hbound ⊢
      have hfirst : ∀ counter : Counter, amounts counter + counter.amount update < 2 ^ 53 :=
        fun counter => Nat.lt_of_le_of_lt (Nat.le_add_right _ _) (hbound counter)
      exact ih (hexact.apply hfirst) hbound

end Ledger.Exact

/-- As long as nothing is counted beyond 53 bits, every counter shows what was counted. -/
theorem Counter.read_foldl {updates : List Update}
    (hbound : ∀ counter : Counter, counter.total updates < 2 ^ 53) (counter : Counter) :
    counter.read (updates.foldl Ledger.apply {}) = Double.ofNat (counter.total updates) := by
  have hexact := Ledger.Exact.empty.foldl updates
    (fun counter => by rw [Nat.zero_add]; exact hbound counter)
  simp only [Nat.zero_add] at hexact
  cases counter with
  | enqueued => exact hexact.enqueued
  | attempts => exact hexact.attempts
  | dropped reason => exact hexact.dropped.read_eq (hbound (.dropped none)) reason
  | delivered transport => exact hexact.delivered.read_eq (hbound (.delivered none)) transport
  | batches outcome => exact hexact.batches.read_eq (hbound (.batches none)) outcome

/-- The size of the buffer that is shown after a change. -/
def Update.gauge (shown : Nat) : Update → Nat
  | .bufferSize size => size
  | _ => shown

/-- The gauge shows the size that was told last. -/
theorem Ledger.bufferSize_foldl {ledger : Ledger} {shown : Nat}
    (hshown : ledger.bufferSize = Double.ofNat shown) (updates : List Update) :
    (updates.foldl Ledger.apply ledger).bufferSize =
      Double.ofNat (updates.foldl Update.gauge shown) := by
  induction updates generalizing ledger shown with
  | nil => exact hshown
  | cons update rest ih =>
      have hnext : (ledger.apply update).bufferSize = Double.ofNat (update.gauge shown) := by
        cases update with
        | bufferSize size => rw [Ledger.apply, Update.gauge]
        | _ =>
            rw [Ledger.apply]
            exact hshown
      exact ih hnext

end Courier.Metrics
