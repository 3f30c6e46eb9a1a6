import Mathlib.Data.List.Basic
import Courier.FailureLog
/-!
A failure log holds the newest reports and accounts for all others.

A chronicle keeps every report that the log received and, from the oldest one on, how those that left
it did so: dropped for a newer one, drained or cleared.  All three take from the front, so what is held
are the reports from the number of those that left on.
-/
namespace Courier.FailureLog

/-- A full log drops its oldest report for the new one. -/
theorem push_cases (log : FailureLog) (report : Report) :
    (log.capacity ≤ log.reports.length ∧ log.push report =
      { log with
        reports := log.reports.drop 1 ++ [report]
        captured := log.captured + 1
        dropped := log.dropped + 1 }) ∨
    (log.reports.length < log.capacity ∧ log.push report =
      { log with reports := log.reports ++ [report], captured := log.captured + 1 }) := by
  by_cases hfull : log.capacity ≤ log.reports.length
  · exact Or.inl ⟨hfull, if_pos hfull⟩
  · exact Or.inr ⟨Nat.lt_of_not_le hfull, if_neg hfull⟩

/-- What can be done to a log. -/
inductive Op where
  | report (report : Report)
  | drain (count : Nat)
  | peek (count : Nat)
  | clear

/-- How a report left the log. -/
inductive Fate where
  | dropped
  | drained
  | cleared
  deriving DecidableEq, Repr

section Departed

variable {fate other : Fate} {reports left right later : List Report} {fates more : List Fate}

/-- The reports that left in one way, in the order in which they came. -/
def departed (fate : Fate) (reports : List Report) (fates : List Fate) : List Report :=
  ((reports.zip fates).filter fun entry => entry.2 = fate).map Prod.fst

theorem departed_append (h : left.length = fates.length) :
    departed fate (left ++ right) (fates ++ more) =
      departed fate left fates ++ departed fate right more := by
  rw [departed, List.zip_append h, List.filter_append, List.map_append]
  rfl

/-- What comes in later has not left. -/
theorem departed_append_left (h : left.length = fates.length) :
    departed fate (left ++ right) fates = departed fate left fates := by
  have hnone : departed fate right [] = [] := by
    rw [departed, List.zip_nil_right]
    rfl
  have happend : departed fate (left ++ right) (fates ++ []) =
      departed fate left fates ++ departed fate right [] := departed_append h
  rwa [List.append_nil, hnone, List.append_nil] at happend

theorem departed_concat (h : fates.length ≤ reports.length) :
    departed fate (reports ++ later) fates = departed fate reports fates := by
  have htake : (reports.take fates.length).length = fates.length := List.length_take_of_le h
  rw [← List.take_append_drop fates.length reports, List.append_assoc, departed_append_left htake,
    departed_append_left htake]

/-- Whatever leaves next is among the reports behind those that have left. -/
theorem departed_advance (h : fates.length ≤ reports.length) :
    departed fate reports (fates ++ more) =
      departed fate reports fates ++ departed fate (reports.drop fates.length) more := by
  have htake : (reports.take fates.length).length = fates.length := List.length_take_of_le h
  have hsplit := List.take_append_drop fates.length reports
  have hleft : departed fate (reports.take fates.length ++ reports.drop fates.length) fates =
      departed fate (reports.take fates.length) fates := departed_append_left htake
  calc departed fate reports (fates ++ more)
      = departed fate (reports.take fates.length) fates ++
          departed fate (reports.drop fates.length) more := by
        rw [← departed_append htake, hsplit]
    _ = departed fate reports fates ++ departed fate (reports.drop fates.length) more := by
        rw [← hleft, hsplit]

/-- The oldest reports leave, all in one way. -/
theorem departed_take (count : Nat) :
    departed fate reports (List.replicate (reports.take count).length fate) =
      reports.take count := by
  have hlength : (reports.take count).length =
      (List.replicate (reports.take count).length fate).length := by
    rw [List.length_replicate]
  have hall : departed fate (reports.take count)
      (List.replicate (reports.take count).length fate) = reports.take count := by
    rw [departed, List.filter_eq_self.mpr, List.map_fst_zip (Nat.le_of_eq hlength)]
    intro entry hentry
    simpa using List.eq_of_mem_replicate (List.of_mem_zip hentry).2
  calc departed fate reports (List.replicate (reports.take count).length fate)
      = departed fate (reports.take count ++ reports.drop count)
          (List.replicate (reports.take count).length fate) := by
        rw [List.take_append_drop]
    _ = reports.take count := by rw [departed_append_left hlength, hall]

theorem departed_of_ne (h : other ≠ fate) (count : Nat) :
    departed fate reports (List.replicate count other) = [] := by
  rw [departed, List.filter_eq_nil_iff.mpr, List.map_nil]
  intro entry hentry
  rw [List.eq_of_mem_replicate (List.of_mem_zip hentry).2]
  simpa using h

theorem length_departed (h : fates.length ≤ reports.length) :
    (departed fate reports fates).length = fates.count fate := by
  rw [departed, List.length_map, ← List.countP_eq_length_filter]
  conv_rhs => rw [← List.map_snd_zip h, List.count, List.countP_map]
  rfl

/-- No report leaves twice, and none before an older one. -/
theorem departed_sublist (h : fates.length ≤ reports.length) :
    (departed fate reports fates).Sublist reports := by
  have htake : (reports.take fates.length).length = fates.length := List.length_take_of_le h
  have hfst := List.map_fst_zip (Nat.le_of_eq htake)
  rw [← List.take_append_drop fates.length reports, departed_append_left htake]
  calc (departed fate (reports.take fates.length) fates).Sublist
        (((reports.take fates.length).zip fates).map Prod.fst) := List.filter_sublist.map _
    _ = reports.take fates.length := hfst
    List.Sublist _ (reports.take fates.length ++ reports.drop fates.length) :=
        List.sublist_append_left _ _

end Departed

/-- A log with its past. -/
structure Chronicle where
  log : FailureLog
  /-- All reports, the first one first. -/
  received : List Report := []
  /-- How reports left the log, the first one first. -/
  fates : List Fate := []
  /-- What the drains returned. -/
  drains : List (List Report) := []
  /-- What was held whenever the log was cleared. -/
  clears : List (List Report) := []

namespace Chronicle

def first (capacity : Nat) : Chronicle := { log := FailureLog.empty capacity }

def next (c : Chronicle) : Op → Chronicle
  | .report report =>
    let log := c.log.push report
    { c with
      log
      received := c.received ++ [report]
      fates := c.fates ++ List.replicate (log.dropped - c.log.dropped) .dropped }
  | .drain count =>
    let (taken, log) := c.log.drain count
    { c with
      log
      fates := c.fates ++ List.replicate taken.length .drained
      drains := c.drains ++ [taken] }
  | .peek _ => c
  | .clear =>
    { c with
      log := c.log.clear
      fates := c.fates ++ List.replicate c.log.reports.length .cleared
      clears := c.clears ++ [c.log.reports] }

def run (c : Chronicle) (ops : List Op) : Chronicle := ops.foldl next c

/-- What the log says of itself agrees with its past. -/
structure Exact (c : Chronicle) : Prop where
  roomy : 0 < c.log.capacity
  within : c.fates.length ≤ c.received.length
  held : c.log.reports = c.received.drop c.fates.length
  length_le : c.log.reports.length ≤ c.log.capacity
  captured : c.log.captured = c.received.length
  dropped : c.log.dropped = c.fates.count .dropped
  drains : c.drains.flatten = departed .drained c.received c.fates
  clears : c.clears.flatten = departed .cleared c.received c.fates
  /-- A report was dropped for another one that came as many places after it as the log has. -/
  outgrown : ∀ i : Nat, c.fates[i]? = some .dropped → i + c.log.capacity < c.received.length

namespace Exact

variable {c : Chronicle}

theorem first (capacity : Nat) : (Chronicle.first capacity).Exact := by
  refine ⟨Nat.le_max_right capacity 1, Nat.le_refl 0, rfl, Nat.zero_le _, rfl, rfl, rfl, rfl, ?_⟩
  intro i hi
  cases hi

theorem length_eq (hc : c.Exact) :
    c.log.reports.length = c.received.length - c.fates.length := by
  rw [hc.held, List.length_drop]

theorem store (hc : c.Exact) (report : Report) (hroom : c.log.reports.length < c.log.capacity) :
    { c with
      log := { c.log with
        reports := c.log.reports ++ [report]
        captured := c.log.captured + 1 }
      received := c.received ++ [report] }.Exact where
  roomy := hc.roomy
  within := by
    rw [List.length_append]
    exact Nat.le_add_right_of_le hc.within
  held := by rw [List.drop_append_of_le_length hc.within, hc.held]
  length_le := by simpa using Nat.succ_le_of_lt hroom
  captured := by simp [hc.captured]
  dropped := hc.dropped
  drains := by rw [departed_concat hc.within, hc.drains]
  clears := by rw [departed_concat hc.within, hc.clears]
  outgrown := by
    intro i hi
    rw [List.length_append]
    exact Nat.lt_add_right 1 (hc.outgrown i hi)

theorem drop (hc : c.Exact) (report : Report) (hfull : c.log.capacity ≤ c.log.reports.length) :
    { c with
      log := { c.log with
        reports := c.log.reports.drop 1 ++ [report]
        captured := c.log.captured + 1
        dropped := c.log.dropped + 1 }
      received := c.received ++ [report]
      fates := c.fates ++ [Fate.dropped] }.Exact := by
  have hlength := hc.length_eq
  have hroomy := hc.roomy
  have hlength_le := hc.length_le
  have hahead : c.fates.length + 1 ≤ c.received.length := by omega
  have hwithin : (c.fates ++ [Fate.dropped]).length ≤ c.received.length := by
    simpa using hahead
  have hnone : ∀ {fate}, Fate.dropped ≠ fate →
      departed fate (c.received.drop c.fates.length) [.dropped] = [] :=
    fun hfate => departed_of_ne hfate 1
  constructor
  case roomy => exact hroomy
  case within =>
    have hgrown : c.received.length ≤ (c.received ++ [report]).length := by simp
    exact Nat.le_trans hwithin hgrown
  case held =>
    rw [hc.held, List.drop_drop, List.length_append, List.length_singleton,
      List.drop_append_of_le_length hahead]
  case length_le =>
    simp only [List.length_append, List.length_drop, List.length_singleton]
    omega
  case captured => simp [hc.captured]
  case dropped => simp [hc.dropped]
  case drains =>
    rw [departed_concat hwithin, departed_advance hc.within, hnone (by decide), List.append_nil,
      hc.drains]
  case clears =>
    rw [departed_concat hwithin, departed_advance hc.within, hnone (by decide), List.append_nil,
      hc.clears]
  case outgrown =>
    intro i hi
    rw [List.length_append, List.length_singleton]
    rw [List.getElem?_append] at hi
    split at hi
    · exact Nat.lt_add_right 1 (hc.outgrown i hi)
    · have hi' : i - c.fates.length < [Fate.dropped].length :=
        (List.getElem?_eq_some_iff.mp hi).1
      rw [List.length_singleton] at hi'
      dsimp only
      omega

theorem leave (hc : c.Exact) {fate : Fate} (hfate : fate ≠ .dropped) (count : Nat)
    {drains clears : List (List Report)}
    (hdrains : drains.flatten = c.drains.flatten ++ departed .drained c.log.reports
      (List.replicate (c.log.reports.take count).length fate))
    (hclears : clears.flatten = c.clears.flatten ++ departed .cleared c.log.reports
      (List.replicate (c.log.reports.take count).length fate)) :
    { c with
      log := { c.log with reports := c.log.reports.drop count }
      fates := c.fates ++ List.replicate (c.log.reports.take count).length fate
      drains
      clears }.Exact := by
  have hlength := hc.length_eq
  have hwithin := hc.within
  have htaken : (c.log.reports.take count).length = min count c.log.reports.length :=
    List.length_take
  constructor
  case roomy => exact hc.roomy
  case within =>
    rw [List.length_append, List.length_replicate, htaken]
    dsimp only
    omega
  case held =>
    have hdrop : c.log.reports.drop count =
        c.log.reports.drop (min count c.log.reports.length) := by
      simp [List.drop_eq_drop_iff]
    rw [List.length_append, List.length_replicate, htaken, ← List.drop_drop, ← hc.held, hdrop]
  case length_le =>
    rw [List.length_drop]
    exact Nat.le_trans (Nat.sub_le _ _) hc.length_le
  case captured => exact hc.captured
  case dropped => simp [hc.dropped, List.count_replicate, hfate]
  case drains => rw [hdrains, departed_advance hwithin, ← hc.held, hc.drains]
  case clears => rw [hclears, departed_advance hwithin, ← hc.held, hc.clears]
  case outgrown =>
    intro i hi
    rw [List.getElem?_append] at hi
    split at hi
    · exact hc.outgrown i hi
    · rw [List.getElem?_replicate] at hi
      split at hi
      · exact absurd (Option.some.inj hi) hfate
      · cases hi

theorem next (hc : c.Exact) (op : Op) : (c.next op).Exact := by
  cases op with
  | report report =>
      rcases c.log.push_cases report with ⟨hfull, heq⟩ | ⟨hroom, heq⟩
      · simpa [Chronicle.next, heq] using hc.drop report hfull
      · simpa [Chronicle.next, heq] using hc.store report hroom
  | drain count =>
      apply hc.leave (by decide) count
      · rw [departed_take, List.flatten_append, List.flatten_singleton]
        rfl
      · rw [departed_of_ne (by decide), List.append_nil]
  | peek count => exact hc
  | clear =>
      have hcleared : Fate.cleared ≠ .dropped := by decide
      have hdrains : c.drains.flatten = c.drains.flatten ++ departed .drained c.log.reports
          (List.replicate (c.log.reports.take c.log.reports.length).length .cleared) := by
        rw [departed_of_ne (by decide), List.append_nil]
      have hclears : (c.clears ++ [c.log.reports]).flatten =
          c.clears.flatten ++ departed .cleared c.log.reports
            (List.replicate (c.log.reports.take c.log.reports.length).length .cleared) := by
        rw [departed_take, List.take_length, List.flatten_append, List.flatten_singleton]
      have hall := hc.leave hcleared c.log.reports.length hdrains hclears
      rwa [List.take_length, List.drop_length] at hall

theorem run (hc : c.Exact) (ops : List Op) : (c.run ops).Exact := by
  induction ops generalizing c with
  | nil => exact hc
  | cons op ops ih => exact ih (hc.next op)

/-- Those that left did so in one of three ways. -/
theorem length_fates (hc : c.Exact) : c.fates.length =
    c.log.dropped + c.drains.flatten.length + c.clears.flatten.length := by
  rw [hc.dropped, hc.drains, hc.clears, length_departed hc.within, length_departed hc.within]
  generalize c.fates = fates
  induction fates with
  | nil => rfl
  | cons fate fates ih => cases fate <;> simp <;> omega

end Exact

theorem capacity_next (c : Chronicle) (op : Op) : (c.next op).log.capacity = c.log.capacity := by
  cases op with
  | report report => rcases c.log.push_cases report with ⟨_, heq⟩ | ⟨_, heq⟩ <;> simp [next, heq]
  | _ => rfl

theorem capacity_run (c : Chronicle) (ops : List Op) :
    (c.run ops).log.capacity = c.log.capacity := by
  induction ops generalizing c with
  | nil => rfl
  | cons op ops ih => exact (ih (c.next op)).trans (c.capacity_next op)

end Chronicle

/-- What a log is after some operations: it holds the newest reports and accounts for all others. -/
structure Accounts (capacity : Nat) (c : Chronicle) : Prop where
  /-- The reports that are held are the last ones received, in their order. -/
  newest : c.log.reports <:+ c.received
  length_le : c.log.reports.length ≤ max capacity 1
  captured : c.log.captured = c.received.length
  balance : c.log.captured = c.log.dropped + c.drains.flatten.length + c.clears.flatten.length +
    c.log.reports.length
  /-- To peek is to see what a drain would return, and changes nothing. -/
  peek : ∀ count, c.log.peek count = (c.log.drain count).1 ∧
    c.log.peek count = c.log.reports.take count ∧ c.next (.peek count) = c
  /-- The drains return reports in the order in which they came, each at most once. -/
  order : c.drains.flatten.Sublist c.received
  /-- They return exactly those whose fate it is to be drained. -/
  drains : c.drains.flatten = departed .drained c.received c.fates
  clears : c.clears.flatten = departed .cleared c.received c.fates
  dropped : c.log.dropped = c.fates.count .dropped
  /-- A report that was not drained was dropped or cleared, or is still held. -/
  missing : ∀ (i : Nat) report, c.received[i]? = some report → c.fates[i]? ≠ some .drained →
    c.fates[i]? = some .dropped ∨ c.fates[i]? = some .cleared ∨
      c.log.reports[i - c.fates.length]? = some report ∧ c.fates.length ≤ i
  /-- A report is dropped only for another one that came as many places after it as the log has. -/
  outgrown : ∀ i : Nat, c.fates[i]? = some .dropped → i + max capacity 1 < c.received.length

/-- Whatever is done to a log, it holds the newest reports and accounts for all others. -/
theorem failures_accounted (capacity : Nat) (ops : List Op) :
    Accounts capacity ((Chronicle.first capacity).run ops) := by
  have hcapacity : ((Chronicle.first capacity).run ops).log.capacity = max capacity 1 :=
    Chronicle.capacity_run _ ops
  have hc := (Chronicle.Exact.first capacity).run ops
  constructor
  case newest =>
    rw [hc.held]
    exact List.drop_suffix _ _
  case length_le => rw [← hcapacity]; exact hc.length_le
  case captured => exact hc.captured
  case balance =>
    rw [hc.captured, ← hc.length_fates, hc.length_eq, Nat.add_sub_cancel' hc.within]
  case peek => exact fun count => ⟨rfl, rfl, rfl⟩
  case order => rw [hc.drains]; exact departed_sublist hc.within
  case drains => exact hc.drains
  case clears => exact hc.clears
  case dropped => exact hc.dropped
  case missing =>
    intro i report hreport hdrained
    rcases Nat.lt_or_ge i ((Chronicle.first capacity).run ops).fates.length with hleft | hheld
    · rw [List.getElem?_eq_getElem hleft] at hdrained ⊢
      cases hfate : ((Chronicle.first capacity).run ops).fates[i] with
      | dropped => exact Or.inl rfl
      | drained => exact absurd (congrArg some hfate) hdrained
      | cleared => exact Or.inr (Or.inl rfl)
    · refine Or.inr (Or.inr ⟨?_, hheld⟩)
      rw [hc.held, List.getElem?_drop, Nat.add_sub_cancel' hheld]
      exact hreport
  case outgrown => rw [← hcapacity]; exact hc.outgrown

end Courier.FailureLog
