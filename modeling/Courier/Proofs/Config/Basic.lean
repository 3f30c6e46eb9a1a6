import Courier.Config.Basic
import Mathlib.Data.List.TakeWhile
/-!
What is looked at in settings.

The ranges are checked in a fixed order, and the first one that a setting lies outside of decides the
problem.  The address is what precedes the slashes at the end of a text.
-/
namespace Courier.Config

/-- The problems of the checks that fail. -/
def failing (checks : List (Bool × ConfigProblem)) : List ConfigProblem :=
  checks.filterMap fun check => if check.1 then some check.2 else none

/-- All that is wrong with settings, in the order in which it is looked for. -/
def complaints (c : Config) : List ConfigProblem :=
  failing [(c.flushInterval.isZero, .zeroFlushInterval),
    (c.maxQueueSize == 0, .zeroQueueSize),
    (c.batchSize == 0, .zeroBatchSize),
    (decide (largestBatch < c.batchSize), .batchSizeTooLarge c.batchSize),
    (c.maxRetries == 0, .zeroRetries),
    (!(Double.zero.le c.jitter && c.jitter.le Double.one), .jitterOutOfRange c.jitter),
    (!decide (c.backoffBase ≤ c.backoffMax), .backoffInverted)]

/-- The first complaint decides. -/
theorem validate_eq (c : Config) : c.validate = c.complaints.head?.elim (.ok ()) .error := by
  have hfirst : ∀ (fails : Bool) (problem : ConfigProblem) (checks : List (Bool × ConfigProblem)),
      (failing ((fails, problem) :: checks)).head?.elim (.ok ()) Except.error =
        if fails then .error problem
        else (failing checks).head?.elim (.ok ()) Except.error := by
    intro fails problem checks
    cases fails <;> rfl
  simp only [complaints, hfirst, validate, beq_iff_eq, decide_eq_true_eq, Bool.not_eq_true',
    decide_eq_false_iff_not]
  rfl

theorem validate_eq_error_iff {c : Config} {problem : ConfigProblem} :
    c.validate = .error problem ↔ c.complaints.head? = some problem := by
  rw [validate_eq]
  cases c.complaints.head? <;> simp

/-- What is left of a text once the same character was dropped from its front. -/
theorem dropWhile_eq_iff {mark : Char} {cs rest : List Char} :
    cs.dropWhile (· == mark) = rest ↔
      rest.head? ≠ some mark ∧ ∃ count, cs = List.replicate count mark ++ rest := by
  constructor
  · rintro rfl
    refine ⟨?_, (cs.takeWhile (· == mark)).length, ?_⟩
    · intro hhead
      have hnot := List.head?_dropWhile_not (· == mark) cs
      rw [hhead] at hnot
      simp at hnot
    · have hmarks : cs.takeWhile (· == mark) =
          List.replicate (cs.takeWhile (· == mark)).length mark := by
        rw [List.eq_replicate_iff]
        exact ⟨rfl, fun c hc => by simpa using List.mem_takeWhile_imp hc⟩
      rw [← hmarks, List.takeWhile_append_dropWhile]
  · rintro ⟨hhead, count, rfl⟩
    rw [List.dropWhile_append_of_pos (fun c hc => by simpa using List.eq_of_mem_replicate hc)]
    cases rest with
    | nil => rfl
    | cons c rest =>
        have hc : c ≠ mark := fun heq => hhead (by rw [heq]; rfl)
        simp [hc]

/-- An address without slashes at its end is what remains of it with some. -/
theorem trimSlashes_eq_iff {url address : String} : trimSlashes url = address ↔
    address.toList.getLast? ≠ some '/' ∧
      ∃ count, url.toList = address.toList ++ List.replicate count '/' := by
  have hreverse : trimSlashes url = address ↔
      url.toList.reverse.dropWhile (· == '/') = address.toList.reverse := by
    rw [trimSlashes, ← String.toList_inj, String.toList_ofList, List.reverse_eq_iff]
  rw [hreverse, dropWhile_eq_iff, List.head?_reverse]
  refine and_congr_right fun _ => exists_congr fun count => ?_
  rw [List.reverse_eq_iff, List.reverse_append, List.reverse_reverse, List.reverse_replicate]

end Courier.Config
