import Courier.Proofs.Scheduler.Queue
/-!
The shutdown that leads.

There is none as long as events are taken, and exactly one from then on.  The transport is told to
shut down when its cycle returns, and the scheduler stops when it returns itself.
-/
namespace Courier.Scheduler

open Effect (closings)

/-- Replacing an element of a list exchanges its share of a count. -/
theorem countP_set_add {α : Type} {l : List α} {i : Nat} {a : α} (p : α → Bool) (b : α)
    (h : l[i]? = some a) :
    (l.set i b).countP p + (if p a then 1 else 0) = l.countP p + if p b then 1 else 0 := by
  obtain ⟨hi, rfl⟩ := List.getElem?_eq_some_iff.mp h
  have hle : (if p l[i] then 1 else 0) ≤ l.countP p := List.boole_getElem_le_countP hi
  rw [List.countP_set hi]
  omega

/-- One shutdown leads as soon as no more events are taken. -/
structure Led (m : Moment) : Prop where
  once : m.claims.countP Claimant.isShutdown + m.state.calls.countP Call.awaitsTimer =
    if m.state.phase.accepts then 0 else 1
  told : closings m.history.trace = m.history.returned.countP fun x => x.1.isShutdown
  closing : m.state.calls.countP Call.isClosing +
    (if m.state.phase = .stopped then 1 else 0) = closings m.history.trace
  finished : ∀ call : Nat, m.state.calls[call]? = some .finished → m.state.phase = .stopped

namespace Led

variable {m m' : Moment}

theorem countP_claims (m : Moment) :
    m.claims.countP Claimant.isShutdown =
      (m.history.returned.countP fun x => x.1.isShutdown) +
        m.state.line.countP Claimant.isShutdown := by
  rw [Moment.claims, List.countP_append, List.countP_map]
  rfl

/-- The transport is told to shut down at most once, and not while events are taken. -/
theorem closings_le (hl : Led m) :
    closings m.history.trace ≤ if m.state.phase.accepts then 0 else 1 := by
  have hclaims := countP_claims m
  rw [hl.told, ← hl.once, hclaims]
  omega

theorem not_accepts_of_closings (hl : Led m) (hclosings : 0 < closings m.history.trace) :
    m.state.phase.accepts = false := by
  have hle := hl.closings_le
  cases haccepts : m.state.phase.accepts with
  | false => rfl
  | true =>
      rw [if_pos haccepts] at hle
      omega

theorem closings_of_closing (hl : Led m) {call : Nat} {stats : CycleStats}
    (hcall : m.state.calls[call]? = some (.closing stats)) :
    0 < closings m.history.trace := by
  have hpos : 0 < m.state.calls.countP Call.isClosing :=
    List.countP_pos_iff.mpr ⟨.closing stats, List.mem_of_getElem? hcall, rfl⟩
  have hclosing := hl.closing
  omega

/-- Claims and calls come and go without a shutdown among them. -/
theorem of_eq (hl : Led m) (hstill : m.Still m')
    (hclaims : m'.state.line.countP Claimant.isShutdown =
      m.state.line.countP Claimant.isShutdown)
    (haccepts : m'.state.phase.accepts = m.state.phase.accepts)
    (hstopped : m'.state.phase = .stopped ↔ m.state.phase = .stopped)
    (htimer : m'.state.calls.countP Call.awaitsTimer =
      m.state.calls.countP Call.awaitsTimer)
    (hclosing : m'.state.calls.countP Call.isClosing =
      m.state.calls.countP Call.isClosing)
    (hfinished : ∀ call : Nat, m'.state.calls[call]? = some .finished →
      m.state.calls[call]? = some .finished ∨ m.state.phase = .stopped) : Led m' where
  once := by
    have honce := hl.once
    rw [countP_claims] at honce
    rw [countP_claims, hstill.returned, hclaims, htimer, haccepts, honce]
  told := by rw [hstill.closings, hstill.returned, hl.told]
  closing := by
    have hclosings := hl.closing
    simp only [hclosing, hstopped, hstill.closings, hclosings]
  finished call hcall :=
    hstopped.mpr ((hfinished call hcall).elim (hl.finished call) id)

/-- A call that is neither the leader nor done is added. -/
theorem of_append (hl : Led m) (hstill : m.Still m') {stage : Call}
    (hclaims : m'.state.line.countP Claimant.isShutdown =
      m.state.line.countP Claimant.isShutdown)
    (hphase : m'.state.phase = m.state.phase)
    (hcalls : m'.state.calls = m.state.calls ++ [stage])
    (htimer : stage.awaitsTimer = false) (hclosing : stage.isClosing = false)
    (hfinished : stage ≠ .finished) : Led m' := by
  refine hl.of_eq hstill hclaims (by rw [hphase]) (by rw [hphase]) ?_ ?_ ?_
  · simp [hcalls, htimer]
  · simp [hcalls, hclosing]
  · intro call hcall
    rw [hcalls] at hcall
    rcases getElem?_concat_cases hcall with ⟨_, hcall⟩ | ⟨_, heq⟩
    · exact Or.inl hcall
    · exact absurd heq.symm hfinished

theorem answer (hl : Led m) {claimant : Claimant} {rest : List Claimant}
    {stats : CycleStats}
    (hreturned : m'.history.returned = m.history.returned ++ [(claimant, stats)])
    (hclosings : closings m'.history.trace =
      closings m.history.trace + if claimant.isShutdown then 1 else 0)
    (hphase : m'.state.phase = m.state.phase) (hline : m.state.line = claimant :: rest)
    (hline' : m'.state.line = rest)
    (hcalls : m'.state.calls = claimant.answer stats m.state.calls)
    (hinLine : ∀ call, claimant.call? = some call →
      m.state.calls[call]? = some .inLine) : Led m' := by
  have hclaims := claims_of_returned hreturned hline hline'
  have hcounts : m'.state.calls.countP Call.awaitsTimer =
        m.state.calls.countP Call.awaitsTimer ∧
      m'.state.calls.countP Call.isClosing =
        m.state.calls.countP Call.isClosing + if claimant.isShutdown then 1 else 0 := by
    rw [hcalls]
    cases claimant with
    | timer => exact ⟨rfl, rfl⟩
    | flush call =>
        have hcall := hinLine call rfl
        exact ⟨countP_set_add Call.awaitsTimer (.flushed stats) hcall,
          countP_set_add Call.isClosing (.flushed stats) hcall⟩
    | shutdown call =>
        have hcall := hinLine call rfl
        exact ⟨countP_set_add Call.awaitsTimer (.closing stats) hcall,
          countP_set_add Call.isClosing (.closing stats) hcall⟩
  constructor
  case once => rw [hclaims, hcounts.1, hphase, hl.once]
  case told => rw [hclosings, hreturned, List.countP_append, List.countP_singleton, hl.told]
  case closing =>
    have hclosing := hl.closing
    rw [hcounts.2, hphase, hclosings]
    omega
  case finished =>
    intro call hcall
    rw [hphase]
    rw [hcalls] at hcall
    cases claimant with
    | timer => exact hl.finished call hcall
    | flush own => exact hl.finished call ((getElem?_set_cases hcall).resolve_right Call.noConfusion)
    | shutdown own =>
        exact hl.finished call ((getElem?_set_cases hcall).resolve_right Call.noConfusion)

theorem begun (hl : Led m) (hstill : m.Still m') (haccepts : m.state.phase.accepts = true)
    (hphase : m'.state.phase = .draining) (hline : m'.state.line = m.state.line)
    (hcalls : m'.state.calls = m.state.calls ++ [.awaitingTimer]) : Led m' := by
  have honce := hl.once
  have hopen : m.state.phase ≠ .stopped := by
    intro hstopped
    rw [hstopped] at haccepts
    cases haccepts
  have htimer : (m.state.calls ++ [Call.awaitingTimer]).countP Call.awaitsTimer =
      m.state.calls.countP Call.awaitsTimer + 1 := List.countP_append
  rw [if_pos haccepts, countP_claims] at honce
  constructor
  case once =>
    rw [countP_claims, hstill.returned, hline, hcalls, htimer, hphase, if_neg (by decide)]
    omega
  case told => rw [hstill.closings, hstill.returned, hl.told]
  case closing =>
    rw [hstill.closings, ← hl.closing, if_neg hopen, hcalls, hphase, if_neg (by decide)]
    exact List.countP_append
  case finished =>
    intro call hcall
    rw [hcalls] at hcall
    rcases getElem?_concat_cases hcall with ⟨_, hcall⟩ | ⟨_, heq⟩
    · exact absurd (hl.finished call hcall) hopen
    · cases heq

theorem lined (hl : Led m) (hstill : m.Still m') {call : Nat}
    (hcall : m.state.calls[call]? = some .awaitingTimer)
    (hphase : m'.state.phase = m.state.phase)
    (hline : m'.state.line = m.state.line ++ [.shutdown call])
    (hcalls : m'.state.calls = m.state.calls.set call .inLine) : Led m' := by
  have honce := hl.once
  have hshutdown : (m.state.line ++ [Claimant.shutdown call]).countP Claimant.isShutdown =
      m.state.line.countP Claimant.isShutdown + 1 := List.countP_append
  have htimer : (m.state.calls.set call .inLine).countP Call.awaitsTimer + 1 =
      m.state.calls.countP Call.awaitsTimer :=
    countP_set_add Call.awaitsTimer .inLine hcall
  have hclosing : (m.state.calls.set call .inLine).countP Call.isClosing =
      m.state.calls.countP Call.isClosing :=
    countP_set_add Call.isClosing .inLine hcall
  rw [countP_claims, ← htimer] at honce
  constructor
  case once =>
    rw [countP_claims, hstill.returned, hline, hshutdown, hcalls, hphase, ← honce]
    omega
  case told => rw [hstill.closings, hstill.returned, hl.told]
  case closing => rw [hstill.closings, ← hl.closing, hcalls, hclosing, hphase]
  case finished =>
    intro other hother
    rw [hcalls] at hother
    rw [hphase]
    exact hl.finished other ((getElem?_set_cases hother).resolve_right Call.noConfusion)

theorem finish (hl : Led m) (hstill : m.Still m') {call : Nat} {stats : CycleStats}
    (hcall : m.state.calls[call]? = some (.closing stats))
    (hphase : m'.state.phase = .stopped) (hline : m'.state.line = m.state.line)
    (hcalls : m'.state.calls = m.state.calls.set call .finished) : Led m' := by
  have honce := hl.once
  have hclosing := hl.closing
  have hle := hl.closings_le
  have hshut := hl.not_accepts_of_closings (hl.closings_of_closing hcall)
  have htimer : (m.state.calls.set call .finished).countP Call.awaitsTimer =
      m.state.calls.countP Call.awaitsTimer :=
    countP_set_add Call.awaitsTimer .finished hcall
  have hcount : (m.state.calls.set call .finished).countP Call.isClosing + 1 =
      m.state.calls.countP Call.isClosing :=
    countP_set_add Call.isClosing .finished hcall
  rw [countP_claims, hshut, if_neg Bool.false_ne_true] at honce
  rw [hshut, if_neg Bool.false_ne_true] at hle
  constructor
  case once =>
    rw [countP_claims, hstill.returned, hline, hcalls, htimer, hphase, if_neg (by decide),
      honce]
  case told => rw [hstill.closings, hstill.returned, hl.told]
  case closing =>
    rw [hstill.closings, hcalls, hphase, if_pos rfl]
    omega
  case finished => exact fun _ _ => hphase

theorem step (hq : Queued m) (hl : Led m) (h : CallStep m m') : Led m' := by
  cases h with
  | aside hstill hphase hline hcalls =>
      have hphases : m'.state.phase.accepts = m.state.phase.accepts ∧
          (m'.state.phase = .stopped ↔ m.state.phase = .stopped) := by
        rcases hphase with hphase | ⟨hidle, hrunning⟩
        · rw [hphase]
          exact ⟨rfl, Iff.rfl⟩
        · rw [hidle, hrunning]
          exact ⟨rfl, by decide⟩
      exact hl.of_eq hstill (by rw [hline]) hphases.1 hphases.2 (by rw [hcalls])
        (by rw [hcalls]) fun call hcall => Or.inl (hcalls ▸ hcall)
  | tick hstill hphase hline hcalls =>
      exact hl.of_eq hstill (by simp [hline, Claimant.isShutdown]) (by rw [hphase])
        (by rw [hphase]) (by rw [hcalls]) (by rw [hcalls])
        fun call hcall => Or.inl (hcalls ▸ hcall)
  | flushQueued hstill hphase hstate =>
      exact hl.of_append hstill (by simp [hstate, Claimant.isShutdown]) (by rw [hstate])
        (by rw [hstate]) rfl rfl Call.noConfusion
  | flushSkipped hstill hphase hstate =>
      exact hl.of_append hstill (by rw [hstate]) (by rw [hstate]) (by rw [hstate]) rfl rfl
        Call.noConfusion
  | shutdownBegun hstill hphase hstate =>
      exact hl.begun hstill hphase (by rw [hstate]) (by rw [hstate]) (by rw [hstate])
  | shutdownJoined hstill hphase hstate =>
      exact hl.of_append hstill (by rw [hstate]) (by rw [hstate]) (by rw [hstate]) rfl rfl
        Call.noConfusion
  | cycleReturned claimant rest stats hreturned hclosings hphase hline hline' hcalls =>
      exact hl.answer hreturned hclosings hphase hline hline' hcalls
        (hq.waiting claimant (hline ▸ List.mem_cons_self))
  | timerGone call hstill hcall hstate =>
      exact hl.lined hstill hcall (by rw [hstate]; rfl) (by rw [hstate]) (by rw [hstate]; rfl)
  | transportClosed call stats hstill hcall hstate =>
      exact hl.finish hstill hcall (by rw [hstate]) (by rw [hstate]; rfl) (by rw [hstate]; rfl)
  | stopSeen call hstill hcall hphase hstate =>
      refine hl.of_eq hstill (by rw [hstate]; rfl) (by rw [hstate]; rfl) (by rw [hstate]; rfl)
        ?_ ?_ fun _ _ => Or.inr hphase
      · rw [hstate]
        exact countP_set_add Call.awaitsTimer .finished hcall
      · rw [hstate]
        exact countP_set_add Call.isClosing .finished hcall

end Led

end Courier.Scheduler
