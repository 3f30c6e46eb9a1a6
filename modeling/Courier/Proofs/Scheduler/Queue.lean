import Courier.Proofs.Scheduler.Calls
/-!
The line and the calls behind it.

A call asks for a cycle at most once, waits in line for it, and keeps what it was answered.  Of all
shutdowns one leads, from its wait for the timer through the final cycle to the end of the transport.
-/
namespace Courier.Scheduler

open Effect (closings)

namespace Call

/-- The call is in line for a cycle, or was. -/
def claims : Call → Bool
  | .inLine | .flushed _ | .closing _ | .finished => true
  | .awaitingTimer | .awaitingStop | .abandoned => false

def awaitsTimer : Call → Bool
  | .awaitingTimer => true
  | _ => false

def isClosing : Call → Bool
  | .closing _ => true
  | _ => false

end Call

section Stages

variable {calls calls' : List Call} {call : Nat}

/-- The calls that asked for a cycle stay at their stages. -/
def Keep (calls calls' : List Call) : Prop :=
  ∀ (call : Nat) (stage : Call), stage.claims = true → calls[call]? = some stage →
    calls'[call]? = some stage

theorem keep_of_eq (hcalls : calls' = calls) : Keep calls calls' :=
  fun _ _ _ hcall => hcalls ▸ hcall

theorem keep_append (calls more : List Call) : Keep calls (calls ++ more) := by
  intro call stage _ hcall
  have hlt : call < calls.length := (List.getElem?_eq_some_iff.mp hcall).1
  rw [List.getElem?_append_left hlt, hcall]

theorem keep_set {stage : Call} (hcall : calls[call]? = some stage)
    (hstage : stage.claims = false) (stage' : Call) :
    Keep calls (calls.set call stage') := by
  intro other stage'' hclaims hother
  apply getElem?_set_of_ne hcall hother
  intro heq
  rw [← heq, hstage] at hclaims
  cases hclaims

/-- The call behind a claimant was answered. -/
def Claimant.Answered (claimant : Claimant) (stats : CycleStats) (calls : List Call) :
    Prop :=
  match claimant with
  | .timer => True
  | .flush call => calls[call]? = some (.flushed stats)
  | .shutdown call => calls[call]? = some (.closing stats) ∨ calls[call]? = some .finished

theorem Claimant.Answered.keep {claimant : Claimant} {stats : CycleStats}
    (h : claimant.Answered stats calls) (hkeep : Keep calls calls') :
    claimant.Answered stats calls' := by
  cases claimant with
  | timer => exact h
  | flush call => exact hkeep call _ rfl h
  | shutdown call => exact h.imp (hkeep call _ rfl) (hkeep call _ rfl)

theorem Claimant.Answered.claims {claimant : Claimant} {stats : CycleStats}
    (h : claimant.Answered stats calls) (hcall : claimant.call? = some call) :
    ∃ stage, calls[call]? = some stage ∧ stage.claims = true ∧ stage ≠ .inLine := by
  cases claimant with
  | timer => cases hcall
  | flush call => cases hcall; exact ⟨_, h, rfl, Call.noConfusion⟩
  | shutdown call =>
      cases hcall
      rcases h with h | h
      · exact ⟨_, h, rfl, Call.noConfusion⟩
      · exact ⟨_, h, rfl, Call.noConfusion⟩

theorem Claimant.getElem?_answer_of_ne {claimant : Claimant} (stats : CycleStats)
    (calls : List Call) (hcall : claimant.call? ≠ some call) :
    (claimant.answer stats calls)[call]? = calls[call]? := by
  cases claimant with
  | timer => rfl
  | flush own => exact List.getElem?_set_ne fun heq => hcall (congrArg some heq)
  | shutdown own => exact List.getElem?_set_ne fun heq => hcall (congrArg some heq)

theorem Claimant.answered_answer {claimant : Claimant} (stats : CycleStats)
    (hcall : ∀ call, claimant.call? = some call → call < calls.length) :
    claimant.Answered stats (claimant.answer stats calls) := by
  cases claimant with
  | timer => trivial
  | flush call => exact List.getElem?_set_self (hcall call rfl)
  | shutdown call => exact Or.inl (List.getElem?_set_self (hcall call rfl))

/-- No two claimants have one call behind them. -/
theorem call?_ne_of_distinct {before after : List Claimant} {claimant x : Claimant}
    (hdistinct : ((before ++ claimant :: after).filterMap Claimant.call?).Nodup)
    (hx : x ∈ before ∨ x ∈ after) (hcall : x.call? = some call) :
    claimant.call? ≠ some call := by
  intro heq
  rw [List.filterMap_append, List.filterMap_cons_some heq, List.nodup_append,
    List.nodup_cons] at hdistinct
  obtain ⟨_, ⟨hafter, _⟩, hbefore⟩ := hdistinct
  rcases hx with hx | hx
  · exact hbefore call (List.mem_filterMap.mpr ⟨x, hx, hcall⟩) call List.mem_cons_self rfl
  · exact hafter (List.mem_filterMap.mpr ⟨x, hx, hcall⟩)

end Stages

/-- The line and the calls behind it are in order. -/
structure Queued (m : Moment) : Prop where
  distinct : (m.claims.filterMap Claimant.call?).Nodup
  waiting : ∀ x ∈ m.state.line, ∀ call, x.call? = some call →
    m.state.calls[call]? = some .inLine
  answered : ∀ x ∈ m.history.returned, x.1.Answered x.2 m.state.calls

namespace Queued

variable {m m' : Moment}

/-- Whoever asked for a cycle has a call that asked for one. -/
theorem claims_of_mem (hq : Queued m) {call : Nat}
    (hcall : call ∈ m.claims.filterMap Claimant.call?) :
    ∃ stage, m.state.calls[call]? = some stage ∧ stage.claims = true := by
  obtain ⟨x, hx, hcall⟩ := List.mem_filterMap.mp hcall
  rcases List.mem_append.mp hx with hx | hx
  · obtain ⟨y, hy, rfl⟩ := List.mem_map.mp hx
    obtain ⟨stage, hstage, hclaims, _⟩ := (hq.answered y hy).claims hcall
    exact ⟨stage, hstage, hclaims⟩
  · exact ⟨.inLine, hq.waiting x hx call hcall, rfl⟩

/-- Nobody, or somebody with a call that never asked before, gets in line. -/
theorem grow (hq : Queued m) (hstill : m.Still m') {more : List Claimant}
    (hline : m'.state.line = m.state.line ++ more)
    (hkeep : Keep m.state.calls m'.state.calls)
    (hdistinct : (more.filterMap Claimant.call?).Nodup)
    (hmore : ∀ call ∈ more.filterMap Claimant.call?,
      m'.state.calls[call]? = some .inLine ∧
        ∀ stage, m.state.calls[call]? = some stage → stage.claims = false) :
    Queued m' where
  distinct := by
    rw [hstill.claims hline, List.filterMap_append]
    apply List.nodup_append.mpr
    refine ⟨hq.distinct, hdistinct, ?_⟩
    intro call hold _ hnew heq
    subst heq
    obtain ⟨stage, hstage, hclaims⟩ := hq.claims_of_mem hold
    rw [(hmore call hnew).2 stage hstage] at hclaims
    cases hclaims
  waiting := by
    intro x hx call hcall
    rw [hline, List.mem_append] at hx
    rcases hx with hx | hx
    · exact hkeep call _ rfl (hq.waiting x hx call hcall)
    · exact (hmore call (List.mem_filterMap.mpr ⟨x, hx, hcall⟩)).1
  answered := by
    rw [hstill.returned]
    exact fun x hx => (hq.answered x hx).keep hkeep

theorem keep (hq : Queued m) (hstill : m.Still m') (hline : m'.state.line = m.state.line)
    (hkeep : Keep m.state.calls m'.state.calls) : Queued m' :=
  hq.grow hstill (hline.trans (List.append_nil _).symm) hkeep List.nodup_nil
    fun _ hcall => absurd hcall List.not_mem_nil

theorem answer (hq : Queued m) {claimant : Claimant} {rest : List Claimant}
    {stats : CycleStats}
    (hreturned : m'.history.returned = m.history.returned ++ [(claimant, stats)])
    (hline : m.state.line = claimant :: rest) (hline' : m'.state.line = rest)
    (hcalls : m'.state.calls = claimant.answer stats m.state.calls) : Queued m' := by
  have hclaims := claims_of_returned hreturned hline hline'
  have hsplit := hq.distinct
  rw [Moment.claims, hline] at hsplit
  constructor
  case distinct =>
    rw [hclaims]
    exact hq.distinct
  case waiting =>
    intro x hx call hcall
    rw [hline'] at hx
    have hne := call?_ne_of_distinct hsplit (Or.inr hx) hcall
    rw [hcalls, Claimant.getElem?_answer_of_ne stats _ hne]
    exact hq.waiting x (hline ▸ List.mem_cons_of_mem _ hx) call hcall
  case answered =>
    intro x hx
    rw [hreturned, List.mem_append, List.mem_singleton] at hx
    rw [hcalls]
    rcases hx with hx | rfl
    · have hold := hq.answered x hx
      have hne : ∀ call, x.1.call? = some call → claimant.call? ≠ some call :=
        fun call => call?_ne_of_distinct hsplit (Or.inl (List.mem_map_of_mem hx))
      obtain ⟨owner, stats'⟩ := x
      cases owner with
      | timer => trivial
      | flush call =>
          exact (Claimant.getElem?_answer_of_ne stats _ (hne call rfl)).trans hold
      | shutdown call =>
          have hcall := Claimant.getElem?_answer_of_ne stats m.state.calls (hne call rfl)
          exact hold.imp hcall.trans hcall.trans
    · apply Claimant.answered_answer
      intro call hcall
      have hinLine := hq.waiting claimant (hline ▸ List.mem_cons_self) call hcall
      exact (List.getElem?_eq_some_iff.mp hinLine).1

theorem finish (hq : Queued m) (hstill : m.Still m') {call : Nat} {stats : CycleStats}
    (hcall : m.state.calls[call]? = some (.closing stats))
    (hline : m'.state.line = m.state.line)
    (hcalls : m'.state.calls = m.state.calls.set call .finished) : Queued m' := by
  have hother : ∀ {other : Nat} {stage : Call}, m.state.calls[other]? = some stage →
      stage ≠ .closing stats → m'.state.calls[other]? = some stage := by
    intro other stage hstage hne
    rw [hcalls]
    exact getElem?_set_of_ne hcall hstage hne.symm _
  have hlt : call < m.state.calls.length := (List.getElem?_eq_some_iff.mp hcall).1
  constructor
  case distinct =>
    rw [Moment.claims, hstill.returned, hline]
    exact hq.distinct
  case waiting =>
    intro x hx own hown
    exact hother (hq.waiting x (hline ▸ hx) own hown) Call.noConfusion
  case answered =>
    rw [hstill.returned]
    intro x hx
    have hold := hq.answered x hx
    obtain ⟨owner, stats'⟩ := x
    cases owner with
    | timer => trivial
    | flush own => exact hother hold Call.noConfusion
    | shutdown own =>
        by_cases heq : call = own
        · subst heq
          exact Or.inr (by rw [hcalls, List.getElem?_set_self hlt])
        · refine hold.imp (fun h => ?_) (fun h => ?_)
          · rw [hcalls, List.getElem?_set_ne heq, h]
          · rw [hcalls, List.getElem?_set_ne heq, h]

theorem step (hq : Queued m) (h : CallStep m m') : Queued m' := by
  cases h with
  | aside hstill hphase hline hcalls =>
      exact hq.keep hstill hline (keep_of_eq hcalls)
  | tick hstill hphase hline hcalls =>
      refine hq.grow hstill hline (keep_of_eq hcalls) List.nodup_nil ?_
      exact fun call hcall => absurd hcall List.not_mem_nil
  | flushQueued hstill hphase hstate =>
      have hline : m'.state.line = m.state.line ++ [.flush m.state.nextCall] := by
        rw [hstate]
      refine hq.grow hstill hline (by rw [hstate]; exact keep_append _ _)
        (List.nodup_cons.mpr ⟨List.not_mem_nil, List.nodup_nil⟩) ?_
      intro call hcall
      have hnew : call = m.state.calls.length := List.mem_singleton.mp hcall
      subst hnew
      refine ⟨by rw [hstate]; exact List.getElem?_concat_length, fun stage hstage => ?_⟩
      have hlt := (List.getElem?_eq_some_iff.mp hstage).1
      exact absurd hlt (Nat.lt_irrefl _)
  | flushSkipped hstill hphase hstate =>
      exact hq.keep hstill (by rw [hstate]) (by rw [hstate]; exact keep_append _ _)
  | shutdownBegun hstill hphase hstate =>
      exact hq.keep hstill (by rw [hstate]) (by rw [hstate]; exact keep_append _ _)
  | shutdownJoined hstill hphase hstate =>
      exact hq.keep hstill (by rw [hstate]) (by rw [hstate]; exact keep_append _ _)
  | cycleReturned claimant rest stats hreturned hclosings hphase hline hline' hcalls =>
      exact hq.answer hreturned hline hline' hcalls
  | timerGone call hstill hcall hstate =>
      have hline : m'.state.line = m.state.line ++ [.shutdown call] := by rw [hstate]
      refine hq.grow hstill hline (by rw [hstate]; exact keep_set hcall rfl _)
        (List.nodup_cons.mpr ⟨List.not_mem_nil, List.nodup_nil⟩) ?_
      intro call' hcall'
      have hnew : call' = call := List.mem_singleton.mp hcall'
      subst hnew
      have hlt := (List.getElem?_eq_some_iff.mp hcall).1
      refine ⟨by rw [hstate]; exact List.getElem?_set_self hlt, fun stage hstage => ?_⟩
      rw [hcall, Option.some.injEq] at hstage
      rw [← hstage]
      rfl
  | transportClosed call stats hstill hcall hstate =>
      exact hq.finish hstill hcall (by rw [hstate]; rfl) (by rw [hstate]; rfl)
  | stopSeen call hstill hcall hphase hstate =>
      exact hq.keep hstill (by rw [hstate]; rfl)
        (by rw [hstate]; exact keep_set hcall rfl _)

end Queued

end Courier.Scheduler
