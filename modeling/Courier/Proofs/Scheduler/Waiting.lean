import Courier.Proofs.Scheduler.Standing
/-!
Who waits for whom.

The timer, the calls and the batches of a cycle wait for one another: in line for whoever runs a
cycle, for the batches of that cycle, for the timer to end, and for the shutdown that leads.  Every
wait goes down a ladder, and whoever waits cannot act.
-/
namespace Courier.Scheduler

/-- Who waits, and who is waited for. -/
inductive Party where
  | timer
  | call (number : Nat)
  | batch (place : Nat)
  deriving DecidableEq

/-- On whose behalf a claimant stands in line. -/
def Claimant.party : Claimant → Party
  | .timer => .timer
  | .flush call | .shutdown call => .call call

theorem Claimant.party_eq_call {x : Claimant} {call : Nat} :
    x.party = .call call ↔ x.call? = some call := by
  cases x <;> simp [party, call?]

theorem Claimant.party_eq_timer {x : Claimant} : x.party = .timer ↔ x = .timer := by
  cases x <;> simp [party]

theorem Claimant.party_ne_batch (x : Claimant) (place : Nat) : x.party ≠ .batch place := by
  cases x <;> exact Party.noConfusion

/-- The caller has nothing back yet. -/
def Call.pending : Call → Bool
  | .inLine | .awaitingTimer | .closing _ | .awaitingStop => true
  | .flushed _ | .finished | .abandoned => false

/-- How high a call that is not the head of the line stands on the ladder of the waits. -/
def Call.rank : Call → Nat
  | .awaitingTimer => 3
  | .awaitingStop => 4
  | _ => 2

/-- Who acts. -/
def Action.party? (s : State) : Action → Option Party
  | .tick _ | .leaveTimer => some .timer
  | .beginCycle _ | .endCycle _ => s.line.head?.map Claimant.party
  | .resume place | .receive place _ _ => some (.batch place)
  | .timerGone call | .transportClosed call _ | .stopSeen call => some (.call call)
  | .enqueue _ | .start _ _ | .beginFlush | .beginShutdown => none
  | .abandon _ | .takeOut _ | .discard => none

/-- The action needs nothing from outside, and happens at a time of the clock. -/
def Action.prompt (now : Nat) : Action → Bool
  | .leaveTimer | .timerGone _ | .stopSeen _ => true
  | .beginCycle time | .endCycle time => time == now
  | _ => false

namespace State

/-- Somebody has something left to do, or to wait for. -/
def unfinished (s : State) : Party → Bool
  | .timer => !s.timer.isGone
  | .call number => s.calls[number]?.any Call.pending
  | .batch place => (s.delivery? place).any fun d => !d.stage.finished

/-- Who waits for whom. -/
inductive Waits (s : State) : Party → Party → Prop
  /-- In line for the one whose turn it is. -/
  | line (owner : Claimant) (rest : List Claimant) (x : Claimant)
      (hline : s.line = owner :: rest) (hx : x ∈ rest) : Waits s x.party owner.party
  /-- For the batches of its cycle. -/
  | batch (owner : Claimant) (rest : List Claimant) (place : Nat) (d : Delivery)
      (hline : s.line = owner :: rest) (hd : s.delivery? place = some d)
      (hunfinished : d.stage.finished = false) : Waits s owner.party (.batch place)
  /-- The shutdown that leads, for the timer to end. -/
  | timer (call : Nat) (hcall : s.calls[call]? = some .awaitingTimer)
      (htimer : s.timer.isGone = false) : Waits s (.call call) .timer
  /-- A later shutdown, for the one that leads. -/
  | stop (call leader : Nat) (hcall : s.calls[call]? = some .awaitingStop)
      (hphase : s.phase ≠ .stopped) (hleader : s.Leads leader) :
      Waits s (.call call) (.call leader)

/-- The ladder of the waits: batches, the head of the line, whoever else is in line and the timer, the
shutdown that waits for the timer, and the shutdowns that wait for that one. -/
def rank (s : State) (p : Party) : Nat :=
  if s.line.head?.map Claimant.party = some p then 1
  else
    match p with
    | .batch _ => 0
    | .timer => 2
    | .call number => (s.calls[number]?.map Call.rank).getD 2

end State

/-- What it takes to act. -/
theorem Turn.party_cases {settings : Settings} {s s' : State} {action : Action}
    {effects : List Effect} {p : Party} (hturn : Turn settings s action s' effects)
    (hparty : action.party? s = some p) :
    (p = .timer ∧ s.timer.isBusy = false) ∨
      (∃ owner rest, s.line = owner :: rest ∧ p = owner.party ∧
        ∀ cycle, s.cycle = some cycle → cycle.finished = true) ∨
      (∃ place, p = .batch place) ∨
      ∃ call stage, p = .call call ∧ s.calls[call]? = some stage ∧ stage ≠ .inLine ∧
        (stage = .awaitingTimer → s.timer.isGone = true) ∧
        (stage = .awaitingStop → s.phase = .stopped) := by
  have hhead : ∀ {owner : Claimant} {rest : List Claimant}, s.line = owner :: rest →
      s.line.head?.map Claimant.party = some p → p = owner.party := by
    intro owner rest hline hhead
    rw [hline] at hhead
    exact (Option.some.inj hhead).symm
  cases hturn with
  | tick due now htimer hphase hdue =>
      exact Or.inl ⟨(Option.some.inj hparty).symm, by rw [htimer]; rfl⟩
  | leaveTimer due htimer hphase =>
      exact Or.inl ⟨(Option.some.inj hparty).symm, by rw [htimer]; rfl⟩
  | beginCycle owner rest now hline hcycle hsome =>
      refine Or.inr (Or.inl ⟨owner, rest, hline, hhead hline hparty, ?_⟩)
      exact fun cycle heq => by simp [hcycle] at heq
  | emptyCycle owner rest now hline hcycle hnone =>
      refine Or.inr (Or.inl ⟨owner, rest, hline, hhead hline hparty, ?_⟩)
      exact fun cycle heq => by simp [hcycle] at heq
  | endCycle owner rest cycle now hline hcycle hfinished =>
      refine Or.inr (Or.inl ⟨owner, rest, hline, hhead hline hparty, ?_⟩)
      intro cycle' heq
      rw [hcycle, Option.some.injEq] at heq
      exact heq ▸ hfinished
  | resume cycle place d d' effects hcycle hd hresume =>
      exact Or.inr (Or.inr (Or.inl ⟨place, (Option.some.inj hparty).symm⟩))
  | receive cycle place answer draw d d' effects hcycle hd hreceive =>
      exact Or.inr (Or.inr (Or.inl ⟨place, (Option.some.inj hparty).symm⟩))
  | timerGone call hcall htimer =>
      refine Or.inr (Or.inr (Or.inr ⟨call, _, (Option.some.inj hparty).symm, hcall, ?_⟩))
      exact ⟨Call.noConfusion, fun _ => htimer, Call.noConfusion⟩
  | transportClosed call stats failure hcall =>
      refine Or.inr (Or.inr (Or.inr ⟨call, _, (Option.some.inj hparty).symm, hcall, ?_⟩))
      exact ⟨Call.noConfusion, Call.noConfusion, Call.noConfusion⟩
  | stopSeen call hcall hphase =>
      refine Or.inr (Or.inr (Or.inr ⟨call, _, (Option.some.inj hparty).symm, hcall, ?_⟩))
      exact ⟨Call.noConfusion, Call.noConfusion, fun _ => hphase⟩
  | _ => cases hparty

theorem Action.ordinary_of_party {s : State} {action : Action} {p : Party}
    (hparty : action.party? s = some p) : action.ordinary = true := by
  cases action <;> first | rfl | cases hparty

namespace Standing

variable {settings : Settings} {m : Moment} {p q : Party}

/-- The call behind somebody in line waits for its cycle. -/
theorem inLine_of_mem (hs : Standing settings m) {x : Claimant} (hx : x ∈ m.state.line)
    {call : Nat} (hparty : x.party = .call call) : m.state.calls[call]? = some .inLine :=
  hs.sound.queued.waiting x hx call (Claimant.party_eq_call.mp hparty)

/-- Nobody is in line twice. -/
theorem party_ne_of_split (hs : Standing settings m) {x y : Claimant} {before after : List Claimant}
    (hsplit : m.state.line = before ++ y :: after) (hx : x ∈ before ∨ x ∈ after) :
    x.party ≠ y.party := by
  intro heq
  cases howner : y.party with
  | timer =>
      obtain rfl := Claimant.party_eq_timer.mp howner
      obtain rfl := Claimant.party_eq_timer.mp heq
      have hcount := hs.timed.inLine
      have hle : (if m.state.timer.isBusy then 1 else 0) ≤ 1 := by split <;> omega
      have hpos : 0 < before.count .timer + after.count .timer :=
        hx.elim (fun hx => Nat.add_pos_left (List.count_pos_iff.mpr hx) _)
          fun hx => Nat.add_pos_right _ (List.count_pos_iff.mpr hx)
      rw [hsplit, List.count_append, List.count_cons_self] at hcount
      omega
  | call number =>
      have hdistinct := hs.sound.queued.distinct
      rw [Moment.claims, hsplit, ← List.append_assoc] at hdistinct
      exact call?_ne_of_distinct hdistinct (hx.imp_left (List.mem_append_right _))
        (Claimant.party_eq_call.mp (heq.trans howner)) (Claimant.party_eq_call.mp howner)
  | batch place => exact y.party_ne_batch place howner

theorem party_ne_of_mem (hs : Standing settings m) {owner x : Claimant} {rest : List Claimant}
    (hline : m.state.line = owner :: rest) (hx : x ∈ rest) : x.party ≠ owner.party :=
  hs.party_ne_of_split (hline.trans (List.nil_append _).symm) (Or.inr hx)

theorem eq_of_party (hs : Standing settings m) {x y : Claimant} (hx : x ∈ m.state.line)
    (hy : y ∈ m.state.line) (hparty : x.party = y.party) : x = y := by
  by_contra hne
  obtain ⟨before, after, hsplit⟩ := List.append_of_mem hy
  rw [hsplit, List.mem_append, List.mem_cons] at hx
  exact hs.party_ne_of_split hsplit (hx.imp_right fun hx => hx.resolve_left hne) hparty

theorem unfinished_of_mem (hs : Standing settings m) {x : Claimant} (hx : x ∈ m.state.line) :
    m.state.unfinished x.party = true := by
  cases hparty : x.party with
  | timer =>
      obtain rfl := Claimant.party_eq_timer.mp hparty
      simp [State.unfinished, Timer.isGone_of_isBusy (hs.timed.mem_line_iff.mp hx)]
  | call number => simp [State.unfinished, hs.inLine_of_mem hx hparty, Call.pending]
  | batch place => exact absurd hparty (x.party_ne_batch place)

theorem unfinished_of_leads (hs : Standing settings m) {call : Nat} (hleads : m.state.Leads call) :
    m.state.unfinished (.call call) = true := by
  rcases hleads with hcall | hline | ⟨stats, hcall⟩
  · simp [State.unfinished, hcall, Call.pending]
  · exact hs.unfinished_of_mem hline
  · simp [State.unfinished, hcall, Call.pending]

/-- Nobody waits who is done, and nobody waits for somebody who is done. -/
theorem unfinished_of_waits (hs : Standing settings m) (h : m.state.Waits p q) :
    m.state.unfinished p = true ∧ m.state.unfinished q = true := by
  cases h with
  | line owner rest x hline hx =>
      exact ⟨hs.unfinished_of_mem (hline ▸ List.mem_cons_of_mem _ hx),
        hs.unfinished_of_mem (hline ▸ List.mem_cons_self)⟩
  | batch owner rest place d hline hd hunfinished =>
      exact ⟨hs.unfinished_of_mem (hline ▸ List.mem_cons_self),
        by simp [State.unfinished, hd, hunfinished]⟩
  | timer call hcall htimer =>
      exact ⟨by simp [State.unfinished, hcall, Call.pending], by simp [State.unfinished, htimer]⟩
  | stop call leader hcall hphase hleader =>
      exact ⟨by simp [State.unfinished, hcall, Call.pending], hs.unfinished_of_leads hleader⟩

/-- Whoever waits cannot act. -/
theorem blocked_of_waits (hs : Standing settings m) (h : m.state.Waits p q) {action : Action}
    (hparty : action.party? m.state = some p) : m.next? settings action = none := by
  by_contra hne
  obtain ⟨m', hnext⟩ := Option.ne_none_iff_exists'.mp hne
  obtain ⟨⟨s', effects⟩, hstep, _⟩ := Option.map_eq_some_iff.mp hnext
  have hcases := (turn_of_step (Action.ordinary_of_party hparty) hstep).party_cases hparty
  -- A call that is the head of the line is in line, and so is the timer.
  have hmember : ∀ {x : Claimant}, x ∈ m.state.line → p = x.party →
      ∃ owner rest, m.state.line = owner :: rest ∧ p = owner.party ∧
        ∀ cycle, m.state.cycle = some cycle → cycle.finished = true := by
    rintro x hx rfl
    rcases hcases with ⟨htimer, hbusy⟩ | howner | ⟨place, hbatch⟩ |
      ⟨call, stage, hcall, hstage, hne, _⟩
    · rw [Claimant.party_eq_timer.mp htimer, hs.timed.mem_line_iff, hbusy] at hx
      cases hx
    · exact howner
    · exact absurd hbatch (x.party_ne_batch place)
    · rw [hs.inLine_of_mem hx hcall, Option.some.injEq] at hstage
      exact absurd hstage.symm hne
  have hcaller : ∀ {call : Nat} {stage : Call}, p = .call call →
      m.state.calls[call]? = some stage → stage ≠ .inLine →
      (stage = .awaitingTimer → m.state.timer.isGone = true) ∧
        (stage = .awaitingStop → m.state.phase = .stopped) := by
    rintro call stage rfl hstage hne
    rcases hcases with ⟨htimer, _⟩ | ⟨owner, rest, hline, hcall, _⟩ | ⟨place, hbatch⟩ |
      ⟨call', stage', hcall, hstage', _, hgone, hstopped⟩
    · cases htimer
    · rw [hs.inLine_of_mem (hline ▸ List.mem_cons_self) hcall.symm, Option.some.injEq] at hstage
      exact absurd hstage.symm hne
    · cases hbatch
    · cases hcall
      rw [hstage, Option.some.injEq] at hstage'
      exact hstage' ▸ ⟨hgone, hstopped⟩
  cases h with
  | line owner rest x hline hx =>
      obtain ⟨owner', rest', hline', hparty, _⟩ :=
        hmember (hline ▸ List.mem_cons_of_mem _ hx) rfl
      rw [hline, List.cons.injEq] at hline'
      exact hs.party_ne_of_mem hline hx (hparty.trans (hline'.1 ▸ rfl))
  | batch owner rest place d hline hd hunfinished =>
      obtain ⟨_, _, _, _, hfinished⟩ := hmember (hline ▸ List.mem_cons_self) rfl
      obtain ⟨cycle, hcycle, hplace⟩ := Option.bind_eq_some_iff.mp hd
      have hdone := List.all_eq_true.mp (hfinished cycle hcycle) d (List.mem_of_getElem? hplace)
      rw [hunfinished] at hdone
      cases hdone
  | timer call hcall htimer =>
      have hgone := (hcaller rfl hcall Call.noConfusion).1 rfl
      rw [htimer] at hgone
      cases hgone
  | stop call leader hcall hphase hleader =>
      exact hphase ((hcaller rfl hcall Call.noConfusion).2 rfl)

theorem rank_owner {owner : Claimant} {rest : List Claimant}
    (hline : m.state.line = owner :: rest) : m.state.rank owner.party = 1 := by
  simp [State.rank, hline]

theorem rank_batch (place : Nat) : m.state.rank (.batch place) = 0 := by
  have hhead : m.state.line.head?.map Claimant.party ≠ some (.batch place) := by
    intro heq
    obtain ⟨x, _, hx⟩ := Option.map_eq_some_iff.mp heq
    exact x.party_ne_batch place hx
  rw [State.rank, if_neg hhead]

/-- A call that is not in line is not the head of the line. -/
theorem rank_of_call (hs : Standing settings m) {call : Nat} {stage : Call}
    (hcall : m.state.calls[call]? = some stage) (hne : stage ≠ .inLine) :
    m.state.rank (.call call) = stage.rank := by
  have hhead : m.state.line.head?.map Claimant.party ≠ some (.call call) := by
    intro heq
    obtain ⟨x, hx, hparty⟩ := Option.map_eq_some_iff.mp heq
    have hinLine := hs.inLine_of_mem (List.mem_of_head? hx) hparty
    rw [hcall, Option.some.injEq] at hinLine
    exact hne hinLine
  rw [State.rank, if_neg hhead]
  simp only [hcall, Option.map_some, Option.getD_some]

/-- Behind the head of the line everybody stands on the same rung. -/
theorem rank_of_rest (hs : Standing settings m) {owner x : Claimant} {rest : List Claimant}
    (hline : m.state.line = owner :: rest) (hx : x ∈ rest) : m.state.rank x.party = 2 := by
  have hhead : m.state.line.head?.map Claimant.party ≠ some x.party := by
    rw [hline]
    exact fun heq => hs.party_ne_of_mem hline hx (Option.some.inj heq).symm
  cases hparty : x.party with
  | timer => rw [State.rank, if_neg (hparty ▸ hhead)]
  | call number =>
      have hinLine := hs.inLine_of_mem (hline ▸ List.mem_cons_of_mem _ hx) hparty
      rw [State.rank, if_neg (hparty ▸ hhead), hinLine]
      rfl
  | batch place => exact absurd hparty (x.party_ne_batch place)

theorem rank_le_of_mem (hs : Standing settings m) {x : Claimant} (hx : x ∈ m.state.line) :
    m.state.rank x.party ≤ 2 := by
  cases hline : m.state.line with
  | nil => simp [hline] at hx
  | cons owner rest =>
      rw [hline, List.mem_cons] at hx
      rcases hx with rfl | hx
      · rw [rank_owner hline]
        decide
      · exact Nat.le_of_eq (hs.rank_of_rest hline hx)

theorem rank_timer_le : m.state.rank .timer ≤ 2 := by
  by_cases hhead : m.state.line.head?.map Claimant.party = some .timer
  · rw [State.rank, if_pos hhead]
    decide
  · exact Nat.le_of_eq (by rw [State.rank, if_neg hhead])

/-- Every wait goes down the ladder. -/
theorem rank_lt_of_waits (hs : Standing settings m) (h : m.state.Waits p q) :
    m.state.rank q < m.state.rank p := by
  cases h with
  | line owner rest x hline hx =>
      rw [rank_owner hline, hs.rank_of_rest hline hx]
      decide
  | batch owner rest place d hline hd hunfinished =>
      rw [rank_owner hline, rank_batch]
      decide
  | timer call hcall htimer =>
      rw [hs.rank_of_call hcall Call.noConfusion]
      exact Nat.lt_succ_of_le rank_timer_le
  | stop call leader hcall hphase hleader =>
      rw [hs.rank_of_call hcall Call.noConfusion]
      apply Nat.lt_succ_of_le
      rcases hleader with htimer | hline | ⟨stats, hclosing⟩
      · exact Nat.le_of_eq (hs.rank_of_call htimer Call.noConfusion)
      · exact Nat.le_succ_of_le (hs.rank_le_of_mem hline)
      · exact Nat.le_succ_of_le (Nat.le_of_eq (hs.rank_of_call hclosing Call.noConfusion))

end Standing

end Courier.Scheduler
