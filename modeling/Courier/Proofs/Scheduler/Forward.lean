import Courier.Proofs.Scheduler.Course
import Courier.Proofs.Scheduler.Waiting
/-!
Whoever acts gets on.

A step of one of the parties is never idle: the cycle at the head of the line begins, one of its
batches goes on, its owner leaves the line and has its answer, the timer arms itself or ends, or a call
comes closer to its return.
-/
namespace Courier

/-- A batch goes on with one step of its own. -/
inductive Stage.Next (attempts : Nat) : Stage → Stage → Prop
  | first : Next attempts .ready (.sending 1)
  | again (attempt : Nat) (pause : Duration) :
      Next attempts (.resting attempt pause) (.sending (attempt + 1))
  /-- There is a pause only if another attempt is left. -/
  | rest (attempt : Nat) (pause : Duration) (hleft : attempt < attempts) :
      Next attempts (.sending attempt) (.resting attempt pause)
  | final (attempt : Nat) (last : Stage) (hfinished : last.finished = true) :
      Next attempts (.sending attempt) last

namespace Delivery

variable {d d' : Delivery} {effects : List Effect}

theorem next_of_resume (attempts : Nat) (h : d.resume = some (d', effects)) :
    d.stage.Next attempts d'.stage := by
  obtain ⟨batch, stage⟩ := d
  cases stage with
  | ready =>
      cases h
      exact .first
  | resting attempt pause =>
      cases h
      exact .again attempt pause
  | sending attempt | settled attempts outcome | panicked panic => cases h

theorem next_of_receive {channel : Channel} {draw : Draw} {answer : Answer}
    (h : d.receive channel draw answer = some (d', effects)) :
    d.stage.Next channel.backoff.attempts d'.stage := by
  obtain ⟨batch, stage⟩ := d
  cases stage with
  | sending attempt =>
      rw [receive_sending] at h
      cases h
      rcases channel.backoff.after_cases draw attempt answer with ⟨pause, hrests⟩ | hfinished
      · show Stage.Next _ _ (channel.backoff.after draw attempt answer)
        rw [hrests]
        exact .rest attempt pause (Backoff.retryable_of_rests hrests).2
      · exact .final attempt _ hfinished
  | ready | resting attempt pause | settled attempts outcome | panicked panic => cases h

end Delivery

namespace Scheduler

/-- What a step of a party comes to. -/
inductive State.Forward (attempts : Nat) (s s' : State) : Party → Prop
  /-- The head of the line took what was buffered, and its batches are ready. -/
  | began (owner : Claimant) (rest : List Claimant) (cycle : Cycle) (hline : s.line = owner :: rest)
      (hcycle : s.cycle = none) (hline' : s'.line = s.line) (hcycle' : s'.cycle = some cycle)
      (hsome : cycle.deliveries ≠ []) (hready : ∀ d ∈ cycle.deliveries, d.stage = .ready) :
      Forward attempts s s' owner.party
  /-- The timer left the line and waits for its next tick. -/
  | rearmed (rest : List Claimant) (due : Nat) (hline : s.line = .timer :: rest)
      (htimer : s.timer = .busy due) (hline' : s'.line = rest) (hcycle' : s'.cycle = none)
      (htimer' : s'.timer = .armed due) : Forward attempts s s' .timer
  /-- A flush left the line and returned. -/
  | flushed (call : Nat) (rest : List Claimant) (stats : CycleStats)
      (hline : s.line = .flush call :: rest) (hcall : s.calls[call]? = some .inLine)
      (hline' : s'.line = rest) (hcycle' : s'.cycle = none)
      (hcall' : s'.calls[call]? = some (.flushed stats)) : Forward attempts s s' (.call call)
  /-- The shutdown left the line, and the transport is told to shut down. -/
  | closing (call : Nat) (rest : List Claimant) (stats : CycleStats)
      (hline : s.line = .shutdown call :: rest) (hcall : s.calls[call]? = some .inLine)
      (hline' : s'.line = rest) (hcycle' : s'.cycle = none)
      (hcall' : s'.calls[call]? = some (.closing stats)) : Forward attempts s s' (.call call)
  /-- A batch went on. -/
  | advanced (cycle : Cycle) (place : Nat) (d d' : Delivery) (hcycle : s.cycle = some cycle)
      (hd : cycle.deliveries[place]? = some d) (hnext : d.stage.Next attempts d'.stage)
      (hline' : s'.line = s.line)
      (hcycle' : s'.cycle =
        some { cycle with deliveries := cycle.deliveries.set place d' }) :
      Forward attempts s s' (.batch place)
  /-- The timer got in line. -/
  | ticked (due due' : Nat) (hphase : s.phase = .running) (htimer : s.timer = .armed due)
      (htimer' : s'.timer = .busy due') (hline' : s'.line = s.line ++ [.timer]) :
      Forward attempts s s' .timer
  /-- The timer ended. -/
  | ended (due : Nat) (hphase : s.phase ≠ .running) (htimer : s.timer = .armed due)
      (htimer' : s'.timer = .ended) : Forward attempts s s' .timer
  /-- The shutdown got in line for the final cycle. -/
  | lined (call : Nat) (hcall : s.calls[call]? = some .awaitingTimer)
      (hcall' : s'.calls[call]? = some .inLine) (hline' : s'.line = s.line ++ [.shutdown call]) :
      Forward attempts s s' (.call call)
  /-- The shutdown returned, and the scheduler is stopped. -/
  | closed (call : Nat) (stats : CycleStats) (hcall : s.calls[call]? = some (.closing stats))
      (hcall' : s'.calls[call]? = some .finished) (hphase' : s'.phase = .stopped) :
      Forward attempts s s' (.call call)
  /-- A later shutdown returned. -/
  | joined (call : Nat) (hcall : s.calls[call]? = some .awaitingStop) (hphase : s.phase = .stopped)
      (hcall' : s'.calls[call]? = some .finished) : Forward attempts s s' (.call call)

namespace Standing

variable {settings : Settings} {m m' : Moment} {p : Party}

/-- The head of the line is done with its cycle. -/
theorem forward_finishCycle (hs : Standing settings m) (attempts : Nat) {later : State}
    {owner : Claimant} {rest : List Claimant} (stats : CycleStats)
    (hline : m.state.line = owner :: rest) (htimer : later.timer = m.state.timer)
    (hcalls : later.calls = m.state.calls) :
    m.state.Forward attempts (later.finishCycle owner rest stats).1 owner.party := by
  have hmem : owner ∈ m.state.line := hline ▸ List.mem_cons_self
  have hset : ∀ {call : Nat} (stage : Call), m.state.calls[call]? = some .inLine →
      (later.calls.set call stage)[call]? = some stage := fun stage hcall =>
    List.getElem?_set_self (hcalls ▸ (List.getElem?_eq_some_iff.mp hcall).1)
  cases owner with
  | timer =>
      obtain ⟨due, hbusy, _⟩ := hs.timed.busy_of_line hline
      refine .rearmed rest due hline hbusy rfl rfl ?_
      show later.timer.rearm = .armed due
      rw [htimer, hbusy]
      rfl
  | flush call =>
      have hcall := hs.inLine_of_mem hmem rfl
      exact .flushed call rest stats hline hcall rfl rfl (hset _ hcall)
  | shutdown call =>
      have hcall := hs.inLine_of_mem hmem rfl
      exact .closing call rest stats hline hcall rfl rfl (hset _ hcall)

theorem forward (hs : Standing settings m) {action : Action}
    (hparty : action.party? m.state = some p) (hnext : m.next? settings action = some m') :
    m.state.Forward settings.channel.backoff.attempts m'.state p := by
  obtain ⟨effects, hturn⟩ := Moment.turn_of_next? (Action.ordinary_of_party hparty) hnext
  generalize m'.state = s' at hturn ⊢
  have howner : ∀ {owner : Claimant} {rest : List Claimant}, m.state.line = owner :: rest →
      m.state.line.head?.map Claimant.party = some p → p = owner.party := by
    intro owner rest hline hhead
    rw [hline] at hhead
    exact (Option.some.inj hhead).symm
  have hset : ∀ {call : Nat} {stage : Call} (stage' : Call), m.state.calls[call]? = some stage →
      (m.state.calls.set call stage')[call]? = some stage' := fun stage' hcall =>
    List.getElem?_set_self (List.getElem?_eq_some_iff.mp hcall).1
  cases hturn with
  | tick due now htimer hphase hdue =>
      cases hparty
      exact .ticked due _ hphase htimer rfl rfl
  | leaveTimer due htimer hphase =>
      cases hparty
      exact .ended due hphase htimer rfl
  | beginCycle owner rest now hline hcycle hsome =>
      rw [howner hline hparty]
      refine .began owner rest _ hline hcycle rfl rfl ?_ ?_
      · exact fun hnil => hsome (List.map_eq_nil_iff.mp hnil)
      · intro d hd
        obtain ⟨batch, _, rfl⟩ := List.mem_map.mp hd
        rfl
  | emptyCycle owner rest now hline hcycle hnone =>
      rw [howner hline hparty]
      exact hs.forward_finishCycle _ {} hline rfl rfl
  | endCycle owner rest cycle now hline hcycle hfinished =>
      rw [howner hline hparty]
      exact hs.forward_finishCycle _ cycle.stats hline rfl rfl
  | resume cycle place d d' effects hcycle hd hresume =>
      cases hparty
      exact .advanced cycle place d d' hcycle hd (Delivery.next_of_resume _ hresume) rfl rfl
  | receive cycle place answer draw d d' effects hcycle hd hreceive =>
      cases hparty
      exact .advanced cycle place d d' hcycle hd (Delivery.next_of_receive hreceive) rfl rfl
  | timerGone call hcall htimer =>
      cases hparty
      exact .lined call hcall (hset _ hcall) rfl
  | transportClosed call stats failure hcall =>
      cases hparty
      exact .closed call stats hcall (hset _ hcall) rfl
  | stopSeen call hcall hphase =>
      cases hparty
      exact .joined call hcall hphase (hset _ hcall)
  | _ => cases hparty

end Standing

end Scheduler

end Courier
