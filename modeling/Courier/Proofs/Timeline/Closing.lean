import Courier.Proofs.Buffer.Batches
import Courier.Proofs.Scheduler.Turn
import Courier.Proofs.Timeline.Turns
/-!
The shutdown of a scheduler whose far end takes every batch at once.

The final cycle sends everything that is buffered, batch by batch, and then the transport and the
scheduler stop, all of it in one turn of the shutdown.
-/
namespace Courier.Timeline

open Scheduler (Action Claimant)

/-- The far end takes every batch in full, without a delay. -/
def FarEnd.Accepts (farEnd : FarEnd) : Prop :=
  ∀ call batch, (farEnd.turn call).delay = 0 ∧
    (farEnd.turn call).respond batch = (.outcome .success, [])

/-- A batch that was taken at the first attempt. -/
def delivered (batch : List Event) : Delivery := ⟨batch, .settled 1 .success⟩

/-- What is done about a batch that is taken at the first attempt. -/
def deliveredEffects (channel : Channel) (batch : List Event) : List Effect :=
  Delivery.send batch ++ channel.conclude batch 1 .success

namespace World

variable {w : World} {claimant : Claimant} {past ds : List Delivery} {d : Delivery}
  {s : Scheduler.State} {started : Nat}

theorem finished_of_mem_zipIdx {waits : List Wait} {entry : (Delivery × Wait) × Nat}
    (hpast : ∀ d ∈ past, d.stage.finished = true) (h : entry ∈ (past.zip waits).zipIdx) :
    entry.1.1.stage.finished = true := by
  obtain ⟨⟨d, wait⟩, place⟩ := entry
  have hzip : (d, wait) ∈ past.zip waits := List.fst_mem_of_mem_zipIdx h
  exact hpast d (List.of_mem_zip hzip).1

/-- What is due for the first batch that is not finished, if its time has come. -/
theorem dueBatch?_eq {pastWaits waits : List Wait} {wait : Wait}
    (hwaits : w.waits = pastWaits ++ wait :: waits) (hlength : pastWaits.length = past.length)
    (hpast : ∀ d ∈ past, d.stage.finished = true) (hd : d.stage.finished = false)
    (hdue : wait.due ≤ w.now) :
    w.dueBatch? (past ++ d :: ds) = some (match wait.answer with
      | some answer => .receive past.length answer some
      | none => .resume past.length) := by
  rw [dueBatch?, hwaits, List.zip_append hlength.symm, List.zipIdx_append, List.findSome?_append,
    List.findSome?_eq_none_iff.mpr]
  · have hpending : ¬(d.stage.finished = true ∨ w.now < wait.due) := by
      simp [hd, hdue]
    simp only [List.zip_cons_cons, List.zipIdx_cons, List.findSome?_cons, hpending, if_false,
      Option.none_or, List.length_zip, hlength, Nat.min_self, Nat.zero_add]
    cases wait.answer <;> rfl
  · intro entry hentry
    exact if_pos (Or.inl (finished_of_mem_zipIdx hpast hentry))

theorem dueBatch?_eq_none (hpast : ∀ d ∈ past, d.stage.finished = true) :
    w.dueBatch? past = none := by
  rw [dueBatch?]
  apply List.findSome?_eq_none_iff.mpr
  intro entry hentry
  exact if_pos (Or.inl (finished_of_mem_zipIdx hpast hentry))

theorem due?_of_head (hline : w.scheduler.line.head? = some claimant) :
    w.due? claimant = w.dueCycle? := if_pos hline

theorem dueCycle?_of_dueBatch? {cycle : Scheduler.Cycle} {action : Action}
    (hcycle : w.scheduler.cycle = some cycle)
    (hbatch : w.dueBatch? cycle.deliveries = some action) : w.dueCycle? = some action := by
  rw [dueCycle?, hcycle]
  simp only [hbatch]

/-- One batch of the cycle gets to another stage. -/
theorem advance_eq {change : Delivery → Option (Delivery × List Effect)} {d' : Delivery}
    {effects : List Effect} (hcycle : s.cycle = some ⟨started, past ++ d :: ds⟩)
    (hchange : change d = some (d', effects)) :
    s.advance past.length change =
      some ({ s with cycle := some ⟨started, past ++ d' :: ds⟩ }, effects) := by
  simp [Scheduler.State.advance, hcycle, hchange]

theorem stageAt_eq (hcycle : w.scheduler.cycle = some ⟨started, past ++ d :: ds⟩) :
    w.stageAt past.length = some d := by
  simp [stageAt, hcycle]

theorem waits_call (haccepts : w.farEnd.Accepts)
    (hcycle : w.scheduler.cycle = some ⟨started, past ++ d :: ds⟩) :
    (w.call past.length).waits =
      w.waits.set past.length ⟨w.now, some (.outcome .success), []⟩ := by
  obtain ⟨hdelay, hrespond⟩ := haccepts w.calls d.batch
  simp [call, stageAt_eq hcycle, hdelay, hrespond]

theorem waits_pause {batch : List Event}
    (hcycle : w.scheduler.cycle = some ⟨started, past ++ delivered batch :: ds⟩) :
    (w.pause past.length).waits = w.waits := by
  simp [pause, stageAt_eq hcycle, delivered]

theorem set_append_cons {α : Type} {past later : List α} {n : Nat} (hlength : past.length = n)
    (a b : α) : (past ++ a :: later).set n b = past ++ b :: later := by
  rw [← hlength, List.set_append_right _ _ (Nat.le_refl _), Nat.sub_self, List.set_cons_zero]

/-- A cycle in which one batch comes next: those before it are finished, and those behind it wait for
their first attempt. -/
structure Front (w : World) (s : Scheduler.State) (started : Nat) (past : List Delivery)
    (d : Delivery) (wait : Wait) (todo : List (List Event)) : Prop where
  accepts : w.farEnd.Accepts
  finished : ∀ d ∈ past, d.stage.finished = true
  scheduler : w.scheduler =
    { s with cycle := some ⟨started, past ++ d :: todo.map Delivery.start⟩ }
  waits : ∃ pastWaits, pastWaits.length = past.length ∧
    w.waits = pastWaits ++ wait :: todo.map fun _ => ⟨w.now, none, []⟩

namespace Front

variable {batch : List Event} {todo : List (List Event)} {wait : Wait}

theorem cycle (h : Front w s started past d wait todo) :
    w.scheduler.cycle = some ⟨started, past ++ d :: todo.map Delivery.start⟩ := by
  rw [h.scheduler]

theorem due? (h : Front w s started past d wait todo) (hline : s.line.head? = some claimant)
    (hd : d.stage.finished = false) (hdue : wait.due ≤ w.now) :
    w.due? claimant = some (match wait.answer with
      | some answer => .receive past.length answer some
      | none => .resume past.length) := by
  obtain ⟨pastWaits, hlength, hwaits⟩ := h.waits
  rw [due?_of_head (by rw [h.scheduler]; exact hline)]
  exact dueCycle?_of_dueBatch? h.cycle (dueBatch?_eq hwaits hlength h.finished hd hdue)

theorem resume (h : Front w s started past (.start batch) ⟨w.now, none, []⟩ todo) :
    ∃ w', w.perform (.resume past.length) = w' ∧
      After w (Delivery.send batch) w' ∧ w'.closesAt = w.closesAt ∧
      Front w' s started past ⟨batch, .sending 1⟩ ⟨w'.now, some (.outcome .success), []⟩ todo := by
  have hstep : Scheduler.step w.settings w.scheduler (.resume past.length) = _ :=
    advance_eq h.cycle (rfl : (Delivery.start batch).resume = some (⟨batch, .sending 1⟩, _))
  have hdone := performed_of_step hstep
  refine ⟨_, rfl, hdone.after, hdone.closesAt, ?_⟩
  constructor
  case accepts => exact hdone.after.farEnd ▸ h.accepts
  case finished => exact h.finished
  case scheduler =>
    rw [hdone.scheduler, h.scheduler]
    rfl
  case waits =>
    obtain ⟨pastWaits, hlength, hwaits⟩ := h.waits
    refine ⟨pastWaits, hlength, ?_⟩
    rw [hdone.after.now, perform_eq hstep]
    refine (waits_call (w := w.stepped _ _ _) h.accepts rfl).trans ?_
    rw [show (w.stepped _ _ _).waits = w.waits from rfl, hwaits]
    exact set_append_cons hlength _ _

theorem receive
    (h : Front w s started past ⟨batch, .sending 1⟩ ⟨w.now, some (.outcome .success), []⟩ todo) :
    ∃ w', w.perform (.receive past.length (.outcome .success) some) = w' ∧
      After w (w.settings.channel.conclude batch 1 .success) w' ∧ w'.closesAt = w.closesAt ∧
      Front w' s started past (delivered batch) ⟨w'.now, some (.outcome .success), []⟩ todo := by
  obtain ⟨pastWaits, hlength, hwaits⟩ := h.waits
  have hreceive : Delivery.receive ⟨batch, .sending 1⟩ w.settings.channel some (.outcome .success) =
      some (delivered batch, w.settings.channel.conclude batch 1 .success) := rfl
  have hstep : Scheduler.step w.settings w.scheduler
      (.receive past.length (.outcome .success) some) = _ := advance_eq h.cycle hreceive
  have hdone := performed_of_step hstep
  have hsaid : w.said (.receive past.length (.outcome .success) some) = [] := by
    simp [said, hwaits, ← hlength]
  have hafter := hdone.after
  rw [hsaid, List.nil_append] at hafter
  refine ⟨_, rfl, hafter, hdone.closesAt, ?_⟩
  constructor
  case accepts => exact hafter.farEnd ▸ h.accepts
  case finished => exact h.finished
  case scheduler =>
    rw [hdone.scheduler, h.scheduler]
  case waits =>
    refine ⟨pastWaits, hlength, ?_⟩
    rw [hafter.now, perform_eq hstep]
    exact (waits_pause (w := w.stepped _ _ _) rfl).trans hwaits

end Front

/-- The final cycle is under way: some batches were taken, and the others wait for their first
attempt. -/
structure Delivering (w : World) (s : Scheduler.State) (started : Nat)
    (done todo : List (List Event)) : Prop where
  accepts : w.farEnd.Accepts
  scheduler : w.scheduler =
    { s with cycle := some ⟨started, done.map delivered ++ todo.map Delivery.start⟩ }
  waits : ∃ past, past.length = done.length ∧
    w.waits = past ++ todo.map fun _ => ⟨w.now, none, []⟩

theorem finished_of_mem_delivered {done : List (List Event)} :
    ∀ d ∈ done.map delivered, d.stage.finished = true := by
  intro d hd
  obtain ⟨batch, _, rfl⟩ := List.mem_map.mp hd
  rfl

namespace Delivering

variable {batch : List Event} {done todo : List (List Event)}

theorem front (h : Delivering w s started done (batch :: todo)) :
    Front w s started (done.map delivered) (.start batch) ⟨w.now, none, []⟩ todo := by
  obtain ⟨past, hlength, hwaits⟩ := h.waits
  exact ⟨h.accepts, finished_of_mem_delivered, h.scheduler, past,
    hlength.trans (List.length_map _).symm, hwaits⟩

theorem of_front {wait : Wait}
    (h : Front w s started (done.map delivered) (delivered batch) wait todo) :
    Delivering w s started (done ++ [batch]) todo := by
  obtain ⟨past, hlength, hwaits⟩ := h.waits
  refine ⟨h.accepts, ?_, past ++ [wait], ?_, ?_⟩
  · rw [h.scheduler]
    simp
  · simpa using hlength
  · simpa using hwaits

/-- All batches are sent and taken, two steps for each. -/
theorem deliver (h : Delivering w s started done todo) (hline : s.line.head? = some claimant) :
    ∃ w', Turns claimant (2 * todo.length) w w' ∧
      After w (todo.flatMap (deliveredEffects w.settings.channel)) w' ∧
      w'.closesAt = w.closesAt ∧ Delivering w' s started (done ++ todo) [] := by
  induction todo generalizing w done with
  | nil => exact ⟨w, .stay w, .refl w, rfl, by simpa using h⟩
  | cons batch todo ih =>
      have hfront := h.front
      have hdue := hfront.due? hline rfl (Nat.le_refl _)
      obtain ⟨w₁, hsend, hafter, hcloses, hfront₁⟩ := hfront.resume
      have hdue₁ := hfront₁.due? hline rfl (Nat.le_refl _)
      obtain ⟨w₂, htake, hafter₁, hcloses₁, hfront₂⟩ := hfront₁.receive
      obtain ⟨w', hturns, hafter₂, hcloses₂, hdone⟩ := ih (of_front hfront₂)
      refine ⟨w', .next hdue (hsend ▸ .next hdue₁ (htake ▸ hturns)), ?_, ?_, ?_⟩
      · have hsettings : w₂.settings.channel = w.settings.channel := by
          rw [hafter₁.settings, hafter.settings]
        have hall := (hafter.trans hafter₁).trans hafter₂
        rw [hsettings, hafter.settings] at hall
        exact hall
      · rw [hcloses₂, hcloses₁, hcloses]
      · simpa using hdone

end Delivering

/-- The final cycle is over, and the transport shuts down. -/
structure Closing (w : World) (call : Nat) (stats : Scheduler.CycleStats) : Prop where
  closing : w.closing = (0, none)
  closes : w.closesAt ≤ w.now
  line : w.scheduler.line = []
  stage : w.scheduler.calls[call]? = some (.closing stats)

/-- The scheduler stops once the transport is shut down. -/
theorem Closing.stop {call : Nat} {stats : Scheduler.CycleStats} (h : Closing w call stats) :
    ∃ w', Turns (.shutdown call) 1 w w' ∧
      After w (Scheduler.stoppedEffects w.settings.channel.transport none stats
        w.scheduler.buffer.dropped) w' ∧
      w'.due? (.shutdown call) = none ∧
      w'.scheduler = { w.scheduler.setCall call .finished with phase := .stopped } := by
  have hdue : w.due? (.shutdown call) = some (.transportClosed call none) := by
    simp [World.due?, dueCall?, h.line, h.stage, h.closes, h.closing]
  have hstep : Scheduler.step w.settings w.scheduler (.transportClosed call none) =
      some ({ w.scheduler.setCall call .finished with phase := .stopped },
        Scheduler.stoppedEffects w.settings.channel.transport none stats
          w.scheduler.buffer.dropped) := by
    simp [Scheduler.step, Scheduler.State.transportClosed, h.stage, Scheduler.stoppedEffects]
  have hdone := performed_of_step hstep
  refine ⟨_, .next hdue (.stay _), hdone.after, ?_, hdone.scheduler⟩
  have hcall : call < w.scheduler.calls.length := (List.getElem?_eq_some_iff.mp h.stage).1
  simp [World.due?, dueCall?, hdone.scheduler, Scheduler.State.setCall, h.line, hcall]

/-- A shutdown heads the line, and its cycle begins. -/
structure Heading (w : World) (call : Nat) : Prop where
  accepts : w.farEnd.Accepts
  closing : w.closing = (0, none)
  line : w.scheduler.line = [.shutdown call]
  cycle : w.scheduler.cycle = none
  call : call < w.scheduler.calls.length
  batchSize : w.settings.batchSize ≠ 0

def emptied (w : World) (call : Nat) (stats : Scheduler.CycleStats) : Scheduler.State :=
  { w.scheduler with
    buffer := (w.scheduler.buffer.batches w.settings.batchSize).2
    line := []
    cycle := none
    calls := w.scheduler.calls.set call (.closing stats) }

/-- What a final cycle comes to. -/
structure Emptied (w : World) (call : Nat) (w' : World) (effects : List Effect)
    (stats : Scheduler.CycleStats) : Prop where
  after : After w effects w'
  closesAt : w'.closesAt = w.now
  scheduler : w'.scheduler = w.emptied call stats
  sends : Effect.sends effects = (w.scheduler.buffer.batches w.settings.batchSize).1
  logs : Effect.logs effects = []

theorem sends_deliveredEffects (channel : Channel) (batches : List (List Event)) :
    Effect.sends (batches.flatMap (deliveredEffects channel)) = batches := by
  induction batches with
  | nil => rfl
  | cons batch batches ih =>
      rw [List.flatMap_cons, Effect.sends_append, ih]
      rfl

theorem logs_deliveredEffects (channel : Channel) (batches : List (List Event)) :
    Effect.logs (batches.flatMap (deliveredEffects channel)) = [] := by
  induction batches with
  | nil => rfl
  | cons batch batches ih =>
      rw [List.flatMap_cons, Effect.logs_append, ih]
      rfl

theorem panicEffects_delivered (transport : String) (batches : List (List Event)) :
    Scheduler.panicEffects transport (batches.map delivered) = [] := by
  apply List.flatMap_eq_nil_iff.mpr
  intro d hd
  obtain ⟨batch, _, rfl⟩ := List.mem_map.mp hd
  rfl

namespace Heading

variable {call : Nat}

theorem due (h : Heading w call) : w.due? (.shutdown call) = some (.beginCycle w.nanos) := by
  rw [due?_of_head (by rw [h.line]; rfl), dueCycle?, h.cycle]

/-- With nothing buffered the cycle is over at once. -/
theorem empty (h : Heading w call)
    (hempty : (w.scheduler.buffer.batches w.settings.batchSize).1 = []) :
    ∃ w' effects, Turns (.shutdown call) 1 w w' ∧ Emptied w call w' effects {} := by
  have hstep : Scheduler.step w.settings w.scheduler (.beginCycle w.nanos) =
      some (w.emptied call {},
        [.counted (.bufferSize (w.scheduler.buffer.batches w.settings.batchSize).2.size),
          .transportClosed]) := by
    simp [Scheduler.step, Scheduler.State.beginCycle, h.line, h.cycle, hempty,
      Scheduler.State.finishCycle, Scheduler.State.setCall, emptied]
  have hdone := performed_of_step hstep
  refine ⟨_, _, .next h.due (.stay _), hdone.after, ?_, hdone.scheduler, ?_, rfl⟩
  · rw [hdone.closesAt, h.closing]
    rfl
  · rw [hempty]
    rfl

theorem deliver (h : Heading w call)
    (hsome : (w.scheduler.buffer.batches w.settings.batchSize).1 ≠ []) :
    ∃ w' effects stats,
      Turns (.shutdown call)
        (2 * (w.scheduler.buffer.batches w.settings.batchSize).1.length + 2) w w' ∧
      Emptied w call w' effects stats := by
  have hdue := h.due
  generalize hbatches : (w.scheduler.buffer.batches w.settings.batchSize).1 = batches at hsome ⊢
  -- The cycle begins.
  have hstep : Scheduler.step w.settings w.scheduler (.beginCycle w.nanos) = some ({ w.scheduler with
      buffer := (w.scheduler.buffer.batches w.settings.batchSize).2
      cycle := some (.ofBatches w.nanos batches) },
      [.counted (.bufferSize (w.scheduler.buffer.batches w.settings.batchSize).2.size)]) := by
    simp [Scheduler.step, Scheduler.State.beginCycle, h.line, h.cycle, hbatches, hsome]
  have hbegun := performed_of_step hstep
  have hdelivering : Delivering (w.perform (.beginCycle w.nanos))
      { w.scheduler with buffer := (w.scheduler.buffer.batches w.settings.batchSize).2 }
      w.nanos [] batches := by
    refine ⟨hbegun.after.farEnd ▸ h.accepts, hbegun.scheduler, [], rfl, ?_⟩
    rw [hbegun.after.now, perform_eq hstep]
    exact List.map_map
  -- The batches are sent and taken.
  have hline : ({ w.scheduler with
      buffer := (w.scheduler.buffer.batches w.settings.batchSize).2 } : Scheduler.State).line.head? =
      some (.shutdown call) := by
    rw [h.line]
    rfl
  obtain ⟨w₁, hturns, hafter₁, _, hdone₁⟩ := hdelivering.deliver hline
  have hcycle₁ : w₁.scheduler.cycle = some ⟨w.nanos, batches.map delivered⟩ := by
    rw [hdone₁.scheduler]
    simp
  -- The cycle ends.
  have hfinished : (⟨w.nanos, batches.map delivered⟩ : Scheduler.Cycle).finished = true :=
    List.all_eq_true.mpr finished_of_mem_delivered
  have hend : w₁.due? (.shutdown call) = some (.endCycle w₁.nanos) := by
    rw [due?_of_head (by rw [hdone₁.scheduler]; exact hline), dueCycle?, hcycle₁]
    simp only [dueBatch?_eq_none finished_of_mem_delivered, hfinished, if_true]
  have hstep₁ : Scheduler.step w₁.settings w₁.scheduler (.endCycle w₁.nanos) = some
      (w.emptied call (Scheduler.Cycle.stats ⟨w.nanos, batches.map delivered⟩),
        [.counted (.flush "shutdown" (Duration.ofNanos (w₁.nanos - w.nanos)).asSeconds),
          .transportClosed]) := by
    have hline₁ : w₁.scheduler.line = [.shutdown call] := by
      rw [hdone₁.scheduler]
      exact h.line
    simp only [Scheduler.step, Scheduler.State.endCycle, hline₁, hcycle₁, hfinished, if_true,
      panicEffects_delivered, Scheduler.State.finishCycle, List.nil_append]
    rw [hdone₁.scheduler]
    rfl
  have hended := performed_of_step hstep₁
  have hafter := (hbegun.after.trans hafter₁).trans hended.after
  refine ⟨_, _, _, ?_, hafter, ?_, hended.scheduler, ?_, ?_⟩
  · have hall := Turns.next hdue (hturns.trans (.next hend (.stay _)))
    exact hall
  · rw [hended.closesAt, hafter₁.closing, hbegun.after.closing, h.closing, hafter₁.now,
      hbegun.after.now]
    rfl
  · rw [Effect.sends_append, Effect.sends_append, sends_deliveredEffects]
    simp [Effect.sends, said, hbatches]
  · rw [Effect.logs_append, Effect.logs_append, logs_deliveredEffects]
    simp [Effect.logs, said]

end Heading

/-- A world whose shutdown is about to ask for the final cycle. -/
structure Ready (w : World) (call : Nat) : Prop where
  accepts : w.farEnd.Accepts
  closing : w.closing = (0, none)
  line : w.scheduler.line = []
  cycle : w.scheduler.cycle = none
  timer : w.scheduler.timer.isGone = true
  awaiting : w.scheduler.calls[call]? = some .awaitingTimer
  batchSize : w.settings.batchSize ≠ 0

/-- What a shutdown comes to from the moment at which the timer is gone. -/
structure Stopped (w : World) (call : Nat) (w' : World) (effects : List Effect)
    (stats : Scheduler.CycleStats) : Prop where
  after : After w effects w'
  phase : w'.scheduler.phase = .stopped
  buffer : w'.scheduler.buffer = (w.scheduler.buffer.batches w.settings.batchSize).2
  stage : w'.scheduler.calls[call]? = some .finished
  sends : Effect.sends effects = (w.scheduler.buffer.batches w.settings.batchSize).1
  logs : Effect.logs effects = Effect.logs (Scheduler.timerGoneEffects w.scheduler.timer) ++
    Effect.logs (Scheduler.stoppedEffects w.settings.channel.transport none stats
      w.scheduler.buffer.dropped)

namespace Ready

variable {call : Nat}

/-- The shutdown gets in line for the final cycle. -/
theorem ask (h : Ready w call) :
    ∃ w', Turns (.shutdown call) 1 w w' ∧
      After w (Scheduler.timerGoneEffects w.scheduler.timer) w' ∧ Heading w' call ∧
      w'.scheduler =
        { w.scheduler.setCall call .inLine with line := [.shutdown call] } := by
  have hdue : w.due? (.shutdown call) = some (.timerGone call) := by
    simp [World.due?, dueCall?, h.line, h.awaiting, h.timer]
  have hstep : Scheduler.step w.settings w.scheduler (.timerGone call) =
      some ({ w.scheduler.setCall call .inLine with line := [.shutdown call] },
        Scheduler.timerGoneEffects w.scheduler.timer) := by
    simp [Scheduler.step, Scheduler.State.timerGone, h.awaiting, h.timer, h.line,
      Scheduler.timerGoneEffects]
  have hdone := performed_of_step hstep
  have hcall : call < w.scheduler.calls.length := (List.getElem?_eq_some_iff.mp h.awaiting).1
  refine ⟨_, .next hdue (.stay _), hdone.after, ?_, hdone.scheduler⟩
  constructor
  case accepts => exact hdone.after.farEnd ▸ h.accepts
  case closing => exact hdone.after.closing.trans h.closing
  case line => rw [hdone.scheduler]
  case cycle =>
    rw [hdone.scheduler]
    exact h.cycle
  case call =>
    rw [hdone.scheduler]
    simpa [Scheduler.State.setCall] using hcall
  case batchSize => exact hdone.after.settings ▸ h.batchSize

/-- The whole shutdown takes one turn. -/
theorem give (h : Ready w call) :
    ∃ effects stats, Stopped w call (w.give (.shutdown call)) effects stats := by
  obtain ⟨w₁, hturns₁, hafter₁, hheading, hscheduler₁⟩ := h.ask
  have hbuffer₁ : w₁.scheduler.buffer.batches w₁.settings.batchSize =
      w.scheduler.buffer.batches w.settings.batchSize := by
    rw [hscheduler₁, hafter₁.settings]
    rfl
  obtain ⟨w₂, steps, effects, stats, hturns₂, hsteps, hemptied⟩ :
      ∃ w₂ steps effects stats, Turns (.shutdown call) steps w₁ w₂ ∧
        steps ≤ 2 * w.scheduler.buffer.size + 2 ∧ Emptied w₁ call w₂ effects stats := by
    by_cases hsome : (w.scheduler.buffer.batches w.settings.batchSize).1 = []
    · obtain ⟨w₂, effects, hturns₂, hemptied⟩ := hheading.empty (hbuffer₁ ▸ hsome)
      exact ⟨w₂, 1, effects, _, hturns₂, by omega, hemptied⟩
    · obtain ⟨w₂, effects, stats, hturns₂, hemptied⟩ := hheading.deliver (hbuffer₁ ▸ hsome)
      refine ⟨w₂, _, effects, stats, hturns₂, ?_, hemptied⟩
      rw [hbuffer₁]
      have hlength := Buffer.length_batches_le w.settings.batchSize w.scheduler.buffer
      exact Nat.add_le_add_right (Nat.mul_le_mul_left 2 hlength) 2
  have hclosing : Closing w₂ call stats := by
    refine ⟨?_, ?_, ?_, ?_⟩
    · rw [hemptied.after.closing, hafter₁.closing, h.closing]
    · exact Nat.le_of_eq (hemptied.closesAt.trans hemptied.after.now.symm)
    · rw [hemptied.scheduler, emptied]
    · rw [hemptied.scheduler, emptied]
      exact List.getElem?_set_self hheading.call
  obtain ⟨w₃, hturns₃, hafter₃, hend, hscheduler₃⟩ := hclosing.stop
  have hfuel : 1 + (steps + 1) < w.patience := by
    have hpending : w.pending = w.scheduler.buffer.size := by
      rw [pending, h.cycle]
      rfl
    have hproduct : (w.scheduler.buffer.size + 1) * 8 ≤
        (w.scheduler.buffer.size + 1) * (w.settings.channel.backoff.attempts + 8) :=
      Nat.mul_le_mul_left _ (Nat.le_add_left _ _)
    rw [patience, hpending]
    omega
  have hgive : w.give (.shutdown call) = w₃ :=
    (hturns₁.trans (hturns₂.trans hturns₃)).turnOf_eq hend hfuel
  have hafter := (hafter₁.trans hemptied.after).trans hafter₃
  refine ⟨_, stats, hgive ▸ hafter, ?_, ?_, ?_, ?_, ?_⟩
  · rw [hgive, hscheduler₃]
  · rw [hgive, hscheduler₃, hemptied.scheduler]
    exact congrArg Prod.snd hbuffer₁
  · rw [hgive, hscheduler₃]
    exact List.getElem?_set_self (List.getElem?_eq_some_iff.mp hclosing.stage).1
  · have hgone : Effect.sends (Scheduler.timerGoneEffects w.scheduler.timer) = [] := by
      unfold Scheduler.timerGoneEffects
      split <;> rfl
    rw [Effect.sends_append, Effect.sends_append, hemptied.sends, hgone, hbuffer₁]
    exact List.append_nil _
  · rw [Effect.logs_append, Effect.logs_append, hemptied.logs, List.append_nil]
    have hdropped : w₂.scheduler.buffer.dropped = w.scheduler.buffer.dropped := by
      rw [hemptied.scheduler, emptied, hbuffer₁, Buffer.batches_snd h.batchSize]
    rw [hdropped, hemptied.after.settings, hafter₁.settings]

end Ready

/-- A world in which nobody asks for a cycle, before its shutdown. -/
structure Resting (w : World) : Prop where
  accepts : w.farEnd.Accepts
  closing : w.closing = (0, none)
  phase : w.scheduler.phase.accepts = true
  line : w.scheduler.line = []
  cycle : w.scheduler.cycle = none
  timer : w.scheduler.timer.isGone = true ∨ ∃ due, w.scheduler.timer = .armed due
  batchSize : w.settings.batchSize ≠ 0

/-- What a shutdown comes to as a whole. -/
structure ShutDown (w w' : World) (effects : List Effect) (stats : Scheduler.CycleStats) : Prop where
  after : After w effects w'
  phase : w'.scheduler.phase = .stopped
  buffer : w'.scheduler.buffer = (w.scheduler.buffer.close.batches w.settings.batchSize).2
  sends : Effect.sends effects = (w.scheduler.buffer.close.batches w.settings.batchSize).1
  logs : ∃ timer, Effect.logs effects = Scheduler.drainingRecord w.scheduler.buffer.size ::
    (Effect.logs (Scheduler.timerGoneEffects timer) ++
      Effect.logs (Scheduler.stoppedEffects w.settings.channel.transport none stats
        w.scheduler.buffer.dropped))

namespace Resting

theorem say (h : Resting w) (record : Log.Record) : Resting (w.say record) :=
  ⟨h.accepts, h.closing, h.phase, h.line, h.cycle, h.timer, h.batchSize⟩

theorem begin (h : Resting w) :
    After w [.logged (Scheduler.drainingRecord w.scheduler.buffer.size)]
        (w.perform .beginShutdown) ∧
      (w.perform .beginShutdown).scheduler =
        { w.scheduler with
          phase := .draining
          buffer := w.scheduler.buffer.close
          calls := w.scheduler.calls ++ [.awaitingTimer] } ∧
      (w.perform .beginShutdown).moves = w.moves + 1 := by
  have hstep : Scheduler.step w.settings w.scheduler .beginShutdown = some
      ({ w.scheduler with
          phase := .draining
          buffer := w.scheduler.buffer.close
          calls := w.scheduler.calls ++ [.awaitingTimer] },
        [.logged (Scheduler.drainingRecord w.scheduler.buffer.size)]) := by
    simp [Scheduler.step, Scheduler.State.beginShutdown, h.phase, Scheduler.drainingRecord]
  have hdone := performed_of_step hstep
  exact ⟨hdone.after, hdone.scheduler, hdone.moves⟩

end Resting

/-- A shutdown that has begun and waits for the timer. -/
structure Begun (w : World) (call : Nat) : Prop where
  accepts : w.farEnd.Accepts
  closing : w.closing = (0, none)
  phase : w.scheduler.phase = .draining
  line : w.scheduler.line = []
  cycle : w.scheduler.cycle = none
  awaiting : w.scheduler.calls[call]? = some .awaitingTimer
  batchSize : w.settings.batchSize ≠ 0

theorem Begun.ready {call : Nat} (h : Begun w call) (htimer : w.scheduler.timer.isGone = true) :
    Ready w call :=
  ⟨h.accepts, h.closing, h.line, h.cycle, htimer, h.awaiting, h.batchSize⟩

theorem one_lt_patience (w : World) : 1 < w.patience := by
  have hticks : 1 ≤ w.ticks := Nat.le_add_left 1 _
  have hpatience : 2 * w.ticks ≤ w.patience := Nat.mul_le_mul_left 2 (Nat.le_add_left _ _)
  omega

/-- A timer between two ticks leaves at its next turn. -/
theorem Begun.give_timer {call due : Nat} (h : Begun w call)
    (htimer : w.scheduler.timer = .armed due) :
    After w [] (w.give .timer) ∧
      (w.give .timer).scheduler = { w.scheduler with timer := .ended } ∧
      (w.give .timer).moves = w.moves + 1 := by
  have hphase : w.scheduler.phase ≠ .running := by
    rw [h.phase]
    decide
  have hdue : w.due? .timer = some .leaveTimer := by
    simp [World.due?, dueTimer?, h.line, htimer, hphase]
  have hstep : Scheduler.step w.settings w.scheduler .leaveTimer =
      some ({ w.scheduler with timer := .ended }, []) := by
    simp [Scheduler.step, Scheduler.State.leaveTimer, htimer, hphase]
  have hdone := performed_of_step hstep
  have hend : (w.perform .leaveTimer).due? .timer = none := by
    simp [World.due?, dueTimer?, hdone.scheduler, h.line]
  have hgive : w.give .timer = w.perform .leaveTimer :=
    (Turns.next hdue (.stay _)).turnOf_eq hend w.one_lt_patience
  rw [hgive]
  exact ⟨hdone.after, hdone.scheduler, hdone.moves⟩

/-- Nothing is due for a shutdown that waits for the timer. -/
theorem Begun.give_shutdown {call due : Nat} (h : Begun w call)
    (htimer : w.scheduler.timer = .armed due) : w.give (.shutdown call) = w := by
  have hdue : w.due? (.shutdown call) = none := by
    simp [World.due?, dueCall?, h.line, h.awaiting, htimer, Scheduler.Timer.isGone]
  exact (Turns.stay w).turnOf_eq hdue (Nat.lt_of_succ_lt w.one_lt_patience)

theorem attend_of_stopped {call : Nat} {effects : List Effect} {stats : Scheduler.CycleStats}
    (h : Stopped w call (w.give (.shutdown call)) effects stats) :
    w.attend (.shutdown call) call = (w.give (.shutdown call), .finished .over) := by
  simp only [attend, h.stage]

theorem fst_await_finished (fuel seen : Nat) (w : World) (result : Result) :
    (await fuel seen w (.finished result)).1 = w := by
  cases fuel <;> rfl

/-- A turn of the shutdown after its beginning makes up the whole. -/
theorem ShutDown.of_stopped {w₁ w₂ w' : World} {call : Nat} {effects : List Effect}
    {stats : Scheduler.CycleStats}
    (hbegin : After w [.logged (Scheduler.drainingRecord w.scheduler.buffer.size)] w₁)
    (hleave : After w₁ [] w₂) (hbuffer : w₂.scheduler.buffer = w.scheduler.buffer.close)
    (hstopped : Stopped w₂ call w' effects stats) :
    ShutDown w w'
      (.logged (Scheduler.drainingRecord w.scheduler.buffer.size) :: effects) stats := by
  have hsettings : w₂.settings = w.settings := hleave.settings.trans hbegin.settings
  have hdropped : w₂.scheduler.buffer.dropped = w.scheduler.buffer.dropped := by
    rw [hbuffer]
    rfl
  constructor
  case after => exact (hbegin.trans hleave).trans hstopped.after
  case phase => exact hstopped.phase
  case buffer => rw [hstopped.buffer, hbuffer, hsettings]
  case sends => exact hstopped.sends.trans (by rw [hbuffer, hsettings])
  case logs =>
    have hlogs := hstopped.logs
    rw [hsettings, hdropped] at hlogs
    exact ⟨_, congrArg (_ :: ·) hlogs⟩

/-- The shutdown is gone through at one time. -/
theorem Resting.finish (h : Resting w) :
    ∃ effects stats, ShutDown w (w.finish .shutdown).1 effects stats := by
  obtain ⟨hafter, hscheduler, hmoves⟩ := h.begin
  have hfinish : w.finish .shutdown =
      await (w.rounds [.shutdown]) w.moves
        ((w.perform .beginShutdown).attend (.shutdown w.scheduler.nextCall) w.scheduler.nextCall).1
        ((w.perform .beginShutdown).attend (.shutdown w.scheduler.nextCall) w.scheduler.nextCall).2 :=
    rfl
  rw [hfinish]
  generalize w.perform .beginShutdown = w₁ at hafter hscheduler hmoves ⊢
  have hbegun : Begun w₁ w.scheduler.nextCall := by
    constructor
    case accepts => exact hafter.farEnd ▸ h.accepts
    case closing => exact hafter.closing.trans h.closing
    case batchSize => exact hafter.settings ▸ h.batchSize
    case awaiting =>
      rw [hscheduler]
      simp [Scheduler.State.nextCall]
    all_goals
      rw [hscheduler]
    case line => exact h.line
    case cycle => exact h.cycle
  have hbuffer : w₁.scheduler.buffer = w.scheduler.buffer.close := by rw [hscheduler]
  have htimer : w₁.scheduler.timer = w.scheduler.timer := by rw [hscheduler]
  rcases h.timer with hgone | ⟨due, harmed⟩
  · obtain ⟨effects, stats, hstopped⟩ := (hbegun.ready (htimer ▸ hgone)).give
    rw [attend_of_stopped hstopped, fst_await_finished]
    exact ⟨_, stats, .of_stopped hafter (.refl _) hbuffer hstopped⟩
  · have harmed₁ : w₁.scheduler.timer = .armed due := htimer.trans harmed
    have hwaits : w₁.attend (.shutdown w.scheduler.nextCall) w.scheduler.nextCall =
        (w₁, .calling (.shutdown w.scheduler.nextCall)) := by
      simp only [attend, hbegun.give_shutdown harmed₁, hbegun.awaiting]
    obtain ⟨hleave, hscheduler₂, hmoves₂⟩ := hbegun.give_timer harmed₁
    have hmoved : (w₁.give .timer).moves ≠ w.moves := by omega
    have hready : Ready (w₁.give .timer) w.scheduler.nextCall := by
      constructor
      case accepts => exact hleave.farEnd ▸ hbegun.accepts
      case closing => exact hleave.closing.trans hbegun.closing
      case batchSize => exact hleave.settings ▸ hbegun.batchSize
      all_goals rw [hscheduler₂]
      case line => exact hbegun.line
      case cycle => exact hbegun.cycle
      case timer => rfl
      case awaiting => exact hbegun.awaiting
    obtain ⟨effects, stats, hstopped⟩ := hready.give
    have hrounds : ∃ fuel, w.rounds [.shutdown] = fuel + 1 :=
      Nat.exists_eq_add_of_le' (by rw [rounds]; omega)
    obtain ⟨fuel, hfuel⟩ := hrounds
    have hpoll : (w₁.give .timer).poll (.calling (.shutdown w.scheduler.nextCall)) =
        ((w₁.give .timer).give (.shutdown w.scheduler.nextCall), .finished .over) :=
      attend_of_stopped hstopped
    rw [hwaits, hfuel, await]
    simp only [Task.result?, hmoved, ne_eq, not_false_eq_true, if_true, hpoll, fst_await_finished]
    refine ⟨_, stats, .of_stopped hafter hleave ?_ hstopped⟩
    rw [hscheduler₂]
    exact hbuffer

end World

end Courier.Timeline
