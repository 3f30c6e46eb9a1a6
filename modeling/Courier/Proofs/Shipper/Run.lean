import Mathlib.Data.List.DropRight
import Mathlib.Data.List.Forall2
import Courier.Proofs.Scheduler.Invariant
import Courier.Proofs.Shipper.Lines
import Courier.Proofs.Timeline.Alike
import Courier.Proofs.Timeline.Closing
/-!
A run of the command without a key.

The payloads of the input are buffered, and all that is still buffered at its end is printed: the events
of the newest payloads, in the order of their lines.  Whatever else the lines hold changes nothing of
that.  No time passes while the lines are taken, so the timer has not ticked before the input ends.
-/
namespace Courier.Shipper

open Timeline (World FarEnd)
open Timeline.World (After Alike)

theorem printed_eq (effects : List Effect) :
    printed effects = (Effect.sends effects).flatten.map Event.line := by
  induction effects with
  | nil => rfl
  | cons effect effects ih =>
      rw [printed, List.flatMap_cons, ← printed, ih]
      cases effect <;> simp [Effect.sends]

theorem accepts_default : ({} : FarEnd).Accepts := fun _ _ => ⟨rfl, rfl⟩

/-- The records say nothing of malformed lines. -/
def Calm (records : List Log.Record) : Prop :=
  ∀ record ∈ records, record.message ≠ "skipping malformed event"

@[simp] theorem calm_nil : Calm [] := List.forall_mem_nil _

@[simp] theorem calm_cons (record : Log.Record) (records : List Log.Record) :
    Calm (record :: records) ↔ record.message ≠ "skipping malformed event" ∧ Calm records :=
  List.forall_mem_cons

@[simp] theorem calm_append (records later : List Log.Record) :
    Calm (records ++ later) ↔ Calm records ∧ Calm later :=
  List.forall_mem_append

theorem skipped_of_calm {effects : List Effect} (h : Calm (Effect.logs effects)) :
    skipped effects = [] := by
  apply List.filter_eq_nil_iff.mpr
  intro record hrecord
  simpa using h record hrecord

theorem skipped_map_logged {records : List Log.Record} (h : Calm records) :
    skipped (records.map .logged) = [] := by
  apply skipped_of_calm
  rwa [Effect.logs_map_logged]

theorem calm_startRecords (config : Config) (transport : String) :
    Calm (startRecords config transport) := by
  rw [startRecords]
  split <;> simp

theorem calm_warnings (config : Config) : Calm config.warnings := by
  rw [Config.warnings]
  split <;> simp

theorem calm_timerGone (timer : Scheduler.Timer) :
    Calm (Effect.logs (Scheduler.timerGoneEffects timer)) := by
  rw [Scheduler.timerGoneEffects]
  split <;> simp [Effect.logs]

theorem calm_stopped (transport : String) (stats : Scheduler.CycleStats) (dropped : Nat) :
    Calm (Effect.logs (Scheduler.stoppedEffects transport none stats dropped)) := by
  simp [Scheduler.stoppedEffects, Effect.logs]

theorem after_say (w : World) (records : List Log.Record) :
    After w (records.map .logged) (records.foldl World.say w) ∧
      (records.foldl World.say w).scheduler = w.scheduler := by
  induction records generalizing w with
  | nil => exact ⟨.refl w, rfl⟩
  | cons record records ih =>
      obtain ⟨hafter, hscheduler⟩ := ih (w.say record)
      exact ⟨(After.does w [.logged record]).trans hafter, hscheduler⟩

/-- A world before the first line. -/
structure Waiting (config : Config) (w : World) : Prop where
  farEnd : w.farEnd = {}
  closing : w.closing = (0, none)
  batchSize : w.settings.batchSize ≠ 0
  buffer : w.scheduler.buffer = Buffer.empty config.maxQueueSize
  phase : w.scheduler.phase = .running
  line : w.scheduler.line = []
  cycle : w.scheduler.cycle = none
  timer : w.scheduler.timer.isGone = true ∨ ∃ due, w.scheduler.timer = .armed due
  sends : Effect.sends (w.trace.map Prod.snd) = []
  skipped : skipped (w.trace.map Prod.snd) = []

/-- The timer of a new scheduler starts. -/
theorem performed_start {w : World} {buffer : Buffer Event} (h : w.scheduler = { buffer })
    (now : Nat) :
    World.Performed w (.start true now)
      { phase := .running, buffer, timer := .start w.settings.period now }
      [.logged (Scheduler.startedRecord w.settings buffer.capacity)]
      (w.perform (.start true now)) := by
  apply World.performed_of_step
  rw [h]
  rfl

/-- A world is opened: what is said at the start, the effects of building the scheduler, and the start of
its timer. -/
theorem opened_spec (config : Config) (transport : String) (farEnd : FarEnd)
    (settings : Scheduler.Settings) (buffer : Buffer Event) (effects : List Effect) :
    After (.create settings { buffer } farEnd (0, none))
        ((startRecords config transport).map .logged ++ effects ++
          [.logged (Scheduler.startedRecord settings buffer.capacity)])
        (opened config transport farEnd settings { buffer } effects) ∧
      (opened config transport farEnd settings { buffer } effects).scheduler =
        { phase := .running, buffer, timer := .start settings.period 0 } := by
  obtain ⟨hsaid, hidle⟩ := after_say (.create settings { buffer } farEnd (0, none))
    (startRecords config transport)
  rw [opened]
  generalize (startRecords config transport).foldl World.say _ = w at hsaid hidle ⊢
  have hdone := performed_start (w := w.does effects) hidle w.nanos
  have hsettings : (w.does effects).settings = settings := hsaid.settings
  have hnanos : w.nanos = 0 := by rw [World.nanos, hsaid.now]; exact Nat.zero_mul _
  rw [hsettings] at hdone
  refine ⟨(hsaid.trans (After.does w effects)).trans hdone.after, ?_⟩
  rw [hdone.scheduler, hnanos]

theorem sends_opened (config : Config) (transport : String) (farEnd : FarEnd)
    (settings : Scheduler.Settings) (buffer : Buffer Event) (warnings : List Log.Record)
    (capacity : Nat) :
    Effect.sends ((opened config transport farEnd settings { buffer }
      (warnings.map .logged ++ [.counted (.bufferCapacity capacity)])).trace.map Prod.snd) = [] := by
  rw [(opened_spec ..).1.trace]
  simp only [Effect.sends_append, Effect.sends_map_logged]
  rfl

theorem waiting_opened (config : Config) {settings : Scheduler.Settings}
    (hbatch : settings.batchSize ≠ 0) (transport : String) :
    Waiting config (opened config transport {} settings
      { buffer := Buffer.empty config.maxQueueSize }
      (config.warnings.map .logged ++ [.counted (.bufferCapacity config.maxQueueSize)])) := by
  obtain ⟨hafter, hscheduler⟩ := opened_spec config transport {} settings
    (Buffer.empty config.maxQueueSize)
    (config.warnings.map .logged ++ [.counted (.bufferCapacity config.maxQueueSize)])
  constructor
  case farEnd => exact hafter.farEnd
  case closing => exact hafter.closing
  case batchSize => exact hafter.settings ▸ hbatch
  case sends => exact sends_opened ..
  case skipped =>
    rw [hafter.trace]
    simp only [skipped_append, skipped_map_logged (calm_startRecords config transport),
      skipped_map_logged (calm_warnings config)]
    rfl
  all_goals rw [hscheduler]
  case timer =>
    rw [Scheduler.Timer.start]
    split
    · exact Or.inr ⟨_, rfl⟩
    · exact Or.inl rfl

/-- What the buffer holds after some lines: the newest events. -/
theorem foldl_enqueue_empty {config : Config} (h : config.maxQueueSize ≠ 0) (events : List Event) :
    (events.foldl (fun b e => (b.enqueue e).2) (Buffer.empty config.maxQueueSize)).contents =
        events.rtake config.maxQueueSize ∧
      (events.foldl (fun b e => (b.enqueue e).2) (Buffer.empty config.maxQueueSize)).dropped =
        events.length - config.maxQueueSize := by
  have hcapacity : max config.maxQueueSize 1 = config.maxQueueSize := by omega
  rw [Buffer.empty, hcapacity, Buffer.foldl_enqueue rfl (Nat.pos_of_ne_zero h) (Nat.zero_le _)]
  simp [List.rtake, Buffer.size]

variable {config : Config} {surroundings : Surroundings} {fresh : Nat → Fresh} {w w' : World}
  {entries : List (List Char × Nat)} {effects : List Effect}

theorem Waiting.resting (h : Waiting config w) (htaken : Taken config fresh w entries w' effects) :
    w'.Resting := by
  constructor
  case accepts =>
    rw [htaken.after.farEnd, h.farEnd]
    exact accepts_default
  case closing => exact htaken.after.closing.trans h.closing
  case batchSize => exact htaken.after.settings ▸ h.batchSize
  all_goals rw [htaken.scheduler]
  case phase =>
    rw [h.phase]
    rfl
  case line => exact h.line
  case cycle => exact h.cycle
  case timer => exact h.timer

def closedRecord (lines : Nat) : Log.Record := ⟨.info, "stdin closed", [("lines", .number lines)]⟩

def completeRecord (dropped : Nat) : Log.Record :=
  ⟨.info, "margindash-ship shutdown complete", [("dropped", .number dropped)]⟩

theorem deliverRest_eq (w : World) (count : Nat) :
    deliverRest w count = ((w.say (closedRecord count)).finish .shutdown).1.say (completeRecord
      ((w.say (closedRecord count)).finish .shutdown).1.scheduler.buffer.dropped) := by
  rw [deliverRest]
  rfl

/-- A run that has shipped the newest payloads of some lines. -/
structure Shipped (config : Config) (fresh : Nat → Fresh) (entries : List (List Char × Nat))
    (w : World) : Prop where
  phase : w.scheduler.phase = .stopped
  dropped : w.scheduler.buffer.dropped = (payloads entries).length - config.maxQueueSize
  printed : printed (w.trace.map Prod.snd) =
    ((events config fresh entries).rtake config.maxQueueSize).map Event.line
  skipped : skipped (w.trace.map Prod.snd) = (malformed entries).map malformedRecord
  complete : (Effect.logs (w.trace.map Prod.snd)).getLast? =
    some (completeRecord ((payloads entries).length - config.maxQueueSize))

theorem length_events (entries : List (List Char × Nat)) :
    (events config fresh entries).length = (payloads entries).length := List.length_map _

/-- What a shutdown says, nothing about malformed lines. -/
theorem skipped_of_shutDown {stats : Scheduler.CycleStats}
    (h : World.ShutDown w w' effects stats) : skipped effects = [] := by
  obtain ⟨timer, hlogs⟩ := h.logs
  apply skipped_of_calm
  rw [hlogs]
  simp [Scheduler.drainingRecord, calm_timerGone, calm_stopped]

theorem shipped_deliverRest (hqueue : config.maxQueueSize ≠ 0) (h : Waiting config w)
    (htaken : Taken config fresh w entries w' effects) (count : Nat) :
    Shipped config fresh entries (deliverRest w' count) := by
  obtain ⟨hcontents, hdropped⟩ :=
    foldl_enqueue_empty hqueue (events config fresh entries)
  rw [length_events] at hdropped
  have hbuffer : w'.scheduler.buffer = (events config fresh entries).foldl
      (fun b e => (b.enqueue e).2) (Buffer.empty config.maxQueueSize) := by
    rw [htaken.scheduler, h.buffer]
  have hresting := (h.resting htaken).say (closedRecord count)
  obtain ⟨later, stats, hdown⟩ := hresting.finish
  have hcount : ((w'.say (closedRecord count)).finish .shutdown).1.scheduler.buffer.dropped =
      (payloads entries).length - config.maxQueueSize := by
    rw [hdown.buffer, Buffer.batches_snd hresting.batchSize]
    exact hbuffer ▸ hdropped
  rw [deliverRest_eq, hcount]
  have hafter := ((htaken.after.trans (After.does w' [.logged (closedRecord count)])).trans
    hdown.after).trans (After.does _
      [.logged (completeRecord ((payloads entries).length - config.maxQueueSize))])
  have htrace := hafter.trace
  constructor
  case phase => exact hdown.phase
  case dropped => exact hcount
  case printed =>
    have hsent : (Effect.sends later).flatten =
        (events config fresh entries).rtake config.maxQueueSize := by
      rw [hdown.sends, Buffer.flatten_batches hresting.batchSize]
      exact hbuffer ▸ hcontents
    have hquiet (record : Log.Record) : Effect.sends [.logged record] = [] := rfl
    rw [World.say, htrace, printed_eq, ← hsent]
    simp only [Effect.sends_append, h.sends, htaken.sends, hquiet, List.nil_append, List.append_nil]
  case skipped =>
    have hclosed : Shipper.skipped [.logged (closedRecord count)] = [] := rfl
    have hcomplete (dropped : Nat) : Shipper.skipped [.logged (completeRecord dropped)] = [] := rfl
    rw [World.say, htrace]
    simp only [skipped_append, h.skipped, htaken.skipped, skipped_of_shutDown hdown, hclosed,
      hcomplete, List.nil_append, List.append_nil]
  case complete =>
    rw [World.say, htrace, Effect.logs_append, Effect.logs_append, ← List.append_assoc]
    exact List.getLast?_concat

theorem transportOf_eq (hkey : config.apiKey = none) (exchange : Collector.Exchange) :
    transportOf config exchange = (Printout.name, {}) := by
  rw [transportOf, Collector.Client.ofConfig, hkey]

/-- A session without a key: the lines are taken in a world that waits for them, and then the rest is
delivered. -/
theorem session_eq (hvalid : config.validate = .ok ()) (hkey : config.apiKey = none) :
    ∃ w, Waiting config w ∧ ∀ surroundings text, ∃ count,
      session config surroundings (bytes text) =
        .ok (deliverRest (takeText config surroundings.fresh w 1 text.toList) count, .ok count) := by
  have hcreate := Scheduler.create_of_validate hvalid Printout.name .log
  have hbatch := (Scheduler.create_eq_ok hcreate).1
  refine ⟨_, waiting_opened config hbatch Printout.name, fun surroundings text => ?_⟩
  generalize hw : opened config Printout.name {} _ _ _ = w
  obtain ⟨count, hlines⟩ := takeLines_utf8 config surroundings.fresh w 1 text.toList
  refine ⟨count, ?_⟩
  rw [session, transportOf_eq hkey]
  simp only [hcreate, hw, bytes, Text.toList_toUTF8, hlines]

/-- Two worlds that differ in what speaks of lines deliver the same. -/
theorem alike_deliverRest {v : World} (h : Alike beyondLines v w) (count count' : Nat) :
    Alike beyondLines (deliverRest v count) (deliverRest w count') := by
  have hclosed : Alike beyondLines (v.say (closedRecord count)) (w.say (closedRecord count')) :=
    ((h.does_left rfl).symm.does_left rfl).symm
  have hshut := hclosed.shutdown
  rw [deliverRest_eq, deliverRest_eq, hshut.scheduler_eq]
  exact hshut.does _

/-- Two lines show the same payload, but they need not have the same token and time. -/
def SamePayload (config : Config) (line line' : String) : Prop :=
  ∃ payload fresh fresh', line = (Client.event config payload fresh).line ∧
    line' = (Client.event config payload fresh').line

/-- The newest of the same payloads show the same. -/
theorem forall₂_lines {fresh' : Nat → Fresh} {entries' : List (List Char × Nat)}
    (h : (payloads entries).map Prod.fst = (payloads entries').map Prod.fst) (count : Nat) :
    List.Forall₂ (SamePayload config)
      (((events config fresh entries).rtake count).map Event.line)
      (((events config fresh' entries').rtake count).map Event.line) := by
  have hpayloads : List.Forall₂ (fun p p' => p.1 = p'.1) (payloads entries) (payloads entries') := by
    rw [← List.forall₂_eq_eq_eq] at h
    exact List.forall₂_map_left_iff.mp (List.forall₂_map_right_iff.mp h)
  have hlines : List.Forall₂ (SamePayload config) ((events config fresh entries).map Event.line)
      ((events config fresh' entries').map Event.line) := by
    rw [events, events, List.map_map, List.map_map, List.forall₂_map_left_iff,
      List.forall₂_map_right_iff]
    exact hpayloads.imp fun p p' hsame => ⟨p.1, fresh p.2, fresh' p'.2, rfl, hsame ▸ rfl⟩
  have hlength : (events config fresh entries).length = (events config fresh' entries').length := by
    rw [length_events, length_events, hpayloads.length_eq]
  rw [List.rtake, List.rtake, List.map_drop, List.map_drop, hlength]
  exact List.forall₂_drop _ hlines

theorem maxQueueSize_ne_zero (hvalid : config.validate = .ok ()) : config.maxQueueSize ≠ 0 :=
  (Config.validate_eq_ok_iff.mp hvalid).2.1

/-- The end of a run in which the newest of some events were printed. -/
def endingOf (env : Environment) (config : Config) (events : List Event) (w : World) : Ending where
  code := 0
  printed := (events.rtake config.maxQueueSize).map Event.line
  error := none
  format := config.logFormat
  records := (Effect.logs (w.trace.map Prod.snd)).filter (filterOf env config).admits

/-- Every run without a key begins in one world, and goes from there as if its events were all there
was to take. -/
theorem exists_shipped {env : Environment} (hconfig : Config.ofEnvironment env = .ok config)
    (hkey : config.apiKey = none) :
    ∃ w₀ : World, ∀ surroundings text, ∃ w count,
      session config surroundings (bytes text) = .ok (w, .ok count) ∧
        Shipped config surroundings.fresh (numbered 1 text.toList) w ∧
        run env surroundings (bytes text) =
          endingOf env config (events config surroundings.fresh (numbered 1 text.toList)) w ∧
        Alike beyondLines w (deliverRest ((events config surroundings.fresh
          (numbered 1 text.toList)).foldl (fun w event => w.perform (.enqueue event)) w₀) 0) := by
  have hvalid := Config.validate_of_ofEnvironment hconfig
  obtain ⟨w₀, hwaiting, hsession⟩ := session_eq hvalid hkey
  refine ⟨w₀, fun surroundings text => ?_⟩
  obtain ⟨count, hcount⟩ := hsession surroundings text
  obtain ⟨effects, htaken⟩ := Taken.all w₀
    (numbered 1 text.toList)
  have hshipped := shipped_deliverRest (maxQueueSize_ne_zero hvalid) hwaiting htaken count
  refine ⟨_, count, hcount, hshipped, ?_, alike_deliverRest (alike_foldl _ _ (.refl _ w₀) _) _ _⟩
  rw [run, hconfig, endingOf, ← hshipped.printed]
  simp only [runWith, hcount, hkey]
  rfl

/-- A run without a key prints the newest payloads of its input in the order of their lines, says which
lines are malformed, and ends well.  Another text whose lines with payloads are the same has the same
printed; and if its payloads get the same tokens and times, nothing differs but what is said about the
lines. -/
theorem run_ships_newest {env : Environment} {config : Config}
    (hconfig : Config.ofEnvironment env = .ok config) (hkey : config.apiKey = none)
    (surroundings : Surroundings) (text : String) :
    ∃ w count, session config surroundings (bytes text) = .ok (w, .ok count) ∧
      Shipped config surroundings.fresh (numbered 1 text.toList) w ∧
      run env surroundings (bytes text) =
        endingOf env config (events config surroundings.fresh (numbered 1 text.toList)) w ∧
      ∀ other otherText, heldLines otherText = heldLines text →
        ∃ w' count', session config other (bytes otherText) = .ok (w', .ok count') ∧
          List.Forall₂ (SamePayload config) (run env other (bytes otherText)).printed
            (run env surroundings (bytes text)).printed ∧
          (events config other.fresh (numbered 1 otherText.toList) =
              events config surroundings.fresh (numbered 1 text.toList) →
            Alike beyondLines w' w) := by
  obtain ⟨w₀, hall⟩ := exists_shipped hconfig hkey
  obtain ⟨w, count, hsession, hshipped, hrun, halike⟩ := hall surroundings text
  refine ⟨w, count, hsession, hshipped, hrun, fun other otherText hheld => ?_⟩
  obtain ⟨w', count', hsession', -, hrun', halike'⟩ := hall other otherText
  refine ⟨w', count', hsession', ?_, fun hevents => halike'.trans ?_⟩
  · rw [hrun, hrun', endingOf, endingOf]
    apply forall₂_lines
    rw [numbered, numbered, map_fst_payloads, map_fst_payloads]
    exact congrArg (List.filterMap _) hheld
  · rw [hevents]
    exact halike.symm

/-- Of two payloads among other lines, a queue of one keeps the second. -/
theorem run_ships_newest_one :
    let env : Environment := fun name =>
      if name = "MARGINDASH_MAX_QUEUE_SIZE" then some "1" else none
    let config : Config := { maxQueueSize := 1 }
    let surroundings : Surroundings :=
      ⟨fun number => ⟨toString number, "now"⟩, .unanswered .unreachable⟩
    let line := "\x7b\"customer_external_id\":\"a\",\"revenue_amount_in_cents\":1," ++
      "\"vendor_responses\":[]\x7d"
    let shown := "\x7b\"customer_external_id\":\"a\",\"event_type\":\"ai_request\"," ++
      "\"occurred_at\":\"now\",\"revenue_amount_in_cents\":1,\"unique_request_token\":\"4\"," ++
      "\"vendor_responses\":[]\x7d"
    let text := "oops\n" ++ (line ++ ("\n\n" ++ line))
    let bare := line ++ ("\n" ++ line)
    Config.ofEnvironment env = .ok config ∧ config.apiKey = none ∧
      heldLines bare = heldLines text ∧
      ∃ w count, session config surroundings (bytes text) = .ok (w, .ok count) ∧
        w.scheduler.buffer.dropped = 1 ∧
        skipped (w.trace.map Prod.snd) = [malformedRecord 1] ∧
        (run env surroundings (bytes text)).printed = [shown] ∧
        List.Forall₂ (SamePayload config) (run env surroundings (bytes bare)).printed
          (run env surroundings (bytes text)).printed := by
  intro env config surroundings line shown text bare
  have hconfig : Config.ofEnvironment env = .ok config := by decide +kernel
  have htext : text.toList =
      "oops\n".toList ++ (line.toList ++ ("\n\n".toList ++ line.toList)) := by
    simp only [text, String.toList_append]
  have hbare : bare.toList = line.toList ++ ("\n".toList ++ line.toList) := by
    simp only [bare, String.toList_append]
  obtain ⟨hheld, hmalformed, hpayloads, hprinted⟩ : heldLines bare = heldLines text ∧
      malformed (numbered 1 text.toList) = [1] ∧ (payloads (numbered 1 text.toList)).length = 2 ∧
      ((events config surroundings.fresh (numbered 1 text.toList)).rtake
        config.maxQueueSize).map Event.line = [shown] := by
    rw [heldLines, heldLines, htext, hbare]
    decide +kernel
  obtain ⟨w, count, hsession, hshipped, hrun, hother⟩ :=
    run_ships_newest hconfig rfl surroundings text
  obtain ⟨-, -, -, hsame, -⟩ := hother surroundings bare hheld
  refine ⟨hconfig, rfl, hheld, w, count, hsession, ?_, ?_, ?_, hsame⟩
  · exact hshipped.dropped.trans (congrArg (· - 1) hpayloads)
  · rw [hshipped.skipped, hmalformed]
    rfl
  · rw [hrun, endingOf, hprinted]

end Courier.Shipper
