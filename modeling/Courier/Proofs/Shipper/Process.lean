import Courier.Proofs.Scheduler.Settlement
import Courier.Proofs.Scheduler.Unattended
import Courier.Proofs.Shipper.Lines
/-!
The command as a process.

The command reads its input line by line while its scheduler goes on by itself.  It calls for a shutdown
at the end of the input, or when a signal tells it to, and returns when the shutdown does.  A read that
fails makes it return at once, and its scheduler is given up with whatever it holds.
-/
namespace Courier.Shipper

open Effect (closings)
open Scheduler (Action Moment Settings Sound State)

/-- What a read of the input gives. -/
inductive Reading where
  | line (text : List Char)
  /-- Bytes that are no text, or an input that cannot be read. -/
  | broken (error : String)
  deriving DecidableEq, Repr

/-- What reading a line of bytes gives. -/
def Reading.ofLine (bytes : List Nat) : Reading :=
  match Text.decodeUtf8 bytes with
  | .ok text => .line text.toList
  | .error error => .broken error.message

/-- What reading some bytes gives, line by line. -/
def readings (input : List Nat) : List Reading := (lines input).map .ofLine

/-- How far the command is. -/
inductive Progress where
  /-- It has read some lines, and this is still to be read. -/
  | reading (count : Nat) (rest : List Reading)
  /-- It waits for its call to shut down. -/
  | closing (call : Nat)
  /-- It has returned, well or with an error. -/
  | returned (error : Option String)

/-- The command in the middle of its run. -/
structure Process where
  moment : Moment
  progress : Progress

namespace Process

/-- The command has started its scheduler, and nothing is read yet. -/
def Begins (config : Config) (transport : String) (stream : List Reading) (settings : Settings)
    (p : Process) : Prop :=
  ∃ s effects now m, Scheduler.create config transport .log = .ok (settings, s, effects) ∧
    (Moment.first s).next? settings (.start true now) = some m ∧ p = ⟨m, .reading 0 stream⟩

/-- What the command can do next. -/
inductive Next (config : Config) (fresh : Nat → Fresh) (settings : Settings) :
    Process → Process → Prop
  /-- The scheduler goes on by itself. -/
  | works {m m' : Moment} {progress : Progress} {action : Action} (hinner : action.inner = true)
      (hnext : m.next? settings action = some m') :
      Next config fresh settings ⟨m, progress⟩ ⟨m', progress⟩
  | skips {m : Moment} {count : Nat} {text : List Char} {rest : List Reading}
      (hnone : (content text).payload? = none) :
      Next config fresh settings ⟨m, .reading count (.line text :: rest)⟩
        ⟨m, .reading (count + 1) rest⟩
  | takes {m m' : Moment} {count : Nat} {text : List Char} {rest : List Reading}
      {payload : Payload} (hsome : (content text).payload? = some payload)
      (hnext : m.next? settings (.enqueue (Client.event config payload (fresh (count + 1)))) =
        some m') :
      Next config fresh settings ⟨m, .reading count (.line text :: rest)⟩
        ⟨m', .reading (count + 1) rest⟩
  /-- A read fails: the command returns, and the scheduler is given up. -/
  | breaks {m : Moment} {count : Nat} {error : String} {rest : List Reading} :
      Next config fresh settings ⟨m, .reading count (.broken error :: rest)⟩
        ⟨m.givenUp, .returned (some error)⟩
  /-- The input has ended, or a signal has come. -/
  | stops {m m' : Moment} {count : Nat} {rest : List Reading}
      (hnext : m.next? settings .beginShutdown = some m') :
      Next config fresh settings ⟨m, .reading count rest⟩ ⟨m', .closing m.state.nextCall⟩
  | leaves {m : Moment} {call : Nat} (hcall : m.state.calls[call]? = some .finished) :
      Next config fresh settings ⟨m, .closing call⟩ ⟨m, .returned none⟩

/-- The command gets there from its start. -/
def Reached (config : Config) (transport : String) (fresh : Nat → Fresh) (stream : List Reading)
    (settings : Settings) (p : Process) : Prop :=
  ∃ start, Begins config transport stream settings start ∧
    Relation.ReflTransGen (Next config fresh settings) start p

end Process

section

variable (config : Config) (fresh : Nat → Fresh)

/-- The event of a line that holds a payload. -/
theorem events_singleton (text : List Char) (number : Nat) :
    events config fresh [(text, number)] =
      ((content text).payload?.map fun payload =>
        Client.event config payload (fresh number)).toList := by
  rw [events, payloads]
  cases hcontent : (content text).payload? <;> simp [hcontent]

theorem events_concat (before : List (List Char)) (text : List Char) :
    events config fresh ((before ++ [text]).zipIdx 1) = events config fresh (before.zipIdx 1) ++
      ((content text).payload?.map fun payload =>
        Client.event config payload (fresh (before.length + 1))).toList := by
  rw [List.zipIdx_append, events_append, List.zipIdx_singleton, events_singleton, Nat.add_comm]

end

/-- The scheduler has accepted the events of some lines, and no others. -/
structure Fed (config : Config) (fresh : Nat → Fresh) (settings : Settings)
    (before : List (List Char)) (m : Moment) : Prop where
  reached : Scheduler.Reached settings m
  accepted : m.history.accepted = events config fresh (before.zipIdx 1)

namespace Fed

variable {config : Config} {fresh : Nat → Fresh} {settings : Settings} {before : List (List Char)}
  {m m' : Moment}

theorem next {action : Action} (h : Fed config fresh settings before m)
    (hordinary : action.ordinary = true) (hnext : m.next? settings action = some m')
    (haccepted : m'.history.accepted = m.history.accepted) :
    Fed config fresh settings before m' :=
  ⟨h.reached.run (.single ⟨action, hordinary, hnext⟩), haccepted.trans h.accepted⟩

theorem works {action : Action} (h : Fed config fresh settings before m)
    (hinner : action.inner = true) (hnext : m.next? settings action = some m') :
    Fed config fresh settings before m' :=
  h.next (Action.ordinary_of_inner hinner) hnext (Moment.accepted_of_inner hinner hnext)

theorem skips {text : List Char} (h : Fed config fresh settings before m)
    (hnone : (content text).payload? = none) : Fed config fresh settings (before ++ [text]) m := by
  refine ⟨h.reached, ?_⟩
  rw [events_concat, hnone, h.accepted]
  exact (List.append_nil _).symm

theorem takes {text : List Char} {payload : Payload} (h : Fed config fresh settings before m)
    (haccepts : m.state.phase.accepts = true) (hsome : (content text).payload? = some payload)
    (hnext : m.next? settings
      (.enqueue (Client.event config payload (fresh (before.length + 1)))) = some m') :
    Fed config fresh settings (before ++ [text]) m' := by
  refine ⟨h.reached.run (.single ⟨_, rfl, hnext⟩), ?_⟩
  rw [events_concat, hsome, h.reached.sound.2.accepted_of_enqueue haccepts hnext, h.accepted]
  rfl

theorem stops (h : Fed config fresh settings before m)
    (hnext : m.next? settings .beginShutdown = some m') :
    Fed config fresh settings before m' := by
  refine h.next rfl hnext ?_
  cases hnext
  simp only [Scheduler.History.record, Scheduler.History.book]
  split <;> rfl

end Fed

/-- What holds of the command all along. -/
inductive Kept (config : Config) (fresh : Nat → Fresh) (settings : Settings)
    (stream : List Reading) : Process → Prop
  | reading (before : List (List Char)) (rest : List Reading) (m : Moment)
      (hstream : stream = before.map .line ++ rest) (hfed : Fed config fresh settings before m)
      (hunattended : m.state.Unattended) :
      Kept config fresh settings stream ⟨m, .reading before.length rest⟩
  | closing (before : List (List Char)) (rest : List Reading) (m : Moment) (call : Nat)
      (hstream : stream = before.map .line ++ rest) (hfed : Fed config fresh settings before m) :
      Kept config fresh settings stream ⟨m, .closing call⟩
  | well (before : List (List Char)) (rest : List Reading) (m : Moment)
      (hstream : stream = before.map .line ++ rest) (hfed : Fed config fresh settings before m)
      (hstopped : m.state.phase = .stopped) :
      Kept config fresh settings stream ⟨m, .returned none⟩
  | broken (before : List (List Char)) (error : String) (rest : List Reading) (m : Moment)
      (hstream : stream = before.map .line ++ .broken error :: rest)
      (hfed : Fed config fresh settings before m) (hunattended : m.state.Unattended) :
      Kept config fresh settings stream ⟨m.givenUp, .returned (some error)⟩

namespace Kept

variable {config : Config} {fresh : Nat → Fresh} {settings : Settings} {stream : List Reading}
  {transport : String} {p p' : Process}

theorem begin (h : Process.Begins config transport stream settings p) :
    Kept config fresh settings stream p := by
  obtain ⟨s, effects, now, m, hcreate, hstart, rfl⟩ := h
  obtain ⟨_, rfl⟩ := Scheduler.create_eq_ok hcreate
  have hreached : Scheduler.Reached settings m :=
    ⟨config, transport, .log, _, effects, hcreate, .single ⟨_, rfl, hstart⟩⟩
  cases hstart
  exact .reading [] stream _ rfl ⟨hreached, rfl⟩ ⟨rfl, rfl⟩

/-- What the scheduler does by itself makes no difference. -/
theorem works {m m' : Moment} {progress : Progress} {action : Action}
    (h : Kept config fresh settings stream ⟨m, progress⟩) (hinner : action.inner = true)
    (hnext : m.next? settings action = some m') :
    Kept config fresh settings stream ⟨m', progress⟩ := by
  obtain ⟨effects, hturn⟩ := Moment.turn_of_next? (Action.ordinary_of_inner hinner) hnext
  cases h with
  | reading before rest m hstream hfed hunattended =>
      exact .reading before rest m' hstream (hfed.works hinner hnext)
        (hturn.unattended hinner hunattended)
  | closing before rest m call hstream hfed =>
      exact .closing before rest m' call hstream (hfed.works hinner hnext)
  | well before rest m hstream hfed hstopped =>
      obtain ⟨hsize, hsound⟩ := hfed.reached.sound
      have hfollows : m.Follows settings m' :=
        ⟨action, Action.ordinary_of_inner hinner, hnext⟩
      exact .well before rest m' hstream (hfed.works hinner hnext)
        (hsound.stopped_run hsize hstopped (.single hfollows))
  | broken before error rest m hstream hfed hunattended =>
      rw [hfed.reached.sound.2.next?_givenUp hunattended hinner] at hnext
      cases hnext

theorem step (h : Kept config fresh settings stream p) (hnext : p.Next config fresh settings p') :
    Kept config fresh settings stream p' := by
  cases hnext with
  | works hinner hnext => exact h.works hinner hnext
  | @skips m count text rest hnone =>
      cases h with
      | reading before _ _ hstream hfed hunattended =>
          have hread := Kept.reading (before ++ [text]) rest m (by simpa using hstream)
            (hfed.skips hnone) hunattended
          rwa [List.length_append] at hread
  | @takes m m' count text rest payload hsome hnext =>
      cases h with
      | reading before _ _ hstream hfed hunattended =>
          have haccepts : m.state.phase.accepts = true := by rw [hunattended.running]; rfl
          have hunattended' : m'.state.Unattended := by
            cases hnext
            exact ⟨hunattended.running, hunattended.calls⟩
          have hread := Kept.reading (before ++ [text]) rest m' (by simpa using hstream)
            (hfed.takes haccepts hsome hnext) hunattended'
          rwa [List.length_append] at hread
  | breaks =>
      cases h with
      | reading before _ _ hstream hfed hunattended =>
          exact .broken before _ _ _ hstream hfed hunattended
  | stops hnext =>
      cases h with
      | reading before _ _ hstream hfed hunattended =>
          exact .closing before _ _ _ hstream (hfed.stops hnext)
  | leaves hcall =>
      cases h with
      | closing before rest _ _ hstream hfed =>
          exact .well before rest _ hstream hfed (hfed.reached.sound.2.led.finished _ hcall)

theorem of_reached (h : p.Reached config transport fresh stream settings) :
    Kept config fresh settings stream p := by
  obtain ⟨start, hbegins, hnexts⟩ := h
  induction hnexts with
  | refl => exact begin hbegins
  | tail _ hnext ih => exact ih.step hnext

end Kept

/-- Everything that was read is dealt with: the scheduler is stopped and its buffer is empty, and each
event was evicted or its delivery is over. -/
structure Drained (settings : Settings) (m : Moment) : Prop where
  stopped : m.state.phase = .stopped
  empty : m.state.buffer.contents = []
  settled : ∀ x ∈ m.history.accepted.zipIdx, m.history.Settled settings.channel x

/-- The scheduler was given up without a shutdown: nobody has called for one, and the transport was not
told to shut down.  What is buffered was neither evicted nor taken by a cycle. -/
structure Forsaken (m : Moment) : Prop where
  running : m.state.phase = .running
  uncalled : m.state.calls = []
  untold : closings m.history.trace = 0
  buffered : m.history.numbered.contents.map Prod.fst = m.state.buffer.contents
  accounted : ∀ x ∈ m.history.accepted.zipIdx,
    x.2 ∈ m.history.evicted ∨ x ∈ m.history.drained ∨ x ∈ m.history.numbered.contents
  lost : ∀ x ∈ m.history.numbered.contents, x.2 ∉ m.history.evicted ∧ x ∉ m.history.drained

theorem drained_of_stopped {settings : Settings} {m : Moment} (hm : Sound settings m)
    (hstopped : m.state.phase = .stopped) : Drained settings m where
  stopped := hstopped
  empty := hm.contents_of_stopped hstopped
  settled := fun _ hx => hm.settled_of_closings (hm.closings_of_stopped hstopped) hx

theorem forsaken_of_givenUp {settings : Settings} {m : Moment} (hm : Sound settings m)
    (h : m.state.Unattended) : Forsaken m.givenUp := by
  have hgiven := hm.discard_of_unattended h
  constructor
  case running => exact (congrArg State.phase hgiven).trans h.running
  case uncalled => exact (congrArg State.calls hgiven).trans h.calls
  case untold => exact hm.closings_of_unattended h
  case buffered =>
    rw [Moment.givenUp, State.buffer_discard, ← hm.tallied.buffered, Buffer.contents_map]
  case accounted => exact fun x hx => hm.taken_or_buffered hx
  case lost => exact fun x hx => ⟨(hm.tallied.mem_kept_of_buffered hx).2, hm.not_mem_drained hx⟩

end Courier.Shipper
