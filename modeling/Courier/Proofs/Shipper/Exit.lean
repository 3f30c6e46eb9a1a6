import Courier.Proofs.Shipper.Process
import Courier.Proofs.Shipper.Run
import Courier.Proofs.Timeline.Inner
/-!
How the command ends.

The command returns well only after a shutdown, which leaves nothing behind.  A read that fails is the
other way out, and there the shutdown is passed by: the events of the lines before it that were not taken
yet are lost.  The sessions of the command are runs of the process, so they end in the same two ways.
-/
namespace Courier.Shipper

open Scheduler (Action Moment Settings)
open Timeline (World FarEnd)
open Timeline.World (After At)

theorem Reading.decode_of_line {bytes : List Nat} {text : List Char}
    (h : Reading.ofLine bytes = .line text) : Text.decodeUtf8 bytes = .ok (String.ofList text) := by
  unfold Reading.ofLine at h
  split at h
  · next heq =>
      cases h
      rw [heq, String.ofList_toList]
  · cases h

theorem Reading.decode_of_broken {bytes : List Nat} {message : String}
    (h : Reading.ofLine bytes = .broken message) :
    ∃ error, Text.decodeUtf8 bytes = .error error ∧ error.message = message := by
  unfold Reading.ofLine at h
  split at h
  · cases h
  · next error heq =>
      cases h
      exact ⟨error, heq, rfl⟩

/-- A line of text is read whatever comes after it. -/
theorem readings_append {line : String} (h : '\n' ∉ line.toList) (rest : List Nat) :
    readings (bytes (line ++ "\n") ++ rest) = .line (line.toList ++ ['\n']) :: readings rest := by
  have hbytes : bytes (line ++ "\n") = Text.utf8 line.toList ++ [10] := by
    rw [bytes, Text.toList_toUTF8, String.toList_append, Text.utf8_append]
    rfl
  rw [hbytes, List.append_assoc, List.singleton_append, readings,
    lines_append (newline_not_mem_utf8 h), List.map_cons, Reading.ofLine,
    Text.decodeUtf8_append_newline]
  simp only [String.toList_ofList]
  rfl

theorem readings_invalid :
    readings [255] = [.broken "invalid utf-8 sequence of 1 bytes from index 0"] := by
  decide +kernel

section

variable (config : Config) (fresh : Nat → Fresh)

/-- Lines are taken up to a reading of another kind. -/
theorem takeLines_map_line {before : List (List Char)} {rest : List Reading}
    {input : List (List Nat)} (h : input.map .ofLine = before.map .line ++ rest) (w : World)
    (number : Nat) :
    ∃ later : List (List Nat), later.map Reading.ofLine = rest ∧
      takeLines config fresh w number input =
        takeLines config fresh ((before.zipIdx number).foldl (takeEntry config fresh) w)
          (number + before.length) later := by
  induction before generalizing input w number with
  | nil => exact ⟨input, h, rfl⟩
  | cons text before ih =>
      cases input with
      | nil => cases h
      | cons bytes input =>
          rw [List.map_cons, List.map_cons, List.cons_append, List.cons.injEq] at h
          obtain ⟨later, hlater, htake⟩ := ih h.2
            (takeContent config fresh w number (content text)) (number + 1)
          refine ⟨later, hlater, ?_⟩
          rw [takeLines, Reading.decode_of_line h.1]
          simp only [takeLine_eq]
          rw [htake, List.length_cons, Nat.add_assoc, Nat.add_comm 1]
          rfl

theorem takeLines_of_lines {before : List (List Char)} {input : List Nat}
    (h : readings input = before.map .line) (w : World) :
    takeLines config fresh w 1 (lines input) =
      ((before.zipIdx 1).foldl (takeEntry config fresh) w, .ok before.length) := by
  obtain ⟨later, hlater, htake⟩ :=
    takeLines_map_line config fresh (h.trans (List.append_nil _).symm) w 1
  obtain rfl := List.map_eq_nil_iff.mp hlater
  rw [htake, takeLines, Nat.add_sub_cancel_left]

theorem takeLines_of_broken {before : List (List Char)} {message : String} {rest : List Reading}
    {input : List Nat} (h : readings input = before.map .line ++ .broken message :: rest)
    (w : World) :
    ∃ error, error.message = message ∧ takeLines config fresh w 1 (lines input) =
      ((before.zipIdx 1).foldl (takeEntry config fresh) w, .error error) := by
  obtain ⟨later, hlater, htake⟩ := takeLines_map_line config fresh h w 1
  obtain ⟨bytes, later, rfl, hbytes, -⟩ := List.map_eq_cons_iff.mp hlater
  obtain ⟨error, hdecode, hmessage⟩ := Reading.decode_of_broken hbytes
  refine ⟨error, hmessage, ?_⟩
  rw [htake, takeLines, hdecode]

variable {settings : Settings} {m m' : Moment} {w : World}

/-- A process reads a line as the session takes it. -/
theorem Process.Next.of_takeEntry (hat : At settings m w) (text : List Char) (count : Nat)
    (rest : List Reading) :
    ∃ m', Process.Next config fresh settings ⟨m, .reading count (.line text :: rest)⟩
        ⟨m', .reading (count + 1) rest⟩ ∧
      At settings m' (takeEntry config fresh w (text, count + 1)) := by
  rw [takeEntry]
  cases hcontent : content text with
  | blank => exact ⟨m, .skips (by rw [hcontent]; rfl), hat⟩
  | malformed => exact ⟨m, .skips (by rw [hcontent]; rfl), hat.does _⟩
  | payload payload =>
      obtain ⟨m', hnext⟩ : ∃ m', m.next? settings
          (.enqueue (Client.event config payload (fresh (count + 1)))) = some m' := ⟨_, rfl⟩
      exact ⟨m', .takes (by rw [hcontent]; rfl) hnext, hat.next hnext⟩

/-- A process reads lines as the session takes them. -/
theorem exists_read (hat : At settings m w) (before : List (List Char)) (count : Nat)
    (rest : List Reading) :
    ∃ m', Relation.ReflTransGen (Process.Next config fresh settings)
        ⟨m, .reading count (before.map .line ++ rest)⟩ ⟨m', .reading (count + before.length) rest⟩ ∧
      At settings m' ((before.zipIdx (count + 1)).foldl (takeEntry config fresh) w) := by
  induction before generalizing m w count with
  | nil => exact ⟨m, .refl, hat⟩
  | cons text before ih =>
      obtain ⟨m₁, hnext, hat₁⟩ :=
        Process.Next.of_takeEntry config fresh hat text count (before.map .line ++ rest)
      obtain ⟨m', hlater, hat'⟩ := ih hat₁ (count + 1)
      rw [Nat.add_assoc, Nat.add_comm 1] at hlater
      exact ⟨m', .head hnext hlater, hat'⟩

/-- A scheduler that goes on by itself lets the process go on. -/
theorem works_of_alone (halone : Timeline.World.Alone settings m m') (progress : Progress) :
    Relation.ReflTransGen (Process.Next config fresh settings) ⟨m, progress⟩ ⟨m', progress⟩ :=
  halone.lift (Process.mk · progress) fun _ _ ⟨_, hinner, hnext⟩ => .works hinner hnext

end

section

/-- With accepted settings the command can begin. -/
theorem exists_begins {config : Config} (hvalid : config.validate = .ok ()) (transport : String)
    (stream : List Reading) :
    ∃ m, Process.Begins config transport stream (.ofConfig config transport .log)
        ⟨m, .reading 0 stream⟩ ∧
      m.state = { phase := .running, buffer := Buffer.empty config.maxQueueSize,
                  timer := .start config.flushInterval 0 } := by
  have hcreate := Scheduler.create_of_validate hvalid transport .log
  obtain ⟨m, hstart⟩ : ∃ m, (Moment.first { buffer := Buffer.empty config.maxQueueSize }).next?
      (.ofConfig config transport .log) (.start true 0) = some m := ⟨_, rfl⟩
  refine ⟨m, ⟨_, _, 0, m, hcreate, hstart, rfl⟩, ?_⟩
  cases hstart
  rfl

/-- The settings of the scheduler in a session. -/
def settingsOf (config : Config) (surroundings : Surroundings) : Settings :=
  .ofConfig config (transportOf config surroundings.exchange).1 .log

/-- The world in which a session takes its lines: a process begins there, and nothing is buffered or
sent. -/
structure Opened (config : Config) (surroundings : Surroundings) (w : World) : Prop where
  begins : ∀ stream, ∃ m,
    Process.Begins config (transportOf config surroundings.exchange).1 stream
      (settingsOf config surroundings) ⟨m, .reading 0 stream⟩ ∧
    At (settingsOf config surroundings) m w
  buffer : w.scheduler.buffer = Buffer.empty config.maxQueueSize
  sends : Effect.sends (w.trace.map Prod.snd) = []
  session : ∀ input, session config surroundings input =
    match takeLines config surroundings.fresh w 1 (lines input) with
    | (w, .error error) => .ok (w, .error error)
    | (w, .ok count) => .ok (deliverRest w count, .ok count)

variable {config : Config} {surroundings : Surroundings} {w : World}

theorem exists_opened (hvalid : config.validate = .ok ()) (surroundings : Surroundings) :
    ∃ w, Opened config surroundings w := by
  have hcreate := Scheduler.create_of_validate hvalid
    (transportOf config surroundings.exchange).1 .log
  obtain ⟨hafter, hscheduler⟩ := opened_spec config (transportOf config surroundings.exchange).1
    (transportOf config surroundings.exchange).2 (settingsOf config surroundings)
    (Buffer.empty config.maxQueueSize)
    (config.warnings.map .logged ++ [.counted (.bufferCapacity config.maxQueueSize)])
  refine ⟨_, ?begins, congrArg Scheduler.State.buffer hscheduler, ?sends, ?session⟩
  case begins =>
    intro stream
    obtain ⟨m, hbegins, hstate⟩ := exists_begins hvalid _ stream
    exact ⟨m, hbegins, hafter.settings, hscheduler.trans hstate.symm⟩
  case sends => exact sends_opened ..
  case session =>
    intro input
    rw [Shipper.session]
    simp only [hcreate]
    rfl

/-- A process reads the first lines of its input as a session takes them. -/
theorem Opened.read (h : Opened config surroundings w) (before : List (List Char))
    (rest : List Reading) :
    ∃ m, Process.Reached config (transportOf config surroundings.exchange).1 surroundings.fresh
        (before.map .line ++ rest) (settingsOf config surroundings)
        ⟨m, .reading before.length rest⟩ ∧
      At (settingsOf config surroundings) m
        ((before.zipIdx 1).foldl (takeEntry config surroundings.fresh) w) := by
  obtain ⟨m₀, hbegins, hat⟩ := h.begins (before.map .line ++ rest)
  obtain ⟨m, hread, hat'⟩ := exists_read config surroundings.fresh hat before 0 rest
  rw [Nat.zero_add] at hread hat'
  exact ⟨m, ⟨_, hbegins, hread⟩, hat'⟩

end

/-- How a process is left that has returned. -/
structure Exit (config : Config) (fresh : Nat → Fresh) (settings : Settings)
    (stream : List Reading) (p : Process) : Prop where
  /-- When it has returned well, everything that it had read is dealt with. -/
  well : p.progress = .returned none →
    ∃ (before : List (List Char)) (rest : List Reading), stream = before.map .line ++ rest ∧
      p.moment.history.accepted = events config fresh (before.zipIdx 1) ∧
      Drained settings p.moment
  /-- When it has returned with an error, a read has failed: what came in by the lines before is left
  where it was, and nothing happens to it any more. -/
  broken : ∀ error, p.progress = .returned (some error) →
    ∃ (before : List (List Char)) (rest : List Reading),
      stream = before.map .line ++ .broken error :: rest ∧
      p.moment.history.accepted = events config fresh (before.zipIdx 1) ∧
      Forsaken p.moment ∧ ∀ p', ¬p.Next config fresh settings p'

theorem exit_of_reached {config : Config} {transport : String} {fresh : Nat → Fresh}
    {stream : List Reading} {settings : Settings} {p : Process}
    (h : p.Reached config transport fresh stream settings) :
    Exit config fresh settings stream p := by
  cases Kept.of_reached h with
  | reading before rest m hstream hfed hunattended => exact ⟨nofun, nofun⟩
  | closing before rest m call hstream hfed => exact ⟨nofun, nofun⟩
  | well before rest m hstream hfed hstopped =>
      refine ⟨fun _ => ⟨before, rest, hstream, hfed.accepted, ?_⟩, nofun⟩
      exact drained_of_stopped hfed.reached.sound.2 hstopped
  | broken before error rest m hstream hfed hunattended =>
      have hsound := hfed.reached.sound.2
      refine ⟨nofun, fun message hmessage => ?_⟩
      cases hmessage
      refine ⟨before, rest, hstream, hfed.accepted, forsaken_of_givenUp hsound hunattended, ?_⟩
      rintro p' ⟨hinner, hnext⟩
      rw [hsound.next?_givenUp hunattended hinner] at hnext
      cases hnext

/-- A session whose input is read to its end is a process that has called for a shutdown. -/
structure Closed (config : Config) (surroundings : Surroundings) (input : List Nat)
    (before : List (List Char)) (p : Process) (w : World) : Prop where
  session : session config surroundings input = .ok (w, .ok before.length)
  reached : p.Reached config (transportOf config surroundings.exchange).1 surroundings.fresh
    (readings input) (settingsOf config surroundings)
  closing : ∃ call, p.progress = .closing call
  state : p.moment.state = w.scheduler

/-- A session in which a read fails is a process that has returned with the error.  The newest events of
the lines before are still buffered, and nothing was sent or printed. -/
structure BrokenOff (env : Environment) (config : Config) (surroundings : Surroundings)
    (input : List Nat) (before : List (List Char)) (message : String) (p : Process) (w : World) :
    Prop where
  session : ∃ error, error.message = message ∧
    session config surroundings input = .ok (w, .error error)
  reached : p.Reached config (transportOf config surroundings.exchange).1 surroundings.fresh
    (readings input) (settingsOf config surroundings)
  returned : p.progress = .returned (some message)
  state : p.moment.state = w.scheduler.discard
  buffered : w.scheduler.buffer.contents =
    (events config surroundings.fresh (before.zipIdx 1)).rtake config.maxQueueSize
  sends : Effect.sends (w.trace.map Prod.snd) = []
  ending : (run env surroundings input).code = 1 ∧ (run env surroundings input).printed = [] ∧
    (run env surroundings input).error = some message

section

variable {config : Config} {surroundings : Surroundings} {input : List Nat}
  {before : List (List Char)}

theorem exists_closed (hvalid : config.validate = .ok ())
    (hreadings : readings input = before.map .line) :
    ∃ p w, Closed config surroundings input before p w := by
  obtain ⟨w₀, hopened⟩ := exists_opened hvalid surroundings
  obtain ⟨m, hreached, hat⟩ := hopened.read before []
  have htake := takeLines_of_lines config surroundings.fresh hreadings w₀
  generalize (before.zipIdx 1).foldl (takeEntry config surroundings.fresh) w₀ = w at hat htake
  obtain ⟨m₁, hnext, m₂, halone, hat₂⟩ :=
    (hat.does [.logged (closedRecord before.length)]).shutdown
  refine ⟨⟨m₂, .closing m.state.nextCall⟩, deliverRest w before.length, ?_, ?_, ⟨_, rfl⟩, ?_⟩
  · rw [hopened.session, htake]
  · rw [List.append_nil, ← hreadings] at hreached
    obtain ⟨start, hbegins, hread⟩ := hreached
    have hworks := works_of_alone config surroundings.fresh halone (.closing m.state.nextCall)
    exact ⟨start, hbegins, (hread.tail (.stops hnext)).trans hworks⟩
  · rw [deliverRest_eq]
    exact hat₂.scheduler.symm

theorem exists_brokenOff {env : Environment} (surroundings : Surroundings)
    (hconfig : Config.ofEnvironment env = .ok config)
    {message : String} {rest : List Reading}
    (hreadings : readings input = before.map .line ++ .broken message :: rest) :
    ∃ p w, BrokenOff env config surroundings input before message p w := by
  have hvalid := Config.validate_of_ofEnvironment hconfig
  obtain ⟨w₀, hopened⟩ := exists_opened hvalid surroundings
  obtain ⟨m, hreached, hat⟩ := hopened.read before (.broken message :: rest)
  obtain ⟨error, hmessage, htake⟩ :=
    takeLines_of_broken config surroundings.fresh hreadings w₀
  obtain ⟨effects, htaken⟩ :
      ∃ effects, Taken config surroundings.fresh w₀ (before.zipIdx 1) _ effects := Taken.all ..
  generalize (before.zipIdx 1).foldl (takeEntry config surroundings.fresh) w₀ = w
    at hat htake htaken
  have hsession : session config surroundings input = .ok (w, .error error) := by
    rw [hopened.session, htake]
  refine ⟨⟨m.givenUp, .returned (some message)⟩, w, ⟨error, hmessage, hsession⟩, ?_, rfl,
    ?_, ?_, ?_, ?_⟩
  · rw [hreadings]
    obtain ⟨start, hbegins, hread⟩ := hreached
    exact ⟨start, hbegins, hread.tail .breaks⟩
  · exact congrArg Scheduler.State.discard hat.scheduler.symm
  · rw [htaken.scheduler, hopened.buffer]
    exact (foldl_enqueue_empty (maxQueueSize_ne_zero hvalid) _).1
  · rw [htaken.after.trace, Effect.sends_append, hopened.sends, htaken.sends]
    rfl
  · simp only [run, hconfig, runWith, hsession, hmessage, and_self]

end

/-- A command with accepted settings can begin.  Whatever it reads, and however its scheduler goes on
meanwhile, it returns well only with everything dealt with that it had read; and it returns with an
error where a read has failed, without a shutdown and with what was buffered left behind.  The sessions
of the command are among these runs: one whose input is read to its end has called for a shutdown, one in
which a read fails has returned, and the newest events of the lines before it were not sent. -/
theorem exit_drained_or_forsaken {env : Environment} {config : Config}
    (hconfig : Config.ofEnvironment env = .ok config) :
    (∀ (transport : String) (fresh : Nat → Fresh) (stream : List Reading),
      (∃ settings p, Process.Begins config transport stream settings p) ∧
      ∀ settings p, Process.Reached config transport fresh stream settings p →
        Exit config fresh settings stream p) ∧
    ∀ (surroundings : Surroundings) (input : List Nat) (before : List (List Char)),
      (readings input = before.map .line → ∃ p w, Closed config surroundings input before p w) ∧
      ∀ (message : String) (rest : List Reading),
        readings input = before.map .line ++ .broken message :: rest →
        ∃ p w, BrokenOff env config surroundings input before message p w := by
  have hvalid := Config.validate_of_ofEnvironment hconfig
  refine ⟨fun transport fresh stream => ⟨?_, fun settings p hreached => exit_of_reached hreached⟩,
    fun surroundings input before => ⟨exists_closed hvalid, fun message rest =>
      exists_brokenOff surroundings hconfig⟩⟩
  obtain ⟨m, hbegins, -⟩ := exists_begins hvalid transport stream
  exact ⟨_, _, hbegins⟩

/-- Of two events a queue of one keeps the second, and bytes that are no text have it lost. -/
theorem exit_forsaken_after_two_events :
    let env : Environment := fun name =>
      if name = "MARGINDASH_MAX_QUEUE_SIZE" then some "1" else none
    let config : Config := { maxQueueSize := 1 }
    let surroundings : Surroundings :=
      ⟨fun number => ⟨toString number, "now"⟩, .unanswered .unreachable⟩
    let line := "\x7b\"customer_external_id\":\"a\",\"revenue_amount_in_cents\":1," ++
      "\"vendor_responses\":[]\x7d"
    let shown := "\x7b\"customer_external_id\":\"a\",\"event_type\":\"ai_request\"," ++
      "\"occurred_at\":\"now\",\"revenue_amount_in_cents\":1,\"unique_request_token\":\"2\"," ++
      "\"vendor_responses\":[]\x7d"
    let input := bytes (line ++ "\n") ++ (bytes (line ++ "\n") ++ [255])
    Config.ofEnvironment env = .ok config ∧
      ∃ p w, BrokenOff env config surroundings input
          [line.toList ++ ['\n'], line.toList ++ ['\n']]
          "invalid utf-8 sequence of 1 bytes from index 0" p w ∧
        Exit config surroundings.fresh (settingsOf config surroundings) (readings input) p ∧
        w.scheduler.buffer.contents.map Event.line = [shown] := by
  intro env config surroundings line shown input
  have hconfig : Config.ofEnvironment env = .ok config := by decide +kernel
  have hline : '\n' ∉ line.toList := by decide +kernel
  have hreadings : readings input = [line.toList ++ ['\n'], line.toList ++ ['\n']].map .line ++
      .broken "invalid utf-8 sequence of 1 bytes from index 0" :: [] := by
    rw [readings_append hline, readings_append hline, readings_invalid]
    rfl
  obtain ⟨hruns, hsessions⟩ := exit_drained_or_forsaken hconfig
  obtain ⟨p, w, hbroken⟩ := (hsessions surroundings input _).2 _ _ hreadings
  refine ⟨hconfig, p, w, hbroken, (hruns _ _ _).2 _ _ hbroken.reached, ?_⟩
  rw [hbroken.buffered]
  decide +kernel

/-- An event in a line of its own is lost when the bytes after it are no text: the command returns
without having called for a shutdown, and the event is neither evicted nor sent. -/
theorem event_lost_before_broken_line :
    let config : Config := {}
    let surroundings : Surroundings :=
      ⟨fun number => ⟨toString number, "now"⟩, .unanswered .unreachable⟩
    let line := "\x7b\"customer_external_id\":\"a\",\"revenue_amount_in_cents\":1," ++
      "\"vendor_responses\":[],\"unique_request_token\":\"t\",\"occurred_at\":\"o\"\x7d"
    let shown := "\x7b\"customer_external_id\":\"a\",\"event_type\":\"ai_request\"," ++
      "\"occurred_at\":\"o\",\"revenue_amount_in_cents\":1,\"unique_request_token\":\"t\"," ++
      "\"vendor_responses\":[]\x7d"
    let input := bytes (line ++ "\n") ++ [255]
    Config.ofEnvironment (fun _ => none) = .ok config ∧
      ∃ p w, BrokenOff (fun _ => none) config surroundings input [line.toList ++ ['\n']]
          "invalid utf-8 sequence of 1 bytes from index 0" p w ∧
        Forsaken p.moment ∧ p.moment.state.buffer.contents.map Event.line = [shown] := by
  intro config surroundings line shown input
  have hconfig : Config.ofEnvironment (fun _ => none) = .ok config := by decide +kernel
  have hline : '\n' ∉ line.toList := by decide +kernel
  have hreadings : readings input = [line.toList ++ ['\n']].map .line ++
      .broken "invalid utf-8 sequence of 1 bytes from index 0" :: [] := by
    rw [readings_append hline, readings_invalid]
    rfl
  obtain ⟨p, w, hbroken⟩ := exists_brokenOff surroundings hconfig hreadings
  obtain ⟨-, -, -, -, hforsaken, -⟩ :=
    (exit_of_reached hbroken.reached).broken _ hbroken.returned
  refine ⟨hconfig, p, w, hbroken, hforsaken, ?_⟩
  rw [hbroken.state, Scheduler.State.buffer_discard, hbroken.buffered]
  decide +kernel

end Courier.Shipper
