import Courier.Proofs.Text.Utf8
import Courier.Proofs.Timeline.Alike
import Courier.Shipper
/-!
The lines of a text and what they hold.

A text is taken line by line: a payload becomes an event, a blank line is passed over, and anything else
costs a warning with the number of the line.
-/
namespace Courier

namespace Text

theorem dropWhile_append_singleton {cs : List Char} {c : Char} (hc : isBlank c = true) :
    (cs ++ [c]).dropWhile isBlank =
      if cs.dropWhile isBlank = [] then [] else cs.dropWhile isBlank ++ [c] := by
  induction cs with
  | nil => simp [hc]
  | cons d cs ih =>
      rw [List.cons_append, List.dropWhile_cons, List.dropWhile_cons]
      by_cases hd : isBlank d = true
      · rw [if_pos hd, if_pos hd, ih]
      · rw [if_neg hd, if_neg hd]
        rfl

theorem trim_append_blank (cs : List Char) {c : Char} (hc : isBlank c = true) :
    trim (cs ++ [c]) = trim cs := by
  rw [trim, trim, dropWhile_append_singleton hc]
  split
  · next hnil => rw [hnil]
  · simp [trimEnd, hc]

end Text

namespace Shipper

open Timeline (World)

theorem lines_of_not_mem {bytes : List Nat} (h : 10 ∉ bytes) (hne : bytes ≠ []) :
    lines bytes = [bytes] := by
  induction bytes with
  | nil => exact absurd rfl hne
  | cons byte rest ih =>
      obtain ⟨hbyte, hrest⟩ := not_or.mp fun hmem => h (List.mem_cons.mpr hmem)
      rw [lines, if_neg (Ne.symm hbyte)]
      cases rest with
      | nil => rfl
      | cons next rest =>
          rw [ih hrest (List.cons_ne_nil _ _)]

/-- A line ends with its line feed. -/
theorem lines_append {bytes : List Nat} (h : 10 ∉ bytes) (rest : List Nat) :
    lines (bytes ++ 10 :: rest) = (bytes ++ [10]) :: lines rest := by
  induction bytes with
  | nil => rw [List.nil_append, lines, if_pos rfl, List.nil_append]
  | cons byte bytes ih =>
      obtain ⟨hbyte, hbytes⟩ := not_or.mp fun hmem => h (List.mem_cons.mpr hmem)
      rw [List.cons_append, lines, if_neg (Ne.symm hbyte), ih hbytes]
      rfl

def bytes (text : String) : List Nat := text.toUTF8.toList.map UInt8.toNat

/-- What a line holds. -/
inductive Content where
  | blank
  | payload (payload : Payload)
  | malformed

/-- What a line holds, blanks around it aside. -/
def content (line : List Char) : Content :=
  let line := Text.trim line
  if line.isEmpty then .blank
  else
    match Payload.parse (String.ofList line) with
    | .ok payload => .payload payload
    | .error _ => .malformed

theorem content_newline (line : List Char) : content (line ++ ['\n']) = content line := by
  rw [content, content, Text.trim_append_blank line (by decide)]

def malformedRecord (number : Nat) : Log.Record :=
  ⟨.warn, "skipping malformed event", [("line", .number number)]⟩

variable (config : Config) (fresh : Nat → Fresh)

/-- Take what a line holds. -/
def takeContent (w : World) (number : Nat) : Content → World
  | .blank => w
  | .payload payload => w.perform (.enqueue (Client.event config payload (fresh number)))
  | .malformed => w.say (malformedRecord number)

theorem takeLine_eq (w : World) (number : Nat) (line : List Char) :
    takeLine config fresh w number (String.ofList line) =
      takeContent config fresh w number (content line) := by
  rw [takeLine, String.toList_ofList, content]
  by_cases hblank : (Text.trim line).isEmpty = true
  · simp only [hblank, if_true]
    rfl
  · simp only [hblank]
    cases Payload.parse (String.ofList (Text.trim line)) <;> rfl

/-- The lines of a text with their numbers, the first one having the given number. -/
def numbered (number : Nat) (cs : List Char) : List (List Char × Nat) :=
  (cs.splitOn '\n').zipIdx number

def takeEntry (w : World) (entry : List Char × Nat) : World :=
  takeContent config fresh w entry.2 (content entry.1)

def takeText (w : World) (number : Nat) (cs : List Char) : World :=
  (numbered number cs).foldl (takeEntry config fresh) w

theorem takeText_of_not_mem {line : List Char} (h : '\n' ∉ line) (w : World) (number : Nat) :
    takeText config fresh w number line = takeContent config fresh w number (content line) := by
  rw [takeText, numbered, List.splitOn_eq_singleton h]
  rfl

theorem takeText_append {line : List Char} (h : '\n' ∉ line) (w : World) (number : Nat)
    (rest : List Char) :
    takeText config fresh w number (line ++ '\n' :: rest) =
      takeText config fresh (takeContent config fresh w number (content line)) (number + 1) rest := by
  rw [takeText, numbered, List.splitOn_append_cons_self, List.splitOn_eq_singleton h]
  rfl

theorem newline_not_mem_utf8 {cs : List Char} (h : '\n' ∉ cs) : 10 ∉ Text.utf8 cs := by
  intro hmem
  obtain ⟨c, hc, hbyte⟩ := List.mem_flatMap.mp hmem
  exact h (Text.mem_charBytes.mp hbyte ▸ hc)

/-- The bytes of a text are taken line by line. -/
theorem takeLines_utf8 (w : World) (number : Nat) (cs : List Char) :
    ∃ count, takeLines config fresh w number (lines (Text.utf8 cs)) =
      (takeText config fresh w number cs, .ok count) := by
  induction hlength : cs.length using Nat.strongRecOn generalizing w number cs with
  | ind n ih =>
      by_cases hbreak : '\n' ∈ cs
      · obtain ⟨line, rest, rfl, hline⟩ := List.eq_append_cons_of_mem hbreak
        have hbytes : Text.utf8 (line ++ '\n' :: rest) = Text.utf8 line ++ 10 :: Text.utf8 rest := by
          rw [Text.utf8_append]
          rfl
        obtain ⟨count, hrest⟩ := ih rest.length (by rw [← hlength]; simp; omega)
          (takeContent config fresh w number (content line)) (number + 1) rest rfl
        refine ⟨count, ?_⟩
        rw [hbytes, lines_append (newline_not_mem_utf8 hline), takeLines,
          Text.decodeUtf8_append_newline, takeText_append config fresh hline]
        simp only [takeLine_eq, content_newline]
        exact hrest
      · rw [takeText_of_not_mem config fresh hbreak]
        cases cs with
        | nil => exact ⟨_, rfl⟩
        | cons c cs =>
            have hne : Text.utf8 (c :: cs) ≠ [] := by
              rw [Text.utf8_cons]
              exact List.append_ne_nil_of_left_ne_nil (Text.charBytes_ne_nil c) _
            rw [lines_of_not_mem (newline_not_mem_utf8 hbreak) hne, takeLines,
              Text.decodeUtf8_utf8]
            simp only [takeLine_eq]
            exact ⟨_, rfl⟩

/-- The payload of a line that holds one. -/
def Content.payload? : Content → Option Payload
  | .payload held => some held
  | .blank | .malformed => none

/-- The payloads of some lines with the numbers of their lines. -/
def payloads (entries : List (List Char × Nat)) : List (Payload × Nat) :=
  entries.filterMap fun (line, number) => (content line).payload?.map (·, number)

def events (entries : List (List Char × Nat)) : List Event :=
  (payloads entries).map fun (payload, number) => Client.event config payload (fresh number)

/-- The numbers of the lines that hold something else. -/
def malformed (entries : List (List Char × Nat)) : List Nat :=
  entries.filterMap fun (line, number) =>
    match content line with
    | .malformed => some number
    | _ => none

theorem events_append (entries more : List (List Char × Nat)) :
    events config fresh (entries ++ more) = events config fresh entries ++ events config fresh more := by
  rw [events, payloads, List.filterMap_append, List.map_append]
  rfl

/-- The warnings about malformed lines among some effects. -/
def skipped (effects : List Effect) : List Log.Record :=
  (Effect.logs effects).filter fun record => record.message == "skipping malformed event"

theorem skipped_append (left right : List Effect) :
    skipped (left ++ right) = skipped left ++ skipped right := by
  rw [skipped, Effect.logs_append, List.filter_append]
  rfl

/-- What an event that comes in says about itself. -/
theorem effects_enqueue (s : Scheduler.State) (event : Event) :
    Effect.sends (s.enqueue event).2 = [] ∧ skipped (s.enqueue event).2 = [] := by
  simp only [Scheduler.State.enqueue]
  cases (s.buffer.enqueue event).1 <;> exact ⟨rfl, rfl⟩

theorem performed_enqueue (w : World) (event : Event) :
    World.Performed w (.enqueue event) (w.scheduler.enqueue event).1 (w.scheduler.enqueue event).2
      (w.perform (.enqueue event)) :=
  World.performed_of_step rfl

/-- A world in which some lines were taken. -/
structure Taken (w : World) (entries : List (List Char × Nat)) (w' : World)
    (effects : List Effect) : Prop where
  after : World.After w effects w'
  scheduler : w'.scheduler = { w.scheduler with
    buffer := (events config fresh entries).foldl (fun b e => (b.enqueue e).2) w.scheduler.buffer }
  sends : Effect.sends effects = []
  skipped : skipped effects = (malformed entries).map malformedRecord

namespace Taken

variable {config fresh} {w w' w'' : World} {entries more : List (List Char × Nat)}
  {effects later : List Effect}

theorem trans (h : Taken config fresh w entries w' effects)
    (hmore : Taken config fresh w' more w'' later) :
    Taken config fresh w (entries ++ more) w'' (effects ++ later) where
  after := h.after.trans hmore.after
  scheduler := by
    rw [hmore.scheduler, h.scheduler, events_append, List.foldl_append]
  sends := by rw [Effect.sends_append, h.sends, hmore.sends, List.append_nil]
  skipped := by
    rw [skipped_append, h.skipped, hmore.skipped, malformed, malformed, malformed,
      List.filterMap_append, List.map_append]

theorem line (w : World) (entry : List Char × Nat) :
    ∃ effects, Taken config fresh w [entry] (takeEntry config fresh w entry) effects := by
  obtain ⟨line, number⟩ := entry
  have htake : takeEntry config fresh w (line, number) =
      takeContent config fresh w number (content line) := rfl
  rw [htake]
  cases hcontent : content line with
  | blank =>
      refine ⟨[], .refl w, ?_, rfl, ?_⟩
      · simp [takeContent, events, payloads, hcontent, Content.payload?]
      · simp [malformed, hcontent, Shipper.skipped, Effect.logs]
  | malformed =>
      refine ⟨_, World.After.does w [.logged (malformedRecord number)], ?_, rfl, ?_⟩
      · simp [events, payloads, hcontent, Content.payload?]
        rfl
      · simp only [malformed, List.filterMap_cons, List.filterMap_nil, hcontent]
        rfl
  | payload payload =>
      have hdone := performed_enqueue w (Client.event config payload (fresh number))
      have hquiet := effects_enqueue w.scheduler (Client.event config payload (fresh number))
      refine ⟨_, hdone.after, ?_, hquiet.1, ?_⟩
      · simp only [events, payloads, List.filterMap_cons, List.filterMap_nil, hcontent,
          Content.payload?, Option.map_some]
        exact hdone.scheduler
      · simp only [malformed, List.filterMap_cons, List.filterMap_nil, hcontent]
        exact hquiet.2

theorem all (w : World) (entries : List (List Char × Nat)) :
    ∃ effects, Taken config fresh w entries (entries.foldl (takeEntry config fresh) w) effects := by
  induction entries generalizing w with
  | nil => exact ⟨[], .refl w, rfl, rfl, rfl⟩
  | cons entry entries ih =>
      obtain ⟨effects, hline⟩ := line w entry
      obtain ⟨later, hlater⟩ := ih (takeEntry config fresh w entry)
      exact ⟨_, hline.trans hlater⟩

end Taken

/-- The effect does not speak of the lines: neither of a malformed one nor of how many there were. -/
def beyondLines : Effect → Bool
  | .logged record =>
    record.message != "skipping malformed event" && record.message != "stdin closed"
  | _ => true

/-- Lines that hold no payload do nothing but what speaks of them. -/
theorem alike_foldl {v w : World} (h : World.Alike beyondLines v w)
    (entries : List (List Char × Nat)) :
    World.Alike beyondLines (entries.foldl (takeEntry config fresh) v)
      ((events config fresh entries).foldl (fun w event => w.perform (.enqueue event)) w) := by
  induction entries generalizing v w with
  | nil => exact h
  | cons entry entries ih =>
      obtain ⟨line, number⟩ := entry
      rw [← List.singleton_append, events_append, List.foldl_append, List.foldl_append]
      refine ih ?_
      rw [List.foldl_cons, List.foldl_nil, takeEntry, events, payloads]
      cases hcontent : content line with
      | blank => simpa [takeContent, hcontent, Content.payload?] using h
      | malformed =>
          have hsaid : World.Alike beyondLines (v.say (malformedRecord number)) w :=
            h.does_left rfl
          simpa [takeContent, hcontent, Content.payload?] using hsaid
      | payload payload =>
          have henqueued := h.perform (.enqueue (Client.event config payload (fresh number)))
          simpa [takeContent, hcontent, Content.payload?] using henqueued

/-- The lines of a text that hold payloads. -/
def heldLines (text : String) : List (List Char) :=
  (text.toList.splitOn '\n').filter fun line => (content line).payload?.isSome

theorem map_fst_payloads (number : Nat) (lines : List (List Char)) :
    (payloads (lines.zipIdx number)).map Prod.fst =
      (lines.filter fun line => (content line).payload?.isSome).filterMap
        fun line => (content line).payload? := by
  induction lines generalizing number with
  | nil => rfl
  | cons line lines ih =>
      have hrest := ih (number + 1)
      rw [payloads] at hrest ⊢
      rw [List.zipIdx_cons, List.filterMap_cons, List.filter_cons]
      cases hheld : (content line).payload? with
      | none => simpa [hheld] using hrest
      | some payload => simpa [hheld] using hrest

end Shipper

end Courier
