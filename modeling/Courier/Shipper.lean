import Courier.Client
import Courier.Config.Environment
import Courier.Log.Filter
import Courier.Printout
import Courier.Text.Blank
import Courier.Text.Utf8
import Courier.Timeline.Agenda
/-!
The command that ships the lines of its input.

Every line that holds a payload becomes an event; blank lines are passed over, and other lines are
passed over with a warning.  At the end of the input everything that is buffered is delivered, to the
collector if there is a key and to the standard output otherwise.  Bytes that are no text end the run
at once.
-/
namespace Courier.Shipper

open Timeline (World FarEnd)

/-- How a run ended. -/
structure Ending where
  code : Nat
  /-- What was printed, event by event. -/
  printed : List String := []
  error : Option String := none
  format : LogFormat := .pretty
  records : List Log.Record := []
  deriving Repr, Inhabited

/-- What a run depends on besides its settings and its input. -/
structure Surroundings where
  /-- The token and the time for the event of a line. -/
  fresh : Nat → Fresh
  /-- How every exchange with the collector goes. -/
  exchange : Collector.Exchange

/-- The lines of some bytes, each with the line feed that ends it. -/
def lines : List Nat → List (List Nat)
  | [] => []
  | byte :: rest =>
    if byte = 10 then [byte] :: lines rest
    else
      match lines rest with
      | [] => [[byte]]
      | line :: others => (byte :: line) :: others

/-- The filter of the log: the one that is asked for by the environment, else the one of the
settings. -/
def filterOf (env : Environment) (config : Config) : Log.Filter :=
  ((env "RUST_LOG").bind Log.Filter.read?).getD (Log.Filter.readSome config.logLevel)

/-- Take one line of text.  The warning about a malformed line names the line, not what is wrong in
it. -/
def takeLine (config : Config) (fresh : Nat → Fresh) (w : World) (number : Nat) (text : String) :
    World :=
  let line := Text.trim text.toList
  if line.isEmpty then w
  else
    match Payload.parse (String.ofList line) with
    | .ok payload => w.perform (.enqueue (Client.event config payload (fresh number)))
    | .error _ => w.say ⟨.warn, "skipping malformed event", [("line", .number number)]⟩

/-- Take all lines, the first one having the given number, up to bytes that are no text. -/
def takeLines (config : Config) (fresh : Nat → Fresh) :
    World → Nat → List (List Nat) → World × Except Text.Utf8Error Nat
  | w, number, [] => (w, .ok (number - 1))
  | w, number, line :: rest =>
    match Text.decodeUtf8 line with
    | .error error => (w, .error error)
    | .ok text => takeLines config fresh (takeLine config fresh w number text) (number + 1) rest

def startRecords (config : Config) (transport : String) : List Log.Record :=
  (if config.apiKey.isSome then []
    else [⟨.warn, "MARGINDASH_API_KEY not set, printing events to stdout", []⟩])
  ++ [⟨.info, "Starting margindash-ship",
    [("transport", .text transport), ("base_url", .text config.baseUrl),
      ("flush_interval_ms", .number config.flushInterval.loggedMillis),
      ("batch_size", .number config.batchSize),
      ("max_queue_size", .number config.maxQueueSize)]⟩]

/-- The name of the transport, and what it does with batches. -/
def transportOf (config : Config) (exchange : Collector.Exchange) : String × FarEnd :=
  match Collector.Client.ofConfig config with
  | .ok client => (Client.transport, .ofExchange client exchange)
  | .error _ => (Printout.name, {})

def printed (effects : List Effect) : List String :=
  effects.flatMap fun
    | .sent batch => batch.map Event.line
    | _ => []

/-- A scheduler whose timer has started, after what is said at the start. -/
def opened (config : Config) (transport : String) (farEnd : FarEnd) (settings : Scheduler.Settings)
    (state : Scheduler.State) (effects : List Effect) : World :=
  let w : World := .create settings state farEnd (0, none)
  let w := (startRecords config transport).foldl World.say w
  (w.does effects).perform (.start true w.nanos)

/-- The input has ended: everything that is buffered is delivered. -/
def deliverRest (w : World) (count : Nat) : World :=
  let w := w.say ⟨.info, "stdin closed", [("lines", .number count)]⟩
  let (w, _) := w.finish .shutdown
  w.say ⟨.info, "margindash-ship shutdown complete",
    [("dropped", .number w.scheduler.buffer.dropped)]⟩

/-- The world at the end of a run, and the number of lines unless the input was no text. -/
def session (config : Config) (surroundings : Surroundings) (input : List Nat) :
    Except ConfigProblem (World × Except Text.Utf8Error Nat) :=
  let (transport, farEnd) := transportOf config surroundings.exchange
  match Scheduler.create config transport .log with
  | .error problem => .error problem
  | .ok (settings, state, effects) =>
    let w := opened config transport farEnd settings state effects
    match takeLines config surroundings.fresh w 1 (lines input) with
    | (w, .error error) => .ok (w, .error error)
    | (w, .ok count) => .ok (deliverRest w count, .ok count)

def runWith (config : Config) (surroundings : Surroundings) (input : List Nat) : Ending :=
  match session config surroundings input with
  | .error problem => { code := 1, error := some problem.failure.message }
  | .ok (w, .error error) =>
    { code := 1
      error := some error.message
      records := Effect.logs (w.trace.map Prod.snd) }
  | .ok (w, .ok _) =>
    let effects := w.trace.map Prod.snd
    { code := 0
      printed := if config.apiKey.isSome then [] else printed effects
      records := Effect.logs effects }

def run (env : Environment) (surroundings : Surroundings) (input : List Nat) : Ending :=
  match Config.ofEnvironment env with
  | .error problem => { code := 1, error := some problem.failure.message }
  | .ok config =>
    let ending := runWith config surroundings input
    { ending with
      format := config.logFormat
      records := ending.records.filter (filterOf env config).admits }

end Courier.Shipper
