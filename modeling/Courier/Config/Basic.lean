import Courier.Double.Shortest
import Courier.Duration
import Courier.Failure
import Courier.Log
import Courier.Text.Numeral
/-!
Settings of a client and the ranges they have to lie in.
-/
namespace Courier

/-- How log records are written. -/
inductive LogFormat where
  | json
  | pretty
  deriving DecidableEq, Repr, Inhabited

def LogFormat.name : LogFormat → String
  | .json => "json"
  | .pretty => "pretty"

/-- The settings of a client. -/
structure Config where
  /-- The key that the collector asks for. -/
  apiKey : Option String := none
  /-- The address of the collector, without a slash at its end. -/
  baseUrl : String := "https://app.margindash.com/api/v1"
  /-- Time between two ticks of the flush timer. -/
  flushInterval : Duration := Duration.ofSeconds 5
  /-- Most events that wait at once. -/
  maxQueueSize : Nat := 1000
  /-- Most events in one request. -/
  batchSize : Nat := 25
  /-- Most attempts to send one batch, the first included. -/
  maxRetries : Nat := 3
  /-- Delay before the second attempt. -/
  backoffBase : Duration := Duration.ofSeconds 1
  /-- Longest delay between two attempts. -/
  backoffMax : Duration := Duration.ofSeconds 30
  /-- Random spread of each delay, from zero to one. -/
  jitter : Double := Double.ofRatio false 1 2
  /-- Type of the events that do not name one. -/
  defaultEventType : String := "ai_request"
  logLevel : String := "info"
  logFormat : LogFormat := .pretty
  deriving DecidableEq, Repr

/-- Why settings are refused. -/
inductive ConfigProblem where
  | zeroFlushInterval
  | zeroQueueSize
  | zeroBatchSize
  | batchSizeTooLarge (size : Nat)
  | zeroRetries
  | jitterOutOfRange (jitter : Double)
  | backoffInverted
  /-- A variable does not hold a number of its range. -/
  | unreadableNumber (name : String) (error : Text.NumeralError)
  /-- The lower-case text names no log format. -/
  | unknownLogFormat (text : String)
  deriving DecidableEq, Repr, Inhabited

namespace Config

/-- Most events that the collector takes in one request. -/
def largestBatch : Nat := 100

instance : Inhabited Config := ⟨{}⟩

def withKey (key : String) : Config := { apiKey := some key }

def trimSlashes (url : String) : String :=
  String.ofList (url.toList.reverse.dropWhile (· == '/')).reverse

def setBaseUrl (c : Config) (url : String) : Config := { c with baseUrl := trimSlashes url }

/-- The settings lie in their ranges; the first one that does not is named. -/
def validate (c : Config) : Except ConfigProblem Unit :=
  if c.flushInterval.isZero then .error .zeroFlushInterval
  else if c.maxQueueSize = 0 then .error .zeroQueueSize
  else if c.batchSize = 0 then .error .zeroBatchSize
  else if largestBatch < c.batchSize then .error (.batchSizeTooLarge c.batchSize)
  else if c.maxRetries = 0 then .error .zeroRetries
  else if !(Double.zero.le c.jitter && c.jitter.le Double.one) then
    .error (.jitterOutOfRange c.jitter)
  else if ¬ c.backoffBase ≤ c.backoffMax then .error .backoffInverted
  else .ok ()

/-- Accepted settings lie in all their ranges. -/
theorem validate_eq_ok_iff {c : Config} :
    c.validate = .ok () ↔
      c.flushInterval.isZero = false ∧ c.maxQueueSize ≠ 0 ∧ c.batchSize ≠ 0 ∧
      c.batchSize ≤ largestBatch ∧ c.maxRetries ≠ 0 ∧
      (Double.zero.le c.jitter && c.jitter.le Double.one) = true ∧
      c.backoffBase ≤ c.backoffMax := by
  have hcheck : ∀ {p : Prop} [Decidable p] {problem : ConfigProblem} {x : Except ConfigProblem Unit},
      (if p then .error problem else x) = .ok () ↔ ¬p ∧ x = .ok () := by
    intro p _ problem x
    by_cases hp : p <;> simp [hp]
  simp only [validate, hcheck, Bool.not_eq_true, Bool.not_eq_true', Bool.not_eq_false, Nat.not_lt,
    Decidable.not_not, and_true, ne_eq]

/-- What is odd about valid settings: a batch that the queue cannot fill. -/
def warnings (c : Config) : List Log.Record :=
  if c.maxQueueSize < c.batchSize then
    [⟨.warn, "batch_size exceeds max_queue_size, batches will never be full",
      [("batch_size", .number c.batchSize), ("max_queue_size", .number c.maxQueueSize)]⟩]
  else []

end Config

namespace ConfigProblem

def message : ConfigProblem → String
  | .zeroFlushInterval => "flush_interval must be > 0"
  | .zeroQueueSize => "max_queue_size must be >= 1"
  | .zeroBatchSize => "batch_size must be >= 1"
  | .batchSizeTooLarge size => s!"batch_size must be <= {Config.largestBatch}, got {size}"
  | .zeroRetries => "max_retries must be >= 1"
  | .jitterOutOfRange jitter => s!"jitter must be within 0.0..=1.0, got {jitter.plain}"
  | .backoffInverted => "backoff_base must not exceed backoff_max"
  | .unreadableNumber name error => s!"invalid {name}: {error.message}"
  | .unknownLogFormat text =>
    s!"invalid MARGINDASH_LOG_FORMAT: {text} (expected 'json' or 'pretty')"

/-- The failure of an operation that was given such settings. -/
def failure (problem : ConfigProblem) : Failure := .config problem.message

end ConfigProblem

end Courier
