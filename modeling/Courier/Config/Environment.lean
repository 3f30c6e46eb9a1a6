import Courier.Config.Basic
import Courier.Text.Case
/-!
Settings from environment variables.

Every variable that is set replaces the default of its own setting; they are read in a fixed order
and the first one that cannot be read decides the problem.
-/
namespace Courier

/-- The values of the variables that are set to a text. -/
abbrev Environment := String → Option String

namespace Config

def maxWord : Nat := 0xFFFFFFFFFFFFFFFF

def maxHalfWord : Nat := 0xFFFFFFFF

/-- The number that a variable holds, or a default if it is not set. -/
def readNumber (env : Environment) (name : String) (bound default : Nat) :
    Except ConfigProblem Nat :=
  match env name with
  | none => .ok default
  | some text =>
    match Text.readNat bound text with
    | .ok n => .ok n
    | .error error => .error (.unreadableNumber name error)

/-- The log format with a name, whatever its case. -/
def readLogFormat (text : String) : Except ConfigProblem LogFormat :=
  let lower := Text.toLower text
  if lower = "json" then .ok .json
  else if lower = "pretty" then .ok .pretty
  else .error (.unknownLogFormat lower)

/-- The settings that the variables give, before their ranges are checked. -/
def readEnvironment (env : Environment) : Except ConfigProblem Config := do
  let base : Config := {}
  let interval ←
    readNumber env "MARGINDASH_FLUSH_INTERVAL_MS" maxWord base.flushInterval.millis
  let queue ← readNumber env "MARGINDASH_MAX_QUEUE_SIZE" maxWord base.maxQueueSize
  let batch ← readNumber env "MARGINDASH_BATCH_SIZE" maxWord base.batchSize
  let retries ← readNumber env "MARGINDASH_MAX_RETRIES" maxHalfWord base.maxRetries
  let format ←
    match env "MARGINDASH_LOG_FORMAT" with
    | none => pure base.logFormat
    | some text => readLogFormat text
  pure {
    apiKey := (env "MARGINDASH_API_KEY").filter (· ≠ "")
    baseUrl := ((env "MARGINDASH_BASE_URL").map trimSlashes).getD base.baseUrl
    flushInterval := Duration.ofMillis interval
    maxQueueSize := queue
    batchSize := batch
    maxRetries := retries
    defaultEventType := (env "MARGINDASH_DEFAULT_EVENT_TYPE").getD base.defaultEventType
    logLevel := (env "MARGINDASH_LOG_LEVEL").getD base.logLevel
    logFormat := format }

/-- The settings that the variables give, if all of them can be read and lie in their ranges. -/
def ofEnvironment (env : Environment) : Except ConfigProblem Config := do
  let config ← readEnvironment env
  config.validate
  pure config

theorem validate_of_ofEnvironment {env : Environment} {config : Config}
    (h : ofEnvironment env = .ok config) : config.validate = .ok () := by
  unfold ofEnvironment at h
  cases hr : readEnvironment env with
  | error problem => rw [hr] at h; cases h
  | ok read =>
    rw [hr] at h
    cases hv : read.validate with
    | error problem => simp [bind, Except.bind, hv] at h
    | ok u =>
      simp only [bind, Except.bind, hv, pure, Except.pure, Except.ok.injEq] at h
      subst h
      exact hv

end Config

end Courier
