import Courier.Config.Basic
import Courier.Outcome
/-!
When a batch is sent again, and how long the pause before that is.

The pause doubles with every attempt up to a greatest one.  With jitter it is scaled by a random
factor; the random draw is given from outside.
-/
namespace Courier

/-- How often and with which pauses a batch is sent. -/
structure Backoff where
  /-- Most attempts, the first included; none counts as one. -/
  maxAttempts : Nat := 3
  /-- Pause after the first attempt. -/
  initial : Duration := Duration.ofSeconds 1
  /-- Longest pause. -/
  longest : Duration := Duration.ofSeconds 30
  /-- A pause is scaled by a factor between `1 - jitter` and `1 + jitter`. -/
  jitter : Double := Double.ofRatio false 1 2
  deriving DecidableEq, Repr

/-- A computation that breaks off with a message. -/
structure Panic where
  message : String
  deriving DecidableEq, Repr, Inhabited

/-- A random draw: the scaled pause, or nothing if it is no duration. -/
abbrev Draw := Duration → Option Duration

namespace Backoff

instance : Inhabited Backoff := ⟨{}⟩

def ofConfig (c : Config) : Backoff where
  maxAttempts := c.maxRetries
  initial := c.backoffBase
  longest := c.backoffMax
  jitter := c.jitter

/-- Attempts that are really made. -/
def attempts (b : Backoff) : Nat := max b.maxAttempts 1

/-- The pause after an attempt, before jitter: the initial one doubled for each attempt before it, at
most 31 times. -/
def baseDelay (b : Backoff) (attempt : Nat) : Duration :=
  min (b.initial.scale (Nat.pow 2 (min (attempt - 1) 31))) b.longest

/-- The jitter that is applied. -/
def spread (b : Backoff) : Double := b.jitter.clamp Double.zero Double.one

/-- The pause after an attempt is a matter of chance. -/
def isRandom (b : Backoff) (attempt : Nat) : Bool :=
  !b.spread.isZero && !(b.baseDelay attempt).isZero

/-- There is nothing to draw from between bounds that are not numbers. -/
def emptyRange : Panic := ⟨"cannot sample empty range"⟩

/-- The pause after an attempt with a given draw. -/
def delayFor (b : Backoff) (draw : Draw) (attempt : Nat) : Except Panic Duration :=
  let base := b.baseDelay attempt
  if b.isRandom attempt then
    if b.spread = .nan then .error emptyRange
    else .ok (min ((draw base).getD b.longest) b.longest)
  else .ok base

theorem baseDelay_le (b : Backoff) (attempt : Nat) : b.baseDelay attempt ≤ b.longest := by
  show (b.baseDelay attempt).nanos ≤ b.longest.nanos
  rw [baseDelay, Duration.nanos_min]
  exact Nat.min_le_right _ _

end Backoff

end Courier
