import Courier.Log.Line
import Courier.Shipper
import Courier.Text.Timestamp
import Courier.Text.Ulid
import Std.Time.DateTime.Timestamp
/-!
The command line.

Reads the standard input to its end and runs the command on it.  Events go to the standard output and
log records to the standard error.  No connection is ever opened: with a key set, the collector
counts as unreachable.
-/
namespace Courier.Command

/-- All bytes of a stream. -/
partial def readAll (stream : IO.FS.Stream) (read : ByteArray) : IO ByteArray := do
  let chunk ← stream.read 65536
  if chunk.isEmpty then pure read else readAll stream (read ++ chunk)

/-- The variables that the command looks at. -/
def variableNames : List String := [
  "MARGINDASH_API_KEY", "MARGINDASH_BASE_URL", "MARGINDASH_FLUSH_INTERVAL_MS",
  "MARGINDASH_MAX_QUEUE_SIZE", "MARGINDASH_BATCH_SIZE", "MARGINDASH_MAX_RETRIES",
  "MARGINDASH_DEFAULT_EVENT_TYPE", "MARGINDASH_LOG_LEVEL", "MARGINDASH_LOG_FORMAT", "RUST_LOG"]

def environment : IO Environment := do
  let values ← variableNames.mapM fun name => do pure (name, ← IO.getEnv name)
  pure fun name => (values.lookup name).join

/-- Milliseconds since the beginning of 1970. -/
def clock : IO Nat := do
  let now ← Std.Time.Timestamp.now
  pure now.toMillisecondsSinceUnixEpoch.val.toNat

/-- The number that some bytes write down. -/
def number (bytes : List UInt8) : Nat := bytes.foldl (fun n byte => 256 * n + byte.toNat) 0

/-- Tokens for lines, ten random bytes each, all at one time. -/
def tokens (millis : Nat) (random : ByteArray) (line : Nat) : Fresh where
  token := Text.ulid millis (number (random.extract (10 * line) (10 * line + 10)).toList)
  time := Text.timestamp millis

def logLine (format : LogFormat) (time : String) (record : Log.Record) : String :=
  let source := String.ofList Log.source
  match format with
  | .json => record.jsonLine time source
  | .pretty => record.prettyLine time source

end Courier.Command

open Courier Command in
def main : IO UInt32 := do
  let env ← environment
  let bytes ← readAll (← IO.getStdin) ByteArray.empty
  let input := bytes.toList.map UInt8.toNat
  let millis ← clock
  let random ← IO.getRandomBytes (USize.ofNat (10 * ((Shipper.lines input).length + 1)))
  let ending := Shipper.run env ⟨tokens millis random, .unanswered .unreachable⟩ input
  let stdout ← IO.getStdout
  let stderr ← IO.getStderr
  for line in ending.printed do stdout.putStrLn line
  for record in ending.records do
    stderr.putStrLn (logLine ending.format (Text.timestamp millis) record)
  for message in ending.error do stderr.putStrLn s!"Error: {message}"
  pure (UInt32.ofNat ending.code)
