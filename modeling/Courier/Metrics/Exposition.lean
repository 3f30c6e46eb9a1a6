import Courier.Metrics.Ledger
import Courier.Double.Shortest
/-!
The numbers as text for a metrics collector.

Families stand in the order of their names.  Each has a line of help, a line with its type and one
line for each sample; a family with labels that has no sample yet is left out.
-/
namespace Courier.Metrics

/-- A label value: quotes, backslashes and line breaks are escaped. -/
def escapeLabel (s : String) : String :=
  String.ofList (s.toList.flatMap fun c =>
    if c = '\\' then ['\\', '\\']
    else if c = '"' then ['\\', '"']
    else if c = '\n' then ['\\', 'n']
    else [c])

def sample (name value : String) : String := s!"{name} {value}"

def labelled (name : String) (labels : List (String × String)) (value : String) : String :=
  let texts := labels.map fun (label, content) => s!"{label}=\"{escapeLabel content}\""
  let list := ",".intercalate texts
  s!"{name}\x7b{list}\x7d {value}"

/-- The lines of a family, none if it has no sample. -/
def familyLines (name help kind : String) (samples : List String) : List String :=
  if samples.isEmpty then []
  else s!"# HELP {name} {help}" :: s!"# TYPE {name} {kind}" :: samples

def counterLines (name help : String) (value : Double) : List String :=
  familyLines name help "counter" [sample name value.plain]

def gaugeLines (name help : String) (value : Double) : List String :=
  familyLines name help "gauge" [sample name value.plain]

def countersLines (name help label : String) (family : Family Double) : List String :=
  familyLines name help "counter"
    (family.map fun (content, value) => labelled name [(label, content)] value.plain)

/-- The running totals of a list of counts. -/
def runningTotals (start : Nat) : List Nat → List Nat
  | [] => []
  | n :: rest => (start + n) :: runningTotals (start + n) rest

/-- The samples of one histogram: each bucket with those below it, all observations, their sum. -/
def histogramSamples (name label content : String) (h : Histogram) : List String :=
  let bucket (bound : String) (count : Nat) : String :=
    labelled s!"{name}_bucket" [(label, content), ("le", bound)] s!"{count}"
  List.zipWith (fun bound count => bucket bound.plain count) flushBounds
      (runningTotals 0 h.buckets)
  ++ [bucket "+Inf" h.count,
    labelled s!"{name}_sum" [(label, content)] h.sum.plain,
    labelled s!"{name}_count" [(label, content)] s!"{h.count}"]

def Ledger.lines (ledger : Ledger) : List String :=
  countersLines "margindash_batches_total" "Total batches by final outcome" "outcome" ledger.batches
  ++ gaugeLines "margindash_buffer_capacity" "Maximum buffer capacity" ledger.bufferCapacity
  ++ gaugeLines "margindash_buffer_size" "Current number of events in buffer" ledger.bufferSize
  ++ countersLines "margindash_events_delivered_total" "Total events accepted by the collector"
    "transport" ledger.delivered
  ++ countersLines "margindash_events_dropped_total" "Total events lost" "reason" ledger.dropped
  ++ counterLines "margindash_events_enqueued_total" "Total events accepted into the buffer"
    ledger.enqueued
  ++ familyLines "margindash_flush_duration_seconds" "Flush cycle duration" "histogram"
    (ledger.flushes.flatMap fun (content, h) =>
      histogramSamples "margindash_flush_duration_seconds" "trigger" content h)
  ++ counterLines "margindash_reporter_panics_total" "Error reporter invocations that panicked"
    ledger.reporterPanics
  ++ counterLines "margindash_send_attempts_total" "Total send attempts including retries"
    ledger.attempts

end Courier.Metrics
