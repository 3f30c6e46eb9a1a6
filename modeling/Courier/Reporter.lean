import Courier.Effect
/-!
Who receives the reports on failed batches.

A reporter may be code that panics on some reports; a panic is caught and logged and never reaches
the cycle that made the report.
-/
namespace Courier

/-- Who receives reports. -/
inductive Reporter where
  /-- Writes every report to the log. -/
  | log
  /-- Code that gets every report.  Of each it is known whether the code panics on it, and the reason
  of the panic if that is a text. -/
  | handler (panics : Report → Option (Option String))
  deriving Inhabited

namespace Reporter

def keep : Reporter := .handler fun _ => none

/-- Panics on every report. -/
def panic (reason : Option String) : Reporter := .handler fun _ => some reason

def logRecord (report : Report) : Log.Record :=
  ⟨.warn, report.message,
    [("cause", .text (report.cause.getD "")), ("events", .number report.events.length)]⟩

def receive (reporter : Reporter) (report : Report) : List Effect :=
  match reporter with
  | .log => [.logged (logRecord report)]
  | .handler panics =>
    match panics report with
    | none => [.reported report]
    | some reason =>
      [.logged ⟨.error, "error reporter panicked",
        [("reason", .text (reason.getD "unknown panic"))]⟩]

/-- The reporter takes a report without a panic. -/
def survives (reporter : Reporter) (report : Report := default) : Bool :=
  match reporter with
  | .log => true
  | .handler panics => (panics report).isNone

end Reporter

end Courier
