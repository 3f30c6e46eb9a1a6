import Courier.Backoff
import Courier.Reporter
/-!
The way of a batch to its final outcome, and what is done once it has one.
-/
namespace Courier

/-- Where batches are sent, how often, and who hears about failures. -/
structure Channel where
  /-- The name of the transport. -/
  transport : String
  backoff : Backoff
  reporter : Reporter
  deriving Inhabited

namespace Channel

/-- The changes to the metrics for a batch of `size` events with its final outcome. -/
def accounts (channel : Channel) (outcome : Outcome) (size : Nat) : List Metrics.Update :=
  match outcome with
  | .success => [.delivered channel.transport size]
  | .partialFailure failed _ =>
    let refused := min failed.length size
    [.delivered channel.transport (size - refused), .dropped "rejected" refused]
  | .totalFailure _ _ false => [.dropped "rejected" size]
  | .totalFailure _ _ true | .transportFailure _ => [.dropped "undelivered" size]

/-- Tell the log and the reporter about a batch that was not delivered. -/
def announce (channel : Channel) (outcome : Outcome) (attempts : Nat) (report : Report) :
    List Effect :=
  (Report.exhausted outcome attempts).map .logged
  ++ [.logged ⟨.warn, report.message,
      [("transport", .text channel.transport), ("outcome", .text outcome.label),
        ("attempts", .number attempts)]⟩]
  ++ channel.reporter.receive report
  ++ (if channel.reporter.survives report then [] else [.counted .reporterPanic])

/-- What is done about a batch that has its final outcome. -/
def conclude (channel : Channel) (batch : List Event) (attempts : Nat) (outcome : Outcome) :
    List Effect :=
  .counted (.batch outcome.label)
  :: (channel.accounts outcome batch.length).map .counted
  ++ match Report.ofOutcome outcome attempts batch with
    | none => []
    | some report => channel.announce outcome attempts report

end Channel

end Courier
