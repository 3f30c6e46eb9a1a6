import Courier.Backoff
import Courier.Buffer
import Courier.Client
import Courier.Collector.Address
import Courier.Collector.Exchange
import Courier.Collector.Request
import Courier.Collector.Status
import Courier.Collector.Verdict
import Courier.Config.Basic
import Courier.Config.Environment
import Courier.Delivery.Basic
import Courier.Delivery.Channel
import Courier.Double.Basic
import Courier.Double.Shortest
import Courier.Duration
import Courier.Effect
import Courier.Event
import Courier.Failure
import Courier.FailureLog
import Courier.Json.Basic
import Courier.Json.Outline
import Courier.Json.Printer
import Courier.Json.Reading
import Courier.Json.Scan
import Courier.Log
import Courier.Log.Filter
import Courier.Log.Line
import Courier.Main
import Courier.Metrics.Exposition
import Courier.Metrics.Ledger
import Courier.Outcome
import Courier.Payload
import Courier.Printout
import Courier.Proofs.Backoff.Pause
import Courier.Proofs.Buffer.Batches
import Courier.Proofs.Buffer.Chronicle
import Courier.Proofs.Delivery.Effects
import Courier.Proofs.Delivery.Journey
import Courier.Proofs.Delivery.Reporting
import Courier.Proofs.Delivery.Retry
import Courier.Proofs.Double.Exact
import Courier.Proofs.Metrics.Counters
import Courier.Proofs.Scheduler.Accounts
import Courier.Proofs.Scheduler.Balance
import Courier.Proofs.Scheduler.Barrier
import Courier.Proofs.Scheduler.Bookings
import Courier.Proofs.Scheduler.Calls
import Courier.Proofs.Scheduler.Conservation
import Courier.Proofs.Scheduler.Course
import Courier.Proofs.Scheduler.Cycles
import Courier.Proofs.Scheduler.Deeds
import Courier.Proofs.Scheduler.Gauge
import Courier.Proofs.Scheduler.Growth
import Courier.Proofs.Scheduler.History
import Courier.Proofs.Scheduler.Invariant
import Courier.Proofs.Scheduler.Isolation
import Courier.Proofs.Scheduler.Leader
import Courier.Proofs.Scheduler.Move
import Courier.Proofs.Scheduler.Order
import Courier.Proofs.Scheduler.Queue
import Courier.Proofs.Scheduler.Settlement
import Courier.Proofs.Scheduler.Shutdown
import Courier.Proofs.Scheduler.Turn
import Courier.Proofs.Timeline.Clock
import Courier.Provider
import Courier.Report
import Courier.Reporter
import Courier.Scheduler.Basic
import Courier.Scheduler.Step
import Courier.Shipper
import Courier.Text.Blank
import Courier.Text.Case
import Courier.Text.CodePoints
import Courier.Text.Numeral
import Courier.Text.Quoted
import Courier.Text.Timestamp
import Courier.Text.Ulid
import Courier.Text.Unprintable
import Courier.Text.Utf8
import Courier.Timeline.Agenda
import Courier.Timeline.Attempts
import Courier.Timeline.FarEnd
import Courier.Timeline.World
import Courier.Proofs.Scheduler.Lifecycle
import Courier.Proofs.Scheduler.Deadlock
import Courier.Proofs.Collector.Judgement
import Courier.Proofs.Collector.Protocol
import Courier.Proofs.Json.Value
import Courier.Proofs.Payload.Wire
import Courier.Proofs.Json.Grammar
import Courier.Proofs.Json.Literal
import Courier.Proofs.Json.Shown
import Courier.Proofs.Json.Record
import Courier.Proofs.Payload.RoundTrip
import Courier.Proofs.Collector.Refusals
import Courier.Proofs.Text.Utf8
import Courier.Proofs.Timeline.Turns
import Courier.Proofs.Timeline.Closing
import Courier.Proofs.Shipper.Run
import Courier.Proofs.Timeline.Alike
import Courier.Proofs.Buffer.Chunks
import Courier.Proofs.Scheduler.Chunks
import Courier.Proofs.Collector.Unread
import Courier.Proofs.Scheduler.Instants
import Courier.Proofs.Scheduler.Staleness
import Courier.Proofs.Scheduler.Unattended
import Courier.Proofs.Shipper.Process
import Courier.Proofs.Timeline.Inner
import Courier.Proofs.Shipper.Exit
import Courier.Proofs.Double.Rounding
import Courier.Proofs.Backoff.Doubling
import Courier.Proofs.Config.Environment
import Courier.Proofs.FailureLog.Chronicle
import Courier.Proofs.Provider.Extraction
