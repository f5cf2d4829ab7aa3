import Courier.Bytes
import Courier.Poll
import Courier.Text.Ranges
import Courier.Text.Number
import Courier.Text.Joining
import Courier.Text.Unprinted
import Courier.Text.Quoted
import Courier.Address
import Courier.Address.Reader
import Courier.Address.Printer
import Courier.Toml
import Courier.Toml.Format
import Courier.Toml.Quoted
import Courier.Toml.Reader
import Courier.Toml.Writer
import Courier.Severity
import Courier.Fault.Kind
import Courier.Fault.OsCode
import Courier.Fault
import Courier.Fault.Severity
import Courier.Fault.Wrapper
import Courier.Settings
import Courier.Settings.Document
import Courier.Context
import Courier.Context.History
import Courier.Payload.Channel
import Courier.Payload.Body
import Courier.Payload.History
import Courier.Payload.Material
import Courier.Message.Token
import Courier.Message.Uri
import Courier.Message.Header
import Courier.Message.Request
import Courier.Message.Response
import Courier.Event
import Courier.Sink
import Courier.Sink.Recorder
import Courier.Sink.Relay
import Courier.Sink.Ledger
import Courier.Sink.Traffic
import Courier.Sink.Hosted
import Courier.Sink.Journal
import Courier.Transfer.Copier
import Courier.Transfer.Producer
import Courier.Transfer.Run
import Courier.Transfer.Schedule
import Courier.Transfer.Supply
import Courier.Transfer.Plan
import Courier.Exchange.Delivery
import Courier.Exchange.Run
import Courier.Exchange.RequestTask
import Courier.Exchange.Watched
import Courier.Exchange.Shared
import Courier.Exchange.Trail
import Courier.Transfer.Trail
import Courier.Exchange.Course
import Courier.Exchange.Plain
import Courier.Exchange.Framed
import Courier.Host.Notice
import Courier.Host.Connection
import Courier.Host.Run
import Courier.Host.Acceptor
import Courier.Daemon.CommandLine
import Courier.Daemon.Demo
import Courier.Daemon.Session
import Courier.Main
import Courier.Proofs.Numbers
import Courier.Proofs.Addresses
import Courier.Proofs.Documents
import Courier.Proofs.Settings
import Courier.Proofs.Severities
import Courier.Proofs.Fields
import Courier.Proofs.Framing
import Courier.Proofs.Waiting
import Courier.Proofs.Stopping
import Courier.Proofs.Pieces
import Courier.Proofs.Supply
import Courier.Proofs.Holding
import Courier.Proofs.Stream
import Courier.Proofs.History
import Courier.Proofs.Feeding
import Courier.Proofs.Steps
import Courier.Proofs.Progress
import Courier.Proofs.Success
import Courier.Proofs.Shared
import Courier.Proofs.Calls
import Courier.Proofs.Accepted
import Courier.Proofs.Failure
import Courier.Proofs.Schedule
import Courier.Proofs.Plan
import Courier.Proofs.Counts
import Courier.Proofs.Lengths
import Courier.Proofs.Outcome
import Courier.Proofs.Alone
import Courier.Proofs.Agreement
import Courier.Proofs.Relay
import Courier.Proofs.Traffic
import Courier.Proofs.Journal
import Courier.Proofs.Frames
import Courier.Proofs.Unframed
import Courier.Proofs.Threshold
import Courier.Proofs.Moves
import Courier.Proofs.Serving
import Courier.Proofs.Losses
import Courier.Proofs.Pipeline
import Courier.Proofs.Attended
import Courier.Proofs.Truncation
import Courier.Proofs.Heads
import Courier.Proofs.HeaderSets
import Courier.Proofs.Refusals
import Courier.Proofs.Turns
import Courier.Proofs.Diagnosis
import Courier.Proofs.Course
import Courier.Proofs.Cancellation
import Courier.Proofs.Withheld
