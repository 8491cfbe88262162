import FaultRelay.Broker.Choice
import FaultRelay.Broker.Connecting
import FaultRelay.Broker.Memory
import FaultRelay.Broker.Receiver
import FaultRelay.Broker.Recorder
import FaultRelay.Cli.Arguments
import FaultRelay.Cli.Program
import FaultRelay.Cli.Usage
import FaultRelay.Cli.Variables
import FaultRelay.Decimal.Binary
import FaultRelay.Decimal.Range
import FaultRelay.Decimal.Reading
import FaultRelay.Decimal.Shortest
import FaultRelay.Delivery.Backoff
import FaultRelay.Delivery.Basic
import FaultRelay.Delivery.Handler
import FaultRelay.Delivery.Route
import FaultRelay.Delivery.Verdict
import FaultRelay.Digest.Blocks
import FaultRelay.Digest.NameId
import FaultRelay.Digest.Sha256
import FaultRelay.Discovery.Filter
import FaultRelay.Discovery.HttpStatus
import FaultRelay.Discovery.Management
import FaultRelay.Discovery.Pages
import FaultRelay.Discovery.QueueFile
import FaultRelay.Discovery.Topology
import FaultRelay.Failure
import FaultRelay.Fault.Adapter
import FaultRelay.Fault.Conversion
import FaultRelay.Fault.Metadata
import FaultRelay.Fault.Names
import FaultRelay.Json.Document
import FaultRelay.Json.Size
import FaultRelay.Json.Token
import FaultRelay.Json.Value
import FaultRelay.Log
import FaultRelay.Main
import FaultRelay.Message
import FaultRelay.Pattern.Basic
import FaultRelay.Pattern.CharSet
import FaultRelay.Pattern.Reading
import FaultRelay.Report.Control
import FaultRelay.Report.Diagnostics
import FaultRelay.Report.Heartbeat
import FaultRelay.Report.PoisonCheck
import FaultRelay.Schedule
import FaultRelay.Service.Provision
import FaultRelay.Service.Relay
import FaultRelay.Service.Reporter
import FaultRelay.Service.World
import FaultRelay.Settings.Basic
import FaultRelay.Settings.Reading
import FaultRelay.Settings.Tree
import FaultRelay.Sqs.Codec
import FaultRelay.Sqs.Server
import FaultRelay.Sqs.Settlement
import FaultRelay.Sqs.Transport
import FaultRelay.Text.Base64
import FaultRelay.Text.Blank
import FaultRelay.Text.CaseFold
import FaultRelay.Text.Category
import FaultRelay.Text.Hex
import FaultRelay.Text.Part
import FaultRelay.Text.Quoted
import FaultRelay.Text.Utf8
import FaultRelay.Time.Calendar
import FaultRelay.Time.Instant
import FaultRelay.Time.Reading
import FaultRelay.Time.Span
import FaultRelay.Url.Address
import FaultRelay.Url.Host
import FaultRelay.Url.Path
import FaultRelay.Url.Percent
import FaultRelay.Url.QueueName
import FaultRelay.Yaml.Token
import FaultRelay.Yaml.Token.Lexer
import FaultRelay.Yaml.Token.Scalar
import FaultRelay.Yaml.Value
import FaultRelay.Proofs.Fault.ReturnTrip
import FaultRelay.Proofs.Delivery.Retrying
import FaultRelay.Proofs.Service.Reconciliation
import FaultRelay.Proofs.Broker.Memory
import FaultRelay.Proofs.Broker.Ledger
import FaultRelay.Proofs.Broker.Station
import FaultRelay.Proofs.Broker.Starting
import FaultRelay.Proofs.Service.Conservation
import FaultRelay.Proofs.Service.Receiving
import FaultRelay.Proofs.Service.Course
import FaultRelay.Proofs.Broker.Stopping
import FaultRelay.Proofs.Service.Lifecycle
import FaultRelay.Proofs.Json.Grammar
import FaultRelay.Proofs.Json.Lexemes
import FaultRelay.Proofs.Json.Lexing
import FaultRelay.Proofs.Json.Parsing
import FaultRelay.Proofs.Json.Fields
import FaultRelay.Proofs.Json.ReadBack
import FaultRelay.Proofs.Fault.Envelope
import FaultRelay.Proofs.Fault.Shapes
import FaultRelay.Proofs.Text.Base64
import FaultRelay.Proofs.Sqs.Codec
import FaultRelay.Proofs.Service.Restarts
import FaultRelay.Proofs.Sqs.Batches
import FaultRelay.Proofs.Report.Heartbeat
import FaultRelay.Proofs.Discovery.Sources
import FaultRelay.Proofs.Service.Order
import FaultRelay.Proofs.Sqs.Existence
import FaultRelay.Proofs.Sqs.Limits
import FaultRelay.Proofs.Settings.Validity
import FaultRelay.Proofs.Delivery.Backoff
import FaultRelay.Proofs.Fault.Frame
import FaultRelay.Proofs.Delivery.Course
import FaultRelay.Proofs.Sqs.Unreadable
import FaultRelay.Proofs.Time.Calendar
import FaultRelay.Proofs.Time.Digits
import FaultRelay.Proofs.Time.Wire
import FaultRelay.Proofs.Time.Span
import FaultRelay.Proofs.Broker.Dispatching
import FaultRelay.Proofs.Broker.Connecting
import FaultRelay.Proofs.Settings.Layers
import FaultRelay.Proofs.Settings.Verbatim
import FaultRelay.Proofs.Url.Segments
import FaultRelay.Proofs.Url.QueueName
import FaultRelay.Proofs.Text.Lossy
import FaultRelay.Proofs.Url.Codes
import FaultRelay.Proofs.Url.Carried
import FaultRelay.Proofs.Url.Authority
import FaultRelay.Proofs.Discovery.Login
import FaultRelay.Proofs.Report.Publication
import FaultRelay.Proofs.Settings.Writes
import FaultRelay.Proofs.Settings.Precedence
