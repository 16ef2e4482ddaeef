import Courier.Amqp.Properties
import Courier.Amqp.Queue
import Courier.Encoding
import Courier.Kafka.Client
import Courier.Kafka.Records
import Courier.Settings.Pacing
import Courier.Trace.Span
import Courier.Dialer.Basic
import Courier.Dialer.Step
import Courier.Instant
import Courier.Publisher.Basic
import Courier.Publisher.Step
import Courier.Simulation.Calls
import Courier.Simulation.Scenario
import Courier.Proofs.Subscriber.Run
import Courier.Proofs.Subscriber.Turn
import Courier.Proofs.Subscriber.Custody
import Courier.Proofs.Amqp.Table
import Courier.Proofs.Subscriber.Lineage
import Courier.Proofs.Subscriber.Redelivery
import Courier.Proofs.Subscriber.System
import Courier.Proofs.Subscriber.Closing
import Courier.Proofs.Subscriber.Stopping
import Courier.Proofs.Publisher.Run
import Courier.Proofs.Publisher.Closing
import Courier.Proofs.Publisher.Cache
import Courier.Proofs.Text.Numeral
import Courier.Proofs.Kafka.Positions
import Courier.Proofs.Dialer.Run
import Courier.Proofs.Dialer.Moves
import Courier.Proofs.Dialer.Ledger
import Courier.Proofs.Dialer.Supervision
import Courier.Kafka.SendHandle
import Courier.Proofs.Dialer.Deeds
import Courier.Proofs.Dialer.Closing
import Courier.Proofs.Dialer.Generation
import Courier.Proofs.Dialer.Shutdown
import Courier.Proofs.Settings.Texts
import Courier.Proofs.Kafka.Records
import Courier.Proofs.Text.Split
import Courier.Proofs.Trace.State
import Courier.Proofs.Trace.Continuity
import Courier.Proofs.Json.Scalar
import Courier.Proofs.Json.RoundTrip
import Courier.Kafka.Delivery
import Courier.Proofs.Text.Lowercase
import Courier.Proofs.Kafka.Metadata
import Courier.Proofs.Trace.Carrier
import Courier.Proofs.Subscriber.Staleness
import Courier.Proofs.Subscriber.Dispatch
import Courier.Proofs.Publisher.Batches
import Courier.Proofs.Dialer.Redialing
import Courier.Proofs.Subscriber.Shutdown
import Courier.Proofs.Subscriber.Spans
import Courier.Proofs.Subscriber.Overflow
import Courier.Proofs.Dialer.Trying
import Courier.Proofs.Dialer.Refusal
import Courier.Proofs.Publisher.Envelope
import Courier.Proofs.Amqp.Expiration
import Courier.Proofs.Settings.Address
import Courier.Proofs.Text.Grammar
import Courier.Proofs.Settings.Scalars
import Courier.Proofs.Settings.Brokers
import Courier.Proofs.Amqp.Attempts
import Courier.Proofs.Subscriber.Progress
