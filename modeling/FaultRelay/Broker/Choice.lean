import FaultRelay.Broker.Connecting
import FaultRelay.Broker.Memory
import FaultRelay.Discovery.Management
import FaultRelay.Discovery.QueueFile
import FaultRelay.Sqs.Transport

/-!
# The broker that settings choose

Settings choose between a broker in memory, RabbitMQ and SQS.  Whatever the choice, a
broker lists its queues, knows which exist and how long they are, and can be got ready
for receivers and senders.  What lies outside is a `Network`, which need not answer.
-/

namespace FaultRelay

/-- The servers that can be asked. -/
structure Network (σ : Type) where
  management : Management.Server σ
  sqs : Sqs.Server σ

/-- A network in which no server is reached. -/
def Network.unreachable : Network Unit where
  management _ state := (.unreachable, state)
  sqs := Sqs.Server.unreachable "dispatch failure" Unit

/-- A broker, with what is known of it. -/
inductive Broker (σ : Type) where
  | memory (m : Memory)
  | rabbitMq (url : String) (client : Management.Client) (server : Management.Server σ) (state : σ)
  | amazonSqs (transport : Sqs.Transport σ) (account : Sqs.Account σ)

namespace Broker

variable {σ : Type}

/-- The broker that settings choose. -/
def ofSettings (n : Network σ) (state : σ) (s : BrokerSettings) : Except RelayError (Broker σ) :=
  match s.type with
  | .channel => .ok (.memory {})
  | .amqp =>
      match Management.Client.ofSettings s.amqp with
      | .ok client => .ok (.rabbitMq s.amqp.url client n.management state)
      | .error e => .error (.discovery e)
  | .sqs => .ok (.amazonSqs ⟨s.sqs, n.sqs⟩ { state })

def kind : Broker σ → BrokerKind
  | memory _ => .memory
  | rabbitMq .. => .rabbitMq
  | amazonSqs .. => .amazonSqs

/-- The broker in memory, if it is one. -/
def memory? : Broker σ → Option Memory
  | memory m => some m
  | _ => none

/-- How many pages of a listing are read at most. -/
def maxPages : Nat := 1000000

/-- Lists the queues. -/
def list : Broker σ → Listing × Broker σ
  | memory m => (m.listing, memory m)
  | rabbitMq url client server state =>
      let pages := client.pages server none state
      (pages.listing, rabbitMq url client server pages.server)
  | amazonSqs transport account =>
      let pages := transport.pages maxPages none account
      (pages.listing, amazonSqs transport pages.server)

/-- Lists the queues that a file names, if there is one, and otherwise those of the broker. -/
def listWith (file : Option QueueFile) (b : Broker σ) : Listing × Broker σ :=
  match file with
  | some file => (file.listing, b)
  | none => b.list

def exists? (queue : String) : Broker σ → Except DiscoveryError Bool × Broker σ
  | memory m => (m.exists? queue, memory m)
  | rabbitMq url client server state =>
      let (result, state) := client.exists? server queue state
      (result, rabbitMq url client server state)
  | amazonSqs transport account =>
      let (result, account) := transport.exists? queue account
      (result, amazonSqs transport account)

/-- How many messages a queue has. -/
def length? (queue : String) : Broker σ → Except DiscoveryError Nat × Broker σ
  | memory m => (m.length? queue, memory m)
  | rabbitMq url client server state =>
      let (result, state) := client.length? server queue state
      (result, rabbitMq url client server state)
  | amazonSqs transport account =>
      let (result, account) := transport.length? queue account
      (result, amazonSqs transport account)

/-- How a RabbitMQ server is connected to. -/
def amqpPlan (url : String) : Connecting.Plan := ⟨"amqp", url, 5⟩

/-- The failure to connect over AMQP, of which there is nothing here. -/
def amqpFailure : TransportError := .connection "Failed to get connection from pool"

/--
Gets the broker ready for receivers and senders: makes their queues, or else checks that
the receivers have theirs.
-/
def prepare (setup : Bool) (receivers : List ReceiverSettings) (sending : List String) :
    Broker σ → Except TransportError Unit × Broker σ × List LogEvent
  | memory m =>
      let (result, m, events) := m.prepare setup receivers sending
      (result, memory m, events)
  | rabbitMq url client server state =>
      let tried := Connecting.run (amqpPlan url) TransportError.message
        (fun state => (.error amqpFailure, state)) state
      (tried.result, rabbitMq url client server tried.state, tried.logs)
  | amazonSqs transport account =>
      let (result, account, events) := transport.prepare setup receivers sending account
      (result, amazonSqs transport account, events)

end Broker
end FaultRelay
