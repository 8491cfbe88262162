import FaultRelay.Broker.Connecting
import FaultRelay.Broker.Memory
import FaultRelay.Decimal.Range
import FaultRelay.Discovery.Pages
import FaultRelay.Sqs.Codec
import FaultRelay.Sqs.Server
import FaultRelay.Url.QueueName

/-!
# Queues of SQS

A queue is asked for once for its address, which is then kept.  Operations are sent in
order up to the first one that is refused.  Queues are listed page by page.
-/

namespace FaultRelay
namespace Sqs

/-- A server and the settings for it. -/
structure Transport (σ : Type) where
  settings : SqsSettings
  server : Server σ

namespace Transport

variable {σ : Type}

/-- The part of the relay that reports on SQS. -/
def source : String := "fault_bridge::bus::sqs"

/-- How often connecting is tried. -/
def connectAttempts : Nat := 5

/-- How many queues a page may have. -/
def pageSize : Nat := 1000

/-- The address of a queue, if the queue exists; a known one is not asked for. -/
def findAddress (t : Transport σ) (queue : String) (a : Account σ) :
    Except TransportError (Option String) × Account σ :=
  match a.addresses[queue]? with
  | some address => (.ok (some address), a)
  | none =>
      match a.ask t.server (.queueAddress queue) with
      | (.ok (some address), a) => (.ok (some address), a.learn queue address)
      | (.ok none, a) => (.error (.connection "SQS get_queue_url returned no URL"), a)
      | (.error .queueMissing, a) => (.ok none, a)
      | (.error (.failed reason), a) =>
          (.error (.connection ("Failed to resolve queue '" ++ queue ++ "': " ++ reason)), a)

/-- The address of a queue that has to exist. -/
def address (t : Transport σ) (queue : String) (a : Account σ) :
    Except TransportError String × Account σ :=
  match t.findAddress queue a with
  | (.ok (some address), a) => (.ok address, a)
  | (.ok none, a) => (.error (.queueNotFound queue), a)
  | (.error e, a) => (.error e, a)

/-- Makes a queue if it does not exist. -/
def ensure (t : Transport σ) (queue : String) (a : Account σ) :
    Except TransportError Unit × Account σ :=
  match a.ask t.server (.createQueue queue) with
  | (.ok (some address), a) => (.ok (), a.learn queue address)
  | (.ok none, a) => (.ok (), a)
  | (.error r, a) =>
      (.error (.setup ("Failed to create queue '" ++ queue ++ "': " ++ r.text)), a)

/-- Makes queues, up to the first one that cannot be made. -/
def ensureAll (t : Transport σ) : List String → Account σ → Except TransportError Unit × Account σ
  | [], a => (.ok (), a)
  | queue :: rest, a =>
      match t.ensure queue a with
      | (.ok (), a) => t.ensureAll rest a
      | (.error e, a) => (.error e, a)

/-- Finds the queue of each receiver, up to the first one that is not there. -/
def findAll (t : Transport σ) : List ReceiverSettings → Account σ →
    Except TransportError Unit × Account σ × List LogEvent
  | [], a => (.ok (), a, [])
  | r :: rest, a =>
      match t.findAddress r.address a with
      | (.ok (some _), a) => t.findAll rest a
      | (.ok none, a) => (.error (.queueNotFound r.address), a,
          [⟨.warning, source, "Receive queue does not exist", [("queue", r.address)]⟩])
      | (.error e, a) => (.error e, a, [])

/-- Asks whether the server can be reached. -/
def probe (t : Transport σ) (a : Account σ) : Except TransportError Unit × Account σ :=
  match a.ask t.server (.listQueues none none 1) with
  | (.ok _, a) => (.ok (), a)
  | (.error r, a) => (.error (.connection ("SQS is unreachable: " ++ r.text)), a)

/-- How the server is connected to. -/
def plan (t : Transport σ) : Connecting.Plan :=
  ⟨"sqs", t.settings.endpointUrl.getD "aws", connectAttempts⟩

/--
Gets the server ready for receivers and senders: makes their queues, or else checks that
the receivers have theirs.
-/
def prepare (t : Transport σ) (setup : Bool) (receivers : List ReceiverSettings)
    (sending : List String) (a : Account σ) :
    Except TransportError Unit × Account σ × List LogEvent :=
  let connected := Connecting.run t.plan TransportError.message t.probe a
  match connected.result with
  | .error e => (.error e, connected.state, connected.logs)
  | .ok () =>
      if setup then
        let queues := receivers.flatMap fun r => [r.address, r.errorQueue]
        let (result, a) := t.ensureAll (queues ++ sending) connected.state
        (result, a, connected.logs)
      else
        let (result, a, events) := t.findAll receivers connected.state
        (result, a, connected.logs ++ events)

def sending (op : Operation) (address : String) : Request :=
  let (text, inBase64) := encodeBody op.body
  .sendMessage address text
    (encodeAttributes op.headers op.properties[Property.contentType]? inBase64)

def send (t : Transport σ) (op : Operation) (a : Account σ) :
    Except TransportError Unit × Account σ :=
  match t.address op.destination a with
  | (.error e, a) => (.error e, a)
  | (.ok address, a) =>
      match a.ask t.server (sending op address) with
      | (.ok _, a) => (.ok (), a)
      | (.error r, a) => (.error (.dispatch op.destination ("Failed to send: " ++ r.text)), a)

/-- Sends operations in order, up to the first one that is refused. -/
def dispatch (t : Transport σ) : List Operation → Account σ →
    Except TransportError Unit × Account σ
  | [], a => (.ok (), a)
  | op :: rest, a =>
      match t.send op a with
      | (.ok (), a) => t.dispatch rest a
      | (.error e, a) => (.error e, a)

/-- Gets the page that a token stands for; the first page has none. -/
def fetch (t : Transport σ) : Fetch (Option String) (Account σ) := fun token a =>
  match a.ask t.server (.listQueues t.settings.queueNameStart token pageSize) with
  | (.error r, a) => (.error (.request r.text), a)
  | (.ok listed, a) => (.ok ⟨listed.addresses.map Url.queueName, listed.next.map some⟩, a)

/-- Reads at most a number of pages; all of those unless a number of names is wanted. -/
def pages (t : Transport σ) (most : Nat) (wanted : Option Nat) (a : Account σ) :
    Pages (Option String) (Account σ) :=
  Pages.readFrom t.fetch most wanted none a

/-- Whether a queue exists, as far as is known. -/
def exists? (t : Transport σ) (queue : String) (a : Account σ) :
    Except DiscoveryError Bool × Account σ :=
  match t.findAddress queue a with
  | (.ok address, a) => (.ok address.isSome, a)
  | (.error e, a) => (.error (.request e.message), a)

end Transport

/-- The largest number of messages that can be told. -/
def maxCount : Nat := Decimal.greatest 64

/-- The number that digits stand for, after the number of those before them. -/
def countFrom (n : Nat) : List Char → Except String Nat
  | [] => .ok n
  | c :: rest =>
      if !c.isDigit then .error "invalid digit found in string"
      else
        let next := n * 10 + (c.toNat - 48)
        if next ≤ maxCount then countFrom next rest
        else .error "number too large to fit in target type"

/-- A number of messages; a plus sign may stand before it. -/
def readCount (text : String) : Except String Nat :=
  match text.toList with
  | [] => .error "cannot parse integer from empty string"
  | '+' :: c :: digits => countFrom 0 (c :: digits)
  | digits => countFrom 0 digits

/-- How many messages a queue has, about. -/
def Transport.length? {σ : Type} (t : Transport σ) (queue : String) (a : Account σ) :
    Except DiscoveryError Nat × Account σ :=
  match t.address queue a with
  | (.error e, a) => (.error (.request e.message), a)
  | (.ok address, a) =>
      match a.ask t.server (.countMessages address) with
      | (.error r, a) => (.error (.request r.text), a)
      | (.ok none, a) =>
          (.error (.response ("no message count returned for '" ++ queue ++ "'")), a)
      | (.ok (some text), a) =>
          match readCount text with
          | .ok count => (.ok count, a)
          | .error reason => (.error (.response ("invalid message count: " ++ reason)), a)

end Sqs
end FaultRelay
