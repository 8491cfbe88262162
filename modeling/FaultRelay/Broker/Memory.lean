import FaultRelay.Discovery.Filter
import FaultRelay.Failure
import FaultRelay.Log
import FaultRelay.Message

/-!
# A broker in memory

Queues are held in order, the head first.  The broker can be told to be unavailable, and
to refuse a number of the next messages to a queue.  A list of operations is sent in
order up to the first one that is refused; those before it stay sent.
-/

namespace FaultRelay

/-- A receiver to be made: its name, its queue, and the queue for what it cannot read. -/
structure ReceiverSettings where
  id : String
  address : String
  errorQueue : String
  deriving DecidableEq, Repr

/-- The queues of a broker in memory. -/
structure Memory where
  /-- The messages of every queue, the head first. -/
  queues : Std.ExtTreeMap String (List Stored) := ∅
  unavailable : Bool := false
  /-- How many of the next messages to a queue are refused. -/
  refusals : Std.ExtTreeMap String Nat := ∅

namespace Memory

/-- The part of the relay that reports on the broker. -/
def source : String := "fault_bridge::bus::channel"

/-- What is said of a broker that is unavailable. -/
def unavailableText : String := "in-memory broker unavailable"

/-- Whether a queue exists. -/
def contains (m : Memory) (queue : String) : Bool :=
  m.queues.contains queue

/-- The messages of a queue, the head first; a queue that does not exist has none. -/
def messages (m : Memory) (queue : String) : List Stored :=
  m.queues[queue]?.getD []

/-- Makes a queue if it does not exist. -/
def declare (m : Memory) (queue : String) : Memory :=
  { m with queues := m.queues.insertIfNew queue [] }

/-- The names of the queues, in order. -/
def names (m : Memory) : List String :=
  m.queues.keys

/-- Takes the head of a queue. -/
def pop (m : Memory) (queue : String) : Option (Stored × Memory) :=
  match m.queues[queue]? with
  | some (head :: rest) => some (head, { m with queues := m.queues.insert queue rest })
  | _ => none

/-- Puts a message back to the head of its queue. -/
def putBack (m : Memory) (queue : String) (message : Stored) : Memory :=
  { m with queues := m.queues.modify queue (message :: ·) }

/-- Says whether the broker is unavailable. -/
def setUnavailable (m : Memory) (unavailable : Bool) : Memory :=
  { m with unavailable := unavailable }

/-- Refuses a number of the next messages to a queue. -/
def refuse (m : Memory) (queue : String) (times : Nat) : Memory :=
  { m with refusals := m.refusals.insert queue times }

/-- Puts a message at the end of a queue, unless it is refused. -/
def push (m : Memory) (queue : String) (message : Stored) : Except TransportError Unit × Memory :=
  if m.unavailable then (.error (.connection unavailableText), m)
  else match m.refusals[queue]? with
    | some (times + 1) =>
        (.error (.dispatch queue "forced send failure"),
          { m with refusals := m.refusals.insert queue times })
    | _ =>
        if m.contains queue then
          (.ok (), { m with queues := m.queues.modify queue (· ++ [message]) })
        else (.error (.queueNotFound queue), m)

/-- Sends operations in order, up to the first one that is refused. -/
def dispatch : List Operation → Memory → Except TransportError Unit × Memory
  | [], m => (.ok (), m)
  | op :: rest, m =>
      match m.push op.destination op.stored with
      | (.ok (), m) => dispatch rest m
      | (.error e, m) => (.error e, m)

/-- The names of the queues, as a listing. -/
def listing (m : Memory) : Listing :=
  if m.unavailable then [.error (.request unavailableText)] else m.names.map .ok

/-- Whether a queue exists, if that can be found out. -/
def exists? (m : Memory) (queue : String) : Except DiscoveryError Bool :=
  if m.unavailable then .error (.request unavailableText) else .ok (m.contains queue)

/-- How many messages a queue has. -/
def length? (m : Memory) (queue : String) : Except DiscoveryError Nat :=
  match m.queues[queue]? with
  | some messages => .ok messages.length
  | none => .error (.response ("queue '" ++ queue ++ "' not found"))

/-- Makes the queues that receivers and senders need. -/
def declareAll (m : Memory) (receivers : List ReceiverSettings) (sending : List String) : Memory :=
  sending.foldl declare
    (receivers.foldl (fun m r => (m.declare r.address).declare r.errorQueue) m)

/--
Gets the broker ready for receivers and senders: makes their queues, or else checks that
the receivers have theirs.
-/
def prepare (m : Memory) (setup : Bool) (receivers : List ReceiverSettings)
    (sending : List String) : Except TransportError Unit × Memory × List LogEvent :=
  if m.unavailable then (.error (.connection unavailableText), m, [])
  else if setup then (.ok (), m.declareAll receivers sending, [])
  else match receivers.find? fun r => !m.contains r.address with
    | some r => (.error (.queueNotFound r.address), m,
        [⟨.warning, source, "Receive queue does not exist", [("queue", r.address)]⟩])
    | none => (.ok (), m, [])

end Memory
end FaultRelay
