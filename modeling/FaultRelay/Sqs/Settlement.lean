import FaultRelay.Delivery.Route
import FaultRelay.Delivery.Verdict
import FaultRelay.Sqs.Transport

/-!
# Settling messages of SQS

Messages come in batches.  Each message of a batch is delivered and then deleted.  When a
delivery is given up, its message and all after it are released, so that others receive
them, and nothing more is received.  A message that cannot be read is sent to the poison
queue as it came and deleted, or left alone if it cannot be sent.  A message without a
receipt is left alone too.
-/

namespace FaultRelay
namespace Sqs

/-- How a delivery ended. -/
inductive Ending where
  | completed
  | abandoned
  deriving DecidableEq, Repr

/-- One who receives the messages of a queue. -/
structure Consumer (σ : Type) where
  transport : Transport σ
  settings : ReceiverSettings
  /-- The address of the queue. -/
  address : String
  deliver : Received → Site (Account σ) → Ending × Site (Account σ)

/-- What settling a batch led to. -/
structure Settled (σ : Type) where
  /-- Whether more is to be received. -/
  goesOn : Bool
  site : Site (Account σ)

namespace Consumer

variable {σ : Type}

/-- Something that goes wrong with a message. -/
def event (c : Consumer σ) (text nativeId : String) (more : List (String × String)) : LogEvent :=
  ⟨.error, Transport.source, text,
    [("queue", c.settings.address), ("native_id", nativeId)] ++ more⟩

/-- Asks the server. -/
def ask (c : Consumer σ) (r : Request) (s : Site (Account σ)) :
    Except Refusal r.Answer × Site (Account σ) :=
  let (answer, broker) := s.broker.ask c.transport.server r
  (answer, { s with broker })

/-- Deletes a message that is done with. -/
def delete (c : Consumer σ) (p : Parcel) (receipt : String) (s : Site (Account σ)) :
    Site (Account σ) :=
  match c.ask (.deleteMessage c.address receipt) s with
  | (.ok _, s) => s
  | (.error r, s) => s.report [c.event "Failed to delete message" p.nativeId [("error", r.text)]]

/-- Releases messages at once; whether a release is refused does not matter. -/
def release (c : Consumer σ) (batch : List Parcel) (s : Site (Account σ)) : Site (Account σ) :=
  (batch.filterMap Parcel.receipt).foldl
    (fun s receipt => (c.ask (.releaseMessage c.address receipt 0) s).2) s

/-- What is said of a message that cannot be read. -/
def unreadableEvent (c : Consumer σ) (p : Parcel) (why : Unreadable) : LogEvent :=
  c.event "Moving unreadable SQS message to the poison queue" p.nativeId
    [("reason", why.reason), ("poison_queue", c.settings.errorQueue)]

/-- Sends a message that cannot be read to the poison queue; tells whether that worked. -/
def poison (c : Consumer σ) (p : Parcel) (why : Unreadable) (unread : Received)
    (s : Site (Account σ)) : Bool × Site (Account σ) :=
  let s := s.report [c.unreadableEvent p why]
  match c.transport.dispatch [unread.toPoison c.settings.errorQueue] s.broker with
  | (.ok (), broker) => (true, { s with broker })
  | (.error e, broker) => (false, { s with broker }.report
      [c.event "Failed to poison unreadable message" p.nativeId [("error", e.message)]])

/-- Settles a batch. -/
def settle (c : Consumer σ) : List Parcel → Site (Account σ) → Settled σ
  | [], s => ⟨true, s⟩
  | p :: rest, s =>
      match p.receipt with
      | none => c.settle rest s
      | some receipt =>
          match decodeMessage p.attributes p.text p.nativeId c.settings.address with
          | .ok m =>
              match c.deliver m s with
              | (.completed, s) => c.settle rest (c.delete p receipt s)
              | (.abandoned, s) => ⟨false, c.release (p :: rest) s⟩
          | .error (why, unread) =>
              match c.poison p why unread s with
              | (true, s) => c.settle rest (c.delete p receipt s)
              | (false, s) => c.settle rest s

/-- Receives one batch and settles it; tells whether more is to be received. -/
def receive (c : Consumer σ) (s : Site (Account σ)) : Except Refusal Bool × Site (Account σ) :=
  let k := c.transport.settings
  match c.ask (.receiveMessages c.address k.maxMessages k.waitSeconds) s with
  | (.ok batch, s) =>
      let settled := c.settle batch s
      (.ok settled.goesOn, settled.site)
  | (.error r, s) => (.error r, s)

end Consumer
end Sqs
end FaultRelay
