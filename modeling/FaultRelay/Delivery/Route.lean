import FaultRelay.Delivery.Handler
import FaultRelay.Delivery.Verdict
import FaultRelay.Fault.Adapter

/-!
# The two ways of the relay

Faults are forwarded and messages that are to be tried again are returned.  Either way a
message is converted and dispatched; what cannot be processed goes to the poison queue,
and when that queue refuses it too, everything is tried again later.
-/

namespace FaultRelay

/-- Which way messages travel. -/
inductive Direction where
  | forward
  | giveBack
  deriving DecidableEq, Repr

/-- What a handler works with: a broker, the events that it reports, and the time. -/
structure Site (β : Type) where
  broker : β
  /-- What was reported, oldest first. -/
  log : List LogEvent
  now : Time.Instant

namespace Site

variable {β : Type}

def report (s : Site β) (events : List LogEvent) : Site β :=
  { s with log := s.log ++ events }

end Site

/-- Sends operations in order; the broker may change even when one of them is refused. -/
abbrev Dispatch (β : Type) := List Operation → β → Except TransportError Unit × β

/-- What a way of the relay is made of. -/
structure Route where
  direction : Direction
  adapter : Fault.Adapter
  backoff : Backoff
  poisonQueue : String
  /-- The part of every delay that is added to it. -/
  part : Float := 0

namespace Route

variable {β : Type}

/-- The part of the relay that reports what became of messages. -/
def source : String := "fault_bridge::services::bridge::handler"

/-- The message as it is left, its conversion, and what is odd about it. -/
def convert (r : Route) (m : Received) (now : Time.Instant) :
    Received × Except ConversionError Operation × List LogEvent :=
  match r.direction with
  | .forward => r.adapter.forward m now
  | .giveBack =>
      let (left, result) := r.adapter.giveBack m
      (left, result, [])

/-- Dispatches operations to the broker of a site. -/
def send (dispatch : Dispatch β) (ops : List Operation) (s : Site β) :
    Except TransportError Unit × Site β :=
  let (result, broker) := dispatch ops s.broker
  (result, { s with broker })

/-- Converts a message and dispatches it. -/
def attempt (r : Route) (dispatch : Dispatch β) (m : Received) (s : Site β) :
    Except RelayError Unit × Received × Site β :=
  let (left, result, odd) := r.convert m s.now
  let s := s.report odd
  match result with
  | .error e => (.error (.conversion e), left, s)
  | .ok op =>
      match send dispatch [op] s with
      | (.ok (), s) => (.ok (), left, s)
      | (.error e, s) => (.error (.transport e), left, s)

/-- A message was moved to the poison queue. -/
def movedEvent (r : Route) (m : Received) : LogEvent :=
  ⟨.warning, source, "Moved message to poison queue",
    [("native_id", m.nativeId), ("queue", m.address), ("poison_queue", r.poisonQueue),
      ("failures", toString m.failures)]⟩

/-- The poison queue refused a message. -/
def refusedEvent (r : Route) (m : Received) (e : TransportError) : LogEvent :=
  ⟨.error, source, "Failed to move message to poison queue, retrying",
    [("native_id", m.nativeId), ("poison_queue", r.poisonQueue), ("error", e.message)]⟩

/-- Decides about a message that failed, moving it to the poison queue if need be. -/
def judge (r : Route) (dispatch : Dispatch β) (m : Received) (e : RelayError) (s : Site β) :
    Decision × Site β :=
  let (verdict, event) := Verdict.ofFailure r.backoff r.part e m.failures
  let s := s.report [event]
  match verdict with
  | .retry delay => (.retry delay, s)
  | .poison =>
      match send dispatch [m.toPoison r.poisonQueue] s with
      | (.ok (), s) => (.handled, s.report [r.movedEvent m])
      | (.error refused, s) =>
          (.retry (r.backoff.delayAfter r.part m.failures), s.report [r.refusedEvent m refused])

/-- The handler of this way of the relay. -/
def handler (r : Route) (dispatch : Dispatch β) : Handler (Site β) :=
  ⟨r.attempt dispatch, r.judge dispatch⟩

end Route
end FaultRelay
