import FaultRelay.Discovery.Topology
import FaultRelay.Report.Diagnostics
import FaultRelay.Service.Provision

/-!
# The life of the relay

The relay makes its queues if it is asked to, finds the queues that hold faults, and
starts a receiver on each of them and one on the queue of messages that come back.  From
then on it scans for queues now and again; when they have changed it stops all receivers
and then starts them anew, which begins another generation.  It ends on request or on a
critical error, after all receivers have stopped.

Every function of this module is one step of that life.  What the broker answers is
given to the step; nothing here depends on the kind of broker.  A step publishes at most
one state.
-/

namespace FaultRelay

/-- The state of the relay, as it is published. -/
inductive ServiceState where
  | idle
  | provisioning
  | listening
  | reconciling
  | draining
  | stopped
  deriving DecidableEq, Repr

/-- The written name of a state. -/
def ServiceState.name : ServiceState → String
  | .idle => "Idle"
  | .provisioning => "Provisioning"
  | .listening => "Listening"
  | .reconciling => "Reconciling"
  | .draining => "Draining"
  | .stopped => "Stopped"

/-- What is published about the relay. -/
structure Status where
  state : ServiceState := .idle
  /-- How often a full set of receivers was started. -/
  generation : Nat := 0
  /-- The queues with a receiver. -/
  listening : QueueSet := ∅

/-- What a broker answers when receivers are to be opened. -/
structure Opening where
  exists? : String → Except DiscoveryError Bool
  create : List ReceiverSettings → Except TransportError Unit × List LogEvent
  start : ReceiverSettings → Except TransportError Unit

/-- What follows when all receivers have stopped. -/
inductive Closing where
  /-- Receivers are opened for other queues. -/
  | restart (discovered : QueueSet)
  /-- A receiver could not be started, for the first time or later. -/
  | failed (first : Bool) (discovered : QueueSet) (e : TransportError)
  /-- The relay ends. -/
  | drain (result : Except RelayError Unit)

/-- What the relay does next. -/
inductive Phase where
  | absent
  | ready (provision : Bool)
  | provisioning
  | discovering
  | opening (first : Bool) (discovered : QueueSet)
  | listening
  | reconciling
  | closing (next : Closing)
  | finished (result : Except RelayError Unit)

/-- The relay without its receivers. -/
structure Relay where
  settings : Settings
  filter : QueueFilter := .byEnding
  phase : Phase := .absent
  status : Status := {}
  /-- The queues for which receivers were last opened. -/
  topology : Topology := ⟨∅, ∅⟩
  /-- Whether a generation of receivers is open. -/
  isOpen : Bool := false
  /-- The receivers that were started and not stopped. -/
  started : List ReceiverSettings := []
  diagnostics : Diagnostics := {}

namespace Relay

/-- The relay for some settings; there is none when their filter cannot be read. -/
def make (settings : Settings) (diagnostics : Diagnostics) : Except RelayError Relay :=
  match QueueFilter.ofSettings? settings with
  | some filter => .ok { settings, filter, diagnostics }
  | none => .error (.settings (.invalid "queue_filter" none))

/-- The part of the relay that reports on its life. -/
def source : String := "fault_bridge::services::bridge"

/-- How receivers report critical errors. -/
def report : CriticalReport := ⟨source, "Critical transport error"⟩

/-- A warning or an error of the relay. -/
def event (level : Level) (text : String) (fields : List (String × String)) : LogEvent :=
  ⟨level, source, text, fields⟩

/-- Which way the messages of a receiver travel. -/
def direction (receiver : ReceiverSettings) : Direction :=
  if receiver.id = Provision.returnReceiver then .giveBack else .forward

/-- The way of the messages of a receiver. -/
def route (r : Relay) (kind : BrokerKind) (receiver : ReceiverSettings) : Route where
  direction := direction receiver
  adapter := ⟨r.settings.errorQueue, r.settings.returnQueue, kind⟩
  backoff := r.settings.backoff
  poisonQueue := r.settings.poisonQueue

/-- Publishes a state. -/
def setState (r : Relay) (state : ServiceState) : Relay :=
  { r with status := { r.status with state } }

/-- Publishes the queues that were found; `idle` ones are not listened to. -/
def publish (r : Relay) (discovered idle : QueueSet) : Relay :=
  { r with diagnostics := r.diagnostics.publish discovered idle }

/-- The relay goes on to another phase. -/
def goto (r : Relay) (phase : Phase) : Relay :=
  { r with phase }

/-- The relay listens until something happens. -/
def listen (r : Relay) : Relay :=
  (r.setState .listening).goto .listening

/-- A new life of the relay begins. -/
def launch (r : Relay) (provision : Bool) : Relay :=
  { r with
    phase := .ready provision, status := {}, topology := ⟨∅, ∅⟩, isOpen := false, started := [] }

/-- The first step. -/
def begin (r : Relay) (provision : Bool) : Relay :=
  if provision then (r.setState .provisioning).goto .provisioning else r.goto .discovering

/-- The queues of the relay were made, or could not be made. -/
def provisioned (r : Relay) (succeeded : Bool) : Relay :=
  if succeeded then r.goto .discovering
  else (r.setState .stopped).goto (.finished (.error (.provisioning r.settings.returnQueue)))

/-- The failure to find queues. -/
def queryEvent (e : DiscoveryError) : LogEvent :=
  event .warning "Failure querying the queue information" [("error", e.message)]

/-- The queues were looked for the first time; none count as found when that failed. -/
def foundFirst (r : Relay) (result : Except DiscoveryError QueueSet) : Relay × List LogEvent :=
  match result with
  | .ok discovered => (r.goto (.opening true discovered), [])
  | .error e => (r.goto (.opening true ∅), [queryEvent e])

/-- The time has come to look for queues again. -/
def scan (r : Relay) : Relay :=
  (r.setState .reconciling).goto .reconciling

/-- The queues that exist by now, of those that did not. -/
def recovered (exists? : String → Except DiscoveryError Bool) (notFound : QueueSet) :
    QueueSet × List LogEvent :=
  notFound.toList.foldl (fun (found, events) queue =>
    match exists? queue with
    | .ok true => (found.insert queue, events)
    | .ok false => (found, events)
    | .error e => (found, events ++ [event .warning "Failed to check queue existence"
        [("queue", queue), ("error", e.message)]])) (∅, [])

/-- The queues were looked for again. -/
def found (r : Relay) (result : Except DiscoveryError QueueSet)
    (exists? : String → Except DiscoveryError Bool) : Relay × List LogEvent :=
  match result with
  | .error e => (r.listen, [queryEvent e])
  | .ok discovered =>
      let (back, events) := recovered exists? r.topology.notFound
      if r.isOpen && !r.topology.requiresRestart discovered back then (r.listen, events)
      else (r.goto (.closing (.restart discovered)), events)

/-- The queues that exist, those that do not, and what is to be said of them. -/
def sortOut (exists? : String → Except DiscoveryError Bool) (discovered : QueueSet) :
    List String × QueueSet × List LogEvent :=
  discovered.toList.foldl (fun (present, notFound, events) queue =>
    match exists? queue with
    | .ok true => (present ++ [queue], notFound, events)
    | .ok false => (present, notFound.insert queue, events ++
        [event .warning "Error queue not found, will check again on next scan" [("queue", queue)]])
    | .error e => (present, notFound.insert queue, events ++
        [event .warning "Failed to check error queue, will check again on next scan"
          [("queue", queue), ("error", e.message)]])) ([], ∅, [])

/-- The receivers of a generation: the one of messages that come back, then one for each queue. -/
def receivers (s : Settings) (present : List String) : List ReceiverSettings :=
  Provision.returnSettings s :: present.map fun queue => ⟨queue, queue, s.poisonQueue⟩

/-- Starts receivers in order, up to the first that cannot be started. -/
def startAll (start : ReceiverSettings → Except TransportError Unit) :
    List ReceiverSettings → List ReceiverSettings × Option (ReceiverSettings × TransportError)
  | [] => ([], none)
  | r :: rest =>
      match start r with
      | .ok () =>
          let (started, failure) := startAll start rest
          (r :: started, failure)
      | .error e => ([], some (r, e))

/-- Receivers could not be opened. -/
def fail (r : Relay) (first : Bool) (discovered : QueueSet) (e : TransportError) :
    Relay × List LogEvent :=
  let r := { r.publish discovered discovered with isOpen := false, started := [] }
  if first then ((r.setState .stopped).goto (.finished (.error (.transport e))), [])
  else
    ({ r with status := { r.status with listening := ∅ } }.listen,
      [event .error "Failed to start receivers, retrying on next scan"
        [("error", (RelayError.transport e).message)]])

/-- All receivers of a generation were started. -/
def opened (r : Relay) (discovered notFound : QueueSet) (started : List ReceiverSettings) : Relay :=
  let r := r.publish discovered notFound
  { r with
    status := { r.status with
      generation := r.status.generation + 1
      listening := Std.ExtTreeSet.ofList (started.map ReceiverSettings.address) }
    topology := ⟨discovered, notFound⟩
    isOpen := true
    started }.listen

/-- Opens receivers for the queues that were found. -/
def openFor (r : Relay) (first : Bool) (discovered : QueueSet) (o : Opening) :
    Relay × List LogEvent :=
  let (present, notFound, missing) := sortOut o.exists? discovered
  let wanted := receivers r.settings present
  match o.create wanted with
  | (.error e, events) =>
      let (r, failure) := r.fail first discovered e
      (r, missing ++ events ++ failure)
  | (.ok (), events) =>
      match startAll o.start wanted with
      | (started, none) => (r.opened discovered notFound started, missing ++ events)
      | (started, some (receiver, e)) =>
          ({ r with started, isOpen := false }.goto (.closing (.failed first discovered e)),
            missing ++ events ++ [event .error "Failed to start receiver"
              [("queue", receiver.address), ("error", e.message)]])

/-- The relay is to end. -/
def interrupt (r : Relay) (result : Except RelayError Unit) : Relay :=
  (r.setState .draining).goto (.closing (.drain result))

/-- What a critical error ends the relay with. -/
def criticalResult (c : Critical) : Except RelayError Unit :=
  .error (.transport (.connection (c.message ++ ": " ++ c.error.message)))

/-- All receivers have stopped. -/
def closed (r : Relay) (next : Closing) : Relay × List LogEvent :=
  let r := { r with isOpen := false, started := [] }
  match next with
  | .restart discovered => (r.goto (.opening false discovered), [])
  | .failed first discovered e => r.fail first discovered e
  | .drain result =>
      ({ r with status := { r.status with state := .stopped, listening := ∅ } }.goto
        (.finished result), [])

end Relay
end FaultRelay
