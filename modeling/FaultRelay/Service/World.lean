import FaultRelay.Service.Relay
import FaultRelay.Service.Reporter

/-!
# The relay at work on a broker in memory

A world is a broker in memory with the relay, its receivers and its reporters.  They are
actors of which one does one thing at a time; `World.act` is one thing that an actor
does, and it changes nothing while the actor has to wait.  In a run any actor may act at
any time.  As something clocked the world lets the jobs act first, in the order in which
they were started, and then the receivers.
-/

namespace FaultRelay

/-- Where queues are listed, with a state of its own. -/
structure Directory (δ : Type) where
  list : Memory → δ → Listing × δ
  exists? : Memory → δ → String → Except DiscoveryError Bool

/-- The queues that the broker itself lists. -/
def Directory.ofBroker : Directory Unit where
  list m _ := (m.listing, ())
  exists? m _ queue := m.exists? queue

/-- What runs beside the receivers. -/
inductive Job where
  | relay
  | report (r : Report)
  deriving DecidableEq, Repr

/-- Who may act. -/
inductive Actor where
  | job (j : Job)
  | receiver (place : Nat)
  deriving DecidableEq, Repr

/-- What ends the wait of a relay that listens. -/
inductive Wake where
  | shutdown
  | scan
  /-- A receiver raised a critical error. -/
  | critical
  /-- Nobody is left who could ask for the end. -/
  | drop
  deriving DecidableEq, Repr

/-- What ends the wait, the first things first when there are several. -/
def Wake.inOrder : List Wake := [.shutdown, .scan, .critical, .drop]

/-- A broker in memory with everything that runs on it. -/
structure World (δ : Type) where
  relay : Relay
  station : Station Unit
  directory : Directory δ
  listings : δ
  /-- The name of the machine. -/
  machine : String
  /-- The identities of control messages. -/
  messageId : Nat → String
  /-- How many control messages were made. -/
  messages : Nat := 0
  /-- Whether the end was asked for. -/
  shutdown : Bool := false
  /-- Whether nobody is left who could ask for the end. -/
  dropped : Bool := false
  /-- When queues are looked for again. -/
  nextScan : Nat := 0
  heartbeat : ReporterPhase := .absent
  check : ReporterPhase := .absent
  /-- The jobs, in the order in which they were started. -/
  jobs : List Job := []

namespace World

variable {δ : Type}

def settings (w : World δ) : Settings := w.relay.settings

/-- The broker. -/
def memory (w : World δ) : Memory := w.station.memory

/-- The time on the clock. -/
def clock (w : World δ) : Nat := w.station.clock

/-- The world with another broker. -/
def setMemory (w : World δ) (m : Memory) : World δ :=
  { w with station := w.station.setMemory m }

/-- Keeps what has to be kept of events. -/
def observe (w : World δ) (events : List LogEvent) : World δ :=
  { w with relay := { w.relay with
      diagnostics := events.foldl (·.observe w.station.site.now) w.relay.diagnostics } }

/-- Keeps what has to be kept of what receivers reported. -/
def collect (w : World δ) : World δ :=
  { w with station := { w.station with site := { w.station.site with log := [] } } }.observe
    w.station.site.log

/-- A step of the relay and what it reports. -/
def setRelay (w : World δ) (step : Relay × List LogEvent) : World δ :=
  { w with relay := step.1 }.observe step.2

/-- Looks for queues. -/
def discover (w : World δ) : Except DiscoveryError QueueSet × World δ :=
  let (listing, listings) := w.directory.list w.memory w.listings
  (w.relay.filter.discover listing, { w with listings })

def exists? (w : World δ) (queue : String) : Except DiscoveryError Bool :=
  w.directory.exists? w.memory w.listings queue

/-- What the broker answers when receivers are to be opened. -/
def opening (w : World δ) : Opening where
  exists? := w.exists?
  create receivers :=
    let (result, _, events) := w.memory.prepare false receivers
      [w.settings.errorQueue, w.settings.poisonQueue]
    (result, events)
  start receiver :=
    if w.memory.contains receiver.address then .ok () else .error (.queueNotFound receiver.address)

def handler (w : World δ) (receiver : ReceiverSettings) : Handler (Site Memory × Unit) :=
  ((w.relay.route .memory receiver).handler Memory.dispatch).beside Unit

/-- Makes and starts the receivers that the relay has started. -/
def makeReceivers (w : World δ) : World δ :=
  let station := w.station.make (some Relay.report) w.relay.started
  let started := station.latestPlaces.zip w.relay.started
  { w with station := started.foldl (fun s (place, r) => (s.start place (w.handler r)).2) station }

/-- Tells the receivers to stop if the relay waits for that. -/
def tellStop (w : World δ) : World δ :=
  match w.relay.phase with
  | .closing _ => { w with station := w.station.tellAllStop }
  | _ => w

/-- The time between two scans. -/
def scanPeriod (w : World δ) : Nat :=
  Settings.intervalNanos w.settings.scanInterval

/-- The relay makes its queues. -/
def provision (w : World δ) : World δ :=
  let o := Provision.run Memory.preparation w.settings w.memory
  { w.setMemory o.broker with relay := w.relay.provisioned o.succeeded }.observe o.logs

/-- The relay opens receivers. -/
def openReceivers (w : World δ) (first : Bool) (discovered : QueueSet) : World δ :=
  let w := (w.setRelay (w.relay.openFor first discovered w.opening)).makeReceivers.tellStop
  if first then { w with nextScan := w.clock + w.scanPeriod } else w

/-- Whether something that ends the wait of the relay has happened. -/
def isDue (w : World δ) : Wake → Bool
  | .shutdown => w.shutdown
  | .scan => w.nextScan ≤ w.clock
  | .critical => !w.station.raised.isEmpty
  | .drop => w.dropped

/-- What the relay does when its wait ends. -/
def wake (w : World δ) : Wake → World δ
  | .shutdown | .drop => { w with relay := w.relay.interrupt (.ok ()) }.tellStop
  | .scan =>
      { w with
        relay := w.relay.scan
        nextScan := ReporterPhase.following w.nextScan w.scanPeriod w.clock }
  | .critical =>
      match w.station.raised with
      | c :: rest =>
          { w with
            relay := w.relay.interrupt (Relay.criticalResult c)
            station := { w.station with raised := rest } }.tellStop
      | [] => w

/-- The relay waits for the first of several things that end the wait. -/
def attend (w : World δ) : World δ :=
  match Wake.inOrder.find? w.isDue with
  | some reason => w.wake reason
  | none => w

/-- The relay does the next thing. -/
def actRelay (w : World δ) : World δ :=
  match w.relay.phase with
  | .absent | .finished _ => w
  | .ready provision =>
      { w with
        relay := w.relay.begin provision
        station := { w.station with raised := [] } }
  | .provisioning => w.provision
  | .discovering =>
      let (result, w) := w.discover
      w.setRelay (w.relay.foundFirst result)
  | .opening first discovered => w.openReceivers first discovered
  | .listening => w.attend
  | .reconciling =>
      let (result, w) := w.discover
      (w.setRelay (w.relay.found result w.exists?)).tellStop
  | .closing next => if w.station.isQuiet then w.setRelay (w.relay.closed next) else w

/-- Whether the relay has something to do, critical errors apart. -/
def isRelayReady (w : World δ) : Bool :=
  match w.relay.phase with
  | .absent | .finished _ => false
  | .listening => w.shutdown || w.dropped || w.nextScan ≤ w.clock
  | .closing _ => w.station.isQuiet
  | _ => true

/-- Where a reporter stands. -/
def reporter (w : World δ) : Report → ReporterPhase
  | .heartbeat => w.heartbeat
  | .check => w.check

/-- The world with a reporter elsewhere. -/
def setReporter (w : World δ) (r : Report) (phase : ReporterPhase) : World δ :=
  match r with
  | .heartbeat => { w with heartbeat := phase }
  | .check => { w with check := phase }

/-- The time between two reports. -/
def period (w : World δ) : Report → Nat
  | .heartbeat => Settings.intervalNanos w.settings.heartbeatInterval
  | .check => Settings.intervalNanos w.settings.checksInterval

/-- Who sends control messages. -/
def sender (w : World δ) : Sender :=
  ⟨w.settings.returnQueue, w.machine, w.station.site.now⟩

/-- Makes and sends a report. -/
def sendReport (w : World δ) (r : Report) : World δ :=
  let id := w.messageId w.messages
  let queue := w.settings.controlQueue
  let (failure, m, events) : Option RelayError × Memory × List LogEvent := match r with
    | .heartbeat =>
        match Report.sendHeartbeat Memory.dispatch w.sender id queue w.relay.diagnostics
          w.memory with
        | (.ok (), m) => (none, m, [])
        | (.error e, m) => (some e, m, [])
    | .check =>
        let poison := w.settings.poisonQueue
        match Report.sendCheck Memory.dispatch w.sender id queue poison (w.memory.length? poison)
          w.memory with
        | (.ok _, m, events) => (none, m, events)
        | (.error e, m, events) => (some e, m, events)
  { w.setMemory m with messages := w.messages + 1 }.observe
    (events ++ failure.toList.map r.failureEvent)

/-- A reporter does the next thing. -/
def actReporter (w : World δ) (r : Report) : World δ :=
  match w.reporter r with
  | .absent | .finished _ => w
  | .ready =>
      match w.memory.prepare false [] [w.settings.controlQueue] with
      | (.ok (), _, events) => (w.setReporter r (.running w.clock)).observe events
      | (.error e, _, events) =>
          (w.setReporter r (.finished (.error (.transport e)))).observe events
  | .running next =>
      if w.shutdown then w.setReporter r (.finished (.ok ()))
      else if next ≤ w.clock then
        (w.sendReport r).setReporter r
          (.running (ReporterPhase.following next (w.period r) w.clock))
      else if w.dropped then w.setReporter r (.finished (.ok ()))
      else w

/-- An actor does the next thing. -/
def act (w : World δ) : Actor → World δ
  | .job .relay => w.actRelay
  | .job (.report r) => w.actReporter r
  | .receiver place => { w with station := w.station.work place }.collect

/-- Whether a job has something to do. -/
def isJobReady (w : World δ) : Job → Bool
  | .relay => w.isRelayReady
  | .report r => (w.reporter r).isReady w.clock (w.shutdown || w.dropped)

/-- Whether the relay waits and a critical error was raised. -/
def isAlarmed (w : World δ) : Bool :=
  match w.relay.phase with
  | .listening => !w.station.raised.isEmpty
  | _ => false

/-- Who acts next; the relay hears of critical errors when all receivers wait. -/
def nextActor? (w : World δ) : Option Actor :=
  match w.jobs.find? w.isJobReady, w.station.next? with
  | some j, _ => some (.job j)
  | none, some place => some (.receiver place)
  | none, none => if w.isAlarmed then some (.job .relay) else none

/-- The first time that something is waited for. -/
def due? (w : World δ) : Option Nat :=
  let scan := match w.relay.phase with
    | .listening => some w.nextScan
    | _ => none
  ([scan, w.heartbeat.due?, w.check.due?, w.station.due?].filterMap id).min?

instance : Clocked (World δ) where
  next? w := w.nextActor?.map w.act
  due? := due?
  clock := clock
  setClock time w := { w with station := { w.station with clock := time } }

def startRelay (w : World δ) (provision : Bool) : World δ :=
  { w with relay := w.relay.launch provision, jobs := w.jobs.erase .relay ++ [.relay] }

def startReporter (w : World δ) (r : Report) : World δ :=
  { w.setReporter r .ready with jobs := w.jobs.erase (.report r) ++ [.report r] }

/-- How a job ended, if it has. -/
def result? (w : World δ) : Job → Option (Except RelayError Unit)
  | .relay =>
      match w.relay.phase with
      | .finished result => some result
      | _ => none
  | .report r =>
      match w.reporter r with
      | .finished result => some result
      | _ => none

/-- Whether a job was started and its end not taken note of. -/
def isStarted (w : World δ) (j : Job) : Bool :=
  w.jobs.contains j

/-- Takes note of the end of a job. -/
def dismiss (w : World δ) (j : Job) : World δ :=
  { w with jobs := w.jobs.erase j }

end World
end FaultRelay
