import FaultRelay.Broker.Memory
import FaultRelay.Delivery.Basic
import FaultRelay.Delivery.Route
import FaultRelay.Schedule

/-!
# Receivers of a broker in memory

A receiver takes the head of its queue and delivers it before it takes the next one.  A
message that is abandoned goes back to the head of the queue, and the receiver ends.  A
receiver also ends when the broker is unavailable, which it reports as critical.

A station is the broker with all its receivers and a clock, and `Station.work` is one
thing that one of them does.  Which receiver works next is up to whoever runs the
station; as something clocked it prefers the receiver with the lowest address.
-/

namespace FaultRelay

/-- An error that a receiver cannot recover from. -/
structure Critical where
  message : String
  error : TransportError
  deriving DecidableEq, Repr

/-- How critical errors are reported: by which part of the relay, and under which heading. -/
structure CriticalReport where
  source : String
  heading : String
  deriving DecidableEq, Repr

namespace CriticalReport

/-- The event that reports a critical error. -/
def event (r : CriticalReport) (c : Critical) : LogEvent :=
  ⟨.error, r.source, r.heading ++ ": " ++ c.message, [("error", c.error.message)]⟩

/-- How critical errors are reported when nobody else does. -/
def byDefault : CriticalReport := ⟨"fault_bridge::bus", "Critical transport error"⟩

end CriticalReport

/-- What a receiver is told. -/
inductive Signal where
  | run
  | stop
  /-- Nobody is left who could tell the receiver anything. -/
  | dropped
  deriving DecidableEq, Repr

/-- What a running receiver does. -/
inductive Task where
  /-- Looks for a message. -/
  | idle
  /-- Delivers a message; `due` is when the delay of the delivery ends. -/
  | delivering (stored : Stored) (delivery : Delivery) (due : Nat)
  | ended

/-- A receiver of a broker in memory, with a handler on a site and a state of its own. -/
structure Receiver (τ : Type) where
  settings : ReceiverSettings
  report : Option CriticalReport
  signal : Signal := .run
  /-- The handler and the task, while the receiver is started. -/
  running : Option (Handler (Site Memory × τ) × Task) := none

/-- A broker in memory with its receivers. -/
structure Station (τ : Type) where
  site : Site Memory
  rest : τ
  /-- All receivers that were ever made, oldest first. -/
  receivers : List (Receiver τ) := []
  /-- The place of the first receiver of the latest ones. -/
  latest : Nat := 0
  /-- Critical errors that were raised, oldest first. -/
  raised : List Critical := []
  /-- The nanoseconds since the start. -/
  clock : Nat := 0

namespace Receiver

variable {τ : Type}

/-- The address of the queue of a receiver. -/
def address (r : Receiver τ) : String := r.settings.address

/-- What a receiver says when the broker is unavailable. -/
def lost (r : Receiver τ) : Critical :=
  ⟨"Receiver for '" ++ r.address ++ "' lost its broker connection",
    .connection Memory.unavailableText⟩

/-- The receiver with another task. -/
def withTask (r : Receiver τ) (h : Handler (Site Memory × τ)) (task : Task) : Receiver τ :=
  { r with running := some (h, task) }

/-- Whether a receiver has a task that is not over. -/
def isRunning (r : Receiver τ) : Bool :=
  match r.running with
  | none | some (_, .ended) => false
  | some _ => true

/-- Whether a receiver has something to do at a time. -/
def isReady (r : Receiver τ) (m : Memory) (clock : Nat) : Bool :=
  match r.running with
  | none | some (_, .ended) => false
  | some (_, .idle) => r.signal != .run || m.unavailable || !(m.messages r.address).isEmpty
  | some (_, .delivering _ d due) =>
      match d.stage with
      | .waiting _ => r.signal != .run || due ≤ clock
      | _ => true

/-- When a receiver will have something to do without any message or signal. -/
def due? (r : Receiver τ) : Option Nat :=
  match r.running with
  | some (_, .delivering _ ⟨_, _, .waiting _⟩ due) => some due
  | _ => none

/-- When the delay that a delivery has come to ends. -/
def dueAfter (d : Delivery) (clock : Nat) : Nat :=
  match d.stage with
  | .waiting delay => clock + delay
  | _ => clock

end Receiver

namespace Station

variable {τ : Type}

/-- The station with another receiver at a place. -/
def setReceiver (s : Station τ) (i : Nat) (r : Receiver τ) : Station τ :=
  { s with receivers := s.receivers.set i r }

/-- The station with another broker. -/
def setMemory (s : Station τ) (m : Memory) : Station τ :=
  { s with site := { s.site with broker := m } }

def memory (s : Station τ) : Memory := s.site.broker

/-- A receiver reports a critical error. -/
def raise (s : Station τ) (r : Receiver τ) (c : Critical) : Station τ :=
  { s with
    raised := s.raised ++ [c]
    site := s.site.report (r.report.toList.map (·.event c)) }

/-- A receiver without a message looks for one. -/
def look (s : Station τ) (i : Nat) (r : Receiver τ) (h : Handler (Site Memory × τ)) : Station τ :=
  if r.signal = .stop then s.setReceiver i (r.withTask h .ended)
  else if s.memory.unavailable then (s.raise r r.lost).setReceiver i (r.withTask h .ended)
  else match s.memory.pop r.address with
    | some (stored, m) =>
        (s.setMemory m).setReceiver i
          (r.withTask h (.delivering stored (.start (stored.received r.address)) s.clock))
    | none => if r.signal = .dropped then s.setReceiver i (r.withTask h .ended) else s

/-- A receiver goes on with the delivery of a message. -/
def proceed (s : Station τ) (i : Nat) (r : Receiver τ) (h : Handler (Site Memory × τ))
    (stored : Stored) (d : Delivery) (due : Nat) : Station τ :=
  match d.stage with
  | .completed => s.setReceiver i (r.withTask h .idle)
  | .abandoned =>
      (s.setMemory (s.memory.putBack r.address stored)).setReceiver i (r.withTask h .ended)
  | .waiting _ =>
      if r.signal != .run then s.setReceiver i (r.withTask h (.delivering stored d.giveUp due))
      else if due ≤ s.clock then s.setReceiver i (r.withTask h (.delivering stored d.resume due))
      else s
  | .attempting | .failing _ =>
      let (d, site, rest) := d.work h (r.signal == .stop) (s.site, s.rest)
      { s with site, rest }.setReceiver i
        (r.withTask h (.delivering stored d (Receiver.dueAfter d s.clock)))

/-- The receiver at a place does one thing. -/
def work (s : Station τ) (i : Nat) : Station τ :=
  match s.receivers[i]? with
  | some r =>
      match r.running with
      | some (h, .idle) => s.look i r h
      | some (h, .delivering stored d due) => s.proceed i r h stored d due
      | some (_, .ended) | none => s
  | none => s

/-- Makes receivers; nobody tells the earlier ones anything any more. -/
def make (s : Station τ) (report : Option CriticalReport) (settings : List ReceiverSettings) :
    Station τ :=
  { s with
    latest := s.receivers.length
    receivers := s.receivers.map (fun r => { r with signal := .dropped })
      ++ settings.map fun r => { settings := r, report } }

/-- Starts the receiver at a place, unless it is started already. -/
def start (s : Station τ) (i : Nat) (h : Handler (Site Memory × τ)) :
    Except TransportError Unit × Station τ :=
  match s.receivers[i]? with
  | none => (.ok (), s)
  | some r =>
      if r.running.isSome then (.ok (), s)
      else if s.memory.contains r.address then
        (.ok (), s.setReceiver i { r with signal := .run, running := some (h, .idle) })
      else (.error (.queueNotFound r.address), s)

/-- Tells the receiver at a place to stop. -/
def tellStop (s : Station τ) (i : Nat) : Station τ :=
  match s.receivers[i]? with
  | some r => s.setReceiver i { r with signal := .stop }
  | none => s

def latestPlaces (s : Station τ) : List Nat :=
  (List.range s.receivers.length).drop s.latest

/-- Tells the latest receivers to stop. -/
def tellAllStop (s : Station τ) : Station τ :=
  s.latestPlaces.foldl tellStop s

/-- Whether all receivers are over. -/
def isQuiet (s : Station τ) : Bool :=
  s.receivers.all fun r => !r.isRunning

/-- Takes leave of a receiver that is over; it can be started again. -/
def release (s : Station τ) (i : Nat) : Station τ :=
  match s.receivers[i]? with
  | some r => if r.isRunning then s else s.setReceiver i { r with running := none }
  | none => s

/-- The places of the receivers that have something to do. -/
def readyPlaces (s : Station τ) : List Nat :=
  (List.range s.receivers.length).filter fun i =>
    (s.receivers[i]?).any fun r => r.isReady s.memory s.clock

/-- Of two places the one whose receiver has the lower address. -/
def lower (s : Station τ) (i j : Nat) : Nat :=
  match s.receivers[i]?, s.receivers[j]? with
  | some a, some b => if b.address < a.address then j else i
  | _, _ => i

/-- The receiver that works next: the one with the lowest address that has something to do. -/
def next? (s : Station τ) : Option Nat :=
  match s.readyPlaces with
  | i :: rest => some (rest.foldl s.lower i)
  | [] => none

/-- When the first delay ends. -/
def due? (s : Station τ) : Option Nat :=
  (s.receivers.filterMap Receiver.due?).min?

instance : Clocked (Station τ) where
  next? s := s.next?.map s.work
  due? := due?
  clock := clock
  setClock time s := { s with clock := time }

end Station
end FaultRelay
