import FaultRelay.Report.Heartbeat
import FaultRelay.Report.PoisonCheck
import FaultRelay.Service.Provision

/-!
# What is reported to the control queue

Heartbeats and checks of the poison queue are sent at intervals, the first one at once.
-/

namespace FaultRelay

/-- Heartbeats and checks. -/
inductive Report where
  | heartbeat
  | check
  deriving DecidableEq, Repr

namespace Report

variable {β : Type}

/-- The message that a heartbeat is sent as. -/
def heartbeatMessage (s : Sender) (id queue : String) (d : Diagnostics) : Operation :=
  s.message id queue Heartbeat.messageType (Heartbeat.ofDiagnostics d s.now).reduce.toJson

/-- The message that the outcome of a check is sent as. -/
def checkMessage (s : Sender) (id queue : String) (result : CheckResult) : Operation :=
  s.message id queue PoisonCheck.messageType (PoisonCheck.report s result)

def sendHeartbeat (dispatch : Dispatch β) (s : Sender) (id queue : String) (d : Diagnostics)
    (broker : β) : Except RelayError Unit × β :=
  match dispatch [heartbeatMessage s id queue d] broker with
  | (.ok (), broker) => (.ok (), broker)
  | (.error e, broker) => (.error (.transport e), broker)

/-- Sends the outcome of a check of the poison queue, given its length. -/
def sendCheck (dispatch : Dispatch β) (s : Sender) (id queue poisonQueue : String)
    (length : Except DiscoveryError Nat) (broker : β) :
    Except RelayError CheckResult × β × List LogEvent :=
  let (result, events) := PoisonCheck.ofLength poisonQueue length
  match dispatch [checkMessage s id queue result] broker with
  | (.ok (), broker) => (.ok result, broker, events)
  | (.error e, broker) => (.error (.transport e), broker, events)

/-- What is said when a report cannot be sent. -/
def failureEvent (r : Report) (e : RelayError) : LogEvent :=
  match r with
  | .heartbeat => ⟨.error, "fault_bridge::services::heartbeat", "Failed to send heartbeat",
      [("error", e.message)]⟩
  | .check => ⟨.error, PoisonCheck.source, "Failed to report custom check",
      [("error", e.message)]⟩

end Report

/-- What a reporter does next. -/
inductive ReporterPhase where
  | absent
  | ready
  /-- Waits for the time of its next report. -/
  | running (next : Nat)
  | finished (result : Except RelayError Unit)

namespace ReporterPhase

/-- A time that was missed by no more than this, in nanoseconds, is not missed. -/
def tolerance : Nat := 5000000

/-- The time that follows a time for which it has become `clock`, `period` being between them. -/
def following (time period clock : Nat) : Nat :=
  if time + tolerance < clock then clock + period else time + period

/-- When a reporter has something to do by itself. -/
def due? : ReporterPhase → Option Nat
  | .running next => some next
  | _ => none

/-- Whether a reporter has something to do. -/
def isReady (p : ReporterPhase) (clock : Nat) (stopping : Bool) : Bool :=
  match p with
  | .ready => true
  | .running next => stopping || next ≤ clock
  | .absent | .finished _ => false

end ReporterPhase
end FaultRelay
