import FaultRelay.Broker.Receiver
import FaultRelay.Settings.Basic

/-!
# The queues of the relay itself

The relay needs a queue for messages that come back and the poison queue.  Making them
leaves queues that exist as they are.
-/

namespace FaultRelay

/--
Gets a broker ready for receivers and for sending: makes queues, or else checks that the
receivers have theirs.
-/
abbrev Prepare (β : Type) :=
  Bool → List ReceiverSettings → List String → β → Except TransportError Unit × β × List LogEvent

/-- Getting a broker in memory ready. -/
def Memory.preparation : Prepare Memory :=
  fun setup receivers sending m => m.prepare setup receivers sending

namespace Provision

variable {β : Type}

/-- The part of the relay that reports on its queues. -/
def source : String := "fault_bridge::services::provision"

/-- The name of the receiver of messages that come back. -/
def returnReceiver : String := "Return"

/-- The receiver of messages that come back. -/
def returnSettings (s : Settings) : ReceiverSettings :=
  ⟨returnReceiver, s.returnQueue, s.poisonQueue⟩

/-- How critical errors are reported while queues are made. -/
def report : CriticalReport := ⟨source, "Critical error while creating queues"⟩

/-- What making the queues led to. -/
structure Outcome (β : Type) where
  broker : β
  /-- The critical errors; there are none exactly when the queues were made. -/
  raised : List Critical
  logs : List LogEvent

/-- Whether the queues were made. -/
def Outcome.succeeded (o : Outcome β) : Bool := o.raised.isEmpty

/-- Makes the queues that the relay needs. -/
def run (prepare : Prepare β) (s : Settings) (broker : β) : Outcome β :=
  match prepare true [returnSettings s] [s.poisonQueue] broker with
  | (.ok (), broker, logs) => ⟨broker, [], logs⟩
  | (.error e, broker, logs) =>
      let c : Critical := ⟨"Queue provisioning failed", e⟩
      ⟨broker, [c], logs ++ [report.event c]⟩

/-- Checks that messages that come back can be received. -/
def healthCheck (prepare : Prepare β) (s : Settings) (broker : β) :
    Except RelayError Unit × β × List LogEvent :=
  match prepare false [returnSettings s] [s.controlQueue] broker with
  | (.ok (), broker, logs) => (.ok (), broker, logs)
  | (.error e, broker, logs) => (.error (.transport e), broker, logs)

end Provision
end FaultRelay
