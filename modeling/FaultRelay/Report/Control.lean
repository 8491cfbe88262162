import FaultRelay.Fault.Names
import FaultRelay.Json.Value
import FaultRelay.Message
import FaultRelay.Text.Blank
import FaultRelay.Time.Instant

/-!
# Control messages

The relay reports to the control queue with JSON messages that say of which type they
are, who sent them, from which machine and when.
-/

namespace FaultRelay

/-- Values of the environment by their names. -/
abbrev Environment := List (String × String)

/-- The variables that may name the machine. -/
def machineVariables : List String := ["HOSTNAME", "COMPUTERNAME"]

/-- The name of the machine: the first variable that holds more than blanks. -/
def machineName (env : Environment) : String :=
  (machineVariables.findSome? fun name =>
    (env.lookup name).filter fun value => !Text.isBlankText value).getD "unknown"

/-- Who sends control messages, from where, and when. -/
structure Sender where
  endpoint : String
  machine : String
  now : Time.Instant
  deriving DecidableEq, Repr

/-- A control message with an identity, to a queue, of a type. -/
def Sender.message (s : Sender) (id queue type : String) (content : Json.Value) : Operation :=
  ⟨queue, id, Headers.ofPairs [
      (Fault.NServiceBus.messageId, id),
      (Fault.NServiceBus.enclosedMessageTypes, type),
      (Fault.NServiceBus.contentType, Fault.MassTransit.plainContentType),
      (Fault.NServiceBus.messageIntent, "Send"),
      (Fault.NServiceBus.timeSent, s.now.toWire),
      (Fault.NServiceBus.originatingEndpoint, s.endpoint),
      (Fault.NServiceBus.originatingMachine, s.machine)],
    content.render.toUTF8, Headers.ofPairs [(Property.messageId, id)]⟩

end FaultRelay
