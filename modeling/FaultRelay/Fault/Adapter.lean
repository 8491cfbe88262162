import FaultRelay.Fault.Conversion
import FaultRelay.Url.QueueName

/-!
# From received messages to operations

A fault is forwarded to the error queue with the address for its return; a message that
comes back is sent to the queue in which it failed.

Each function also gives the message as it leaves it.  A message that comes back keeps
what was taken off it even when it turns out that it cannot be returned.
-/

namespace FaultRelay
namespace Fault

/-- Where faults go and where they come back, on a kind of broker. -/
structure Adapter where
  errorQueue : String
  returnQueue : String
  broker : BrokerKind
  deriving DecidableEq, Repr

/-- The identity of a converted message. -/
def convertedId (m : Received) : String :=
  m.headers[NServiceBus.messageId]?.getD m.nativeId

namespace Adapter

/-- The fault as it is forwarded, the operation that forwards it, and what is odd about it. -/
def forward (a : Adapter) (fault : Received) (now : Time.Instant) :
    Received × Except ConversionError Operation × List LogEvent :=
  match convert fault now with
  | .error e => (fault, .error e, [])
  | .ok (converted, odd) =>
      let sent := { converted with
        headers := converted.headers.insert ServiceControl.retryTo a.returnQueue }
      (sent, .ok ⟨a.errorQueue, convertedId sent, sent.headers, sent.body, ∅⟩, odd)

/-- The address of a queue on the broker of the adapter. -/
def queueAddress (a : Adapter) (queue : String) : String :=
  if Text.beginsWith a.broker.addressScheme queue then queue else a.broker.addressScheme ++ queue

/-- The message as it is returned and the operation that returns it. -/
def giveBack (a : Adapter) (m : Received) : Received × Except ConversionError Operation :=
  match m.headers[ServiceControl.targetAddress]? with
  | none => (m, .error (.missingHeader ServiceControl.targetAddress))
  | some target =>
      let contentType := m.headers[NServiceBus.contentType]?
      let id := convertedId m
      let bare := withoutForeign (m.headers.erase NServiceBus.contentType)
      match bare[ServiceControl.acknowledgementQueue]? with
      | none =>
          ({ m with headers := bare },
            .error (.missingHeader ServiceControl.acknowledgementQueue))
      | some queue =>
          let headers := bare.insert ServiceControl.acknowledgementQueue (a.queueAddress queue)
          ({ m with headers := headers },
            .ok ⟨Url.queueName target, id, headers, m.body,
              Headers.write ∅ [(Property.messageId, some id), (Property.contentType, contentType)]⟩)

end Adapter

end Fault
end FaultRelay
