import FaultRelay.Failure
import FaultRelay.Fault.Metadata
import FaultRelay.Text.Part
import FaultRelay.Time.Reading
import FaultRelay.Time.Span

/-!
# Conversion of a fault and of a returned message

`convert` adds the headers that ServiceControl reads to the headers of a fault and
touches nothing else.  `withoutForeign` takes them off again.

Both are given as data: the list of headers that are written, each with its value or
without one, and the list of what is odd about the fault.
-/

namespace FaultRelay
namespace Fault

open Time

def faultTime? (h : Headers) : Option Instant :=
  h[MassTransit.timestamp]?.bind Instant.parse?

/-- The time at which the message that failed was sent. -/
def Metadata.sent? (m : Metadata) (h : Headers) : Option Instant :=
  (m.sentTime.bind Instant.parse?).or (faultTime? h)

/-- How long the message may wait, from its sending or else from now. -/
def Metadata.timeToLive? (m : Metadata) (h : Headers) (now : Instant) : Option String :=
  (m.expirationTime.bind Instant.parse?).map fun expires =>
    spanText (expires.since ((m.sent? h).getD now))

/-- The headers about the message that failed. -/
def messageHeaders (m : Metadata) (fault : Received) (now : Instant) :
    List (String × Option String) :=
  [(NServiceBus.messageId, some (m.messageId.getD fault.nativeId)),
    (NServiceBus.enclosedMessageTypes,
      if m.messageTypes.isEmpty then none else some (",".intercalate m.messageTypes)),
    (NServiceBus.timeSent, (m.sent? fault.headers).map Instant.toWire),
    (NServiceBus.conversationId, m.conversationId),
    (NServiceBus.correlationId, m.correlationId),
    (NServiceBus.timeToBeReceived, m.timeToLive? fault.headers now),
    (NServiceBus.originatingEndpoint, m.sourceAddress),
    (NServiceBus.originatingMachine, m.machineName)]

/-- The address at which the message failed. -/
def inputAddress (fault : Received) : String :=
  fault.headers[MassTransit.inputAddress]?.getD fault.address

/-- The headers about the failure. -/
def failureHeaders (m : Metadata) (fault : Received) (now : Instant) :
    List (String × Option String) :=
  let h := fault.headers
  [(NServiceBus.retries, h[MassTransit.retryCount]?),
    (MassTransit.inputAddress,
      if h.contains MassTransit.inputAddress then none else some ("queue:" ++ fault.address)),
    (NServiceBus.processingEndpoint, some (inputAddress fault)),
    (NServiceBus.failedQueue, some (inputAddress fault)),
    (NServiceBus.processingMachine, h[MassTransit.hostMachineName]?.or m.machineName),
    (NServiceBus.exceptionType, h[MassTransit.exceptionType]?),
    (NServiceBus.exceptionMessage, h[MassTransit.exceptionMessage]?),
    (NServiceBus.stackTrace, h[MassTransit.stackTrace]?),
    (NServiceBus.timeOfFailure, some ((faultTime? h).getD now).toWire)]

/-- A warning about a fault when something is missing. -/
def missing (absent : Bool) (fault : Received) (text : String)
    (fields : List (String × String)) : List LogEvent :=
  if absent then [warning text (("native_id", fault.nativeId) :: fields)] else []

/-- What is odd about the message that failed. -/
def messageWarnings (m : Metadata) (fault : Received) : List LogEvent :=
  missing m.messageId.isNone fault "Fault has no message id, using the native id" []
    ++ missing m.messageTypes.isEmpty fault "Fault has no message type" []
    ++ missing (m.sentTime.bind Instant.parse?).isNone fault
        "Fault has no readable sent time, using the fault timestamp" []
    ++ missing m.conversationId.isNone fault "Fault has no conversation id" []
    ++ missing m.sourceAddress.isNone fault "Fault has no source address" []
    ++ missing m.machineName.isNone fault "Fault has no host machine name" []

/-- What is odd about the failure. -/
def failureWarnings (fault : Received) : List LogEvent :=
  let absent (name : String) := !fault.headers.contains name
  missing (absent MassTransit.inputAddress) fault
      "Fault has no input address, falling back to the receive address"
      [("receive_address", fault.address)]
    ++ [MassTransit.exceptionType, MassTransit.exceptionMessage, MassTransit.stackTrace].flatMap
        (fun name => missing (absent name) fault "Fault header missing" [("header", name)])
    ++ missing (faultTime? fault.headers).isNone fault
        "Fault has no readable timestamp, using the current time" []

/-- Whether the body of a fault is an envelope. -/
def hasEnvelope (fault : Received) : Bool :=
  !fault.headers.contains MassTransit.messageId

/-- The content type of the body of a fault. -/
def contentType (fault : Received) : String :=
  if hasEnvelope fault then MassTransit.envelopeContentType else MassTransit.plainContentType

/-- A message that is no fault. -/
def markError? (h : Headers) : Option ConversionError :=
  match h[MassTransit.reason]? with
  | some reason =>
      if reason = MassTransit.faultReason then none
      else some (.invalidFormat ("'" ++ MassTransit.reason ++ "' is '" ++ reason
        ++ "', expected '" ++ MassTransit.faultReason ++ "'"))
  | none => some (.invalidFormat ("'" ++ MassTransit.reason ++ "' header is missing"))

/-- The metadata of a fault, from its body or its headers. -/
def metadata? (fault : Received) : Except ConversionError (Metadata × List LogEvent) :=
  if hasEnvelope fault then
    match Metadata.ofEnvelope? fault.body with
    | some m => .ok (m, [])
    | none => .error (.invalidFormat "body is not a MassTransit envelope")
  else .ok (Metadata.ofHeaders fault.headers)

def writtenHeaders (m : Metadata) (fault : Received) (now : Instant) :
    List (String × Option String) :=
  (NServiceBus.contentType, some (contentType fault))
    :: (messageHeaders m fault now ++ failureHeaders m fault now)

/-- The fault with the headers that ServiceControl reads, and what is odd about it. -/
def convert (fault : Received) (now : Instant) :
    Except ConversionError (Received × List LogEvent) :=
  match markError? fault.headers with
  | some e => .error e
  | none => do
      let (m, odd) ← metadata? fault
      return ({ fault with headers := fault.headers.write (writtenHeaders m fault now) },
        odd ++ messageWarnings m fault ++ failureWarnings fault)

/-- Headers that a returned message keeps although they are foreign to it. -/
def keptOnReturn : List String :=
  [ServiceControl.acknowledgementQueue, ServiceControl.uniqueMessageId]

/-- A header that a message of the source never has. -/
def isForeign (name : String) : Bool :=
  (Text.beginsWith NServiceBus.family name || Text.beginsWith ServiceControl.family name)
    && !keptOnReturn.contains name

/-- Headers as the source writes them. -/
def withoutForeign (h : Headers) : Headers :=
  h.filter fun name _ => !isForeign name

end Fault
end FaultRelay
