/-!
# Header names of the two conventions

A fault is written with the headers of MassTransit and forwarded with those of
NServiceBus; ServiceControl adds headers of its own.
-/

namespace FaultRelay
namespace Fault

namespace MassTransit

def reason : String := "MT-Reason"
def messageId : String := "MessageId"
def conversationId : String := "ConversationId"
def correlationId : String := "CorrelationId"
def messageType : String := "MT-MessageType"
def sourceAddress : String := "MT-Source-Address"
def sentTime : String := "MT-Transport-SentTime"
def expirationTime : String := "MT-Expiration-Time"
def hostInfo : String := "MT-Host-Info"
def hostMachineName : String := "MT-Host-MachineName"
def inputAddress : String := "MT-Fault-InputAddress"
def exceptionType : String := "MT-Fault-ExceptionType"
def exceptionMessage : String := "MT-Fault-Message"
def stackTrace : String := "MT-Fault-StackTrace"
def timestamp : String := "MT-Fault-Timestamp"
def retryCount : String := "MT-Fault-RetryCount"

/-- The reason that marks a fault. -/
def faultReason : String := "fault"

/-- The content type of a body that is an envelope. -/
def envelopeContentType : String := "application/vnd.masstransit+json"

/-- The content type of a body without an envelope. -/
def plainContentType : String := "application/json"

end MassTransit

namespace NServiceBus

/-- What every header of the convention starts with. -/
def family : String := "NServiceBus."

def messageId : String := "NServiceBus.MessageId"
def messageIntent : String := "NServiceBus.MessageIntent"
def contentType : String := "NServiceBus.ContentType"
def enclosedMessageTypes : String := "NServiceBus.EnclosedMessageTypes"
def timeSent : String := "NServiceBus.TimeSent"
def conversationId : String := "NServiceBus.ConversationId"
def correlationId : String := "NServiceBus.CorrelationId"
def timeToBeReceived : String := "NServiceBus.TimeToBeReceived"
def originatingEndpoint : String := "NServiceBus.OriginatingEndpoint"
def originatingMachine : String := "NServiceBus.OriginatingMachine"
def processingEndpoint : String := "NServiceBus.ProcessingEndpoint"
def processingMachine : String := "NServiceBus.ProcessingMachine"
def retries : String := "NServiceBus.Retries"
def failedQueue : String := "NServiceBus.FailedQ"
def timeOfFailure : String := "NServiceBus.TimeOfFailure"
def exceptionType : String := "NServiceBus.ExceptionInfo.ExceptionType"
def exceptionMessage : String := "NServiceBus.ExceptionInfo.Message"
def stackTrace : String := "NServiceBus.ExceptionInfo.StackTrace"

end NServiceBus

namespace ServiceControl

/-- What every header of the convention starts with. -/
def family : String := "ServiceControl."

def retryTo : String := "ServiceControl.RetryTo"
def targetAddress : String := "ServiceControl.TargetEndpointAddress"
def acknowledgementQueue : String := "ServiceControl.Retry.AcknowledgementQueue"
def uniqueMessageId : String := "ServiceControl.Retry.UniqueMessageId"

end ServiceControl

end Fault
end FaultRelay
