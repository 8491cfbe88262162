import FaultRelay.Fault.Names
import FaultRelay.Json.Document
import FaultRelay.Log
import FaultRelay.Message
import FaultRelay.Text.Blank

/-!
# What a fault says about the message that failed

A fault comes in one of two shapes.  With a `MessageId` header it is flat: everything
stands in headers.  Without one its body is an envelope, a JSON record.  Both are read
into the same `Metadata`, so that what is written from it does not depend on the shape.
-/

namespace FaultRelay
namespace Fault

open Text

/-- The message that failed. -/
structure Metadata where
  messageId : Option String
  messageTypes : List String
  sentTime : Option String
  conversationId : Option String
  correlationId : Option String
  expirationTime : Option String
  sourceAddress : Option String
  machineName : Option String
  deriving DecidableEq, Repr

/-- The part of the program that reports about conversion. -/
def logSource : String := "fault_bridge::translate"

/-- Something odd about a fault. -/
def warning (text : String) (fields : List (String × String)) : LogEvent :=
  ⟨.warning, logSource, text, fields⟩

/-- A text member that may be missing. -/
def optionalText? : Option Json.Node → Option (Option String)
  | none => some none
  | some node => node.optionalText?

/-- The name of the machine in a description of a host. -/
def hostMachine? (host : Json.Node) : Option (Option String) := do
  match ← host.fields? [["machineName", "MachineName"]] with
  | [machine] => optionalText? machine
  | _ => none

/-- The members of an envelope that are read, in their order. -/
def envelopeFields : List (List String) :=
  [["messageId"], ["conversationId"], ["correlationId"], ["sourceAddress"], ["messageType"],
    ["sentTime"], ["expirationTime"], ["host"]]

/-- The metadata in the members of an envelope. -/
def Metadata.ofFields? : List (Option Json.Node) → Option Metadata
  | [messageId, conversationId, correlationId, sourceAddress, messageType, sentTime,
      expirationTime, host] => do
      return {
        messageId := ← optionalText? messageId
        conversationId := ← optionalText? conversationId
        correlationId := ← optionalText? correlationId
        sourceAddress := ← optionalText? sourceAddress
        messageTypes := ← (match messageType with
          | none => some []
          | some node => node.texts?)
        sentTime := ← optionalText? sentTime
        expirationTime := ← optionalText? expirationTime
        machineName := ← (match host with
          | none | some .null => some none
          | some node => hostMachine? node) }
  | _ => none

/-- The metadata of a fault whose body is an envelope. -/
def Metadata.ofEnvelope? (body : ByteArray) : Option Metadata := do
  ofFields? (← (← Json.read? body.toList).fields? envelopeFields)

/-- The message types of a list with semicolons. -/
def splitTypes (types : String) : List String :=
  ((types.toList.splitOn ';').map fun t => String.ofList (trimChars t)).filter (!·.isEmpty)

/-- The machine name in the headers of a flat fault, and what is odd about them. -/
def machineOfHeaders (h : Headers) : Option String × List LogEvent :=
  let plain := h[MassTransit.hostMachineName]?
  match h[MassTransit.hostInfo]? with
  | none => (plain, [])
  | some info =>
      match (Json.read? (Utf8.encode info)).bind hostMachine? with
      | some machine => (machine.or plain, [])
      | none =>
          (plain, [warning ("Unreadable " ++ MassTransit.hostInfo ++ " header") [("error", "")]])

/-- The metadata of a flat fault, and what is odd about it. -/
def Metadata.ofHeaders (h : Headers) : Metadata × List LogEvent :=
  let machine := machineOfHeaders h
  ({ messageId := h[MassTransit.messageId]?
     messageTypes := (h[MassTransit.messageType]?.map splitTypes).getD []
     sentTime := h[MassTransit.sentTime]?
     conversationId := h[MassTransit.conversationId]?
     correlationId := h[MassTransit.correlationId]?
     expirationTime := h[MassTransit.expirationTime]?
     sourceAddress := h[MassTransit.sourceAddress]?
     machineName := machine.1 }, machine.2)

end Fault
end FaultRelay
