import FaultRelay.Json.Size
import FaultRelay.Report.Diagnostics

/-!
# Heartbeats

A heartbeat carries the queues and the latest log entries.  It is cut until its JSON
form is small enough: the oldest log entries go first, then the last queues, ten at a
time.
-/

namespace FaultRelay

/-- A report that the relay is alive. -/
structure Heartbeat where
  version : String
  /-- Queues that were found, each with whether it is listened to. -/
  queues : List (String × Bool)
  logs : List LogEntry
  sent : Time.Instant

namespace Heartbeat

def relayVersion : String := "0.1.0"

/-- What the receiver of a heartbeat knows it by. -/
def messageType : String :=
  "ServiceControl.Connector.MassTransit.MassTransitConnectorHeartbeat"

/-- The most bytes that a heartbeat may have. -/
def maxSize : Nat := 204800

/-- How many entries are cut at a time. -/
def cut : Nat := 10

/-- The heartbeat of what is known at an instant. -/
def ofDiagnostics (d : Diagnostics) (now : Time.Instant) : Heartbeat :=
  ⟨relayVersion, d.ingestion, d.logs, now⟩

/-- The heartbeat as a JSON record. -/
def toJson (h : Heartbeat) : Json.Value :=
  .record [
    ("Version", .text h.version),
    ("ErrorQueues", .list (h.queues.map fun (name, ingesting) =>
      .record [("Name", .text name), ("Ingesting", .bool ingesting)])),
    ("Logs", .list (h.logs.map LogEntry.toJson)),
    ("SentDateTimeOffset", .text h.sent.toDocument)]

/-- The number of bytes of the JSON form. -/
def size (h : Heartbeat) : Nat :=
  h.toJson.size

/-- Cuts the oldest log entries until the heartbeat fits or none are left. -/
def cutLogs (limit : Nat) (h : Heartbeat) : Heartbeat :=
  if limit < h.size ∧ h.logs ≠ [] then cutLogs limit { h with logs := h.logs.drop cut } else h
termination_by h.logs.length
decreasing_by
  rename_i hcut
  have := List.length_pos_iff.mpr hcut.2
  simp only [List.length_drop, cut]
  omega

/-- Cuts the last queues until the heartbeat fits or none are left. -/
def cutQueues (limit : Nat) (h : Heartbeat) : Heartbeat :=
  if limit < h.size ∧ h.queues ≠ [] then
    cutQueues limit { h with queues := h.queues.take (h.queues.length - cut) }
  else h
termination_by h.queues.length
decreasing_by
  rename_i hcut
  have := List.length_pos_iff.mpr hcut.2
  simp only [List.length_take, cut]
  omega

/-- The heartbeat cut down to a number of bytes, as far as cutting helps. -/
def reduceTo (limit : Nat) (h : Heartbeat) : Heartbeat :=
  cutQueues limit (cutLogs limit h)

/-- The heartbeat cut down to the most bytes it may have. -/
def reduce (h : Heartbeat) : Heartbeat :=
  h.reduceTo maxSize

end Heartbeat
end FaultRelay
