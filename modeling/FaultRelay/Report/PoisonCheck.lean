import FaultRelay.Digest.NameId
import FaultRelay.Failure
import FaultRelay.Log
import FaultRelay.Report.Control

/-!
# The check of the poison queue

The check passes while the poison queue is empty.  It fails when messages are in it, and
also when that cannot be found out.
-/

namespace FaultRelay

/-- The outcome of a check. -/
inductive CheckResult where
  | pass
  | failed (reason : String)
  deriving DecidableEq, Repr

namespace PoisonCheck

/-- The part of the relay that reports checks. -/
def source : String := "fault_bridge::services::custom_check"

/-- What the receiver of a report knows it by. -/
def messageType : String :=
  "ServiceControl.Plugin.CustomChecks.Messages.ReportCustomCheckResult"

def checkName : String := "Poison queue"

/-- The group that the check belongs to. -/
def category : String := "MassTransit"

/-- The outcome for a length of the queue, or for the failure to read it. -/
def ofLength (queue : String) : Except DiscoveryError Nat → CheckResult × List LogEvent
  | .ok 0 => (.pass, [])
  | .ok n => (.failed ("Queue `" ++ queue ++ "` has " ++ toString n
      ++ " messages that could not be forwarded to ServiceControl."), [])
  | .error e =>
      (.failed ("Unable to read the length of queue `" ++ queue ++ "`: " ++ e.message),
        [⟨.warning, source, "Failed to read poison queue length",
          [("queue", queue), ("error", e.message)]⟩])

/-- The identity of an endpoint on a machine. -/
def hostId (machine endpoint : String) : String :=
  Digest.nameId (machine ++ "/" ++ endpoint)

/-- The report of an outcome as a JSON record. -/
def report (s : Sender) (result : CheckResult) : Json.Value :=
  let (failed, reason) := match result with
    | .pass => (false, Json.Value.null)
    | .failed reason => (true, .text reason)
  .record [
    ("HostId", .text (hostId s.machine s.endpoint)),
    ("CustomCheckId", .text checkName),
    ("Category", .text category),
    ("HasFailed", .bool failed),
    ("FailureReason", reason),
    ("ReportedAt", .text s.now.toDocument),
    ("EndpointName", .text s.endpoint),
    ("Host", .text s.machine)]

end PoisonCheck
end FaultRelay
