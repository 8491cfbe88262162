import FaultRelay.Delivery.Backoff
import FaultRelay.Failure
import FaultRelay.Log
import FaultRelay.Message

/-!
# What becomes of a message after a failure

A message that cannot be converted goes to the poison queue at once, since converting
it again ends in the same way.  Any other failure is followed by another attempt until
there were too many.  What goes to the poison queue is the message as it was received.
-/

namespace FaultRelay

/-- What to do with a message that failed. -/
inductive Verdict where
  /-- Try again after a delay in nanoseconds. -/
  | retry (delay : Nat)
  | poison
  deriving DecidableEq, Repr

namespace Verdict

/-- The part of the relay that reports verdicts. -/
def source : String := "fault_bridge::dlq"

/-- The verdict on a failure, `failures` being the number with this one, and its report. -/
def ofFailure (b : Backoff) (part : Float) (e : RelayError) (failures : Nat) :
    Verdict × LogEvent :=
  let count := ("failures", toString failures)
  let cause := ("error", e.message)
  if e.isConversion then
    (.poison,
      ⟨.error, source, "Message cannot be converted, moving to poison queue", [count, cause]⟩)
  else if b.mayRetry failures then
    let delay := b.delayAfter part failures
    (.retry delay, ⟨.warning, source, "Message processing failed, retrying",
      [count, ("delay_ms", toString (delay / Backoff.nanosPerMilli)), cause]⟩)
  else
    (.poison, ⟨.error, source, "Retries exhausted, moving to poison queue",
      [count, ("max_retries", toString b.maxRetries), cause]⟩)

end Verdict

/-- Sends a message as it was received to the poison queue. -/
def Received.toPoison (m : Received) (queue : String) : Operation :=
  ⟨queue, m.nativeId, m.headers, m.body, Headers.ofPairs [(Property.messageId, m.nativeId)]⟩

end FaultRelay
