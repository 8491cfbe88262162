import FaultRelay.Settings.Basic

/-!
# Delays between the attempts on one message

The delay doubles with every failure, up to a longest one; a random part of it may be
added.  Delays are kept in milliseconds and lengthened in nanoseconds.
-/

namespace FaultRelay

/-- How long to wait before another attempt, and how many attempts there may be. -/
structure Backoff where
  /-- The first delay, in milliseconds. -/
  baseDelay : Nat
  /-- The longest delay, in milliseconds. -/
  maxDelay : Nat
  /-- How many failures a message may have and still be tried again. -/
  maxRetries : Nat
  /-- The part of a delay that may be added to it at random. -/
  jitter : Float

namespace Backoff

/-- The largest part of a delay that may be added to it. -/
def maxJitter : Float := 0.2

/-- The doubling stops here. -/
def maxDoublings : Nat := 20

def nanosPerMilli : Nat := 1000000

/-- The part of a delay that may be added, kept between nothing and the largest. -/
def spread (b : Backoff) : Float :=
  if b.jitter < 0 then 0 else if maxJitter < b.jitter then maxJitter else b.jitter

/-- The delay after a number of failures, in milliseconds, with nothing added. -/
def baseDelayAfter (b : Backoff) (failures : Nat) : Nat :=
  min (b.baseDelay * Nat.pow 2 (min (failures - 1) maxDoublings)) b.maxDelay

/-- A delay in nanoseconds with a part of it added. -/
def lengthened (delay : Nat) (part : Float) : Nat :=
  delay * nanosPerMilli
    + (Decimal.nanosOfSeconds? (part * (Float.ofNat delay / 1000))).getD 0

/-- The delay after a number of failures, in nanoseconds, with a part of it added. -/
def delayAfter (b : Backoff) (part : Float) (failures : Nat) : Nat :=
  if 0 < b.spread then lengthened (b.baseDelayAfter failures) part
  else b.baseDelayAfter failures * nanosPerMilli

/-- Whether a message with a number of failures may be tried again. -/
def mayRetry (b : Backoff) (failures : Nat) : Bool :=
  failures ≤ b.maxRetries

end Backoff

/-- The delays that the settings ask for. -/
def Settings.backoff (s : Settings) : Backoff :=
  ⟨s.retryBaseDelay, s.retryMaxDelay, s.maxRetries, Backoff.maxJitter⟩

end FaultRelay
