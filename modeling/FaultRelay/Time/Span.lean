import FaultRelay.Time.Instant

/-!
# Spans of time

A span is written `[d.]hh:mm:ss[.fffffff]`: days only when there are any, and ticks of
100 nanoseconds only when there are any.
-/

namespace FaultRelay
namespace Time

/-- The written form of a span of nanoseconds; a negative one counts as none. -/
def spanText (nanos : Int) : String :=
  let total := nanos.toNat
  let seconds := total / nanosPerSecond
  let ticks := total % nanosPerSecond / 100
  let days := seconds / 86400
  (if days = 0 then "" else toString days ++ ".")
    ++ padded 2 (seconds % 86400 / 3600) ++ ":" ++ padded 2 (seconds % 3600 / 60) ++ ":"
    ++ padded 2 (seconds % 60)
    ++ (if ticks = 0 then "" else "." ++ padded 7 ticks)

end Time
end FaultRelay
