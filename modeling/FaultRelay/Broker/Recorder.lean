import FaultRelay.Failure
import FaultRelay.Message

/-!
# A dispatcher that keeps what it is given

The recorder takes all operations or, when it is told to fail, none of them.
-/

namespace FaultRelay

/-- What was dispatched, and whether the next dispatch fails. -/
structure Recorder where
  dispatched : List Operation := []
  failing : Bool := false

namespace Recorder

/-- Takes operations. -/
def dispatch (r : Recorder) (ops : List Operation) : Except TransportError Unit × Recorder :=
  if r.failing then
    (.error (.dispatch ((ops.head?.map Operation.destination).getD "") "Mock dispatch failure"), r)
  else (.ok (), { r with dispatched := r.dispatched ++ ops })

/-- Gives away what was dispatched. -/
def take (r : Recorder) : List Operation × Recorder :=
  (r.dispatched, { r with dispatched := [] })

end Recorder
end FaultRelay
