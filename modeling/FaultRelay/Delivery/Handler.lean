import FaultRelay.Failure
import FaultRelay.Message

/-!
# Handlers of messages

A handler is asked to process a message, and, when that failed, what is to become of it.
It works on a state of any type.
-/

namespace FaultRelay

/-- What a handler decides about a failure. -/
inductive Decision where
  /-- The message was dealt with and leaves its queue. -/
  | handled
  /-- The message is to be processed again after a delay in nanoseconds. -/
  | retry (delay : Nat)
  deriving DecidableEq, Repr

/-- Processes messages and decides about failures. -/
structure Handler (σ : Type) where
  /-- Processes a message: how that ended, the message as it was left, and the state. -/
  attempt : Received → σ → Except RelayError Unit × Received × σ
  /-- Decides about a message that failed. -/
  judge : Received → RelayError → σ → Decision × σ

/-- Something that a handler was asked, and its answer. -/
inductive Act where
  | attempt (message : Received) (result : Except RelayError Unit)
  | judge (message : Received) (e : RelayError) (decision : Decision)

namespace Handler

variable {σ : Type}

/-- The handler beside a state that it does not use. -/
def beside (h : Handler σ) (τ : Type) : Handler (σ × τ) where
  attempt m s :=
    let (result, left, state) := h.attempt m s.1
    (result, left, state, s.2)
  judge m e s :=
    let (decision, state) := h.judge m e s.1
    (decision, state, s.2)

/-- The handler with a record of what it was asked, oldest first. -/
def traced (h : Handler σ) : Handler (σ × List Act) where
  attempt m s :=
    let (result, left, state) := h.attempt m s.1
    (result, left, state, s.2 ++ [.attempt m result])
  judge m e s :=
    let (decision, state) := h.judge m e s.1
    (decision, state, s.2 ++ [.judge m e decision])

end Handler
end FaultRelay
