import FaultRelay.Log

/-!
# Connecting to a broker

A connection is tried a number of times, and at least once.  Between two attempts there
is a delay that doubles up to a longest one.
-/

namespace FaultRelay
namespace Connecting

/-- The part of the relay that reports attempts. -/
def source : String := "fault_bridge::utils::bootstrap"

/-- The delay after the first attempt, in milliseconds. -/
def firstDelay : Nat := 100

/-- The longest delay, in milliseconds. -/
def longestDelay : Nat := 5000

/-- The delay that follows a delay. -/
def nextDelay (delay : Nat) : Nat :=
  min (delay * 2) longestDelay

/-- What is connected to, and how often it may be tried. -/
structure Plan where
  broker : String
  address : String
  mostAttempts : Nat
  deriving DecidableEq, Repr

/-- How connecting ended. -/
structure Outcome (σ ε α : Type) where
  result : Except ε α
  /-- The state that the attempts left behind. -/
  state : σ
  attempts : Nat
  /-- The delays together, in milliseconds. -/
  waited : Nat
  logs : List LogEvent

variable {σ ε α : Type}

/-- The report of a failure that is followed by another attempt. -/
def retryEvent (p : Plan) (attempt delay : Nat) (cause : String) : LogEvent :=
  ⟨.warning, source, "Broker connection failed, retrying",
    [("broker", p.broker), ("address", p.address), ("attempt", toString attempt),
      ("max_attempts", toString p.mostAttempts), ("error", cause), ("delay_ms", toString delay)]⟩

/-- The report of the last failure. -/
def lastEvent (p : Plan) (attempt : Nat) (cause : String) : LogEvent :=
  ⟨.error, source, "Giving up connecting to broker",
    [("broker", p.broker), ("address", p.address), ("attempts", toString attempt),
      ("error", cause)]⟩

/-- Attempts from a number on, `more` of them being left after the next one. -/
def attemptFrom (p : Plan) (text : ε → String) (connect : σ → Except ε α × σ) :
    (more attempt delay : Nat) → σ → Outcome σ ε α
  | more, attempt, delay, state =>
      match connect state, more with
      | (.ok connection, state), _ => ⟨.ok connection, state, attempt, 0, []⟩
      | (.error e, state), 0 => ⟨.error e, state, attempt, 0, [lastEvent p attempt (text e)]⟩
      | (.error e, state), more + 1 =>
          let rest := attemptFrom p text connect more (attempt + 1) (nextDelay delay) state
          { rest with
            waited := delay + rest.waited
            logs := retryEvent p attempt delay (text e) :: rest.logs }

/-- Tries to connect. -/
def run (p : Plan) (text : ε → String) (connect : σ → Except ε α × σ) (state : σ) :
    Outcome σ ε α :=
  attemptFrom p text connect (p.mostAttempts - 1) 1 firstDelay state

end Connecting
end FaultRelay
