import FaultRelay.Delivery.Handler

/-!
# The delivery of one message

A handler gets the message as it was received, with the count of its failures, until it
processes it, decides that it was dealt with, or the receiver stops.  Whatever a handler
does to a message that it was given, the next attempt starts from the received one.

`Delivery.work` is one answer of the handler.  `Timed.run` is a whole delivery on a clock
that moves only while the delivery waits.
-/

namespace FaultRelay

/-- Where a delivery stands. -/
inductive Stage where
  /-- The handler is to process the message. -/
  | attempting
  /-- The handler is to decide about a failure. -/
  | failing (e : RelayError)
  /-- The next attempt starts after a delay in nanoseconds. -/
  | waiting (delay : Nat)
  /-- The message leaves its queue. -/
  | completed
  /-- The message goes back to its queue. -/
  | abandoned

/-- The delivery of a message. -/
structure Delivery where
  received : Received
  /-- How often the message has failed. -/
  failures : Nat
  stage : Stage

namespace Delivery

variable {σ : Type}

/-- The delivery of a message, before the first attempt. -/
def start (m : Received) : Delivery :=
  ⟨m, m.failures, .attempting⟩

/-- The message as the handler gets it. -/
def message (d : Delivery) : Received :=
  { d.received with failures := d.failures }

def isOver (d : Delivery) : Bool :=
  match d.stage with
  | .completed | .abandoned => true
  | _ => false

/-- One answer of the handler; `stopped` says whether the receiver was told to stop. -/
def work (h : Handler σ) (stopped : Bool) (d : Delivery) (s : σ) : Delivery × σ :=
  match d.stage with
  | .attempting =>
      match h.attempt d.message s with
      | (.ok (), _, s) => ({ d with stage := .completed }, s)
      | (.error e, _, s) => ({ d with failures := d.failures + 1, stage := .failing e }, s)
  | .failing e =>
      match h.judge d.message e s with
      | (.handled, s) => ({ d with stage := .completed }, s)
      | (.retry delay, s) =>
          ({ d with stage := if stopped then .abandoned else .waiting delay }, s)
  | .waiting _ | .completed | .abandoned => (d, s)

/-- The delay is over. -/
def resume (d : Delivery) : Delivery :=
  match d.stage with
  | .waiting _ => { d with stage := .attempting }
  | _ => d

/-- The receiver stops during the delay. -/
def giveUp (d : Delivery) : Delivery :=
  match d.stage with
  | .waiting _ => { d with stage := .abandoned }
  | _ => d

end Delivery

/-- A delivery on a clock. -/
structure Timed (σ : Type) where
  delivery : Delivery
  state : σ
  /-- The nanoseconds since the start. -/
  elapsed : Nat

namespace Timed

variable {σ : Type}

/-- Whether the stop signal shows by a time; it may never do. -/
def stopsBy (stop : Option Nat) (time : Nat) : Bool :=
  stop.any (· ≤ time)

/-- One answer of the handler, or one delay up to its end or the stop signal. -/
def step (h : Handler σ) (stop : Option Nat) (t : Timed σ) : Timed σ :=
  match t.delivery.stage with
  | .waiting delay =>
      match stop with
      | some time =>
          if time < t.elapsed + delay then
            { t with delivery := t.delivery.giveUp, elapsed := max t.elapsed time }
          else { t with delivery := t.delivery.resume, elapsed := t.elapsed + delay }
      | none => { t with delivery := t.delivery.resume, elapsed := t.elapsed + delay }
  | _ =>
      let (delivery, state) := t.delivery.work h (stopsBy stop t.elapsed) t.state
      { t with delivery, state }

/-- A number of steps, or fewer when the delivery is over before. -/
def run (h : Handler σ) (stop : Option Nat) : Nat → Timed σ → Timed σ
  | 0, t => t
  | steps + 1, t => if t.delivery.isOver then t else run h stop steps (t.step h stop)

/-- A delivery from its start, followed for at most a number of steps. -/
def deliver (h : Handler σ) (stop : Option Nat) (m : Received) (s : σ) (steps : Nat) : Timed σ :=
  run h stop steps ⟨.start m, s, 0⟩

end Timed
end FaultRelay
