import FaultRelay.Broker.Receiver
import FaultRelay.Proofs.Broker.Memory
import FaultRelay.Proofs.Delivery.Sending

/-!
# The ledger of the queues

An entry of the ledger says that a message was put on a queue, or that an operation was
accepted which a receiver had handed over for the message that it held.

**Results.**
* `Receiver.accounted_pop`, `Receiver.accounted_putBack`, `Receiver.accounted_push`: what
  a queue and its receiver had, with what arrives, is what leaves and what they have after
  a message is taken, put back, or sent on.
-/

namespace FaultRelay

namespace Ledger

inductive Entry where
  /-- Somebody else put a message on a queue. -/
  | put (queue : String) (message : Stored)
  /-- What a receiver handed over for its message was accepted. -/
  | sent (receiver : ReceiverSettings) (message : Stored) (offer : Offer)

/-- The message that an entry puts on a queue. -/
def Entry.arrival? (queue : String) : Entry → Option Stored
  | put name message => if name = queue then some message else none
  | sent _ _ offer =>
      if offer.operation.destination = queue then some offer.operation.stored else none

/-- The message that leaves a queue for good with an entry. -/
def Entry.departure? (queue : String) : Entry → Option Stored
  | put _ _ => none
  | sent receiver message _ => if receiver.address = queue then some message else none

/-- What was put on a queue, oldest first. -/
def arrivals (queue : String) (entries : List Entry) : List Stored :=
  entries.filterMap (Entry.arrival? queue)

/-- What has left a queue for good, oldest first. -/
def departures (queue : String) (entries : List Entry) : List Stored :=
  entries.filterMap (Entry.departure? queue)

@[simp] theorem arrivals_nil (queue : String) : arrivals queue [] = [] := rfl

@[simp] theorem departures_nil (queue : String) : departures queue [] = [] := rfl

theorem arrivals_append (queue : String) (before after : List Entry) :
    arrivals queue (before ++ after) = arrivals queue before ++ arrivals queue after :=
  List.filterMap_append

theorem departures_append (queue : String) (before after : List Entry) :
    departures queue (before ++ after) = departures queue before ++ departures queue after :=
  List.filterMap_append

theorem arrivals_put (name queue : String) (message : Stored) :
    arrivals name [.put queue message] = if name = queue then [message] else [] := by
  by_cases hname : name = queue
  · simp [arrivals, Entry.arrival?, hname]
  · simp [arrivals, Entry.arrival?, hname, Ne.symm hname]

theorem departures_put (name queue : String) (message : Stored) :
    departures name [.put queue message] = [] := rfl

theorem arrivals_sent
    (name : String) (receiver : ReceiverSettings) (message : Stored) (offer : Offer) :
    arrivals name [.sent receiver message offer] =
      if name = offer.operation.destination then [offer.operation.stored] else [] := by
  by_cases hname : name = offer.operation.destination
  · simp [arrivals, Entry.arrival?, hname]
  · simp [arrivals, Entry.arrival?, hname, Ne.symm hname]

theorem departures_sent
    (name : String) (receiver : ReceiverSettings) (message : Stored) (offer : Offer) :
    departures name [.sent receiver message offer] =
      if name = receiver.address then [message] else [] := by
  by_cases hname : name = receiver.address
  · simp [departures, Entry.departure?, hname]
  · simp [departures, Entry.departure?, hname, Ne.symm hname]

end Ledger

namespace Receiver

variable {τ : Type}

/-- The message that a receiver delivers, and how far it has come with it. -/
def delivered? (r : Receiver τ) : Option (Stored × Delivery) :=
  match r.running with
  | some (_, .delivering stored d _) => some (stored, d)
  | _ => none

/-- The message that a receiver holds, if it holds one. -/
def held (r : Receiver τ) : List Stored :=
  match r.delivered? with
  | some (stored, d) =>
      match d.stage with
      | .completed => []
      | _ => [stored]
  | none => []

/-- Nothing is lost and nothing is doubled between what a receiver and a broker were and are. -/
structure Accounted (r r' : Receiver τ) (m m' : Memory) (entries : List Ledger.Entry) : Prop where
  own : r.held ++ m.messages r.address ++ Ledger.arrivals r.address entries =
    Ledger.departures r.address entries ++ (r'.held ++ m'.messages r.address)
  messages_eq : ∀ queue : String, queue ≠ r.address →
    m'.messages queue = m.messages queue ++ Ledger.arrivals queue entries
  departures_eq : ∀ queue : String, queue ≠ r.address → Ledger.departures queue entries = []
  contains_of_contains : ∀ queue : String, m.contains queue = true → m'.contains queue = true

variable {r r' : Receiver τ} {m m' : Memory} {stored : Stored}

theorem accounted_of_same
    (hheld : r'.held = r.held) (hsame : m.SameQueues m') : r.Accounted r' m m' [] where
  own := by simp [hheld, hsame.messages_eq]
  messages_eq queue _ := by simp [hsame.messages_eq]
  departures_eq _ _ := rfl
  contains_of_contains := hsame.contains_of_contains

/-- A message that is taken from the queue is held. -/
theorem accounted_pop
    (hheld : r.held = []) (hpop : m.pop r.address = some (stored, m'))
    (hheld' : r'.held = [stored]) : r.Accounted r' m m' [] := by
  obtain ⟨hown, hothers, hcontains⟩ := Memory.messages_pop hpop
  exact {
    own := by simp [hheld, hheld', hown]
    messages_eq := fun queue hqueue => by simp [hothers queue hqueue]
    departures_eq := fun _ _ => rfl
    contains_of_contains := fun queue hqueue => by rw [hcontains, hqueue] }

/-- A message that was held is put back. -/
theorem accounted_putBack
    (hheld : r.held = [stored]) (hcontains : m.contains r.address = true)
    (hheld' : r'.held = []) : r.Accounted r' m (m.putBack r.address stored) [] := by
  obtain ⟨hown, hothers, hsame⟩ := Memory.messages_putBack hcontains stored
  exact {
    own := by simp [hheld, hheld', hown]
    messages_eq := fun queue hqueue => by simp [hothers queue hqueue]
    departures_eq := fun _ _ => rfl
    contains_of_contains := fun queue hqueue => by rw [hsame, hqueue] }

/-- A message that was held leaves with an operation that is accepted. -/
theorem accounted_push
    {offer : Offer} (hheld : r.held = [stored]) (hheld' : r'.held = [])
    (hpush : m.push offer.operation.destination offer.operation.stored = (.ok (), m')) :
    r.Accounted r' m m' [.sent r.settings stored offer] := by
  obtain ⟨hmessages, hcontains⟩ := Memory.messages_push hpush
  have harrivals : ∀ queue : String,
      m'.messages queue =
        m.messages queue ++ Ledger.arrivals queue [.sent r.settings stored offer] := by
    intro queue
    rw [hmessages, Ledger.arrivals_sent]
  exact {
    own := by
      rw [harrivals, hheld, hheld', Ledger.departures_sent, address, if_pos rfl, List.nil_append,
        List.append_assoc]
    messages_eq := fun queue _ => harrivals queue
    departures_eq := fun queue hqueue => by
      rw [Ledger.departures_sent]
      exact if_neg hqueue
    contains_of_contains := fun queue hqueue => by rw [hcontains, hqueue] }

end Receiver
end FaultRelay
