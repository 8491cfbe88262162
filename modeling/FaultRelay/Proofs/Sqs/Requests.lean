import FaultRelay.Proofs.Delivery.Course
import FaultRelay.Sqs.Settlement

/-!
# What is asked of a server

Every request is recorded in the account of its server.  A message that is received is settled by
two kinds of requests: it is deleted, or others may receive it again.  Sending messages settles
nothing, and neither does a delivery, since its handler only sends.

**Rules.**
* `Account.Asks server a r answer a'`: the server is asked once, and answers.
* `Transport.Finds t queue a address? a'`: the address of a queue is looked for.
* `Transport.Sends t queue text attributes a accepted a'`: a message is sent to a queue, which
  accepts it or not.

**Results.**
* `Transport.sends_send`: an operation is sent as a message to its queue.
* `Transport.settlements_dispatch`: sending operations settles nothing.
* `Consumer.settlesAlone_of_courses`: what a consumer receives is settled by nobody else, when its
  handlers send with the transport of the consumer.
-/

namespace FaultRelay

/-- What sending operations keeps, the handler of a way of the relay keeps. -/
theorem Route.keeps_handler
    {β α : Type} {dispatch : Dispatch β} (view : β → α)
    (hdispatch : ∀ (ops : List Operation) (b : β), view (dispatch ops b).2 = view b) (r : Route) :
    (r.handler dispatch).Keeps fun s => view s.broker where
  attempt m s := by
    change view (r.attempt dispatch m s).2.2.broker = view s.broker
    unfold attempt
    rcases r.convert m s.now with ⟨left, _ | op, odd⟩
    · rfl
    · have hsent := hdispatch [op] s.broker
      simp only [send, Site.report]
      rcases hanswer : dispatch [op] s.broker with ⟨_ | _, b⟩
      · rwa [hanswer] at hsent
      · rwa [hanswer] at hsent
  judge m e s := by
    change view (r.judge dispatch m e s).2.broker = view s.broker
    unfold judge
    rcases Verdict.ofFailure r.backoff r.part e m.failures with ⟨delay | _, event⟩
    · rfl
    · have hsent := hdispatch [m.toPoison r.poisonQueue] s.broker
      simp only [send, Site.report]
      rcases hanswer : dispatch [m.toPoison r.poisonQueue] s.broker with ⟨_ | _, b⟩
      · rwa [hanswer] at hsent
      · rwa [hanswer] at hsent

namespace Sqs

/-- Whether a request settles a message that was received. -/
def Request.settles : Request → Bool
  | deleteMessage .. | releaseMessage .. => true
  | listQueues .. | queueAddress _ | createQueue _ | sendMessage .. | receiveMessages ..
  | countMessages _ => false

/-- The requests that settle messages, oldest first. -/
def settlements (asked : List Request) : List Request :=
  asked.filter Request.settles

variable {σ : Type}

/-- A server is asked once and answers; the request is recorded, and no address is learned. -/
structure Account.Asks (server : Server σ) (a : Account σ) (r : Request)
    (answer : Except Refusal r.Answer) (a' : Account σ) : Prop where
  answered : server r a.state = (answer, a'.state)
  recorded : a'.asked = a.asked ++ [r]
  addresses_eq : a'.addresses = a.addresses

namespace Account

variable {server : Server σ} {a a' : Account σ} {r : Request} {answer : Except Refusal r.Answer}

theorem asks_of_ask (h : a.ask server r = (answer, a')) : a.Asks server r answer a' := by
  cases h
  exact ⟨rfl, rfl, rfl⟩

theorem Asks.settlements_eq (h : a.Asks server r answer a') :
    settlements a'.asked = settlements a.asked ++ settlements [r] := by
  rw [h.recorded, settlements, List.filter_append]
  rfl

theorem Asks.settlements_kept (h : a.Asks server r answer a') (hr : r.settles = false) :
    settlements a'.asked = settlements a.asked := by
  have hnone : settlements [r] = [] := List.filter_cons_of_neg (by simp [hr])
  rw [h.settlements_eq, hnone, List.append_nil]

end Account

namespace Transport

/-- The address of a queue is known, or else the server is asked for it and may tell it. -/
inductive Finds (t : Transport σ) (queue : String) (a : Account σ) :
    Option String → Account σ → Prop
  | known {address : String} (hknown : a.addresses[queue]? = some address) :
      Finds t queue a (some address) a
  | told {address : String} {a' : Account σ} (hunknown : a.addresses[queue]? = none)
      (hasked : a.Asks t.server (.queueAddress queue) (.ok (some address)) a') :
      Finds t queue a (some address) (a'.learn queue address)
  | nowhere {answer : Except Refusal (Option String)} {a' : Account σ}
      (hunknown : a.addresses[queue]? = none)
      (hasked : a.Asks t.server (.queueAddress queue) answer a')
      (hnone : ∀ address : String, answer ≠ .ok (some address)) :
      Finds t queue a none a'

/--
A message is sent to the address of a queue.  The queue accepts it when the server accepts it at
this address; without an address there is nothing to send it to.
-/
inductive Sends (t : Transport σ) (queue text : String) (attributes : Headers) (a : Account σ) :
    Bool → Account σ → Prop
  | sent {address : String} {answer : Except Refusal Unit} {found a' : Account σ}
      (hfound : t.Finds queue a (some address) found)
      (hasked : found.Asks t.server (.sendMessage address text attributes) answer a') :
      Sends t queue text attributes a answer.isOk a'
  | nowhere {a' : Account σ} (hfound : t.Finds queue a none a') :
      Sends t queue text attributes a false a'

variable {t : Transport σ} {queue text : String} {attributes : Headers} {a a' : Account σ}
  {address? : Option String} {accepted : Bool}

/-- Looking for the address of a queue asks for it at most. -/
theorem Finds.asked_eq (h : t.Finds queue a address? a') :
    a'.asked = a.asked ∨ a'.asked = a.asked ++ [.queueAddress queue] := by
  cases h with
  | known _ => exact Or.inl rfl
  | told _ hasked => exact Or.inr hasked.recorded
  | nowhere _ hasked _ => exact Or.inr hasked.recorded

theorem Finds.settlements_kept (h : t.Finds queue a address? a') :
    settlements a'.asked = settlements a.asked := by
  rcases h.asked_eq with hasked | hasked
  · rw [hasked]
  · rw [hasked, settlements, List.filter_append]
    exact List.append_nil _

theorem Sends.settlements_kept (h : t.Sends queue text attributes a accepted a') :
    settlements a'.asked = settlements a.asked := by
  cases h with
  | sent hfound hasked => rw [hasked.settlements_kept rfl, hfound.settlements_kept]
  | nowhere hfound => exact hfound.settlements_kept

theorem finds_address (t : Transport σ) (queue : String) (a : Account σ) :
    t.Finds queue a (t.address queue a).1.toOption (t.address queue a).2 := by
  unfold address findAddress
  cases hknown : a.addresses[queue]? with
  | some address => exact .known hknown
  | none =>
      rcases hanswer : a.ask t.server (.queueAddress queue) with ⟨answer, found⟩
      have hasked := Account.asks_of_ask hanswer
      rcases answer with (_ | reason) | (_ | address)
      · exact .nowhere hknown hasked (fun _ h => by cases h)
      · exact .nowhere hknown hasked (fun _ h => by cases h)
      · exact .nowhere hknown hasked (fun _ h => by cases h)
      · exact .told hknown hasked

/-- An operation is sent as a message to its queue. -/
theorem sends_send
    (t : Transport σ) {op : Operation}
    (hsending : ∀ address : String, sending op address = .sendMessage address text attributes)
    (a : Account σ) :
    t.Sends op.destination text attributes a (t.send op a).1.isOk (t.send op a).2 := by
  obtain ⟨-, rfl, rfl⟩ := Request.sendMessage.inj (hsending "")
  have hfinds := t.finds_address op.destination a
  unfold send
  rcases hfound : t.address op.destination a with ⟨e | address, found⟩
  · rw [hfound] at hfinds
    exact .nowhere hfinds
  · rw [hfound] at hfinds
    dsimp only
    rcases hanswer : found.ask t.server (sending op address) with ⟨_ | _, a'⟩
    · exact .sent hfinds (Account.asks_of_ask hanswer)
    · exact .sent hfinds (Account.asks_of_ask hanswer)

theorem dispatch_singleton (t : Transport σ) (op : Operation) (a : Account σ) :
    t.dispatch [op] a = t.send op a := by
  unfold dispatch
  rcases t.send op a with ⟨_ | _, a'⟩ <;> rfl

/-- Sending operations settles nothing. -/
theorem settlements_dispatch (t : Transport σ) (ops : List Operation) (a : Account σ) :
    settlements (t.dispatch ops a).2.asked = settlements a.asked := by
  induction ops generalizing a with
  | nil => rfl
  | cons op rest ih =>
      have hsent : settlements (t.send op a).2.asked = settlements a.asked :=
        (t.sends_send (fun _ => rfl) a).settlements_kept
      unfold dispatch
      rcases hanswer : t.send op a with ⟨_ | _, a'⟩
      · rwa [hanswer] at hsent
      · rw [hanswer] at hsent
        rw [← hsent]
        exact ih a'

end Transport

namespace Consumer

/-- What is received is settled by the consumer alone, and not in the course of a delivery. -/
def SettlesAlone (c : Consumer σ) : Prop :=
  ∀ (m : Received) (s : Site (Account σ)),
    settlements (c.deliver m s).2.broker.asked = settlements s.broker.asked

/-- A consumer settles alone when its handlers are ways of the relay that send with its server. -/
theorem settlesAlone_of_courses
    {c : Consumer σ}
    (hcourses : ∀ (m : Received) (s : Site (Account σ)),
      ∃ (r : Route) (stop : Option Nat) (askings : List Asking) (t : Timed (Site (Account σ))),
        Timed.Course (r.handler c.transport.dispatch) stop m s askings t ∧
          (c.deliver m s).2 = t.state) :
    c.SettlesAlone := by
  intro m s
  obtain ⟨r, stop, askings, t, hcourse, hstate⟩ := hcourses m s
  rw [hstate]
  have hkeeps := r.keeps_handler (fun a : Account σ => settlements a.asked)
    c.transport.settlements_dispatch
  exact hcourse.view_eq hkeeps

end Consumer
end Sqs
end FaultRelay
