import FaultRelay.Delivery.Basic
import FaultRelay.Delivery.Route
import Mathlib.Data.List.Basic

/-!
# What a delivery hands to the broker

A delivery that works through a way of the relay dispatches one operation at a time: the
converted message when an attempt is due, and a copy of the received message for the
poison queue when a failure is judged to be the last one.  `Route.offer?` says which
operation comes next, whatever the broker answers.

**Results.**
* `Route.convert_message`, `Route.conversion_eq_error`: conversion does not depend on how
  often a message has failed, and whether it succeeds does not depend on the time.
* one equation of `Delivery.work` for each stage and each answer of the broker.
-/

namespace FaultRelay

/-- What is sent of a message. -/
inductive Way where
  /-- Its conversion. -/
  | converted
  /-- The message as it was received, to the poison queue. -/
  | poisoned
  deriving DecidableEq, Repr

/-- An operation that is handed to the broker. -/
structure Offer where
  way : Way
  operation : Operation

namespace Delivery

variable {σ τ : Type}

/-- A state that a handler does not use has no part in its work. -/
theorem work_beside (h : Handler σ) (stopped : Bool) (d : Delivery) (s : σ) (rest : τ) :
    d.work (h.beside τ) stopped (s, rest) =
      ((d.work h stopped s).1, (d.work h stopped s).2, rest) := by
  obtain ⟨attempt, judge⟩ := h
  unfold work
  cases d.stage with
  | attempting =>
      dsimp only [Handler.beside]
      cases attempt d.message s with
      | mk result after =>
          cases result with
          | ok _ => rfl
          | error e => rfl
  | failing e =>
      dsimp only [Handler.beside]
      cases judge d.message e s with
      | mk decision after =>
          cases decision with
          | handled => rfl
          | retry delay => rfl
  | waiting delay => rfl
  | completed => rfl
  | abandoned => rfl

/-- What is received stays as it is, whatever is done to the copies of it. -/
theorem work_received (h : Handler σ) (stopped : Bool) (d : Delivery) (s : σ) :
    (d.work h stopped s).1.received = d.received := by
  unfold work
  split
  · split <;> rfl
  · split <;> rfl
  · rfl
  · rfl
  · rfl

end Delivery

namespace Verdict

variable (b : Backoff) (part : Float) (failures : Nat)

/-- A message that cannot be converted goes to the poison queue at once. -/
theorem ofFailure_conversion (e : ConversionError) :
    (ofFailure b part (.conversion e) failures).1 = .poison := rfl

/-- A message that is refused is tried again until it has failed too often. -/
theorem ofFailure_transport (e : TransportError) :
    (ofFailure b part (.transport e) failures).1 =
      if failures ≤ b.maxRetries then .retry (b.delayAfter part failures) else .poison := by
  by_cases h : failures ≤ b.maxRetries
  · simp [ofFailure, RelayError.isConversion, Backoff.mayRetry, h]
  · simp [ofFailure, RelayError.isConversion, Backoff.mayRetry, h]

end Verdict

namespace Route

variable {β : Type} (r : Route)

/-- The conversion of a message at an instant. -/
def conversion (m : Received) (now : Time.Instant) : Except ConversionError Operation :=
  (r.convert m now).2.1

/-- What a delivery hands to the broker next, if its next step hands anything over. -/
def offer? (d : Delivery) (now : Time.Instant) : Option Offer :=
  match d.stage with
  | .attempting =>
      match r.conversion d.message now with
      | .ok op => some ⟨.converted, op⟩
      | .error _ => none
  | .failing e =>
      match (Verdict.ofFailure r.backoff r.part e d.failures).1 with
      | .poison => some ⟨.poisoned, d.message.toPoison r.poisonQueue⟩
      | .retry _ => none
  | .waiting _ | .completed | .abandoned => none

/-- How often a message has failed does not matter for its conversion. -/
theorem convert_message (m : Received) (failures : Nat) (now : Time.Instant) :
    r.conversion { m with failures } now = r.conversion m now := by
  unfold conversion convert
  cases r.direction with
  | forward =>
      simp only [Fault.Adapter.forward, Fault.convert]
      cases Fault.markError? m.headers with
      | some e => rfl
      | none =>
          have hdata : Fault.metadata? { m with failures } = Fault.metadata? m := rfl
          rw [hdata]
          cases Fault.metadata? m with
          | error e => rfl
          | ok data => rfl
  | giveBack =>
      simp only [Fault.Adapter.giveBack]
      cases m.headers[Fault.ServiceControl.targetAddress]? with
      | none => rfl
      | some target =>
          dsimp only
          split <;> rfl

/-- When a message cannot be converted, it cannot be converted at any other time either. -/
theorem conversion_eq_error
    {m : Received} {now : Time.Instant} {e : ConversionError}
    (h : r.conversion m now = .error e) (later : Time.Instant) :
    r.conversion m later = .error e := by
  unfold conversion convert at h ⊢
  cases hdirection : r.direction with
  | giveBack => simpa [hdirection] using h
  | forward =>
      simp only [hdirection, Fault.Adapter.forward, Fault.convert] at h ⊢
      cases hmark : Fault.markError? m.headers with
      | some e' => simpa [hmark] using h
      | none =>
          cases hdata : Fault.metadata? m with
          | error e' => simpa [hmark, hdata, bind, Except.bind] using h
          | ok data => simp [hmark, hdata, bind, Except.bind, pure, Except.pure] at h

/-- A fault is converted for the error queue. -/
theorem destination_of_forward
    {m : Received} {now : Time.Instant} {op : Operation} (hdirection : r.direction = .forward)
    (h : r.conversion m now = .ok op) : op.destination = r.adapter.errorQueue := by
  simp only [conversion, convert, hdirection, Fault.Adapter.forward] at h
  cases hconverted : Fault.convert m now with
  | error e => simp [hconverted] at h
  | ok result =>
      simp only [hconverted, Except.ok.injEq] at h
      rw [← h]

/-- A message that comes back is converted for the queue that it names. -/
theorem destination_of_giveBack
    {m : Received} {now : Time.Instant} {op : Operation} (hdirection : r.direction = .giveBack)
    (h : r.conversion m now = .ok op) :
    ∃ target : String, m.headers[Fault.ServiceControl.targetAddress]? = some target ∧
      op.destination = Url.queueName target := by
  simp only [conversion, convert, hdirection, Fault.Adapter.giveBack] at h
  cases htarget : m.headers[Fault.ServiceControl.targetAddress]? with
  | none => simp [htarget] at h
  | some target =>
      refine ⟨target, rfl, ?_⟩
      simp only [htarget] at h
      split at h
      · cases h
      · simp only [Except.ok.injEq] at h
        rw [← h]

section Work

variable {r} (dispatch : Dispatch β) (stopped : Bool) {d : Delivery} (s : Site β)

/-- A message that cannot be converted fails without anything being sent. -/
theorem work_unconverted
    {e : ConversionError} (hstage : d.stage = .attempting)
    (hconversion : r.conversion d.message s.now = .error e) :
    ∃ events : List LogEvent,
      d.work (r.handler dispatch) stopped s =
        ({ d with failures := d.failures + 1, stage := .failing (.conversion e) },
          s.report events) := by
  refine ⟨(r.convert d.message s.now).2.2, ?_⟩
  unfold conversion at hconversion
  simp only [Delivery.work, hstage, handler, attempt, hconversion]

/-- A conversion that is accepted completes the delivery. -/
theorem work_accepted
    {op : Operation} {after : β} (hstage : d.stage = .attempting)
    (hconversion : r.conversion d.message s.now = .ok op)
    (hsent : dispatch [op] s.broker = (.ok (), after)) :
    ∃ events : List LogEvent,
      d.work (r.handler dispatch) stopped s =
        ({ d with stage := .completed }, { s.report events with broker := after }) := by
  refine ⟨(r.convert d.message s.now).2.2, ?_⟩
  unfold conversion at hconversion
  simp only [Delivery.work, hstage, handler, attempt, hconversion, send, Site.report, hsent]

/-- A conversion that is refused is a failure. -/
theorem work_refused
    {op : Operation} {e : TransportError} {after : β} (hstage : d.stage = .attempting)
    (hconversion : r.conversion d.message s.now = .ok op)
    (hsent : dispatch [op] s.broker = (.error e, after)) :
    ∃ events : List LogEvent,
      d.work (r.handler dispatch) stopped s =
        ({ d with failures := d.failures + 1, stage := .failing (.transport e) },
          { s.report events with broker := after }) := by
  refine ⟨(r.convert d.message s.now).2.2, ?_⟩
  unfold conversion at hconversion
  simp only [Delivery.work, hstage, handler, attempt, hconversion, send, Site.report, hsent]

/-- A failure that is not the last one is followed by a delay. -/
theorem work_retried
    {e : RelayError} {delay : Nat} (hstage : d.stage = .failing e)
    (hverdict : (Verdict.ofFailure r.backoff r.part e d.failures).1 = .retry delay) :
    ∃ events : List LogEvent,
      d.work (r.handler dispatch) stopped s =
        ({ d with stage := if stopped then .abandoned else .waiting delay },
          s.report events) := by
  refine ⟨[(Verdict.ofFailure r.backoff r.part e d.failures).2], ?_⟩
  simp only [Delivery.work, hstage, handler, judge, Delivery.message, hverdict]

/-- A copy that the poison queue accepts completes the delivery. -/
theorem work_poisoned
    {e : RelayError} {after : β} (hstage : d.stage = .failing e)
    (hverdict : (Verdict.ofFailure r.backoff r.part e d.failures).1 = .poison)
    (hsent : dispatch [d.message.toPoison r.poisonQueue] s.broker = (.ok (), after)) :
    ∃ events : List LogEvent,
      d.work (r.handler dispatch) stopped s =
        ({ d with stage := .completed }, { s.report events with broker := after }) := by
  refine ⟨[(Verdict.ofFailure r.backoff r.part e d.failures).2,
    r.movedEvent d.message], ?_⟩
  have hverdict' :
      (Verdict.ofFailure r.backoff r.part e d.message.failures).1 = .poison := hverdict
  simp only [Delivery.work, hstage, handler, judge, send, hverdict', Site.report, hsent,
    List.append_assoc]
  rfl

/-- A copy that the poison queue refuses is followed by a delay. -/
theorem work_poison_refused
    {e : RelayError} {refused : TransportError} {after : β} (hstage : d.stage = .failing e)
    (hverdict : (Verdict.ofFailure r.backoff r.part e d.failures).1 = .poison)
    (hsent : dispatch [d.message.toPoison r.poisonQueue] s.broker = (.error refused, after)) :
    ∃ events : List LogEvent,
      d.work (r.handler dispatch) stopped s =
        ({ d with
            stage := if stopped then .abandoned
              else .waiting (r.backoff.delayAfter r.part d.failures) },
          { s.report events with broker := after }) := by
  refine ⟨[(Verdict.ofFailure r.backoff r.part e d.failures).2,
    r.refusedEvent d.message refused], ?_⟩
  have hverdict' :
      (Verdict.ofFailure r.backoff r.part e d.message.failures).1 = .poison := hverdict
  simp only [Delivery.work, hstage, handler, judge, send, hverdict', Site.report, hsent,
    List.append_assoc]
  rfl

/-- A step that offers nothing leaves the broker alone and does not end the delivery. -/
theorem work_of_offer_none
    (hstage : d.stage = .attempting ∨ ∃ e : RelayError, d.stage = .failing e)
    (hoffer : r.offer? d s.now = none) :
    (d.work (r.handler dispatch) stopped s).2.broker = s.broker ∧
      (d.work (r.handler dispatch) stopped s).1.stage ≠ .completed := by
  rcases hstage with hstage | ⟨e, hstage⟩
  · simp only [offer?, hstage] at hoffer
    cases hconversion : r.conversion d.message s.now with
    | ok op => simp [hconversion] at hoffer
    | error e =>
        obtain ⟨events, hwork⟩ := work_unconverted dispatch stopped s hstage hconversion
        rw [hwork]
        exact ⟨rfl, by simp⟩
  · simp only [offer?, hstage] at hoffer
    cases hverdict : (Verdict.ofFailure r.backoff r.part e d.failures).1 with
    | poison => simp [hverdict] at hoffer
    | retry delay =>
        obtain ⟨events, hwork⟩ := work_retried dispatch stopped s hstage hverdict
        rw [hwork]
        refine ⟨rfl, ?_⟩
        cases stopped <;> simp

/-- A step hands over what it offers, and ends the delivery if that is accepted. -/
theorem work_of_offer_some
    {offer : Offer} {result : Except TransportError Unit} {after : β}
    (hoffer : r.offer? d s.now = some offer)
    (hsent : dispatch [offer.operation] s.broker = (result, after)) :
    (d.work (r.handler dispatch) stopped s).2.broker = after ∧
      ((d.work (r.handler dispatch) stopped s).1.stage = .completed ↔ result = .ok ()) := by
  unfold offer? at hoffer
  cases hstage : d.stage with
  | attempting =>
      simp only [hstage] at hoffer
      cases hconversion : r.conversion d.message s.now with
      | error e => simp [hconversion] at hoffer
      | ok op =>
          simp only [hconversion, Option.some.injEq] at hoffer
          subst hoffer
          cases result with
          | ok _ =>
              obtain ⟨events, hwork⟩ := work_accepted dispatch stopped s hstage hconversion hsent
              rw [hwork]
              exact ⟨rfl, by simp⟩
          | error e =>
              obtain ⟨events, hwork⟩ := work_refused dispatch stopped s hstage hconversion hsent
              rw [hwork]
              exact ⟨rfl, by simp⟩
  | failing e =>
      simp only [hstage] at hoffer
      cases hverdict : (Verdict.ofFailure r.backoff r.part e d.failures).1 with
      | retry delay => simp [hverdict] at hoffer
      | poison =>
          simp only [hverdict, Option.some.injEq] at hoffer
          subst hoffer
          cases result with
          | ok _ =>
              obtain ⟨events, hwork⟩ := work_poisoned dispatch stopped s hstage hverdict hsent
              rw [hwork]
              exact ⟨rfl, by simp⟩
          | error refused =>
              obtain ⟨events, hwork⟩ :=
                work_poison_refused dispatch stopped s hstage hverdict hsent
              rw [hwork]
              refine ⟨rfl, ?_⟩
              cases stopped <;> simp
  | waiting delay => simp [hstage] at hoffer
  | completed => simp [hstage] at hoffer
  | abandoned => simp [hstage] at hoffer

end Work

end Route
end FaultRelay
