import FaultRelay.Proofs.Delivery.Sending
import Mathlib.Tactic.Common

/-!
# Following a delivery that nobody stops

A message is delivered through a way of the relay while no receiver is told to stop.  The
broker may answer whatever it likes, and the calendar may show any instant at any step.
Beside the broker it is noted what the delivery does.

**Results.**
* `Route.follow_forget`: noting what a delivery does changes nothing else.
* `Route.deliver_eq_follow`: a whole delivery is followed with a calendar that stands still.
-/

namespace FaultRelay

/-- Something that a delivery does. -/
inductive Deed where
  /-- An attempt begins. -/
  | attempted
  /-- The broker is asked to take operations. -/
  | asked (ops : List Operation) (accepted : Bool)

/-- Whether the broker is asked for something. -/
def Deed.isAsked : Deed → Bool
  | attempted => false
  | asked _ _ => true

/-- A broker beside the deeds of a delivery, oldest first. -/
def Dispatch.noted {β : Type} (dispatch : Dispatch β) : Dispatch (β × List Deed) :=
  fun ops broker =>
    let (result, after) := dispatch ops broker.1
    (result, after, broker.2 ++ [.asked ops result.isOk])

section Clock

variable {β : Type}

/-- A site without the deeds that were noted. -/
def Site.forget (s : Site (β × List Deed)) : Site β :=
  { s with broker := s.broker.1 }

namespace Timed

/-- One step of a delivery that nobody stops, at an instant. -/
def stepAt (h : Handler (Site β)) (now : Time.Instant) (t : Timed (Site β)) :
    Timed (Site β) :=
  if t.delivery.isOver then t
  else { t with state := { t.state with now } }.step h none

/-- A delivery that nobody stops, the calendar showing an instant for every step. -/
def follow (h : Handler (Site β)) (calendar : Nat → Time.Instant) (m : Received)
    (s : Site β) : Nat → Timed (Site β)
  | 0 => ⟨.start m, s, 0⟩
  | steps + 1 => (follow h calendar m s steps).stepAt h (calendar steps)

/-- A delivery without the deeds that were noted. -/
def forget (t : Timed (Site (β × List Deed))) : Timed (Site β) :=
  { t with state := t.state.forget }

/-- What a delivery has done, oldest first. -/
def deeds (t : Timed (Site (β × List Deed))) : List Deed :=
  t.state.broker.2

end Timed
end Clock

namespace Route

variable {β : Type} (r : Route)

/-- The handler of a way of the relay that also notes what a delivery does. -/
def observed (dispatch : Dispatch β) : Handler (Site (β × List Deed)) where
  attempt m s :=
    r.attempt dispatch.noted m
      { s with broker := (s.broker.1, s.broker.2 ++ [.attempted]) }
  judge := r.judge dispatch.noted

end Route

namespace Timed

variable {β : Type} {h : Handler (Site β)} {t : Timed (Site β)} {now : Time.Instant}

theorem stepAt_over (hover : t.delivery.isOver = true) : t.stepAt h now = t := by
  rw [stepAt, if_pos hover]

theorem stepAt_waiting
    {delay : Nat} (hstage : t.delivery.stage = .waiting delay) :
    t.stepAt h now =
      ⟨{ t.delivery with stage := .attempting }, { t.state with now },
        t.elapsed + delay⟩ := by
  simp [stepAt, Delivery.isOver, step, Delivery.resume, hstage]

theorem stepAt_attempting
    (hstage : t.delivery.stage = .attempting) :
    t.stepAt h now =
      ⟨(t.delivery.work h false { t.state with now }).1,
        (t.delivery.work h false { t.state with now }).2, t.elapsed⟩ := by
  simp [stepAt, Delivery.isOver, step, stopsBy, hstage]

theorem stepAt_failing
    {e : RelayError} (hstage : t.delivery.stage = .failing e) :
    t.stepAt h now =
      ⟨(t.delivery.work h false { t.state with now }).1,
        (t.delivery.work h false { t.state with now }).2, t.elapsed⟩ := by
  simp [stepAt, Delivery.isOver, step, stopsBy, hstage]

theorem stepAt_received :
    (t.stepAt h now).delivery.received = t.delivery.received := by
  by_cases hover : t.delivery.isOver = true
  · rw [stepAt_over hover]
  · cases hstage : t.delivery.stage with
    | attempting =>
        rw [stepAt_attempting hstage]
        exact Delivery.work_received h false t.delivery _
    | failing e =>
        rw [stepAt_failing hstage]
        exact Delivery.work_received h false t.delivery _
    | waiting delay => rw [stepAt_waiting hstage]
    | completed => simp [Delivery.isOver, hstage] at hover
    | abandoned => simp [Delivery.isOver, hstage] at hover

theorem follow_received
    (calendar : Nat → Time.Instant) (m : Received) (s : Site β) (steps : Nat) :
    (follow h calendar m s steps).delivery.received = m := by
  induction steps with
  | zero => rfl
  | succ steps ih => exact stepAt_received.trans ih

theorem run_succ {σ : Type} (h : Handler σ) (stop : Option Nat) (n : Nat) (t : Timed σ) :
    run h stop (n + 1) t =
      if (run h stop n t).delivery.isOver then run h stop n t
      else (run h stop n t).step h stop := by
  induction n generalizing t with
  | zero => rfl
  | succ n ih =>
      rw [run]
      by_cases hover : t.delivery.isOver = true
      · rw [if_pos hover, run, if_pos hover, if_pos hover]
      · rw [if_neg hover, ih, run, if_neg hover]

end Timed

namespace Route

variable {β : Type} {r : Route} {dispatch : Dispatch β}

/-! ### What is noted changes nothing -/

section Forgetting

variable (r dispatch)

theorem attempt_observed (m : Received) (s : Site (β × List Deed)) :
    ((r.observed dispatch).attempt m s).1 = (r.attempt dispatch m s.forget).1 ∧
      ((r.observed dispatch).attempt m s).2.2.forget = (r.attempt dispatch m s.forget).2.2 := by
  simp only [observed, attempt, Site.forget]
  cases (r.convert m s.now).2.1 with
  | error e => exact ⟨rfl, rfl⟩
  | ok op =>
      simp only [send, Site.report, Dispatch.noted]
      cases dispatch [op] s.broker.1 with
      | mk result after =>
          cases result with
          | error e => exact ⟨rfl, rfl⟩
          | ok _ => exact ⟨rfl, rfl⟩

theorem judge_observed (m : Received) (e : RelayError) (s : Site (β × List Deed)) :
    ((r.observed dispatch).judge m e s).1 = (r.judge dispatch m e s.forget).1 ∧
      ((r.observed dispatch).judge m e s).2.forget = (r.judge dispatch m e s.forget).2 := by
  simp only [observed, judge, Site.forget]
  cases (Verdict.ofFailure r.backoff r.part e m.failures).1 with
  | retry delay => exact ⟨rfl, rfl⟩
  | poison =>
      simp only [send, Site.report, Dispatch.noted]
      cases dispatch [m.toPoison r.poisonQueue] s.broker.1 with
      | mk result after =>
          cases result with
          | error refused => exact ⟨rfl, rfl⟩
          | ok _ => exact ⟨rfl, rfl⟩

theorem work_forget (d : Delivery) (stopped : Bool) (s : Site (β × List Deed)) :
    (d.work (r.observed dispatch) stopped s).1 =
        (d.work (r.handler dispatch) stopped s.forget).1 ∧
      (d.work (r.observed dispatch) stopped s).2.forget =
        (d.work (r.handler dispatch) stopped s.forget).2 := by
  cases hstage : d.stage with
  | attempting =>
      obtain ⟨hresult, hsite⟩ := attempt_observed r dispatch d.message s
      simp only [Delivery.work, hstage, handler]
      cases hnoted : (r.observed dispatch).attempt d.message s with
      | mk result rest =>
          cases hplain : r.attempt dispatch d.message s.forget with
          | mk result' rest' =>
              simp only [hnoted, hplain] at hresult hsite
              subst hresult
              cases result with
              | ok _ => exact ⟨rfl, hsite⟩
              | error e => exact ⟨rfl, hsite⟩
  | failing e =>
      obtain ⟨hdecision, hsite⟩ := judge_observed r dispatch d.message e s
      simp only [Delivery.work, hstage, handler]
      cases hnoted : (r.observed dispatch).judge d.message e s with
      | mk decision after =>
          cases hplain : r.judge dispatch d.message e s.forget with
          | mk decision' after' =>
              simp only [hnoted, hplain] at hdecision hsite
              subst hdecision
              cases decision with
              | handled => exact ⟨rfl, hsite⟩
              | retry delay => exact ⟨rfl, hsite⟩
  | waiting delay => simp only [Delivery.work, hstage, and_self]
  | completed => simp only [Delivery.work, hstage, and_self]
  | abandoned => simp only [Delivery.work, hstage, and_self]

theorem stepAt_forget (t : Timed (Site (β × List Deed))) (now : Time.Instant) :
    (t.stepAt (r.observed dispatch) now).forget = t.forget.stepAt (r.handler dispatch) now := by
  have hsame : t.forget.delivery = t.delivery := rfl
  have hwork := work_forget r dispatch t.delivery false
    { t.state with now }
  by_cases hover : t.delivery.isOver = true
  · rw [Timed.stepAt_over hover, Timed.stepAt_over (t := t.forget) hover]
  · cases hstage : t.delivery.stage with
    | attempting =>
        rw [Timed.stepAt_attempting hstage, Timed.stepAt_attempting (t := t.forget) hstage]
        exact congrArg₂ (Timed.mk · · t.elapsed) hwork.1 hwork.2
    | failing e =>
        rw [Timed.stepAt_failing hstage, Timed.stepAt_failing (t := t.forget) hstage]
        exact congrArg₂ (Timed.mk · · t.elapsed) hwork.1 hwork.2
    | waiting delay =>
        rw [Timed.stepAt_waiting hstage, Timed.stepAt_waiting (t := t.forget) hstage]
        rfl
    | completed => simp [Delivery.isOver, hstage] at hover
    | abandoned => simp [Delivery.isOver, hstage] at hover

end Forgetting

/-- Nothing but the deeds tells a delivery that is noted from one that is not. -/
theorem follow_forget
    (calendar : Nat → Time.Instant) (m : Received) (s : Site (β × List Deed)) (n : Nat) :
    (Timed.follow (r.observed dispatch) calendar m s n).forget =
      Timed.follow (r.handler dispatch) calendar m s.forget n := by
  induction n with
  | zero => rfl
  | succ n ih =>
      rw [Timed.follow, stepAt_forget, ih]
      rfl

/-! ### A calendar that stands still -/

theorem work_now (d : Delivery) (stopped : Bool) (s : Site β) :
    (d.work (r.handler dispatch) stopped s).2.now = s.now := by
  unfold Delivery.work
  cases d.stage with
  | attempting =>
      simp only [handler, attempt, send, Site.report]
      cases (r.convert d.message s.now).2.1 with
      | error e => rfl
      | ok op =>
          dsimp only
          cases (dispatch [op] s.broker).1 with
          | ok _ => rfl
          | error e => rfl
  | failing e =>
      simp only [handler, judge, send, Site.report]
      cases (Verdict.ofFailure r.backoff r.part e d.message.failures).1 with
      | retry delay => rfl
      | poison =>
          dsimp only
          cases (dispatch [d.message.toPoison r.poisonQueue] s.broker).1 with
          | ok _ => rfl
          | error refused => rfl
  | waiting delay => rfl
  | completed => rfl
  | abandoned => rfl

theorem stepAt_now {t : Timed (Site β)} {now : Time.Instant} (hnow : t.state.now = now) :
    (t.stepAt (r.handler dispatch) now).state.now = now := by
  by_cases hover : t.delivery.isOver = true
  · rw [Timed.stepAt_over hover, hnow]
  · cases hstage : t.delivery.stage with
    | attempting =>
        rw [Timed.stepAt_attempting hstage]
        exact work_now t.delivery false _
    | failing e =>
        rw [Timed.stepAt_failing hstage]
        exact work_now t.delivery false _
    | waiting delay => rw [Timed.stepAt_waiting hstage]
    | completed => simp [Delivery.isOver, hstage] at hover
    | abandoned => simp [Delivery.isOver, hstage] at hover

/-- A whole delivery at one instant is followed with a calendar that stands still. -/
theorem deliver_eq_follow (dispatch : Dispatch β) (m : Received) (s : Site β) (n : Nat) :
    Timed.deliver (r.handler dispatch) none m s n =
      Timed.follow (r.handler dispatch) (fun _ => s.now) m s n := by
  have hrun : Timed.deliver (r.handler dispatch) none m s n =
        Timed.follow (r.handler dispatch) (fun _ => s.now) m s n ∧
      (Timed.deliver (r.handler dispatch) none m s n).state.now = s.now := by
    induction n with
    | zero => exact ⟨rfl, rfl⟩
    | succ n ih =>
        obtain ⟨hsame, hnow⟩ := ih
        have hstep : Timed.deliver (r.handler dispatch) none m s (n + 1) =
            (Timed.deliver (r.handler dispatch) none m s n).stepAt (r.handler dispatch) s.now := by
          rw [Timed.deliver, Timed.run_succ, ← Timed.deliver, Timed.stepAt, ← hnow]
        rw [hstep]
        constructor
        · rw [hsame]
          rfl
        · exact stepAt_now hnow
  exact hrun.1

end Route
end FaultRelay
