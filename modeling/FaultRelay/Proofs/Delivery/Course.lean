import FaultRelay.Proofs.Delivery.Following
import Mathlib.Data.List.Chain

/-!
# The course of a delivery through any handler

A handler may answer whatever it likes, leave the messages that it is given in any state, and
take any time for it.  The stop signal may show at any time, and a receiver may notice late that
it shows or that a delay is over.

**Rules.**
* `Timed.Event h stop t asked t'`: the next thing that happens to a delivery, and what the handler
  is asked in it.
* `Timed.Course h stop m s askings t`: a delivery from its start, and what its handler was asked.

**Invariant.** `Timed.Stands m stop askings t`: the handler was asked about some rounds that
failed and were to be tried again, and about the beginning of another one.

**Results.**
* `Timed.Stands.event`, `Timed.Course.stands`: what happens keeps the invariant.
* `Timed.Course.view_eq`: what a handler keeps, a whole delivery keeps.
* `Timed.event_of_step`: the delivery on its own clock is one of these courses.
* `Timed.course_delivered`: what a handler is asked, when, and how a delivery ends.
-/

namespace FaultRelay

/-- Something that a handler was asked, from then until it had answered. -/
structure Asking where
  act : Act
  asked : Nat
  answered : Nat

/-- Whether a message has left its queue with an answer. -/
def Act.settles : Act → Bool
  | .attempt _ result => result.isOk
  | .judge _ _ decision => decision = .handled

namespace Asking

/-- When the handler may be asked again: after the delay that it asked for. -/
def due (a : Asking) : Nat :=
  match a.act with
  | .judge _ _ (.retry delay) => a.answered + delay
  | _ => a.answered

def attempted? (a : Asking) : Option Received :=
  match a.act with
  | .attempt m _ => some m
  | .judge _ _ _ => none

def judged? (a : Asking) : Option Received :=
  match a.act with
  | .attempt _ _ => none
  | .judge m _ _ => some m

end Asking

/-- A message that has failed a number of times since it was received. -/
def Received.failedAgain (m : Received) (times : Nat) : Received :=
  { m with failures := m.failures + times }

/-- Whatever a handler is asked, something about its state stays as it is. -/
structure Handler.Keeps {σ α : Type} (h : Handler σ) (view : σ → α) : Prop where
  attempt (m : Received) (s : σ) : view (h.attempt m s).2.2 = view s
  judge (m : Received) (e : RelayError) (s : σ) : view (h.judge m e s).2 = view s

namespace Delivery

variable {σ : Type} {h : Handler σ} {d : Delivery} {s after : σ} {left : Received} {e : RelayError}
  {stopped : Bool}

theorem work_attempt_ok
    {u : Unit} (hstage : d.stage = .attempting)
    (hanswer : h.attempt d.message s = (.ok u, left, after)) :
    d.work h stopped s = ({ d with stage := .completed }, after) := by
  simp only [work, hstage, hanswer]

theorem work_attempt_error
    (hstage : d.stage = .attempting)
    (hanswer : h.attempt d.message s = (.error e, left, after)) :
    d.work h stopped s =
      ({ d with failures := d.failures + 1, stage := .failing e }, after) := by
  simp only [work, hstage, hanswer]

theorem work_judge_handled
    (hstage : d.stage = .failing e) (hanswer : h.judge d.message e s = (.handled, after)) :
    d.work h stopped s = ({ d with stage := .completed }, after) := by
  simp only [work, hstage, hanswer]

theorem work_judge_retry
    {delay : Nat} (hstage : d.stage = .failing e)
    (hanswer : h.judge d.message e s = (.retry delay, after)) :
    d.work h stopped s =
      ({ d with stage := if stopped then .abandoned else .waiting delay }, after) := by
  simp only [work, hstage, hanswer]

/-- The stop signal does not matter for an attempt. -/
theorem work_attempting (stopped : Bool) (hstage : d.stage = .attempting) :
    d.work h stopped s = d.work h false s := by
  simp only [work, hstage]

/-- What a handler keeps, one answer of it keeps. -/
theorem view_work_eq
    {α : Type} {view : σ → α} (hkeeps : h.Keeps view) (d : Delivery) (stopped : Bool) (s : σ) :
    view (d.work h stopped s).2 = view s := by
  cases hstage : d.stage with
  | attempting =>
      rw [← hkeeps.attempt d.message s]
      rcases hanswer : h.attempt d.message s with ⟨_ | _, left, after⟩
      · rw [work_attempt_error hstage hanswer]
      · rw [work_attempt_ok hstage hanswer]
  | failing e =>
      rw [← hkeeps.judge d.message e s]
      rcases hanswer : h.judge d.message e s with ⟨_ | delay, after⟩
      · rw [work_judge_handled hstage hanswer]
      · rw [work_judge_retry hstage hanswer]
  | waiting delay => simp only [work, hstage]
  | completed => simp only [work, hstage]
  | abandoned => simp only [work, hstage]

theorem work_traced_attempting (hstage : d.stage = .attempting) (acts : List Act) :
    d.work h.traced stopped (s, acts) =
      ((d.work h stopped s).1, (d.work h stopped s).2,
        acts ++ [.attempt d.message (h.attempt d.message s).1]) := by
  cases hanswer : h.attempt d.message s with
  | mk result rest =>
      cases result <;> simp [work, Handler.traced, hstage, hanswer]

theorem work_traced_failing (hstage : d.stage = .failing e) (acts : List Act) :
    d.work h.traced stopped (s, acts) =
      ((d.work h stopped s).1, (d.work h stopped s).2,
        acts ++ [.judge d.message e (h.judge d.message e s).1]) := by
  cases hanswer : h.judge d.message e s with
  | mk decision after =>
      cases decision <;> simp [work, Handler.traced, hstage, hanswer]

end Delivery

namespace Timed

variable {σ : Type}

/-- One thing that happens to a delivery, and what the handler is asked in it. -/
inductive Event (h : Handler σ) (stop : Option Nat) (t : Timed σ) :
    Option Asking → Timed σ → Prop
  | attempted (time : Nat) (hlater : t.elapsed ≤ time)
      (hstage : t.delivery.stage = .attempting) :
      Event h stop t
        (some ⟨.attempt t.delivery.message (h.attempt t.delivery.message t.state).1,
          t.elapsed, time⟩)
        ⟨(t.delivery.work h false t.state).1, (t.delivery.work h false t.state).2, time⟩
  | judged (time : Nat) (e : RelayError) (stopped : Bool) (hlater : t.elapsed ≤ time)
      (hstage : t.delivery.stage = .failing e)
      (hstopped : stopped = true → stopsBy stop time = true) :
      Event h stop t
        (some ⟨.judge t.delivery.message e (h.judge t.delivery.message e t.state).1,
          t.elapsed, time⟩)
        ⟨(t.delivery.work h stopped t.state).1, (t.delivery.work h stopped t.state).2, time⟩
  | resumed (time delay : Nat) (hstage : t.delivery.stage = .waiting delay)
      (hover : t.elapsed + delay ≤ time) :
      Event h stop t none ⟨t.delivery.resume, t.state, time⟩
  | givenUp (time delay : Nat) (hstage : t.delivery.stage = .waiting delay)
      (hlater : t.elapsed ≤ time) (hstopped : stopsBy stop time = true) :
      Event h stop t none ⟨t.delivery.giveUp, t.state, time⟩

/-- A delivery from its start, and what its handler was asked, oldest first. -/
inductive Course (h : Handler σ) (stop : Option Nat) (m : Received) (s : σ) :
    List Asking → Timed σ → Prop
  | start : Course h stop m s [] ⟨.start m, s, 0⟩
  | event {askings : List Asking} {asked : Option Asking} {t t' : Timed σ}
      (before : Course h stop m s askings t) (next : Event h stop t asked t') :
      Course h stop m s (askings ++ asked.toList) t'

/-- Attempts that failed and were to be made again, and when the next one may begin. -/
inductive Rounds (m : Received) : Nat → List Asking → Nat → Prop
  | none : Rounds m 0 [] 0
  | another {n due delay : Nat} {askings : List Asking} {attempt judgement : Asking}
      {e : RelayError} (before : Rounds m n askings due)
      (hattempt : attempt.act = .attempt (m.failedAgain n) (.error e))
      (hjudgement : judgement.act = .judge (m.failedAgain (n + 1)) e (.retry delay))
      (hdue : due ≤ attempt.asked) (hnext : attempt.answered ≤ judgement.asked) :
      Rounds m (n + 1) (askings ++ [attempt, judgement]) (judgement.answered + delay)

/-- What the handler was asked by the time a delivery stands at a stage. -/
inductive Stands (m : Received) (stop : Option Nat) : List Asking → Timed σ → Prop
  | attempting {n due : Nat} {askings : List Asking} {t : Timed σ}
      (rounds : Rounds m n askings due)
      (hdelivery : t.delivery = ⟨m, m.failures + n, .attempting⟩) (hdue : due ≤ t.elapsed) :
      Stands m stop askings t
  | failing {n due : Nat} {askings : List Asking} {t : Timed σ} {attempt : Asking}
      {e : RelayError} (rounds : Rounds m n askings due)
      (hattempt : attempt.act = .attempt (m.failedAgain n) (.error e))
      (hdue : due ≤ attempt.asked) (hnext : attempt.answered ≤ t.elapsed)
      (hdelivery : t.delivery = ⟨m, m.failures + (n + 1), .failing e⟩) :
      Stands m stop (askings ++ [attempt]) t
  | waiting {n due delay : Nat} {askings : List Asking} {t : Timed σ}
      (rounds : Rounds m (n + 1) askings due)
      (hdelivery : t.delivery = ⟨m, m.failures + (n + 1), .waiting delay⟩)
      (hdue : due ≤ t.elapsed + delay) :
      Stands m stop askings t
  | succeeded {n due : Nat} {askings : List Asking} {t : Timed σ} {attempt : Asking}
      (rounds : Rounds m n askings due)
      (hattempt : attempt.act = .attempt (m.failedAgain n) (.ok ()))
      (hdue : due ≤ attempt.asked) (hstage : t.delivery.stage = .completed) :
      Stands m stop (askings ++ [attempt]) t
  | handled {n due : Nat} {askings : List Asking} {t : Timed σ} {attempt judgement : Asking}
      {e : RelayError} (rounds : Rounds m n askings due)
      (hattempt : attempt.act = .attempt (m.failedAgain n) (.error e))
      (hjudgement : judgement.act = .judge (m.failedAgain (n + 1)) e .handled)
      (hdue : due ≤ attempt.asked) (hnext : attempt.answered ≤ judgement.asked)
      (hstage : t.delivery.stage = .completed) :
      Stands m stop (askings ++ [attempt, judgement]) t
  | abandoned {n due : Nat} {askings : List Asking} {t : Timed σ}
      (rounds : Rounds m (n + 1) askings due) (hstage : t.delivery.stage = .abandoned)
      (hstopped : stopsBy stop t.elapsed = true) :
      Stands m stop askings t

section Stages

variable {h : Handler σ} {stop : Option Nat} {m : Received} {askings : List Asking}
  {asked : Option Asking} {t t' : Timed σ} {n due time : Nat}

/-- An attempt settles the message or is to be judged. -/
theorem Stands.attempted
    (rounds : Rounds m n askings due)
    (hdelivery : t.delivery = ⟨m, m.failures + n, .attempting⟩) (hdue : due ≤ t.elapsed) :
    Stands m stop
      (askings ++ [⟨.attempt t.delivery.message (h.attempt t.delivery.message t.state).1,
        t.elapsed, time⟩])
      ⟨(t.delivery.work h false t.state).1, (t.delivery.work h false t.state).2, time⟩ := by
  have hmessage : t.delivery.message = m.failedAgain n := by
    rw [hdelivery]
    rfl
  have hstage : t.delivery.stage = .attempting := by
    rw [hdelivery]
  cases hanswer : h.attempt t.delivery.message t.state with
  | mk result after =>
      cases result with
      | ok _ =>
          refine .succeeded rounds (by rw [hmessage]) hdue ?_
          rw [Delivery.work_attempt_ok hstage hanswer]
      | error e =>
          refine .failing rounds (by rw [hmessage]) hdue (Nat.le_refl _) ?_
          rw [Delivery.work_attempt_error hstage hanswer, hdelivery]
          rfl

/-- A judgement settles the message, is followed by a delay, or gives the message back. -/
theorem Stands.judged
    {attempt : Asking} {e : RelayError} {stopped : Bool} (rounds : Rounds m n askings due)
    (hattempt : attempt.act = .attempt (m.failedAgain n) (.error e)) (hdue : due ≤ attempt.asked)
    (hnext : attempt.answered ≤ t.elapsed)
    (hdelivery : t.delivery = ⟨m, m.failures + (n + 1), .failing e⟩)
    (hstopped : stopped = true → stopsBy stop time = true) :
    Stands m stop
      (askings ++ [attempt, ⟨.judge t.delivery.message e
        (h.judge t.delivery.message e t.state).1, t.elapsed, time⟩])
      ⟨(t.delivery.work h stopped t.state).1, (t.delivery.work h stopped t.state).2, time⟩ := by
  have hmessage : t.delivery.message = m.failedAgain (n + 1) := by
    rw [hdelivery]
    rfl
  have hstage : t.delivery.stage = .failing e := by
    rw [hdelivery]
  cases hanswer : h.judge t.delivery.message e t.state with
  | mk decision after =>
      cases decision with
      | handled =>
          refine .handled rounds hattempt (by rw [hmessage]) hdue hnext ?_
          rw [Delivery.work_judge_handled hstage hanswer]
      | retry delay =>
          have hact : (⟨.judge t.delivery.message e (.retry delay), t.elapsed, time⟩ : Asking).act =
              .judge (m.failedAgain (n + 1)) e (.retry delay) := by rw [hmessage]
          have hround := rounds.another hattempt hact hdue hnext
          rw [Delivery.work_judge_retry hstage hanswer]
          cases hstop : stopped with
          | true => exact .abandoned hround rfl (hstopped hstop)
          | false =>
              refine .waiting hround ?_ (Nat.le_refl _)
              rw [hdelivery]
              rfl

/-- What happens next keeps to the rounds. -/
theorem Stands.event
    (hstands : Stands m stop askings t) (hevent : Event h stop t asked t') :
    Stands m stop (askings ++ asked.toList) t' := by
  -- Each kind of event belongs to one stage; at any other one it does not happen.
  cases hevent with
  | attempted time hlater hstage =>
      cases hstands with
      | attempting rounds hdelivery hdue => exact .attempted rounds hdelivery hdue
      | _ => simp_all
  | judged time e stopped hlater hstage hstopped =>
      cases hstands with
      | failing rounds hattempt hdue hnext hdelivery =>
          rw [hdelivery] at hstage
          cases hstage
          rw [List.append_assoc]
          exact .judged rounds hattempt hdue hnext hdelivery hstopped
      | _ => simp_all
  | resumed time delay hstage hover =>
      rw [Option.toList_none, List.append_nil]
      cases hstands with
      | waiting rounds hdelivery hdue =>
          rw [hdelivery] at hstage
          cases hstage
          refine .attempting rounds ?_ (Nat.le_trans hdue hover)
          rw [hdelivery]
          rfl
      | _ => simp_all
  | givenUp time delay hstage hlater hstopped =>
      rw [Option.toList_none, List.append_nil]
      cases hstands with
      | waiting rounds hdelivery hdue =>
          refine .abandoned rounds ?_ hstopped
          rw [hdelivery]
          rfl
      | _ => simp_all

/-- A delivery keeps to the rounds. -/
theorem Course.stands
    {s : σ} (hcourse : Course h stop m s askings t) : Stands m stop askings t := by
  induction hcourse with
  | start => exact .attempting .none rfl (Nat.le_refl _)
  | event _ hnext ih => exact ih.event hnext

/-- Something happens next exactly when a delivery is not over. -/
theorem isOver_iff_no_event :
    t.delivery.isOver = true ↔ ∀ (asked : Option Asking) (t' : Timed σ),
      ¬Event h stop t asked t' := by
  constructor
  · intro hover asked t' hevent
    cases hevent <;> simp_all [Delivery.isOver]
  · intro hnone
    cases hstage : t.delivery.stage with
    | attempting => exact absurd (.attempted t.elapsed (Nat.le_refl _) hstage) (hnone _ _)
    | failing e =>
        exact absurd (.judged t.elapsed e false (Nat.le_refl _) hstage (by simp)) (hnone _ _)
    | waiting delay =>
        exact absurd (.resumed (t.elapsed + delay) delay hstage (Nat.le_refl _)) (hnone _ _)
    | completed => simp [Delivery.isOver, hstage]
    | abandoned => simp [Delivery.isOver, hstage]

end Stages

/-! ### What the handler was asked -/

section Asked

variable {m : Received} {stop : Option Nat} {n due : Nat} {askings : List Asking} {t : Timed σ}

theorem Rounds.attempts (h : Rounds m n askings due) :
    askings.filterMap Asking.attempted? = (List.range n).map m.failedAgain := by
  induction h with
  | none => rfl
  | another before hattempt hjudgement _ _ ih =>
      simp [List.filterMap_append, List.range_succ, ih, Asking.attempted?, hattempt, hjudgement]

theorem Rounds.judgements (h : Rounds m n askings due) :
    askings.filterMap Asking.judged? =
      (List.range n).map fun i => m.failedAgain (i + 1) := by
  induction h with
  | none => rfl
  | another before hattempt hjudgement _ _ ih =>
      simp [List.filterMap_append, List.range_succ, ih, Asking.judged?, hattempt, hjudgement]

/-- The last answer in the rounds is that the message is to be tried again. -/
theorem Rounds.getLast?_eq
    (h : Rounds m n askings due) {a : Asking} (ha : a ∈ askings.getLast?) :
    (∃ (message : Received) (e : RelayError) (delay : Nat),
      a.act = .judge message e (.retry delay)) ∧ a.due = due := by
  cases h with
  | none => simp at ha
  | another before hattempt hjudgement _ _ =>
      rw [List.getLast?_append_of_ne_nil _ (by simp)] at ha
      simp only [List.getLast?_cons_cons, List.getLast?_singleton, Option.mem_some] at ha
      subst ha
      exact ⟨⟨_, _, _, hjudgement⟩, by simp [Asking.due, hjudgement]⟩

theorem Rounds.not_settles
    (h : Rounds m n askings due) {a : Asking} (ha : a ∈ askings.getLast?) :
    a.act.settles = false := by
  obtain ⟨⟨message, e, delay, hact⟩, -⟩ := h.getLast?_eq ha
  rw [hact]
  rfl

/-- Two askings, of which the second one is made when the first one is over. -/
def Spaced (a b : Asking) : Prop :=
  a.due ≤ b.asked

/-- What is asked when the rounds are over is asked late enough. -/
theorem Rounds.spaced_append
    (h : Rounds m n askings due) (hspaced : askings.IsChain Spaced) {a : Asking}
    {more : List Asking} (hdue : due ≤ a.asked) (hmore : (a :: more).IsChain Spaced) :
    (askings ++ a :: more).IsChain Spaced := by
  refine List.isChain_append.2 ⟨hspaced, hmore, fun x hx y hy => ?_⟩
  have hy : y = a := by simpa using hy.symm
  rw [Spaced, (h.getLast?_eq hx).2, hy]
  exact hdue

theorem spaced_attempt
    {attempt judgement : Asking} {message : Received} {result : Except RelayError Unit}
    (hattempt : attempt.act = .attempt message result)
    (hnext : attempt.answered ≤ judgement.asked) : [attempt, judgement].IsChain Spaced := by
  have hdue : attempt.due = attempt.answered := by
    simp [Asking.due, hattempt]
  simpa [Spaced, hdue] using hnext

theorem Rounds.spaced (h : Rounds m n askings due) : askings.IsChain Spaced := by
  induction h with
  | none => simp
  | another before hattempt _ hdue hnext ih =>
      exact before.spaced_append ih hdue (spaced_attempt hattempt hnext)

/-- What a handler was asked, when, and how the delivery stands. -/
structure Delivered (m : Received) (stop : Option Nat) (askings : List Asking) (t : Timed σ) :
    Prop where
  /-- Every attempt is made on the message as it was received, with one more failure each time. -/
  attempts : ∀ (i : Nat) (message : Received),
    (askings.filterMap Asking.attempted?)[i]? = some message →
      message = { m with failures := m.failures + i }
  /-- Every failure is judged on the message as it was received, this failure counted. -/
  judgements : ∀ (i : Nat) (message : Received),
    (askings.filterMap Asking.judged?)[i]? = some message →
      message = { m with failures := m.failures + (i + 1) }
  /-- It is completed exactly by an attempt that succeeds or a failure that is dealt with. -/
  completed_iff : t.delivery.stage = .completed ↔
    ∃ a ∈ askings.getLast?, a.act.settles = true
  /-- It is abandoned only after a decision to try again, when the stop signal shows. -/
  abandoned : t.delivery.stage = .abandoned →
    (∃ a ∈ askings.getLast?, ∃ (message : Received) (e : RelayError) (delay : Nat),
      a.act = .judge message e (.retry delay)) ∧ stopsBy stop t.elapsed = true
  /-- Nothing is asked before the delay after the last answer is over. -/
  spaced : askings.IsChain Spaced

theorem Stands.attempts (h : Stands m stop askings t) :
    ∃ n : Nat, askings.filterMap Asking.attempted? = (List.range n).map m.failedAgain := by
  cases h with
  | attempting rounds => exact ⟨_, rounds.attempts⟩
  | waiting rounds => exact ⟨_, rounds.attempts⟩
  | abandoned rounds => exact ⟨_, rounds.attempts⟩
  | @failing n _ _ _ _ _ rounds hattempt =>
      exact ⟨n + 1, by simp [rounds.attempts, List.range_succ, Asking.attempted?, hattempt]⟩
  | @succeeded n _ _ _ _ rounds hattempt =>
      exact ⟨n + 1, by simp [rounds.attempts, List.range_succ, Asking.attempted?, hattempt]⟩
  | @handled n _ _ _ _ _ _ rounds hattempt hjudgement =>
      exact ⟨n + 1, by
        simp [rounds.attempts, List.range_succ, Asking.attempted?, hattempt, hjudgement]⟩

theorem Stands.judgements (h : Stands m stop askings t) :
    ∃ n : Nat, askings.filterMap Asking.judged? =
      (List.range n).map fun i => m.failedAgain (i + 1) := by
  cases h with
  | attempting rounds => exact ⟨_, rounds.judgements⟩
  | waiting rounds => exact ⟨_, rounds.judgements⟩
  | abandoned rounds => exact ⟨_, rounds.judgements⟩
  | @failing n _ _ _ _ _ rounds hattempt =>
      exact ⟨n, by simp [rounds.judgements, Asking.judged?, hattempt]⟩
  | @succeeded n _ _ _ _ rounds hattempt =>
      exact ⟨n, by simp [rounds.judgements, Asking.judged?, hattempt]⟩
  | @handled n _ _ _ _ _ _ rounds hattempt hjudgement =>
      exact ⟨n + 1, by
        simp [rounds.judgements, List.range_succ, Asking.judged?, hattempt, hjudgement]⟩

theorem Stands.completed_iff (h : Stands m stop askings t) :
    t.delivery.stage = .completed ↔ ∃ a ∈ askings.getLast?, a.act.settles = true := by
  cases h with
  | attempting rounds hdelivery =>
      simpa [hdelivery] using fun a ha => rounds.not_settles ha
  | waiting rounds hdelivery =>
      simpa [hdelivery] using fun a ha => rounds.not_settles ha
  | abandoned rounds hstage =>
      simpa [hstage] using fun a ha => rounds.not_settles ha
  | failing rounds hattempt _ _ hdelivery =>
      simp [hdelivery, hattempt, Act.settles, Except.isOk, Except.toBool]
  | succeeded rounds hattempt _ hstage =>
      simp [hstage, hattempt, Act.settles, Except.isOk, Except.toBool]
  | handled rounds _ hjudgement _ _ hstage =>
      simp [hstage, hjudgement, Act.settles]

theorem Stands.abandoned_after
    (h : Stands m stop askings t) (hstage : t.delivery.stage = .abandoned) :
    (∃ a ∈ askings.getLast?, ∃ (message : Received) (e : RelayError) (delay : Nat),
      a.act = .judge message e (.retry delay)) ∧ stopsBy stop t.elapsed = true := by
  cases h with
  | abandoned rounds _ hstopped =>
      cases rounds with
      | another _ _ hjudgement => exact ⟨⟨_, by simp, _, _, _, hjudgement⟩, hstopped⟩
  | _ => simp_all

theorem Stands.spaced (h : Stands m stop askings t) : askings.IsChain Spaced := by
  cases h with
  | attempting rounds => exact rounds.spaced
  | waiting rounds => exact rounds.spaced
  | abandoned rounds => exact rounds.spaced
  | failing rounds _ hdue => exact rounds.spaced_append rounds.spaced hdue (by simp)
  | succeeded rounds _ hdue => exact rounds.spaced_append rounds.spaced hdue (by simp)
  | handled rounds hattempt _ hdue hnext =>
      exact rounds.spaced_append rounds.spaced hdue (spaced_attempt hattempt hnext)

theorem eq_of_getElem?_map_range
    {α : Type} {f : Nat → α} {i : Nat} {x : α} (h : ((List.range n).map f)[i]? = some x) :
    x = f i := by
  rw [List.getElem?_map, Option.map_eq_some_iff] at h
  obtain ⟨j, hj, rfl⟩ := h
  rw [List.getElem?_eq_some_iff] at hj
  obtain ⟨_, rfl⟩ := hj
  rw [List.getElem_range]

theorem Stands.delivered (h : Stands m stop askings t) : Delivered m stop askings t where
  attempts i message hmessage := by
    obtain ⟨n, hattempts⟩ := h.attempts
    rw [hattempts] at hmessage
    exact eq_of_getElem?_map_range (f := m.failedAgain) hmessage
  judgements i message hmessage := by
    obtain ⟨n, hjudgements⟩ := h.judgements
    rw [hjudgements] at hmessage
    exact eq_of_getElem?_map_range (f := fun i => m.failedAgain (i + 1)) hmessage
  completed_iff := h.completed_iff
  abandoned := h.abandoned_after
  spaced := h.spaced

end Asked

/-! ### What the handler keeps -/

section Kept

variable {h : Handler σ} {stop : Option Nat} {α : Type} {view : σ → α}

theorem Event.view_eq
    {t t' : Timed σ} {asked : Option Asking} (hkeeps : h.Keeps view)
    (hevent : Event h stop t asked t') : view t'.state = view t.state := by
  cases hevent with
  | attempted time _ _ => exact Delivery.view_work_eq hkeeps t.delivery false t.state
  | judged time e stopped _ _ _ => exact Delivery.view_work_eq hkeeps t.delivery stopped t.state
  | resumed time delay _ _ => rfl
  | givenUp time delay _ _ _ => rfl

/-- What a handler keeps, a whole delivery keeps. -/
theorem Course.view_eq
    {m : Received} {s : σ} {askings : List Asking} {t : Timed σ} (hkeeps : h.Keeps view)
    (hcourse : Course h stop m s askings t) : view t.state = view s := by
  induction hcourse with
  | start => rfl
  | event _ hnext ih => rw [hnext.view_eq hkeeps, ih]

end Kept

/-! ### The delivery on its own clock -/

section Clock

variable {h : Handler σ} {stop : Option Nat}

theorem step_attempting {t : Timed σ} (hstage : t.delivery.stage = .attempting) :
    t.step h stop =
      ⟨(t.delivery.work h false t.state).1, (t.delivery.work h false t.state).2, t.elapsed⟩ := by
  simp only [step, hstage, Delivery.work_attempting (stopsBy _ _) hstage]

theorem step_failing {t : Timed σ} {e : RelayError} (hstage : t.delivery.stage = .failing e) :
    t.step h stop =
      ⟨(t.delivery.work h (stopsBy stop t.elapsed) t.state).1,
        (t.delivery.work h (stopsBy stop t.elapsed) t.state).2, t.elapsed⟩ := by
  simp only [step, hstage]

/-- A step through a delay depends on the stop signal alone. -/
theorem step_waiting
    (h : Handler σ) (stop : Option Nat) {t : Timed σ} {delay : Nat}
    (hstage : t.delivery.stage = .waiting delay) :
    t.step h stop = ⟨t.delivery.resume, t.state, t.elapsed + delay⟩ ∨
      ∃ time : Nat, stop = some time ∧
        t.step h stop = ⟨t.delivery.giveUp, t.state, max t.elapsed time⟩ := by
  cases stop with
  | none => exact .inl (by simp only [step, hstage])
  | some time =>
      by_cases htime : time < t.elapsed + delay
      · exact .inr ⟨time, rfl, by simp only [step, hstage, if_pos htime]⟩
      · exact .inl (by simp only [step, hstage, if_neg htime])

/-- A step of a delivery that is not over is an event. -/
theorem event_of_step
    (h : Handler σ) (stop : Option Nat) (t : Timed σ) (hopen : t.delivery.isOver = false) :
    ∃ asked : Option Asking, Event h stop t asked (t.step h stop) := by
  cases hstage : t.delivery.stage with
  | attempting =>
      rw [step_attempting hstage]
      exact ⟨_, .attempted t.elapsed (Nat.le_refl _) hstage⟩
  | failing e =>
      rw [step_failing hstage]
      exact ⟨_, .judged t.elapsed e _ (Nat.le_refl _) hstage id⟩
  | waiting delay =>
      obtain hstep | ⟨time, rfl, hstep⟩ := step_waiting h stop hstage
      · rw [hstep]
        exact ⟨none, .resumed _ delay hstage (Nat.le_refl _)⟩
      · rw [hstep]
        exact ⟨none, .givenUp _ delay hstage (Nat.le_max_left _ _)
          (decide_eq_true (Nat.le_max_right _ _))⟩
  | completed => simp [Delivery.isOver, hstage] at hopen
  | abandoned => simp [Delivery.isOver, hstage] at hopen

/-- A delivery without the record of what its handler was asked. -/
def untraced (t : Timed (σ × List Act)) : Timed σ :=
  { t with state := t.state.1 }

/-- The record grows by what the handler is asked, and changes nothing else. -/
theorem Event.untraced
    {t t' : Timed (σ × List Act)} {asked : Option Asking} (hevent : Event h.traced stop t asked t') :
    Event h stop t.untraced asked t'.untraced ∧
      t'.state.2 = t.state.2 ++ asked.toList.map Asking.act := by
  obtain ⟨d, ⟨s, acts⟩, elapsed⟩ := t
  cases hevent with
  | attempted time hlater hstage =>
      rw [Delivery.work_traced_attempting hstage]
      exact ⟨.attempted time hlater hstage, rfl⟩
  | judged time e stopped hlater hstage hstopped =>
      rw [Delivery.work_traced_failing hstage]
      exact ⟨.judged time e stopped hlater hstage hstopped, rfl⟩
  | resumed time delay hstage hover =>
      exact ⟨.resumed time delay hstage hover, by simp⟩
  | givenUp time delay hstage hlater hstopped =>
      exact ⟨.givenUp time delay hstage hlater hstopped, by simp⟩

theorem step_traced (t : Timed (σ × List Act)) :
    (t.step h.traced stop).untraced = t.untraced.step h stop := by
  obtain ⟨d, ⟨s, acts⟩, elapsed⟩ := t
  have hplain : (⟨d, (s, acts), elapsed⟩ : Timed (σ × List Act)).untraced = ⟨d, s, elapsed⟩ :=
    rfl
  cases hstage : d.stage with
  | attempting =>
      rw [hplain, step_attempting hstage, step_attempting hstage,
        Delivery.work_traced_attempting hstage]
      rfl
  | failing e =>
      rw [hplain, step_failing hstage, step_failing hstage,
        Delivery.work_traced_failing hstage]
      rfl
  | waiting delay =>
      cases stop with
      | none => simp only [step, untraced, hstage]
      | some time =>
          simp only [step, untraced, hstage]
          split
          next htime => exact (if_pos htime).symm
          next htime => exact (if_neg htime).symm
  | completed => simp only [step, untraced, Delivery.work, hstage]
  | abandoned => simp only [step, untraced, Delivery.work, hstage]

theorem deliver_succ (h : Handler σ) (stop : Option Nat) (m : Received) (s : σ) (steps : Nat) :
    deliver h stop m s (steps + 1) =
      if (deliver h stop m s steps).delivery.isOver then deliver h stop m s steps
      else (deliver h stop m s steps).step h stop :=
  run_succ h stop steps _

/-- A delivery on its own clock is a course, and the record is what its handler was asked. -/
theorem course_deliver
    (h : Handler σ) (stop : Option Nat) (m : Received) (s : σ) (steps : Nat) :
    ∃ askings : List Asking, Course h stop m s askings (deliver h stop m s steps) ∧
      (deliver h.traced stop m (s, []) steps).untraced = deliver h stop m s steps ∧
      (deliver h.traced stop m (s, []) steps).state.2 = askings.map Asking.act := by
  induction steps with
  | zero => exact ⟨[], .start, rfl, rfl⟩
  | succ steps ih =>
      obtain ⟨askings, hcourse, hplain, hacts⟩ := ih
      have hdelivery : (deliver h.traced stop m (s, []) steps).delivery =
          (deliver h stop m s steps).delivery := congrArg Timed.delivery hplain
      rw [deliver_succ, deliver_succ, hdelivery]
      by_cases hover : (deliver h stop m s steps).delivery.isOver = true
      · rw [if_pos hover, if_pos hover]
        exact ⟨askings, hcourse, hplain, hacts⟩
      · rw [if_neg hover, if_neg hover]
        obtain ⟨asked, hevent⟩ := event_of_step h.traced stop
          (deliver h.traced stop m (s, []) steps) (by simpa [hdelivery] using hover)
        obtain ⟨hplainEvent, hrecord⟩ := hevent.untraced
        rw [step_traced, hplain] at hplainEvent
        refine ⟨askings ++ asked.toList, .event hcourse hplainEvent, ?_, ?_⟩
        · rw [step_traced, hplain]
        · rw [hrecord, hacts, List.map_append]

end Clock

/-- What a handler is asked, when, and how a delivery ends, whatever the handler does and
whenever the stop signal shows. -/
theorem course_delivered (h : Handler σ) (stop : Option Nat) (m : Received) (s : σ) :
    (∀ (askings : List Asking) (t : Timed σ), Course h stop m s askings t →
      Delivered m stop askings t ∧
        (t.delivery.isOver = true ↔
          ∀ (asked : Option Asking) (t' : Timed σ), ¬Event h stop t asked t')) ∧
    (∀ t : Timed σ, t.delivery.isOver = false →
      ∃ asked : Option Asking, Event h stop t asked (t.step h stop)) ∧
    ∀ steps : Nat,
      ((deliver h stop m s steps).delivery.isOver = false →
        deliver h stop m s (steps + 1) = (deliver h stop m s steps).step h stop) ∧
      ∃ askings : List Asking,
        Course h stop m s askings (deliver h stop m s steps) ∧
        (deliver h.traced stop m (s, []) steps).untraced = deliver h stop m s steps ∧
        (deliver h.traced stop m (s, []) steps).state.2 = askings.map Asking.act := by
  refine ⟨fun _ _ hcourse => ⟨hcourse.stands.delivered, isOver_iff_no_event⟩,
    event_of_step h stop, fun steps => ⟨fun hopen => ?_, course_deliver h stop m s steps⟩⟩
  rw [deliver_succ, hopen]
  rfl

/-- A handler spoils a message and fails; the message is whole when it is tried again, late. -/
theorem course_delivered_spoiled :
    let h : Handler Nat :=
      ⟨fun m calls => (if calls = 0 then .error (.encoding none) else .ok (),
        { m with headers := m.headers.insert "mutated" "yes", failures := 7 }, calls + 1),
        fun _ _ calls => (.retry 10, calls)⟩
    let m : Received := ⟨"native-1", ∅, "body".toUTF8, "orders_error", 0⟩
    let askings : List Asking :=
      [⟨.attempt m (.error (.encoding none)), 0, 2⟩,
        ⟨.judge { m with failures := 1 } (.encoding none) (.retry 10), 2, 3⟩,
        ⟨.attempt { m with failures := 1 } (.ok ()), 14, 15⟩]
    let t : Timed Nat := ⟨⟨m, 1, .completed⟩, 2, 15⟩
    Course h none m 0 askings t ∧ Delivered m none askings t ∧
      (∃ asked : Option Asking,
        Event h none (deliver h none m 0 3) asked (deliver h none m 0 4)) ∧
      (deliver h none m 0 4).delivery.isOver = true := by
  intro h m askings t
  have hcourse : Course h none m 0 askings t :=
    (((Course.start.event (.attempted 2 (by decide) rfl)).event
      (.judged 3 (.encoding none) false (by decide) rfl (by simp))).event
      (.resumed 14 10 rfl (by decide))).event (.attempted 15 (by decide) rfl)
  obtain ⟨hdelivered, hevent, hclock⟩ := course_delivered h none m 0
  have hopen : (deliver h none m 0 3).delivery.isOver = false := rfl
  refine ⟨hcourse, (hdelivered askings t hcourse).1, ?_, rfl⟩
  rw [(hclock 3).1 hopen]
  exact hevent _ hopen

end Timed
end FaultRelay
