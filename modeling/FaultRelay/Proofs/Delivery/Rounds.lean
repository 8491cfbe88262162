import FaultRelay.Proofs.Delivery.Following
import Mathlib.Data.List.Flatten

/-!
# The rounds of a delivery

A round is one attempt with what follows it.  When everything in it is refused, it
consists of the conversion and, from the first failure on that is not tried again, of a
copy for the poison queue; a message that cannot be converted goes to the poison queue in
every round.

**Result.** `Route.done_follow`: after any number of steps a delivery that nobody stops has
done some whole rounds in which everything was refused and the beginning of another one.
-/

namespace FaultRelay
namespace Route

variable {β : Type} (r : Route)

/-- The deeds of a round in which everything is refused, `before` rounds being before it. -/
def refusedRound (m : Received) (before : Nat) : Except ConversionError Operation → List Deed
  | .error _ => [.attempted, .asked [m.toPoison r.poisonQueue] false]
  | .ok op =>
      .attempted :: .asked [op] false ::
        if before < r.backoff.maxRetries then []
        else [.asked [m.toPoison r.poisonQueue] false]

/-- The deeds of several rounds in which everything is refused, given their conversions. -/
def refusedRounds (m : Received) (cs : List (Except ConversionError Operation)) : List Deed :=
  cs.zipIdx.flatMap fun c => r.refusedRound m c.2 c.1

/-- The deeds of a round in which an operation is accepted. -/
inductive AcceptedRound (m : Received) (before : Nat) :
    Except ConversionError Operation → List Deed → Prop
  | unconverted (e : ConversionError) :
      AcceptedRound m before (.error e)
        [.attempted, .asked [m.toPoison r.poisonQueue] true]
  | converted (op : Operation) :
      AcceptedRound m before (.ok op) [.attempted, .asked [op] true]
  | poisoned (op : Operation) (hbefore : r.backoff.maxRetries ≤ before) :
      AcceptedRound m before (.ok op)
        [.attempted, .asked [op] false, .asked [m.toPoison r.poisonQueue] true]

/-- A conversion of a message, at whatever instant. -/
def IsConversion (m : Received) (c : Except ConversionError Operation) : Prop :=
  ∃ now : Time.Instant, r.conversion m now = c

/--
What a delivery has done after a number of steps by the time it stands at a stage, given
the conversions of the rounds in which everything was refused.
-/
inductive Done (m : Received) (cs : List (Except ConversionError Operation)) (steps : Nat) :
    Delivery → List Deed → Prop
  | attempting {d : Delivery} (hstage : d.stage = .attempting)
      (hfailures : d.failures = cs.length) (hsteps : steps = 3 * cs.length) :
      Done m cs steps d (r.refusedRounds m cs)
  | waiting {d : Delivery}
      (hstage : d.stage = .waiting (r.backoff.delayAfter r.part cs.length))
      (hfailures : d.failures = cs.length) (hsteps : steps + 1 = 3 * cs.length) :
      Done m cs steps d (r.refusedRounds m cs)
  | unconverted {d : Delivery} {e : ConversionError} (hstage : d.stage = .failing (.conversion e))
      (hfailures : d.failures = cs.length + 1) (hsteps : steps = 3 * cs.length + 1)
      (hc : r.IsConversion m (.error e)) :
      Done m cs steps d (r.refusedRounds m cs ++ [.attempted])
  | refused {d : Delivery} {e : TransportError} {op : Operation}
      (hstage : d.stage = .failing (.transport e))
      (hfailures : d.failures = cs.length + 1) (hsteps : steps = 3 * cs.length + 1)
      (hc : r.IsConversion m (.ok op)) :
      Done m cs steps d (r.refusedRounds m cs ++ [.attempted, .asked [op] false])
  | completed {d : Delivery} {c : Except ConversionError Operation} {last : List Deed}
      (hstage : d.stage = .completed) (hc : r.IsConversion m c)
      (hlast : r.AcceptedRound m cs.length c last) :
      Done m cs steps d (r.refusedRounds m cs ++ last)

@[simp] theorem refusedRounds_nil (m : Received) : r.refusedRounds m [] = [] := rfl

theorem refusedRounds_concat
    (m : Received) (cs : List (Except ConversionError Operation))
    (c : Except ConversionError Operation) :
    r.refusedRounds m (cs ++ [c]) =
      r.refusedRounds m cs ++ r.refusedRound m cs.length c := by
  simp [refusedRounds, List.zipIdx_append]

end Route

namespace Route

variable {β : Type} {r : Route} {dispatch : Dispatch β} {m : Received}
  {cs : List (Except ConversionError Operation)} {t : Timed (Site (β × List Deed))}

theorem work_observed_attempting
    {d : Delivery} (hstage : d.stage = .attempting) (stopped : Bool)
    (s : Site (β × List Deed)) :
    d.work (r.observed dispatch) stopped s =
      d.work (r.handler dispatch.noted) stopped
        { s with broker := (s.broker.1, s.broker.2 ++ [.attempted]) } := by
  simp only [Delivery.work, hstage, observed, handler]

theorem work_observed_failing
    {d : Delivery} {e : RelayError} (hstage : d.stage = .failing e) (stopped : Bool)
    (s : Site (β × List Deed)) :
    d.work (r.observed dispatch) stopped s =
      d.work (r.handler dispatch.noted) stopped s := by
  simp only [Delivery.work, hstage, observed, handler]

theorem noted_eq
    {ops : List Operation} {broker : β × List Deed} {result : Except TransportError Unit}
    {after : β} (hsent : dispatch ops broker.1 = (result, after)) :
    dispatch.noted ops broker = (result, after, broker.2 ++ [.asked ops result.isOk]) := by
  simp only [Dispatch.noted, hsent]

/-- An attempt begins another round. -/
theorem done_stepAt_attempting
    (hreceived : t.delivery.received = m) (hstage : t.delivery.stage = .attempting)
    (hfailures : t.delivery.failures = cs.length)
    (hdeeds : t.deeds = r.refusedRounds m cs) (now : Time.Instant) :
    r.Done m cs (3 * cs.length + 1) (t.stepAt (r.observed dispatch) now).delivery
      (t.stepAt (r.observed dispatch) now).deeds := by
  have hmessage : r.conversion t.delivery.message now = r.conversion m now := by
    rw [← hreceived]
    exact convert_message r t.delivery.received t.delivery.failures now
  rw [Timed.stepAt_attempting hstage, work_observed_attempting hstage]
  cases hc : r.conversion m now with
  | error cause =>
      obtain ⟨events, hwork⟩ := work_unconverted dispatch.noted false
        ⟨(t.state.broker.1, t.state.broker.2 ++ [.attempted]), t.state.log, now⟩
        hstage (hmessage.trans hc)
      rw [hwork, Timed.deeds]
      simp only [Site.report]
      rw [show t.state.broker.2 = r.refusedRounds m cs from hdeeds]
      exact .unconverted rfl (by simp [hfailures]) rfl ⟨now, hc⟩
  | ok op =>
      cases hsent : dispatch [op] t.state.broker.1 with
      | mk result after =>
          cases result with
          | ok _ =>
              obtain ⟨events, hwork⟩ := work_accepted dispatch.noted false
                ⟨(t.state.broker.1, t.state.broker.2 ++ [.attempted]), t.state.log, now⟩
                hstage (hmessage.trans hc) (noted_eq hsent)
              rw [hwork, Timed.deeds]
              simp only [List.append_assoc]
              rw [show t.state.broker.2 = r.refusedRounds m cs from hdeeds]
              exact .completed rfl ⟨now, hc⟩ (.converted op)
          | error cause =>
              obtain ⟨events, hwork⟩ := work_refused dispatch.noted false
                ⟨(t.state.broker.1, t.state.broker.2 ++ [.attempted]), t.state.log, now⟩
                hstage (hmessage.trans hc) (noted_eq hsent)
              rw [hwork, Timed.deeds]
              simp only [List.append_assoc]
              rw [show t.state.broker.2 = r.refusedRounds m cs from hdeeds]
              exact .refused rfl (by simp [hfailures]) rfl ⟨now, hc⟩

variable (dispatch) in
/-- A copy for the poison queue ends the delivery or is followed by a delay. -/
theorem stepAt_poison
    {e : RelayError} (hreceived : t.delivery.received = m)
    (hstage : t.delivery.stage = .failing e)
    (hverdict : (Verdict.ofFailure r.backoff r.part e t.delivery.failures).1 = .poison)
    (now : Time.Instant) :
    let after := t.stepAt (r.observed dispatch) now
    after.delivery.stage = .completed ∧
        after.deeds = t.deeds ++ [.asked [m.toPoison r.poisonQueue] true] ∨
      after.delivery.stage = .waiting (r.backoff.delayAfter r.part t.delivery.failures) ∧
        after.delivery.failures = t.delivery.failures ∧
        after.deeds = t.deeds ++ [.asked [m.toPoison r.poisonQueue] false] := by
  have hcopy : t.delivery.message.toPoison r.poisonQueue = m.toPoison r.poisonQueue := by
    rw [← hreceived]
    rfl
  intro after
  have hafter : after = t.stepAt (r.observed dispatch) now := rfl
  rw [Timed.stepAt_failing hstage, work_observed_failing hstage] at hafter
  cases hsent : dispatch [t.delivery.message.toPoison r.poisonQueue] t.state.broker.1 with
  | mk result broker =>
      cases result with
      | ok _ =>
          obtain ⟨events, hwork⟩ := work_poisoned dispatch.noted false
            { t.state with now } hstage hverdict (noted_eq hsent)
          rw [hafter, hwork, hcopy]
          exact Or.inl ⟨rfl, rfl⟩
      | error refused =>
          obtain ⟨events, hwork⟩ := work_poison_refused dispatch.noted false
            { t.state with now } hstage hverdict (noted_eq hsent)
          rw [hafter, hwork, hcopy]
          exact Or.inr ⟨rfl, rfl, rfl⟩

variable (dispatch) in
/-- A failure that is not the last one is followed by a delay, and nothing is sent. -/
theorem stepAt_retry
    {e : RelayError} {delay : Nat} (hstage : t.delivery.stage = .failing e)
    (hverdict : (Verdict.ofFailure r.backoff r.part e t.delivery.failures).1 = .retry delay)
    (now : Time.Instant) :
    let after := t.stepAt (r.observed dispatch) now
    after.delivery.stage = .waiting delay ∧
      after.delivery.failures = t.delivery.failures ∧ after.deeds = t.deeds := by
  intro after
  have hafter : after = t.stepAt (r.observed dispatch) now := rfl
  rw [Timed.stepAt_failing hstage, work_observed_failing hstage] at hafter
  obtain ⟨events, hwork⟩ := work_retried dispatch.noted false
    { t.state with now } hstage hverdict
  rw [hafter, hwork]
  exact ⟨rfl, rfl, rfl⟩

/-- A failed round is followed by a delay before the next one. -/
theorem done_waiting
    {c : Except ConversionError Operation} {steps failures : Nat} {d : Delivery}
    (hstage : d.stage = .waiting (r.backoff.delayAfter r.part failures))
    (hsame : d.failures = failures) (hfailures : failures = cs.length + 1)
    (hsteps : steps = 3 * cs.length + 1) :
    r.Done m (cs ++ [c]) (steps + 1) d (r.refusedRounds m (cs ++ [c])) := by
  have hlength : (cs ++ [c]).length = cs.length + 1 := by
    rw [List.length_append, List.length_singleton]
  refine .waiting ?_ ?_ ?_
  · rw [hstage, hfailures, hlength]
  · rw [hsame, hfailures, hlength]
  · rw [hsteps, hlength]
    omega

/-- One step of a delivery keeps to the rounds. -/
theorem done_stepAt
    {steps : Nat} (hreceived : t.delivery.received = m)
    (hcs : ∀ c ∈ cs, r.IsConversion m c)
    (hdone : r.Done m cs steps t.delivery t.deeds) (now : Time.Instant) :
    ∃ cs' : List (Except ConversionError Operation),
      (∀ c ∈ cs', r.IsConversion m c) ∧
      r.Done m cs' (steps + 1) (t.stepAt (r.observed dispatch) now).delivery
        (t.stepAt (r.observed dispatch) now).deeds := by
  have hconcat : ∀ c : Except ConversionError Operation, r.IsConversion m c →
      ∀ c' ∈ cs ++ [c], r.IsConversion m c' :=
    fun c hc => List.forall_mem_append.mpr ⟨hcs, List.forall_mem_singleton.mpr hc⟩
  generalize hdeeds : t.deeds = deeds at hdone
  cases hdone with
  | attempting hstage hfailures hsteps =>
      subst hsteps
      exact ⟨cs, hcs, done_stepAt_attempting hreceived hstage hfailures hdeeds now⟩
  | waiting hstage hfailures hsteps =>
      refine ⟨cs, hcs, ?_⟩
      rw [Timed.stepAt_waiting hstage, Timed.deeds]
      rw [show t.state.broker.2 = r.refusedRounds m cs from hdeeds]
      exact .attempting rfl hfailures hsteps
  | @completed c last hstage hc hlast =>
      refine ⟨cs, hcs, ?_⟩
      rw [Timed.stepAt_over (by simp [Delivery.isOver, hstage]), hdeeds]
      exact .completed hstage hc hlast
  | @unconverted e hstage hfailures hsteps hc =>
      have hpoison := stepAt_poison dispatch hreceived hstage
        (Verdict.ofFailure_conversion r.backoff r.part _ e) now
      rcases hpoison with ⟨hover, hafter⟩ | ⟨hwait, hsame, hafter⟩
      · refine ⟨cs, hcs, ?_⟩
        rw [hafter, hdeeds, List.append_assoc]
        exact .completed hover hc (.unconverted e)
      · refine ⟨cs ++ [.error e], hconcat _ hc, ?_⟩
        have hrounds : r.refusedRounds m (cs ++ [.error e]) =
            r.refusedRounds m cs ++ [.attempted] ++
              [.asked [m.toPoison r.poisonQueue] false] := by
          rw [refusedRounds_concat, List.append_assoc]
          rfl
        rw [hafter, hdeeds, ← hrounds]
        exact done_waiting hwait hsame hfailures hsteps
  | @refused e op hstage hfailures hsteps hc =>
      have hverdict := Verdict.ofFailure_transport r.backoff r.part t.delivery.failures e
      by_cases hretry : cs.length < r.backoff.maxRetries
      · rw [if_pos (by omega)] at hverdict
        obtain ⟨hwait, hsame, hafter⟩ :=
          stepAt_retry dispatch hstage hverdict now
        refine ⟨cs ++ [.ok op], hconcat _ hc, ?_⟩
        have hrounds : r.refusedRounds m (cs ++ [.ok op]) =
            r.refusedRounds m cs ++ [.attempted, .asked [op] false] := by
          rw [refusedRounds_concat, refusedRound, if_pos hretry]
        rw [hafter, hdeeds, ← hrounds]
        exact done_waiting hwait hsame hfailures hsteps
      · rw [if_neg (by omega)] at hverdict
        have hpoison := stepAt_poison dispatch hreceived hstage hverdict now
        rcases hpoison with ⟨hover, hafter⟩ | ⟨hwait, hsame, hafter⟩
        · refine ⟨cs, hcs, ?_⟩
          rw [hafter, hdeeds, List.append_assoc]
          exact .completed hover hc (.poisoned op (by omega))
        · refine ⟨cs ++ [.ok op], hconcat _ hc, ?_⟩
          have hrounds : r.refusedRounds m (cs ++ [.ok op]) =
              r.refusedRounds m cs ++ [.attempted, .asked [op] false] ++
                [.asked [m.toPoison r.poisonQueue] false] := by
            rw [refusedRounds_concat, refusedRound, if_neg hretry, List.append_assoc]
            rfl
          rw [hafter, hdeeds, ← hrounds]
          exact done_waiting hwait hsame hfailures hsteps

variable (r dispatch) in
/-- Some whole rounds and the beginning of another one are what a delivery has done. -/
theorem done_follow
    (hfailures : m.failures = 0) (calendar : Nat → Time.Instant)
    (s : Site (β × List Deed)) (hnone : s.broker.2 = []) (n : Nat) :
    ∃ cs : List (Except ConversionError Operation),
      (∀ c ∈ cs, r.IsConversion m c) ∧
      r.Done m cs n (Timed.follow (r.observed dispatch) calendar m s n).delivery
        (Timed.follow (r.observed dispatch) calendar m s n).deeds := by
  induction n with
  | zero =>
      refine ⟨[], by simp, ?_⟩
      have hdeeds : (Timed.follow (r.observed dispatch) calendar m s 0).deeds =
          r.refusedRounds m [] := hnone
      rw [hdeeds]
      exact .attempting rfl hfailures rfl
  | succ n ih =>
      obtain ⟨cs, hcs, hdone⟩ := ih
      exact done_stepAt (Timed.follow_received calendar m s n) hcs hdone (calendar n)

end Route
end FaultRelay
