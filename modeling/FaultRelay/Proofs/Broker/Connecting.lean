import FaultRelay.Broker.Connecting
import Mathlib.Data.ENat.Lattice
import Mathlib.Tactic.Common

/-!
# How often and how long a connection is tried

A connection is tried until a call succeeds or the allowed number of calls, at least one, has been
made.  Between two calls there is a pause.

**Results.**
* `Connecting.attemptFrom_of_ends`: what attempts come to when they end after a number of
  failures.
* `Connecting.paced?_of_ends`: the same, event by event, with a counter and delays that have a
  number of bits.
* `Connecting.run_ends_after_failures`: the calls, the result and the pauses of connecting, for
  every allowed number of attempts and every number of failures.
-/

namespace FaultRelay
namespace Connecting

variable {σ ε α : Type}

/-! ### The calls -/

section Calls

variable (connect : σ → Except ε α × σ) (state : σ)

/-- The state that a number of calls leaves behind. -/
def stateAfter : Nat → σ
  | 0 => state
  | calls + 1 => (connect (stateAfter calls)).2

/-- What a call answers; the first call has number zero. -/
def answer (call : Nat) : Except ε α :=
  (connect (stateAfter connect state call)).1

/-- The first calls fail, as many as are said; the one after them succeeds. -/
structure FailsFirst (failures : ℕ∞) : Prop where
  fails : ∀ call : Nat, (call : ℕ∞) < failures → ∃ e : ε, answer connect state call = .error e
  succeeds : ∀ call : Nat, (call : ℕ∞) = failures → ∃ c : α, answer connect state call = .ok c

/-- Calls end after a number of failures when one more call succeeds or may not be followed. -/
structure Ends (more failures : Nat) : Prop where
  le : failures ≤ more
  fails : ∀ call : Nat, call < failures → ∃ e : ε, answer connect state call = .error e
  last : failures = more ∨ ∃ c : α, answer connect state failures = .ok c

variable {connect state}

theorem stateAfter_next (calls : Nat) :
    stateAfter connect (connect state).2 calls = stateAfter connect state (calls + 1) := by
  induction calls with
  | zero => rfl
  | succ calls ih => exact congrArg (fun s => (connect s).2) ih

theorem answer_next (call : Nat) :
    answer connect (connect state).2 call = answer connect state (call + 1) := by
  rw [answer, stateAfter_next, answer]

theorem Ends.next {more failures : Nat} (h : Ends connect state (more + 1) (failures + 1)) :
    Ends connect (connect state).2 more failures where
  le := Nat.le_of_succ_le_succ h.le
  fails call hcall := by
    rw [answer_next]
    exact h.fails (call + 1) (Nat.succ_lt_succ hcall)
  last := by
    rw [answer_next]
    exact h.last.imp_left Nat.succ.inj

/-- The number of calls that fail is the number of failures, up to the calls that may follow. -/
theorem FailsFirst.ends {failures : ℕ∞} (h : FailsFirst connect state failures) (more : Nat) :
    ∃ failed : Nat, (failed : ℕ∞) = min failures more ∧ Ends connect state more failed := by
  rcases le_total (more : ℕ∞) failures with hmore | hmore
  · refine ⟨more, (min_eq_right hmore).symm, le_rfl, fun call hcall => ?_, Or.inl rfl⟩
    exact h.fails call (lt_of_lt_of_le (Nat.cast_lt.mpr hcall) hmore)
  · lift failures to ℕ using ne_top_of_le_ne_top (ENat.natCast_ne_top more) hmore with failed
    refine ⟨failed, (min_eq_left hmore).symm, Nat.cast_le.mp hmore, fun call hcall => ?_, ?_⟩
    · exact h.fails call (Nat.cast_lt.mpr hcall)
    · exact Or.inr (h.succeeds failed rfl)

/-- The failures themselves are counted when the calls are enough for them. -/
theorem eq_of_le_most {failed most k : Nat} (h : (failed : ℕ∞) = min (k : ℕ∞) most) (hk : k ≤ most) :
    failed = k := by
  rw [min_eq_left (Nat.cast_le.mpr hk)] at h
  exact Nat.cast_injective h

/-- The calls are counted when there are failures enough for them. -/
theorem eq_of_most_le {failures : ℕ∞} {failed most : Nat} (h : (failed : ℕ∞) = min failures most)
    (hmost : (most : ℕ∞) ≤ failures) : failed = most := by
  rw [min_eq_right hmost] at h
  exact Nat.cast_injective h

end Calls

/-! ### The pauses -/

/-- The pause before a further call, in milliseconds; the first pause has number zero. -/
def pause (number : Nat) : Nat :=
  min (100 * Nat.pow 2 number) 5000

theorem nextDelay_pause (number : Nat) : nextDelay (pause number) = pause (number + 1) := by
  have hdouble : 100 * Nat.pow 2 (number + 1) = 100 * Nat.pow 2 number * 2 := by
    rw [Nat.pow_eq, Nat.pow_succ, Nat.mul_assoc]
    rfl
  rw [nextDelay, longestDelay, pause, pause, hdouble]
  omega

/-- A number of pauses together. -/
def pausesFrom (first count : Nat) : Nat :=
  ((List.range count).map fun i => pause (first + i)).sum

theorem pausesFrom_succ (first count : Nat) :
    pausesFrom first (count + 1) = pause first + pausesFrom (first + 1) count := by
  simp [pausesFrom, List.range_succ_eq_map, Function.comp_def, Nat.add_assoc, Nat.add_comm 1]

/-! ### The attempts of the relay -/

section Attempts

variable {connect : σ → Except ε α × σ} {state : σ}

/-- A call that fails and may be followed by others makes one attempt and one pause more. -/
theorem attemptFrom_failed
    (p : Plan) (text : ε → String) {e : ε} {state' : σ} (hcall : connect state = (.error e, state'))
    (more attempt delay : Nat) :
    attemptFrom p text connect (more + 1) attempt delay state =
      let rest := attemptFrom p text connect more (attempt + 1) (nextDelay delay) state'
      { rest with
        waited := delay + rest.waited
        logs := retryEvent p attempt delay (text e) :: rest.logs } := by
  conv => lhs; unfold attemptFrom
  rw [hcall]

/-- Calls that end after a number of failures are one more than that, with a pause between two. -/
theorem attemptFrom_of_ends
    (p : Plan) (text : ε → String) {more failures : Nat} (h : Ends connect state more failures)
    (attempt number : Nat) :
    let outcome := attemptFrom p text connect more attempt (pause number) state
    outcome.result = answer connect state failures ∧
      outcome.state = stateAfter connect state (failures + 1) ∧
      outcome.attempts = attempt + failures ∧
      outcome.waited = pausesFrom number failures := by
  induction failures generalizing more attempt number state with
  | zero =>
      unfold attemptFrom
      rcases hcall : connect state with ⟨result, state'⟩
      have hanswer : answer connect state 0 = result := congrArg Prod.fst hcall
      have hstate : stateAfter connect state 1 = state' := congrArg Prod.snd hcall
      cases result with
      | ok c => exact ⟨hanswer.symm, hstate.symm, rfl, rfl⟩
      | error e =>
          cases more with
          | zero => exact ⟨hanswer.symm, hstate.symm, rfl, rfl⟩
          | succ more =>
              rcases h.last with hzero | ⟨c, hc⟩
              · cases hzero
              · rw [hanswer] at hc
                cases hc
  | succ failures ih =>
      obtain ⟨more, rfl⟩ := Nat.exists_eq_succ_of_ne_zero (Nat.ne_zero_of_lt h.le)
      obtain ⟨e, he⟩ := h.fails 0 (Nat.succ_pos failures)
      have hcall : connect state = (.error e, (connect state).2) := Prod.ext he rfl
      obtain ⟨hresult, hstate, hattempts, hwaited⟩ := ih h.next (attempt + 1) (number + 1)
      rw [attemptFrom_failed p text hcall, nextDelay_pause]
      refine ⟨?_, ?_, ?_, ?_⟩
      · exact hresult.trans (answer_next failures)
      · exact hstate.trans (stateAfter_next (failures + 1))
      · exact hattempts.trans (Nat.add_right_comm attempt 1 failures)
      · rw [pausesFrom_succ, ← hwaited]

end Attempts

/-! ### Event by event -/

/-- What connecting does, one thing after the other. -/
inductive Event where
  | call
  | pause (millis : Nat)
  deriving DecidableEq, Repr

/--
Calls and pauses in their order, and the result.  The counter of calls has thirty-two bits, and a
delay counts its seconds in sixty-four; there is nothing when a number outgrows its bits.
-/
def paced? (p : Plan) (connect : σ → Except ε α × σ) (calls delay : Nat) (state : σ) :
    Option (List Event × Except ε α) :=
  if calls + 1 < Nat.pow 2 32 then
    match connect state with
    | (.ok c, _) => some ([.call], .ok c)
    | (.error e, state) =>
        if calls + 1 < p.mostAttempts then
          if delay * 2 < Nat.pow 2 64 * 1000 then
            (paced? p connect (calls + 1) (min (delay * 2) longestDelay) state).map
              fun (events, result) => (.call :: .pause delay :: events, result)
          else none
        else some ([.call], .error e)
  else none
termination_by p.mostAttempts - calls

/-- Calls that fail, each with the pause that follows it, and one more call. -/
def paces (number failures : Nat) : List Event :=
  (List.range failures).flatMap (fun i => [.call, .pause (pause (number + i))]) ++ [.call]

theorem paces_succ (number failures : Nat) :
    paces number (failures + 1) = .call :: .pause (pause number) :: paces (number + 1) failures := by
  simp [paces, List.range_succ_eq_map, List.flatMap_map, Nat.add_assoc, Nat.add_comm 1]

section Paced

variable {connect : σ → Except ε α × σ} {state : σ}

/-- Neither the counter nor a delay outgrows its bits. -/
theorem paced?_of_ends
    {p : Plan} (hmost : p.mostAttempts < Nat.pow 2 32) {calls failures : Nat}
    (hcalls : calls + 1 < Nat.pow 2 32)
    (h : Ends connect state (p.mostAttempts - 1 - calls) failures) (number : Nat) :
    paced? p connect calls (pause number) state =
      some (paces number failures, answer connect state failures) := by
  induction failures generalizing calls number state with
  | zero =>
      rw [paced?, if_pos hcalls]
      rcases hcall : connect state with ⟨result, state'⟩
      have hanswer : answer connect state 0 = result := congrArg Prod.fst hcall
      rw [hanswer]
      cases result with
      | ok c => rfl
      | error e =>
          have hlast : ¬calls + 1 < p.mostAttempts := by
            rcases h.last with hzero | ⟨c, hc⟩
            · omega
            · rw [hanswer] at hc
              cases hc
          simp only [if_neg hlast]
          rfl
  | succ failures ih =>
      have hmore : calls + 1 < p.mostAttempts := by
        have hle := h.le
        omega
      have hdelay : pause number * 2 < Nat.pow 2 64 * 1000 := by
        have hpause : pause number ≤ 5000 := Nat.min_le_right _ _
        exact Nat.lt_of_le_of_lt (Nat.mul_le_mul_right 2 hpause) (by decide)
      have hends : Ends connect state (p.mostAttempts - 1 - (calls + 1) + 1) (failures + 1) := by
        have heq : p.mostAttempts - 1 - (calls + 1) + 1 = p.mostAttempts - 1 - calls := by omega
        rw [heq]
        exact h
      obtain ⟨e, he⟩ := h.fails 0 (Nat.succ_pos failures)
      have hcall : connect state = (.error e, (connect state).2) := Prod.ext he rfl
      have hnext : min (pause number * 2) longestDelay = pause (number + 1) := nextDelay_pause number
      rw [paced?, if_pos hcalls, hcall]
      simp only [if_pos hmore, if_pos hdelay, hnext]
      rw [ih (by omega) hends.next, answer_next, paces_succ]
      rfl

end Paced

/--
A connection whose first calls fail is called once more than that, or as often as is allowed but at
least once.  The first call that succeeds gives the result, and otherwise the last call does.  There
is a pause between two calls and nowhere else; it doubles from a tenth of a second up to five, and
neither the counter nor a delay outgrows its bits.
-/
theorem run_ends_after_failures
    (p : Plan) (hmost : p.mostAttempts < Nat.pow 2 32) (text : ε → String)
    (connect : σ → Except ε α × σ) (state : σ) (failures : ℕ∞)
    (hfails : FailsFirst connect state failures) :
    let most := max p.mostAttempts 1
    let outcome := run p text connect state
    (outcome.attempts : ℕ∞) = min (failures + 1) most ∧
      outcome.state = stateAfter connect state outcome.attempts ∧
      (∀ failed : Nat, failures = failed → failed < most →
        outcome.result = answer connect state failed ∧ ∃ c : α, outcome.result = .ok c) ∧
      (most ≤ failures →
        outcome.result = answer connect state (most - 1) ∧ ∃ e : ε, outcome.result = .error e) ∧
      outcome.waited =
        ((List.range (outcome.attempts - 1)).map fun i => min (100 * Nat.pow 2 i) 5000).sum ∧
      paced? p connect 0 100 state =
        some ((List.range (outcome.attempts - 1)).flatMap
            (fun i => [.call, .pause (min (100 * Nat.pow 2 i) 5000)]) ++ [.call],
          outcome.result) := by
  intro most outcome
  obtain ⟨failed, hfailed, hends⟩ := hfails.ends (p.mostAttempts - 1)
  have hallowed : p.mostAttempts - 1 + 1 = most := by omega
  obtain ⟨hresult, hstate, hattempts, hwaited⟩ :
      outcome.result = answer connect state failed ∧
        outcome.state = stateAfter connect state (failed + 1) ∧
        outcome.attempts = 1 + failed ∧
        outcome.waited = pausesFrom 0 failed :=
    attemptFrom_of_ends p text hends 1 0
  have hpaced : paced? p connect 0 100 state =
      some (paces 0 failed, answer connect state failed) :=
    paced?_of_ends hmost (by decide) hends 0
  have hpauses : outcome.attempts - 1 = failed := by omega
  refine ⟨?_, ?_, ?_, ?_, ?_, ?_⟩
  · rw [hattempts, Nat.add_comm, Nat.cast_add, hfailed, ← hallowed, Nat.cast_add,
      Nat.cast_one, min_add_add_right]
  · rw [hstate, hattempts, Nat.add_comm]
  · intro k hk hlt
    have hkfailed : failed = k := eq_of_le_most (hk ▸ hfailed) (by omega)
    rw [hresult, hkfailed]
    exact ⟨rfl, hfails.succeeds k hk.symm⟩
  · intro hmany
    have hbefore : ((p.mostAttempts - 1 : Nat) : ℕ∞) ≤ failures :=
      le_trans (Nat.cast_le.mpr (by omega)) hmany
    have hlast : failed = most - 1 := by
      have heq := eq_of_most_le hfailed hbefore
      omega
    rw [hresult, hlast]
    exact ⟨rfl, hfails.fails (most - 1)
      (lt_of_lt_of_le (Nat.cast_lt.mpr (by omega)) hmany)⟩
  · rw [hpauses, hwaited]
    simp only [pausesFrom, Nat.zero_add]
    rfl
  · rw [hpauses, hpaced, hresult]
    simp only [paces, Nat.zero_add]
    rfl

/-- A broker that refuses twice is connected to by the third of five calls. -/
theorem run_ends_after_two_failures :
    let connect : Nat → Except String Nat × Nat := fun calls =>
      (if calls < 2 then .error "refused" else .ok calls, calls + 1)
    let outcome := run ⟨"amqp", "localhost", 5⟩ id connect 0
    FailsFirst connect 0 2 ∧ outcome.attempts = 3 ∧ outcome.result = .ok 2 ∧
      outcome.waited = 300 := by
  intro connect outcome
  have hfails : FailsFirst connect 0 2 := {
    fails := fun call hcall => by
      have hlt : call < 2 := Nat.cast_lt.mp hcall
      match call, hlt with
      | 0, _ => exact ⟨"refused", rfl⟩
      | 1, _ => exact ⟨"refused", rfl⟩
    succeeds := fun call hcall => by
      have heq : call = 2 := Nat.cast_injective hcall
      exact ⟨2, by rw [heq]; rfl⟩ }
  obtain ⟨-, -, hresult, -, hwaited, -⟩ :=
    run_ends_after_failures ⟨"amqp", "localhost", 5⟩ (by decide) id connect 0 2 hfails
  exact ⟨hfails, rfl, (hresult 2 rfl (by decide)).1, hwaited⟩

end Connecting
end FaultRelay
