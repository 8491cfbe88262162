import FaultRelay.Delivery.Backoff
import FaultRelay.Proofs.Settings.Validity
import Mathlib.Tactic.Common

/-!
# How the delays between attempts grow

The delay doubles with every failure until it has doubled `Backoff.maxDoublings` times, and it is
never longer than the longest delay of the settings.

**Results.**
* `Backoff.min_doubled_eq_iff`: when it makes no difference that the doubling stops.
* `Settings.delays_double_iff`: the delays of accepted settings are those of a doubling that
  never stops exactly when the longest one is reached before it does.
-/

namespace FaultRelay
namespace Backoff

/-- It makes no difference where the doubling stops when it does not come that far, when there is
nothing to double, and when the longest delay is reached by then. -/
theorem min_doubled_eq_iff (base longest doublings limit : Nat) :
    min (base * Nat.pow 2 (min doublings limit)) longest =
        min (base * Nat.pow 2 doublings) longest ↔
      doublings ≤ limit ∨ base = 0 ∨ longest ≤ base * Nat.pow 2 limit := by
  by_cases hfew : doublings ≤ limit
  · simp only [Nat.min_eq_left hfew, hfew, true_or]
  · have hmany : limit < doublings := Nat.lt_of_not_le hfew
    rw [Nat.min_eq_right (Nat.le_of_lt hmany)]
    by_cases hbase : base = 0
    · simp only [hbase, Nat.zero_mul, true_or, or_true]
    · have hgrows : base * Nat.pow 2 limit < base * Nat.pow 2 doublings :=
        Nat.mul_lt_mul_of_pos_left (Nat.pow_lt_pow_right (by decide) hmany)
          (Nat.pos_of_ne_zero hbase)
      simp only [hfew, hbase, false_or]
      omega

end Backoff

namespace Settings

/-- Nothing that is computed for a delay of accepted settings needs more than sixty-four bits. -/
theorem doubled_lt_of_validate
    {s : Settings} (hvalid : s.validate = .ok ()) (failures : Nat) :
    s.retryBaseDelay * Nat.pow 2 (min (failures - 1) Backoff.maxDoublings) < Nat.pow 2 64 := by
  obtain ⟨hordered, hlongest⟩ := retryDelays_of_validate hvalid
  have hbase : s.retryBaseDelay ≤ 86400000 := Nat.le_trans hordered hlongest
  have hpower : Nat.pow 2 (min (failures - 1) Backoff.maxDoublings) ≤ Nat.pow 2 20 :=
    Nat.pow_le_pow_right (by decide) (Nat.min_le_right _ _)
  calc s.retryBaseDelay * Nat.pow 2 (min (failures - 1) Backoff.maxDoublings)
      ≤ 86400000 * Nat.pow 2 20 := Nat.mul_le_mul hbase hpower
    _ < Nat.pow 2 64 := by decide

/--
The delay after a number of failures is the first one doubled with every further failure, up to
the longest one, exactly while it has doubled twenty times at most, or when there is no first
delay, or when twenty doublings reach the longest one.  Otherwise it stays where twenty doublings
have brought it, below the longest one.
-/
theorem delays_double_iff
    {s : Settings} (hvalid : s.validate = .ok ()) (failures : Nat) :
    let doubled := min (s.retryBaseDelay * Nat.pow 2 (failures - 1)) s.retryMaxDelay
    let keeps := failures ≤ 21 ∨ s.retryBaseDelay = 0 ∨
      s.retryMaxDelay ≤ s.retryBaseDelay * Nat.pow 2 20
    s.retryBaseDelay * Nat.pow 2 (min (failures - 1) 20) < Nat.pow 2 64 ∧
      (s.backoff.baseDelayAfter failures = doubled ↔ keeps) ∧
      (¬keeps → s.backoff.baseDelayAfter failures = s.retryBaseDelay * Nat.pow 2 20 ∧
        s.backoff.baseDelayAfter failures < doubled) := by
  intro doubled keeps
  have hfew : failures ≤ 21 ↔ failures - 1 ≤ 20 := by omega
  have hiff : s.backoff.baseDelayAfter failures = doubled ↔ keeps := by
    have hlimit := Backoff.min_doubled_eq_iff s.retryBaseDelay s.retryMaxDelay (failures - 1) 20
    rw [← hfew] at hlimit
    exact hlimit
  refine ⟨doubled_lt_of_validate hvalid failures, hiff, fun hends => ?_⟩
  have hends' := hends
  simp only [keeps, not_or, hfew, Nat.not_le] at hends'
  obtain ⟨hmany, -, hshort⟩ := hends'
  have hstays : s.backoff.baseDelayAfter failures = s.retryBaseDelay * Nat.pow 2 20 := by
    rw [Backoff.baseDelayAfter, Backoff.maxDoublings, Nat.min_eq_right (Nat.le_of_lt hmany)]
    exact Nat.min_eq_left (Nat.le_of_lt hshort)
  have hle : s.backoff.baseDelayAfter failures ≤ doubled := by
    have hgrows : s.retryBaseDelay * Nat.pow 2 20 ≤ s.retryBaseDelay * Nat.pow 2 (failures - 1) :=
      Nat.mul_le_mul_left _ (Nat.pow_le_pow_right (by decide) (Nat.le_of_lt hmany))
    rw [hstays]
    exact Nat.le_min.2 ⟨hgrows, Nat.le_of_lt hshort⟩
  exact ⟨hstays, Nat.lt_of_le_of_ne hle fun heq => hends (hiff.1 heq)⟩

/-- A first delay of a second reaches an hour. -/
theorem delays_double_hourly :
    let s : Settings :=
      { returnQueue := "Retry.Return", retryBaseDelay := 1000, retryMaxDelay := 3600000 }
    s.validate = .ok () ∧ ∀ failures : Nat,
      s.backoff.baseDelayAfter failures = min (1000 * Nat.pow 2 (failures - 1)) 3600000 := by
  intro s
  have hvalid : s.validate = .ok () := by decide +kernel
  refine ⟨hvalid, fun failures => ?_⟩
  obtain ⟨-, hiff, -⟩ := delays_double_iff hvalid failures
  exact hiff.2 (.inr (.inr (by decide)))

/-- A first delay of a millisecond doubles to less than a day, after twenty-two failures as after
thirty. -/
theorem delays_double_no_further :
    let s : Settings :=
      { returnQueue := "Retry.Return", retryBaseDelay := 1, retryMaxDelay := 86400000 }
    s.validate = .ok () ∧
      s.backoff.baseDelayAfter 22 = 1048576 ∧
      min (s.retryBaseDelay * Nat.pow 2 (22 - 1)) s.retryMaxDelay = 2097152 ∧
      s.backoff.baseDelayAfter 30 = 1048576 ∧
      min (s.retryBaseDelay * Nat.pow 2 (30 - 1)) s.retryMaxDelay = 86400000 := by
  intro s
  exact ⟨by decide +kernel, by decide, by decide, by decide, by decide⟩

end Settings
end FaultRelay
