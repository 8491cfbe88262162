import FaultRelay.Settings.Basic

/-!
# What accepted settings keep

Settings are checked rule by rule, and the first rule that they break ends the check.

**Results.**
* `bind_eq_ok`: two steps that may fail succeed when each of them does.
* `Settings.retryDelays_of_validate`: the delays of accepted settings are ordered and bounded.
-/

namespace FaultRelay

theorem bind_eq_ok
    {ε α β : Type} {x : Except ε α} {f : α → Except ε β} {b : β} :
    (x >>= f) = .ok b ↔ ∃ a : α, x = .ok a ∧ f a = .ok b := by
  cases x with
  | error e => simp [bind, Except.bind]
  | ok a => simp [bind, Except.bind]

namespace Settings

theorem refuseIf_eq_ok {broken : Bool} {e : SettingsError} {u : Unit} :
    refuseIf broken e = .ok u ↔ broken = false := by
  cases broken with
  | false => simp [refuseIf]
  | true => simp [refuseIf]

/-- The delays of accepted settings are ordered, and none is longer than a day. -/
theorem retryDelays_of_validate {s : Settings} (h : s.validate = .ok ()) :
    s.retryBaseDelay ≤ s.retryMaxDelay ∧ s.retryMaxDelay ≤ maxDelay := by
  simp only [validate, bind_eq_ok, refuseIf_eq_ok, decide_eq_false_iff_not, Nat.not_lt] at h
  obtain ⟨_, _, _, _, _, _, _, _, _, _, _, _, _, _, _, hlongest, _, hordered, _⟩ := h
  exact ⟨hordered, hlongest⟩

end Settings
end FaultRelay
