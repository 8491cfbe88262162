import FaultRelay.Time.Instant
import Mathlib.Tactic.Common

/-!
# How long written instants are

**Input.** `Instant.Representable t`: the year of `t` is one of the calendar, and what `t` has
beyond its second is less than two seconds.

**Result.** `Instant.length_toDocument_le`: the document form of such an instant is short.
-/

namespace FaultRelay
namespace Time

theorem length_toString_le {n : Nat} (h : n < nanosPerSecond) : (toString n).length ≤ 9 := by
  rw [Nat.toString_eq_repr, Nat.repr_eq_ofList_toDigits, String.length_ofList,
    Nat.length_toDigits_le_iff (by decide) (by decide)]
  exact h

theorem length_padded_le {width n : Nat} (hwidth : width ≤ 9) (h : n < nanosPerSecond) :
    (padded width n).length ≤ 9 := by
  have hdigits := length_toString_le h
  simp only [padded, String.length_append, String.length_ofList, List.length_replicate]
  omega

theorem length_yearText_le
    {year : Int} (h : yearRange.1 ≤ year ∧ year ≤ yearRange.2) : (yearText year).length ≤ 10 := by
  simp only [yearRange] at h
  unfold yearText
  split
  · have hdigits : (padded 4 year.toNat).length ≤ 9 :=
      length_padded_le (by decide) (by simp only [nanosPerSecond]; omega)
    omega
  · have hdigits : (padded 4 year.natAbs).length ≤ 9 :=
      length_padded_le (by decide) (by simp only [nanosPerSecond]; omega)
    have hsign : (if year < 0 then "-" else "+").length = 1 := by split <;> rfl
    rw [String.length_append, hsign]
    omega

/-- A month or a day is at most the number of days of an era, which is all that is needed. -/
theorem month_day_ofDayNumber_lt (n : Int) :
    (Date.ofDayNumber n).month < nanosPerSecond ∧ (Date.ofDayNumber n).day < nanosPerSecond := by
  have hera : (n + 719468 - (n + 719468).fdiv 146097 * 146097).toNat < 146097 := by
    rw [Int.fdiv_eq_ediv_of_nonneg _ (by decide)]
    omega
  simp only [Date.ofDayNumber, daysBeforeMonth, nanosPerSecond]
  generalize (n + 719468 - (n + 719468).fdiv 146097 * 146097).toNat = dayOfEra at hera ⊢
  constructor
  · split <;> omega
  · omega

namespace Instant

variable {t : Instant}

/-- Instants of the years of the calendar, leap seconds included. -/
structure Representable (t : Instant) : Prop where
  year_mem : yearRange.1 ≤ t.date.year ∧ t.date.year ≤ yearRange.2
  nanos_lt : t.nanos < 2 * nanosPerSecond

theorem Representable.length_dateText_le (h : t.Representable) : t.dateText.length ≤ 30 := by
  have hyear := length_yearText_le h.year_mem
  obtain ⟨hmonth, hday⟩ := month_day_ofDayNumber_lt (t.seconds.fdiv 86400)
  have hmonth : (padded 2 t.date.month).length ≤ 9 := length_padded_le (by decide) hmonth
  have hday : (padded 2 t.date.day).length ≤ 9 := length_padded_le (by decide) hday
  have hdash : "-".length = 1 := rfl
  simp only [dateText, String.length_append, hdash]
  omega

theorem secondOfDay_lt (t : Instant) : t.secondOfDay < 86400 := by
  have hmod := Int.fmod_lt_of_pos t.seconds (by decide : (0 : Int) < 86400)
  unfold secondOfDay
  omega

theorem Representable.length_timeText_le (h : t.Representable) : t.timeText.length ≤ 29 := by
  have hseconds := t.secondOfDay_lt
  have hnanos := h.nanos_lt
  have hsecond : (padded 2 t.secondOfMinute).length ≤ 9 := by
    refine length_padded_le (by decide) ?_
    simp only [secondOfMinute, nanosPerSecond] at hnanos ⊢
    omega
  have hother : ∀ n : Nat, n ≤ t.secondOfDay → (padded 2 n).length ≤ 9 := by
    intro n hn
    refine length_padded_le (by decide) ?_
    simp only [nanosPerSecond]
    omega
  have hhour := hother (t.secondOfDay / 3600) (by omega)
  have hminute := hother (t.secondOfDay / 60 % 60) (by omega)
  have hcolon : ":".length = 1 := rfl
  simp only [timeText, String.length_append, hcolon]
  omega

theorem length_decimalsText_le {nanos : Nat} (h : nanos < nanosPerSecond) :
    (decimalsText nanos).length ≤ 10 := by
  have hpadded : ∀ width n : Nat, width ≤ 9 → n ≤ nanos →
      ("." ++ padded width n).length ≤ 10 := by
    intro width n hwidth hn
    have hdigits := length_padded_le hwidth (Nat.lt_of_le_of_lt hn h)
    have hpoint : ".".length = 1 := rfl
    rw [String.length_append, hpoint]
    omega
  unfold decimalsText
  split
  · exact Nat.zero_le _
  split
  · exact hpadded _ _ (by decide) (Nat.div_le_self ..)
  split
  · exact hpadded _ _ (by decide) (Nat.div_le_self ..)
  · exact hpadded _ _ (by decide) (Nat.le_refl nanos)

/-- The document form of a representable instant is short. -/
theorem Representable.length_toDocument_le (h : t.Representable) : t.toDocument.length ≤ 71 := by
  have hdate := h.length_dateText_le
  have htime := h.length_timeText_le
  have hdecimals := length_decimalsText_le (Nat.mod_lt t.nanos (by decide : 0 < nanosPerSecond))
  have hletters : "T".length = 1 ∧ "Z".length = 1 := ⟨rfl, rfl⟩
  simp only [toDocument, String.length_append, hletters.1, hletters.2]
  omega

end Instant
end Time
end FaultRelay
