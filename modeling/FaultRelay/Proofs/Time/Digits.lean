import FaultRelay.Time.Reading
import Mathlib.Tactic.Common

/-!
# Reading what is written in digits

**Results.**
* `run_bind_of`, `run_bind_eq_some_iff`: what one reader after another makes of a text.
* `digitsValue_padded`, `length_padded`: the digits that a number is written in.
* `run_number_padded`: a number is read from the digits that it is written in, whatever follows.
-/

namespace FaultRelay
namespace Time

open Text

/-- No digit comes next. -/
def NoDigitNext (rest : List Char) : Prop :=
  ∀ c ∈ rest.head?, c.isDigit = false

theorem noDigitNext_cons {c : Char} (hc : c.isDigit = false) (rest : List Char) :
    NoDigitNext (c :: rest) := by
  rintro x ⟨⟩
  exact hc

/-! ### Numbers in digits -/

section Numbers

variable {width n : Nat}

theorem toList_padded (width n : Nat) :
    (padded width n).toList =
      List.replicate (width - (Nat.toDigits 10 n).length) '0' ++ Nat.toDigits 10 n := by
  have hlength : (toString n).length = (Nat.toDigits 10 n).length := by
    rw [Nat.toString_eq_ofList_toDigits, String.length_ofList]
  rw [padded, String.toList_append, String.toList_ofList, hlength,
    Nat.toString_eq_ofList_toDigits, String.toList_ofList]

theorem isDigit_of_mem_padded {c : Char} (h : c ∈ (padded width n).toList) :
    c.isDigit = true := by
  rw [toList_padded, List.mem_append] at h
  obtain hzero | hdigit := h
  · rw [List.eq_of_mem_replicate hzero]
    rfl
  · exact Nat.isDigit_of_mem_toDigits (by decide) (by decide) hdigit

theorem padded_ne_nil (width n : Nat) : (padded width n).toList ≠ [] := by
  rw [toList_padded]
  exact List.append_ne_nil_of_right_ne_nil _ Nat.toDigits_ne_nil

/-- The first of some digits, when there are any. -/
theorem exists_isDigit_padded (width n : Nat) (rest : List Char) :
    ∃ (c : Char) (more : List Char), c.isDigit = true ∧
      (padded width n).toList ++ rest = c :: more := by
  obtain ⟨c, ds, hds⟩ := List.exists_cons_of_ne_nil (padded_ne_nil width n)
  have hmem : c ∈ (padded width n).toList := by
    rw [hds]
    exact List.mem_cons_self
  exact ⟨c, ds ++ rest, isDigit_of_mem_padded hmem, congrArg (· ++ rest) hds⟩

/-- A number that has enough digits is written in as many as its width says. -/
theorem length_padded (hpos : 0 < width) (h : n < Nat.pow 10 width) :
    (padded width n).toList.length = width := by
  have hle : (Nat.toDigits 10 n).length ≤ width :=
    (Nat.length_toDigits_le_iff (by decide) hpos).mpr h
  rw [toList_padded, List.length_append, List.length_replicate, Nat.sub_add_cancel hle]

namespace Reader

theorem digitsValue_eq (ds : List Char) : digitsValue ds = Nat.ofDigitChars 10 ds 0 := by
  rw [Nat.ofDigitChars_eq_foldl, digitsValue]
  congr 1
  funext value c
  rw [Nat.mul_comm]
  rfl

/-- Zeros in front do not change a number. -/
theorem digitsValue_padded (width n : Nat) : digitsValue (padded width n).toList = n := by
  rw [digitsValue_eq, toList_padded, Nat.ofDigitChars_append, Nat.ofDigitChars_replicate_zero,
    Nat.mul_zero, Nat.ofDigitChars_ten_toDigits]

end Reader

end Numbers

namespace Reader

/-! ### One reader after another -/

section Bind

variable {α β : Type} {x : Reader α} {f : α → Reader β} {a : α} {cs rest : List Char}

theorem run_bind_of (h : x.run cs = some (a, rest)) : (x >>= f).run cs = (f a).run rest := by
  rw [StateT.run_bind, h]
  rfl

theorem run_bind_eq_some_iff {out : β × List Char} :
    (x >>= f).run cs = some out ↔
      ∃ (a : α) (rest : List Char), x.run cs = some (a, rest) ∧ (f a).run rest = some out := by
  rw [StateT.run_bind, Option.bind_eq_bind, Option.bind_eq_some_iff, Prod.exists]

end Bind

/-! ### Runs of digits -/

section Runs

variable {least most : Nat} {ds rest : List Char}

theorem takeWhile_isDigit (hds : ∀ c ∈ ds, c.isDigit = true) (hrest : NoDigitNext rest) :
    (ds ++ rest).takeWhile Char.isDigit = ds := by
  have hnone : rest.takeWhile Char.isDigit = [] := by
    cases rest with
    | nil => rfl
    | cons c cs => simp [hrest c rfl]
  rw [List.takeWhile_append_of_pos hds, hnone, List.append_nil]

/-- Digits are read up to the most that may be read, or up to what is no digit. -/
theorem run_digits (hds : ∀ c ∈ ds, c.isDigit = true) (hleast : least ≤ ds.length)
    (hmost : ds.length ≤ most) (hends : ds.length = most ∨ NoDigitNext rest) :
    (digits least most).run (ds ++ rest) = some (ds, rest) := by
  have htake : ((ds ++ rest).take most).takeWhile Char.isDigit = ds := by
    have hnext : NoDigitNext (rest.take (most - ds.length)) := by
      intro c hc
      obtain hfull | hrest := hends
      · simp [hfull] at hc
      · refine hrest c ?_
        rw [List.head?_take] at hc
        split at hc
        · cases hc
        · exact hc
    rw [List.take_append, List.take_of_length_le hmost]
    exact takeWhile_isDigit hds hnext
  change (if least ≤ (((ds ++ rest).take most).takeWhile Char.isDigit).length then _ else none) = _
  rw [htake, if_pos hleast, List.drop_left]

theorem run_number (hds : ∀ c ∈ ds, c.isDigit = true) (hleast : least ≤ ds.length)
    (hmost : ds.length ≤ most) (hends : ds.length = most ∨ NoDigitNext rest) :
    (number least most).run (ds ++ rest) = some (digitsValue ds, rest) :=
  run_bind_of (run_digits hds hleast hmost hends)

/-- A number is read from all the digits of its width. -/
theorem run_number_padded
    {width n : Nat} (hpos : 0 < width) (h : n < Nat.pow 10 width) (hleast : least ≤ width)
    (rest : List Char) :
    (number least width).run ((padded width n).toList ++ rest) = some (n, rest) := by
  have hlength := length_padded hpos h
  rw [run_number (fun c hc => isDigit_of_mem_padded hc) (hlength.symm ▸ hleast)
    (Nat.le_of_eq hlength) (Or.inl hlength), digitsValue_padded]

theorem run_longNumber
    (hds : ∀ c ∈ ds, c.isDigit = true) (hne : ds ≠ []) (hrest : NoDigitNext rest) :
    longNumber.run (ds ++ rest) = some (digitsValue ds, rest) := by
  have hrun := takeWhile_isDigit hds hrest
  change (if ((ds ++ rest).takeWhile Char.isDigit).isEmpty then none else _) = _
  rw [hrun, if_neg (by simpa using hne), List.drop_left]

/-- A number that is read begins with a digit. -/
theorem exists_digit_of_number
    {cs : List Char} {p : Nat × List Char} (hpos : 0 < least)
    (h : (number least most).run cs = some p) :
    ∃ (c : Char) (rest : List Char), c.isDigit = true ∧ cs = c :: rest := by
  obtain ⟨ds, rest, hdigits, -⟩ := run_bind_eq_some_iff.mp h
  change (if least ≤ ((cs.take most).takeWhile Char.isDigit).length then _ else none) = _ at hdigits
  split at hdigits
  · next hleast =>
      cases cs with
      | nil =>
          rw [List.take_nil] at hleast
          exact absurd hleast (Nat.not_le_of_lt hpos)
      | cons c cs =>
          refine ⟨c, cs, ?_, rfl⟩
          by_contra hc
          cases most with
          | zero => simp at hleast; omega
          | succ most => simp [hc] at hleast; omega
  · cases hdigits

/-- Fewer digits may be asked for. -/
theorem run_number_of_le
    {fewer : Nat} {cs : List Char} {p : Nat × List Char} (hle : fewer ≤ least)
    (h : (number least most).run cs = some p) : (number fewer most).run cs = some p := by
  obtain ⟨ds, rest, hdigits, hvalue⟩ := run_bind_eq_some_iff.mp h
  refine run_bind_eq_some_iff.mpr ⟨ds, rest, ?_, hvalue⟩
  change (if least ≤ ((cs.take most).takeWhile Char.isDigit).length then _ else none) = _ at hdigits
  change (if fewer ≤ ((cs.take most).takeWhile Char.isDigit).length then _ else none) = _
  split at hdigits
  · next hleast => rw [if_pos (Nat.le_trans hle hleast), hdigits]
  · cases hdigits

end Runs

/-! ### Single characters and blanks -/

theorem run_char {accepts : Char → Bool} {c : Char} (h : accepts c = true) (rest : List Char) :
    (char accepts).run (c :: rest) = some ((), rest) := by
  change (if accepts c then some ((), rest) else none) = _
  rw [if_pos h]

theorem exists_of_run_char
    {accepts : Char → Bool} {cs rest : List Char} (h : (char accepts).run cs = some ((), rest)) :
    ∃ c : Char, cs = c :: rest ∧ accepts c = true := by
  cases cs with
  | nil => cases h
  | cons c cs =>
      change (if accepts c then some ((), cs) else none) = _ at h
      split at h
      · next haccepts =>
          cases h
          exact ⟨c, rfl, haccepts⟩
      · cases h

/-- What begins with a character that is no blank has none to be cut off. -/
theorem trimLeft_of_head {cs : List Char} (h : ∀ c ∈ cs.head?, isBlank c = false) :
    trimLeft cs = cs := by
  cases cs with
  | nil => rfl
  | cons c cs => simp [trimLeft, h c rfl]

theorem isBlank_of_isDigit {c : Char} (h : c.isDigit = true) : isBlank c = false := by
  have hzero : '0'.toNat = 48 := rfl
  have hnine : '9'.toNat = 57 := rfl
  rw [Char.isDigit_iff_toNat, hzero, hnine] at h
  simp only [isBlank, Bool.or_eq_false_iff, Bool.and_eq_false_iff, decide_eq_false_iff_not,
    beq_eq_false_iff_ne]
  omega

theorem run_blanks_of_isDigit {c : Char} (hc : c.isDigit = true) (rest : List Char) :
    blanks.run (c :: rest) = some ((), c :: rest) := by
  have hhead : ∀ x ∈ (c :: rest).head?, isBlank x = false := by
    intro x hx
    cases hx
    exact isBlank_of_isDigit hc
  exact congrArg (fun cs => some ((), cs)) (trimLeft_of_head hhead)

/-- The blank before a digit is skipped. -/
theorem run_blanks_of_blank {c : Char} (hc : c.isDigit = true) (rest : List Char) :
    blanks.run (' ' :: c :: rest) = some ((), c :: rest) :=
  run_blanks_of_isDigit hc rest

end Reader

end Time
end FaultRelay
