import FaultRelay.Proofs.Json.ReadBack
import FaultRelay.Proofs.Time.Digits
import FaultRelay.Time.Span

/-!
# The written form of spans

**Rules.**
* `SpanForm f cs`: a text of the form `[d.]hh:mm:ss[.fffffff]` and what its fields stand for.

**Results.**
* `SpanForm.run_readSpan`: a text of the form has no other reading.
* `spanText_exact`: a span is written in that form, and what is written is the span without what is
  less than 100 nanoseconds.
-/

namespace FaultRelay
namespace Time

open Reader

/-- What a span is made of; a tick is 100 nanoseconds. -/
structure SpanFields where
  days : Nat
  hours : Nat
  minutes : Nat
  seconds : Nat
  ticks : Nat
  deriving DecidableEq, Repr

/-- The nanoseconds of a span. -/
def SpanFields.nanos (f : SpanFields) : Nat :=
  ((((f.days * 24 + f.hours) * 60 + f.minutes) * 60 + f.seconds) * 10000000 + f.ticks) * 100

/-! ### The form -/

/-- Digits that stand for a number. -/
structure Numeral (n : Nat) (cs : List Char) : Prop where
  ne_nil : cs ≠ []
  isDigit (c : Char) : c ∈ cs → c.isDigit = true
  value : digitsValue cs = n

/-- A number of days and a point, when there are any days. -/
inductive DayPart : Nat → List Char → Prop
  | absent : DayPart 0 []
  | present {days : Nat} {cs : List Char} (hpos : 0 < days) (hdays : Numeral days cs)
      (hfirst : cs.head? ≠ some '0') : DayPart days (cs ++ ['.'])

/-- A point and seven digits, when there are any ticks. -/
inductive TickPart : Nat → List Char → Prop
  | absent : TickPart 0 []
  | present {ticks : Nat} {cs : List Char} (hpos : 0 < ticks) (hticks : Numeral ticks cs)
      (hlength : cs.length = 7) : TickPart ticks ('.' :: cs)

/-- A text of the form `[d.]hh:mm:ss[.fffffff]`. -/
inductive SpanForm : SpanFields → List Char → Prop
  | intro {f : SpanFields} {days hours minutes seconds ticks : List Char}
      (hdays : DayPart f.days days)
      (hhours : Numeral f.hours hours) (htwoHours : hours.length = 2) (hhoursLt : f.hours < 24)
      (hminutes : Numeral f.minutes minutes) (htwoMinutes : minutes.length = 2)
      (hminutesLt : f.minutes < 60)
      (hseconds : Numeral f.seconds seconds) (htwoSeconds : seconds.length = 2)
      (hsecondsLt : f.seconds < 60)
      (hticks : TickPart f.ticks ticks) :
      SpanForm f (days ++ (hours ++ ':' :: (minutes ++ ':' :: (seconds ++ ticks))))

/-! ### Reading -/

/-- The days before a point, if there is one. -/
def dayPart : Reader Nat := fun cs =>
  match longNumber.run cs with
  | some (days, '.' :: rest) => some (days, rest)
  | _ => some (0, cs)

/-- The seven digits after a point, if there is one. -/
def tickPart : Reader Nat := do
  match ← get with
  | '.' :: rest => do
      set rest
      number 7 7
  | _ => return 0

def readSpan : Reader SpanFields := do
  let days ← dayPart
  let hours ← twoDigits
  char (· == ':')
  let minutes ← twoDigits
  char (· == ':')
  let seconds ← twoDigits
  let ticks ← tickPart
  finish
  return ⟨days, hours, minutes, seconds, ticks⟩

section Parts

variable {n : Nat} {cs rest : List Char}

theorem Numeral.run_number (h : Numeral n cs) {width : Nat} (hlength : cs.length = width)
    (rest : List Char) : (number width width).run (cs ++ rest) = some (n, rest) := by
  rw [Reader.run_number h.isDigit (Nat.le_of_eq hlength.symm) (Nat.le_of_eq hlength)
    (Or.inl hlength), h.value]

theorem Numeral.run_twoDigits (h : Numeral n cs) (hlength : cs.length = 2) (rest : List Char) :
    twoDigits.run (cs ++ rest) = some (n, rest) :=
  h.run_number hlength rest

theorem run_dayPart_eq (cs : List Char) :
    dayPart.run cs =
      match longNumber.run cs with
      | some (days, '.' :: rest) => some (days, rest)
      | _ => some (0, cs) := rfl

/-- Hours and a colon come next where there are no days. -/
theorem DayPart.run_dayPart
    (h : DayPart n cs) {hours : List Char} (hhours : ∀ c ∈ hours, c.isDigit = true)
    (hne : hours ≠ []) (rest : List Char) :
    dayPart.run (cs ++ (hours ++ ':' :: rest)) = some (n, hours ++ ':' :: rest) := by
  cases h with
  | absent =>
      have hread := run_longNumber hhours hne
        (noDigitNext_cons (rfl : ':'.isDigit = false) rest)
      rw [List.nil_append, run_dayPart_eq, hread]
      rfl
  | @present _ ds hpos hdays hfirst =>
      have hread := run_longNumber hdays.isDigit hdays.ne_nil
        (noDigitNext_cons (rfl : '.'.isDigit = false) (hours ++ ':' :: rest))
      rw [List.append_assoc, List.singleton_append, run_dayPart_eq, hread, hdays.value]
      rfl

theorem TickPart.run_tickPart (h : TickPart n cs) : tickPart.run cs = some (n, []) := by
  cases h with
  | absent => rfl
  | @present _ ds hpos hticks hlength =>
      have hread := hticks.run_number hlength []
      rw [List.append_nil] at hread
      exact hread

/-- A text of the form has no other reading. -/
theorem SpanForm.run_readSpan
    {f : SpanFields} (h : SpanForm f cs) : readSpan.run cs = some (f, []) := by
  obtain ⟨hdays, hhours, htwoHours, -, hminutes, htwoMinutes, -, hseconds, htwoSeconds, -,
    hticks⟩ := h
  rw [readSpan, run_bind_of (hdays.run_dayPart hhours.isDigit hhours.ne_nil _),
    run_bind_of (hhours.run_twoDigits htwoHours _), run_bind_of (run_char rfl _),
    run_bind_of (hminutes.run_twoDigits htwoMinutes _), run_bind_of (run_char rfl _),
    run_bind_of (hseconds.run_twoDigits htwoSeconds _), run_bind_of hticks.run_tickPart]
  rfl

end Parts

/-! ### Writing -/

theorem numeral_padded (width n : Nat) : Numeral n (padded width n).toList where
  ne_nil := padded_ne_nil width n
  isDigit _ hc := isDigit_of_mem_padded hc
  value := digitsValue_padded width n

/-- The fields of a span as they are written. -/
def SpanFields.ofNanos (nanos : Int) : SpanFields :=
  let seconds := nanos.toNat / nanosPerSecond
  ⟨seconds / 86400, seconds % 86400 / 3600, seconds % 3600 / 60, seconds % 60,
    nanos.toNat % nanosPerSecond / 100⟩

/-- A number is written with no zero in front. -/
theorem toDigits_head_ne {n : Nat} (h : n ≠ 0) : (Nat.toDigits 10 n).head? ≠ some '0' := by
  obtain hzero | ⟨c, cs, hc, hdigits⟩ := Json.toDigits_cases n
  · have hvalue := Nat.ofDigitChars_ten_toDigits (n := n)
    rw [hzero] at hvalue
    exact absurd hvalue.symm h
  · rw [hdigits]
    simpa using hc

theorem dayPart_written (days : Nat) :
    DayPart days (if days = 0 then "" else toString days ++ ".").toList := by
  split
  · next hzero =>
      rw [hzero]
      exact .absent
  · next hne =>
      have hpoint : ".".toList = ['.'] := rfl
      have hdigits : (toString days).toList = Nat.toDigits 10 days := by
        rw [Nat.toString_eq_ofList_toDigits, String.toList_ofList]
      have hnumeral : Numeral days (Nat.toDigits 10 days) := by
        have hpadded := numeral_padded 0 days
        rwa [toList_padded, Nat.zero_sub, List.replicate_zero, List.nil_append] at hpadded
      rw [String.toList_append, hpoint, hdigits]
      exact .present (Nat.pos_of_ne_zero hne) hnumeral (toDigits_head_ne hne)

theorem tickPart_written {ticks : Nat} (h : ticks < 10000000) :
    TickPart ticks (if ticks = 0 then "" else "." ++ padded 7 ticks).toList := by
  split
  · next hzero =>
      rw [hzero]
      exact .absent
  · next hne =>
      have hpoint : ".".toList = ['.'] := rfl
      rw [String.toList_append, hpoint]
      exact .present (Nat.pos_of_ne_zero hne) (numeral_padded 7 ticks) (length_padded (by decide) h)

/-- The fields of a span are in their ranges. -/
theorem SpanFields.ofNanos_lt (nanos : Int) :
    let f := SpanFields.ofNanos nanos
    f.hours < 24 ∧ f.minutes < 60 ∧ f.seconds < 60 ∧ f.ticks < 10000000 := by
  simp only [SpanFields.ofNanos, nanosPerSecond]
  omega

theorem spanForm_spanText (nanos : Int) :
    SpanForm (SpanFields.ofNanos nanos) (spanText nanos).toList := by
  have hcolon : ":".toList = [':'] := rfl
  have htwo {n : Nat} (hlt : n < 60) : (padded 2 n).toList.length = 2 :=
    length_padded (by decide) (by omega : n < 100)
  obtain ⟨hhours, hminutes, hseconds, hticks⟩ := SpanFields.ofNanos_lt nanos
  simp only [spanText, String.toList_append, hcolon, List.append_assoc, List.cons_append,
    List.nil_append]
  exact .intro (dayPart_written (SpanFields.ofNanos nanos).days)
    (numeral_padded 2 _) (htwo (Nat.lt_trans hhours (by decide))) hhours
    (numeral_padded 2 _) (htwo hminutes) hminutes
    (numeral_padded 2 _) (htwo hseconds) hseconds (tickPart_written hticks)

/-- The fields of a span make up all of it that is a multiple of 100 nanoseconds. -/
theorem SpanFields.nanos_ofNanos (nanos : Int) :
    ((SpanFields.ofNanos nanos).nanos : Int) = max nanos 0 - max nanos 0 % 100 := by
  have hmax : max nanos 0 = (nanos.toNat : Int) := by omega
  rw [hmax]
  simp only [SpanFields.nanos, SpanFields.ofNanos, nanosPerSecond]
  omega

/--
A span is written in the form `[d.]hh:mm:ss[.fffffff]`, and what is read from that text is the span,
or nothing when it is negative, rounded down to a multiple of 100 nanoseconds.
-/
theorem spanText_exact (nanos : Int) :
    ∃ f : SpanFields, SpanForm f (spanText nanos).toList ∧
      readSpan.run (spanText nanos).toList = some (f, []) ∧
      (f.nanos : Int) = max nanos 0 - max nanos 0 % 100 :=
  have hform := spanForm_spanText nanos
  ⟨SpanFields.ofNanos nanos, hform, hform.run_readSpan, SpanFields.nanos_ofNanos nanos⟩

example : readSpan.run (spanText 183600000000150).toList = some (⟨2, 3, 0, 0, 1⟩, []) := by
  decide +kernel

end Time
end FaultRelay
