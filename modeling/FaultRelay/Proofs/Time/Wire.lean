import FaultRelay.Proofs.Time.Calendar
import FaultRelay.Proofs.Time.Digits
import FaultRelay.Proofs.Time.Extent
import Mathlib.Data.List.DropRight

/-!
# The wire form of instants

**Rules.**
* `Agree x y`: where two readers both accept a text, they read the same and leave the same.

**Results.**
* `refused_of_wire`: a text in the wire form is in none of the other forms.
* `Instant.parse?_toWire`: an instant is read from its wire form as it was, to the microsecond.
-/

namespace FaultRelay
namespace Time

open Text Reader

/-! ### The forms, part by part -/

/-- The reader of the wire form. -/
def wireForm : Reader Instant :=
  loose blanks wireTail

/-- The readers of the other forms that are accepted. -/
def otherForms : List (Reader Instant) :=
  [strict, loose (char (· == 'T')) optionalDecimals, loose blanks optionalDecimals]

/-- Date and time of day to the second, where fields may be short. -/
def lead (between : Reader Unit) : Reader Fields := do
  let year ← yearField
  char (· == '-')
  let month ← shortField
  char (· == '-')
  let day ← shortField
  let hour ← (do between; shortField)
  char (· == ':')
  let minute ← shortField
  char (· == ':')
  let second ← shortField
  return ⟨⟨year, month, day⟩, hour, minute, second, 0⟩

/-- Date and time of day to the second, where fields have fixed widths. -/
def strictLead : Reader Fields := do
  let year ← (do return ((← number 4 4 : Nat) : Int))
  char (· == '-')
  let month ← twoDigits
  char (· == '-')
  let day ← twoDigits
  let hour ← (do char fun c => c == 'T' || c == 't' || c == ' '; twoDigits)
  char (· == ':')
  let minute ← twoDigits
  char (· == ':')
  let second ← twoDigits
  return ⟨⟨year, month, day⟩, hour, minute, second, 0⟩

theorem loose_eq (between : Reader Unit) (tail : Reader Nat) :
    loose between tail = (do
      let fields ← lead between
      let nanos ← tail
      finish
      (Fields.instant? { fields with nanos } : Option Instant)) := by
  simp only [loose, lead, bind_assoc, pure_bind]

theorem strict_eq :
    strict = (do
      let fields ← strictLead
      let nanos ← optionalDecimals
      let shift ← offset
      finish
      let t ← (Fields.instant? { fields with nanos } : Option Instant)
      return ⟨t.seconds - shift, t.nanos⟩) := by
  simp only [strict, strictLead, bind_assoc, pure_bind]

/-! ### Readers that agree -/

/-- Where both readers accept a text, they read the same and leave the same of it. -/
def Agree {α : Type} (x y : Reader α) : Prop :=
  ∀ (cs : List Char) (p q : α × List Char), x.run cs = some p → y.run cs = some q → p = q

theorem Agree.refl {α : Type} (x : Reader α) : Agree x x :=
  fun _ _ _ hp hq => Option.some.inj (hp.symm.trans hq)

theorem Agree.bind
    {α β : Type} {x y : Reader α} {f g : α → Reader β} (h : Agree x y)
    (hf : ∀ a : α, Agree (f a) (g a)) : Agree (x >>= f) (y >>= g) := by
  intro cs p q hp hq
  obtain ⟨a, rest, hx, hfa⟩ := run_bind_eq_some_iff.mp hp
  obtain ⟨b, rest', hy, hgb⟩ := run_bind_eq_some_iff.mp hq
  obtain ⟨rfl, rfl⟩ := Prod.mk.inj (h cs _ _ hx hy)
  exact hf a rest p q hfa hgb

section Fields

variable {least most : Nat} {cs : List Char}

/-- A field of two digits is read where it may be shorter. -/
theorem run_shortField_of_twoDigits
    {p : Nat × List Char} (h : twoDigits.run cs = some p) : shortField.run cs = some p := by
  obtain ⟨c, rest, hc, rfl⟩ := exists_digit_of_number (by decide) h
  rw [shortField, run_bind_of (run_blanks_of_isDigit hc rest)]
  exact run_number_of_le (by decide) h

theorem agree_twoDigits : Agree twoDigits shortField := by
  intro cs p q hp hq
  exact Option.some.inj ((run_shortField_of_twoDigits hp).symm.trans hq)

/-- Without a sign, a year has at most four digits. -/
theorem run_yearField_of_isDigit {c : Char} (hc : c.isDigit = true) (rest : List Char) :
    yearField.run (c :: rest) =
      StateT.run (do return ((← number 1 4 : Nat) : Int)) (c :: rest) := by
  have hminus : c ≠ '-' := by
    rintro rfl
    cases hc
  have hplus : c ≠ '+' := by
    rintro rfl
    cases hc
  rw [yearField, run_bind_of (run_blanks_of_isDigit hc rest),
    run_bind_of (rfl : (get : Reader (List Char)).run (c :: rest) = some (c :: rest, c :: rest))]
  split
  · next heq => exact absurd (List.cons.inj heq).1 hminus
  · next heq => exact absurd (List.cons.inj heq).1 hplus
  · rfl

theorem agree_year : Agree (do return ((← number 4 4 : Nat) : Int)) yearField := by
  intro cs p q hp hq
  obtain ⟨n, rest, hn, hvalue⟩ := run_bind_eq_some_iff.mp hp
  obtain ⟨c, more, hc, rfl⟩ := exists_digit_of_number (by decide) hn
  rw [run_yearField_of_isDigit hc, run_bind_of (run_number_of_le (by decide) hn)] at hq
  exact Option.some.inj (hvalue.symm.trans hq)

/-- After blanks there is a field only where a digit comes next. -/
theorem exists_digit_of_blanks
    {p : Nat × List Char} (h : (do blanks; shortField : Reader Nat).run cs = some p) :
    ∃ (c : Char) (rest : List Char), c.isDigit = true ∧ trimLeft cs = c :: rest := by
  rw [run_bind_of (rfl : blanks.run cs = some ((), trimLeft cs)), shortField,
    run_bind_of (rfl : blanks.run (trimLeft cs) = some ((), trimLeft (trimLeft cs)))] at h
  obtain ⟨c, rest, hc, htrim⟩ := exists_digit_of_number (by decide) h
  have hidem : trimLeft (trimLeft cs) = trimLeft cs := List.dropWhile_idempotent isBlank cs
  exact ⟨c, rest, hc, hidem.symm.trans htrim⟩

/-- A letter between date and time is no blank. -/
theorem not_blanks_of_letter
    {c : Char} (hc : c = 'T' ∨ c = 't') (rest : List Char) (p : Nat × List Char) :
    (do blanks; shortField : Reader Nat).run (c :: rest) ≠ some p := by
  intro h
  obtain ⟨d, more, hd, htrim⟩ := exists_digit_of_blanks h
  obtain rfl | rfl := hc
  · cases htrim
    cases hd
  · cases htrim
    cases hd

theorem agree_letter_hour : Agree (do char (· == 'T'); shortField) (do blanks; shortField) := by
  intro cs p q hp hq
  obtain ⟨⟨⟩, rest, hchar, -⟩ := run_bind_eq_some_iff.mp hp
  obtain ⟨c, rfl, hc⟩ := exists_of_run_char hchar
  exact absurd hq (not_blanks_of_letter (Or.inl (by simpa using hc)) rest q)

theorem agree_strict_hour :
    Agree (do char fun c => c == 'T' || c == 't' || c == ' '; twoDigits)
      (do blanks; shortField) := by
  intro cs p q hp hq
  obtain ⟨⟨⟩, rest, hchar, hhour⟩ := run_bind_eq_some_iff.mp hp
  obtain ⟨c, rfl, hc⟩ := exists_of_run_char hchar
  simp only [Bool.or_eq_true, beq_iff_eq] at hc
  obtain hletter | rfl := hc
  · exact absurd hq (not_blanks_of_letter hletter rest q)
  · -- the blank is skipped, and a digit comes next
    obtain ⟨d, more, hd, rfl⟩ := exists_digit_of_number (by decide) hhour
    rw [run_bind_of (run_blanks_of_blank hd more), run_shortField_of_twoDigits hhour] at hq
    exact Option.some.inj hq

end Fields

/-! ### The wire form and the others -/

/-- Fields of fixed widths are read as fields that may be short. -/
theorem agree_strictLead : Agree strictLead (lead blanks) :=
  agree_year.bind fun _ => (Agree.refl _).bind fun _ => agree_twoDigits.bind fun _ =>
    (Agree.refl _).bind fun _ => agree_twoDigits.bind fun _ => agree_strict_hour.bind fun _ =>
      (Agree.refl _).bind fun _ => agree_twoDigits.bind fun _ => (Agree.refl _).bind fun _ =>
        agree_twoDigits.bind fun _ => Agree.refl _

theorem agree_letterLead : Agree (lead (char (· == 'T'))) (lead blanks) :=
  (Agree.refl _).bind fun _ => (Agree.refl _).bind fun _ => (Agree.refl _).bind fun _ =>
    (Agree.refl _).bind fun _ => (Agree.refl _).bind fun _ => agree_letter_hour.bind fun _ =>
      Agree.refl _

/-- A colon comes after the time of day of a wire form, and no decimals. -/
theorem exists_colon_of_wire {cs : List Char} {p : Instant × List Char}
    (h : wireForm.run cs = some p) :
    ∃ (fields : Fields) (rest : List Char), (lead blanks).run cs = some (fields, ':' :: rest) := by
  rw [wireForm, loose_eq] at h
  obtain ⟨fields, rest, hlead, htail⟩ := run_bind_eq_some_iff.mp h
  obtain ⟨nanos, rest', htail, -⟩ := run_bind_eq_some_iff.mp htail
  obtain ⟨⟨⟩, more, hcolon, -⟩ := run_bind_eq_some_iff.mp htail
  obtain ⟨c, rfl, hc⟩ := exists_of_run_char hcolon
  obtain rfl : c = ':' := by simpa using hc
  exact ⟨fields, more, hlead⟩

section Others

variable {cs rest : List Char}

theorem run_optionalDecimals_colon (rest : List Char) :
    optionalDecimals.run (':' :: rest) = some (0, ':' :: rest) := rfl

/-- Where a colon comes after the time of day, no other form accepts a text. -/
theorem loose_optionalDecimals_of_colon
    {between : Reader Unit} (hagree : Agree (lead between) (lead blanks)) {fields : Fields}
    (hlead : (lead blanks).run cs = some (fields, ':' :: rest)) :
    (loose between optionalDecimals).run cs = none := by
  rw [Option.eq_none_iff_forall_ne_some]
  intro p hp
  rw [loose_eq] at hp
  obtain ⟨fields', rest', hlead', htail⟩ := run_bind_eq_some_iff.mp hp
  obtain ⟨rfl, rfl⟩ := Prod.mk.inj (hagree cs _ _ hlead' hlead)
  rw [run_bind_of (run_optionalDecimals_colon rest)] at htail
  cases htail

theorem strict_of_colon
    {fields : Fields} (hlead : (lead blanks).run cs = some (fields, ':' :: rest)) :
    strict.run cs = none := by
  rw [Option.eq_none_iff_forall_ne_some]
  intro p hp
  rw [strict_eq] at hp
  obtain ⟨fields', rest', hlead', htail⟩ := run_bind_eq_some_iff.mp hp
  obtain ⟨rfl, rfl⟩ := Prod.mk.inj (agree_strictLead cs _ _ hlead' hlead)
  rw [run_bind_of (run_optionalDecimals_colon rest)] at htail
  cases htail

end Others

/-- A text in the wire form is in none of the other forms. -/
theorem refused_of_wire
    {cs : List Char} (h : (wireForm.run cs).isSome = true) {other : Reader Instant}
    (hother : other ∈ otherForms) : other.run cs = none := by
  obtain ⟨p, hp⟩ := Option.isSome_iff_exists.mp h
  obtain ⟨fields, rest, hlead⟩ := exists_colon_of_wire hp
  simp only [otherForms, List.mem_cons, List.not_mem_nil, or_false] at hother
  rcases hother with rfl | rfl | rfl
  · exact strict_of_colon hlead
  · exact loose_optionalDecimals_of_colon agree_letterLead hlead
  · exact loose_optionalDecimals_of_colon (Agree.refl _) hlead

/-! ### What is written in the wire form -/

section Written

theorem run_shortField_padded {n : Nat} (h : n < 100) (rest : List Char) :
    shortField.run ((padded 2 n).toList ++ rest) = some (n, rest) := by
  obtain ⟨c, more, hc, htext⟩ := exists_isDigit_padded 2 n rest
  rw [shortField, htext, run_bind_of (run_blanks_of_isDigit hc more), ← htext]
  exact run_number_padded (by decide) h (by decide) rest

/-- The blank before a field is skipped. -/
theorem run_blanks_shortField_padded {n : Nat} (h : n < 100) (rest : List Char) :
    (do blanks; shortField : Reader Nat).run (' ' :: ((padded 2 n).toList ++ rest)) =
      some (n, rest) := by
  have hfield := run_shortField_padded h rest
  obtain ⟨c, more, hc, htext⟩ := exists_isDigit_padded 2 n rest
  rw [htext] at hfield ⊢
  rw [run_bind_of (run_blanks_of_blank hc more), hfield]

/-- A sign is followed by any number of digits. -/
theorem run_longNumber_padded {n : Nat} {rest : List Char} (hrest : NoDigitNext rest) :
    longNumber.run ((padded 4 n).toList ++ rest) = some (n, rest) := by
  rw [run_longNumber (fun c hc => isDigit_of_mem_padded hc) (padded_ne_nil 4 n) hrest,
    digitsValue_padded]

theorem run_yearField_minus (rest : List Char) :
    yearField.run ('-' :: rest) = StateT.run (do return -((← longNumber : Nat) : Int)) rest := rfl

theorem run_yearField_plus (rest : List Char) :
    yearField.run ('+' :: rest) = StateT.run (do return ((← longNumber : Nat) : Int)) rest := rfl

theorem run_yearField_yearText (year : Int) {rest : List Char} (hrest : NoDigitNext rest) :
    yearField.run ((yearText year).toList ++ rest) = some (year, rest) := by
  have hread := run_longNumber_padded (n := year.natAbs) hrest
  unfold yearText
  split
  · next hshort =>
      have hyear : ((year.toNat : Nat) : Int) = year := by omega
      have hlt : year.toNat < 10000 := by omega
      obtain ⟨c, more, hc, htext⟩ := exists_isDigit_padded 4 year.toNat rest
      have hnumber : (number 1 4).run ((padded 4 year.toNat).toList ++ rest) =
          some (year.toNat, rest) :=
        run_number_padded (by decide) hlt (by decide) rest
      rw [htext] at hnumber
      rw [htext, run_yearField_of_isDigit hc, run_bind_of hnumber, hyear]
      rfl
  · split
    · have hyear : -(year.natAbs : Int) = year := by omega
      have hsign : "-".toList = ['-'] := rfl
      rw [String.toList_append, List.append_assoc, hsign, List.singleton_append,
        run_yearField_minus, run_bind_of hread, hyear]
      rfl
    · have hyear : (year.natAbs : Int) = year := by omega
      have hsign : "+".toList = ['+'] := rfl
      rw [String.toList_append, List.append_assoc, hsign, List.singleton_append,
        run_yearField_plus, run_bind_of hread, hyear]
      rfl

/-- A year begins with a digit or a sign. -/
theorem exists_isBlank_yearText (year : Int) :
    ∃ (c : Char) (more : List Char), isBlank c = false ∧ (yearText year).toList = c :: more := by
  unfold yearText
  split
  · obtain ⟨c, more, hc, htext⟩ := exists_isDigit_padded 4 year.toNat []
    rw [List.append_nil] at htext
    exact ⟨c, more, isBlank_of_isDigit hc, htext⟩
  · split
    · exact ⟨'-', _, rfl, String.toList_append⟩
    · exact ⟨'+', _, rfl, String.toList_append⟩

theorem run_wireTail {micros : Nat} (h : micros < 1000000) :
    wireTail.run (':' :: ((padded 6 micros).toList ++ [' ', 'Z'])) = some (micros * 1000, []) := by
  rw [wireTail, run_bind_of (run_char rfl _),
    run_bind_of (run_number_padded (by decide) h (by decide) _)]
  rfl

end Written

namespace Instant

variable {t : Instant}

/-- The instant without what is less than a microsecond. -/
def wholeMicros (t : Instant) : Instant :=
  { t with nanos := t.nanos / 1000 * 1000 }

/-- What is read of an instant from its date and its time of day. -/
def fields (t : Instant) (nanos : Nat) : Fields :=
  ⟨t.date, t.secondOfDay / 3600, t.secondOfDay / 60 % 60, t.secondOfMinute, nanos⟩

theorem toList_dateText_append (t : Instant) (rest : List Char) :
    t.dateText.toList ++ rest =
      (yearText t.date.year).toList ++ '-' :: ((padded 2 t.date.month).toList ++ '-' ::
        ((padded 2 t.date.day).toList ++ rest)) := by
  have hdash : "-".toList = ['-'] := rfl
  simp only [dateText, String.toList_append, hdash, List.append_assoc, List.cons_append,
    List.nil_append]

theorem toList_timeText_append (t : Instant) (rest : List Char) :
    t.timeText.toList ++ rest =
      (padded 2 (t.secondOfDay / 3600)).toList ++ ':' ::
        ((padded 2 (t.secondOfDay / 60 % 60)).toList ++ ':' ::
          ((padded 2 t.secondOfMinute).toList ++ rest)) := by
  have hcolon : ":".toList = [':'] := rfl
  simp only [timeText, String.toList_append, hcolon, List.append_assoc, List.cons_append,
    List.nil_append]

theorem toList_toWire (t : Instant) :
    t.toWire.toList =
      t.dateText.toList ++ ' ' :: (t.timeText.toList ++ ':' ::
        ((padded 6 (t.nanos % nanosPerSecond / 1000)).toList ++ [' ', 'Z'])) := by
  have hblank : " ".toList = [' '] := rfl
  have hcolon : ":".toList = [':'] := rfl
  have hend : " Z".toList = [' ', 'Z'] := rfl
  simp only [toWire, String.toList_append, hblank, hcolon, hend, List.append_assoc,
    List.cons_append, List.nil_append]

/-- Date and time of day are read as they are written. -/
theorem run_lead_written
    (hdate : t.date.valid = true) (hsecond : t.secondOfMinute ≤ 60) (rest : List Char) :
    (lead blanks).run (t.dateText.toList ++ ' ' :: (t.timeText.toList ++ rest)) =
      some (t.fields 0, rest) := by
  obtain ⟨hmonth, hday⟩ := Date.lt_of_valid hdate
  have hlt := t.secondOfDay_lt
  rw [toList_dateText_append, toList_timeText_append, lead,
    run_bind_of (run_yearField_yearText _ (noDigitNext_cons rfl _)), run_bind_of (run_char rfl _),
    run_bind_of (run_shortField_padded hmonth _), run_bind_of (run_char rfl _),
    run_bind_of (run_shortField_padded hday _),
    run_bind_of (run_blanks_shortField_padded (by omega) _), run_bind_of (run_char rfl _),
    run_bind_of (run_shortField_padded (by omega) _), run_bind_of (run_char rfl _),
    run_bind_of (run_shortField_padded (by omega) _)]
  rfl

/-- Instants with a leap second only in the last second of a minute. -/
structure OnClock (t : Instant) : Prop where
  representable : t.Representable
  leap_last : nanosPerSecond ≤ t.nanos → t.secondOfDay % 60 = 59

theorem OnClock.date_valid (h : t.OnClock) : t.date.valid = true :=
  Date.valid_ofDayNumber h.representable.year_mem

/-- A leap second is the sixtieth of its minute. -/
theorem OnClock.secondOfMinute_le (h : t.OnClock) : t.secondOfMinute ≤ 60 := by
  have hnanos := h.representable.nanos_lt
  have hmod := Nat.mod_lt t.secondOfDay (by decide : 60 > 0)
  by_cases hleap : nanosPerSecond ≤ t.nanos
  · have hlast := h.leap_last hleap
    simp only [secondOfMinute, nanosPerSecond] at *
    omega
  · simp only [secondOfMinute, nanosPerSecond] at *
    omega

/-- Fields that are in range give an instant. -/
theorem instant?_of_le
    {f : Fields} (hdate : f.date.valid = true) (hhour : f.hour ≤ 23) (hminute : f.minute ≤ 59)
    (hsecond : f.second ≤ 60) :
    f.instant? = some (ofDate f.date f.hour f.minute f.second f.nanos) := by
  simp [Fields.instant?, hdate, hhour, hminute, hsecond]

/-- The fields of an instant give it back. -/
theorem OnClock.instant?_fields (h : t.OnClock) :
    (t.fields (t.nanos % nanosPerSecond / 1000 * 1000)).instant? = some t.wholeMicros := by
  have hlt := t.secondOfDay_lt
  have hnanos := h.representable.nanos_lt
  have hdate : t.date.dayNumber = t.seconds.fdiv 86400 := Date.dayNumber_ofDayNumber _
  have hday : t.seconds = t.seconds.fdiv 86400 * 86400 + t.secondOfDay := by
    have hmod := Int.fmod_nonneg_of_pos t.seconds (by decide : (0 : Int) < 86400)
    have hsplit := Int.fmod_add_mul_fdiv t.seconds 86400
    rw [secondOfDay]
    omega
  have hrange := instant?_of_le (f := t.fields (t.nanos % nanosPerSecond / 1000 * 1000))
    h.date_valid (by simp only [fields]; omega) (by simp only [fields]; omega)
    h.secondOfMinute_le
  rw [hrange, Option.some.injEq]
  simp only [fields, ofDate, hdate, wholeMicros, Instant.mk.injEq]
  by_cases hleap : nanosPerSecond ≤ t.nanos
  · have hlast := h.leap_last hleap
    have hsixty : t.secondOfMinute = 60 := by
      simp only [secondOfMinute, nanosPerSecond] at hleap hnanos ⊢
      omega
    simp only [hsixty, if_true, nanosPerSecond] at hleap hnanos ⊢
    omega
  · have hsecond : t.secondOfMinute = t.secondOfDay % 60 := by
      simp only [secondOfMinute, nanosPerSecond] at hleap ⊢
      omega
    have hne : t.secondOfDay % 60 ≠ 60 := by omega
    simp only [hsecond, hne, if_false, nanosPerSecond] at hleap ⊢
    omega

/-- A wire form has no blanks at its ends. -/
theorem trimChars_toWire (t : Instant) : trimChars t.toWire.toList = t.toWire.toList := by
  obtain ⟨c, more, hc, hfirst⟩ := exists_isBlank_yearText t.date.year
  obtain ⟨before, hlast⟩ : ∃ before : List Char, t.toWire.toList = before ++ ['Z'] := by
    refine ⟨t.dateText.toList ++ ' ' :: (t.timeText.toList ++ ':' ::
      ((padded 6 (t.nanos % nanosPerSecond / 1000)).toList ++ [' '])), ?_⟩
    rw [toList_toWire]
    simp
  have hleft : trimLeft t.toWire.toList = t.toWire.toList := by
    refine trimLeft_of_head ?_
    rw [toList_toWire, toList_dateText_append, hfirst]
    intro x hx
    cases hx
    exact hc
  rw [trimChars, hleft, trimRight, hlast, List.reverse_concat,
    List.dropWhile_cons_of_neg (by decide), List.reverse_cons, List.reverse_reverse]

/-- An instant is read from its wire form by the reader of that form. -/
theorem OnClock.run_wire (h : t.OnClock) :
    wireForm.run t.toWire.toList = some (t.wholeMicros, []) := by
  have hmicros : t.nanos % nanosPerSecond / 1000 < 1000000 := by
    simp only [nanosPerSecond]
    omega
  rw [wireForm, loose_eq, toList_toWire,
    run_bind_of (run_lead_written h.date_valid h.secondOfMinute_le _),
    run_bind_of (run_wireTail hmicros), run_bind_of (rfl : finish.run [] = some ((), []))]
  change StateT.run (liftM (t.fields (t.nanos % nanosPerSecond / 1000 * 1000)).instant? :
    Reader Instant) [] = _
  rw [h.instant?_fields]
  rfl

/-- What is less than a microsecond is not written. -/
theorem toWire_wholeMicros (t : Instant) : t.wholeMicros.toWire = t.toWire := by
  have hwhole : t.nanos / 1000 * 1000 / nanosPerSecond = t.nanos / nanosPerSecond := by
    simp only [nanosPerSecond]
    omega
  have hmicros : t.nanos / 1000 * 1000 % nanosPerSecond / 1000 =
      t.nanos % nanosPerSecond / 1000 := by
    simp only [nanosPerSecond]
    omega
  simp only [toWire, dateText, timeText, date, secondOfDay, secondOfMinute, wholeMicros, hwhole,
    hmicros]

/--
An instant is read from its wire form as it was, without what is less than a microsecond, so that
it is written again as the same text.  What is in the wire form is in no other form that is
accepted.
-/
theorem parse?_toWire (h : t.OnClock) :
    wireForm.run t.toWire.toList = some (t.wholeMicros, []) ∧
      parse? t.toWire = some t.wholeMicros ∧
      (parse? t.toWire).map toWire = some t.toWire ∧
      ∀ cs : List Char, (wireForm.run cs).isSome = true →
        ∀ other ∈ otherForms, other.run cs = none := by
  have hwire := h.run_wire
  have hstrict : strict.run t.toWire.toList = none :=
    refused_of_wire (by rw [hwire]; rfl) List.mem_cons_self
  have hparse : parse? t.toWire = some t.wholeMicros := by
    rw [wireForm] at hwire
    simp only [parse?, trimChars_toWire, List.findSome?, hstrict, hwire, Option.map_none,
      Option.map_some]
  refine ⟨hwire, hparse, ?_, fun cs hcs other hother => refused_of_wire hcs hother⟩
  rw [hparse, Option.map_some, toWire_wholeMicros]

/-- A leap second of a year before the year zero. -/
theorem parse?_toWire_leap :
    let t : Instant := ⟨-62293449601, 1234567891⟩
    t.OnClock ∧ t.toWire = "-0005-12-31 23:59:60:234567 Z" ∧
      parse? "-0005-12-31 23:59:60:234567 Z" = some ⟨-62293449601, 1234567000⟩ := by
  intro t
  have hclock : t.OnClock := ⟨⟨by decide +kernel, by decide⟩, fun _ => by decide⟩
  have htext : t.toWire = "-0005-12-31 23:59:60:234567 Z" := by decide +kernel
  have hwhole : t.wholeMicros = ⟨-62293449601, 1234567000⟩ := by decide
  have hparse := (parse?_toWire hclock).2.1
  rw [htext, hwhole] at hparse
  exact ⟨hclock, htext, hparse⟩

end Instant

end Time
end FaultRelay
