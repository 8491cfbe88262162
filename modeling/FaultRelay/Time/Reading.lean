import FaultRelay.Text.Blank
import FaultRelay.Time.Instant

/-!
# Reading instants

Four forms are accepted, after blanks at both ends are cut off:

- the strict form of internet timestamps, with fixed widths and an offset;
- the wire form of message headers;
- date and time with a `T` or with blanks between them and no offset, taken as UTC.

In the last three a field may be shorter than its width and may have blanks in front.
-/

namespace FaultRelay
namespace Time

open Text

/-- A reader takes characters from the front of a text, or refuses it. -/
abbrev Reader := StateT (List Char) Option

namespace Reader

/-- The number that a run of digits stands for. -/
def digitsValue (digits : List Char) : Nat :=
  digits.foldl (fun n c => n * 10 + (c.toNat - 48)) 0

/-- At least `least` and at most `most` digits, as they are written. -/
def digits (least most : Nat) : Reader (List Char) := fun cs =>
  let run := (cs.take most).takeWhile Char.isDigit
  if least ≤ run.length then some (run, cs.drop run.length) else none

/-- A number of at least `least` and at most `most` digits. -/
def number (least most : Nat) : Reader Nat :=
  return digitsValue (← digits least most)

/-- All digits that come next; at least one. -/
def longNumber : Reader Nat := fun cs =>
  let run := cs.takeWhile Char.isDigit
  if run.isEmpty then none else some (digitsValue run, cs.drop run.length)

/-- One character that meets a condition. -/
def char (accepts : Char → Bool) : Reader Unit
  | c :: rest => if accepts c then some ((), rest) else none
  | [] => none

/-- Any number of blanks. -/
def blanks : Reader Unit := fun cs =>
  some ((), trimLeft cs)

/-- The end of the text. -/
def finish : Reader Unit
  | [] => some ((), [])
  | _ :: _ => none

/-- Decimals of a second as nanoseconds; what follows the ninth is skipped. -/
def decimals : Reader Nat := do
  let run ← digits 1 9
  let rest ← get
  set (rest.dropWhile Char.isDigit)
  return digitsValue run * Nat.pow 10 (9 - run.length)

/-- Decimals after a point, when there is a point. -/
def optionalDecimals : Reader Nat := do
  match ← get with
  | '.' :: rest => do
      set rest
      decimals
  | _ => return 0

end Reader

open Reader

/-- Date and time of day as fields. -/
structure Fields where
  date : Date
  hour : Nat
  minute : Nat
  second : Nat
  nanos : Nat

/-- The instant that fields give in UTC, when they are in range. -/
def Fields.instant? (f : Fields) : Option Instant :=
  if f.date.valid && f.hour ≤ 23 && f.minute ≤ 59 && f.second ≤ 60 then
    some (Instant.ofDate f.date f.hour f.minute f.second f.nanos)
  else none

/-- Two digits, that many minutes or hours. -/
def twoDigits : Reader Nat := number 2 2

/-- An offset from UTC in seconds: `Z`, or a sign, hours, a colon and minutes. -/
def offset : Reader Int := do
  match ← get with
  | c :: rest =>
      set rest
      if c = 'Z' ∨ c = 'z' then return 0
      let sign ←
        (if c = '+' then some 1 else if c = '-' ∨ c = '−' then some (-1) else none : Option Int)
      let hours ← twoDigits
      char (· == ':')
      let minutes ← twoDigits
      if hours ≤ 23 ∧ minutes ≤ 59 then return sign * (hours * 3600 + minutes * 60 : Nat)
      else failure
  | [] => failure

/-- The strict form. -/
def strict : Reader Instant := do
  let year ← number 4 4
  char (· == '-')
  let month ← twoDigits
  char (· == '-')
  let day ← twoDigits
  char fun c => c == 'T' || c == 't' || c == ' '
  let hour ← twoDigits
  char (· == ':')
  let minute ← twoDigits
  char (· == ':')
  let second ← twoDigits
  let nanos ← optionalDecimals
  let shift ← offset
  finish
  let local_ ← (Fields.instant? ⟨⟨year, month, day⟩, hour, minute, second, nanos⟩ : Option Instant)
  return ⟨local_.seconds - shift, local_.nanos⟩

/-- A number of at most two digits, blanks before it. -/
def shortField : Reader Nat := do
  blanks
  number 1 2

/-- A year: at most four digits, or a sign and any number of them; blanks before it. -/
def yearField : Reader Int := do
  blanks
  match ← get with
  | '-' :: rest => do
      set rest
      return -(← longNumber)
  | '+' :: rest => do
      set rest
      longNumber
  | _ => number 1 4

/-- A date, what stands between date and time, a time to the second, and its decimals. -/
def loose (between : Reader Unit) (tail : Reader Nat) : Reader Instant := do
  let year ← yearField
  char (· == '-')
  let month ← shortField
  char (· == '-')
  let day ← shortField
  between
  let hour ← shortField
  char (· == ':')
  let minute ← shortField
  char (· == ':')
  let second ← shortField
  let nanos ← tail
  finish
  (Fields.instant? ⟨⟨year, month, day⟩, hour, minute, second, nanos⟩ : Option Instant)

/-- A colon, six decimals, blanks and `Z`. -/
def wireTail : Reader Nat := do
  char (· == ':')
  let micros ← number 6 6
  blanks
  char (· == 'Z')
  return micros * 1000

/-- The instant that a text gives in one of the accepted forms. -/
def Instant.parse? (text : String) : Option Instant :=
  let cs := trimChars text.toList
  [strict, loose blanks wireTail, loose (char (· == 'T')) optionalDecimals,
    loose blanks optionalDecimals].findSome? fun form => (form.run cs).map (·.1)

end Time
end FaultRelay
