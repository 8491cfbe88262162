import FaultRelay.Time.Calendar

/-!
# Instants

An instant is a second since the epoch and the nanoseconds within it; a leap second is
written as the nanoseconds from 10⁹ on of the last second of its minute.

Two written forms are given: the wire form of message headers,
`yyyy-MM-dd HH:mm:ss:ffffff Z`, and the form of JSON documents, with a `T` between date
and time and the fewest of 0, 3, 6 or 9 decimals that say it exactly.
-/

namespace FaultRelay
namespace Time

/-- A point in time, to the nanosecond. -/
structure Instant where
  seconds : Int
  nanos : Nat
  deriving DecidableEq, Repr

def nanosPerSecond : Nat := 1000000000

/-- A number in decimal, with zeros in front up to a width. -/
def padded (width n : Nat) : String :=
  let digits := toString n
  String.ofList (List.replicate (width - digits.length) '0') ++ digits

/-- A year: four digits, and outside 0 to 9999 a sign before them. -/
def yearText (year : Int) : String :=
  if 0 ≤ year ∧ year ≤ 9999 then padded 4 year.toNat
  else (if year < 0 then "-" else "+") ++ padded 4 year.natAbs

namespace Instant

/-- The day of an instant. -/
def date (t : Instant) : Date :=
  Date.ofDayNumber (t.seconds.fdiv 86400)

/-- The second of the day, a leap second counted as the one before it. -/
def secondOfDay (t : Instant) : Nat :=
  (t.seconds.fmod 86400).toNat

/-- The second of the minute; 60 for a leap second. -/
def secondOfMinute (t : Instant) : Nat :=
  t.secondOfDay % 60 + t.nanos / nanosPerSecond

/-- The date in the form `yyyy-MM-dd`. -/
def dateText (t : Instant) : String :=
  let d := t.date
  yearText d.year ++ "-" ++ padded 2 d.month ++ "-" ++ padded 2 d.day

/-- The time of day in the form `HH:mm:ss`. -/
def timeText (t : Instant) : String :=
  padded 2 (t.secondOfDay / 3600) ++ ":" ++ padded 2 (t.secondOfDay / 60 % 60) ++ ":"
    ++ padded 2 t.secondOfMinute

/-- The wire form, down to the microsecond. -/
def toWire (t : Instant) : String :=
  t.dateText ++ " " ++ t.timeText ++ ":" ++ padded 6 (t.nanos % nanosPerSecond / 1000) ++ " Z"

/-- The decimals of the second, in groups of three as far as they are needed. -/
def decimalsText (nanos : Nat) : String :=
  if nanos = 0 then ""
  else if nanos % 1000000 = 0 then "." ++ padded 3 (nanos / 1000000)
  else if nanos % 1000 = 0 then "." ++ padded 6 (nanos / 1000)
  else "." ++ padded 9 nanos

/-- The form of JSON documents. -/
def toDocument (t : Instant) : String :=
  t.dateText ++ "T" ++ t.timeText ++ decimalsText (t.nanos % nanosPerSecond) ++ "Z"

/-- An instant at a date and a time of day, `nanos` within the second. -/
def ofDate (d : Date) (hour minute second nanos : Nat) : Instant :=
  let leap := second = 60
  ⟨d.dayNumber * 86400 + (hour * 3600 + minute * 60 + (if leap then 59 else second) : Nat),
    if leap then nanos + nanosPerSecond else nanos⟩

/--
The nanoseconds from one instant to another.  A leap second counts when a later time
of day is reached from within it.
-/
def since (t from_ : Instant) : Int :=
  let days := t.seconds.fdiv 86400 - from_.seconds.fdiv 86400
  let seconds := (t.secondOfDay : Int) - from_.secondOfDay
  let leap : Int :=
    if from_.secondOfDay < t.secondOfDay ∧ nanosPerSecond ≤ from_.nanos then 1
    else if t.secondOfDay < from_.secondOfDay ∧ nanosPerSecond ≤ t.nanos then -1
    else 0
  (days * 86400 + seconds + leap) * nanosPerSecond + ((t.nanos : Int) - from_.nanos)

end Instant

end Time
end FaultRelay
