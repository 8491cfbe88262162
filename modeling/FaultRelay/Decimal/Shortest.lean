import FaultRelay.Decimal.Binary

/-!
# The shortest decimal form of a floating point number

Among the decimals that read back as a number those with the fewest digits are taken,
and of these the nearest.  They are written in full, without an exponent, and with a
point only where decimals follow it.
-/

namespace FaultRelay
namespace Decimal

/-- A decimal: digits and the power of ten of the last one. -/
structure Digits where
  value : Nat
  exponent : Int
  deriving DecidableEq, Repr

/--
Numbers as quotients over one denominator: a number, and the ends of the interval of
numbers that are rounded to it, which belong to it when `closed`.
-/
structure Interval where
  low : Nat
  value : Nat
  high : Nat
  den : Nat
  closed : Bool

/-- The interval of a positive number. -/
def Interval.of (mantissa : Nat) (exponent : Int) : Interval :=
  let narrow := mantissa = Binary.unit ∧ exponent > -1074
  let (one, den) := scaled 1 (exponent - 2)
  ⟨(4 * mantissa - if narrow then 1 else 2) * one, 4 * mantissa * one, (4 * mantissa + 2) * one,
    den, mantissa % 2 == 0⟩

/-- The interval with its numbers in units of a power of ten. -/
def Interval.inUnits (i : Interval) (exponent : Int) : Interval :=
  if 0 ≤ exponent then { i with den := i.den * Nat.pow 10 exponent.toNat }
  else
    let k := Nat.pow 10 (-exponent).toNat
    { i with low := i.low * k, value := i.value * k, high := i.high * k }

/-- Whether a whole number lies in an interval. -/
def Interval.holds (i : Interval) (n : Nat) : Bool :=
  let x := n * i.den
  if i.closed then i.low ≤ x && x ≤ i.high else i.low < x && x < i.high

/-- The nearer of the two whole numbers beside the value that lie in the interval. -/
def Interval.nearest? (i : Interval) : Option Nat :=
  let n := i.value / i.den
  match i.holds n, i.holds (n + 1) with
  | true, true =>
      let below := i.value - n * i.den
      let above := (n + 1) * i.den - i.value
      some (if below < above then n else if above < below then n + 1 else n + n % 2)
  | true, false => some n
  | false, true => some (n + 1)
  | false, false => none

/-- The number of decimal digits before the point of a quotient, or minus the zeros behind it. -/
def magnitude (num den : Nat) : Int :=
  if den ≤ num then ((toString (num / den)).length : Int)
  else
    let k := (toString (den / num)).length
    if den ≤ num * Nat.pow 10 (k - 1) then 2 - (k : Int) else 1 - (k : Int)

/-- The shortest digits, tried from a power of ten downwards. -/
def Interval.search (i : Interval) : Nat → Int → Digits
  | 0, exponent => ⟨(i.inUnits exponent).value / (i.inUnits exponent).den, exponent⟩
  | fuel + 1, exponent =>
      match (i.inUnits exponent).nearest? with
      | some n => if n = 0 then i.search fuel (exponent - 1) else ⟨n, exponent⟩
      | none => i.search fuel (exponent - 1)

/-- The shortest digits of a positive number. -/
def shortest (mantissa : Nat) (exponent : Int) : Digits :=
  let (num, den) := scaled mantissa exponent
  (Interval.of mantissa exponent).search 20 (magnitude num den)

/-- A decimal written in full. -/
def Digits.plain (d : Digits) : String :=
  let digits := (toString d.value).toList
  if 0 ≤ d.exponent then String.ofList (digits ++ List.replicate d.exponent.toNat '0')
  else
    let places := (-d.exponent).toNat
    let full := List.replicate (places + 1 - digits.length) '0' ++ digits
    let whole := full.take (full.length - places)
    let decimals := ((full.drop whole.length).reverse.dropWhile (· == '0')).reverse
    String.ofList (if decimals.isEmpty then whole else whole ++ '.' :: decimals)

/-- A floating point number as text. -/
def floatText (x : Float) : String :=
  match Binary.ofFloat x with
  | .nan => "NaN"
  | .infinite negative => if negative then "-inf" else "inf"
  | .finite negative mantissa exponent =>
      let sign := if negative then "-" else ""
      if mantissa = 0 then sign ++ "0" else sign ++ (shortest mantissa exponent).plain

end Decimal
end FaultRelay
