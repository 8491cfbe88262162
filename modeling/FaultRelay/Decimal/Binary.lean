/-!
# Binary floating point numbers as exact numbers

A finite number is a sign, a whole number and a power of two.
-/

namespace FaultRelay
namespace Decimal

/-- What a floating point number stands for. -/
inductive Binary where
  | nan
  | infinite (negative : Bool)
  | finite (negative : Bool) (mantissa : Nat) (exponent : Int)
  deriving DecidableEq, Repr

/-- What the leading bit of a mantissa stands for; the bits below it are fifty-two. -/
def Binary.unit : Nat := Nat.pow 2 52

/-- The exact number that a floating point number stands for. -/
def Binary.ofFloat (x : Float) : Binary :=
  let bits := x.toBits.toNat
  let negative := bits / Nat.pow 2 63 == 1
  let exponent : Nat := bits / unit % Nat.pow 2 11
  let fraction : Nat := bits % unit
  if exponent = 2047 then if fraction = 0 then .infinite negative else .nan
  else if exponent = 0 then .finite negative fraction (-1074)
  else .finite negative (fraction + unit) ((exponent : Int) - 1075)

/-- A quotient rounded to the nearest whole number, a half to the even one. -/
def roundHalfEven (num den : Nat) : Nat :=
  let q := num / den
  let r := num % den
  if 2 * r < den then q
  else if 2 * r > den then q + 1
  else q + q % 2

/-- A quotient rounded to the nearest whole number, a half up. -/
def roundHalfUp (num den : Nat) : Nat :=
  (2 * num + den) / (2 * den)

/-- A whole number times a power of two as a quotient. -/
def scaled (mantissa : Nat) (exponent : Int) : Nat × Nat :=
  if 0 ≤ exponent then (mantissa * Nat.pow 2 exponent.toNat, 1)
  else (mantissa, Nat.pow 2 (-exponent).toNat)

/--
The nanoseconds of a number of seconds, to the nearest one; none for a negative number,
for no number, and from 2⁶⁴ seconds on.
-/
def nanosOfSeconds? (x : Float) : Option Nat :=
  match Binary.ofFloat x with
  | .finite negative mantissa exponent =>
      let (num, den) := scaled mantissa exponent
      if negative && mantissa != 0 then none
      else if num ≥ Nat.pow 2 64 * den then none
      else some (roundHalfEven (num * 1000000000) den)
  | _ => none

/-- The nearest whole number, a half away from zero, brought within bounds; zero for no number. -/
def roundToInt (low high : Int) (x : Float) : Int :=
  match Binary.ofFloat x with
  | .nan => 0
  | .infinite negative => if negative then low else high
  | .finite negative mantissa exponent =>
      let (num, den) := scaled mantissa exponent
      let n : Int := roundHalfUp num den
      max low (min high (if negative then -n else n))

end Decimal
end FaultRelay
