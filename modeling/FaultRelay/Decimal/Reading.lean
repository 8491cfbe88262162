/-!
# Reading numbers

Whole numbers have an optional sign and digits.  Floating point numbers have decimals
and an exponent as well, and may be infinite or no number.
-/

namespace FaultRelay
namespace Decimal

/-- The number that a run of digits stands for. -/
def digitsValue (cs : List Char) : Nat :=
  cs.foldl (fun n c => n * 10 + (c.toNat - 48)) 0

/-- The sign in front of a text: whether it is a minus, and the rest. -/
def splitSign : List Char → Bool × List Char
  | '-' :: rest => (true, rest)
  | '+' :: rest => (false, rest)
  | cs => (false, cs)

/-- A whole number within bounds; a number that cannot be negative takes no minus. -/
def int? (low high : Int) (text : String) : Option Int :=
  let (negative, digits) := splitSign text.toList
  let n := digitsValue digits
  let value : Int := if negative then -(n : Int) else n
  if digits.isEmpty || !digits.all Char.isDigit || (negative && low == 0) then none
  else if low ≤ value ∧ value ≤ high then some value
  else none

/-- A number of digits and a power of ten as a floating point number. -/
def toFloat (digits : List Char) (exponent : Int) : Float :=
  let n := digitsValue digits
  let size := ((toString n).length : Int) + exponent
  if n = 0 ∨ size < -400 then 0
  else if size > 400 then 1 / 0
  else if 0 ≤ exponent then Float.ofScientific n false exponent.toNat
  else Float.ofScientific n true (-exponent).toNat

/-- The exponent of a floating point number; zero when nothing is written. -/
def exponent? : List Char → Option Int
  | [] => some 0
  | c :: rest =>
      let (negative, digits) := splitSign rest
      if (c = 'e' ∨ c = 'E') ∧ !digits.isEmpty ∧ digits.all Char.isDigit then
        let n : Int := digitsValue digits
        some (if negative then -n else n)
      else none

/-- A floating point number without its sign. -/
def magnitude? (cs : List Char) : Option Float :=
  match (String.ofList (cs.map Char.toLower)) with
  | "inf" | "infinity" => some (1 / 0)
  | "nan" => some (0 / 0)
  | _ =>
      let whole := cs.takeWhile Char.isDigit
      let rest := cs.drop whole.length
      let (decimals, rest) := match rest with
        | '.' :: rest => (rest.takeWhile Char.isDigit, rest.dropWhile Char.isDigit)
        | _ => ([], rest)
      if whole.isEmpty && decimals.isEmpty then none
      else (exponent? rest).map fun e => toFloat (whole ++ decimals) (e - decimals.length)

/-- A floating point number. -/
def float? (text : String) : Option Float :=
  let (negative, cs) := splitSign text.toList
  (magnitude? cs).map fun x => if negative then -x else x

end Decimal
end FaultRelay
