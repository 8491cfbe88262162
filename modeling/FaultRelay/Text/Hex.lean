/-!
# Hexadecimal digits

Octets as pairs of digits, and digits as numbers.
-/

namespace FaultRelay
namespace Text
namespace Hex

/-- The digit of a number below sixteen, in lower case. -/
def digit (n : Nat) : Char :=
  if n < 10 then Char.ofNat (48 + n) else Char.ofNat (87 + n)

/-- The number of a digit, in either case. -/
def value? (c : Char) : Option Nat :=
  if '0' ≤ c ∧ c ≤ '9' then some (c.toNat - 48)
  else if 'a' ≤ c ∧ c ≤ 'f' then some (c.toNat - 87)
  else if 'A' ≤ c ∧ c ≤ 'F' then some (c.toNat - 55)
  else none

/-- An octet as two digits, the high one first. -/
def ofOctet (b : UInt8) : List Char :=
  [digit (b.toNat / 16), digit (b.toNat % 16)]

/-- Octets as pairs of digits. -/
def encode (octets : List UInt8) : String :=
  String.ofList (octets.flatMap ofOctet)

/-- The octets that pairs of digits stand for. -/
def decodeChars? : List Char → Option (List UInt8)
  | [] => some []
  | [_] => none
  | a :: b :: rest => do
      let high ← value? a
      let low ← value? b
      return UInt8.ofNat (high * 16 + low) :: (← decodeChars? rest)

/-- The octets that pairs of digits stand for. -/
def decode? (s : String) : Option (List UInt8) :=
  decodeChars? s.toList

/-- A number in a fixed count of digits. -/
def padded : Nat → Nat → List Char
  | 0, _ => []
  | width + 1, n => padded width (n / 16) ++ [digit (n % 16)]

end Hex
end Text
end FaultRelay
