import FaultRelay.Text.Hex
import FaultRelay.Text.Utf8

/-!
# Percent coding

An octet may be written as `%` and two hexadecimal digits.  Every part of an address
has its own set of characters that are written so; characters outside ASCII always are.
-/

namespace FaultRelay
namespace Url

open Text

/-- A character that is neither control nor beyond ASCII. -/
def isPrintable (c : Char) : Bool :=
  0x20 ≤ c.toNat && c.toNat < 0x7F

/-- Characters written in code in a path without structure. -/
def inOpaque (c : Char) : Bool :=
  !isPrintable c

/-- Characters written in code in a path. -/
def inPath (c : Char) : Bool :=
  !isPrintable c || " \"<>`#?\x7b\x7d".toList.contains c

/-- Characters written in code in a query. -/
def inQuery (c : Char) : Bool :=
  !isPrintable c || " \"#<>'".toList.contains c

/-- Characters written in code in one segment of a path. -/
def inSegment (c : Char) : Bool :=
  inPath c || c == '/' || c == '%' || c == '\\'

/-- Characters written in code in a user name or password. -/
def inCredentials (c : Char) : Bool :=
  inPath c || "/:;=@[]\\^|".toList.contains c

/-- An octet in code. -/
def encodeOctet (b : UInt8) : List Char :=
  let d := fun n => (Hex.digit n).toUpper
  ['%', d (b.toNat / 16), d (b.toNat % 16)]

/-- A text with the characters of a set in code. -/
def encodeChars (coded : Char → Bool) (cs : List Char) : List Char :=
  cs.flatMap fun c =>
    if coded c then (Utf8.encode c.toString).flatMap encodeOctet else [c]

/-- The octet that two digits stand for. -/
def hexOctet? (x y : UInt8) : Option UInt8 := do
  let high ← Hex.value? (Char.ofNat x.toNat)
  let low ← Hex.value? (Char.ofNat y.toNat)
  return UInt8.ofNat (high * 16 + low)

/--
The octets of a text, codes replaced by the octets they stand for.  What stands for an
octet is told by `octet?`; a `%` that is followed by anything else stands for itself.
-/
def decodeOctetsBy (octet? : UInt8 → UInt8 → Option UInt8) : List UInt8 → List UInt8
  | b :: x :: y :: tail =>
      if b = 0x25 then
        match octet? x y with
        | some octet => octet :: decodeOctetsBy octet? tail
        | none => b :: decodeOctetsBy octet? (x :: y :: tail)
      else b :: decodeOctetsBy octet? (x :: y :: tail)
  | short => short

/-- The octets of a text, two digits after a `%` being the code of an octet. -/
def decodeOctets (octets : List UInt8) : List UInt8 :=
  decodeOctetsBy hexOctet? octets

/-- The octet that two digits stand for; a plus sign may take the place of the first one. -/
def signedOctet? (x y : UInt8) : Option UInt8 :=
  if x = 0x2B then hexOctet? 0x30 y else hexOctet? x y

/-- The text without codes; octets that are no text become replacement characters. -/
def decodeText (text : String) : String :=
  Utf8.decodeLossy (decodeOctetsBy signedOctet? (Utf8.encode text))

end Url
end FaultRelay
