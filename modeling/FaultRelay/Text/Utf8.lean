/-!
# UTF-8 text in octet sequences

Octets are read as characters.  Where they cannot be, each longest beginning of a
character that its successor breaks off, and each octet that begins no character,
stands for one replacement character.

Strict reading is the one of `String.fromUTF8?`; this module adds the lossy one.
-/

namespace FaultRelay
namespace Text
namespace Utf8

/-- The mark that stands for octets that are no character. -/
def replacement : Char := Char.ofNat 0xFFFD

/--
A character that has begun: the bits read so far, the octets still owed, and the
least and the greatest octet that may come next.
-/
structure Pending where
  bits : Nat
  owed : Nat
  low : Nat
  high : Nat

/-- What one octet does where a character may begin. -/
inductive Lead where
  | whole (c : Char)
  | begun (p : Pending)
  | broken

/-- The first octet of a character fixes its length and the range of the second. -/
def lead (octet : UInt8) : Lead :=
  let b := octet.toNat
  if b < 0x80 then .whole (Char.ofNat b)
  else if b < 0xC2 then .broken
  else if b < 0xE0 then .begun ⟨b - 0xC0, 1, 0x80, 0xBF⟩
  else if b = 0xE0 then .begun ⟨0, 2, 0xA0, 0xBF⟩
  else if b = 0xED then .begun ⟨0xD, 2, 0x80, 0x9F⟩
  else if b < 0xF0 then .begun ⟨b - 0xE0, 2, 0x80, 0xBF⟩
  else if b = 0xF0 then .begun ⟨0, 3, 0x90, 0xBF⟩
  else if b < 0xF4 then .begun ⟨b - 0xF0, 3, 0x80, 0xBF⟩
  else if b = 0xF4 then .begun ⟨4, 3, 0x80, 0x8F⟩
  else .broken

/-- The characters of an octet sequence, `none` for every malformed piece. -/
def scan : Option Pending → List UInt8 → List (Option Char)
  | none, [] => []
  | some _, [] => [none]
  | none, b :: rest =>
      match lead b with
      | .whole c => some c :: scan none rest
      | .begun p => scan (some p) rest
      | .broken => none :: scan none rest
  | some p, b :: rest =>
      if p.low ≤ b.toNat ∧ b.toNat ≤ p.high then
        let bits := p.bits * 64 + (b.toNat - 0x80)
        if p.owed ≤ 1 then some (Char.ofNat bits) :: scan none rest
        else scan (some ⟨bits, p.owed - 1, 0x80, 0xBF⟩) rest
      else
        match lead b with
        | .whole c => none :: some c :: scan none rest
        | .begun q => none :: scan (some q) rest
        | .broken => none :: none :: scan none rest

/-- The text of an octet sequence, a replacement character for each malformed piece. -/
def decodeLossy (octets : List UInt8) : String :=
  String.ofList ((scan none octets).map (·.getD replacement))

/-- The text of an octet sequence that is UTF-8 throughout. -/
def decode? (octets : List UInt8) : Option String :=
  String.fromUTF8? ⟨octets.toArray⟩

/-- The octets of a text. -/
def encode (s : String) : List UInt8 :=
  s.toUTF8.toList

end Utf8
end Text
end FaultRelay
