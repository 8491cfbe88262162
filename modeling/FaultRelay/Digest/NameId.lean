import FaultRelay.Digest.Blocks
import FaultRelay.Text.Hex
import FaultRelay.Text.Utf8

/-!
# Identifiers made from names

A name within a space of names is made into an identifier of 128 bits: the first
sixteen octets of the SHA-1 digest of space and name, with the version and the variant
of the identifier set in it.
-/

namespace FaultRelay
namespace Digest

open Text

namespace Sha1

/-- The five words of the state. -/
structure State where
  a : UInt32
  b : UInt32
  c : UInt32
  d : UInt32
  e : UInt32

/-- The state before the first block. -/
def initial : State :=
  ⟨0x67452301, 0xefcdab89, 0x98badcfe, 0x10325476, 0xc3d2e1f0⟩

/-- The words of the rounds of one block; `recent` holds the last sixteen, oldest first. -/
def schedule : Nat → List UInt32 → List UInt32
  | 0, _ => []
  | n + 1, recent =>
      match recent with
      | [] => []
      | w :: rest =>
          let next := rotateLeft
            (w ^^^ rest.getD 1 0 ^^^ rest.getD 7 0 ^^^ rest.getD 12 0) 1
          w :: schedule n (rest ++ [next])

/-- The function and the constant of a round. -/
def mix (i : Nat) (s : State) : UInt32 × UInt32 :=
  if i < 20 then ((s.b &&& s.c) ||| (~~~s.b &&& s.d), 0x5a827999)
  else if i < 40 then (s.b ^^^ s.c ^^^ s.d, 0x6ed9eba1)
  else if i < 60 then ((s.b &&& s.c) ||| (s.b &&& s.d) ||| (s.c &&& s.d), 0x8f1bbcdc)
  else (s.b ^^^ s.c ^^^ s.d, 0xca62c1d6)

def round (s : State) (iw : Nat × UInt32) : State :=
  let (f, k) := mix iw.1 s
  ⟨rotateLeft s.a 5 + f + s.e + k + iw.2, s.a, rotateLeft s.b 30, s.c, s.d⟩

def compress (s : State) (block : List UInt32) : State :=
  let t := ((List.range 80).zip (schedule 80 block)).foldl round s
  ⟨s.a + t.a, s.b + t.b, s.c + t.c, s.d + t.d, s.e + t.e⟩

def digest (message : List UInt8) : List UInt8 :=
  let s := (blocks (words (padded message))).foldl compress initial
  [s.a, s.b, s.c, s.d, s.e].flatMap octets

end Sha1

/-- The space of object identifiers. -/
def objectSpace : List UInt8 :=
  [0x6b, 0xa7, 0xb8, 0x12, 0x9d, 0xad, 0x11, 0xd1, 0x80, 0xb4, 0x00, 0xc0, 0x4f, 0xd4, 0x30, 0xc8]

/-- Version 5 in the seventh octet and the variant in the ninth. -/
def marked (digest : List UInt8) : List UInt8 :=
  ((digest.take 16).modify 6 fun b => b &&& 0x0f ||| 0x50).modify 8 fun b => b &&& 0x3f ||| 0x80

/-- Sixteen octets in groups of 4, 2, 2, 2 and 6. -/
def grouped (octets : List UInt8) : String :=
  "-".intercalate
    ([(0, 4), (4, 2), (6, 2), (8, 2), (10, 6)].map fun (start, size) =>
      Hex.encode ((octets.drop start).take size))

/-- The identifier of a name among the object identifiers. -/
def nameId (name : String) : String :=
  grouped (marked (Sha1.digest (objectSpace ++ Utf8.encode name)))

end Digest
end FaultRelay
