/-!
# Padding a message to whole blocks

Both digests of the project read blocks of sixteen words.  A message is closed by one
bit, zeros, and its length in bits in the last eight octets.
-/

namespace FaultRelay
namespace Digest

/-- The octets of a number, the high one first. -/
def bigEndian (width n : Nat) : List UInt8 :=
  (List.range width).map fun i => UInt8.ofNat (n / Nat.pow 256 (width - 1 - i) % 256)

def padded (message : List UInt8) : List UInt8 :=
  message ++ 0x80 :: List.replicate ((119 - message.length % 64) % 64) 0
    ++ bigEndian 8 (message.length * 8)

/-- Four octets as a word. -/
def word (a b c d : UInt8) : UInt32 :=
  a.toUInt32 <<< 24 ||| b.toUInt32 <<< 16 ||| c.toUInt32 <<< 8 ||| d.toUInt32

/-- The words of a list of octets. -/
def words : List UInt8 → List UInt32
  | a :: b :: c :: d :: rest => word a b c d :: words rest
  | _ => []

/-- Lists of sixteen words. -/
def blocks (ws : List UInt32) : List (List UInt32) :=
  (List.range (ws.length / 16)).map fun i => (ws.drop (16 * i)).take 16

/-- The octets of a word. -/
def octets (w : UInt32) : List UInt8 :=
  bigEndian 4 w.toNat

/-- The bits of a word moved to the left, around the end. -/
def rotateLeft (w n : UInt32) : UInt32 :=
  w <<< n ||| w >>> (32 - n)

/-- The bits of a word moved to the right, around the end. -/
def rotateRight (w n : UInt32) : UInt32 :=
  w >>> n ||| w <<< (32 - n)

end Digest
end FaultRelay
