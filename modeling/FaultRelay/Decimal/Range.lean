/-!
# Numbers of so many bits

The whole numbers that a number of bits can hold, without a sign and with one.
-/

namespace FaultRelay
namespace Decimal

/-- The greatest number of so many bits. -/
def greatest (bits : Nat) : Nat :=
  Nat.pow 2 bits - 1

/-- The least and the greatest number of so many bits, one of them for the sign. -/
def signedRange (bits : Nat) : Int × Int :=
  let half : Int := Int.ofNat (Nat.pow 2 (bits - 1))
  (-half, half - 1)

end Decimal
end FaultRelay
