import FaultRelay.Text.Base64
import Mathlib.Tactic.Common

/-!
# What is written in base 64 is read back

**Results.**
* `Base64.decode?_encode`: octets are read from the letters that they are written as.
* `Base64.length_of_decodeChars?`: there are fewer octets than letters, four of which make three
  octets.
-/

namespace FaultRelay
namespace Text
namespace Base64

theorem value?_letter {n : Nat} (h : n < 64) : value? (letter n) = some n := by
  have hall : ∀ i : Fin 64, value? (letter i) = some i.val := by decide
  exact hall ⟨n, h⟩

/-- The padding is no letter. -/
theorem letter_ne_pad {n : Nat} (h : n < 64) : letter n ≠ '=' := by
  have hall : ∀ i : Fin 64, letter i ≠ '=' := by decide
  exact hall ⟨n, h⟩

theorem ofNat_eq {a : UInt8} {n : Nat} (h : n = a.toNat) : UInt8.ofNat n = a := by
  rw [h, UInt8.ofNat_toNat]

/-- Four letters that are no padding make three octets. -/
theorem decodeChars?_group
    {x y z w : Nat} (hx : x < 64) (hy : y < 64) (hz : z < 64) (hw : w < 64)
    (rest : List Char) :
    decodeChars? (letter x :: letter y :: letter z :: letter w :: rest) =
      (decodeChars? rest).map fun tail =>
        UInt8.ofNat (x * 4 + y / 16) :: UInt8.ofNat (y % 16 * 16 + z / 4) ::
          UInt8.ofNat (z % 4 * 64 + w) :: tail := by
  rw [decodeChars?]
  · simp only [value?_letter, hx, hy, hz, hw, Option.bind_eq_bind, Option.bind_some]
    cases decodeChars? rest with
    | none => rfl
    | some tail => rfl
  · rintro hz' -
    exact absurd hz' (letter_ne_pad hz)
  · intro hw'
    exact absurd hw' (letter_ne_pad hw)

theorem decodeChars?_encodeOctets :
    (octets : List UInt8) → decodeChars? (encodeOctets octets) = some octets
  | [] => rfl
  | [a] => by
      have ha := a.toNat_lt
      have hsum : a.toNat / 4 * 4 + a.toNat % 4 * 16 / 16 = a.toNat := by omega
      have hpad : a.toNat % 4 * 16 % 16 = 0 := by omega
      rw [encodeOctets, decodeChars?, value?_letter (by omega), value?_letter (by omega)]
      simp only [Option.bind_eq_bind, Option.bind_some, hpad, if_true, ofNat_eq hsum]
  | [a, b] => by
      have ha := a.toNat_lt
      have hb := b.toNat_lt
      have hfirst : a.toNat / 4 * 4 + (a.toNat % 4 * 16 + b.toNat / 16) / 16 = a.toNat := by
        omega
      have hsecond : (a.toNat % 4 * 16 + b.toNat / 16) % 16 * 16 + b.toNat % 16 * 4 / 4 =
          b.toNat := by omega
      have hpad : b.toNat % 16 * 4 % 4 = 0 := by omega
      rw [encodeOctets, decodeChars?, value?_letter (by omega), value?_letter (by omega),
        value?_letter (by omega)]
      · simp only [Option.bind_eq_bind, Option.bind_some, hpad, if_true, ofNat_eq hfirst,
          ofNat_eq hsecond]
      · exact letter_ne_pad (by omega)
  | a :: b :: c :: rest => by
      have ha := a.toNat_lt
      have hb := b.toNat_lt
      have hc := c.toNat_lt
      have hfirst : a.toNat / 4 * 4 + (a.toNat % 4 * 16 + b.toNat / 16) / 16 = a.toNat := by
        omega
      have hsecond : (a.toNat % 4 * 16 + b.toNat / 16) % 16 * 16 +
          (b.toNat % 16 * 4 + c.toNat / 64) / 4 = b.toNat := by omega
      have hthird : (b.toNat % 16 * 4 + c.toNat / 64) % 4 * 64 + c.toNat % 64 = c.toNat := by
        omega
      rw [encodeOctets, decodeChars?_group (by omega) (by omega) (by omega) (by omega),
        decodeChars?_encodeOctets rest, ofNat_eq hfirst, ofNat_eq hsecond, ofNat_eq hthird]
      rfl

/-- Octets are read from the letters that they are written as. -/
theorem decode?_encode (octets : List UInt8) : decode? (encode octets) = some octets := by
  rw [decode?, encode, String.toList_ofList, decodeChars?_encodeOctets]

/-- Four letters make three octets at most. -/
theorem length_of_decodeChars?
    {cs : List Char} {octets : List UInt8} (h : decodeChars? cs = some octets) :
    4 * octets.length ≤ 3 * cs.length := by
  fun_induction decodeChars? cs generalizing octets with
  | case1 =>
      cases h
      exact Nat.le_refl _
  | case2 a b =>
      simp only [Option.bind_eq_bind, Option.bind_eq_some_iff, Option.ite_none_right_eq_some,
        Option.some.injEq] at h
      obtain ⟨x, -, y, -, -, rfl⟩ := h
      simp
  | case3 a b c _ =>
      simp only [Option.bind_eq_bind, Option.bind_eq_some_iff, Option.ite_none_right_eq_some,
        Option.some.injEq] at h
      obtain ⟨x, -, y, -, z, -, -, rfl⟩ := h
      simp
  | case4 a b c d rest _ _ ih =>
      simp only [Option.bind_eq_bind, Option.bind_eq_some_iff, Option.pure_def,
        Option.some.injEq] at h
      obtain ⟨x, -, y, -, z, -, w, -, tail, htail, rfl⟩ := h
      have hrest := ih htail
      simp only [List.length_cons]
      omega
  | case5 => cases h

end Base64
end Text
end FaultRelay
