import FaultRelay.Text.Utf8
import Mathlib.Tactic.Common

/-!
# The octets of a text

**Results.**
* `Utf8.encode_eq`: the octets of a text are those of its characters, one after the other.
* `Utf8.decode?_encode`, `Utf8.toUTF8_of_decode?`: the octets of a text are read as that text, and
  no others are.
* `Utf8.encodeChar_of_ascii`, `Utf8.le_of_mem_encodeChar`: the octets of one character.
-/

namespace FaultRelay
namespace Text
namespace Utf8

theorem toList_loop (bytes : ByteArray) (i : Nat) (before : List UInt8) :
    ByteArray.toList.loop bytes i before = before.reverse ++ bytes.data.toList.drop i := by
  induction i, before using ByteArray.toList.loop.induct bytes with
  | case1 i before hlt ih =>
      have hplace : i < bytes.data.toList.length := by simpa using hlt
      have hget : bytes.get! i = bytes.data.toList[i] := by
        simp [ByteArray.get!, getElem!_pos bytes.data i (by simpa using hlt)]
      rw [ByteArray.toList.loop, if_pos hlt, ih, List.reverse_cons, List.append_assoc,
        List.drop_eq_getElem_cons hplace, hget]
      rfl
  | case2 i before hge =>
      have hnone : bytes.data.toList.drop i = [] :=
        List.drop_eq_nil_of_le (by simpa using Nat.le_of_not_lt hge)
      rw [ByteArray.toList.loop, if_neg hge, hnone, List.append_nil]

theorem toList_eq_data (bytes : ByteArray) : bytes.toList = bytes.data.toList := by
  rw [ByteArray.toList, toList_loop]
  rfl

theorem ofList_toList (bytes : ByteArray) : (⟨bytes.toList.toArray⟩ : ByteArray) = bytes := by
  rw [toList_eq_data]

/-- The octets of characters, one after the other. -/
def octets (cs : List Char) : List UInt8 :=
  cs.flatMap String.utf8EncodeChar

@[simp] theorem octets_nil : octets [] = [] := rfl

@[simp] theorem octets_append (a b : List Char) : octets (a ++ b) = octets a ++ octets b :=
  List.flatMap_append

theorem octets_cons (c : Char) (cs : List Char) :
    octets (c :: cs) = String.utf8EncodeChar c ++ octets cs := rfl

/-- The octets of a text are those of its characters. -/
theorem encode_eq (s : String) : encode s = octets s.toList := by
  have hbytes : s.toUTF8 = (s.toList.flatMap String.utf8EncodeChar).toByteArray :=
    String.utf8Encode_toList.symm
  rw [encode, toList_eq_data, hbytes, List.toList_data_toByteArray, octets]

theorem encode_ofList (cs : List Char) :
    encode (String.ofList cs) = octets cs := by
  rw [encode_eq, String.toList_ofList]

/-- The octets of a text are read as that text. -/
theorem decode?_encode (s : String) : decode? (encode s) = some s := by
  have hbytes : (⟨(encode s).toArray⟩ : ByteArray) = s.toByteArray := by
    rw [encode, toList_eq_data]
    rfl
  rw [decode?, hbytes, String.fromUTF8?, dif_pos s.isValidUTF8]
  rfl

/-- A text that octets are read as has these octets. -/
theorem toUTF8_of_decode? {bytes : ByteArray} {s : String} (h : decode? bytes.toList = some s) :
    s.toUTF8 = bytes := by
  rw [decode?, ofList_toList, String.fromUTF8?] at h
  split at h
  · cases h
    rfl
  · cases h

/-- A text has no more characters than octets. -/
theorem length_le_octets (cs : List Char) : cs.length ≤ (octets cs).length := by
  induction cs with
  | nil => exact Nat.le_refl _
  | cons c cs ih =>
      have hc : 0 < (String.utf8EncodeChar c).length := by
        rw [String.length_utf8EncodeChar]
        exact c.utf8Size_pos
      rw [octets_cons, List.length_append, List.length_cons]
      omega

theorem encodeChar_of_ascii {c : Char} (h : c.toNat < 128) :
    String.utf8EncodeChar c = [UInt8.ofNat c.toNat] := by
  have hle : c.val.toNat ≤ 0x7f := by
    change c.toNat ≤ 127
    omega
  rw [String.utf8EncodeChar, if_pos hle]
  rfl

theorem toNat_ofNat_of_lt {n : Nat} (h : n < 256) : (UInt8.ofNat n).toNat = n := by
  rw [UInt8.toNat_ofNat', Nat.mod_eq_of_lt h]

/-- The octets of any other character are none of ASCII. -/
theorem le_of_mem_encodeChar {c : Char} (h : 128 ≤ c.toNat) {b : UInt8}
    (hb : b ∈ String.utf8EncodeChar c) : 128 ≤ b.toNat := by
  have hlt : ¬c.val.toNat ≤ 0x7f := by
    change ¬c.toNat ≤ 127
    omega
  have hoctet : ∀ n : Nat, 128 ≤ n → n < 256 → 128 ≤ (UInt8.ofNat n).toNat := by
    intro n hle hbound
    rw [toNat_ofNat_of_lt hbound]
    exact hle
  rw [String.utf8EncodeChar, if_neg hlt] at hb
  split at hb
  · simp only [List.mem_cons, List.not_mem_nil, or_false] at hb
    rcases hb with rfl | rfl <;> exact hoctet _ (by omega) (by omega)
  · split at hb
    · simp only [List.mem_cons, List.not_mem_nil, or_false] at hb
      rcases hb with rfl | rfl | rfl <;> exact hoctet _ (by omega) (by omega)
    · simp only [List.mem_cons, List.not_mem_nil, or_false] at hb
      rcases hb with rfl | rfl | rfl | rfl <;> exact hoctet _ (by omega) (by omega)

theorem octets_of_ascii {c : Char} (h : c.toNat < 128) (cs : List Char) :
    octets (c :: cs) = UInt8.ofNat c.toNat :: octets cs := by
  rw [octets_cons, encodeChar_of_ascii h]
  rfl

theorem toNat_ofNat_of_ascii {c : Char} (h : c.toNat < 128) :
    Char.ofNat (UInt8.ofNat c.toNat).toNat = c := by
  rw [toNat_ofNat_of_lt (by omega), Char.ofNat_toNat]

end Utf8
end Text
end FaultRelay
