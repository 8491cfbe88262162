import FaultRelay.Json.Value

/-!
# How long the compact form is

The number of octets of the compact form is counted without writing it.  The main
statement is that the count is right.
-/

namespace FaultRelay
namespace Json

open Text

/-- The number of octets of a character inside a quoted text. -/
def escapedSize (c : Char) : Nat :=
  match c with
  | '"' | '\\' | '\n' | '\r' | '\t' => 2
  | c =>
      if c = Char.ofNat 8 ∨ c = Char.ofNat 12 then 2
      else if c.toNat < 0x20 then 6
      else c.utf8Size

/-- The number of octets of a text between quotes. -/
def quotedSize (s : String) : Nat :=
  s.toList.foldl (fun n c => n + escapedSize c) 2

mutual

/-- The number of octets of the compact form. -/
def Value.size : Value → Nat
  | .null => 4
  | .bool true => 4
  | .bool false => 5
  | .int n => (toString n).utf8ByteSize
  | .text s => quotedSize s
  | .list items => 2 + itemsSize items
  | .record members => 2 + membersSize members

/-- The number of octets of items with commas between them. -/
def itemsSize : List Value → Nat
  | [] => 0
  | [v] => v.size
  | v :: rest => v.size + 1 + itemsSize rest

/-- The number of octets of members with commas between them. -/
def membersSize : List (String × Value) → Nat
  | [] => 0
  | [(key, v)] => quotedSize key + 1 + v.size
  | (key, v) :: rest => quotedSize key + 1 + v.size + 1 + membersSize rest

end

/-- The number of octets of a list of characters. -/
def octetCount (cs : List Char) : Nat :=
  (String.ofList cs).utf8ByteSize

@[simp]
theorem octetCount_nil : octetCount [] = 0 := rfl

@[simp]
theorem octetCount_append (a b : List Char) :
    octetCount (a ++ b) = octetCount a + octetCount b := by
  simp [octetCount, String.ofList_append]

theorem octetCount_singleton (c : Char) : octetCount [c] = c.utf8Size := by
  rw [octetCount, ← String.singleton_eq_ofList, String.utf8ByteSize_singleton]

@[simp]
theorem octetCount_cons (c : Char) (cs : List Char) :
    octetCount (c :: cs) = c.utf8Size + octetCount cs := by
  rw [← List.singleton_append, octetCount_append, octetCount_singleton]

@[simp]
theorem octetCount_toList (s : String) : octetCount s.toList = s.utf8ByteSize := by
  simp [octetCount]

theorem utf8Size_digit {n : Nat} (h : n < 16) : (Hex.digit n).utf8Size = 1 := by
  have all : ∀ i : Fin 16, (Hex.digit i).utf8Size = 1 := by decide
  exact all ⟨n, h⟩

theorem octetCount_padded (width n : Nat) : octetCount (Hex.padded width n) = width := by
  induction width generalizing n with
  | zero => rfl
  | succ width ih =>
    simp [Hex.padded, ih, utf8Size_digit (Nat.mod_lt n (by decide : 0 < 16))]

theorem octetCount_escapeChar (c : Char) : octetCount (escapeChar c) = escapedSize c := by
  unfold escapeChar escapedSize
  split
  · rfl
  · rfl
  · rfl
  · rfl
  · rfl
  · by_cases h8 : c = Char.ofNat 8
    · simp only [h8]; rfl
    · by_cases h12 : c = Char.ofNat 12
      · simp only [h12]; rfl
      · by_cases hc : c.toNat < 0x20
        · simp [h8, h12, hc, octetCount_padded]; rfl
        · simp [h8, h12, hc]

theorem foldl_escapedSize (cs : List Char) (n : Nat) :
    cs.foldl (fun n c => n + escapedSize c) n = n + octetCount (cs.flatMap escapeChar) := by
  induction cs generalizing n with
  | nil => rfl
  | cons c cs ih => simp [ih, octetCount_escapeChar, Nat.add_assoc]

theorem octetCount_quote (s : String) : octetCount (quote s) = quotedSize s := by
  simp [quote, quotedSize, foldl_escapedSize]
  have : Char.utf8Size '"' = 1 := rfl
  omega

mutual

theorem octetCount_chars : (v : Value) → octetCount v.chars = v.size
  | .null => rfl
  | .bool true => rfl
  | .bool false => rfl
  | .int n => by simp [Value.chars, Value.size]
  | .text s => by simp [Value.chars, Value.size, octetCount_quote]
  | .list items => by
    have : Char.utf8Size '[' = 1 ∧ Char.utf8Size ']' = 1 := ⟨rfl, rfl⟩
    simp [Value.chars, Value.size, octetCount_itemChars items]
    omega
  | .record members => by
    have : Char.utf8Size '\x7b' = 1 ∧ Char.utf8Size '\x7d' = 1 := ⟨rfl, rfl⟩
    simp [Value.chars, Value.size, octetCount_memberChars members]
    omega

theorem octetCount_itemChars : (items : List Value) → octetCount (itemChars items) = itemsSize items
  | [] => rfl
  | [v] => by simp [itemChars, itemsSize, octetCount_chars v]
  | v :: w :: rest => by
    have : Char.utf8Size ',' = 1 := rfl
    simp [itemChars, itemsSize, octetCount_chars v, octetCount_itemChars (w :: rest), this]
    omega

theorem octetCount_memberChars :
    (members : List (String × Value)) → octetCount (memberChars members) = membersSize members
  | [] => rfl
  | [(key, v)] => by
    have : Char.utf8Size ':' = 1 := rfl
    simp [memberChars, membersSize, octetCount_quote, octetCount_chars v, this]
    omega
  | (key, v) :: w :: rest => by
    have : Char.utf8Size ':' = 1 ∧ Char.utf8Size ',' = 1 := ⟨rfl, rfl⟩
    simp [memberChars, membersSize, octetCount_quote, octetCount_chars v,
      octetCount_memberChars (w :: rest), this]
    omega

end

/-- The count of octets is right. -/
theorem Value.size_eq (v : Value) : v.size = v.render.utf8ByteSize :=
  (octetCount_chars v).symm

end Json
end FaultRelay
