import FaultRelay.Json.Value
import FaultRelay.Proofs.Json.Fields
import FaultRelay.Proofs.Json.Parsing
import FaultRelay.Proofs.Text.Octets

/-!
# What is written is read back

**Rules.**
* `Unescapes source out`: the source of a quoted text stands for the octets `out`.

**Results.**
* `unquote?_quotedSource`: a text is read from its own source.
* `spelling_chars`: the compact form of a value spells it.
* `read?_render`: the compact form of a value is read as that value.
-/

namespace FaultRelay
namespace Json

open Text Utf8

/-- The source octets of a text in quotes. -/
def quotedSource (s : String) : List UInt8 :=
  octets (s.toList.flatMap escapeChar)

/-- The source octets of a whole number. -/
def numberSource (n : Int) : List UInt8 :=
  octets (toString n).toList

/-! ### Texts -/

/-- An octet that stands for itself in quotes. -/
def IsPlain (b : UInt8) : Prop := b ≠ 0x22 ∧ b ≠ 0x5C ∧ ¬b < 0x20

/-- A character that is not escaped stands for itself. -/
theorem isPlain_of_mem_encodeChar
    {c : Char} (hquote : c ≠ '"') (hescape : c ≠ '\\') (hcontrol : ¬c.toNat < 0x20) {b : UInt8}
    (hb : b ∈ String.utf8EncodeChar c) : IsPlain b := by
  by_cases hascii : c.toNat < 128
  · rw [encodeChar_of_ascii hascii, List.mem_singleton] at hb
    have hvalue : b.toNat = c.toNat := by rw [hb, toNat_ofNat_of_lt (by omega)]
    have hchar : Char.ofNat b.toNat = c := by rw [hvalue, Char.ofNat_toNat]
    refine ⟨?_, ?_, ?_⟩
    · rintro rfl
      exact hquote hchar.symm
    · rintro rfl
      exact hescape hchar.symm
    · rw [UInt8.lt_iff_toNat_lt, hvalue]
      exact hcontrol
  · have hle := le_of_mem_encodeChar (by omega) hb
    refine ⟨?_, ?_, ?_⟩
    · rintro rfl
      exact absurd hle (by decide)
    · rintro rfl
      exact absurd hle (by decide)
    · rw [UInt8.lt_iff_toNat_lt]
      have hbound : (0x20 : UInt8).toNat = 32 := rfl
      omega

theorem octets_padded (n : Nat) :
    octets (Hex.padded 4 n) =
      [UInt8.ofNat (Hex.digit (n / 16 / 16 / 16 % 16)).toNat,
        UInt8.ofNat (Hex.digit (n / 16 / 16 % 16)).toNat,
        UInt8.ofNat (Hex.digit (n / 16 % 16)).toNat, UInt8.ofNat (Hex.digit (n % 16)).toNat] := by
  have hall : ∀ d : Fin 16, (Hex.digit d).toNat < 128 := by decide
  have hascii : ∀ m : Nat, (Hex.digit (m % 16)).toNat < 128 :=
    fun m => hall ⟨m % 16, Nat.mod_lt m (by decide)⟩
  simp only [Hex.padded, List.nil_append, List.cons_append, octets_of_ascii (hascii _),
    octets_nil]

/-- The source of a quoted text stands for some octets. -/
def Unescapes (source out : List UInt8) : Prop :=
  ∀ fuel : Nat, source.length ≤ fuel → unescape? fuel source = some out

theorem Unescapes.nil : Unescapes [] [] := by
  intro fuel _
  cases fuel <;> rfl

theorem Unescapes.cons
    {source out : List UInt8} (h : Unescapes source out) {b : UInt8} (hb : b ≠ 0x5C) :
    Unescapes (b :: source) (b :: out) := by
  intro fuel hfuel
  cases fuel with
  | zero => simp at hfuel
  | succ fuel =>
      have hrest := h fuel (by simpa using hfuel)
      rw [unescape?, hrest]
      · rfl
      · rintro c rest ⟨⟩ _
        exact hb rfl

theorem Unescapes.plain
    {source out : List UInt8} (h : Unescapes source out) {before : List UInt8}
    (hplain : ∀ b ∈ before, b ≠ 0x5C) : Unescapes (before ++ source) (before ++ out) := by
  induction before with
  | nil => exact h
  | cons b before ih =>
      have hrest := ih fun b hb => hplain b (List.mem_cons_of_mem _ hb)
      exact hrest.cons (hplain b List.mem_cons_self)

theorem Unescapes.escape
    {source out : List UInt8} (h : Unescapes source out) {b octet : UInt8}
    (hstep : ∀ fuel, unescape? (fuel + 1) (0x5C :: b :: source) =
      (unescape? fuel source).map (octet :: ·)) :
    Unescapes (0x5C :: b :: source) (octet :: out) := by
  intro fuel hfuel
  cases fuel with
  | zero => simp at hfuel
  | succ fuel =>
      have hrest := h fuel (by simp only [List.length_cons] at hfuel; omega)
      rw [hstep, hrest]
      rfl

theorem value?_digit (n : Nat) :
    Hex.value? (Char.ofNat (UInt8.ofNat (Hex.digit (n % 16)).toNat).toNat) = some (n % 16) := by
  have hall : ∀ d : Fin 16,
      Hex.value? (Char.ofNat (UInt8.ofNat (Hex.digit d).toNat).toNat) = some d.val := by
    decide
  exact hall ⟨n % 16, Nat.mod_lt n (by decide)⟩

theorem escapeUnit?_padded {n : Nat} (h : n < 65536) (rest : List UInt8) :
    escapeUnit? (octets (Hex.padded 4 n) ++ rest) = some (n, rest) := by
  have hvalue : (((n / 16 / 16 / 16 % 16) * 16 + n / 16 / 16 % 16) * 16 + n / 16 % 16) * 16
      + n % 16 = n := by omega
  rw [octets_padded]
  simp only [List.cons_append, List.nil_append, escapeUnit?, value?_digit, Option.bind_eq_bind,
    Option.bind_some, hvalue]
  rfl

/-- A unit below the surrogates stands for the character of its number. -/
theorem Unescapes.unicode
    {source out : List UInt8} (h : Unescapes source out) {c : Char} (hc : c.toNat < 0x20) :
    Unescapes (octets ('\\' :: 'u' :: Hex.padded 4 c.toNat) ++ source)
      (String.utf8EncodeChar c ++ out) := by
  intro fuel hfuel
  have hsource : octets ('\\' :: 'u' :: Hex.padded 4 c.toNat) ++ source =
      0x5C :: 0x75 :: (octets (Hex.padded 4 c.toNat) ++ source) := rfl
  rw [hsource] at hfuel ⊢
  cases fuel with
  | zero => simp at hfuel
  | succ fuel =>
      have hrest := h fuel (by
        simp only [List.length_cons, List.length_append] at hfuel
        omega)
      have hunit : pairUnits? c.toNat source = some (c, source) := by
        unfold pairUnits?
        rw [if_neg (by omega), if_neg (by omega), Char.ofNat_toNat]
      have hchar : encode c.toString = String.utf8EncodeChar c := by
        rw [encode_eq, Char.toString_eq_singleton, String.toList_singleton, octets_cons]
        simp
      have hu : Char.ofNat (0x75 : UInt8).toNat = 'u' := rfl
      simp only [unescape?, hu, escapeUnit?_padded (by omega : c.toNat < 65536), hunit, hrest,
        hchar, Option.bind_eq_bind, Option.bind_some]
      rfl

/-- How a character stands in quotes. -/
inductive Escaped (c : Char) : List UInt8 → Prop
  | short {b octet : UInt8} (hb : b ∈ [0x22, 0x5C, 0x2F, 0x62, 0x66, 0x6E, 0x72, 0x74])
      (hc : String.utf8EncodeChar c = [octet])
      (hread : ∀ (fuel : Nat) (rest : List UInt8), unescape? (fuel + 1) (0x5C :: b :: rest) =
        (unescape? fuel rest).map (octet :: ·)) :
      Escaped c [0x5C, b]
  | unit (hc : c.toNat < 0x20) : Escaped c (0x5C :: 0x75 :: octets (Hex.padded 4 c.toNat))
  | plain (hc : ∀ b ∈ String.utf8EncodeChar c, IsPlain b) : Escaped c (String.utf8EncodeChar c)

theorem escaped_escapeChar (c : Char) : Escaped c (octets (escapeChar c)) := by
  unfold escapeChar
  split
  · exact .short (by decide) rfl fun _ _ => rfl
  · exact .short (by decide) rfl fun _ _ => rfl
  · exact .short (by decide) rfl fun _ _ => rfl
  · exact .short (by decide) rfl fun _ _ => rfl
  · exact .short (by decide) rfl fun _ _ => rfl
  · rename_i hquote hescape _ _ _
    split
    · subst c
      exact .short (by decide) rfl fun _ _ => rfl
    · split
      · subst c
        exact .short (by decide) rfl fun _ _ => rfl
      · split
        · rename_i hcontrol
          exact .unit hcontrol
        · rename_i hcontrol
          rw [octets_cons, octets_nil, List.append_nil]
          exact .plain fun b hb => isPlain_of_mem_encodeChar hquote hescape hcontrol hb

/-- Each character of a text is read from its source. -/
theorem Unescapes.escaped
    {source out escape : List UInt8} (h : Unescapes source out) {c : Char}
    (hescape : Escaped c escape) :
    Unescapes (escape ++ source) (String.utf8EncodeChar c ++ out) := by
  cases hescape with
  | short _ hc hread =>
      rw [hc]
      exact h.escape fun fuel => hread fuel source
  | unit hc => exact h.unicode hc
  | plain hc => exact h.plain fun b hb => (hc b hb).2.1

theorem unescapes_chars (cs : List Char) :
    Unescapes (octets (cs.flatMap escapeChar)) (octets cs) := by
  induction cs with
  | nil => exact .nil
  | cons c cs ih =>
      rw [List.flatMap_cons, octets_append]
      exact ih.escaped (escaped_escapeChar c)

/-- A text is read from its own source. -/
theorem unquote?_quotedSource (s : String) : unquote? (quotedSource s) = some s := by
  have h : unescape? (quotedSource s).length (quotedSource s) = some (octets s.toList) :=
    unescapes_chars s.toList _ (Nat.le_refl _)
  rw [unquote?, h, ← encode_eq]
  exact decode?_encode s

theorem IsQuoted.append_plain
    {before source : List UInt8} (h : IsQuoted source) (hbefore : ∀ b ∈ before, IsPlain b) :
    IsQuoted (before ++ source) := by
  induction before with
  | nil => exact h
  | cons b before ih =>
      rw [List.forall_mem_cons] at hbefore
      obtain ⟨⟨hquote, hescape, hcontrol⟩, hrest⟩ := hbefore
      exact .plain hquote hescape hcontrol (ih hrest)

theorem IsQuoted.escaped
    {source escape : List UInt8} (h : IsQuoted source) {c : Char} (hescape : Escaped c escape) :
    IsQuoted (escape ++ source) := by
  cases hescape with
  | short hb => exact .escape hb h
  | unit hc =>
      refine .unit ?_ ?_ h
      · rw [octets_padded]
        rfl
      · intro b hb
        rw [octets_padded] at hb
        simp only [List.mem_cons, List.not_mem_nil, or_false] at hb
        obtain rfl | rfl | rfl | rfl := hb
        all_goals exact isHexDigit_iff.1 (by rw [value?_digit]; rfl)
  | plain hc => exact h.append_plain hc

/-- The source of a text may stand in quotes. -/
theorem isQuoted_quotedSource (s : String) : IsQuoted (quotedSource s) := by
  rw [quotedSource]
  induction s.toList with
  | nil => exact .nil
  | cons c cs ih =>
      rw [List.flatMap_cons, octets_append]
      exact ih.escaped (escaped_escapeChar c)

/-! ### Numbers -/

/-- A number without a sign is zero or begins with another digit. -/
theorem toDigits_cases (n : Nat) :
    Nat.toDigits 10 n = ['0'] ∨
      ∃ (c : Char) (cs : List Char), c ≠ '0' ∧ Nat.toDigits 10 n = c :: cs := by
  induction n using Nat.strongRecOn with
  | ind n ih =>
      by_cases hsmall : n < 10
      · rw [Nat.toDigits_of_lt_base hsmall]
        by_cases hzero : n = 0
        · rw [hzero]
          exact .inl rfl
        · have hother : ∀ d : Fin 10, d.val ≠ 0 → Nat.digitChar d ≠ '0' := by decide
          exact .inr ⟨Nat.digitChar n, [], hother ⟨n, hsmall⟩ hzero, rfl⟩
      · rw [Nat.toDigits_of_base_le (by decide) (Nat.le_of_not_lt hsmall)]
        obtain hzero | ⟨c, cs, hc, heq⟩ := ih (n / 10) (by omega)
        · have hpos : n / 10 = 0 := by
            rw [← Nat.ofDigitChars_ten_toDigits (n := n / 10), hzero]
            rfl
          omega
        · exact .inr ⟨c, cs ++ [Nat.digitChar (n % 10)], hc, by rw [heq]; rfl⟩

/-- A digit is one octet. -/
theorem octets_digit {c : Char} (hc : c.isDigit = true) (cs : List Char) :
    ∃ b : UInt8, octets (c :: cs) = b :: octets cs ∧ IsDigit b ∧ Char.ofNat b.toNat = c := by
  have hascii : c.toNat < 128 := by
    have hhigh : c.toNat ≤ 57 := (Char.isDigit_iff_toNat.1 hc).2
    omega
  have hback := toNat_ofNat_of_ascii hascii
  exact ⟨_, octets_of_ascii hascii cs, by rwa [← isDigit_octetChar_iff, hback], hback⟩

theorem digits_octets {cs : List Char} (h : ∀ c ∈ cs, c.isDigit = true) : Digits (octets cs) := by
  induction cs with
  | nil => simp [Digits]
  | cons c cs ih =>
      rw [List.forall_mem_cons] at h
      obtain ⟨b, heq, hb, -⟩ := octets_digit h.1 cs
      rw [heq]
      exact List.forall_mem_cons.2 ⟨hb, ih h.2⟩

theorem whole_toDigits (n : Nat) : Whole (octets (Nat.toDigits 10 n)) := by
  obtain hzero | ⟨c, cs, hne, heq⟩ := toDigits_cases n
  · rw [hzero]
    exact .zero
  · have hdigits : ∀ x ∈ c :: cs, x.isDigit = true := by
      rw [← heq]
      exact fun x hx => Nat.isDigit_of_mem_toDigits (by decide) (by decide) hx
    rw [List.forall_mem_cons] at hdigits
    obtain ⟨b, hoctets, hb, hback⟩ := octets_digit hdigits.1 cs
    rw [heq, hoctets]
    refine .digits hb ?_ (digits_octets hdigits.2)
    rintro rfl
    exact hne hback.symm

/-- The source of a whole number is a number. -/
theorem isNumber_numberSource (n : Int) : IsNumber (numberSource n) := by
  have hnumber : ∀ (sign : List UInt8) (m : Nat), sign ∈ [[], [0x2D]] →
      IsNumber (sign ++ octets (Nat.toDigits 10 m)) := by
    intro sign m hsign
    have hall := IsNumber.intro hsign (whole_toDigits m) .none .none
    rwa [List.append_nil, List.append_nil] at hall
  rw [numberSource, Int.toString_eq_repr, Int.repr_eq_if]
  split
  · rw [Nat.toList_repr]
    exact hnumber [] _ (by simp)
  · have hsource : octets ("-" ++ (-n).toNat.repr).toList =
        [0x2D] ++ octets (Nat.toDigits 10 (-n).toNat) := by
      rw [String.toList_append, Nat.toList_repr]
      rfl
    rw [hsource]
    exact hnumber [0x2D] _ (by simp)

/-! ### Values -/

mutual

/-- The document that the compact form of a value spells. -/
def Value.node : Value → Node
  | .null => .null
  | .bool b => .bool b
  | .int n => .number (numberSource n)
  | .text s => .quoted (quotedSource s)
  | .list items => .list (itemNodes items)
  | .record members => .record (memberNodes members)

def itemNodes : List Value → List Node
  | [] => []
  | v :: rest => v.node :: itemNodes rest

def memberNodes : List (String × Value) → List (List UInt8 × Node)
  | [] => []
  | (key, v) :: rest => (quotedSource key, v.node) :: memberNodes rest

end


theorem octets_quote (s : String) : octets (quote s) = 0x22 :: (quotedSource s ++ [0x22]) := by
  rw [quote, octets_of_ascii (by decide), octets_append]
  rfl

theorem Spelling.document {source : List UInt8} {node : Node} (h : Spelling source node) :
    Document source node := by
  have hall : Document ([] ++ (source ++ [])) node :=
    .intro (by simp [Blanks]) h (by simp [Blanks])
  simpa using hall

theorem key_quote (key : String) : Key (octets (quote key)) (quotedSource key) := by
  have hall : Key ([] ++ (0x22 :: (quotedSource key ++ [0x22]) ++ [])) (quotedSource key) :=
    .intro (by simp [Blanks]) (isQuoted_quotedSource key) (by simp [Blanks])
  rw [octets_quote]
  simpa using hall

mutual

/-- The compact form of a value spells it. -/
theorem spelling_chars : (v : Value) → Spelling (octets v.chars) v.node
  | .null => .null
  | .bool true => .true
  | .bool false => .false
  | .int n => .number (isNumber_numberSource n)
  | .text s => by
      rw [Value.chars, octets_quote]
      exact .quoted (isQuoted_quotedSource s)
  | .list [] => .emptyList (by simp [Blanks])
  | .list (v :: vs) => by
      rw [Value.chars, octets_of_ascii (by decide), octets_append]
      exact .list (items_itemChars (v :: vs) (by simp))
  | .record [] => .emptyRecord (by simp [Blanks])
  | .record (p :: ps) => by
      rw [Value.chars, octets_of_ascii (by decide), octets_append]
      exact .record (members_memberChars (p :: ps) (by simp))

theorem items_itemChars : (items : List Value) → items ≠ [] →
    Items (octets (itemChars items)) (itemNodes items)
  | [], hne => absurd rfl hne
  | [v], _ => .one (spelling_chars v).document
  | v :: w :: rest, _ => by
      rw [itemChars, octets_append, octets_of_ascii (by decide)]
      · exact .cons (spelling_chars v).document (items_itemChars (w :: rest) (by simp))
      · simp

theorem members_memberChars : (members : List (String × Value)) → members ≠ [] →
    Members (octets (memberChars members)) (memberNodes members)
  | [], hne => absurd rfl hne
  | [(key, v)], _ => by
      rw [memberChars, octets_append, octets_of_ascii (by decide)]
      exact .one (key_quote key) (spelling_chars v).document
  | (key, v) :: p :: rest, _ => by
      rw [memberChars, octets_append, octets_of_ascii (by decide), octets_append,
        octets_of_ascii (by decide)]
      · exact .cons (key_quote key) (spelling_chars v).document
          (members_memberChars (p :: rest) (by simp))
      · simp

end

/-- The compact form of a value is read as that value. -/
theorem read?_render (v : Value) : read? (encode v.render) = some v.node := by
  rw [Value.render, encode_ofList]
  exact read?_eq_some_iff.2 (spelling_chars v).document

theorem Node.isRecord_node (members : List (String × Value)) :
    (Value.record members).node.IsRecord (members.map fun p => (p.1, p.2.node)) := by
  refine .intro ?_
  induction members with
  | nil => exact .nil
  | cons p rest ih => exact .cons ⟨unquote?_quotedSource p.1, rfl⟩ ih

end Json
end FaultRelay
