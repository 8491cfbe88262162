import FaultRelay.Proofs.Text.Lossy
import FaultRelay.Proofs.Url.Segments
import FaultRelay.Url.Percent

/-!
# What the codes of a text are read as

A code is a percent sign and two characters that stand for an octet.  A text is read from left to
right: a code as its octet, and every other character as itself.  By the standard the two characters
are hexadecimal digits; a text without codes is also made of codes with a plus sign for the first
digit.

**Rules.**
* `Reads`: the octets that a text is read as, for any kind of codes.
* `Cursor.run?`: the loop over the places of a text, in which a read outside of it fails.

**Results.**
* `reads_hex_iff`, `reads_signed_iff`: octets are decoded as the text is read.
* `Cursor.run?_eq`: the loop ends at the end of the text without a read outside of it.
* `decodeText_standard_iff`: a text is decoded by the standard exactly when it has no code with a sign.
-/

namespace FaultRelay
namespace Url

open Text

/-! ### Reading a text -/

/-- The octet that two hexadecimal digits stand for. -/
def hexCode? (x y : Char) : Option UInt8 := do
  let high ← Hex.value? x
  let low ← Hex.value? y
  return UInt8.ofNat (high * 16 + low)

/-- The octet that two digits stand for; a plus sign may take the place of the first one. -/
def signedCode? (x y : Char) : Option UInt8 :=
  if x = '+' then hexCode? '0' y else hexCode? x y

/-- A text begins with a code. -/
def BeginsWithCode (code? : Char → Char → Option UInt8) : List Char → Prop
  | '%' :: x :: y :: _ => (code? x y).isSome
  | _ => False

/-- The octets that a text is read as: those of its codes, and of the characters between them. -/
inductive Reads (code? : Char → Char → Option UInt8) : List Char → List UInt8 → Prop
  | nil : Reads code? [] []
  | code {x y : Char} {octet : UInt8} {rest : List Char} {octets : List UInt8}
      (hcode : code? x y = some octet) (hrest : Reads code? rest octets) :
      Reads code? ('%' :: x :: y :: rest) (octet :: octets)
  | itself {c : Char} {rest : List Char} {octets : List UInt8}
      (hother : ¬BeginsWithCode code? (c :: rest)) (hrest : Reads code? rest octets) :
      Reads code? (c :: rest) (String.utf8EncodeChar c ++ octets)

section Reads

variable {code? : Char → Char → Option UInt8} {octet? : UInt8 → UInt8 → Option UInt8}

theorem BeginsWithCode.cases {cs : List Char} (h : BeginsWithCode code? cs) :
    ∃ (x y : Char) (rest : List Char) (octet : UInt8),
      cs = '%' :: x :: y :: rest ∧ code? x y = some octet := by
  unfold BeginsWithCode at h
  split at h
  · next x y rest =>
      obtain ⟨octet, hcode⟩ := Option.isSome_iff_exists.mp h
      exact ⟨x, y, rest, octet, rfl, hcode⟩
  · exact h.elim

theorem not_beginsWithCode {c : Char} (hc : c ≠ '%') (rest : List Char) :
    ¬BeginsWithCode code? (c :: rest) := by
  intro h
  obtain ⟨x, y, more, octet, hcs, -⟩ := h.cases
  exact hc (List.cons.inj hcs).1

/-- Every text is read as some octets. -/
theorem exists_reads (code? : Char → Char → Option UInt8) :
    (cs : List Char) → ∃ octets : List UInt8, Reads code? cs octets
  | [] => ⟨[], .nil⟩
  | c :: rest => by
      by_cases hcode : BeginsWithCode code? (c :: rest)
      · obtain ⟨x, y, more, octet, hcs, hoctet⟩ := hcode.cases
        obtain ⟨octets, hmore⟩ := exists_reads code? more
        rw [hcs]
        exact ⟨_, .code hoctet hmore⟩
      · obtain ⟨octets, hrest⟩ := exists_reads code? rest
        exact ⟨_, .itself hcode hrest⟩
termination_by cs => cs.length
decreasing_by
  · rw [hcs]
    simp only [List.length_cons]
    omega
  · simp

/-- Codes of characters and codes of octets that are the same within ASCII, where all codes are. -/
structure SameCodes (octet? : UInt8 → UInt8 → Option UInt8)
    (code? : Char → Char → Option UInt8) : Prop where
  ascii : ∀ x y : Char, x.toNat < 128 → y.toNat < 128 →
    octet? (UInt8.ofNat x.toNat) (UInt8.ofNat y.toNat) = code? x y
  chars : ∀ x y : Char, (code? x y).isSome → x.toNat < 128 ∧ y.toNat < 128
  octets : ∀ x y : UInt8, (octet? x y).isSome → x.toNat < 128 ∧ y.toNat < 128

/-- An octet that begins no code stands for itself. -/
theorem decodeOctetsBy_itself {b : UInt8} {rest : List UInt8}
    (h : ∀ (x y : UInt8) (more : List UInt8), b = 0x25 → rest = x :: y :: more → octet? x y = none) :
    decodeOctetsBy octet? (b :: rest) = b :: decodeOctetsBy octet? rest := by
  match rest, h with
  | [], _ => rfl
  | [_], _ => rfl
  | x :: y :: more, h =>
      rw [decodeOctetsBy]
      split
      · next hb => rw [h x y more hb rfl]
      · rfl

theorem decodeOctetsBy_append {before : List UInt8} (h : ∀ b ∈ before, b ≠ 0x25)
    (rest : List UInt8) :
    decodeOctetsBy octet? (before ++ rest) = before ++ decodeOctetsBy octet? rest := by
  induction before with
  | nil => rfl
  | cons b before ih =>
      rw [List.cons_append, List.cons_append, ← ih fun x hx => h x (.tail _ hx)]
      exact decodeOctetsBy_itself fun _ _ _ hb => absurd hb (h b (.head _))

/-- The first octet of a text is that of its first character, if either is of ASCII. -/
theorem exists_char_of_octets {cs : List Char} {b : UInt8} {rest : List UInt8}
    (h : Utf8.octets cs = b :: rest) (hb : b.toNat < 128) :
    ∃ (c : Char) (more : List Char), cs = c :: more ∧ c.toNat < 128 ∧ b = UInt8.ofNat c.toNat ∧
      rest = Utf8.octets more := by
  cases cs with
  | nil => cases h
  | cons c more =>
      have hc : c.toNat < 128 := by
        by_contra hbeyond
        have hmem : b ∈ String.utf8EncodeChar c := by
          rw [Utf8.octets_cons] at h
          cases henc : String.utf8EncodeChar c with
          | nil => exact absurd henc (String.utf8EncodeChar_ne_nil)
          | cons first others =>
              rw [henc, List.cons_append] at h
              rw [(List.cons.inj h).1]
              exact List.mem_cons_self
        exact absurd (Utf8.le_of_mem_encodeChar (Nat.not_lt.mp hbeyond) hmem) (Nat.not_le.mpr hb)
      rw [Utf8.octets_of_ascii hc] at h
      obtain ⟨hfirst, hrest⟩ := List.cons.inj h
      exact ⟨c, more, rfl, hc, hfirst.symm, hrest.symm⟩

theorem ofNat_eq_percent {c : Char} (hc : c.toNat < 128) (h : UInt8.ofNat c.toNat = 0x25) :
    c = '%' := by
  have hback := Utf8.toNat_ofNat_of_ascii hc
  rw [h] at hback
  exact hback.symm

/-- The octets of a text are decoded as the text is read. -/
theorem Reads.decodeOctetsBy_eq (hsame : SameCodes octet? code?) {cs : List Char}
    {octets : List UInt8} (h : Reads code? cs octets) :
    decodeOctetsBy octet? (Utf8.octets cs) = octets := by
  induction h with
  | nil => rfl
  | @code x y octet rest octets hcode hrest ih =>
      obtain ⟨hx, hy⟩ := hsame.chars x y (by rw [hcode]; rfl)
      rw [Utf8.octets_of_ascii (c := '%') (by decide), Utf8.octets_of_ascii hx,
        Utf8.octets_of_ascii hy, decodeOctetsBy, if_pos (by decide), hsame.ascii x y hx hy, hcode]
      exact congrArg (octet :: ·) ih
  | @itself c rest octets hother hrest ih =>
      by_cases hc : c = '%'
      · subst hc
        rw [Utf8.octets_of_ascii (by decide), Utf8.encodeChar_of_ascii (by decide),
          decodeOctetsBy_itself, ih]
        · rfl
        · -- Digits are of ASCII, so two octets that are digits are those of two characters.
          intro x y more _ hmore
          by_contra hcode
          have hsome := Option.isSome_iff_ne_none.mpr hcode
          obtain ⟨hfirst, hsecond⟩ := hsame.octets x y hsome
          obtain ⟨x, rest, rfl, hx, rfl, hrest⟩ := exists_char_of_octets hmore hfirst
          obtain ⟨y, rest, rfl, hy, rfl, -⟩ := exists_char_of_octets hrest.symm hsecond
          rw [hsame.ascii x y hx hy] at hsome
          exact hother hsome
      · have hoctets : ∀ b ∈ String.utf8EncodeChar c, b ≠ 0x25 := by
          rintro b hb rfl
          rcases Nat.lt_or_ge c.toNat 128 with hascii | hbeyond
          · rw [Utf8.encodeChar_of_ascii hascii, List.mem_singleton] at hb
            exact hc (ofNat_eq_percent hascii hb.symm)
          · exact absurd (Utf8.le_of_mem_encodeChar hbeyond hb) (by decide)
        rw [Utf8.octets_cons, decodeOctetsBy_append hoctets, ih]

theorem reads_iff (hsame : SameCodes octet? code?) {cs : List Char} {octets : List UInt8} :
    Reads code? cs octets ↔ octets = decodeOctetsBy octet? (Utf8.octets cs) := by
  refine ⟨fun h => (h.decodeOctetsBy_eq hsame).symm, ?_⟩
  rintro rfl
  obtain ⟨octets, hreads⟩ := exists_reads code? cs
  rw [hreads.decodeOctetsBy_eq hsame]
  exact hreads

end Reads

/-! ### The two kinds of codes -/

section Digits

theorem toNat_lt_of_value? {c : Char} (h : (Hex.value? c).isSome) : c.toNat < 128 := by
  have hbound : c.val ≤ '9'.val ∨ c.val ≤ 'f'.val ∨ c.val ≤ 'F'.val := by
    unfold Hex.value? at h
    split at h
    · next hrange => exact Or.inl hrange.2
    · split at h
      · next hrange => exact Or.inr (Or.inl hrange.2)
      · split at h
        · next hrange => exact Or.inr (Or.inr hrange.2)
        · cases h
  rcases hbound with hle | hle | hle
  all_goals exact Nat.lt_of_le_of_lt (UInt32.le_iff_toNat_le.mp hle) (by decide)

theorem toNat_ofNat_octet (b : UInt8) : (Char.ofNat b.toNat).toNat = b.toNat := by
  have hlt := b.toNat_lt
  have hvalid : b.toNat.isValidChar := Or.inl (by omega)
  rw [Char.ofNat, dif_pos hvalid]
  rfl

theorem isSome_hexCode?_iff {x y : Char} :
    (hexCode? x y).isSome ↔ (Hex.value? x).isSome ∧ (Hex.value? y).isSome := by
  cases hx : Hex.value? x with
  | none => simp [hexCode?, hx]
  | some high =>
      cases hy : Hex.value? y with
      | none => simp [hexCode?, hx, hy]
      | some low => simp [hexCode?, hx, hy]

theorem hexOctet?_eq (x y : UInt8) :
    hexOctet? x y = hexCode? (Char.ofNat x.toNat) (Char.ofNat y.toNat) := rfl

theorem sameCodes_hex : SameCodes hexOctet? hexCode? where
  ascii x y hx hy := by
    rw [hexOctet?_eq, Utf8.toNat_ofNat_of_ascii hx, Utf8.toNat_ofNat_of_ascii hy]
  chars x y h := by
    obtain ⟨hx, hy⟩ := isSome_hexCode?_iff.mp h
    exact ⟨toNat_lt_of_value? hx, toNat_lt_of_value? hy⟩
  octets x y h := by
    obtain ⟨hx, hy⟩ := isSome_hexCode?_iff.mp h
    rw [← toNat_ofNat_octet x, ← toNat_ofNat_octet y]
    exact ⟨toNat_lt_of_value? hx, toNat_lt_of_value? hy⟩

theorem ofNat_eq_plus_iff {c : Char} (hc : c.toNat < 128) : UInt8.ofNat c.toNat = 0x2B ↔ c = '+' := by
  constructor
  · intro h
    have hback := Utf8.toNat_ofNat_of_ascii hc
    rw [h] at hback
    exact hback.symm
  · rintro rfl
    rfl

theorem sameCodes_signed : SameCodes signedOctet? signedCode? where
  ascii x y hx hy := by
    have hzero := sameCodes_hex.ascii '0' y (by decide) hy
    simp only [signedOctet?, signedCode?, ofNat_eq_plus_iff hx, sameCodes_hex.ascii x y hx hy]
    rw [← hzero]
    rfl
  chars x y h := by
    unfold signedCode? at h
    split at h
    · next hx => exact ⟨by rw [hx]; decide, (sameCodes_hex.chars _ _ h).2⟩
    · exact sameCodes_hex.chars x y h
  octets x y h := by
    unfold signedOctet? at h
    split at h
    · next hx => exact ⟨by rw [hx]; decide, (sameCodes_hex.octets _ _ h).2⟩
    · exact sameCodes_hex.octets x y h

/-- By the standard, octets are decoded as the text is read. -/
theorem reads_hex_iff {cs : List Char} {octets : List UInt8} :
    Reads hexCode? cs octets ↔ octets = decodeOctets (Utf8.octets cs) :=
  reads_iff sameCodes_hex

theorem reads_signed_iff {cs : List Char} {octets : List UInt8} :
    Reads signedCode? cs octets ↔ octets = decodeOctetsBy signedOctet? (Utf8.octets cs) :=
  reads_iff sameCodes_signed

end Digits

/-! ### Codes with a sign -/

/-- A percent sign, a plus sign and a hexadecimal digit stand side by side in a text. -/
def HoldsSignedCode (cs : List Char) : Prop :=
  ∃ digit : Char, (Hex.value? digit).isSome ∧ ['%', '+', digit] <:+: cs

section Signed

variable {cs : List Char}

/-- Every code by the standard is a code where signs are allowed. -/
theorem signedCode?_of_hexCode? {x y : Char} (h : (hexCode? x y).isSome) :
    x ≠ '+' ∧ signedCode? x y = hexCode? x y := by
  have hx : x ≠ '+' := by
    rintro rfl
    cases (isSome_hexCode?_iff.mp h).1
  exact ⟨hx, if_neg hx⟩

theorem holdsSignedCode_of_signed {y : Char} (h : (signedCode? '+' y).isSome) (rest : List Char) :
    HoldsSignedCode ('%' :: '+' :: y :: rest) :=
  ⟨y, (isSome_hexCode?_iff.mp h).2, (List.prefix_append ['%', '+', y] rest).isInfix⟩

theorem HoldsSignedCode.cons (h : HoldsSignedCode cs) (c : Char) : HoldsSignedCode (c :: cs) := by
  obtain ⟨digit, hdigit, hinfix⟩ := h
  exact ⟨digit, hdigit, List.infix_cons hinfix⟩

/-- Where no code with a sign begins, one of the rest is meant. -/
theorem HoldsSignedCode.of_cons {c : Char} (h : HoldsSignedCode (c :: cs))
    (hother : ∀ (digit : Char) (rest : List Char), (Hex.value? digit).isSome → c = '%' →
      cs ≠ '+' :: digit :: rest) :
    HoldsSignedCode cs := by
  obtain ⟨digit, hdigit, hinfix⟩ := h
  rcases List.infix_cons_iff.mp hinfix with ⟨rest, hbegins⟩ | hrest
  · obtain ⟨hc, hcs⟩ := List.cons.inj hbegins
    exact absurd hcs.symm (hother digit rest hdigit hc.symm)
  · exact ⟨digit, hdigit, hrest⟩

theorem HoldsSignedCode.of_cons_of_ne {c : Char} (h : HoldsSignedCode (c :: cs)) (hc : c ≠ '%') :
    HoldsSignedCode cs :=
  h.of_cons fun _ _ _ heq => absurd heq hc

theorem ne_percent_of_value? {c : Char} (h : (Hex.value? c).isSome) : c ≠ '%' := by
  rintro rfl
  cases h

/-- A text without codes with a sign is read by the standard. -/
theorem Reads.signed {octets : List UInt8} (h : Reads hexCode? cs octets)
    (hnone : ¬HoldsSignedCode cs) : Reads signedCode? cs octets := by
  induction h with
  | nil => exact .nil
  | @code x y octet rest octets hcode hrest ih =>
      obtain ⟨-, hsame⟩ := signedCode?_of_hexCode? (x := x) (y := y) (by rw [hcode]; rfl)
      exact .code (hsame.trans hcode) (ih fun h => hnone (((h.cons y).cons x).cons '%'))
  | @itself c rest octets hother hrest ih =>
      refine .itself ?_ (ih fun h => hnone (h.cons c))
      intro hcode
      obtain ⟨x, y, more, octet, hcs, hoctet⟩ := hcode.cases
      rw [hcs] at hnone hother
      by_cases hx : x = '+'
      · subst hx
        exact hnone (holdsSignedCode_of_signed (by rw [hoctet]; rfl) more)
      · have hsame : signedCode? x y = hexCode? x y := if_neg hx
        refine hother (?_ : (hexCode? x y).isSome)
        rw [← hsame, hoctet]
        rfl

theorem Reads.unique {octets others : List UInt8} (h : Reads hexCode? cs octets)
    (hothers : Reads hexCode? cs others) : others = octets :=
  (reads_hex_iff.mp hothers).trans (reads_hex_iff.mp h).symm

theorem lt_of_value? {c : Char} {n : Nat} (h : Hex.value? c = some n) : n < 16 := by
  have hascii := toNat_lt_of_value? (c := c) (by rw [h]; rfl)
  have hlow := of_ascii (P := fun c => decide ((Hex.value? c).getD 0 < 16)) (Q := fun _ => true)
    hascii rfl (by decide)
  rw [h] at hlow
  exact of_decide_eq_true hlow

/-- A code with a sign has a digit, and stands for an octet of ASCII. -/
theorem digit_of_signed {y : Char} {octet : UInt8} (h : signedCode? '+' y = some octet) :
    (Hex.value? y).isSome ∧ octet.toNat < 0x80 := by
  cases hy : Hex.value? y with
  | none => simp [signedCode?, hexCode?, hy] at h
  | some low =>
      have hlow := lt_of_value? hy
      have hoctet : octet = UInt8.ofNat (0 * 16 + low) := by
        simpa [signedCode?, hexCode?, hy, show Hex.value? '0' = some 0 from rfl] using h.symm
      refine ⟨rfl, ?_⟩
      rw [hoctet, Utf8.toNat_ofNat_of_lt] <;> omega

/--
The standard reads no fewer characters than there are when signs are allowed, and more of them when
there is a code with a sign: it reads three characters where the other reading has one.
-/
theorem Reads.length_scan {signed standard : List UInt8} (hsigned : Reads signedCode? cs signed)
    (hstandard : Reads hexCode? cs standard) {pending : Option Utf8.Pending}
    (hpending : Utf8.IsBeyondAscii pending) :
    (Utf8.scan pending signed).length ≤ (Utf8.scan pending standard).length ∧
      (HoldsSignedCode cs →
        (Utf8.scan pending signed).length < (Utf8.scan pending standard).length) := by
  induction hsigned generalizing standard pending with
  | nil =>
      cases hstandard
      refine ⟨Nat.le_refl _, ?_⟩
      rintro ⟨digit, -, hinfix⟩
      exact absurd (List.eq_nil_of_infix_nil hinfix) (List.cons_ne_nil _ _)
  | @code x y octet rest signed hcode hrest ih =>
      obtain ⟨plain, hplain⟩ := exists_reads hexCode? rest
      by_cases hx : x = '+'
      · subst hx
        -- One octet of ASCII stands where the standard has the three characters themselves.
        obtain ⟨hdigit, hoctet⟩ := digit_of_signed hcode
        have hy := toNat_lt_of_value? hdigit
        have hwritten : Reads hexCode? ('%' :: '+' :: y :: rest)
            (0x25 :: 0x2B :: UInt8.ofNat y.toNat :: plain) := by
          have hlast := Reads.itself (not_beginsWithCode (ne_percent_of_value? hdigit) rest) hplain
          rw [Utf8.encodeChar_of_ascii hy] at hlast
          refine .itself ?_ (.itself (not_beginsWithCode (by decide) _) hlast)
          exact Bool.false_ne_true
        have hfresh : Utf8.IsBeyondAscii none := trivial
        obtain ⟨hle, -⟩ := ih hplain hfresh
        rw [hwritten.unique hstandard, Utf8.scan_ascii hpending hoctet,
          Utf8.scan_ascii hpending (by decide), Utf8.scan_ascii hfresh (by decide),
          Utf8.scan_ascii hfresh (by rw [Utf8.toNat_ofNat_of_lt] <;> omega)]
        simp only [List.length_append, List.length_cons, Utf8.broken, Option.toList_none,
          List.map_nil, List.nil_append]
        omega
      · have hsame : signedCode? x y = hexCode? x y := if_neg hx
        obtain ⟨hxdigit, hydigit⟩ := isSome_hexCode?_iff.mp (by rw [← hsame, hcode]; rfl)
        obtain ⟨read, next, hnext, hread⟩ := Utf8.exists_scan_cons hpending octet
        obtain ⟨hle, hlt⟩ := ih hplain hnext
        have hlater : HoldsSignedCode ('%' :: x :: y :: rest) → HoldsSignedCode rest := by
          intro h
          have hfirst := h.of_cons fun _ _ _ _ heq => hx (List.cons.inj heq).1
          have hsecond := hfirst.of_cons_of_ne (ne_percent_of_value? hxdigit)
          exact hsecond.of_cons_of_ne (ne_percent_of_value? hydigit)
        rw [(Reads.code (hsame.symm.trans hcode) hplain).unique hstandard, hread, hread,
          List.length_append, List.length_append]
        exact ⟨Nat.add_le_add_left hle _, fun h => Nat.add_lt_add_left (hlt (hlater h)) _⟩
  | @itself c rest signed hother hrest ih =>
      obtain ⟨plain, hplain⟩ := exists_reads hexCode? rest
      have hstandardOther : ¬BeginsWithCode hexCode? (c :: rest) := by
        intro hcode
        obtain ⟨x, y, more, octet, hcs, hoctet⟩ := hcode.cases
        obtain ⟨-, hsame⟩ := signedCode?_of_hexCode? (x := x) (y := y) (by rw [hoctet]; rfl)
        rw [hcs] at hother
        refine hother (?_ : (signedCode? x y).isSome)
        rw [hsame, hoctet]
        rfl
      obtain ⟨read, next, hnext, hread⟩ := Utf8.exists_scan_append hpending (String.utf8EncodeChar c)
      obtain ⟨hle, hlt⟩ := ih hplain hnext
      have hlater : HoldsSignedCode (c :: rest) → HoldsSignedCode rest := by
        intro h
        refine h.of_cons fun digit more hdigit hc hrest => ?_
        rw [hc, hrest] at hother
        exact hother (isSome_hexCode?_iff.mpr ⟨rfl, hdigit⟩)
      rw [(Reads.itself hstandardOther hplain).unique hstandard, hread, hread,
        List.length_append, List.length_append]
      exact ⟨Nat.add_le_add_left hle _, fun h => Nat.add_lt_add_left (hlt (hlater h)) _⟩

end Signed

/-! ### The loop over the places of a text -/

/-- Where the loop is: the place that it looks at, and what it has decoded. -/
structure Cursor where
  place : Nat
  decoded : List UInt8

namespace Cursor

variable {octets before rest : List UInt8}

/-- One round of the loop; a read outside of the text fails. -/
def step? (octets : List UInt8) (c : Cursor) : Option Cursor := do
  let b ← octets[c.place]?
  if b = 0x25 ∧ c.place + 2 < octets.length then
    let x ← octets[c.place + 1]?
    let y ← octets[c.place + 2]?
    match signedOctet? x y with
    | some octet => return ⟨c.place + 3, c.decoded ++ [octet]⟩
    | none => return ⟨c.place + 1, c.decoded ++ [b]⟩
  else return ⟨c.place + 1, c.decoded ++ [b]⟩

/-- Rounds up to the end of the text; without a result when a round fails or another one is needed. -/
def run? (octets : List UInt8) : Nat → Cursor → Option Cursor
  | 0, c => if c.place < octets.length then none else some c
  | rounds + 1, c =>
      if c.place < octets.length then (c.step? octets).bind (run? octets rounds) else some c

theorem getElem?_passed (before rest : List UInt8) (i : Nat) :
    (before ++ rest)[before.length + i]? = rest[i]? := by
  rw [List.getElem?_append_right (Nat.le_add_right _ _), Nat.add_sub_cancel_left]

/-- A round passes a code or one octet, and adds what the decoding has for it. -/
theorem exists_step? (before : List UInt8) (b : UInt8) (rest decoded : List UInt8) :
    ∃ (passed more : List UInt8) (octet : UInt8), b :: rest = passed ++ more ∧ passed ≠ [] ∧
      step? (before ++ b :: rest) ⟨before.length, decoded⟩ =
        some ⟨before.length + passed.length, decoded ++ [octet]⟩ ∧
      decodeOctetsBy signedOctet? (b :: rest) = octet :: decodeOctetsBy signedOctet? more := by
  have hplace := getElem?_passed before (b :: rest)
  have hfirst : (before ++ b :: rest)[before.length]? = some b := hplace 0
  by_cases hcode : b = 0x25 ∧ before.length + 2 < (before ++ b :: rest).length
  · obtain ⟨x, y, more, rfl⟩ : ∃ x y more, rest = x :: y :: more := by
      have hlength := hcode.2
      rw [List.length_append, List.length_cons] at hlength
      match rest with
      | [] => simp at hlength
      | [_] => simp at hlength
      | x :: y :: more => exact ⟨x, y, more, rfl⟩
    have hx : (before ++ b :: x :: y :: more)[before.length + 1]? = some x := hplace 1
    have hy : (before ++ b :: x :: y :: more)[before.length + 2]? = some y := hplace 2
    cases hoctet : signedOctet? x y with
    | some octet =>
        refine ⟨[b, x, y], more, octet, rfl, List.cons_ne_nil _ _, ?_, ?_⟩
        · rw [step?, hfirst, Option.bind_eq_bind, Option.bind_some, if_pos hcode, hx, hy]
          simp [hoctet]
        · rw [decodeOctetsBy, if_pos hcode.1, hoctet]
    | none =>
        refine ⟨[b], x :: y :: more, b, rfl, List.cons_ne_nil _ _, ?_, ?_⟩
        · rw [step?, hfirst, Option.bind_eq_bind, Option.bind_some, if_pos hcode, hx, hy]
          simp [hoctet]
        · rw [decodeOctetsBy, if_pos hcode.1, hoctet]
  · refine ⟨[b], rest, b, rfl, List.cons_ne_nil _ _, ?_, decodeOctetsBy_itself ?_⟩
    · rw [step?, hfirst, Option.bind_eq_bind, Option.bind_some, if_neg hcode]
      rfl
    · rintro x y more hb rfl
      refine absurd ⟨hb, ?_⟩ hcode
      simp only [List.length_append, List.length_cons]
      omega

/-- The loop ends at the end of the text, having read nothing outside of it. -/
theorem run?_eq {rounds : Nat} (hrounds : rest.length ≤ rounds) (decoded : List UInt8) :
    run? (before ++ rest) rounds ⟨before.length, decoded⟩ =
      some ⟨(before ++ rest).length, decoded ++ decodeOctetsBy signedOctet? rest⟩ := by
  induction rounds generalizing before rest decoded with
  | zero =>
      obtain rfl := List.eq_nil_of_length_eq_zero (Nat.le_zero.mp hrounds)
      simp [run?, decodeOctetsBy]
  | succ rounds ih =>
      cases rest with
      | nil => simp [run?, decodeOctetsBy]
      | cons b rest =>
          obtain ⟨passed, more, octet, hsplit, hpassed, hstep, hdecoded⟩ :=
            exists_step? before b rest decoded
          have hwithin : before.length < (before ++ b :: rest).length := by simp
          have hless : more.length ≤ rounds := by
            have hlength := congrArg List.length hsplit
            have hsome := List.length_pos_iff.mpr hpassed
            simp only [List.length_cons, List.length_append] at hlength hrounds
            omega
          rw [run?, if_pos hwithin, hstep, Option.bind_some, hdecoded, hsplit, ← List.append_assoc,
            ← List.length_append, ih hless, List.append_assoc decoded, List.singleton_append]

end Cursor

/-! ### Decoding by the standard -/

/--
The loop over the octets of a text ends at their end without a read outside of them, and the text is
the lossy reading of what the loop decodes.  That is the reading by the standard exactly when the
text has no code with a sign.
-/
theorem decodeText_standard_iff (text : String) :
    (∃ decoded : List UInt8,
      Cursor.run? (Utf8.encode text) (Utf8.encode text).length ⟨0, []⟩ =
          some ⟨(Utf8.encode text).length, decoded⟩ ∧
        decodeText text = Utf8.decodeLossy decoded) ∧
      ∃ standard : List UInt8, (∀ octets, Reads hexCode? text.toList octets ↔ octets = standard) ∧
        (decodeText text = Utf8.decodeLossy standard ↔ ¬HoldsSignedCode text.toList) := by
  have hloop : Cursor.run? ([] ++ Utf8.encode text) (Utf8.encode text).length ⟨0, []⟩ = _ :=
    Cursor.run?_eq (Nat.le_refl _) []
  refine ⟨⟨_, hloop, rfl⟩, decodeOctets (Utf8.octets text.toList), fun _ => reads_hex_iff, ?_⟩
  have hstandard : Reads hexCode? text.toList (decodeOctets (Utf8.octets text.toList)) :=
    reads_hex_iff.mpr rfl
  have hsigned : Reads signedCode? text.toList
      (decodeOctetsBy signedOctet? (Utf8.octets text.toList)) := reads_signed_iff.mpr rfl
  rw [decodeText, Utf8.encode_eq]
  constructor
  · intro hsame hcode
    have hfresh : Utf8.IsBeyondAscii none := trivial
    have hlt := (hsigned.length_scan hstandard hfresh).2 hcode
    exact Utf8.decodeLossy_ne (Nat.ne_of_lt hlt) hsame
  · intro hnone
    rw [reads_signed_iff.mp (hstandard.signed hnone)]

/-- A plus sign and a digit after a percent sign are taken for an octet. -/
theorem decodeText_sign :
    Reads hexCode? "%+f".toList (Utf8.octets "%+f".toList) ∧ decodeText "%+f" = "\x0F" ∧
      Utf8.decodeLossy (Utf8.octets "%+f".toList) = "%+f" := by
  refine ⟨reads_hex_iff.mpr (by decide), by decide +kernel, ?_⟩
  exact Utf8.decodeLossy_octets _

end Url
end FaultRelay
