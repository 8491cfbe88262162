import FaultRelay.Proofs.Url.Codes
import FaultRelay.Url.Path

/-!
# Texts in code

A text can be put in code as a whole: its letters and digits stand for themselves, and every other
octet of it is written as a code, with digits in either case.

**Rules.**
* `Carries`: a text as it is carried in code.

**Results.**
* `Carries.reads`, `reads_encodeChars`: a text in code is read as that text.
* `Carries.eq_iff`: only a text of letters and digits is its own code.
* `ne_dots_of_reads`: only a text of one or two dots is taken for a move between places.
* `exists_carries`: every text can be carried.
-/

namespace FaultRelay
namespace Url

open Text

/-! ### Octets in code -/

/-- An octet is written as a code of its own. -/
theorem hexCode?_encodeOctet (b : UInt8) :
    ∃ x y : Char, encodeOctet b = ['%', x, y] ∧ hexCode? x y = some b ∧ x ≠ '/' ∧ y ≠ '/' := by
  have hall : ∀ n : Fin 256,
      hexCode? (Hex.digit (n / 16)).toUpper (Hex.digit (n % 16)).toUpper = some (UInt8.ofNat n) ∧
        (Hex.digit (n / 16)).toUpper ≠ '/' ∧ (Hex.digit (n % 16)).toUpper ≠ '/' := by
    decide +kernel
  obtain ⟨hcode, hx, hy⟩ := hall ⟨b.toNat, b.toNat_lt⟩
  refine ⟨_, _, rfl, ?_, hx, hy⟩
  rw [hcode, UInt8.ofNat_toNat]

theorem reads_flatMap_encodeOctet (octets : List UInt8) {rest : List Char} {more : List UInt8}
    (h : Reads hexCode? rest more) :
    Reads hexCode? (octets.flatMap encodeOctet ++ rest) (octets ++ more) := by
  induction octets with
  | nil => exact h
  | cons b octets ih =>
      obtain ⟨x, y, hwritten, hcode, -, -⟩ := hexCode?_encodeOctet b
      rw [List.flatMap_cons, hwritten]
      exact .code hcode ih

theorem slash_not_mem_flatMap_encodeOctet (octets : List UInt8) :
    '/' ∉ octets.flatMap encodeOctet := by
  intro h
  obtain ⟨b, -, hb⟩ := List.mem_flatMap.mp h
  obtain ⟨x, y, hwritten, -, hx, hy⟩ := hexCode?_encodeOctet b
  rw [hwritten] at hb
  simp only [List.mem_cons, List.not_mem_nil, or_false] at hb
  rcases hb with hb | hb | hb
  · exact absurd hb (by decide)
  · exact hx hb.symm
  · exact hy hb.symm

section EncodeChars

variable {coded : Char → Bool}

/-- A text in which percent signs are put in code is read as it was. -/
theorem reads_encodeChars (hpercent : coded '%' = true) (cs : List Char) :
    Reads hexCode? (encodeChars coded cs) (Utf8.octets cs) := by
  induction cs with
  | nil => exact .nil
  | cons c cs ih =>
      rw [encodeChars] at ih
      rw [encodeChars, List.flatMap_cons, Utf8.octets_cons]
      split
      · have hself : Utf8.encode c.toString = String.utf8EncodeChar c := by
          rw [Utf8.encode_eq, Char.toString, String.toList_singleton, Utf8.octets_cons,
            Utf8.octets_nil, List.append_nil]
        rw [hself]
        exact reads_flatMap_encodeOctet _ ih
      · next hc =>
          refine .itself (not_beginsWithCode ?_ _) ih
          rintro rfl
          exact hc hpercent

theorem slash_not_mem_encodeChars (hslash : coded '/' = true) (cs : List Char) :
    '/' ∉ encodeChars coded cs := by
  intro h
  obtain ⟨c, -, hc⟩ := List.mem_flatMap.mp h
  split at hc
  · exact slash_not_mem_flatMap_encodeOctet _ hc
  · next hcoded =>
      rw [← List.mem_singleton.mp hc] at hcoded
      exact hcoded hslash

end EncodeChars

/-! ### Dots -/

/-- What is taken for dots is read as dots. -/
theorem reads_plainDots {cs : List Char} (h : ∀ c ∈ plainDots cs, c = '.') :
    Reads hexCode? cs (Utf8.octets (plainDots cs)) := by
  have hdot : ∀ dots : List Char, Utf8.octets ('.' :: dots) = 0x2E :: Utf8.octets dots :=
    Utf8.octets_of_ascii (by decide)
  induction cs using plainDots.induct with
  | case1 rest ih =>
      rw [plainDots, hdot]
      exact .code (by decide) (ih fun c hc => h c (.tail _ hc))
  | case2 rest ih =>
      rw [plainDots, hdot]
      exact .code (by decide) (ih fun c hc => h c (.tail _ hc))
  | case3 c rest hlower hupper ih =>
      have hplain : plainDots (c :: rest) = c :: plainDots rest := by
        rw [plainDots]
        · exact hlower
        · exact hupper
      rw [hplain] at h ⊢
      obtain rfl := h c (.head _)
      exact .itself (not_beginsWithCode (by decide) rest) (ih fun c hc => h c (.tail _ hc))
  | case4 => exact .nil

/-- Only a text of dots is taken for dots. -/
theorem eq_dots_of_reads {written cs dots : List Char}
    (hreads : Reads hexCode? written (Utf8.octets cs)) (hdots : ∀ c ∈ dots, c = '.')
    (h : plainDots written = dots) : cs = dots := by
  subst h
  exact Utf8.octets_inj (Reads.unique (reads_plainDots hdots) hreads)

/-- A text that is no move between places is not taken for one when it is written in code. -/
theorem ne_dots_of_reads {written : List Char} {s : String}
    (hreads : Reads hexCode? written (Utf8.octets s.toList)) (hone : s ≠ ".") (htwo : s ≠ "..") :
    plainDots written ≠ ['.'] ∧ plainDots written ≠ ['.', '.'] := by
  constructor
  · intro hdots
    exact hone (String.toList_inj.mp (eq_dots_of_reads hreads (by simp) hdots))
  · intro hdots
    exact htwo (String.toList_inj.mp (eq_dots_of_reads hreads (by simp) hdots))

/-! ### Texts as they are carried -/

/-- The octets of a text and the characters that carry them. -/
inductive Carries : List UInt8 → List Char → Prop
  | nil : Carries [] []
  | plain {c : Char} {octets : List UInt8} {text : List Char} (hplain : c.isAlphanum = true)
      (hrest : Carries octets text) : Carries (UInt8.ofNat c.toNat :: octets) (c :: text)
  | code {b : UInt8} {x y : Char} {octets : List UInt8} {text : List Char}
      (hother : (Char.ofNat b.toNat).isAlphanum = false) (hcode : hexCode? x y = some b)
      (hrest : Carries octets text) : Carries (b :: octets) ('%' :: x :: y :: text)

/-- A text of letters and digits. -/
def IsPlain (cs : List Char) : Prop :=
  ∀ c ∈ cs, c.isAlphanum = true

section Carries

variable {octets : List UInt8} {text cs : List Char}

theorem Carries.reads (h : Carries octets text) : Reads hexCode? text octets := by
  induction h with
  | nil => exact .nil
  | @plain c octets text hplain hrest ih =>
      have hpercent : c ≠ '%' := by
        rintro rfl
        cases hplain
      have hself := Reads.itself (not_beginsWithCode hpercent text) ih
      rw [Utf8.encodeChar_of_ascii (isAscii_of_isAlphanum hplain)] at hself
      exact hself
  | code hother hcode hrest ih => exact .code hcode ih

/-- Every sequence of octets can be carried. -/
theorem exists_carries (octets : List UInt8) : ∃ text : List Char, Carries octets text := by
  induction octets with
  | nil => exact ⟨[], .nil⟩
  | cons b octets ih =>
      obtain ⟨text, htext⟩ := ih
      cases hb : (Char.ofNat b.toNat).isAlphanum with
      | true =>
          have hself : UInt8.ofNat (Char.ofNat b.toNat).toNat = b := by
            rw [toNat_ofNat_octet, UInt8.ofNat_toNat]
          refine ⟨Char.ofNat b.toNat :: text, ?_⟩
          have hcarries := Carries.plain hb htext
          rw [hself] at hcarries
          exact hcarries
      | false =>
          obtain ⟨x, y, -, hcode, -, -⟩ := hexCode?_encodeOctet b
          exact ⟨'%' :: x :: y :: text, .code hb hcode htext⟩

/-- Letters, digits and percent signs are all that is needed. -/
theorem Carries.chars (h : Carries octets text) :
    ∀ c ∈ text, c.isAlphanum = true ∨ c = '%' := by
  have hdigit : ∀ c : Char, (Hex.value? c).isSome = true → c.isAlphanum = true :=
    fun c hc => of_ascii (P := Char.isAlphanum) (Q := fun c => (Hex.value? c).isSome)
      (toNat_lt_of_value? hc) hc (by decide)
  induction h with
  | nil => exact fun c hc => absurd hc List.not_mem_nil
  | plain hplain hrest ih => exact List.forall_mem_cons.mpr ⟨Or.inl hplain, ih⟩
  | code hother hcode hrest ih =>
      obtain ⟨hx, hy⟩ := isSome_hexCode?_iff.mp (by rw [hcode]; rfl)
      exact List.forall_mem_cons.mpr ⟨Or.inr rfl, List.forall_mem_cons.mpr
        ⟨Or.inl (hdigit _ hx), List.forall_mem_cons.mpr ⟨Or.inl (hdigit _ hy), ih⟩⟩⟩

/-- Letters and digits are carried as they are. -/
theorem Carries.eq_of_isPlain (h : Carries (Utf8.octets cs) text) (hplain : IsPlain cs) :
    text = cs := by
  induction cs generalizing text with
  | nil =>
      cases h
      rfl
  | cons c cs ih =>
      have hc := hplain c (.head _)
      have hascii := isAscii_of_isAlphanum hc
      rw [Utf8.octets_of_ascii hascii] at h
      generalize hb : UInt8.ofNat c.toNat = b at h
      have hback : Char.ofNat b.toNat = c := by
        rw [← hb, Utf8.toNat_ofNat_of_ascii hascii]
      cases h with
      | @plain d _ text hd hrest =>
          rw [Utf8.toNat_ofNat_of_ascii (isAscii_of_isAlphanum hd)] at hback
          rw [hback, ih hrest fun c hc => hplain c (.tail _ hc)]
      | code hother hcode hrest =>
          rw [hback, hc] at hother
          cases hother

/-- A text is carried in no fewer characters, and in as many only when it is plain. -/
theorem Carries.length (h : Carries octets text) :
    octets.length ≤ text.length ∧
      (text.length ≤ octets.length → octets = Utf8.octets text ∧ IsPlain text) := by
  induction h with
  | nil => exact ⟨Nat.le_refl _, fun _ => ⟨rfl, fun c hc => absurd hc List.not_mem_nil⟩⟩
  | @plain c octets text hplain hrest ih =>
      refine ⟨Nat.succ_le_succ ih.1, fun hle => ?_⟩
      obtain ⟨hsame, hall⟩ := ih.2 (Nat.le_of_succ_le_succ hle)
      rw [hsame, ← Utf8.octets_of_ascii (isAscii_of_isAlphanum hplain)]
      exact ⟨rfl, List.forall_mem_cons.mpr ⟨hplain, hall⟩⟩
  | code hother hcode hrest ih =>
      have hrest := ih.1
      simp only [List.length_cons]
      exact ⟨by omega, fun hle => absurd hle (by omega)⟩

theorem Carries.length_chars (h : Carries (Utf8.octets cs) text) :
    cs.length ≤ text.length ∧ (text.length ≤ cs.length → IsPlain cs) := by
  obtain ⟨hle, hplain⟩ := h.length
  have hchars := Utf8.length_le_octets cs
  refine ⟨Nat.le_trans hchars hle, fun hlength => ?_⟩
  obtain ⟨hsame, hall⟩ := hplain (Nat.le_trans hlength hchars)
  rw [Utf8.octets_inj hsame]
  exact hall

/-- Only a text of letters and digits is its own code. -/
theorem Carries.eq_iff (h : Carries (Utf8.octets cs) text) : text = cs ↔ IsPlain cs := by
  refine ⟨fun heq => h.length_chars.2 (Nat.le_of_eq (congrArg List.length heq)), ?_⟩
  exact h.eq_of_isPlain

end Carries

end Url
end FaultRelay
