import FaultRelay.Proofs.Json.Grammar
import Mathlib.Data.List.Basic
import Mathlib.Tactic.IntervalCases

/-!
# Lexemes and their beginnings

The lexer reads one octet at a time, and stands between two lexemes or inside of one.

**Rules.**
* `Lexeme source t`: the source of a lexeme.
* `NumberPart.Remainder part more`, `Scan.Remainder s more t`: what may still come of a number or
  of any lexeme that has begun.

**Results.**
* `NumberPart.remainder_cons_iff`: one more octet of a number is one step of the lexer.
* `Scan.Remainder.next`, `Scan.advances_of_step?`: so is one more octet of any lexeme, and a step
  of the lexer is nothing else.
* `Scan.start?_of_lexeme`, `Scan.begins_of_start?`: the same for the first octet.
-/

namespace FaultRelay
namespace Json

open Text

/-! ### Octets as characters -/

section Octets

variable {b x : UInt8}

theorem toNat_octetChar (b : UInt8) : (Char.ofNat b.toNat).toNat = b.toNat := by
  have hlt := b.toNat_lt
  have hvalid : b.toNat.isValidChar := .inl (by omega)
  rw [Char.ofNat, dif_pos hvalid]
  rfl

theorem octetChar_eq_iff : Char.ofNat b.toNat = Char.ofNat x.toNat ↔ b = x := by
  constructor
  · intro h
    have hnat := congrArg Char.toNat h
    rw [toNat_octetChar, toNat_octetChar] at hnat
    exact UInt8.toNat_inj.1 hnat
  · rintro rfl
    rfl

theorem isDigit_octetChar_iff : (Char.ofNat b.toNat).isDigit = true ↔ IsDigit b := by
  rw [Char.isDigit_iff_toNat, toNat_octetChar, IsDigit, UInt8.le_iff_toNat_le,
    UInt8.le_iff_toNat_le]
  rfl

theorem octetChar_le_iff : Char.ofNat b.toNat ≤ Char.ofNat x.toNat ↔ b ≤ x := by
  rw [Char.le_def, UInt32.le_iff_toNat_le, UInt8.le_iff_toNat_le]
  change (Char.ofNat b.toNat).toNat ≤ (Char.ofNat x.toNat).toNat ↔ _
  rw [toNat_octetChar, toNat_octetChar]

theorem isHexDigit_iff : (Hex.value? (Char.ofNat b.toNat)).isSome = true ↔ IsHexDigit b := by
  have hbetween : ∀ x y : UInt8,
      (Char.ofNat x.toNat ≤ Char.ofNat b.toNat ∧ Char.ofNat b.toNat ≤ Char.ofNat y.toNat) ↔
        x ≤ b ∧ b ≤ y :=
    fun _ _ => and_congr octetChar_le_iff octetChar_le_iff
  have hdecimal : ('0' ≤ Char.ofNat b.toNat ∧ Char.ofNat b.toNat ≤ '9') ↔ _ :=
    hbetween 0x30 0x39
  have hsmall : ('a' ≤ Char.ofNat b.toNat ∧ Char.ofNat b.toNat ≤ 'f') ↔ _ :=
    hbetween 0x61 0x66
  have hlarge : ('A' ≤ Char.ofNat b.toNat ∧ Char.ofNat b.toNat ≤ 'F') ↔ _ :=
    hbetween 0x41 0x46
  simp only [Hex.value?, hdecimal, hsmall, hlarge, IsHexDigit, IsDigit]
  split
  · simp_all
  · split
    · simp_all
    · split <;> simp_all

end Octets

/-! ### Numbers -/

namespace NumberPart

/-- What may still come of a number. -/
def Remainder (part : NumberPart) (more : List UInt8) : Prop :=
  match part with
  | .sign => ∃ whole fraction exponent : List UInt8, Whole whole ∧ Fraction fraction ∧
      Exponent exponent ∧ more = whole ++ (fraction ++ exponent)
  | .zero => ∃ fraction exponent : List UInt8, Fraction fraction ∧ Exponent exponent ∧
      more = fraction ++ exponent
  | .digits => ∃ ds fraction exponent : List UInt8, Digits ds ∧ Fraction fraction ∧
      Exponent exponent ∧ more = ds ++ (fraction ++ exponent)
  | .point => ∃ ds exponent : List UInt8, ds ≠ [] ∧ Digits ds ∧ Exponent exponent ∧
      more = ds ++ exponent
  | .fraction => ∃ ds exponent : List UInt8, Digits ds ∧ Exponent exponent ∧
      more = ds ++ exponent
  | .exponent => ∃ sign ds : List UInt8, sign ∈ [[], [0x2B], [0x2D]] ∧ ds ≠ [] ∧ Digits ds ∧
      more = sign ++ ds
  | .exponentSign => more ≠ [] ∧ Digits more
  | .exponentDigits => Digits more

variable {part : NumberPart} {b : UInt8} {more : List UInt8}

theorem digits_cons {ds : List UInt8} : Digits (b :: ds) ↔ IsDigit b ∧ Digits ds :=
  List.forall_mem_cons

theorem digits_nil : Digits [] := by
  simp [Digits]

/-- A number may end exactly where nothing may be missing. -/
theorem remainder_nil_iff : part.Remainder [] ↔ part.complete = true := by
  have hwhole : ¬Whole [] := nofun
  cases part with
  | zero => exact ⟨fun _ => rfl, fun _ => ⟨[], [], .none, .none, rfl⟩⟩
  | digits => exact ⟨fun _ => rfl, fun _ => ⟨[], [], [], digits_nil, .none, .none, rfl⟩⟩
  | fraction => exact ⟨fun _ => rfl, fun _ => ⟨[], [], digits_nil, .none, rfl⟩⟩
  | exponentDigits => exact ⟨fun _ => rfl, fun _ => digits_nil⟩
  | sign =>
      refine ⟨?_, nofun⟩
      rintro ⟨whole, _, _, hwhole', _, _, heq⟩
      rw [List.nil_eq, List.append_eq_nil_iff] at heq
      exact absurd (heq.1 ▸ hwhole') hwhole
  | point =>
      refine ⟨?_, nofun⟩
      rintro ⟨ds, _, hne, _, _, heq⟩
      rw [List.nil_eq, List.append_eq_nil_iff] at heq
      exact absurd heq.1 hne
  | exponent =>
      refine ⟨?_, nofun⟩
      rintro ⟨_, ds, _, hne, _, heq⟩
      rw [List.nil_eq, List.append_eq_nil_iff] at heq
      exact absurd heq.2 hne
  | exponentSign => exact ⟨fun h => absurd rfl h.1, nofun⟩

theorem exponentDigits_cons_iff :
    exponentDigits.Remainder (b :: more) ↔ IsDigit b ∧ exponentDigits.Remainder more :=
  digits_cons

theorem exponentSign_cons_iff :
    exponentSign.Remainder (b :: more) ↔ IsDigit b ∧ exponentDigits.Remainder more := by
  simp [Remainder, digits_cons]

theorem exponent_cons_iff :
    exponent.Remainder (b :: more) ↔
      (b = 0x2B ∨ b = 0x2D) ∧ exponentSign.Remainder more ∨
        IsDigit b ∧ exponentDigits.Remainder more := by
  constructor
  · rintro ⟨sign, ds, hsign, hne, hds, heq⟩
    simp only [List.mem_cons, List.not_mem_nil, or_false] at hsign
    rcases hsign with rfl | rfl | rfl
    · rw [List.nil_append] at heq
      exact .inr (digits_cons.1 (heq ▸ hds))
    · cases heq
      exact .inl ⟨.inl rfl, hne, hds⟩
    · cases heq
      exact .inl ⟨.inr rfl, hne, hds⟩
  · rintro (⟨rfl | rfl, hne, hds⟩ | ⟨hb, hds⟩)
    · exact ⟨[0x2B], more, by simp, hne, hds, rfl⟩
    · exact ⟨[0x2D], more, by simp, hne, hds, rfl⟩
    · exact ⟨[], b :: more, by simp, by simp, digits_cons.2 ⟨hb, hds⟩, rfl⟩

theorem exponent_iff :
    Exponent (b :: more) ↔ (b = 0x65 ∨ b = 0x45) ∧ exponent.Remainder more := by
  constructor
  · intro h
    cases h with
    | digits he hsign hne hds => exact ⟨by simpa using he, _, _, hsign, hne, hds, rfl⟩
  · rintro ⟨hb, sign, ds, hsign, hne, hds, rfl⟩
    exact .digits (by simpa using hb) hsign hne hds

theorem fraction_cons_iff :
    fraction.Remainder (b :: more) ↔
      IsDigit b ∧ fraction.Remainder more ∨ Exponent (b :: more) := by
  constructor
  · rintro ⟨ds, exponent, hds, hexponent, heq⟩
    cases ds with
    | nil => exact .inr (heq ▸ hexponent)
    | cons d ds =>
        cases heq
        exact .inl ⟨(digits_cons.1 hds).1, ds, exponent, (digits_cons.1 hds).2, hexponent, rfl⟩
  · rintro (⟨hb, ds, exponent, hds, hexponent, rfl⟩ | hexponent)
    · exact ⟨b :: ds, exponent, digits_cons.2 ⟨hb, hds⟩, hexponent, rfl⟩
    · exact ⟨[], b :: more, digits_nil, hexponent, rfl⟩

theorem point_cons_iff :
    point.Remainder (b :: more) ↔ IsDigit b ∧ fraction.Remainder more := by
  constructor
  · rintro ⟨ds, exponent, hne, hds, hexponent, heq⟩
    cases ds with
    | nil => exact absurd rfl hne
    | cons d ds =>
        cases heq
        exact ⟨(digits_cons.1 hds).1, ds, exponent, (digits_cons.1 hds).2, hexponent, rfl⟩
  · rintro ⟨hb, ds, exponent, hds, hexponent, rfl⟩
    exact ⟨b :: ds, exponent, by simp, digits_cons.2 ⟨hb, hds⟩, hexponent, rfl⟩

theorem zero_cons_iff :
    zero.Remainder (b :: more) ↔ b = 0x2E ∧ point.Remainder more ∨ Exponent (b :: more) := by
  constructor
  · rintro ⟨fraction, exponent, hfraction, hexponent, heq⟩
    cases hfraction with
    | none => exact .inr (heq ▸ hexponent)
    | digits hne hds =>
        cases heq
        exact .inl ⟨rfl, _, exponent, hne, hds, hexponent, rfl⟩
  · rintro (⟨rfl, ds, exponent, hne, hds, hexponent, rfl⟩ | hexponent)
    · exact ⟨0x2E :: ds, exponent, .digits hne hds, hexponent, rfl⟩
    · exact ⟨[], b :: more, .none, hexponent, rfl⟩

theorem digits_cons_iff :
    digits.Remainder (b :: more) ↔
      IsDigit b ∧ digits.Remainder more ∨ zero.Remainder (b :: more) := by
  constructor
  · rintro ⟨ds, fraction, exponent, hds, hfraction, hexponent, heq⟩
    cases ds with
    | nil => exact .inr ⟨fraction, exponent, hfraction, hexponent, heq⟩
    | cons d ds =>
        cases heq
        exact .inl ⟨(digits_cons.1 hds).1, ds, fraction, exponent, (digits_cons.1 hds).2,
          hfraction, hexponent, rfl⟩
  · rintro (⟨hb, ds, fraction, exponent, hds, hfraction, hexponent, rfl⟩ |
      ⟨fraction, exponent, hfraction, hexponent, heq⟩)
    · exact ⟨b :: ds, fraction, exponent, digits_cons.2 ⟨hb, hds⟩, hfraction, hexponent, rfl⟩
    · exact ⟨[], fraction, exponent, digits_nil, hfraction, hexponent, heq⟩

theorem sign_cons_iff :
    sign.Remainder (b :: more) ↔
      b = 0x30 ∧ zero.Remainder more ∨ (IsDigit b ∧ b ≠ 0x30) ∧ digits.Remainder more := by
  constructor
  · rintro ⟨whole, fraction, exponent, hwhole, hfraction, hexponent, heq⟩
    cases hwhole with
    | zero =>
        cases heq
        exact .inl ⟨rfl, fraction, exponent, hfraction, hexponent, rfl⟩
    | digits hb hne hds =>
        cases heq
        exact .inr ⟨⟨hb, hne⟩, _, fraction, exponent, hds, hfraction, hexponent, rfl⟩
  · rintro (⟨rfl, fraction, exponent, hfraction, hexponent, rfl⟩ |
      ⟨⟨hb, hne⟩, ds, fraction, exponent, hds, hfraction, hexponent, rfl⟩)
    · exact ⟨[0x30], fraction, exponent, .zero, hfraction, hexponent, rfl⟩
    · exact ⟨b :: ds, fraction, exponent, .digits hb hne hds, hfraction, hexponent, rfl⟩

/-- One more octet of a number is what comes next of it. -/
theorem remainder_cons_iff :
    part.Remainder (b :: more) ↔
      ∃ part', part.next? (Char.ofNat b.toNat) = some part' ∧ part'.Remainder more := by
  have hchar : ∀ x : UInt8, Char.ofNat b.toNat = Char.ofNat x.toNat ↔ b = x :=
    fun x => octetChar_eq_iff
  have hzero : Char.ofNat b.toNat = '0' ↔ b = 0x30 := hchar 0x30
  have hpoint : Char.ofNat b.toNat = '.' ↔ b = 0x2E := hchar 0x2E
  have hsmall : Char.ofNat b.toNat = 'e' ↔ b = 0x65 := hchar 0x65
  have hlarge : Char.ofNat b.toNat = 'E' ↔ b = 0x45 := hchar 0x45
  have hplus : Char.ofNat b.toNat = '+' ↔ b = 0x2B := hchar 0x2B
  have hminus : Char.ofNat b.toNat = '-' ↔ b = 0x2D := hchar 0x2D
  have hnot : ∀ x : UInt8, ¬IsDigit x → b = x → ¬IsDigit b := fun x hx heq => heq ▸ hx
  have hnotPoint := hnot 0x2E (by decide)
  have hnotSmall := hnot 0x65 (by decide)
  have hnotLarge := hnot 0x45 (by decide)
  have hnotPlus := hnot 0x2B (by decide)
  have hnotMinus := hnot 0x2D (by decide)
  cases part with
  | sign =>
      rw [sign_cons_iff]
      simp only [next?, isDigit_octetChar_iff, hzero]
      split
      · simp_all
      · split <;> simp_all
  | zero =>
      rw [zero_cons_iff, exponent_iff]
      simp only [next?, hpoint, hsmall, hlarge]
      split
      · simp_all
      · split <;> simp_all
  | digits =>
      rw [digits_cons_iff, zero_cons_iff, exponent_iff]
      simp only [next?, isDigit_octetChar_iff, hpoint, hsmall, hlarge]
      split
      · have hother : b ≠ 0x2E ∧ ¬(b = 0x65 ∨ b = 0x45) := by grind
        simp_all
      · split
        · simp_all
        · split <;> simp_all
  | point =>
      rw [point_cons_iff]
      simp only [next?, isDigit_octetChar_iff]
      split <;> simp_all
  | fraction =>
      rw [fraction_cons_iff, exponent_iff]
      simp only [next?, isDigit_octetChar_iff, hsmall, hlarge]
      split
      · have hother : ¬(b = 0x65 ∨ b = 0x45) := by grind
        simp_all
      · split <;> simp_all
  | exponent =>
      rw [exponent_cons_iff]
      simp only [next?, isDigit_octetChar_iff, hplus, hminus]
      split
      · have hother : ¬IsDigit b := by grind
        simp_all
      · split <;> simp_all
  | exponentSign =>
      rw [exponentSign_cons_iff]
      simp only [next?, isDigit_octetChar_iff]
      split <;> simp_all
  | exponentDigits =>
      rw [exponentDigits_cons_iff]
      simp only [next?, isDigit_octetChar_iff]
      split <;> simp_all

end NumberPart

/-! ### Lexemes -/

/-- The source of a lexeme. -/
inductive Lexeme : List UInt8 → Token → Prop
  | beginList : Lexeme [0x5B] .beginList
  | endList : Lexeme [0x5D] .endList
  | beginRecord : Lexeme [0x7B] .beginRecord
  | endRecord : Lexeme [0x7D] .endRecord
  | comma : Lexeme [0x2C] .comma
  | colon : Lexeme [0x3A] .colon
  | null : Lexeme [0x6E, 0x75, 0x6C, 0x6C] .null
  | true : Lexeme [0x74, 0x72, 0x75, 0x65] (.bool Bool.true)
  | false : Lexeme [0x66, 0x61, 0x6C, 0x73, 0x65] (.bool Bool.false)
  | number {source : List UInt8} (hsource : IsNumber source) : Lexeme source (.number source)
  | quoted {source : List UInt8} (hsource : IsQuoted source) :
      Lexeme (0x22 :: (source ++ [0x22])) (.quoted source)

namespace Scan

/-- The lexer goes over some octets and completes some lexemes. -/
def Reads (s : Scan) (source : List UInt8) (tokens : List Token) (s' : Scan) : Prop :=
  ∀ rest : List UInt8, s.run? (source ++ rest) = (s'.run? rest).map (tokens ++ ·)

theorem run?_cons (s : Scan) (b : UInt8) (rest : List UInt8) :
    s.run? (b :: rest) = (s.step? b).bind fun p => (p.2.run? rest).map (p.1 ++ ·) := by
  rw [run?]
  cases s.step? b with
  | none => rfl
  | some p =>
      obtain ⟨tokens, s'⟩ := p
      simp only [bind, Option.bind_some]
      cases s'.run? rest with
      | none => rfl
      | some others => rfl

theorem Reads.nil (s : Scan) : s.Reads [] [] s := by
  intro rest
  simp

theorem Reads.append
    {s s' s'' : Scan} {source more : List UInt8} {tokens others : List Token}
    (h : s.Reads source tokens s') (h' : s'.Reads more others s'') :
    s.Reads (source ++ more) (tokens ++ others) s'' := by
  intro rest
  rw [List.append_assoc, h, h', Option.map_map]
  congr 1
  funext t
  simp

theorem reads_of_step?
    {s s' : Scan} {b : UInt8} {tokens : List Token} (h : s.step? b = some (tokens, s')) :
    s.Reads [b] tokens s' := by
  intro rest
  rw [List.singleton_append, run?_cons, h]
  rfl

theorem Reads.cons
    {s s' s'' : Scan} {b : UInt8} {more : List UInt8} {tokens others : List Token}
    (h : s.step? b = some (tokens, s')) (h' : s'.Reads more others s'') :
    s.Reads (b :: more) (tokens ++ others) s'' :=
  (reads_of_step? h).append h'

/-- What may still come of a lexeme that has begun, and what lexeme it is then. -/
def Remainder (s : Scan) (more : List UInt8) (t : Token) : Prop :=
  match s with
  | between => False
  | word rest token =>
      rest ≠ [] ∧ more.map (fun b => Char.ofNat b.toNat) = rest ∧ t = token
  | number part source => part.Remainder more ∧ t = .number (source.reverse ++ more)
  | quoted source => ∃ body : List UInt8, IsQuoted body ∧ more = body ++ [0x22] ∧
      t = .quoted (source.reverse ++ body)
  | escape source => ∃ body : List UInt8, IsQuoted (0x5C :: body) ∧ more = body ++ [0x22] ∧
      t = .quoted (source.reverse ++ body)
  | escapeDigits owed source => ∃ ds body : List UInt8, ds.length = max owed 1 ∧
      (∀ b ∈ ds, IsHexDigit b) ∧ IsQuoted body ∧ more = ds ++ (body ++ [0x22]) ∧
      t = .quoted (source.reverse ++ (ds ++ body))

section Remainders

variable {b : UInt8} {source more : List UInt8} {t token : Token} {c : Char} {cs : List Char}
  {owed : Nat}

theorem word_cons_iff :
    (word (c :: cs) token).Remainder (b :: more) t ↔
      Char.ofNat b.toNat = c ∧
        (cs = [] ∧ more = [] ∧ t = token ∨ (word cs token).Remainder more t) := by
  simp only [Remainder, List.map_cons, List.cons.injEq]
  constructor
  · rintro ⟨-, ⟨hb, hmore⟩, rfl⟩
    refine ⟨hb, ?_⟩
    cases cs with
    | nil => exact .inl ⟨rfl, by simpa using hmore, rfl⟩
    | cons d ds => exact .inr ⟨by simp, hmore, rfl⟩
  · rintro ⟨hb, ⟨rfl, rfl, rfl⟩ | ⟨-, hmore, rfl⟩⟩
    · exact ⟨by simp, ⟨hb, rfl⟩, rfl⟩
    · exact ⟨by simp, ⟨hb, hmore⟩, rfl⟩

theorem quoted_cons_iff :
    (quoted source).Remainder (b :: more) t ↔
      (b = 0x22 ∧ more = [] ∧ t = .quoted source.reverse) ∨
        (b = 0x5C ∧ (escape (b :: source)).Remainder more t) ∨
        ((b ≠ 0x22 ∧ b ≠ 0x5C ∧ ¬b < 0x20) ∧ (quoted (b :: source)).Remainder more t) := by
  simp only [Remainder, List.reverse_cons, List.append_assoc, List.singleton_append]
  constructor
  · rintro ⟨body, hbody, heq, rfl⟩
    cases hbody with
    | nil =>
        cases heq
        exact .inl ⟨rfl, rfl, by simp⟩
    | plain hquote hescape hcontrol hrest =>
        cases heq
        exact .inr (.inr ⟨⟨hquote, hescape, hcontrol⟩, _, hrest, rfl, rfl⟩)
    | escape hb hrest =>
        cases heq
        exact .inr (.inl ⟨rfl, _, .escape hb hrest, rfl, rfl⟩)
    | unit hlength hds hrest =>
        cases heq
        exact .inr (.inl ⟨rfl, _, .unit hlength hds hrest, rfl, rfl⟩)
  · rintro (⟨rfl, rfl, rfl⟩ | ⟨rfl, body, hbody, rfl, rfl⟩ | ⟨⟨hquote, hescape, hcontrol⟩, body,
      hbody, rfl, rfl⟩)
    · exact ⟨[], .nil, rfl, by simp⟩
    · exact ⟨0x5C :: body, hbody, rfl, rfl⟩
    · exact ⟨b :: body, .plain hquote hescape hcontrol hbody, rfl, rfl⟩

theorem escape_cons_iff :
    (escape source).Remainder (b :: more) t ↔
      (b ∈ [0x22, 0x5C, 0x2F, 0x62, 0x66, 0x6E, 0x72, 0x74] ∧
        (quoted (b :: source)).Remainder more t) ∨
      (b = 0x75 ∧ (escapeDigits 4 (b :: source)).Remainder more t) := by
  simp only [Remainder, List.reverse_cons, List.append_assoc, List.singleton_append]
  constructor
  · rintro ⟨body, hbody, heq, rfl⟩
    cases hbody with
    | plain _ hescape => exact absurd rfl hescape
    | escape hb hrest =>
        cases heq
        exact .inl ⟨hb, _, hrest, rfl, rfl⟩
    | unit hlength hds hrest =>
        cases heq
        exact .inr ⟨rfl, _, _, hlength, hds, hrest, by simp, by simp⟩
  · rintro (⟨hb, body, hbody, rfl, rfl⟩ | ⟨rfl, ds, body, hlength, hds, hbody, rfl, rfl⟩)
    · exact ⟨b :: body, .escape hb hbody, rfl, rfl⟩
    · exact ⟨0x75 :: (ds ++ body), .unit hlength hds hbody, by simp, rfl⟩

theorem escapeDigits_cons_iff :
    (escapeDigits owed source).Remainder (b :: more) t ↔
      IsHexDigit b ∧ (if owed ≤ 1 then quoted (b :: source)
        else escapeDigits (owed - 1) (b :: source)).Remainder more t := by
  by_cases howed : owed ≤ 1
  · rw [if_pos howed]
    simp only [Remainder, List.reverse_cons, List.append_assoc, List.singleton_append]
    have hone : max owed 1 = 1 := Nat.max_eq_right howed
    rw [hone]
    constructor
    · rintro ⟨ds, body, hlength, hds, hbody, heq, rfl⟩
      obtain ⟨d, rfl⟩ := List.length_eq_one_iff.1 hlength
      cases heq
      exact ⟨hds b (by simp), body, hbody, rfl, rfl⟩
    · rintro ⟨hb, body, hbody, rfl, rfl⟩
      exact ⟨[b], body, rfl, by simpa using hb, hbody, rfl, rfl⟩
  · rw [if_neg howed]
    simp only [Remainder, List.reverse_cons, List.append_assoc, List.singleton_append]
    constructor
    · rintro ⟨ds, body, hlength, hds, hbody, heq, rfl⟩
      cases ds with
      | nil => simp at hlength; omega
      | cons d ds =>
          cases heq
          rw [List.forall_mem_cons] at hds
          rw [List.length_cons] at hlength
          exact ⟨hds.1, ds, body, by omega, hds.2, hbody, rfl, rfl⟩
    · rintro ⟨hb, ds, body, hlength, hds, hbody, rfl, rfl⟩
      refine ⟨b :: ds, body, ?_, List.forall_mem_cons.2 ⟨hb, hds⟩, hbody, rfl, rfl⟩
      rw [List.length_cons]
      omega

theorem number_cons_iff {part : NumberPart} :
    (number part source).Remainder (b :: more) t ↔ ∃ part',
      part.next? (Char.ofNat b.toNat) = some part' ∧
        (number part' (b :: source)).Remainder more t := by
  simp only [Remainder, NumberPart.remainder_cons_iff, List.reverse_cons, List.append_assoc,
    List.singleton_append]
  constructor
  · rintro ⟨⟨part', hnext, hmore⟩, rfl⟩
    exact ⟨part', hnext, hmore, rfl⟩
  · rintro ⟨part', hnext, hmore, rfl⟩
    exact ⟨⟨part', hnext, hmore⟩, rfl⟩

/-- What may be escaped by a backslash alone. -/
theorem step?_escape (source : List UInt8) (b : UInt8) :
    (escape source).step? b =
      if b ∈ [0x22, 0x5C, 0x2F, 0x62, 0x66, 0x6E, 0x72, 0x74] then some ([], quoted (b :: source))
      else if b = 0x75 then some ([], escapeDigits 4 (b :: source)) else none := by
  have hchar : ∀ x : UInt8, Char.ofNat b.toNat = Char.ofNat x.toNat → b = x :=
    fun _ => octetChar_eq_iff.1
  rw [step?]
  split
  next h => rw [hchar 0x22 h]; rfl
  next h => rw [hchar 0x5C h]; rfl
  next h => rw [hchar 0x2F h]; rfl
  next h => rw [hchar 0x62 h]; rfl
  next h => rw [hchar 0x66 h]; rfl
  next h => rw [hchar 0x6E h]; rfl
  next h => rw [hchar 0x72 h]; rfl
  next h => rw [hchar 0x74 h]; rfl
  next h => rw [hchar 0x75 h]; rfl
  next hquote hback hslash hb hf hn hr ht hu =>
    rw [if_neg, if_neg]
    · rintro rfl
      exact hu rfl
    · simp only [List.mem_cons, List.not_mem_nil, or_false]
      rintro (rfl | rfl | rfl | rfl | rfl | rfl | rfl | rfl)
      · exact hquote rfl
      · exact hback rfl
      · exact hslash rfl
      · exact hb rfl
      · exact hf rfl
      · exact hn rfl
      · exact hr rfl
      · exact ht rfl

/-- A lexeme that has begun goes on, or is complete. -/
theorem Remainder.next {s : Scan} (h : s.Remainder (b :: more) t) :
    (s.step? b = some ([t], between) ∧ more = []) ∨
      ∃ s', s.step? b = some ([], s') ∧ s'.Remainder more t := by
  cases s with
  | between => exact h.elim
  | word rest token =>
      cases rest with
      | nil => exact absurd rfl h.1
      | cons c cs =>
          obtain ⟨hb, ⟨rfl, rfl, rfl⟩ | hrest⟩ := word_cons_iff.1 h
          · exact .inl ⟨by rw [step?, if_pos hb], rfl⟩
          · cases cs with
            | nil => exact absurd rfl hrest.1
            | cons d ds => exact .inr ⟨_, by rw [step?, if_pos hb]; simp, hrest⟩
  | number part source =>
      obtain ⟨part', hnext, hrest⟩ := number_cons_iff.1 h
      exact .inr ⟨_, by rw [step?, hnext], hrest⟩
  | quoted source =>
      obtain ⟨rfl, rfl, rfl⟩ | ⟨rfl, hrest⟩ | ⟨⟨hquote, hescape, hcontrol⟩, hrest⟩ :=
        quoted_cons_iff.1 h
      · exact .inl ⟨rfl, rfl⟩
      · exact .inr ⟨_, rfl, hrest⟩
      · exact .inr ⟨_, by simp only [step?, hquote, hescape, hcontrol, if_false], hrest⟩
  | escape source =>
      obtain ⟨hb, hrest⟩ | ⟨rfl, hrest⟩ := escape_cons_iff.1 h
      · exact .inr ⟨_, by rw [step?_escape, if_pos hb], hrest⟩
      · exact .inr ⟨_, rfl, hrest⟩
  | escapeDigits owed source =>
      obtain ⟨hb, hrest⟩ := escapeDigits_cons_iff.1 h
      refine .inr ⟨_, ?_, hrest⟩
      rw [step?, if_pos (isHexDigit_iff.2 hb)]
      split <;> rfl

/-- Only a number may be complete before another octet is read. -/
theorem remainder_nil_iff {s : Scan} :
    s.Remainder [] t ↔ ∃ part source, s = number part source ∧ part.complete = true ∧
      t = .number source.reverse := by
  cases s with
  | number part source =>
      simp only [Remainder, NumberPart.remainder_nil_iff, List.append_nil]
      constructor
      · rintro ⟨hpart, rfl⟩
        exact ⟨part, source, rfl, hpart, rfl⟩
      · rintro ⟨_, _, ⟨⟩, hpart, rfl⟩
        exact ⟨hpart, rfl⟩
  | between => simp [Remainder]
  | word rest token => exact ⟨fun h => absurd h.2.1.symm h.1, nofun⟩
  | quoted source => simp [Remainder]
  | escape source => simp [Remainder]
  | escapeDigits owed source => simp [Remainder]

/-- What one octet makes of a lexeme that has begun: the end of it or a part of it.  After a number
that may be complete it may also belong to what comes next. -/
inductive Advances (s : Scan) (b : UInt8) : List Token → Scan → Prop
  | last {t : Token} (hlast : s.Remainder [b] t) : Advances s b [t] between
  | inner {s' : Scan} (hinside : s' ≠ between)
      (hgoes : ∀ (more : List UInt8) (t : Token),
        s'.Remainder more t → s.Remainder (b :: more) t) : Advances s b [] s'
  | after {s' : Scan} {t : Token} {out : List Token} (hwhole : s.Remainder [] t)
      (hstart : between.step? b = some (out, s')) : Advances s b (t :: out) s'

section Advancing

variable {s' : Scan} {out : List Token}

theorem advances_word (h : (word cs token).step? b = some (out, s')) :
    Advances (word cs token) b out s' := by
  rcases cs with - | ⟨c, - | ⟨d, ds⟩⟩
  · cases h
  · rw [step?] at h
    split at h
    next hb =>
      cases h
      exact .last (word_cons_iff.2 ⟨hb, .inl ⟨rfl, rfl, rfl⟩⟩)
    next => cases h
  · rw [step?] at h
    split at h
    next hb =>
      cases h
      exact .inner nofun fun more t hmore => word_cons_iff.2 ⟨hb, .inr hmore⟩
    next => cases h
    next => simp

theorem advances_number
    {part : NumberPart} (h : (number part source).step? b = some (out, s')) :
    Advances (number part source) b out s' := by
  rw [step?] at h
  split at h
  next part' hnext =>
    cases h
    exact .inner nofun fun more t hmore => number_cons_iff.2 ⟨part', hnext, hmore⟩
  next =>
    -- The octet is no part of the number, which has to be complete without it.
    split at h
    next hpart =>
      rw [Option.map_eq_some_iff] at h
      obtain ⟨⟨o, s''⟩, hstart, heq⟩ := h
      cases heq
      refine .after (remainder_nil_iff.2 ⟨part, source, rfl, hpart, rfl⟩) ?_
      rw [step?, hstart]
      rfl
    next => cases h

theorem advances_quoted (h : (quoted source).step? b = some (out, s')) :
    Advances (quoted source) b out s' := by
  rw [step?] at h
  split at h
  next hquote =>
    cases h
    exact .last (quoted_cons_iff.2 (.inl ⟨hquote, rfl, rfl⟩))
  next hquote =>
    split at h
    next hescape =>
      cases h
      exact .inner nofun fun more t hmore => quoted_cons_iff.2 (.inr (.inl ⟨hescape, hmore⟩))
    next hescape =>
      split at h
      next => cases h
      next hcontrol =>
        cases h
        exact .inner nofun fun more t hmore =>
          quoted_cons_iff.2 (.inr (.inr ⟨⟨hquote, hescape, hcontrol⟩, hmore⟩))

theorem advances_escape (h : (escape source).step? b = some (out, s')) :
    Advances (escape source) b out s' := by
  rw [step?_escape] at h
  split at h
  next hb =>
    cases h
    exact .inner nofun fun more t hmore => escape_cons_iff.2 (.inl ⟨hb, hmore⟩)
  next =>
    split at h
    next hb =>
      cases h
      exact .inner nofun fun more t hmore => escape_cons_iff.2 (.inr ⟨hb, hmore⟩)
    next => cases h

theorem advances_escapeDigits (h : (escapeDigits owed source).step? b = some (out, s')) :
    Advances (escapeDigits owed source) b out s' := by
  rw [step?] at h
  split at h
  next hb =>
    rw [isHexDigit_iff] at hb
    have hstep : out = [] ∧ s' = if owed ≤ 1 then quoted (b :: source)
        else escapeDigits (owed - 1) (b :: source) := by
      split at h
      next howed =>
        cases h
        exact ⟨rfl, (if_pos howed).symm⟩
      next howed =>
        cases h
        exact ⟨rfl, (if_neg howed).symm⟩
    obtain ⟨rfl, rfl⟩ := hstep
    refine .inner ?_ fun more t hmore => escapeDigits_cons_iff.2 ⟨hb, hmore⟩
    split <;> nofun
  next => cases h

/-- A step of the lexer inside of a lexeme takes one octet of it, or begins another one. -/
theorem advances_of_step? {s : Scan} (hs : s ≠ between) (h : s.step? b = some (out, s')) :
    Advances s b out s' := by
  cases s with
  | between => exact absurd rfl hs
  | word rest token => exact advances_word h
  | number part source => exact advances_number h
  | quoted source => exact advances_quoted h
  | escape source => exact advances_escape h
  | escapeDigits owed source => exact advances_escapeDigits h

end Advancing

end Remainders

/-! ### The beginning of a lexeme -/

section Beginning

variable {b : UInt8} {more : List UInt8} {t : Token} {s : Scan}

/-- What may still come of a word is the rest of it. -/
theorem remainder_word
    (rest : List UInt8) {token : Token}
    (h : (word (rest.map fun b => Char.ofNat b.toNat) token).Remainder more t) :
    more = rest ∧ t = token := by
  have hinj : Function.Injective fun b : UInt8 => Char.ofNat b.toNat :=
    fun _ _ => octetChar_eq_iff.1
  exact ⟨List.map_injective_iff.2 hinj h.2.1, h.2.2⟩

theorem lexeme_of_sign (h : (number .sign [0x2D]).Remainder more t) :
    Lexeme (0x2D :: more) t := by
  obtain ⟨⟨whole, fraction, exponent, hwhole, hfraction, hexponent, rfl⟩, rfl⟩ := h
  have hnumber : IsNumber ([0x2D] ++ (whole ++ (fraction ++ exponent))) :=
    .intro (by simp) hwhole hfraction hexponent
  exact .number hnumber

theorem lexeme_of_whole
    {part : NumberPart} (hpart : part = .zero ∧ b = 0x30 ∨ part = .digits ∧ IsDigit b ∧ b ≠ 0x30)
    (h : (number part [b]).Remainder more t) : Lexeme (b :: more) t := by
  obtain ⟨hmore, rfl⟩ := h
  have hsign : NumberPart.sign.Remainder (b :: more) := by
    rw [NumberPart.sign_cons_iff]
    obtain ⟨rfl, hb⟩ | ⟨rfl, hb⟩ := hpart
    · exact .inl ⟨hb, hmore⟩
    · exact .inr ⟨hb, hmore⟩
  obtain ⟨whole, fraction, exponent, hwhole, hfraction, hexponent, heq⟩ := hsign
  rw [List.reverse_singleton, List.singleton_append, heq]
  have hnumber : IsNumber ([] ++ (whole ++ (fraction ++ exponent))) :=
    .intro (by simp) hwhole hfraction hexponent
  exact .number hnumber

theorem start?_digit (hb : IsDigit b) (hne : b ≠ 0x30) :
    start? b = some (none, number .digits [b]) := by
  have hlow : 48 ≤ b.toNat := UInt8.le_iff_toNat_le.1 hb.1
  have hhigh : b.toNat ≤ 57 := UInt8.le_iff_toNat_le.1 hb.2
  have hzero : b.toNat ≠ 48 := fun h => hne (UInt8.toNat_inj.1 h)
  rw [← UInt8.ofNat_toNat (x := b)]
  obtain ⟨d, hd⟩ : ∃ d, b.toNat = 49 + d := ⟨b.toNat - 49, by omega⟩
  have hsmall : d < 9 := by omega
  rw [hd]
  interval_cases d
  all_goals rfl

/-- What one octet is where a lexeme may begin. -/
inductive Begins (b : UInt8) : Option Token → Scan → Prop
  | blank (hb : IsBlank b) : Begins b none between
  | whole {t : Token} (ht : Lexeme [b] t) : Begins b (some t) between
  | part {s : Scan} (hinside : s ≠ between)
      (hbegins : ∀ (more : List UInt8) (t : Token), s.Remainder more t → Lexeme (b :: more) t) :
      Begins b none s

/-- A word begins with its first octet. -/
theorem begins_word
    {first : UInt8} {rest : List UInt8} {token : Token} (hb : b = first)
    (hlexeme : Lexeme (first :: rest) token) :
    Begins b none (word (rest.map fun b => Char.ofNat b.toNat) token) := by
  refine .part nofun fun more t hmore => ?_
  obtain ⟨rfl, rfl⟩ := remainder_word rest hmore
  rw [hb]
  exact hlexeme

theorem begins_of_start? {o : Option Token} (h : start? b = some (o, s)) : Begins b o s := by
  have hchar : ∀ x : UInt8, Char.ofNat b.toNat = Char.ofNat x.toNat → b = x :=
    fun _ => octetChar_eq_iff.1
  rw [start?] at h
  split at h
  next hb => cases h; exact .blank (by rw [hchar 0x20 hb]; simp [IsBlank])
  next hb => cases h; exact .blank (by rw [hchar 0x0A hb]; simp [IsBlank])
  next hb => cases h; exact .blank (by rw [hchar 0x0D hb]; simp [IsBlank])
  next hb => cases h; exact .blank (by rw [hchar 0x09 hb]; simp [IsBlank])
  next hb => cases h; exact .whole (by rw [hchar 0x5B hb]; exact .beginList)
  next hb => cases h; exact .whole (by rw [hchar 0x5D hb]; exact .endList)
  next hb => cases h; exact .whole (by rw [hchar 0x7B hb]; exact .beginRecord)
  next hb => cases h; exact .whole (by rw [hchar 0x7D hb]; exact .endRecord)
  next hb => cases h; exact .whole (by rw [hchar 0x2C hb]; exact .comma)
  next hb => cases h; exact .whole (by rw [hchar 0x3A hb]; exact .colon)
  next hb => cases h; exact begins_word (hchar 0x6E hb) .null
  next hb => cases h; exact begins_word (hchar 0x74 hb) .true
  next hb => cases h; exact begins_word (hchar 0x66 hb) .false
  next hb =>
    cases h
    refine .part nofun fun more t hmore => ?_
    obtain ⟨body, hbody, rfl, rfl⟩ := hmore
    rw [hchar 0x22 hb]
    exact .quoted hbody
  next hb =>
    cases h
    refine .part nofun fun more t hmore => ?_
    rw [hchar 0x2D hb] at hmore ⊢
    exact lexeme_of_sign hmore
  next hb =>
    cases h
    exact .part nofun fun more t hmore => lexeme_of_whole (.inl ⟨rfl, hchar 0x30 hb⟩) hmore
  next hzero =>
    split at h
    next hb =>
      cases h
      refine .part nofun fun more t hmore => ?_
      refine lexeme_of_whole (.inr ⟨rfl, isDigit_octetChar_iff.1 hb, ?_⟩) hmore
      rintro rfl
      exact hzero rfl
    next => cases h

/-- Where a lexeme may begin, its first octet is or begins it. -/
theorem start?_of_lexeme {source : List UInt8} (h : Lexeme source t) :
    ∃ (b : UInt8) (more : List UInt8), source = b :: more ∧
      ((start? b = some (some t, between) ∧ more = []) ∨
        ∃ s, start? b = some (none, s) ∧ s.Remainder more t) := by
  cases h with
  | beginList => exact ⟨_, _, rfl, .inl ⟨rfl, rfl⟩⟩
  | endList => exact ⟨_, _, rfl, .inl ⟨rfl, rfl⟩⟩
  | beginRecord => exact ⟨_, _, rfl, .inl ⟨rfl, rfl⟩⟩
  | endRecord => exact ⟨_, _, rfl, .inl ⟨rfl, rfl⟩⟩
  | comma => exact ⟨_, _, rfl, .inl ⟨rfl, rfl⟩⟩
  | colon => exact ⟨_, _, rfl, .inl ⟨rfl, rfl⟩⟩
  | null => exact ⟨_, _, rfl, .inr ⟨_, rfl, by simp, rfl, rfl⟩⟩
  | true => exact ⟨_, _, rfl, .inr ⟨_, rfl, by simp, rfl, rfl⟩⟩
  | false => exact ⟨_, _, rfl, .inr ⟨_, rfl, by simp, rfl, rfl⟩⟩
  | quoted hsource => exact ⟨_, _, rfl, .inr ⟨_, rfl, _, hsource, rfl, rfl⟩⟩
  | number hsource =>
      obtain @⟨sign, whole, fraction, exponent, hsign, hwhole, hfraction, hexponent⟩ := hsource
      have hunsigned : NumberPart.sign.Remainder (whole ++ (fraction ++ exponent)) :=
        ⟨whole, fraction, exponent, hwhole, hfraction, hexponent, rfl⟩
      simp only [List.mem_cons, List.not_mem_nil, or_false] at hsign
      obtain rfl | rfl := hsign
      · cases hwhole with
        | zero => exact ⟨_, _, rfl, .inr ⟨_, rfl, ⟨_, _, hfraction, hexponent, rfl⟩, rfl⟩⟩
        | @digits b ds hb hne hds =>
            refine ⟨b, _, rfl, .inr ⟨_, start?_digit hb hne, ?_, rfl⟩⟩
            exact ⟨ds, _, _, hds, hfraction, hexponent, rfl⟩
      · exact ⟨_, _, rfl, .inr ⟨_, rfl, hunsigned, rfl⟩⟩

end Beginning
end Scan

end Json
end FaultRelay
