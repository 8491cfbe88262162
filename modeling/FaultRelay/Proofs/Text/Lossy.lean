import FaultRelay.Proofs.Text.Octets

/-!
# Reading octets as characters, malformed pieces included

A scan of octets is between two characters, or within one that has begun.  The octet after that
decides what becomes of it, and an octet of ASCII is never part of a longer character.

**Results.**
* `Utf8.scan_encodeChar`, `Utf8.decodeLossy_octets`: the octets of a text are read as that text.
* `Utf8.exists_scan_append`, `Utf8.scan_ascii`: what octets add to the characters does not depend on
  the octets after them.
-/

namespace FaultRelay
namespace Text
namespace Utf8

/-! ### Characters that are complete -/

section Lead

variable {b : UInt8}

theorem lead_ascii (hb : b.toNat < 0x80) : lead b = .whole (Char.ofNat b.toNat) := by
  simp only [lead, if_pos hb]

theorem lead_two (hlow : 0xC2 ≤ b.toNat) (hhigh : b.toNat < 0xE0) :
    lead b = .begun ⟨b.toNat - 0xC0, 1, 0x80, 0xBF⟩ := by
  have hascii : ¬b.toNat < 0x80 := by omega
  simp only [lead, if_neg hascii, if_neg (Nat.not_lt.mpr hlow), if_pos hhigh]

/-- The first octet of three leaves out the second octets that shorter characters and surrogates
have. -/
theorem lead_three (hlow : 0xE0 ≤ b.toNat) (hhigh : b.toNat < 0xF0) :
    ∃ low high : Nat, lead b = .begun ⟨b.toNat - 0xE0, 2, low, high⟩ ∧
      ∀ n : Nat, 0x80 ≤ n → n ≤ 0xBF → (b.toNat = 0xE0 → 0xA0 ≤ n) → (b.toNat = 0xED → n ≤ 0x9F) →
        low ≤ n ∧ n ≤ high := by
  have hascii : ¬b.toNat < 0x80 := by omega
  have hbroken : ¬b.toNat < 0xC2 := by omega
  have htwo : ¬b.toNat < 0xE0 := by omega
  simp only [lead, if_neg hascii, if_neg hbroken, if_neg htwo]
  by_cases hfirst : b.toNat = 0xE0
  · refine ⟨0xA0, 0xBF, ?_, fun n _ hn hleast _ => ⟨hleast hfirst, hn⟩⟩
    rw [if_pos hfirst, hfirst]
  · rw [if_neg hfirst]
    by_cases hsurrogate : b.toNat = 0xED
    · refine ⟨0x80, 0x9F, ?_, fun n hn _ _ hmost => ⟨hn, hmost hsurrogate⟩⟩
      rw [if_pos hsurrogate, hsurrogate]
    · refine ⟨0x80, 0xBF, ?_, fun n hn hmost _ _ => ⟨hn, hmost⟩⟩
      rw [if_neg hsurrogate, if_pos hhigh]

/-- The first octet of four leaves out the second octets that shorter characters have, and those
beyond the last character. -/
theorem lead_four (hlow : 0xF0 ≤ b.toNat) (hhigh : b.toNat ≤ 0xF4) :
    ∃ low high : Nat, lead b = .begun ⟨b.toNat - 0xF0, 3, low, high⟩ ∧
      ∀ n : Nat, 0x80 ≤ n → n ≤ 0xBF → (b.toNat = 0xF0 → 0x90 ≤ n) → (b.toNat = 0xF4 → n ≤ 0x8F) →
        low ≤ n ∧ n ≤ high := by
  have hascii : ¬b.toNat < 0x80 := by omega
  have hbroken : ¬b.toNat < 0xC2 := by omega
  have htwo : ¬b.toNat < 0xE0 := by omega
  have hfirst : ¬b.toNat = 0xE0 := by omega
  have hsurrogate : ¬b.toNat = 0xED := by omega
  have hthree : ¬b.toNat < 0xF0 := by omega
  simp only [lead, if_neg hascii, if_neg hbroken, if_neg htwo, if_neg hfirst, if_neg hsurrogate,
    if_neg hthree]
  by_cases hleast : b.toNat = 0xF0
  · refine ⟨0x90, 0xBF, ?_, fun n _ hn hmin _ => ⟨hmin hleast, hn⟩⟩
    rw [if_pos hleast, hleast]
  · rw [if_neg hleast]
    by_cases hlast : b.toNat < 0xF4
    · exact ⟨0x80, 0xBF, by rw [if_pos hlast], fun n hn hmost _ _ => ⟨hn, hmost⟩⟩
    · have hlast' : b.toNat = 0xF4 := by omega
      refine ⟨0x80, 0x8F, ?_, fun n hn _ _ hmost => ⟨hn, hmost hlast'⟩⟩
      rw [if_neg hlast, if_pos hlast', hlast']

end Lead

section Scan

variable {b : UInt8} {p : Pending}

theorem scan_none_begun (h : lead b = .begun p) (rest : List UInt8) :
    scan none (b :: rest) = scan (some p) rest := by
  rw [scan, h]

/-- The last octet of a character completes it. -/
theorem scan_last (howed : p.owed ≤ 1) (hlow : p.low ≤ b.toNat) (hhigh : b.toNat ≤ p.high)
    (rest : List UInt8) :
    scan (some p) (b :: rest) =
      some (Char.ofNat (p.bits * 64 + (b.toNat - 0x80))) :: scan none rest := by
  simp only [scan, if_pos (And.intro hlow hhigh), if_pos howed]

/-- Any other octet of a character leaves one less to come. -/
theorem scan_next (howed : 1 < p.owed) (hlow : p.low ≤ b.toNat) (hhigh : b.toNat ≤ p.high)
    (rest : List UInt8) :
    scan (some p) (b :: rest) =
      scan (some ⟨p.bits * 64 + (b.toNat - 0x80), p.owed - 1, 0x80, 0xBF⟩) rest := by
  simp only [scan, if_pos (And.intro hlow hhigh), if_neg (Nat.not_le.mpr howed)]

/-- The octets of a character are read as that character. -/
theorem scan_encodeChar (c : Char) (rest : List UInt8) :
    scan none (String.utf8EncodeChar c ++ rest) = some c :: scan none rest := by
  have hvalid : c.val.toNat < 0xD800 ∨ 0xDFFF < c.val.toNat ∧ c.val.toNat < 0x110000 := c.valid
  have hself : Char.ofNat c.val.toNat = c := Char.ofNat_toNat c
  unfold String.utf8EncodeChar
  set v := c.val.toNat
  dsimp only
  split
  · next hone =>
      have hfirst := toNat_ofNat_of_lt (n := v) (by omega)
      rw [List.singleton_append, scan, lead_ascii (by omega), hfirst, hself]
  · split
    · next hone htwo =>
        have hfirst := toNat_ofNat_of_lt (n := v / 64 % 32 + 192) (by omega)
        have hsecond := toNat_ofNat_of_lt (n := v % 64 + 128) (by omega)
        have hbits : (v / 64 % 32 + 192 - 0xC0) * 64 + (v % 64 + 128 - 0x80) = v := by omega
        rw [List.cons_append, List.singleton_append,
          scan_none_begun (lead_two (by omega) (by omega)),
          scan_last (by simp) (by simp; omega) (by simp; omega)]
        simp only [hfirst, hsecond, hbits, hself]
    · split
      · next hone htwo hthree =>
          have hfirst := toNat_ofNat_of_lt (n := v / 4096 % 16 + 224) (by omega)
          have hsecond := toNat_ofNat_of_lt (n := v / 64 % 64 + 128) (by omega)
          have hthird := toNat_ofNat_of_lt (n := v % 64 + 128) (by omega)
          have hbits : ((v / 4096 % 16 + 224 - 0xE0) * 64 + (v / 64 % 64 + 128 - 0x80)) * 64 +
              (v % 64 + 128 - 0x80) = v := by omega
          obtain ⟨low, high, hlead, hrange⟩ := lead_three
            (b := UInt8.ofNat (v / 4096 % 16 + 224)) (by omega) (by omega)
          obtain ⟨hlow, hhigh⟩ := hrange (UInt8.ofNat (v / 64 % 64 + 128)).toNat (by omega)
            (by omega) (by omega) (by omega)
          rw [List.cons_append, List.cons_append, List.singleton_append, scan_none_begun hlead,
            scan_next (by simp) hlow hhigh, scan_last (by simp) (by simp; omega) (by simp; omega)]
          simp only [hfirst, hsecond, hthird, hbits, hself]
      · next hone htwo hthree =>
          have hfirst := toNat_ofNat_of_lt (n := v / 262144 % 8 + 240) (by omega)
          have hsecond := toNat_ofNat_of_lt (n := v / 4096 % 64 + 128) (by omega)
          have hthird := toNat_ofNat_of_lt (n := v / 64 % 64 + 128) (by omega)
          have hfourth := toNat_ofNat_of_lt (n := v % 64 + 128) (by omega)
          have hbits : (((v / 262144 % 8 + 240 - 0xF0) * 64 + (v / 4096 % 64 + 128 - 0x80)) * 64 +
              (v / 64 % 64 + 128 - 0x80)) * 64 + (v % 64 + 128 - 0x80) = v := by omega
          obtain ⟨low, high, hlead, hrange⟩ := lead_four
            (b := UInt8.ofNat (v / 262144 % 8 + 240)) (by omega) (by omega)
          obtain ⟨hlow, hhigh⟩ := hrange (UInt8.ofNat (v / 4096 % 64 + 128)).toNat (by omega)
            (by omega) (by omega) (by omega)
          rw [List.cons_append, List.cons_append, List.cons_append, List.singleton_append,
            scan_none_begun hlead, scan_next (by simp) hlow hhigh,
            scan_next (by simp) (by simp; omega) (by simp; omega),
            scan_last (by simp) (by simp; omega) (by simp; omega)]
          simp only [hfirst, hsecond, hthird, hfourth, hbits, hself]

end Scan

theorem scan_octets (cs : List Char) : scan none (octets cs) = cs.map some := by
  induction cs with
  | nil => rfl
  | cons c cs ih => rw [octets_cons, scan_encodeChar, ih, List.map_cons]

/-- The octets of a text are read as that text. -/
theorem decodeLossy_octets (cs : List Char) : decodeLossy (octets cs) = String.ofList cs := by
  rw [decodeLossy, scan_octets, List.map_map]
  exact congrArg String.ofList (List.map_id cs)

/-- Texts with the same octets are the same. -/
theorem octets_inj {cs ds : List Char} (h : octets cs = octets ds) : cs = ds := by
  have htexts : String.ofList cs = String.ofList ds := by
    rw [← decodeLossy_octets, ← decodeLossy_octets, h]
  exact String.ofList_injective htexts

/-- Readings of different lengths are different texts. -/
theorem decodeLossy_ne {octets others : List UInt8}
    (h : (scan none octets).length ≠ (scan none others).length) :
    decodeLossy octets ≠ decodeLossy others := by
  intro heq
  have hlists := congrArg (fun s : String => s.toList.length) heq
  simp only [decodeLossy, String.toList_ofList, List.length_map] at hlists
  exact h hlists

/-! ### One octet at a time -/

/-- A character that has begun goes on with octets beyond ASCII. -/
def IsBeyondAscii : Option Pending → Prop
  | none => True
  | some p => 0x80 ≤ p.low

theorem isBeyondAscii_of_lead {b : UInt8} {p : Pending} (h : lead b = .begun p) :
    IsBeyondAscii (some p) := by
  unfold lead at h
  dsimp only at h
  repeat' split at h
  all_goals simp only [reduceCtorEq, Lead.begun.injEq] at h
  all_goals
    rw [← h]
    simp [IsBeyondAscii]

/-- What one octet adds to the characters, and what is pending after it, whatever comes next. -/
theorem exists_scan_cons {pending : Option Pending} (hpending : IsBeyondAscii pending) (b : UInt8) :
    ∃ (read : List (Option Char)) (next : Option Pending), IsBeyondAscii next ∧
      ∀ rest : List UInt8, scan pending (b :: rest) = read ++ scan next rest := by
  cases pending with
  | none =>
      cases hlead : lead b with
      | whole c => exact ⟨[some c], none, trivial, fun rest => by rw [scan, hlead]; rfl⟩
      | begun p =>
          exact ⟨[], some p, isBeyondAscii_of_lead hlead, fun rest => by rw [scan, hlead]; rfl⟩
      | broken => exact ⟨[none], none, trivial, fun rest => by rw [scan, hlead]; rfl⟩
  | some p =>
      by_cases hrange : p.low ≤ b.toNat ∧ b.toNat ≤ p.high
      · by_cases howed : p.owed ≤ 1
        · exact ⟨[_], none, trivial, scan_last howed hrange.1 hrange.2⟩
        · exact ⟨[], some _, Nat.le_refl _, scan_next (Nat.not_le.mp howed) hrange.1 hrange.2⟩
      · cases hlead : lead b with
        | whole c =>
            refine ⟨[none, some c], none, trivial, fun rest => ?_⟩
            simp only [scan, if_neg hrange, hlead]
            rfl
        | begun q =>
            refine ⟨[none], some q, isBeyondAscii_of_lead hlead, fun rest => ?_⟩
            simp only [scan, if_neg hrange, hlead]
            rfl
        | broken =>
            refine ⟨[none, none], none, trivial, fun rest => ?_⟩
            simp only [scan, if_neg hrange, hlead]
            rfl

/-- What several octets add to the characters, and what is pending after them. -/
theorem exists_scan_append {pending : Option Pending} (hpending : IsBeyondAscii pending)
    (before : List UInt8) :
    ∃ (read : List (Option Char)) (next : Option Pending), IsBeyondAscii next ∧
      ∀ rest : List UInt8, scan pending (before ++ rest) = read ++ scan next rest := by
  induction before generalizing pending with
  | nil => exact ⟨[], pending, hpending, fun _ => rfl⟩
  | cons b before ih =>
      obtain ⟨first, next, hnext, hfirst⟩ := exists_scan_cons hpending b
      obtain ⟨others, last, hlast, hothers⟩ := ih hnext
      refine ⟨first ++ others, last, hlast, fun rest => ?_⟩
      rw [List.cons_append, hfirst, hothers, List.append_assoc]

/-- What has begun and is not completed. -/
def broken (pending : Option Pending) : List (Option Char) :=
  pending.toList.map fun _ => none

/-- An octet of ASCII is a character, and breaks off what has begun. -/
theorem scan_ascii {pending : Option Pending} (hpending : IsBeyondAscii pending) {b : UInt8}
    (hb : b.toNat < 0x80) (rest : List UInt8) :
    scan pending (b :: rest) = broken pending ++ some (Char.ofNat b.toNat) :: scan none rest := by
  cases pending with
  | none =>
      rw [scan, lead_ascii hb]
      rfl
  | some p =>
      have hlow : ¬(p.low ≤ b.toNat ∧ b.toNat ≤ p.high) := by
        have hp : 0x80 ≤ p.low := hpending
        omega
      simp only [scan, if_neg hlow, lead_ascii hb]
      rfl

end Utf8
end Text
end FaultRelay
