import FaultRelay.Url.QueueName
import Mathlib.Data.List.DropRight
import Mathlib.Tactic.Common

/-!
# Reading the parts of an address that stand for themselves

Letters, digits and a few signs are written as they are in every part of an address.  What is read
from such a part is the part itself.

**Results.**
* `cleaned_append`: what can be lost at the end of an address is part of its query.
* `splitScheme?_append`: the scheme of an address.
* `readPath_last`: the last segment of a path is read as it is written, whatever stands before it.
* `lastSegment?_segments`: the last segment of a path is the one that names a queue.
-/

namespace FaultRelay
namespace Url

/-! ### Characters that stand for themselves -/

/-- A character of the name of a queue. -/
def isNameChar (c : Char) : Bool :=
  c.isAlphanum || ['.', '_', '-', ':'].contains c

/-- A character of an address without codes, up to its query. -/
def isPlainChar (c : Char) : Bool :=
  isNameChar c || c == '/'

section Chars

variable {c : Char}

theorem isAscii_of_isAlphanum (hc : c.isAlphanum = true) : c.toNat < 128 := by
  have hbound : c.val ≤ 'Z'.val ∨ c.val ≤ 'z'.val ∨ c.val ≤ '9'.val := by
    rcases Bool.or_eq_true_iff.mp hc with halpha | hdigit
    · rcases Bool.or_eq_true_iff.mp halpha with hupper | hlower
      · exact Or.inl (of_decide_eq_true hupper).2
      · exact Or.inr (Or.inl (of_decide_eq_true (Bool.and_eq_true_iff.mp hlower).2))
    · exact Or.inr (Or.inr (of_decide_eq_true (Bool.and_eq_true_iff.mp hdigit).2))
  rcases hbound with hle | hle | hle
  all_goals exact Nat.lt_of_le_of_lt (UInt32.le_iff_toNat_le.mp hle) (by decide)

theorem isAscii_of_isPlainChar (hc : isPlainChar c = true) : c.toNat < 128 := by
  simp only [isPlainChar, isNameChar, Bool.or_eq_true, List.contains_iff_mem, List.mem_cons,
    List.not_mem_nil, or_false, beq_iff_eq] at hc
  rcases hc with (halphanum | rfl | rfl | rfl | rfl) | rfl
  · exact isAscii_of_isAlphanum halphanum
  all_goals decide

theorem isPlainChar_of_isNameChar (hc : isNameChar c = true) : isPlainChar c = true := by
  rw [isPlainChar, hc, Bool.true_or]

theorem isNameChar_of_isAlpha (hc : c.isAlpha = true) : isNameChar c = true := by
  rw [isNameChar, Char.isAlphanum, hc]
  rfl

theorem isAlpha_of_isLower (hc : c.isLower = true) : c.isAlpha = true :=
  Bool.or_eq_true_iff.mpr (Or.inr hc)

/-- What holds of every character of a kind within ASCII is settled by looking at those of ASCII. -/
theorem of_ascii {P Q : Char → Bool} (hascii : c.toNat < 128) (hc : Q c = true)
    (h : ∀ n : Fin 128, Q (Char.ofNat n) = true → P (Char.ofNat n) = true) : P c = true := by
  have hchar := h ⟨c.toNat, hascii⟩
  rw [Char.ofNat_toNat] at hchar
  exact hchar hc

theorem of_isPlainChar {P : Char → Bool}
    (h : ∀ n : Fin 128, isPlainChar (Char.ofNat n) = true → P (Char.ofNat n) = true)
    (hc : isPlainChar c = true) : P c = true :=
  of_ascii (isAscii_of_isPlainChar hc) hc h

theorem of_isNameChar {P : Char → Bool}
    (h : ∀ n : Fin 128, isNameChar (Char.ofNat n) = true → P (Char.ofNat n) = true)
    (hc : isNameChar c = true) : P c = true :=
  of_ascii (isAscii_of_isPlainChar (isPlainChar_of_isNameChar hc)) hc h

theorem of_isAlpha {P : Char → Bool}
    (h : ∀ n : Fin 128, (Char.ofNat n).isAlpha = true → P (Char.ofNat n) = true)
    (hc : c.isAlpha = true) : P c = true :=
  of_ascii (isAscii_of_isPlainChar (isPlainChar_of_isNameChar (isNameChar_of_isAlpha hc))) hc h

theorem of_isLower {P : Char → Bool}
    (h : ∀ n : Fin 128, (Char.ofNat n).isLower = true → P (Char.ofNat n) = true)
    (hc : c.isLower = true) : P c = true := by
  have halpha := isNameChar_of_isAlpha (isAlpha_of_isLower hc)
  exact of_ascii (isAscii_of_isPlainChar (isPlainChar_of_isNameChar halpha)) hc h

theorem isBlank_of_isPlainChar (hc : isPlainChar c = true) : Text.isBlank c = false := by
  simpa using of_isPlainChar (P := fun c => !Text.isBlank c) (by decide) hc

theorem toNat_of_isPlainChar (hc : isPlainChar c = true) : 0x20 < c.toNat := by
  simpa using of_isPlainChar (P := fun c => decide (0x20 < c.toNat)) (by decide) hc

theorem endsPath_of_isPlainChar (hc : isPlainChar c = true) : endsPath c = false := by
  simpa using of_isPlainChar (P := fun c => !endsPath c) (by decide) hc

theorem inPath_of_isNameChar (hc : isNameChar c = true) : inPath c = false := by
  simpa using of_isNameChar (P := fun c => !inPath c) (by decide) hc

theorem inOpaque_of_isNameChar (hc : isNameChar c = true) : inOpaque c = false := by
  simpa using of_isNameChar (P := fun c => !inOpaque c) (by decide) hc

theorem isSlash_of_isNameChar (family : Family) (hc : isNameChar c = true) :
    family.isSlash c = false := by
  have hslash := of_isNameChar (P := fun c => !(c == '/' || c == '\\')) (by decide) hc
  simp only [Bool.not_eq_true', Bool.or_eq_false_iff] at hslash
  rw [Family.isSlash, hslash.1, hslash.2]
  rfl

theorem toLower_of_isLower (hc : c.isLower = true) : c.toLower = c := by
  simpa using of_isLower (P := fun c => c.toLower == c) (by decide) hc

theorem ne_of_isNameChar {d : Char} (hd : isNameChar d = false) (hc : isNameChar c = true) :
    c ≠ d := by
  rintro rfl
  rw [hd] at hc
  cases hc

end Chars

/-! ### The query at the end -/

/-- Cutting from the beginning stops at the first character that is not to be cut. -/
theorem dropWhile_append_of_neg {isEnd : Char → Bool} {base : List Char} (hne : base ≠ [])
    (hbase : ∀ c ∈ base, isEnd c = false) (rest : List Char) :
    (base ++ rest).dropWhile isEnd = base ++ rest := by
  cases base with
  | nil => exact absurd rfl hne
  | cons c base => rw [List.cons_append, List.dropWhile_cons, hbase c (.head _)]; rfl

/-- Cutting from the end stops at the last character that is not to be cut. -/
theorem rdropWhile_append_of_neg {isEnd : Char → Bool} {base : List Char}
    (hbase : ∀ c ∈ base, isEnd c = false) (rest : List Char) :
    (base ++ rest).rdropWhile isEnd = base ++ rest.rdropWhile isEnd := by
  have hself : base.reverse.dropWhile isEnd = base.reverse := by
    by_cases hne : base = []
    · rw [hne]
      rfl
    · have hreverse : ∀ c ∈ base.reverse, isEnd c = false :=
        fun c hc => hbase c (List.mem_reverse.mp hc)
      simpa using dropWhile_append_of_neg (List.reverse_ne_nil_iff.mpr hne) hreverse []
  rw [List.rdropWhile, List.rdropWhile, List.reverse_append, List.dropWhile_append, hself]
  split
  · next hempty =>
      rw [List.isEmpty_iff.mp hempty, List.reverse_reverse, List.reverse_nil, List.append_nil]
  · rw [List.reverse_append, List.reverse_reverse]

/-- A query with the mark before it, or nothing at all. -/
inductive IsQuery : List Char → Prop
  | none : IsQuery []
  | some (query : List Char) : IsQuery ('?' :: query)

section Query

variable {base rest : List Char}

theorem IsQuery.rdropWhile {isEnd : Char → Bool} (hmark : isEnd '?' = false)
    (hrest : IsQuery rest) : IsQuery (rest.rdropWhile isEnd) := by
  cases hrest with
  | none => exact .none
  | some query =>
      have hbase : ∀ c ∈ ['?'], isEnd c = false := by
        intro c hc
        rw [List.mem_singleton.mp hc, hmark]
      have hcut := rdropWhile_append_of_neg hbase query
      rw [List.singleton_append] at hcut
      rw [hcut]
      exact .some _

theorem IsQuery.filter {isKept : Char → Bool} (hmark : isKept '?' = true)
    (hrest : IsQuery rest) : IsQuery (rest.filter isKept) := by
  cases hrest with
  | none => exact .none
  | some query =>
      rw [List.filter_cons_of_pos hmark]
      exact .some _

/-- What can be lost at the end of an address is part of its query. -/
theorem cleaned_append (hne : base ≠ []) (hbase : ∀ c ∈ base, 0x20 < c.toNat)
    (hrest : IsQuery rest) :
    ∃ kept : List Char, IsQuery kept ∧ cleaned (base ++ rest) = base ++ kept := by
  let isEnd := fun c : Char => decide (c.toNat ≤ 0x20)
  let isKept := fun c : Char => !(c == '\t' || c == '\n' || c == '\r')
  have hends : ∀ c ∈ base, isEnd c = false :=
    fun c hc => decide_eq_false (Nat.not_le.mpr (hbase c hc))
  have hself : base.filter isKept = base := by
    rw [List.filter_eq_self]
    intro c hc
    have hother : ∀ d : Char, isEnd d = true → (c == d) = false := by
      intro d hd
      rw [beq_eq_false_iff_ne]
      rintro rfl
      rw [hends c hc] at hd
      cases hd
    simp only [isKept, hother '\t' rfl, hother '\n' rfl, hother '\r' rfl]
    rfl
  have hclean : cleaned (base ++ rest) = base ++ (rest.rdropWhile isEnd).filter isKept := by
    change (((base ++ rest).dropWhile isEnd).rdropWhile isEnd).filter isKept = _
    rw [dropWhile_append_of_neg hne hends, rdropWhile_append_of_neg hends, List.filter_append, hself]
  exact ⟨_, (hrest.rdropWhile rfl).filter rfl, hclean⟩

/-- An address without the blanks around it: only its query can lose anything else. -/
theorem trimChars_append {before : List Char} (rest after : List Char) (hne : base ≠ [])
    (hbase : ∀ c ∈ base, Text.isBlank c = false)
    (hbefore : ∀ c ∈ before, Text.isBlank c = true) :
    Text.trimChars (before ++ (base ++ rest) ++ after) =
      base ++ (rest ++ after).rdropWhile Text.isBlank := by
  change ((before ++ (base ++ rest) ++ after).dropWhile Text.isBlank).rdropWhile Text.isBlank = _
  rw [List.append_assoc, List.append_assoc, List.dropWhile_append_of_pos hbefore,
    dropWhile_append_of_neg hne hbase, rdropWhile_append_of_neg hbase]

/-- The blanks after a query may belong to it; those after anything else are lost. -/
theorem IsQuery.rdropWhile_append {after : List Char} (hrest : IsQuery rest)
    (hafter : ∀ c ∈ after, Text.isBlank c = true) :
    IsQuery ((rest ++ after).rdropWhile Text.isBlank) := by
  cases hrest with
  | none =>
      rw [List.nil_append, List.rdropWhile_eq_nil_iff.mpr hafter]
      exact .none
  | some query => exact (IsQuery.some (query ++ after)).rdropWhile rfl

/-- The path of an address ends where the query begins. -/
theorem takeWhile_endsPath (hbase : ∀ c ∈ base, endsPath c = false) (hrest : IsQuery rest) :
    (base ++ rest).takeWhile (!endsPath ·) = base := by
  rw [List.takeWhile_append_of_pos fun c hc => by rw [hbase c hc]; rfl]
  cases hrest with
  | none => exact List.append_nil base
  | some query => exact List.append_nil base

end Query

/-! ### Schemes -/

/-- The scheme of an address, in lower case, and what follows its colon. -/
theorem splitScheme?_append {scheme : List Char} (hne : scheme ≠ [])
    (hscheme : ∀ c ∈ scheme, c.isLower = true) (rest : List Char) :
    splitScheme? (scheme ++ ':' :: rest) = some (scheme, rest) := by
  have halpha : ∀ c ∈ scheme, c.isAlpha = true := fun c hc => isAlpha_of_isLower (hscheme c hc)
  have htake : (scheme ++ ':' :: rest).takeWhile isSchemeChar = scheme := by
    have hchars : ∀ c ∈ scheme, isSchemeChar c = true := by
      intro c hc
      rw [isSchemeChar, Char.isAlphanum, halpha c hc]
      rfl
    have hcolon : isSchemeChar ':' = false := by decide
    rw [List.takeWhile_append_of_pos hchars, List.takeWhile_cons, hcolon]
    exact List.append_nil scheme
  have hlower : scheme.map Char.toLower = scheme := by
    rw [List.map_congr_left fun c hc => toLower_of_isLower (hscheme c hc), List.map_id']
  cases scheme with
  | nil => exact absurd rfl hne
  | cons c scheme =>
      simp only [splitScheme?, htake, List.drop_left, halpha c (.head _), hlower, if_true]

/-! ### Codes -/

/-- Characters that are none of a set are not put in code. -/
theorem encodeChars_self {coded : Char → Bool} {cs : List Char}
    (h : ∀ c ∈ cs, coded c = false) : encodeChars coded cs = cs := by
  induction cs with
  | nil => rfl
  | cons c cs ih =>
      have hrest := ih fun d hd => h d (.tail _ hd)
      rw [encodeChars, List.flatMap_cons, h c (.head _)]
      rw [encodeChars] at hrest
      rw [hrest]
      rfl

/-- A text without codes holds no code of a dot. -/
theorem plainDots_self {cs : List Char} (h : '%' ∉ cs) : plainDots cs = cs := by
  induction cs with
  | nil => rfl
  | cons c cs ih =>
      rw [List.mem_cons, not_or] at h
      rw [plainDots, ih h.2]
      · rintro rest rfl
        exact absurd rfl h.1
      · rintro rest rfl
        exact absurd rfl h.1

/-- Octets without a percent sign hold no code. -/
theorem decodeOctets_self {octets : List UInt8} (h : ∀ b ∈ octets, b ≠ 0x25) :
    decodeOctets octets = octets := by
  rw [decodeOctets]
  induction octets using decodeOctetsBy.induct hexOctet? with
  | case1 x y tail octet hoctet ih => exact absurd rfl (h _ (.head _))
  | case2 x y tail hoctet ih => exact absurd rfl (h _ (.head _))
  | case3 b x y tail hb ih =>
      rw [decodeOctetsBy, if_neg hb, ih fun b hb => h b (.tail _ hb)]
  | case4 short hshort => rw [decodeOctetsBy]; exact hshort

/-! ### Paths -/

theorem cutAt_ne_nil (isCut : Char → Bool) (cs : List Char) : cutAt isCut cs ≠ [] := by
  cases cs with
  | nil => exact List.cons_ne_nil _ _
  | cons c cs =>
      rw [cutAt]
      split
      · exact List.cons_ne_nil _ _
      · split <;> exact List.cons_ne_nil _ _

theorem cutAt_self {isCut : Char → Bool} {cs : List Char} (h : ∀ c ∈ cs, isCut c = false) :
    cutAt isCut cs = [cs] := by
  induction cs with
  | nil => rfl
  | cons c cs ih =>
      rw [cutAt, h c (.head _), ih fun x hx => h x (.tail _ hx)]
      rfl

/-- The last piece of a text that is cut is what follows the last cut. -/
theorem cutAt_append_cons {isCut : Char → Bool} {d : Char} (hd : isCut d = true) {last : List Char}
    (hlast : ∀ c ∈ last, isCut c = false) (front : List Char) :
    cutAt isCut (front ++ d :: last) = cutAt isCut front ++ [last] := by
  induction front with
  | nil =>
      rw [List.nil_append, cutAt, cutAt, if_pos hd, cutAt_self hlast]
      rfl
  | cons c front ih =>
      rw [List.cons_append, cutAt, cutAt, ih]
      split
      · rfl
      · cases hfront : cutAt isCut front with
        | nil => exact absurd hfront (cutAt_ne_nil isCut front)
        | cons first more => rfl

/-- The last segment is kept as it is, whatever the segments before it do. -/
theorem readSegments_concat {family : Family} (hfamily : family ≠ .file) {last : List Char}
    (hone : plainDots last ≠ ['.']) (htwo : plainDots last ≠ ['.', '.'])
    (before segments : List (List Char)) :
    ∃ front : List (List Char),
      readSegments family before (segments ++ [last]) = front ++ [last] := by
  induction segments generalizing before with
  | nil =>
      refine ⟨before, ?_⟩
      have hkept : kept family before last = last := by
        rw [kept]
        rintro c rfl
        exact absurd rfl hfamily
      rw [List.nil_append, readSegments, readSegment, if_neg htwo, if_neg hone, hkept]
  | cons segment segments ih =>
      obtain ⟨front, hfront⟩ := ih (readSegment family before segment false)
      refine ⟨front, ?_⟩
      rw [List.cons_append, readSegments, hfront]
      exact List.append_ne_nil_of_right_ne_nil _ (List.cons_ne_nil _ _)

/--
The last segment of a path is read as it is written, whatever stands before it.  The path is what
follows the first slash.
-/
theorem readPath_last {family : Family} (hfamily : family ≠ .file) {path front last : List Char}
    (hpath : '/' :: path = front ++ '/' :: last)
    (hslash : ∀ c ∈ last, family.isSlash c = false) (hcoded : ∀ c ∈ last, inPath c = false)
    (hone : plainDots last ≠ ['.']) (htwo : plainDots last ≠ ['.', '.']) :
    ∃ segments : List (List Char), readPath family path = segments ++ [last] := by
  have hcut : ∃ pieces : List (List Char), cutAt family.isSlash path = pieces ++ [last] := by
    cases front with
    | nil =>
        obtain rfl : path = last := (List.cons.inj hpath).2
        exact ⟨[], cutAt_self hslash⟩
    | cons c front =>
        obtain rfl : path = front ++ '/' :: last := (List.cons.inj hpath).2
        exact ⟨_, cutAt_append_cons rfl hslash front⟩
  obtain ⟨pieces, hpieces⟩ := hcut
  have hread : readPath family path =
      readSegments family [] ((cutAt family.isSlash path).map (encodeChars inPath)) := by
    cases family with
    | file => exact absurd rfl hfamily
    | special => rfl
    | other => rfl
  rw [hread, hpieces, List.map_append, List.map_singleton, encodeChars_self hcoded]
  exact readSegments_concat hfamily hone htwo [] _

/-! ### The segment that names a queue -/

section LastSegment

variable {last : List Char}

theorem splitOn_slash_self (hlast : ∀ c ∈ last, c ≠ '/') : last.splitOn '/' = [last] :=
  List.splitOnP_eq_singleton fun c hc => beq_eq_false_iff_ne.mpr (hlast c hc)

variable (hne : last ≠ []) (hlast : ∀ c ∈ last, c ≠ '/')
include hne hlast

/-- A path without structure names a queue as a whole. -/
theorem lastSegment?_opaqueText : lastSegment? (Path.opaqueText last).chars = some last := by
  have hempty : last.isEmpty = false := by simpa using hne
  rw [Path.chars, lastSegment?, splitOn_slash_self hlast, List.reverse_singleton,
    List.find?_cons, hempty]
  rfl

/-- The last segment of a path is the one that names a queue. -/
theorem lastSegment?_segments (segments : List (List Char)) :
    lastSegment? (Path.segments (segments ++ [last])).chars = some last := by
  have hempty : last.isEmpty = false := by simpa using hne
  have hchars : (Path.segments (segments ++ [last])).chars =
      (Path.segments segments).chars ++ '/' :: last := by
    simp only [Path.chars, List.flatMap_append, List.flatMap_singleton]
  have hsplit : ((Path.segments segments).chars ++ '/' :: last).splitOn '/' =
      (Path.segments segments).chars.splitOn '/' ++ [last] := by
    rw [← splitOn_slash_self hlast]
    exact List.splitOnP_append_cons _ last (beq_self_eq_true '/')
  rw [hchars, lastSegment?, hsplit, List.reverse_append, List.reverse_singleton,
    List.singleton_append, List.find?_cons, hempty]
  rfl

end LastSegment

end Url
end FaultRelay
