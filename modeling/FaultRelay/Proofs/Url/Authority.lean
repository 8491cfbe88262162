import FaultRelay.Proofs.Url.Segments
import FaultRelay.Url.Address

/-!
# Credentials in front of a host

The credentials of an address, its host with a number, and its path are read apart from each other:
an address is still one when credentials and a path are added to its host.

**Rules.**
* `ofParts?`: the address that credentials, a host with a number and a path give.
* `IsHostPort`: the characters of a host and a number.

**Results.**
* `withAuthority?_eq`: what follows two slashes is cut into these parts.
* `parse?_login`: an address with credentials and a path has the host and the number that it has
  without them.
-/

namespace FaultRelay
namespace Url

/-! ### Credentials -/

section Separators

variable {cs : List Char} {separator : Char}

theorem bne_of_not_mem (h : separator ∉ cs) : ∀ c ∈ cs, (c != separator) = true := by
  intro c hc
  rw [bne_iff_ne]
  rintro rfl
  exact h hc

/-- The text before the first separator. -/
theorem takeWhile_ne_append (h : separator ∉ cs) (rest : List Char) :
    (cs ++ separator :: rest).takeWhile (· != separator) = cs := by
  rw [List.takeWhile_append_of_pos (bne_of_not_mem h)]
  simp

/-- The text after the last separator. -/
theorem takeWhile_ne_reverse (front : List Char) (h : separator ∉ cs) :
    (front ++ separator :: cs).reverse.takeWhile (· != separator) = cs.reverse := by
  have hreverse : separator ∉ cs.reverse := fun hmem => h (List.mem_reverse.mp hmem)
  rw [List.reverse_append, List.reverse_cons, List.append_assoc, List.singleton_append,
    takeWhile_ne_append hreverse]

end Separators

section Credentials

variable {credentials host name password : List Char}

theorem splitLastAt_of_not_mem (h : '@' ∉ host) : splitLastAt host = none := by
  rw [splitLastAt, if_neg]
  rw [List.contains_iff_mem]
  exact h

/-- The host begins after the last `@`. -/
theorem splitLastAt_append (h : '@' ∉ host) :
    splitLastAt (credentials ++ '@' :: host) = some (credentials, host) := by
  have hlast : ((credentials ++ '@' :: host).reverse.takeWhile (· != '@')).reverse = host := by
    rw [takeWhile_ne_reverse credentials h, List.reverse_reverse]
  have hmem : (credentials ++ '@' :: host).contains '@' = true := by simp
  have hlength : (credentials ++ '@' :: host).length - host.length - 1 = credentials.length := by
    simp only [List.length_append, List.length_cons]
    omega
  simp only [splitLastAt, hmem, if_true, hlast, hlength, List.take_left]

/-- A name without a colon and a password are read as they are written, unless they need codes. -/
theorem splitCredentials_append (hcolon : ':' ∉ name)
    (hname : ∀ c ∈ name, inCredentials c = false)
    (hpassword : ∀ c ∈ password, inCredentials c = false) :
    splitCredentials (name ++ ':' :: password) = (name, password) := by
  have hdrop : (name ++ ':' :: password).drop (name.length + 1) = password := by simp
  rw [splitCredentials, takeWhile_ne_append hcolon, hdrop, encodeChars_self hname,
    encodeChars_self hpassword]

end Credentials

/-! ### The parts after two slashes -/

/-- The host and the number that a text gives under a scheme. -/
def hostPort? (scheme text : List Char) : Option (List Char × Option Nat) := do
  let family := Family.ofScheme scheme
  let (hostText, portText) := splitPort false text
  if hostText.isEmpty && (family == .special || portText.isSome) then none
  let host ← if family == .special then specialHost? hostText else opaqueHost? hostText
  let number ← match portText with
    | some text => readPort? scheme text
    | none => some none
  return (host, number)

/-- What follows two slashes is cut where the path begins, and before that at the last `@`. -/
theorem withAuthority?_eq (scheme credentials host : List Char) {authority tail : List Char}
    (hauthority : ∀ c ∈ authority, endsAuthority (Family.ofScheme scheme) c = false)
    (htail : tail.takeWhile (!endsAuthority (Family.ofScheme scheme) ·) = [])
    (hsplit : (splitLastAt authority).getD ([], authority) = (credentials, host))
    (hhost : (host.isEmpty && authority.contains '@') = false) :
    withAuthority? scheme (authority ++ tail) =
      (hostPort? scheme host).map fun read =>
        ⟨scheme, (splitCredentials credentials).1, (splitCredentials credentials).2, read.1, read.2,
          pathAfterAuthority (Family.ofScheme scheme) (tail.takeWhile (!endsPath ·))⟩ := by
  have htake : (authority ++ tail).takeWhile (!endsAuthority (Family.ofScheme scheme) ·) =
      authority := by
    rw [List.takeWhile_append_of_pos fun c hc => by rw [hauthority c hc]; rfl, htail,
      List.append_nil]
  rw [withAuthority?]
  simp only [htake, List.drop_left, hsplit, hhost, hostPort?, Option.bind_eq_bind,
    Bool.false_eq_true, if_false]
  split
  · rfl
  · -- Whichever way the host is read, the number is read after it.
    split
    all_goals
      rw [Option.map_bind]
      refine congrArg _ (funext fun read => ?_)
      cases (splitPort false host).2 with
      | none => rfl
      | some text =>
          rw [Function.comp_apply, Option.map_bind]
          rfl

/-! ### Addresses of other schemes -/

section Other

variable {scheme base rest : List Char} (hscheme : scheme ≠ [])
  (hlower : ∀ c ∈ scheme, c.isLower = true) (hfamily : Family.ofScheme scheme = .other)
include hscheme hlower hfamily

/-- What follows the two slashes of an address without a well known scheme. -/
theorem parse?_other (hbase : ∀ c ∈ base, 0x20 < c.toNat) (hrest : IsQuery rest) :
    ∃ kept : List Char, IsQuery kept ∧
      Address.parse? (String.ofList (scheme ++ "://".toList ++ base ++ rest)) =
        withAuthority? scheme (base ++ kept) := by
  have hletters : ∀ c ∈ scheme, 0x20 < c.toNat := fun c hc => toNat_of_isPlainChar
    (isPlainChar_of_isNameChar (isNameChar_of_isAlpha (isAlpha_of_isLower (hlower c hc))))
  have hchars : ∀ c ∈ scheme ++ "://".toList ++ base, 0x20 < c.toNat := by
    simp only [List.forall_mem_append]
    exact ⟨⟨hletters, by simp⟩, hbase⟩
  have hne : scheme ++ "://".toList ++ base ≠ [] :=
    List.append_ne_nil_of_left_ne_nil (List.append_ne_nil_of_left_ne_nil hscheme _) _
  obtain ⟨kept, hkept, hclean⟩ := cleaned_append hne hchars hrest
  have hsplit : splitScheme? (scheme ++ "://".toList ++ base ++ kept) =
      some (scheme, '/' :: '/' :: (base ++ kept)) := by
    rw [← splitScheme?_append hscheme hlower]
    simp
  refine ⟨kept, hkept, ?_⟩
  rw [Address.parse?, String.toList_ofList, hclean, hsplit]
  simp only [Option.bind_eq_bind, Option.bind_some, hfamily, ofOther?]

end Other

/-! ### Addresses with credentials -/

/-- The characters of a host and a number: none of them ends these. -/
structure IsHostPort (host : List Char) : Prop where
  ne_nil : host ≠ []
  visible : ∀ c ∈ host, 0x20 < c.toNat
  no_end : ∀ c ∈ host, endsAuthority .other c = false
  no_at : '@' ∉ host

/-- A letter, a digit or the sign that codes begin with. -/
def isCodeChar (c : Char) : Bool :=
  c.isAlphanum || c == '%'

theorem of_isCodeChar {P : Char → Bool}
    (h : ∀ n : Fin 128, isCodeChar (Char.ofNat n) = true → P (Char.ofNat n) = true) {c : Char}
    (hc : isCodeChar c = true) : P c = true := by
  refine of_ascii ?_ hc h
  rcases Bool.or_eq_true_iff.mp hc with halphanum | hpercent
  · exact isAscii_of_isAlphanum halphanum
  · rw [beq_iff_eq.mp hpercent]
    decide

theorem eq_false_of_isCodeChar {f : Char → Bool}
    (h : ∀ n : Fin 128, isCodeChar (Char.ofNat n) = true → f (Char.ofNat n) = false) {cs : List Char}
    (hcs : ∀ c ∈ cs, isCodeChar c = true) : ∀ c ∈ cs, f c = false := by
  intro c hc
  have hnot := of_isCodeChar (P := fun c => !f c) (fun n hn => by rw [h n hn]; rfl) (hcs c hc)
  rwa [Bool.not_eq_true'] at hnot

theorem ne_of_isCodeChar {d : Char} (hd : isCodeChar d = false) {cs : List Char}
    (hcs : ∀ c ∈ cs, isCodeChar c = true) : d ∉ cs := by
  intro hmem
  have hc := hcs d hmem
  rw [hd] at hc
  cases hc

section Login

variable {scheme host name password vhost rest : List Char}

theorem IsQuery.takeWhile_endsAuthority (family : Family) (hrest : IsQuery rest) :
    rest.takeWhile (!endsAuthority family ·) = [] := by
  cases hrest with
  | none => rfl
  | some query => rfl

/--
An address with credentials and a path has the host and the number that it has without them; what
is in code stays in code.
-/
theorem parse?_login (hscheme : scheme ≠ []) (hlower : ∀ c ∈ scheme, c.isLower = true)
    (hfamily : Family.ofScheme scheme = .other) (hhost : IsHostPort host)
    (hname : ∀ c ∈ name, isCodeChar c = true) (hpassword : ∀ c ∈ password, isCodeChar c = true)
    (hvhost : ∀ c ∈ vhost, isCodeChar c = true) (hrest : IsQuery rest) {a : Address}
    (ha : Address.parse? (String.ofList (scheme ++ "://".toList ++ host)) = some a) :
    Address.parse? (String.ofList (scheme ++ "://".toList ++
        (name ++ ':' :: password ++ '@' :: host ++ '/' :: vhost) ++ rest)) =
      some { a with
        username := name
        password := password
        path := .segments (readPath .other vhost) } := by
  have hvisible : ∀ cs : List Char, (∀ c ∈ cs, isCodeChar c = true) → ∀ c ∈ cs, 0x20 < c.toNat :=
    fun cs hcs c hc => by
      simpa using of_isCodeChar (P := fun c => decide (0x20 < c.toNat)) (by decide) (hcs c hc)
  have hwithin : ∀ cs : List Char, (∀ c ∈ cs, isCodeChar c = true) →
      ∀ c ∈ cs, endsAuthority .other c = false :=
    fun _ => eq_false_of_isCodeChar (by decide)
  have hplain : ∀ cs : List Char, (∀ c ∈ cs, isCodeChar c = true) →
      ∀ c ∈ cs, inCredentials c = false :=
    fun _ => eq_false_of_isCodeChar (by decide)
  have hempty : host.isEmpty = false := by simpa using hhost.ne_nil
  have hread : (hostPort? scheme host).map (fun read =>
      (⟨scheme, [], [], read.1, read.2, .segments []⟩ : Address)) = some a := by
    obtain ⟨kept, hkept, hparse⟩ := parse?_other hscheme hlower hfamily hhost.visible .none
    have hnone : ∀ c ∈ ([] : List Char), endsPath c = false := nofun
    have hpath : kept.takeWhile (!endsPath ·) = [] := takeWhile_endsPath hnone hkept
    rw [List.append_nil, ha, withAuthority?_eq scheme [] host
      (hfamily ▸ hhost.no_end) (hkept.takeWhile_endsAuthority _)
      (by rw [splitLastAt_of_not_mem hhost.no_at]; rfl) (by rw [hempty]; rfl), hpath,
      hfamily] at hparse
    exact hparse.symm
  obtain ⟨read, hhostPort, rfl⟩ := Option.map_eq_some_iff.mp hread
  have hauthority : ∀ c ∈ name ++ ':' :: password ++ '@' :: host,
      endsAuthority .other c = false := by
    simp only [List.forall_mem_append, List.forall_mem_cons]
    exact ⟨⟨hwithin name hname, rfl, hwithin password hpassword⟩, rfl, hhost.no_end⟩
  have hbase : ∀ c ∈ name ++ ':' :: password ++ '@' :: host ++ '/' :: vhost, 0x20 < c.toNat := by
    simp only [List.forall_mem_append, List.forall_mem_cons]
    exact ⟨⟨⟨hvisible name hname, by decide, hvisible password hpassword⟩, by decide,
      hhost.visible⟩, by decide, hvisible vhost hvhost⟩
  obtain ⟨kept, hkept, hparse⟩ := parse?_other hscheme hlower hfamily hbase hrest
  have htail : ('/' :: vhost ++ kept).takeWhile (!endsAuthority .other ·) = [] := rfl
  have hpath : ('/' :: vhost ++ kept).takeWhile (!endsPath ·) = '/' :: vhost := by
    refine takeWhile_endsPath ?_ hkept
    refine List.forall_mem_cons.mpr ⟨rfl, fun c hc => ?_⟩
    exact (Bool.or_eq_false_iff.mp (hwithin vhost hvhost c hc)).1
  have hcredentials : splitCredentials (name ++ ':' :: password) = (name, password) :=
    splitCredentials_append (ne_of_isCodeChar (by decide) hname) (hplain name hname)
      (hplain password hpassword)
  rw [hparse, List.append_assoc, withAuthority?_eq scheme (name ++ ':' :: password) host
    (hfamily ▸ hauthority) (by rw [hfamily]; exact htail)
    (by rw [splitLastAt_append hhost.no_at]; rfl) (by rw [hempty]; rfl), hhostPort, hpath,
    hcredentials, hfamily]
  rfl

end Login

end Url
end FaultRelay
