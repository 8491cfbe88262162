import FaultRelay.Proofs.Text.Octets
import FaultRelay.Proofs.Url.Segments

/-!
# The spellings of a queue

A queue can be given by its name alone, by a short address, or by a full address with a host and
virtual hosts, the addresses with a query behind them or without one.

**Results.**
* `withAuthority?_letters`: a full address of a host of letters, whatever its scheme asks of hosts.
* `Names.parse`: every address of a queue is an address, and its last segment is the queue.
* `queueName_of_spells`: every spelling of a queue, with blanks around it, names that queue.
-/

namespace FaultRelay
namespace Url

open Text

/-! ### Hosts of letters -/

section Host

variable {host : List Char}

/-- A name of lower-case letters is no number. -/
theorem endsInNumber_of_isLower (hne : host ≠ []) (hlower : ∀ c ∈ host, c.isLower = true) :
    endsInNumber host = false := by
  have hdot : host.splitOn '.' = [host] := by
    refine List.splitOnP_eq_singleton fun c hc => ?_
    simpa using of_isLower (P := fun c => !(c == '.')) (by decide) (hlower c hc)
  cases host with
  | nil => exact absurd rfl hne
  | cons c host =>
      have hlabels : labels (c :: host) = [c :: host] := by
        rw [labels, hdot]
        rfl
      have hdigit : c.isDigit = false := by
        simpa using of_isLower (P := fun c => !c.isDigit) (by decide) (hlower c (.head _))
      have hzero : c ≠ '0' := by
        simpa using of_isLower (P := fun c => !(c == '0')) (by decide) (hlower c (.head _))
      have hvalue : ∀ d : Nat, Hex.value? c = some d → ¬d < 10 := by
        intro d hd
        have hten := of_isLower (P := fun c => (Hex.value? c).all (10 ≤ ·)) (by decide)
          (hlower c (.head _))
        rw [hd] at hten
        simpa using hten
      have hnumber : ipv4Number? (c :: host) = none := by
        rw [ipv4Number?]
        · cases hfirst : Hex.value? c with
          | none => simp only [List.foldlM_cons, hfirst]; rfl
          | some d =>
              simp only [List.foldlM_cons, hfirst, Option.bind_eq_bind, Option.bind_some,
                if_neg (hvalue d hfirst), Option.bind_none]
        · exact List.cons_ne_nil c host
        · exact fun _ h => hzero (List.cons.inj h).1
        · exact fun _ h => hzero (List.cons.inj h).1
        · exact fun _ _ h => hzero (List.cons.inj h).1
      rw [endsInNumber, hlabels]
      simp [hdigit, hnumber]

/-- The host of a well known scheme, in the form that domain names use. -/
theorem domain?_letters (hne : host ≠ []) (halpha : ∀ c ∈ host, c.isAlpha = true) :
    domain? host = some (host.map domainChar) := by
  have hname : ∀ c ∈ host, isNameChar c = true := fun c hc => isNameChar_of_isAlpha (halpha c hc)
  have hlower : ∀ c ∈ host.map domainChar, c.isLower = true := by
    intro c hc
    obtain ⟨d, hd, rfl⟩ := List.mem_map.mp hc
    exact of_isAlpha (P := fun c => (domainChar c).isLower) (by decide) (halpha d hd)
  have hmap : host.map domainChar ≠ [] := by simpa using hne
  have hascii : ∀ c ∈ host, c.toNat < 128 :=
    fun c hc => isAscii_of_isPlainChar (isPlainChar_of_isNameChar (hname c hc))
  have hoctets : decodeOctets (Utf8.octets host) = Utf8.octets host := by
    refine decodeOctets_self fun b hb => ?_
    obtain ⟨c, hc, hmem⟩ := List.mem_flatMap.mp hb
    rw [Utf8.encodeChar_of_ascii (hascii c hc), List.mem_singleton] at hmem
    rw [hmem]
    simpa using of_isNameChar (P := fun c => UInt8.ofNat c.toNat != 0x25) (by decide) (hname c hc)
  have hdecode : Utf8.decode? (decodeOctets (Utf8.encode (String.ofList host))) =
      some (String.ofList host) := by
    rw [Utf8.encode_ofList, hoctets, ← Utf8.encode_ofList, Utf8.decode?_encode]
  have hignored : host.filter (!isIgnoredInDomain ·) = host := by
    rw [List.filter_eq_self]
    exact fun c hc => of_isNameChar (P := fun c => !isIgnoredInDomain c) (by decide) (hname c hc)
  have hforbidden : (host.map domainChar).any isForbiddenInDomain = false := by
    rw [List.any_eq_false]
    intro c hc
    simpa using of_isLower (P := fun c => !isForbiddenInDomain c) (by decide) (hlower c hc)
  have hempty : (host.map domainChar).isEmpty = false := by simpa using hne
  simp only [domain?, hdecode, Option.bind_eq_bind, Option.bind_some, String.toList_ofList,
    hignored, hforbidden, hempty, endsInNumber_of_isLower hmap hlower]
  rfl

/-- A host of letters is read under every scheme. -/
theorem host?_letters (hne : host ≠ []) (halpha : ∀ c ∈ host, c.isAlpha = true) (special : Bool) :
    ∃ read : List Char,
      (if special then specialHost? host else opaqueHost? host) = some read := by
  have hname : ∀ c ∈ host, isNameChar c = true := fun c hc => isNameChar_of_isAlpha (halpha c hc)
  have hforbidden : host.any isForbidden = false := by
    rw [List.any_eq_false]
    intro c hc
    simpa using of_isAlpha (P := fun c => !isForbidden c) (by decide) (halpha c hc)
  have hbracket : ∀ rest, host ≠ '[' :: rest := by
    rintro rest rfl
    exact absurd (halpha '[' (.head _)) (by decide)
  cases special with
  | true =>
      refine ⟨host.map domainChar, ?_⟩
      rw [if_pos rfl, specialHost?, domain?_letters hne halpha]
      exact hbracket
  | false =>
      refine ⟨encodeChars inOpaque host, ?_⟩
      rw [if_neg Bool.false_ne_true, opaqueHost?, if_neg]
      · rw [hforbidden]
        exact Bool.false_ne_true
      · exact hbracket

end Host

/-! ### Addresses of a host of letters -/

theorem splitPort_letters {host : List Char} (halpha : ∀ c ∈ host, c.isAlpha = true) :
    splitPort false host = (host, none) := by
  induction host with
  | nil => rfl
  | cons c host ih =>
      have hbracket : (c == '[') = false := by
        simpa using of_isAlpha (P := fun c => !(c == '[')) (by decide) (halpha c (.head _))
      have hcolon : c ≠ ':' := by
        simpa using of_isAlpha (P := fun c => !(c == ':')) (by decide) (halpha c (.head _))
      rw [splitPort, hbracket, Bool.false_and, Bool.or_false, ih fun d hd => halpha d (.tail _ hd)]
      exact fun _ => hcolon

/-- A full address of a host of letters has the path that follows the host. -/
theorem withAuthority?_letters (scheme : List Char) {host path rest : List Char} (hne : host ≠ [])
    (halpha : ∀ c ∈ host, c.isAlpha = true) (hpath : ∀ c ∈ path, endsPath c = false)
    (hrest : IsQuery rest) :
    ∃ a : Address, withAuthority? scheme (host ++ ('/' :: path ++ rest)) = some a ∧
      a.path = .segments (readPath (Family.ofScheme scheme) path) := by
  have hname : ∀ c ∈ host, isNameChar c = true := fun c hc => isNameChar_of_isAlpha (halpha c hc)
  have hhost : ∀ c ∈ host, endsAuthority (Family.ofScheme scheme) c = false := by
    intro c hc
    rw [endsAuthority, endsPath_of_isPlainChar (isPlainChar_of_isNameChar (hname c hc)),
      isSlash_of_isNameChar _ (hname c hc)]
    rfl
  have hauthority : (host ++ ('/' :: path ++ rest)).takeWhile
      (!endsAuthority (Family.ofScheme scheme) ·) = host := by
    rw [List.takeWhile_append_of_pos fun c hc => by rw [hhost c hc]; rfl]
    exact List.append_nil host
  have hafter : ('/' :: path ++ rest).takeWhile (!endsPath ·) = '/' :: path := by
    refine takeWhile_endsPath ?_ hrest
    intro c hc
    rcases List.mem_cons.mp hc with rfl | hc
    · rfl
    · exact hpath c hc
  have hcredentials : splitLastAt host = none := by
    have hat : host.contains '@' = false := by
      rw [List.contains_eq_any_beq, List.any_eq_false]
      intro c hc
      simpa using of_isNameChar (P := fun c => !('@' == c)) (by decide) (hname c hc)
    rw [splitLastAt, hat]
    rfl
  obtain ⟨read, hread⟩ := host?_letters hne halpha (Family.ofScheme scheme == .special)
  have hempty : host.isEmpty = false := by simpa using hne
  refine ⟨⟨scheme, [], [], read, none, .segments (readPath (Family.ofScheme scheme) path)⟩, ?_, rfl⟩
  have hpathRead : pathAfterAuthority (Family.ofScheme scheme) ('/' :: path) =
      .segments (readPath (Family.ofScheme scheme) path) := by
    rw [pathAfterAuthority]
    rfl
  have hnobody : splitCredentials [] = ([], []) := rfl
  rw [withAuthority?]
  simp only [hauthority, List.drop_left, hafter, hcredentials, Option.getD_none, hempty, hnobody,
    splitPort_letters halpha, Bool.false_and, Option.isSome_none, Bool.or_false, hpathRead]
  cases hspecial : Family.ofScheme scheme == .special with
  | true =>
      rw [hspecial, if_pos rfl] at hread
      simp [hread]
  | false =>
      rw [hspecial, if_neg Bool.false_ne_true] at hread
      simp [hread]

/-- A text with the structure of a full address is one. -/
theorem parse?_full {scheme : List Char} (hscheme : scheme ≠ [])
    (hlower : ∀ c ∈ scheme, c.isLower = true) (hfamily : Family.ofScheme scheme ≠ .file)
    {host path rest : List Char} (hne : host ≠ []) (halpha : ∀ c ∈ host, c.isAlpha = true)
    (hpath : ∀ c ∈ path, isPlainChar c = true) (hrest : IsQuery rest) :
    ∃ a : Address,
      Address.parse? (String.ofList (scheme ++ "://".toList ++ host ++ '/' :: path ++ rest)) =
        some a ∧
      a.path = .segments (readPath (Family.ofScheme scheme) path) := by
  have hletters : ∀ cs : List Char, (∀ c ∈ cs, c.isAlpha = true) → ∀ c ∈ cs, isPlainChar c = true :=
    fun cs hcs c hc => isPlainChar_of_isNameChar (isNameChar_of_isAlpha (hcs c hc))
  have hbase : ∀ c ∈ scheme ++ "://".toList ++ host ++ '/' :: path, isPlainChar c = true := by
    simp only [List.forall_mem_append, List.forall_mem_cons]
    exact ⟨⟨⟨hletters scheme fun c hc => isAlpha_of_isLower (hlower c hc),
      List.all_eq_true.mp rfl⟩, hletters host halpha⟩, rfl, hpath⟩
  obtain ⟨kept, hkept, hclean⟩ := cleaned_append (by simp)
    (fun c hc => toNat_of_isPlainChar (hbase c hc)) hrest
  have hsplit : splitScheme? (scheme ++ "://".toList ++ host ++ '/' :: path ++ kept) =
      some (scheme, '/' :: '/' :: (host ++ ('/' :: path ++ kept))) := by
    rw [← splitScheme?_append hscheme hlower]
    simp
  obtain ⟨a, hparse, ha⟩ := withAuthority?_letters scheme hne halpha
    (fun c hc => endsPath_of_isPlainChar (hpath c hc)) hkept
  refine ⟨a, ?_, ha⟩
  rw [Address.parse?, String.toList_ofList, hclean, hsplit]
  cases hof : Family.ofScheme scheme with
  | file => exact absurd hof hfamily
  | special =>
      have hhost : ∀ c ∈ host, Family.isSlash .special c = false :=
        fun c hc => isSlash_of_isNameChar _ (isNameChar_of_isAlpha (halpha c hc))
      have hslashes : ('/' :: '/' :: (host ++ ('/' :: path ++ kept))).dropWhile
          (Family.isSlash .special) = host ++ ('/' :: path ++ kept) := by
        rw [List.dropWhile_cons_of_pos rfl, List.dropWhile_cons_of_pos rfl,
          dropWhile_append_of_neg hne hhost]
      simp only [Option.bind_eq_bind, Option.bind_some, hof, hslashes, hparse]
  | other =>
      simp only [Option.bind_eq_bind, Option.bind_some, hof, ofOther?, hparse]

/-- A text with the structure of a short address is one. -/
theorem parse?_short {scheme : List Char} (hscheme : scheme ≠ [])
    (hlower : ∀ c ∈ scheme, c.isLower = true) (hfamily : Family.ofScheme scheme = .other)
    {queue rest : List Char} (hne : queue ≠ []) (hname : ∀ c ∈ queue, isNameChar c = true)
    (hrest : IsQuery rest) :
    ∃ a : Address,
      Address.parse? (String.ofList (scheme ++ ':' :: queue ++ rest)) = some a ∧
      a.path = .opaqueText queue := by
  have hbase : ∀ c ∈ scheme ++ ':' :: queue, isPlainChar c = true := by
    simp only [List.forall_mem_append, List.forall_mem_cons]
    exact ⟨fun c hc => isPlainChar_of_isNameChar (isNameChar_of_isAlpha
      (isAlpha_of_isLower (hlower c hc))), rfl, fun c hc => isPlainChar_of_isNameChar (hname c hc)⟩
  obtain ⟨kept, hkept, hclean⟩ := cleaned_append (by simp)
    (fun c hc => toNat_of_isPlainChar (hbase c hc)) hrest
  have hsplit : splitScheme? (scheme ++ ':' :: queue ++ kept) =
      some (scheme, queue ++ kept) := by
    rw [← splitScheme?_append hscheme hlower]
    simp
  refine ⟨⟨scheme, [], [], [], none, .opaqueText queue⟩, ?_, rfl⟩
  have htext : (queue ++ kept).takeWhile (!endsPath ·) = queue :=
    takeWhile_endsPath
      (fun c hc => endsPath_of_isPlainChar (isPlainChar_of_isNameChar (hname c hc))) hkept
  have hcoded : encodeChars inOpaque queue = queue :=
    encodeChars_self fun c hc => inOpaque_of_isNameChar (hname c hc)
  have hslash : ∀ more, queue ++ kept ≠ '/' :: more := by
    intro more hcons
    cases queue with
    | nil => exact hne rfl
    | cons c queue =>
        obtain rfl : c = '/' := (List.cons.inj hcons).1
        exact absurd (hname '/' (.head _)) (by decide)
  rw [Address.parse?, String.toList_ofList, hclean, hsplit]
  simp only [Option.bind_eq_bind, Option.bind_some, hfamily]
  rw [ofOther?, htext, hcoded]
  · exact fun more => hslash _
  · exact hslash

/-! ### The spellings of a queue -/

/-- The name of a queue: no character that needs a code, and no dots that stand for a place. -/
structure IsQueueName (queue : List Char) : Prop where
  ne_nil : queue ≠ []
  chars : ∀ c ∈ queue, isNameChar c = true
  ne_dot : queue ≠ ['.']
  ne_dots : queue ≠ ['.', '.']

/-- The schemes of full addresses. -/
def fullSchemes : List String := ["rabbitmq", "amqp", "amazonsqs", "http", "https"]

/-- The addresses of a queue, without queries. -/
inductive Names (queue : List Char) : List Char → Prop
  | short {scheme : String} (hscheme : scheme ∈ shortSchemes) :
      Names queue (scheme.toList ++ queue)
  | full {scheme : String} (hscheme : scheme ∈ fullSchemes)
      {host : List Char} (hne : host ≠ []) (hhost : ∀ c ∈ host, c.isAlpha = true)
      {virtualHosts : List (List Char)}
      (hvirtual : ∀ name ∈ virtualHosts, ∀ c ∈ name, c.isAlpha = true) :
      Names queue
        (scheme.toList ++ "://".toList ++ host ++ (virtualHosts ++ [queue]).flatMap ('/' :: ·))

/-- The spellings of a queue: its addresses, any of them with a query, and its name. -/
inductive Spells (queue : List Char) : List Char → Prop
  | address {text : List Char} (haddress : Names queue text) : Spells queue text
  | withQuery {text : List Char} (haddress : Names queue text) (query : List Char) :
      Spells queue (text ++ '?' :: query)
  | name (hbegins : ∀ scheme ∈ shortSchemes, ¬scheme.toList <+: queue) : Spells queue queue

/-! ### Reading them -/

theorem holdsRun_append (before part after : List Char) :
    holdsRun part (before ++ (part ++ after)) = true := by
  have hbegins : part.isPrefixOf (part ++ after) = true :=
    List.isPrefixOf_iff_prefix.mpr (List.prefix_append part after)
  induction before with
  | nil =>
      rw [List.nil_append]
      cases htext : part ++ after with
      | nil => rw [holdsRun, (List.append_eq_nil_iff.mp htext).1]; rfl
      | cons c rest => rw [holdsRun, ← htext, hbegins, Bool.true_or]
  | cons c before ih => rw [List.cons_append, holdsRun, ih, Bool.or_true]

theorem mem_of_holdsRun {part cs : List Char} (h : holdsRun part cs = true) {c : Char}
    (hc : c ∈ part) : c ∈ cs := by
  induction cs with
  | nil =>
      rw [holdsRun, List.isEmpty_iff] at h
      rw [h] at hc
      exact hc
  | cons d cs ih =>
      rw [holdsRun, Bool.or_eq_true] at h
      rcases h with hbegins | hrest
      · exact (List.isPrefixOf_iff_prefix.mp hbegins).subset hc
      · exact .tail _ (ih hrest)

section Queue

variable {queue base rest : List Char}

/-- No address holds a character that needs a code. -/
theorem Names.chars (hqueue : IsQueueName queue) (h : Names queue base) :
    ∀ c ∈ base, isPlainChar c = true := by
  have hletters : ∀ c : Char, c.isAlpha = true → isPlainChar c = true :=
    fun c hc => isPlainChar_of_isNameChar (isNameChar_of_isAlpha hc)
  have hname : ∀ c ∈ queue, isPlainChar c = true :=
    fun c hc => isPlainChar_of_isNameChar (hqueue.chars c hc)
  cases h with
  | short hscheme =>
      have hschemes : ∀ scheme ∈ shortSchemes, scheme.toList.all isPlainChar = true := by
        decide +kernel
      exact List.forall_mem_append.mpr ⟨List.all_eq_true.mp (hschemes _ hscheme), hname⟩
  | @full scheme hscheme host hne hhost virtualHosts hvirtual =>
      have hschemes : ∀ scheme ∈ fullSchemes, scheme.toList.all isPlainChar = true := by
        decide +kernel
      have hpath : ∀ c ∈ (virtualHosts ++ [queue]).flatMap ('/' :: ·), isPlainChar c = true := by
        intro c hc
        obtain ⟨name, hmem, hc⟩ := List.mem_flatMap.mp hc
        rcases List.mem_cons.mp hc with rfl | hc
        · rfl
        · rcases List.mem_append.mp hmem with hmem | hmem
          · exact hletters c (hvirtual name hmem c hc)
          · rw [List.mem_singleton.mp hmem] at hc
            exact hname c hc
      simp only [List.forall_mem_append]
      exact ⟨⟨⟨List.all_eq_true.mp (hschemes scheme hscheme), List.all_eq_true.mp rfl⟩,
        fun c hc => hletters c (hhost c hc)⟩, hpath⟩

/-- Every address of a queue is an address, and its last segment is the queue. -/
theorem Names.parse (hqueue : IsQueueName queue) (h : Names queue base) (hrest : IsQuery rest) :
    isAddress (String.ofList (base ++ rest)) = true ∧
      ∃ a : Address, Address.parse? (String.ofList (base ++ rest)) = some a ∧
        lastSegment? a.path.chars = some queue := by
  have hslash : ∀ c ∈ queue, c ≠ '/' :=
    fun c hc => ne_of_isNameChar (by decide) (hqueue.chars c hc)
  have hchars := h.chars hqueue
  cases h with
  | @short scheme hscheme =>
      have hschemes : ∀ scheme ∈ shortSchemes,
          scheme.toList = scheme.toList.dropLast ++ [':'] ∧ scheme.toList.dropLast ≠ [] ∧
            scheme.toList.dropLast.all Char.isLower = true ∧
            Family.ofScheme scheme.toList.dropLast = .other := by
        decide +kernel
      obtain ⟨hcolon, hne, hlower, hfamily⟩ := hschemes scheme hscheme
      obtain ⟨a, hparse, ha⟩ :=
        parse?_short hne (List.all_eq_true.mp hlower) hfamily hqueue.ne_nil hqueue.chars hrest
      have hbase : scheme.toList ++ queue = scheme.toList.dropLast ++ ':' :: queue := by
        rw [hcolon]
        simp
      refine ⟨?_, a, ?_, ?_⟩
      · have hbegins : beginsWith scheme (String.ofList (scheme.toList ++ queue ++ rest)) = true := by
          rw [beginsWith, String.toList_ofList, List.append_assoc]
          exact List.isPrefixOf_iff_prefix.mpr (List.prefix_append _ _)
        rw [isAddress, List.any_eq_true.mpr ⟨scheme, hscheme, hbegins⟩, Bool.or_true]
      · rw [hbase, hparse]
      · rw [ha, lastSegment?_opaqueText hqueue.ne_nil hslash]
  | @full scheme hscheme host hne hhost virtualHosts hvirtual =>
      have hschemes : ∀ scheme ∈ fullSchemes, scheme.toList ≠ [] ∧
          scheme.toList.all Char.isLower = true ∧ Family.ofScheme scheme.toList ≠ .file := by
        decide +kernel
      obtain ⟨hscheme, hlower, hfamily⟩ := hschemes scheme hscheme
      obtain ⟨path, hpath⟩ : ∃ path : List Char,
          (virtualHosts ++ [queue]).flatMap ('/' :: ·) = '/' :: path := by
        cases virtualHosts with
        | nil => exact ⟨_, rfl⟩
        | cons name virtualHosts => exact ⟨_, rfl⟩
      have hfront : '/' :: path = virtualHosts.flatMap ('/' :: ·) ++ '/' :: queue := by
        rw [← hpath, List.flatMap_append, List.flatMap_singleton]
      rw [hpath] at hchars ⊢
      have hplain : ∀ c ∈ path, isPlainChar c = true :=
        fun c hc => hchars c (List.mem_append_right _ (.tail _ hc))
      have hdots : plainDots queue = queue :=
        plainDots_self fun hc => absurd (hqueue.chars '%' hc) (by decide)
      obtain ⟨segments, hsegments⟩ := readPath_last hfamily hfront
        (fun c hc => isSlash_of_isNameChar _ (hqueue.chars c hc))
        (fun c hc => inPath_of_isNameChar (hqueue.chars c hc))
        (by rw [hdots]; exact hqueue.ne_dot) (by rw [hdots]; exact hqueue.ne_dots)
      obtain ⟨a, hparse, ha⟩ := parse?_full hscheme (List.all_eq_true.mp hlower) hfamily hne hhost hplain hrest
      refine ⟨?_, a, hparse, ?_⟩
      · have hholds : holds "://" (String.ofList
            (scheme.toList ++ "://".toList ++ host ++ '/' :: path ++ rest)) = true := by
          rw [holds, String.toList_ofList]
          simpa using holdsRun_append scheme.toList "://".toList (host ++ '/' :: (path ++ rest))
        rw [isAddress, hholds, Bool.true_or]
      · rw [ha, hsegments, lastSegment?_segments hqueue.ne_nil hslash]

/-- An address with or without a query, and with blanks around it, names the queue. -/
theorem Names.queueName_append (hqueue : IsQueueName queue) (h : Names queue base)
    (hrest : IsQuery rest) {before after : List Char}
    (hbefore : ∀ c ∈ before, isBlank c = true) (hafter : ∀ c ∈ after, isBlank c = true) :
    queueName (String.ofList (before ++ (base ++ rest) ++ after)) = String.ofList queue := by
  have hne : base ≠ [] := by
    cases h with
    | short hscheme => exact List.append_ne_nil_of_right_ne_nil _ hqueue.ne_nil
    | full hscheme hne hhost hvirtual => simp
  have htrim : trim (String.ofList (before ++ (base ++ rest) ++ after)) =
      String.ofList (base ++ (rest ++ after).rdropWhile isBlank) := by
    rw [trim, String.toList_ofList, trimChars_append rest after hne
      (fun c hc => isBlank_of_isPlainChar (h.chars hqueue c hc)) hbefore]
  obtain ⟨haddress, a, hparse, hlast⟩ := h.parse hqueue (hrest.rdropWhile_append hafter)
  simp only [queueName, htrim, haddress, if_true, hparse, Option.bind_some, hlast]

/-- Every spelling of a queue, with blanks around it, names that queue. -/
theorem queueName_of_spells {text before after : List Char} (hqueue : IsQueueName queue)
    (htext : Spells queue text) (hbefore : ∀ c ∈ before, isBlank c = true)
    (hafter : ∀ c ∈ after, isBlank c = true) :
    queueName (String.ofList (before ++ text ++ after)) = String.ofList queue := by
  cases htext with
  | address haddress =>
      have hname := haddress.queueName_append hqueue .none hbefore hafter
      rw [List.append_nil] at hname
      exact hname
  | withQuery haddress query => exact haddress.queueName_append hqueue (.some query) hbefore hafter
  | name hbegins =>
      have hblank : ∀ c ∈ queue, isBlank c = false :=
        fun c hc => isBlank_of_isPlainChar (isPlainChar_of_isNameChar (hqueue.chars c hc))
      have htrim : trim (String.ofList (before ++ queue ++ after)) = String.ofList queue := by
        have hcut := trimChars_append [] after hqueue.ne_nil hblank hbefore
        rw [List.append_nil, List.nil_append, List.rdropWhile_eq_nil_iff.mpr hafter,
          List.append_nil] at hcut
        rw [trim, String.toList_ofList, hcut]
      have hholds : holds "://" (String.ofList queue) = false := by
        rw [holds, Bool.eq_false_iff]
        intro hrun
        have hmem := mem_of_holdsRun (c := '/') hrun (by decide)
        rw [String.toList_ofList] at hmem
        exact absurd (hqueue.chars '/' hmem) (by decide)
      have hshort : shortSchemes.any (beginsWith · (String.ofList queue)) = false := by
        rw [List.any_eq_false]
        intro scheme hscheme hbegin
        rw [beginsWith, String.toList_ofList, List.isPrefixOf_iff_prefix] at hbegin
        exact hbegins scheme hscheme hbegin
      simp only [queueName, htrim, isAddress, hholds, hshort, Bool.or_self]
      rfl

/-- A name with a dot and a colon, behind two virtual hosts and before a query. -/
theorem queueName_of_virtual_host :
    IsQueueName "orders.v2:x".toList ∧
      Spells "orders.v2:x".toList "http://Broker/sales/eu/orders.v2:x?temporary=true".toList ∧
      queueName " http://Broker/sales/eu/orders.v2:x?temporary=true\n" = "orders.v2:x" := by
  have hqueue : IsQueueName "orders.v2:x".toList :=
    ⟨by decide, List.all_eq_true.mp rfl, by decide, by decide⟩
  have hvirtual : ∀ name ∈ ["sales".toList, "eu".toList], ∀ c ∈ name, c.isAlpha = true := by
    rw [List.forall_mem_cons, List.forall_mem_singleton]
    exact ⟨List.all_eq_true.mp rfl, List.all_eq_true.mp rfl⟩
  have haddress : Names "orders.v2:x".toList
      ("http".toList ++ "://".toList ++ "Broker".toList ++
        (["sales".toList, "eu".toList] ++ ["orders.v2:x".toList]).flatMap ('/' :: ·)) :=
    .full (by decide) (by decide) (List.all_eq_true.mp rfl) hvirtual
  have htext : "http://Broker/sales/eu/orders.v2:x?temporary=true".toList =
      ("http".toList ++ "://".toList ++ "Broker".toList ++
        (["sales".toList, "eu".toList] ++ ["orders.v2:x".toList]).flatMap ('/' :: ·)) ++
        '?' :: "temporary=true".toList := by
    decide +kernel
  have hspells : Spells "orders.v2:x".toList
      "http://Broker/sales/eu/orders.v2:x?temporary=true".toList := by
    rw [htext]
    exact .withQuery haddress _
  have hbefore : ∀ c ∈ [' '], isBlank c = true := List.all_eq_true.mp rfl
  have hafter : ∀ c ∈ ['\n'], isBlank c = true := List.all_eq_true.mp rfl
  have hname := queueName_of_spells hqueue hspells hbefore hafter
  have hwhole : String.ofList
      ([' '] ++ "http://Broker/sales/eu/orders.v2:x?temporary=true".toList ++ ['\n']) =
        " http://Broker/sales/eu/orders.v2:x?temporary=true\n" := by
    decide +kernel
  rw [hwhole, String.ofList_toList] at hname
  exact ⟨hqueue, hspells, hname⟩

end Queue

end Url
end FaultRelay
