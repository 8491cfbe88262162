import FaultRelay.Proofs.Headers
import FaultRelay.Proofs.Json.ReadBack
import FaultRelay.Proofs.Text.Base64
import FaultRelay.Sqs.Codec

/-!
# Messages over SQS and back

Headers, a body and a content type become attributes and a text, and are read from them.  Three
attributes stand for no header of their own; headers that travel as one attribute each share
their names with these, and packed headers do not.

**Results.**
* `getElem?_encodeAttributes`: what each attribute of a message holds.
* `isSome_takeAll_iff`: attributes are read as headers, in whatever order they are taken over,
  exactly when packed headers among them can be read.
* `decodeBody?_eq_iff`: a text is read as the body that it stands for exactly when it is marked
  as what it is, or is empty.
* `decodeMessage_encode`: a message without headers of the three names is read as it was.
* `reads_as_sent_iff`: which headers make a message be read as something else.
-/

namespace FaultRelay
namespace Sqs

open Text Utf8

/-- The names of the attributes that stand for no header of their own. -/
def reservedNames : List String := [packedHeaders, bodyEncoding, contentTypeAttribute]

/-- Whether headers travel as one attribute each: all of them fit, and none is empty. -/
def travelApart (headers : Headers) (contentType : Option String) (inBase64 : Bool) : Bool :=
  (ownAttributes contentType inBase64).size + headers.size ≤ maxAttributes &&
    headers.toList.all fun (_, v) => !v.isEmpty

/-- The headers that a text holds as one JSON record. -/
def unpack? (text : String) : Option (List (String × String)) := do
  (← Json.read? (encode text)).textRecord?

/-- The headers that attributes stand for, which are taken over in some order. -/
def takeAll (order : List (String × String)) (headers : Headers) : Option Headers :=
  order.foldlM (fun headers (name, value) => takeAttribute headers name value) headers

/-! ### What is written -/

section Writing

variable (headers : Headers) (contentType : Option String) (inBase64 : Bool)

theorem getElem?_ownAttributes (name : String) :
    (ownAttributes contentType inBase64)[name]? =
      if name = contentTypeAttribute then contentType
      else if name = bodyEncoding ∧ inBase64 = true then some base64Encoding
      else none := by
  have hnodup : ([(contentTypeAttribute, contentType),
      (bodyEncoding, if inBase64 then some base64Encoding else none)].map Prod.fst).Nodup := by
    simp only [List.map_cons, List.map_nil]
    decide
  rw [ownAttributes, Headers.getElem?_write hnodup]
  by_cases hcontent : name = contentTypeAttribute
  · simp [hcontent]
  · have hcontent' : (name == contentTypeAttribute) = false := by simpa using hcontent
    rw [List.lookup_cons, hcontent', if_neg hcontent]
    by_cases hbody : name = bodyEncoding
    · cases inBase64 <;> simp [hbody]
    · have hbody' : (name == bodyEncoding) = false := by simpa using hbody
      simp [List.lookup_cons, hbody, hbody']

theorem getElem?_ownAttributes_of_notMem {name : String} (hname : name ∉ reservedNames) :
    (ownAttributes contentType inBase64)[name]? = none := by
  simp only [reservedNames, List.mem_cons, List.not_mem_nil, or_false, not_or] at hname
  rw [getElem?_ownAttributes, if_neg hname.2.2, if_neg fun h => hname.2.1 h.1]

/-- A body is marked as what it is. -/
theorem getElem?_ownAttributes_bodyEncoding :
    (ownAttributes contentType inBase64)[bodyEncoding]? = some base64Encoding ↔
      inBase64 = true := by
  rw [getElem?_ownAttributes, if_neg (by decide)]
  cases inBase64 <;> simp

/-- A header that travels apart takes the place of an attribute of its name. -/
theorem getElem?_encodeAttributes (name : String) :
    (encodeAttributes headers contentType inBase64)[name]? =
      (if travelApart headers contentType inBase64 then headers[name]?
        else if name = packedHeaders then some (packHeaders headers)
        else none).or (ownAttributes contentType inBase64)[name]? := by
  have hencode : encodeAttributes headers contentType inBase64 =
      if travelApart headers contentType inBase64 then
        (ownAttributes contentType inBase64).overlay headers
      else (ownAttributes contentType inBase64).insert packedHeaders (packHeaders headers) := rfl
  rw [hencode]
  split
  · exact Headers.getElem?_overlay _ headers name
  · rw [Headers.getElem?_insert_ite]
    split
    · rfl
    · rfl

/-- Only headers that travel apart decide what the reserved attributes hold. -/
theorem getElem?_encodeAttributes_reserved {name : String} (hname : name ≠ packedHeaders) :
    (encodeAttributes headers contentType inBase64)[name]? =
      (if travelApart headers contentType inBase64 then headers[name]? else none).or
        (ownAttributes contentType inBase64)[name]? := by
  rw [getElem?_encodeAttributes, if_neg hname]

theorem getElem?_encodeAttributes_packed :
    (encodeAttributes headers contentType inBase64)[packedHeaders]? =
      if travelApart headers contentType inBase64 then headers[packedHeaders]?
      else some (packHeaders headers) := by
  have hnone : (ownAttributes contentType inBase64)[packedHeaders]? = none := by
    rw [getElem?_ownAttributes, if_neg (by decide), if_neg fun h => absurd h.1 (by decide)]
  rw [getElem?_encodeAttributes, hnone, Option.or_none, if_pos rfl]

end Writing

theorem textRecord?_node (pairs : List (String × String)) :
    (Json.Value.record (pairs.map fun p => (p.1, .text p.2))).node.textRecord? = some pairs := by
  rw [Json.Value.node, Json.Node.textRecord?]
  induction pairs with
  | nil => rfl
  | cons p rest ih =>
      rw [List.map_cons, Json.memberNodes, List.mapM_cons, ih]
      simp only [Json.Value.node, Json.Node.text?, Json.unquote?_quotedSource, Option.bind_eq_bind,
        Option.bind_some, Option.pure_def]

/-- Packed headers are read as they are. -/
theorem unpack?_packHeaders (headers : Headers) :
    unpack? (packHeaders headers) = some headers.toList := by
  rw [unpack?, packHeaders, Json.read?_render]
  exact textRecord?_node headers.toList

/-! ### What is read -/

section Reading

variable {order : List (String × String)}

theorem takeAll_cons (p : String × String) (headers : Headers) :
    takeAll (p :: order) headers = (takeAttribute headers p.1 p.2).bind (takeAll order) :=
  rfl

theorem takeAll_append (before after : List (String × String)) (headers : Headers) :
    takeAll (before ++ after) headers = (takeAll before headers).bind (takeAll after) :=
  List.foldlM_append

theorem takeAttribute_packed (headers : Headers) (value : String) :
    takeAttribute headers packedHeaders value =
      (unpack? value).map fun packed => headers.overlay (Headers.ofPairs packed) := by
  rw [takeAttribute, if_pos rfl, unpack?]
  cases Json.read? (encode value) with
  | none => rfl
  | some node => cases hnode : node.textRecord? <;> simp [hnode]

theorem takeAttribute_own
    {name : String} (hname : name = bodyEncoding ∨ name = contentTypeAttribute)
    (headers : Headers) (value : String) : takeAttribute headers name value = some headers := by
  have hne : name ≠ packedHeaders := by
    rcases hname with rfl | rfl <;> decide
  rw [takeAttribute, if_neg hne, if_pos hname]

theorem takeAttribute_header
    {name : String} (hname : name ∉ reservedNames) (headers : Headers) (value : String) :
    takeAttribute headers name value = some (headers.insert name value) := by
  simp only [reservedNames, List.mem_cons, List.not_mem_nil, or_false, not_or] at hname
  rw [takeAttribute, if_neg hname.1, if_neg (not_or.mpr hname.2)]

/-- Attributes are read as headers exactly when packed headers among them can be. -/
theorem isSome_takeAll_iff (order : List (String × String)) (headers : Headers) :
    (takeAll order headers).isSome = true ↔
      ∀ value : String, (packedHeaders, value) ∈ order → (unpack? value).isSome = true := by
  induction order generalizing headers with
  | nil => simp [takeAll]
  | cons p rest ih =>
      obtain ⟨name, value⟩ := p
      rw [takeAll_cons]
      by_cases hpacked : name = packedHeaders
      · subst hpacked
        rw [takeAttribute_packed]
        cases hunpack : unpack? value with
        | none =>
            have hfails : ¬∀ v : String, (packedHeaders, v) ∈ (packedHeaders, value) :: rest →
                (unpack? v).isSome = true := by
              intro hall
              have hsome := hall value List.mem_cons_self
              rw [hunpack] at hsome
              cases hsome
            exact iff_of_false (by simp) hfails
        | some packed => simp [ih, hunpack]
      · have hne : ∀ v : String, (packedHeaders, v) ≠ (name, value) :=
          fun v heq => hpacked (congrArg Prod.fst heq).symm
        have htake : ∃ headers', takeAttribute headers name value = some headers' := by
          rw [takeAttribute, if_neg hpacked]
          split
          · exact ⟨_, rfl⟩
          · exact ⟨_, rfl⟩
        obtain ⟨headers', htake⟩ := htake
        simp [htake, ih, hne]

/-- Attributes that pack no headers are taken over one by one, the reserved ones apart. -/
theorem takeAll_eq_write
    (hpacked : ∀ p ∈ order, p.1 ≠ packedHeaders) (headers : Headers) :
    takeAll order headers = some (headers.write (order.map fun p =>
      (p.1, if p.1 ∈ reservedNames then none else some p.2))) := by
  induction order generalizing headers with
  | nil => rfl
  | cons p rest ih =>
      have hrest := ih fun q hq => hpacked q (List.mem_cons_of_mem _ hq)
      rw [takeAll_cons, List.map_cons]
      by_cases hname : p.1 ∈ reservedNames
      · have hown : p.1 = bodyEncoding ∨ p.1 = contentTypeAttribute := by
          simpa [reservedNames, hpacked p List.mem_cons_self] using hname
        rw [takeAttribute_own hown, if_pos hname]
        exact hrest headers
      · rw [takeAttribute_header hname, if_neg hname]
        exact hrest (headers.insert p.1 p.2)

theorem takeAll_reserved
    (hreserved : ∀ p ∈ order, p.1 ∈ reservedNames) (hpacked : packedHeaders ∉ order.map Prod.fst)
    (headers : Headers) : takeAll order headers = some headers := by
  induction order with
  | nil => rfl
  | cons p rest ih =>
      rw [List.map_cons, List.mem_cons, not_or] at hpacked
      have hname := hreserved p List.mem_cons_self
      have hown : p.1 = bodyEncoding ∨ p.1 = contentTypeAttribute := by
        simpa [reservedNames, Ne.symm hpacked.1] using hname
      rw [takeAll_cons, takeAttribute_own hown]
      exact ih (fun q hq => hreserved q (List.mem_cons_of_mem _ hq)) hpacked.2

/-- When all other attributes are reserved ones, the packed headers are all that is read. -/
theorem takeAll_packed
    {value : String} (hnodup : (order.map Prod.fst).Nodup) (hmem : (packedHeaders, value) ∈ order)
    (hreserved : ∀ p ∈ order, p.1 ∈ reservedNames) (headers : Headers) :
    takeAll order headers =
      (unpack? value).map fun packed => headers.overlay (Headers.ofPairs packed) := by
  obtain ⟨before, after, rfl⟩ := List.append_of_mem hmem
  rw [List.map_append, List.map_cons, List.nodup_append, List.nodup_cons] at hnodup
  obtain ⟨-, ⟨hafter, -⟩, hdisjoint⟩ := hnodup
  have hbefore : packedHeaders ∉ before.map Prod.fst :=
    fun h => hdisjoint _ h _ List.mem_cons_self rfl
  have hskipBefore : takeAll before headers = some headers :=
    takeAll_reserved (fun p hp => hreserved p (List.mem_append_left _ hp)) hbefore headers
  have hskipAfter : ∀ headers : Headers, takeAll after headers = some headers :=
    takeAll_reserved
      (fun p hp => hreserved p (List.mem_append_right _ (List.mem_cons_of_mem _ hp))) hafter
  rw [takeAll_append, hskipBefore, Option.bind_some, takeAll_cons, takeAttribute_packed]
  cases unpack? value with
  | none => rfl
  | some packed => exact hskipAfter _

/-- Reserved attributes stand for no headers but the packed ones. -/
theorem isSome_decodeHeaders?_iff (attributes : Headers) :
    (decodeHeaders? attributes).isSome = true ↔
      ∀ value : String, attributes[packedHeaders]? = some value →
        (unpack? value).isSome = true := by
  have hdecode : decodeHeaders? attributes = takeAll attributes.toList ∅ := rfl
  rw [hdecode, isSome_takeAll_iff]
  simp only [Std.ExtTreeMap.mem_toList_iff_getElem?_eq_some]

end Reading

/-! ### Headers -/

section Headers

variable {headers : Headers} {order : List (String × String)}

/-- Headers of other names are read from attributes that are taken over in any order. -/
theorem takeAll_encodeAttributes
    (hnames : ∀ name ∈ reservedNames, name ∉ headers) (contentType : Option String)
    (inBase64 : Bool)
    (horder : order.Perm (encodeAttributes headers contentType inBase64).toList) :
    takeAll order ∅ = some headers := by
  have hholds : ∀ p ∈ order,
      (encodeAttributes headers contentType inBase64)[p.1]? = some p.2 := by
    intro p hp
    exact Std.ExtTreeMap.mem_toList_iff_getElem?_eq_some.mp (horder.mem_iff.mp hp)
  have hnone : ∀ name ∈ reservedNames, headers[name]? = none :=
    fun name hname => Std.ExtTreeMap.getElem?_eq_none (hnames name hname)
  have hown : ∀ name ∉ reservedNames, (encodeAttributes headers contentType inBase64)[name]? =
      if travelApart headers contentType inBase64 then headers[name]? else none := by
    intro name hname
    have hne : name ≠ packedHeaders := fun heq => hname (by rw [heq]; decide)
    rw [getElem?_encodeAttributes_reserved _ _ _ hne, getElem?_ownAttributes_of_notMem _ _ hname,
      Option.or_none]
  have hnodup : (order.map Prod.fst).Nodup :=
    (horder.map Prod.fst).nodup_iff.mpr (Headers.nodup_names _)
  cases hapart : travelApart headers contentType inBase64 with
  | true =>
      have hpacked : ∀ p ∈ order, p.1 ≠ packedHeaders := by
        intro p hp heq
        have hp := hholds p hp
        rw [heq, getElem?_encodeAttributes_packed, if_pos hapart, hnone _ (by decide)] at hp
        cases hp
      rw [takeAll_eq_write hpacked]
      refine congrArg some (Headers.eq_of_getElem? fun name => ?_)
      rw [Headers.getElem?_write (by simpa [Function.comp_def] using hnodup),
        Headers.lookup_map _ fun name value => if name ∈ reservedNames then none else some value,
        Headers.lookup_of_perm horder]
      by_cases hname : name ∈ reservedNames
      · simp [hname, hnone name hname]
      · simp [hname, hown name hname, hapart]
  | false =>
      have hmem : (packedHeaders, packHeaders headers) ∈ order := by
        rw [horder.mem_iff, Std.ExtTreeMap.mem_toList_iff_getElem?_eq_some,
          getElem?_encodeAttributes_packed, hapart]
        rfl
      have hreserved : ∀ p ∈ order, p.1 ∈ reservedNames := by
        intro p hp
        by_contra hname
        have hp := hholds p hp
        rw [hown _ hname, hapart] at hp
        cases hp
      have hpairs : Headers.ofPairs headers.toList = headers := Headers.overlay_empty headers
      rw [takeAll_packed hnodup hmem hreserved, unpack?_packHeaders, Option.map_some, hpairs,
        Headers.overlay_empty]

end Headers

/-! ### Bodies -/

/-- A text in base 64 has more octets than it stands for, unless it is empty. -/
theorem eq_empty_of_decode?
    {text : String} {body : ByteArray} (htext : text.toUTF8 = body)
    (h : Base64.decode? text = some body.toList) : body = ByteArray.empty := by
  have hletters : 4 * body.toList.length ≤ 3 * text.toList.length :=
    Base64.length_of_decodeChars? h
  have hchars : text.toList.length ≤ body.toList.length := by
    rw [← htext]
    change _ ≤ (encode text).length
    rw [encode_eq]
    exact length_le_octets text.toList
  have hnil : body.toList = [] := List.eq_nil_of_length_eq_zero (by omega)
  rw [← ofList_toList body, hnil]
  rfl

/--
A text is read as the body that it stands for exactly when it is marked as what it is, or is
empty.
-/
theorem decodeBody?_eq_iff (body : ByteArray) (attributes : Headers) :
    decodeBody? (encodeBody body).1 attributes = some body ↔
      (attributes[bodyEncoding]? = some base64Encoding ↔ (encodeBody body).2 = true) ∨
        body = ByteArray.empty := by
  have hempty : decode? ByteArray.empty.toList = some "" := decode?_encode ""
  cases hread : decode? body.toList with
  | some text =>
      have hencode : encodeBody body = (text, false) := by rw [encodeBody, hread]
      have htext : text.toUTF8 = body := toUTF8_of_decode? hread
      by_cases hmarked : attributes[bodyEncoding]? = some base64Encoding
      · rw [hencode, decodeBody?, if_pos hmarked]
        constructor
        · intro h
          obtain ⟨out, hout, rfl⟩ := Option.map_eq_some_iff.mp h
          have hlist : (⟨out.toArray⟩ : ByteArray).toList = out := by rw [toList_eq_data]
          exact Or.inr (eq_empty_of_decode? htext (by rw [hlist, hout]))
        · rintro (h | rfl)
          · exact absurd (h.mp hmarked) Bool.false_ne_true
          · rw [hread, Option.some.injEq] at hempty
            subst hempty
            rfl
      · rw [hencode, decodeBody?, if_neg hmarked, htext]
        exact iff_of_true rfl (Or.inl (iff_of_false hmarked Bool.false_ne_true))
  | none =>
      have hencode : encodeBody body = (Base64.encode body.toList, true) := by
        rw [encodeBody, hread]
      by_cases hmarked : attributes[bodyEncoding]? = some base64Encoding
      · rw [hencode, decodeBody?, if_pos hmarked, Base64.decode?_encode, Option.map_some,
          ofList_toList]
        exact iff_of_true rfl (Or.inl (iff_of_true hmarked rfl))
      · rw [hencode, decodeBody?, if_neg hmarked]
        constructor
        · intro h
          -- the octets of a text are a text again, and those of the body are none
          have hbytes : (Base64.encode body.toList).toUTF8 = body := Option.some.inj h
          have hletters := decode?_encode (Base64.encode body.toList)
          rw [encode, hbytes, hread] at hletters
          cases hletters
        · rintro (h | rfl)
          · exact absurd (h.mpr rfl) hmarked
          · rw [hread] at hempty
            cases hempty

/-! ### Messages -/

/--
A message without headers of the reserved names is read as it was: its headers, in whatever
order its attributes are taken over, and the octets of its body.
-/
theorem decodeMessage_encode
    (headers : Headers) (hnames : ∀ name ∈ reservedNames, name ∉ headers) (body : ByteArray)
    (contentType : Option String) (nativeId address : String) :
    let text := (encodeBody body).1
    let attributes := encodeAttributes headers contentType (encodeBody body).2
    decodeMessage attributes text nativeId address = .ok ⟨nativeId, headers, body, address, 0⟩ ∧
      ∀ order : List (String × String), order.Perm attributes.toList →
        takeAll order ∅ = some headers := by
  intro text attributes
  have hheaders : ∀ order : List (String × String), order.Perm attributes.toList →
      takeAll order ∅ = some headers :=
    fun order horder => takeAll_encodeAttributes hnames contentType _ horder
  have hdecode : decodeHeaders? attributes = some headers := hheaders _ (List.Perm.refl _)
  have hmark : attributes[bodyEncoding]? = some base64Encoding ↔ (encodeBody body).2 = true := by
    have hnone : headers[bodyEncoding]? = none :=
      Std.ExtTreeMap.getElem?_eq_none (hnames _ (by decide))
    rw [getElem?_encodeAttributes_reserved _ _ _ (by decide), hnone, ite_self, Option.none_or]
    exact getElem?_ownAttributes_bodyEncoding contentType _
  have hbody : decodeBody? text attributes = some body :=
    (decodeBody?_eq_iff body attributes).mpr (Or.inl hmark)
  refine ⟨?_, hheaders⟩
  rw [decodeMessage, hdecode, hbody]

/-- A body that is no text, with headers that have to be packed because one is empty. -/
theorem decodeMessage_encode_packed :
    let headers := Headers.ofPairs [("MT-Reason", "fault"), ("MT-Fault-StackTrace", "")]
    let body : ByteArray := ⟨#[0xFF, 0x00, 0x7F]⟩
    (∀ name ∈ reservedNames, name ∉ headers) ∧
      encodeBody body = ("/wB/", true) ∧
      travelApart headers none true = false ∧
      decodeMessage (encodeAttributes headers none (encodeBody body).2) (encodeBody body).1
        "sqs-1" "orders_error" = .ok ⟨"sqs-1", headers, body, "orders_error", 0⟩ := by
  intro headers body
  have hnames : ∀ name ∈ reservedNames, name ∉ headers := by decide +kernel
  refine ⟨hnames, by decide +kernel, by decide +kernel, ?_⟩
  exact (decodeMessage_encode headers hnames body none "sqs-1" "orders_error").1

/-- What holds of an attribute of its own holds of what takes its place if it holds of that. -/
theorem holds_or_iff
    {P : Option String → Prop} {own : Option String} (hown : P own) (apart : Bool)
    (header : Option String) :
    P ((if apart then header else none).or own) ↔
      (apart = true → ∀ value : String, header = some value → P (some value)) := by
  cases apart <;> cases header <;> simp [hown]

/--
A message is read as something else only when its headers travel apart and one of them has a
reserved name: the name of the content type without giving the content type, the name that marks
the body while the body is something else, or the name of packed headers without holding any.
-/
theorem reads_as_sent_iff
    (headers : Headers) (body : ByteArray) (contentType : Option String) :
    let text := (encodeBody body).1
    let inBase64 := (encodeBody body).2
    let attributes := encodeAttributes headers contentType inBase64
    let apart := travelApart headers contentType inBase64 = true
    (attributes[contentTypeAttribute]? = contentType ↔
      (apart → ∀ value : String, headers[contentTypeAttribute]? = some value →
        some value = contentType)) ∧
    (decodeBody? text attributes = some body ↔
      (apart → ∀ value : String, headers[bodyEncoding]? = some value →
        (value = base64Encoding ↔ inBase64 = true) ∨ body = ByteArray.empty)) ∧
    ((decodeHeaders? attributes).isSome = true ↔
      (apart → ∀ value : String, headers[packedHeaders]? = some value →
        (unpack? value).isSome = true)) := by
  intro text inBase64 attributes apart
  refine ⟨?_, ?_, ?_⟩
  · have hown : (ownAttributes contentType inBase64)[contentTypeAttribute]? = contentType := by
      rw [getElem?_ownAttributes, if_pos rfl]
    rw [getElem?_encodeAttributes_reserved _ _ _ (by decide)]
    exact holds_or_iff (P := fun held => held = contentType) hown _ _
  · have hown := getElem?_ownAttributes_bodyEncoding contentType inBase64
    rw [decodeBody?_eq_iff, getElem?_encodeAttributes_reserved _ _ _ (by decide),
      holds_or_iff (P := fun held => (held = some base64Encoding ↔ inBase64 = true) ∨
        body = ByteArray.empty) (Or.inl hown)]
    simp only [Option.some.injEq]
    rfl
  · rw [isSome_decodeHeaders?_iff, getElem?_encodeAttributes_packed]
    by_cases hapart : travelApart headers contentType inBase64 = true
    · rw [if_pos hapart]
      exact ⟨fun h _ => h, fun h => h hapart⟩
    · rw [if_neg hapart]
      refine iff_of_true ?_ fun h => absurd h hapart
      intro value hvalue
      rw [← Option.some.inj hvalue, unpack?_packHeaders]
      rfl

/--
Headers of the reserved names: the content type is lost, and neither the body nor the headers can
be read.
-/
theorem headers_taken_for_attributes :
    let headers := Headers.ofPairs
      [("Content-Type", "text/plain"), ("Body-Encoding", "base64"), ("Headers", "fault")]
    let body := "\x7b\"orderId\":42\x7d".toUTF8
    let text := (encodeBody body).1
    let attributes := encodeAttributes headers (some "application/json") (encodeBody body).2
    attributes[contentTypeAttribute]? = some "text/plain" ∧
      decodeBody? text attributes = none ∧
      decodeHeaders? attributes = none := by
  decide +kernel

end Sqs
end FaultRelay
