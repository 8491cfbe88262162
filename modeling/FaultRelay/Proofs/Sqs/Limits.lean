import FaultRelay.Proofs.Fault.ReturnTrip
import FaultRelay.Proofs.Sqs.Codec

/-!
# The limits of SQS on attributes

A message has at most ten attributes, and SQS refuses one that is empty.  Headers that would break
a limit are packed into one attribute; the content type stands beside them in either case.

**Results.**
* `travelApart_iff`: headers travel as one attribute each exactly when that keeps the limits.
* `encodeAttributes_within_limits_iff`: a message keeps the limits unless its content type is empty.
* `empty_content_type_sent`: a retried message with an empty content type does not.
-/

namespace FaultRelay
namespace Sqs

/-! ### Headers within the limits -/

section Limits

variable {headers : Headers} {contentType : Option String} {inBase64 : Bool}

/-- Headers travel as one attribute each exactly when there is room for them and none is empty. -/
theorem travelApart_iff :
    travelApart headers contentType inBase64 = true ↔
      (ownAttributes contentType inBase64).size + headers.size ≤ maxAttributes ∧
        ∀ name : String, headers[name]? ≠ some "" := by
  rw [travelApart, Bool.and_eq_true, decide_eq_true_iff, List.all_eq_true]
  refine and_congr_right fun _ => ?_
  constructor
  · intro h name hempty
    have hmem := Std.ExtTreeMap.mem_toList_iff_getElem?_eq_some.mpr hempty
    simpa using h _ hmem
  · rintro h ⟨name, value⟩ hmem
    have hvalue := Std.ExtTreeMap.mem_toList_iff_getElem?_eq_some.mp hmem
    have hne : value ≠ "" := fun hempty => h name (hempty ▸ hvalue)
    simpa using hne

/-- Packed headers are never empty, since they can be read. -/
theorem packHeaders_ne_empty (headers : Headers) : packHeaders headers ≠ "" := by
  intro hempty
  have hread := unpack?_packHeaders headers
  rw [hempty] at hread
  have hnone : unpack? "" = none := by decide +kernel
  rw [hnone] at hread
  cases hread

/-! ### How many attributes there are -/

theorem size_ownAttributes_le (contentType : Option String) (inBase64 : Bool) :
    (ownAttributes contentType inBase64).size ≤ 2 :=
  Headers.size_write_le ∅ _

theorem size_encodeAttributes_le (headers : Headers) (contentType : Option String)
    (inBase64 : Bool) :
    (encodeAttributes headers contentType inBase64).size ≤ maxAttributes := by
  have hencode : encodeAttributes headers contentType inBase64 =
      if travelApart headers contentType inBase64 then
        (ownAttributes contentType inBase64).overlay headers
      else (ownAttributes contentType inBase64).insert packedHeaders (packHeaders headers) := rfl
  rw [hencode]
  split
  · next hapart =>
      have hroom := (travelApart_iff.mp hapart).1
      exact Nat.le_trans (Headers.size_overlay_le _ headers) hroom
  · have hown := size_ownAttributes_le contentType inBase64
    have hpacked := Std.ExtTreeMap.size_insert_le
      (t := ownAttributes contentType inBase64) (k := packedHeaders) (v := packHeaders headers)
    rw [maxAttributes]
    omega

/-! ### Which attributes are empty -/

theorem getElem?_ownAttributes_eq_empty_iff {name : String} :
    (ownAttributes contentType inBase64)[name]? = some "" ↔
      name = contentTypeAttribute ∧ contentType = some "" := by
  rw [getElem?_ownAttributes]
  by_cases hname : name = contentTypeAttribute
  · simp [hname]
  · have hmark : (some base64Encoding : Option String) ≠ some "" := by decide
    rw [if_neg hname]
    split <;> simp [hname, hmark]

/-- A header that travels apart is not empty, and takes the place of an attribute of its name. -/
theorem empty_attribute_iff_of_travelApart
    (hapart : travelApart headers contentType inBase64 = true) (name : String) :
    (encodeAttributes headers contentType inBase64)[name]? = some "" ↔
      (ownAttributes contentType inBase64)[name]? = some "" ∧ name ∉ headers := by
  have hvalues := (travelApart_iff.mp hapart).2
  rw [getElem?_encodeAttributes, if_pos hapart, Std.ExtTreeMap.mem_iff_isSome_getElem?]
  cases hheader : headers[name]? with
  | none => simp
  | some value =>
      have hne : value ≠ "" := fun hempty => hvalues name (hempty ▸ hheader)
      simp [hne]

/-- Packed headers take the place of no other attribute. -/
theorem empty_attribute_iff_of_packed
    (hpacked : ¬travelApart headers contentType inBase64 = true) (name : String) :
    (encodeAttributes headers contentType inBase64)[name]? = some "" ↔
      (ownAttributes contentType inBase64)[name]? = some "" := by
  rw [getElem?_encodeAttributes, if_neg hpacked]
  by_cases hname : name = packedHeaders
  · have hne : name ≠ contentTypeAttribute := by
      rw [hname]
      decide
    rw [if_pos hname, getElem?_ownAttributes_eq_empty_iff]
    refine iff_of_false ?_ fun h => hne h.1
    simpa using packHeaders_ne_empty headers
  · rw [if_neg hname, Option.none_or]

end Limits

/--
A message has at most ten attributes.  None of them is empty but that of an empty content type,
and that one is empty unless a header of its name takes its place.
-/
theorem encodeAttributes_within_limits_iff (headers : Headers) (contentType : Option String)
    (inBase64 : Bool) :
    let attributes := encodeAttributes headers contentType inBase64
    attributes.size ≤ maxAttributes ∧
      ∀ name : String, attributes[name]? = some "" ↔
        name = contentTypeAttribute ∧ contentType = some "" ∧
          (travelApart headers contentType inBase64 = true → contentTypeAttribute ∉ headers) := by
  intro attributes
  refine ⟨size_encodeAttributes_le headers contentType inBase64, fun name => ?_⟩
  by_cases hapart : travelApart headers contentType inBase64 = true
  · rw [empty_attribute_iff_of_travelApart hapart, getElem?_ownAttributes_eq_empty_iff]
    constructor
    · rintro ⟨⟨rfl, hempty⟩, hnot⟩
      exact ⟨rfl, hempty, fun _ => hnot⟩
    · rintro ⟨rfl, hempty, hnot⟩
      exact ⟨⟨rfl, hempty⟩, hnot hapart⟩
  · rw [empty_attribute_iff_of_packed hapart, getElem?_ownAttributes_eq_empty_iff]
    simp [hapart]

/--
An empty content type is an empty attribute; the headers of a message that is retried may hold
one.
-/
theorem empty_content_type_sent :
    let retried : Received := ⟨"sqs-1", Headers.ofPairs [("NServiceBus.ContentType", ""),
      ("ServiceControl.TargetEndpointAddress", "queue:orders"),
      ("ServiceControl.Retry.AcknowledgementQueue", "Particular.ServiceControl")],
      "\x7b\x7d".toUTF8, "Retry.Return", 0⟩
    (encodeAttributes ∅ (some "") false)[contentTypeAttribute]? = some "" ∧
      ∃ (left : Received) (op : Operation),
        (⟨"error", "Retry.Return", .amazonSqs⟩ : Fault.Adapter).giveBack retried =
          (left, .ok op) ∧
        (encodeAttributes op.headers op.properties[Property.contentType]?
          (encodeBody op.body).2)[contentTypeAttribute]? = some "" := by
  intro retried
  have htarget : retried.headers[Fault.ServiceControl.targetAddress]? = some "queue:orders" := by
    decide
  have hqueue : retried.headers[Fault.ServiceControl.acknowledgementQueue]? =
      some "Particular.ServiceControl" := by
    decide
  obtain ⟨left, hgiven⟩ := Fault.Adapter.giveBack_eq_ok (a := ⟨"error", "Retry.Return", .amazonSqs⟩)
    htarget hqueue
  refine ⟨by decide +kernel, left, _, hgiven, ?_⟩
  decide +kernel

end Sqs
end FaultRelay
