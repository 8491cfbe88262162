import FaultRelay.Proofs.Sqs.Existence
import FaultRelay.Proofs.Sqs.Limits
import FaultRelay.Proofs.Sqs.Requests

/-!
# Messages that cannot be read

A message whose headers or body cannot be read goes to the poison queue with its attributes in the
place of headers and its text in the place of a body.  Nothing is left of the attributes for the
encoder to add, and headers that are within the limits travel as they are.

**Results.**
* `encodeAttributes_eq_self_iff`: attributes are sent as they are exactly when they keep the limits.
* `sending_unread`: what is sent for a message that cannot be read.
* `Consumer.poison_sends_as_received`: the poison queue gets the text and the attributes that were
  received.
-/

namespace FaultRelay
namespace Sqs

open Text

/-- The address, text and attributes of each message that was sent. -/
def sentMessages (asked : List Request) : List (String × String × Headers) :=
  asked.filterMap fun
    | .sendMessage address text attributes => some (address, text, attributes)
    | _ => none

/-! ### Attributes in the place of headers -/

/-- Without a content type, and with a body that is text, there are no other attributes. -/
theorem ownAttributes_none : ownAttributes none false = ∅ := rfl

theorem encodeAttributes_of_travelApart
    {attributes : Headers} (hapart : travelApart attributes none false = true) :
    encodeAttributes attributes none false = attributes := by
  refine Headers.eq_of_getElem? fun name => ?_
  rw [getElem?_encodeAttributes, if_pos hapart, ownAttributes_none, Std.ExtTreeMap.getElem?_empty,
    Option.or_none]

/-- Packed attributes are one attribute that is not empty, which needs no packing. -/
theorem travelApart_of_encodeAttributes_eq
    {attributes : Headers} (heq : encodeAttributes attributes none false = attributes) :
    travelApart attributes none false = true := by
  by_contra hpacked
  have hholds : ∀ name : String, attributes[name]? =
      if name = packedHeaders then some (packHeaders attributes) else none := by
    intro name
    conv_lhs => rw [← heq]
    rw [getElem?_encodeAttributes, if_neg hpacked, ownAttributes_none,
      Std.ExtTreeMap.getElem?_empty, Option.or_none]
  have hone : attributes = (∅ : Headers).insert packedHeaders (packHeaders attributes) := by
    refine Headers.eq_of_getElem? fun name => ?_
    rw [hholds, Headers.getElem?_insert_ite, Std.ExtTreeMap.getElem?_empty]
  have hsize : attributes.size ≤ 1 := by
    rw [hone]
    exact Std.ExtTreeMap.size_insert_le
  refine hpacked (travelApart_iff.mpr ⟨?_, fun name hempty => ?_⟩)
  · rw [ownAttributes_none, Std.ExtTreeMap.size_empty, maxAttributes]
    omega
  · rw [hholds] at hempty
    split at hempty
    · exact packHeaders_ne_empty attributes (Option.some.inj hempty)
    · cases hempty

/-- Attributes are sent as they are exactly when there are at most ten and none is empty. -/
theorem encodeAttributes_eq_self_iff {attributes : Headers} :
    encodeAttributes attributes none false = attributes ↔
      attributes.size ≤ maxAttributes ∧ ∀ name : String, attributes[name]? ≠ some "" := by
  have hapart : travelApart attributes none false = true ↔
      attributes.size ≤ maxAttributes ∧ ∀ name : String, attributes[name]? ≠ some "" := by
    rw [travelApart_iff, ownAttributes_none, Std.ExtTreeMap.size_empty, Nat.zero_add]
  rw [← hapart]
  exact ⟨travelApart_of_encodeAttributes_eq, encodeAttributes_of_travelApart⟩

/-! ### A message that cannot be read -/

/-- A message that cannot be read is kept as it came. -/
theorem eq_of_decodeMessage_eq_error
    {attributes : Headers} {text nativeId address : String} {why : Unreadable} {unread : Received}
    (h : decodeMessage attributes text nativeId address = .error (why, unread)) :
    unread = ⟨nativeId, attributes, text.toUTF8, address, 0⟩ := by
  unfold decodeMessage at h
  split at h
  · cases h
    rfl
  · split at h
    · cases h
      rfl
    · cases h

/-- The octets of a text are sent as that text. -/
theorem encodeBody_toUTF8 (text : String) : encodeBody text.toUTF8 = (text, false) := by
  have hread : Utf8.decode? text.toUTF8.toList = some text := Utf8.decode?_encode text
  rw [encodeBody, hread]

/-- What goes to the poison queue has its identity as its only property, and no content type. -/
theorem sending_unread
    (nativeId : String) (attributes : Headers) (text address : String) (queue url : String) :
    Transport.sending
        ((⟨nativeId, attributes, text.toUTF8, address, 0⟩ : Received).toPoison queue) url =
      .sendMessage url text (encodeAttributes attributes none false) := by
  have hcontent : (Headers.ofPairs [(Property.messageId, nativeId)])[Property.contentType]? =
      none := by
    change ((∅ : Headers).insert Property.messageId nativeId)[Property.contentType]? = none
    rw [Headers.getElem?_insert_ite, if_neg (by decide), Std.ExtTreeMap.getElem?_empty]
  simp only [Transport.sending, Received.toPoison, encodeBody_toUTF8, hcontent]

/-! ### What is sent -/

section Sending

variable {σ : Type}

theorem sentMessages_append (before after : List Request) :
    sentMessages (before ++ after) = sentMessages before ++ sentMessages after :=
  List.filterMap_append

theorem sentMessages_map_sendMessage
    (addresses : List String) (text : String) (attributes : Headers) :
    sentMessages (addresses.map fun address => .sendMessage address text attributes) =
      addresses.map fun address => (address, text, attributes) := by
  rw [sentMessages, List.filterMap_map]
  exact congrFun List.filterMap_eq_map addresses

namespace Transport

variable (t : Transport σ)

/-- Looking for the address of a queue sends no message. -/
theorem sentMessages_address (queue : String) (a : Account σ) :
    sentMessages (t.address queue a).2.asked = sentMessages a.asked := by
  rcases (t.finds_address queue a).asked_eq with hasked | hasked
  · rw [hasked]
  · rw [hasked, sentMessages_append]
    exact List.append_nil _

/-- One operation is sent once, when its queue has an address. -/
theorem asked_dispatch_singleton (op : Operation) (a : Account σ) :
    (t.dispatch [op] a).2.asked = (t.address op.destination a).2.asked ++
      (t.address op.destination a).1.toOption.toList.map (sending op) := by
  rw [dispatch_singleton]
  unfold send
  split
  · next e found hfound => simp [hfound, Except.toOption]
  · next url found hfound =>
      have hasked : (found.ask t.server (sending op url)).2.asked =
          found.asked ++ [sending op url] := rfl
      have hsent : (t.address op.destination a).1.toOption.toList.map (sending op) =
          [sending op url] := by
        rw [hfound]
        rfl
      rw [hsent, hfound]
      split
      · next hanswer => rw [← hasked, hanswer]
      · next hanswer => rw [← hasked, hanswer]

end Transport

namespace Consumer

variable (c : Consumer σ)

/-- What poisoning a message does with the account of the server. -/
theorem broker_poison
    (p : Parcel) (why : Unreadable) (unread : Received) (s : Site (Account σ)) :
    (c.poison p why unread s).2.broker =
      (c.transport.dispatch [unread.toPoison c.settings.errorQueue] s.broker).2 := by
  have hbroker : (s.report [c.unreadableEvent p why]).broker = s.broker := rfl
  unfold poison
  dsimp only
  split
  · next hsent => rw [← hbroker, hsent]
  · next hsent =>
      rw [← hbroker, hsent]
      rfl

/--
A message that cannot be read, with at most ten attributes and none of them empty, is sent to the
poison queue once, with the text and the attributes that were received, unless that queue has no
address.
-/
theorem poison_sends_as_received
    (p : Parcel) (hcount : p.attributes.size ≤ maxAttributes)
    (hvalues : ∀ name value : String, p.attributes[name]? = some value → value ≠ "")
    {why : Unreadable} {unread : Received}
    (hunread : decodeMessage p.attributes p.text p.nativeId c.settings.address =
      .error (why, unread)) (s : Site (Account σ)) :
    let found := (c.transport.address c.settings.errorQueue s.broker).1
    sentMessages (c.poison p why unread s).2.broker.asked =
      sentMessages s.broker.asked ++
        found.toOption.toList.map fun address => (address, p.text, p.attributes) := by
  intro found
  have hself : encodeAttributes p.attributes none false = p.attributes :=
    encodeAttributes_eq_self_iff.mpr ⟨hcount, fun name hempty => hvalues name "" hempty rfl⟩
  have hsending : Transport.sending (unread.toPoison c.settings.errorQueue) =
      fun address => .sendMessage address p.text p.attributes := by
    funext address
    rw [eq_of_decodeMessage_eq_error hunread, sending_unread, hself]
  rw [c.broker_poison, Transport.asked_dispatch_singleton, sentMessages_append,
    Transport.sentMessages_address, hsending, sentMessages_map_sendMessage]
  rfl

end Consumer
end Sending

/-- A message whose packed headers are no record, with all attributes that stand for no header. -/
theorem Consumer.poison_sends_as_received_unpackable :
    let c : Consumer (List String) :=
      { transport := ⟨{}, Server.ofQueues⟩
        settings := ⟨"orders_error", "orders_error", "Retry.Return.poison"⟩
        address := "https://sqs.example/1/orders_error"
        deliver := fun _ s => (.completed, s) }
    let attributes := Headers.ofPairs [("Headers", "not a record"), ("Body-Encoding", "base64"),
      ("Content-Type", "application/json"), ("MT-Reason", "fault")]
    let p : Parcel := ⟨some "receipt-1", "sqs-1", "%%%", attributes⟩
    let unread : Received := ⟨"sqs-1", attributes, "%%%".toUTF8, "orders_error", 0⟩
    let s : Site (Account (List String)) := ⟨{ state := ["Retry.Return.poison"] }, [], ⟨0, 0⟩⟩
    decodeMessage p.attributes p.text p.nativeId c.settings.address = .error (.headers, unread) ∧
      p.attributes.size ≤ maxAttributes ∧
      (∀ name value : String, p.attributes[name]? = some value → value ≠ "") ∧
      sentMessages (c.poison p .headers unread s).2.broker.asked =
        [("https://sqs.example/1/Retry.Return.poison", "%%%", attributes)] := by
  intro c attributes p unread s
  have hunread : decodeMessage p.attributes p.text p.nativeId c.settings.address =
      .error (.headers, unread) := by
    have hheaders : decodeHeaders? attributes = none := by decide +kernel
    rw [decodeMessage, hheaders]
  have hcount : p.attributes.size ≤ maxAttributes := by decide +kernel
  have hvalues : ∀ name value : String, p.attributes[name]? = some value → value ≠ "" := by
    rintro name value hvalue rfl
    have hall : ∀ pair ∈ p.attributes.toList, pair.2 ≠ "" := by decide +kernel
    exact hall (name, "") (Std.ExtTreeMap.mem_toList_iff_getElem?_eq_some.mpr hvalue) rfl
  refine ⟨hunread, hcount, hvalues, ?_⟩
  exact c.poison_sends_as_received p hcount hvalues hunread s

end Sqs
end FaultRelay
